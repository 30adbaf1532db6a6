import DocLoad.Number.Double

/-!
# DocLoad.Proofs.Number.Exact — integers that fit into a significand

A natural number below `2 ^ 53` has at most 53 bits, so nothing is rounded away when it becomes a
binary64 number: its code consists of its binade and its bits behind the leading one
(`nearestCode_of_lt`).  Both can be read back from the code, so such integers stay apart
(`eq_of_numEq_ofInt`).
-/

namespace DocLoad.Double

/-- A quotient without remainder is not rounded. -/
theorem roundDiv_mul (q : Nat) {den : Nat} (hden : 0 < den) : roundDiv (q * den) den = q := by
  have hdiv : q * den / den = q := Nat.mul_div_cancel q hden
  have hmod : q * den % den = 0 := Nat.mul_mod_left q den
  rw [roundDiv, hdiv, hmod]
  simp only [Nat.mul_zero, Nat.not_lt_zero, false_or]
  rw [if_neg (by omega)]

section

variable {n m : Nat}

/-- Moving a number to the left by some bits makes it as many bits longer. -/
theorem log2_shiftLeft (hn : n ≠ 0) (k : Nat) : (n <<< k).log2 = n.log2 + k := by
  have hpos : n * 2 ^ k ≠ 0 := Nat.mul_ne_zero hn (Nat.ne_of_gt (Nat.two_pow_pos k))
  rw [Nat.shiftLeft_eq, Nat.log2_eq_iff hpos]
  constructor
  · rw [Nat.pow_add]
    exact Nat.mul_le_mul_right _ (Nat.log2_self_le hn)
  · rw [show n.log2 + k + 1 = n.log2 + 1 + k by omega, Nat.pow_add]
    exact Nat.mul_lt_mul_of_pos_right Nat.lt_log2_self (Nat.two_pow_pos k)

/-- The bits of a number, moved to the width of a significand. -/
def significand (n : Nat) : Nat :=
  n <<< (52 - n.log2)

/-- The significand of a positive number below 2^53 has 53 bits. -/
theorem significand_bounds (hn : n ≠ 0) (hlt : n < Nat.pow 2 53) :
    Nat.pow 2 52 ≤ significand n ∧ significand n < Nat.pow 2 53 := by
  have hlog : n.log2 < 53 := (Nat.log2_lt hn).mpr hlt
  have hwidth : (significand n).log2 = 52 := by
    rw [significand, log2_shiftLeft hn]
    omega
  have hpos : significand n ≠ 0 := by
    intro hzero
    rw [hzero] at hwidth
    cases hwidth
  exact (Nat.log2_eq_iff hpos).mp hwidth

/-- In units of `2 ^ -1074` a number that fits is its significand, moved by its binade. -/
theorem shiftLeft_eq_significand (hlog : n.log2 < 53) :
    n <<< 1074 = significand n <<< (n.log2 + 1022) := by
  have hwidth : 52 - n.log2 + (n.log2 + 1022) = 1074 := by omega
  rw [significand, ← Nat.shiftLeft_add, hwidth]

/-- The code of a number that fits: the binade counts from `2 ^ -1022`, and the leading bit of the
significand makes one more of it. -/
theorem nearestCode_of_lt (hn : n ≠ 0) (hlt : n < Nat.pow 2 53) :
    nearestCode n 1 = (n.log2 + 1022) * Nat.pow 2 52 + significand n := by
  have hlog : n.log2 < 53 := (Nat.log2_lt hn).mpr hlt
  have hbinade : (n <<< 1074 / 1).log2 - 52 = n.log2 + 1022 := by
    rw [Nat.div_one, log2_shiftLeft hn]
    omega
  have hround : roundDiv (n <<< 1074) (1 <<< (n.log2 + 1022)) = significand n := by
    rw [shiftLeft_eq_significand hlog, Nat.shiftLeft_eq, Nat.one_shiftLeft]
    exact roundDiv_mul _ (Nat.two_pow_pos _)
  have hfinite : (n.log2 + 1022) * Nat.pow 2 52 + significand n ≤ infinityCode := by
    have hhigh := (significand_bounds hn hlt).2
    rw [infinityCode]
    simp only [Nat.pow_eq] at hhigh ⊢
    omega
  rw [nearestCode, hbinade, hround, Nat.min_eq_right hfinite]

theorem nearestCode_zero : nearestCode 0 1 = 0 := by decide +kernel

/-- Different numbers below 2^53 have different codes, since no bit of theirs is cut off. -/
theorem nearestCode_injective (hn : n < Nat.pow 2 53) (hm : m < Nat.pow 2 53)
    (h : nearestCode n 1 = nearestCode m 1) : n = m := by
  have hpositive : ∀ k : Nat, k ≠ 0 → k < Nat.pow 2 53 → nearestCode k 1 ≠ 0 := by
    intro k hk hlt
    have hlow := (significand_bounds hk hlt).1
    rw [nearestCode_of_lt hk hlt]
    simp only [Nat.pow_eq] at hlow ⊢
    omega
  by_cases hm0 : m = 0
  · subst hm0
    rw [nearestCode_zero] at h
    exact Decidable.byContradiction fun hn0 => hpositive n hn0 hn h
  by_cases hn0 : n = 0
  · subst hn0
    rw [nearestCode_zero] at h
    exact absurd h.symm (hpositive m hm0 hm)
  -- the significands are as wide as a binade, so the binades are the same
  have hboundsN := significand_bounds hn0 hn
  have hboundsM := significand_bounds hm0 hm
  rw [nearestCode_of_lt hn0 hn, nearestCode_of_lt hm0 hm] at h
  have hlog : n.log2 = m.log2 := by
    simp only [Nat.pow_eq] at h hboundsN hboundsM
    omega
  rw [hlog] at h
  have hsignificand : significand n = significand m := Nat.add_left_cancel h
  rw [significand, significand, hlog, Nat.shiftLeft_eq, Nat.shiftLeft_eq] at hsignificand
  exact Nat.mul_right_cancel (Nat.two_pow_pos _) hsignificand

end

/-- Integers of at most 53 bits that become equal numbers are equal. -/
theorem eq_of_numEq_ofInt {a b : Int} (ha : a.natAbs < Nat.pow 2 53) (hb : b.natAbs < Nat.pow 2 53)
    (h : (ofInt a).numEq (ofInt b) = true) : a = b := by
  simp only [numEq, ofInt, ofRatio, Bool.and_eq_true, Bool.or_eq_true, beq_iff_eq,
    decide_eq_decide] at h
  obtain ⟨⟨-, hcode⟩, hsign⟩ := h
  have habs : a.natAbs = b.natAbs := nearestCode_injective ha hb hcode
  rcases hsign with hsign | hzero
  · omega
  · have ha0 : a.natAbs = 0 :=
      nearestCode_injective ha (by decide) (hzero.trans nearestCode_zero.symm)
    omega

end DocLoad.Double
