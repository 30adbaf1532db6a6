import DocLoad.Proofs.Number.Exact
import Mathlib.Algebra.Order.Ring.Rat
import Mathlib.Data.Int.Cast.Lemmas
import Mathlib.Order.Monotone.Basic
import Mathlib.Tactic.FieldSimp
import Mathlib.Tactic.Linarith
import Mathlib.Tactic.Positivity
import Mathlib.Tactic.Ring

/-!
# DocLoad.Proofs.Number.Rounding — integers become the nearest binary64 numbers

A finite number is a whole number of units of `2 ^ -1074`, with its sign (`units`), and so a
rational number (`toRat`).  It is nearest to a rational number when no finite number is closer, and
when its code is even if another one is as close (`IsNearest`).

* `unitsOf_strictMono` — codes and their magnitudes are in the same order, so what lies between two
  neighbouring magnitudes is rounded to one of them;
* `isNearest_ofInt` — the double that an integer becomes is nearest to it, and
  `IsNearest.toRat_eq` — no other number is;
* `toRat_ofInt_of_represented` — so an integer that is the value of some double is not changed.

Distances are compared in units, where they are integers.
-/

namespace DocLoad.Double

/-! ## Magnitudes in order -/

/-- The magnitude of a code with `k` binades in front and the significand `r`, whose leading bit
counts.  The significand `2 ^ 53` is the first one of the next binade. -/
theorem unitsOf_binade {r : Nat} (k : Nat) (hlow : 2 ^ 52 ≤ r) (hhigh : r ≤ 2 ^ 53) :
    unitsOf (k * 2 ^ 52 + r) = r * 2 ^ k := by
  unfold unitsOf
  simp only [Nat.pow_eq]
  rcases Nat.lt_or_eq_of_le hhigh with hlt | rfl
  · have hexponent : (k * 2 ^ 52 + r) / 2 ^ 52 = k + 1 := by omega
    have hfraction : 2 ^ 52 + (k * 2 ^ 52 + r) % 2 ^ 52 = r := by omega
    rw [hexponent, hfraction, if_neg (Nat.succ_ne_zero k), Nat.shiftLeft_eq, Nat.add_sub_cancel]
  · have hexponent : (k * 2 ^ 52 + 2 ^ 53) / 2 ^ 52 = k + 2 := by omega
    have hfraction : 2 ^ 52 + (k * 2 ^ 52 + 2 ^ 53) % 2 ^ 52 = 2 ^ 52 := by omega
    rw [hexponent, hfraction, if_neg (Nat.succ_ne_zero (k + 1)), Nat.shiftLeft_eq]
    have hpow : 2 ^ (k + 2 - 1) = 2 * 2 ^ k := by
      rw [show k + 2 - 1 = k + 1 by omega, Nat.pow_succ, Nat.mul_comm]
    rw [hpow, ← Nat.mul_assoc, ← Nat.pow_succ]

/-- Without the leading bit a code is its own magnitude. -/
theorem unitsOf_of_lt {c : Nat} (h : c < 2 ^ 52) : unitsOf c = c := by
  unfold unitsOf
  simp only [Nat.pow_eq]
  rw [if_pos (Nat.div_eq_of_lt h), Nat.mod_eq_of_lt h]

/-- The next code has a larger magnitude, also where the exponent changes. -/
theorem unitsOf_lt_succ (c : Nat) : unitsOf c < unitsOf (c + 1) := by
  rcases Nat.lt_or_ge c (2 ^ 52) with hlt | hge
  · rw [unitsOf_of_lt hlt]
    rcases Nat.lt_or_ge (c + 1) (2 ^ 52) with hlt' | hge'
    · rw [unitsOf_of_lt hlt']
      omega
    · -- the next code is the first one with a leading bit
      have hnext : c + 1 = 0 * 2 ^ 52 + 2 ^ 52 := by omega
      rw [hnext, unitsOf_binade 0 (by omega) (by omega)]
      omega
  · -- both codes belong to one binade, where the next one has the next significand
    have hcode : c = (c / 2 ^ 52 - 1) * 2 ^ 52 + (2 ^ 52 + c % 2 ^ 52) := by omega
    have hnext : c + 1 = (c / 2 ^ 52 - 1) * 2 ^ 52 + (2 ^ 52 + c % 2 ^ 52 + 1) := by omega
    have hthis : unitsOf c = (2 ^ 52 + c % 2 ^ 52) * 2 ^ (c / 2 ^ 52 - 1) := by
      conv => lhs; rw [hcode]
      exact unitsOf_binade _ (by omega) (by omega)
    rw [hthis, hnext, unitsOf_binade _ (by omega) (by omega)]
    exact Nat.mul_lt_mul_of_pos_right (Nat.lt_succ_self _) (Nat.two_pow_pos _)

theorem unitsOf_strictMono : StrictMono unitsOf :=
  strictMono_nat_of_lt_succ unitsOf_lt_succ

theorem unitsOf_inj {c d : Nat} : unitsOf c = unitsOf d ↔ c = d :=
  unitsOf_strictMono.injective.eq_iff

theorem unitsOf_zero : unitsOf 0 = 0 :=
  unitsOf_of_lt (by decide)

theorem unitsOf_eq_zero_iff {c : Nat} : unitsOf c = 0 ↔ c = 0 := by
  rw [← unitsOf_inj (c := c), unitsOf_zero]

/-! ## The nearest magnitude -/

/-- How far a number of units is from the magnitude of a code. -/
def distance (units code : Nat) : Nat :=
  ((units : Int) - unitsOf code).natAbs

/-- A code whose magnitude is nearest to a number of units; of two that are as near, the even
one. -/
structure NearestCode (units c : Nat) : Prop where
  closest (d : Nat) : distance units c ≤ distance units d
  even (d : Nat) (hne : d ≠ c) (htie : distance units c = distance units d) : c % 2 = 0

/-- What lies between two neighbouring magnitudes is nearest to the closer one of them. -/
theorem nearestCode_of_neighbours {units low rest width c : Nat} (hlow : units = unitsOf low + rest)
    (hhigh : unitsOf (low + 1) = unitsOf low + width) (hrest : rest < width)
    (hc : (c = low ∧ 2 * rest ≤ width) ∨ (c = low + 1 ∧ width ≤ 2 * rest))
    (heven : 2 * rest = width → c % 2 = 0) : NearestCode units c := by
  have hlowDistance : distance units low = rest := by
    unfold distance
    omega
  have hhighDistance : distance units (low + 1) = width - rest := by
    unfold distance
    omega
  -- any other code is farther than the neighbour on its side
  have hbeyond (d : Nat) : d = low ∨ d = low + 1 ∨ rest < distance units d ∨
      width - rest < distance units d := by
    unfold distance
    rcases Nat.lt_trichotomy d low with hlt | heq | hgt
    · have hunits := unitsOf_strictMono hlt
      omega
    · exact .inl heq
    · rcases Nat.lt_or_eq_of_le hgt with hgt' | heq
      · have hunits : unitsOf (low + 1) < unitsOf d := unitsOf_strictMono hgt'
        omega
      · exact .inr (.inl heq.symm)
  constructor
  · intro d
    rcases hc with ⟨rfl, hcloser⟩ | ⟨rfl, hcloser⟩ <;>
      rcases hbeyond d with rfl | rfl | hfar | hfar <;> omega
  · intro d hne htie
    apply heven
    rcases hc with ⟨rfl, hcloser⟩ | ⟨rfl, hcloser⟩ <;>
      rcases hbeyond d with rfl | rfl | hfar | hfar <;> omega

/-- A quotient is rounded down or up, to the nearer side, and to the even side from the middle. -/
theorem roundDiv_cases (num den : Nat) :
    (roundDiv num den = num / den ∧ 2 * (num % den) ≤ den ∧
      (2 * (num % den) = den → num / den % 2 = 0)) ∨
    (roundDiv num den = num / den + 1 ∧ den ≤ 2 * (num % den) ∧
      (2 * (num % den) = den → (num / den + 1) % 2 = 0)) := by
  unfold roundDiv
  dsimp only
  split
  · right
    omega
  · left
    omega

/-- How many units make one. -/
def unitsPerOne : Nat := 1 <<< 1074

theorem unitsPerOne_pos : 0 < unitsPerOne := by decide +kernel

theorem shiftLeft_eq_units (n : Nat) : n <<< 1074 = n * unitsPerOne := by
  rw [unitsPerOne, Nat.shiftLeft_eq, Nat.one_shiftLeft]

section

variable {n : Nat}

/-- The quotient of a number by the width of its binade is a significand. -/
theorem significand_quotient (hn : n ≠ 0) :
    2 ^ 52 ≤ n * unitsPerOne / 2 ^ (n.log2 + 1022) ∧
      n * unitsPerOne / 2 ^ (n.log2 + 1022) < 2 ^ 53 := by
  have hlog : (n * unitsPerOne).log2 = n.log2 + 1022 + 52 := by
    rw [← shiftLeft_eq_units, log2_shiftLeft hn]
  have hne : n * unitsPerOne ≠ 0 := Nat.mul_ne_zero hn (Nat.ne_of_gt unitsPerOne_pos)
  have hbounds := (Nat.log2_eq_iff hne).mp hlog
  constructor
  · rw [Nat.le_div_iff_mul_le (Nat.two_pow_pos _), ← Nat.pow_add, Nat.add_comm 52]
    exact hbounds.1
  · rw [Nat.div_lt_iff_lt_mul (Nat.two_pow_pos _), ← Nat.pow_add, Nat.add_comm 53]
    exact hbounds.2

/-- The code of a number is its binade with the rounded quotient. -/
theorem nearestCode_eq (hn : n ≠ 0) (hlog : n.log2 < 1023) :
    nearestCode n 1 = (n.log2 + 1022) * 2 ^ 52 +
        roundDiv (n * unitsPerOne) (2 ^ (n.log2 + 1022)) ∧
      nearestCode n 1 < infinityCode := by
  have hbinade : (n <<< 1074 / 1).log2 - 52 = n.log2 + 1022 := by
    rw [Nat.div_one, log2_shiftLeft hn]
    omega
  have hquotient := (significand_quotient hn).2
  have hcases := roundDiv_cases (n * unitsPerOne) (2 ^ (n.log2 + 1022))
  unfold nearestCode
  dsimp only
  rw [hbinade, shiftLeft_eq_units, Nat.one_shiftLeft]
  generalize 2 ^ (n.log2 + 1022) = width at *
  simp only [infinityCode, Nat.pow_eq]
  omega

/-- The code of a number is the nearest one. -/
theorem nearestCode_nearest (hlog : n.log2 < 1023) :
    NearestCode (n * unitsPerOne) (nearestCode n 1) := by
  rcases Nat.eq_zero_or_pos n with rfl | hpos
  · rw [nearestCode_zero, Nat.zero_mul]
    exact ⟨fun d => by simp [distance, unitsOf_zero], fun _ _ _ => rfl⟩
  have hn : n ≠ 0 := Nat.ne_of_gt hpos
  rw [(nearestCode_eq hn hlog).1]
  have hquotient := significand_quotient hn
  have hcases := roundDiv_cases (n * unitsPerOne) (2 ^ (n.log2 + 1022))
  have hdiv := Nat.div_add_mod (n * unitsPerOne) (2 ^ (n.log2 + 1022))
  have hmod := Nat.mod_lt (n * unitsPerOne) (Nat.two_pow_pos (n.log2 + 1022))
  generalize n * unitsPerOne = units at *
  generalize n.log2 + 1022 = k at *
  generalize units % 2 ^ k = rest at *
  generalize units / 2 ^ k = q at *
  -- the neighbours are the quotient and the next significand
  have hlow : unitsOf (k * 2 ^ 52 + q) = 2 ^ k * q := by
    rw [unitsOf_binade k hquotient.1 (by omega), Nat.mul_comm]
  have hhigh : unitsOf (k * 2 ^ 52 + q + 1) = 2 ^ k * q + 2 ^ k := by
    rw [Nat.add_assoc, unitsOf_binade k (by omega) (by omega), Nat.mul_comm, Nat.mul_succ]
  have hparity : (k * 2 ^ 52 + q) % 2 = q % 2 ∧ (k * 2 ^ 52 + q + 1) % 2 = (q + 1) % 2 := by omega
  rw [← hlow] at hdiv hhigh
  rcases hcases with ⟨hround, hcloser, htie⟩ | ⟨hround, hcloser, htie⟩
  · rw [hround]
    refine nearestCode_of_neighbours hdiv.symm hhigh hmod (.inl ⟨rfl, hcloser⟩) fun hmiddle => ?_
    rw [hparity.1]
    exact htie hmiddle
  · rw [hround, ← Nat.add_assoc]
    refine nearestCode_of_neighbours hdiv.symm hhigh hmod (.inr ⟨rfl, hcloser⟩) fun hmiddle => ?_
    rw [hparity.2]
    exact htie hmiddle

/-- A number that fits into a significand is exact. -/
theorem unitsOf_nearestCode_of_lt (hlt : n < Nat.pow 2 53) :
    unitsOf (nearestCode n 1) = n * unitsPerOne := by
  rcases Nat.eq_zero_or_pos n with rfl | hpos
  · rw [nearestCode_zero, unitsOf_zero, Nat.zero_mul]
  · have hn : n ≠ 0 := Nat.ne_of_gt hpos
    have hlog : n.log2 < 53 := (Nat.log2_lt hn).mpr hlt
    have hbounds := significand_bounds hn hlt
    simp only [Nat.pow_eq] at hbounds
    rw [nearestCode_of_lt hn hlt, Nat.pow_eq, unitsOf_binade _ hbounds.1 (Nat.le_of_lt hbounds.2),
      ← Nat.shiftLeft_eq, ← shiftLeft_eq_significand hlog, shiftLeft_eq_units]

end

/-! ## Numbers as rational numbers -/

/-- A finite number in units, with its sign. -/
def units (x : Double) : Int :=
  if x.negative then -(unitsOf x.code : Int) else unitsOf x.code

/-- The rational number that a finite number is. -/
def toRat (x : Double) : ℚ :=
  x.units / unitsPerOne

/-- A finite number is nearest to a rational number when no other one is closer, and its code is
even if another one is as close. -/
structure IsNearest (x : Double) (q : ℚ) : Prop where
  finite : x.isFinite = true
  closest (y : Double) (hy : y.isFinite = true) : |q - x.toRat| ≤ |q - y.toRat|
  even (y : Double) (hy : y.isFinite = true) (hne : y.toRat ≠ x.toRat)
    (htie : |q - x.toRat| = |q - y.toRat|) : x.code % 2 = 0

section

variable {x y : Double} {n : Int} {q : ℚ}

theorem unitsPerOne_cast_pos : (0 : ℚ) < unitsPerOne := by
  exact_mod_cast unitsPerOne_pos

/-- Numbers are the same rational number if they have the same units. -/
theorem toRat_inj : x.toRat = y.toRat ↔ x.units = y.units := by
  unfold toRat
  rw [div_left_inj' (ne_of_gt unitsPerOne_cast_pos), Int.cast_inj]

/-- A number is smaller as a rational number if it has fewer units. -/
theorem toRat_lt_toRat : x.toRat < y.toRat ↔ x.units < y.units := by
  unfold toRat
  rw [div_lt_div_iff_of_pos_right unitsPerOne_cast_pos, Int.cast_lt]

/-- The distance from an integer, counted in units. -/
theorem abs_sub_toRat (n : Int) (x : Double) :
    |(n : ℚ) - x.toRat| = ((n * unitsPerOne - x.units).natAbs : ℚ) / unitsPerOne := by
  have hpos := unitsPerOne_cast_pos
  have hdiff : (n : ℚ) - x.toRat = ((n * unitsPerOne - x.units : Int) : ℚ) / unitsPerOne := by
    unfold toRat
    push_cast
    field_simp
  rw [hdiff, abs_div, abs_of_pos hpos, Nat.cast_natAbs, Int.cast_abs]

theorem units_eq_or (x : Double) :
    x.units = unitsOf x.code ∨ x.units = -(unitsOf x.code : Int) := by
  unfold units
  split
  · exact .inr rfl
  · exact .inl rfl

theorem units_zero (negative : Bool) : (zero negative).units = 0 := by
  unfold units zero
  rw [unitsOf_zero]
  split <;> rfl

/-- Numbers are equal when they are the same number of units: the sign counts unless both are
zero. -/
theorem numEq_iff_units (hx : x.isNaN = false) (hy : y.isNaN = false) :
    x.numEq y = true ↔ x.units = y.units := by
  have hinj := unitsOf_inj (c := x.code) (d := y.code)
  have hzero := unitsOf_eq_zero_iff (c := x.code)
  simp only [numEq, hx, hy, Bool.not_false, Bool.true_and, Bool.and_eq_true, Bool.or_eq_true,
    beq_iff_eq]
  rw [← hinj, ← hzero]
  unfold units
  generalize unitsOf x.code = a
  generalize unitsOf y.code = b
  rcases x.negative <;> rcases y.negative <;>
    simp only [Bool.false_eq_true, Bool.true_eq_false, if_true, if_false, true_or, false_or,
      and_true] <;> omega

/-! ## The double that an integer becomes -/

theorem isFinite_of_code_lt {negative : Bool} {code : Nat} {h : code < Nat.pow 2 63}
    (hlt : code < infinityCode) : (⟨negative, code, h⟩ : Double).isFinite = true :=
  decide_eq_true hlt

/-- Integers of at most 1023 bits become finite numbers. -/
theorem isFinite_ofInt (hlog : n.natAbs.log2 < 1023) : (ofInt n).isFinite = true := by
  apply isFinite_of_code_lt
  rcases Nat.eq_zero_or_pos n.natAbs with hzero | hpos
  · rw [hzero, nearestCode_zero]
    decide
  · exact (nearestCode_eq (Nat.ne_of_gt hpos) hlog).2

/-- An integer in units has the magnitude of the integer in units, and its sign. -/
theorem mul_unitsPerOne (n : Int) :
    (0 ≤ n ∧ n * unitsPerOne = (n.natAbs * unitsPerOne : Nat)) ∨
      (n < 0 ∧ n * unitsPerOne = -((n.natAbs * unitsPerOne : Nat) : Int)) := by
  push_cast
  rcases lt_or_ge n 0 with hneg | hpos
  · right
    rw [abs_of_neg hneg]
    exact ⟨hneg, by ring⟩
  · left
    rw [abs_of_nonneg hpos]
    exact ⟨hpos, rfl⟩

/-- What an integer becomes has the sign of the integer and the code that is nearest to its
magnitude. -/
theorem units_ofInt (n : Int) :
    (ofInt n).units =
      if n < 0 then -(unitsOf (nearestCode n.natAbs 1) : Int)
      else unitsOf (nearestCode n.natAbs 1) := by
  simp only [units, ofInt, ofRatio, decide_eq_true_eq]

/-- With the sign of the integer, a number is as far from it as their magnitudes are. -/
theorem natAbs_sub_units_ofInt (n : Int) :
    (n * unitsPerOne - (ofInt n).units).natAbs =
      distance (n.natAbs * unitsPerOne) (nearestCode n.natAbs 1) := by
  have hscaled := mul_unitsPerOne n
  unfold distance
  rw [units_ofInt]
  generalize n.natAbs * unitsPerOne = scaled at *
  generalize n * (unitsPerOne : Int) = target at *
  rcases hscaled with ⟨hpos, rfl⟩ | ⟨hneg, rfl⟩
  · rw [if_neg (by omega)]
  · rw [if_pos hneg]
    omega

/-- With the other sign it is not closer. -/
theorem distance_le_natAbs_sub_units (n : Int) (y : Double) :
    distance (n.natAbs * unitsPerOne) y.code ≤ (n * unitsPerOne - y.units).natAbs := by
  have hscaled := mul_unitsPerOne n
  have hy := units_eq_or y
  unfold distance
  generalize n.natAbs * unitsPerOne = scaled at *
  generalize n * (unitsPerOne : Int) = target at *
  rcases hscaled with ⟨-, rfl⟩ | ⟨-, rfl⟩ <;> rcases hy with hy | hy <;> rw [hy] <;> omega

/-- A number with the magnitude of the double that an integer becomes, and as close to it, is that
double. -/
theorem units_eq_of_tie (hlog : n.natAbs.log2 < 1023) (hcode : y.code = (ofInt n).code)
    (htie : (n * unitsPerOne - (ofInt n).units).natAbs = (n * unitsPerOne - y.units).natAbs) :
    y.units = (ofInt n).units := by
  have hzero : distance (n.natAbs * unitsPerOne) (ofInt n).code ≤
      distance (n.natAbs * unitsPerOne) 0 := (nearestCode_nearest hlog).closest 0
  have hscaled := mul_unitsPerOne n
  have hx := units_eq_or (ofInt n)
  have hy := units_eq_or y
  rw [hcode] at hy
  unfold distance at hzero
  rw [unitsOf_zero] at hzero
  generalize n.natAbs * unitsPerOne = scaled at *
  generalize n * (unitsPerOne : Int) = target at *
  generalize unitsOf (ofInt n).code = magnitude at *
  generalize (ofInt n).units = a at *
  generalize y.units = b at *
  -- with opposite signs both are as close as zero is, so the integer is zero
  rcases Int.natAbs_eq_natAbs_iff.mp htie with hsame | hopposite
  · omega
  · omega

/-- An integer becomes the double that is nearest to it. -/
theorem isNearest_ofInt (hlog : n.natAbs.log2 < 1023) : (ofInt n).IsNearest n := by
  have hnearest := nearestCode_nearest hlog
  have hcloser (y : Double) :=
    Nat.le_trans (hnearest.closest y.code) (distance_le_natAbs_sub_units n y)
  refine ⟨isFinite_ofInt hlog, fun y hy => ?_, fun y hy hne htie => ?_⟩
  · rw [abs_sub_toRat, abs_sub_toRat, div_le_div_iff_of_pos_right unitsPerOne_cast_pos, Nat.cast_le,
      natAbs_sub_units_ofInt]
    exact hcloser y
  · rw [abs_sub_toRat, abs_sub_toRat, div_left_inj' (ne_of_gt unitsPerOne_cast_pos),
      Nat.cast_inj] at htie
    rw [Ne, toRat_inj] at hne
    apply hnearest.even y.code
    · exact fun hcode => hne (units_eq_of_tie hlog hcode htie)
    · rw [natAbs_sub_units_ofInt] at htie
      have hfar := distance_le_natAbs_sub_units n y
      have hclosest := hnearest.closest y.code
      omega

/-! ## No other number is nearest -/

/-- Between two numbers with even codes lies another one. -/
theorem exists_between (hx : x.isFinite = true) (hy : y.isFinite = true)
    (hlt : x.toRat < y.toRat) (hxEven : x.code % 2 = 0) (hyEven : y.code % 2 = 0) :
    ∃ z : Double, z.isFinite = true ∧ x.toRat < z.toRat ∧ z.toRat < y.toRat := by
  simp only [toRat_lt_toRat] at hlt ⊢
  have hxCode : x.code < infinityCode := of_decide_eq_true hx
  have hyCode : y.code < infinityCode := of_decide_eq_true hy
  have hxUnits := units_eq_or x
  have hyUnits := units_eq_or y
  rcases lt_or_ge x.units 0 with hxNeg | hxPos
  · rcases lt_or_ge 0 y.units with hyPos | hyNeg
    · exact ⟨zero false, rfl, by rw [units_zero]; exact hxNeg, by rw [units_zero]; exact hyPos⟩
    · -- both are below zero, so the next code of `y` is before it
      have hcodes : y.code < x.code := by
        rw [← unitsOf_strictMono.lt_iff_lt]
        omega
      have hnext : y.code + 1 < x.code := by omega
      have hfinite : y.code + 1 < infinityCode := Nat.lt_trans hnext hxCode
      have hlow := unitsOf_lt_succ y.code
      have hhigh := unitsOf_strictMono hnext
      refine ⟨⟨true, y.code + 1, Nat.lt_trans hfinite infinityCode_lt⟩,
        isFinite_of_code_lt hfinite, ?_, ?_⟩
      · show x.units < -(unitsOf (y.code + 1) : Int)
        omega
      · show -(unitsOf (y.code + 1) : Int) < y.units
        omega
  · -- neither is below zero, so the next code of `x` is before `y`
    have hcodes : x.code < y.code := by
      rw [← unitsOf_strictMono.lt_iff_lt]
      omega
    have hnext : x.code + 1 < y.code := by omega
    have hfinite : x.code + 1 < infinityCode := Nat.lt_trans hnext hyCode
    have hlow := unitsOf_lt_succ x.code
    have hhigh := unitsOf_strictMono hnext
    refine ⟨⟨false, x.code + 1, Nat.lt_trans hfinite infinityCode_lt⟩,
      isFinite_of_code_lt hfinite, ?_, ?_⟩
    · show x.units < (unitsOf (x.code + 1) : Int)
      omega
    · show (unitsOf (x.code + 1) : Int) < y.units
      omega

/-- Only one number is nearest to a rational number. -/
theorem IsNearest.toRat_eq (hx : x.IsNearest q) (hy : y.IsNearest q) : x.toRat = y.toRat := by
  have htie : |q - x.toRat| = |q - y.toRat| :=
    le_antisymm (hx.closest y hy.finite) (hy.closest x hx.finite)
  by_contra hne
  wlog hlt : x.toRat < y.toRat generalizing x y
  · exact this hy hx htie.symm (Ne.symm hne) (lt_of_le_of_ne (not_lt.mp hlt) (Ne.symm hne))
  have hxEven := hx.even y hy.finite (Ne.symm hne) htie
  have hyEven := hy.even x hx.finite hne htie.symm
  rcases exists_between hx.finite hy.finite hlt hxEven hyEven with ⟨z, hz, hxz, hzy⟩
  -- the rational number is in the middle, so `z` would be closer
  have hclosest := hx.closest z hz
  rcases abs_eq_abs.mp htie with hsame | hopposite
  · exact hne (by linarith)
  · have hpos : 0 < q - x.toRat := by linarith
    rw [abs_of_pos hpos] at hclosest
    have hcloser : |q - z.toRat| < q - x.toRat := abs_lt.mpr ⟨by linarith, by linarith⟩
    linarith

/-- An integer that is the value of some double becomes that value. -/
theorem toRat_ofInt_of_represented (hlog : n.natAbs.log2 < 1023)
    (h : ∃ y : Double, y.isFinite = true ∧ y.toRat = n) : (ofInt n).toRat = n := by
  rcases h with ⟨y, hy, hvalue⟩
  have hclosest := (isNearest_ofInt hlog).closest y hy
  rw [hvalue, sub_self, abs_zero, abs_nonpos_iff, sub_eq_zero] at hclosest
  exact hclosest.symm

end

end DocLoad.Double
