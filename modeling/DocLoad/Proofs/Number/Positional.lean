import DocLoad.Number.Shortest
import DocLoad.Proofs.Number.Numerals
import Mathlib.Data.List.DropRight

/-!
# DocLoad.Proofs.Number.Positional — a finite number is written as a numeral

The shortest digits of a magnitude that is not zero do not all vanish (`Shortest.digits_pos`), so
some are left when the zeros at the end are cut off.  With the point put among them they are a
significand, and a finite number in positional notation is a numeral without an exponent
(`Double.written_positional`).
-/

namespace DocLoad

open Numeral Text

theorem Double.unitsOf_pos {code : Nat} (h : 0 < code) : 0 < unitsOf code := by
  unfold unitsOf
  dsimp only
  split
  · next hexponent =>
    -- without the leading bit the fraction is all of the code
    have hcode := Nat.div_add_mod code (Nat.pow 2 52)
    rw [hexponent, Nat.mul_zero, Nat.zero_add] at hcode
    rw [hcode]
    exact h
  · have hbit : 0 < Nat.pow 2 52 := by decide
    rw [Nat.shiftLeft_eq]
    exact Nat.mul_pos (Nat.add_pos_left hbit _) (Nat.two_pow_pos _)

namespace Shortest

/-- The powers of ten with fewer digits than a number are not greater. -/
theorem pow_length_toDigits_le {n k : Nat} (hn : 0 < n) (hk : 0 < k) :
    Nat.pow 10 ((Nat.toDigits 10 n).length - k) ≤ n := by
  rcases Nat.eq_zero_or_pos ((Nat.toDigits 10 n).length - k) with hzero | hpos
  · rw [hzero]
    exact hn
  · have hlength : ¬ (Nat.toDigits 10 n).length ≤ (Nat.toDigits 10 n).length - k := by omega
    rw [Nat.length_toDigits_le_iff (by decide) hpos] at hlength
    exact Nat.le_of_not_lt hlength

/-- The grids are not wider than the magnitude. -/
theorem step_le_point {code k : Nat} (hcode : 0 < code) (hk : 0 < k) :
    step (magnitude code) k ≤ point code := by
  have hunit : 0 < Nat.pow 2 1074 := by decide +kernel
  have hdouble : Nat.pow 2 1075 = 2 * Nat.pow 2 1074 := by decide +kernel
  have hscale : Nat.pow 2 1074 ≤ Nat.pow 10 scale := by decide +kernel
  unfold step magnitude point
  rw [hdouble]
  -- only that the scale is wider than the unit counts from here on
  generalize Nat.pow 2 1074 = unit at hunit hscale
  have hscaled : unit ≤ Double.unitsOf code * Nat.pow 10 scale :=
    Nat.le_trans hscale (Nat.le_mul_of_pos_left _ (Double.unitsOf_pos hcode))
  rw [Nat.mul_assoc, Nat.mul_assoc]
  generalize Double.unitsOf code * Nat.pow 10 scale = scaled at hscaled
  have hpow := pow_length_toDigits_le (Nat.div_pos hscaled hunit) hk
  rw [Nat.le_div_iff_mul_le hunit, Nat.mul_comm] at hpow
  exact Nat.mul_le_mul_left 2 hpow

theorem quotient_pos {code k : Nat} (hcode : 0 < code) (hk : 0 < k) :
    0 < point code / step (magnitude code) k := by
  have hunit : 0 < Nat.pow 2 1075 := by decide +kernel
  have hstep : 0 < step (magnitude code) k := by
    rw [step]
    generalize Nat.pow 2 1075 = unit at hunit
    exact Nat.mul_pos hunit (Nat.pow_pos (by decide))
  exact Nat.div_pos (step_le_point hcode hk) hstep

/-- The search for a shortest text ends with a positive number. -/
theorem search_pos {code k : Nat} (fuel : Nat) (hcode : 0 < code) (hk : 0 < k) :
    0 < (search code (magnitude code) k fuel).1 := by
  induction fuel generalizing k with
  | zero => exact quotient_pos hcode hk
  | succ fuel ih =>
    rw [search]
    split
    · next n hn =>
      -- a point of the grid that reads back is the one below the magnitude or the next one
      have hbelow := quotient_pos hcode hk
      unfold onGrid? at hn
      dsimp only at hn
      split at hn
      · cases hn
        exact hbelow
      · split at hn
        · cases hn
          exact Nat.succ_pos _
        · cases hn
    · exact ih (Nat.succ_pos k)

/-- The significand of a magnitude that is not zero. -/
theorem digits_pos {code : Nat} (h : 0 < code) : 0 < (digits code).1 :=
  search_pos 17 h Nat.one_pos

end Shortest

/-! ## Digits with a point among them -/

/-- Without the zeros at its end, a number that is not zero still has digits. -/
theorem digits_rdropWhile {n : Nat} (h : 0 < n) :
    Digits isDigit ((Nat.toDigits 10 n).rdropWhile (· == '0')) := by
  constructor
  · intro hnil
    have hzeros : Nat.toDigits 10 n = List.replicate (Nat.toDigits 10 n).length '0' := by
      apply List.eq_replicate_of_mem
      intro c hc
      exact eq_of_beq (List.rdropWhile_eq_nil_iff.mp hnil c hc)
    have hvalue := Nat.ofDigitChars_ten_toDigits (n := n)
    rw [hzeros, Nat.ofDigitChars_replicate_zero, Nat.mul_zero] at hvalue
    omega
  · intro c hc
    exact isDigit_of_mem_toDigits ((List.rdropWhile_prefix _ _).subset hc)

/-- The digits of a positive number with a point anywhere are a significand. -/
theorem significand_positionalText {n : Nat} (h : 0 < n) (e : Int) :
    Significand isDigit (positionalText n e) := by
  have hds := digits_rdropWhile h
  unfold positionalText
  change Digits isDigit ((Nat.toDigits 10 n).reverse.dropWhile (· == '0')).reverse at hds
  generalize ((Nat.toDigits 10 n).reverse.dropWhile (· == '0')).reverse = ds at hds
  dsimp only
  split
  · next zeros _ =>
    have hne : ds ++ List.replicate zeros '0' ≠ [] := by simp [hds.1]
    exact .whole ⟨hne, List.forall_mem_append.mpr ⟨hds.2, fun _ => isDigit_of_mem_zeros⟩⟩
  · next w _ =>
    -- padded with zeros, there is one digit at least in front of the point
    have hlength : w + 1 < (List.replicate (w + 1 + 1 - ds.length) '0' ++ ds).length := by
      rw [List.length_append, List.length_replicate]
      omega
    have hpadded : ∀ c ∈ List.replicate (w + 1 + 1 - ds.length) '0' ++ ds, isDigit c = true :=
      List.forall_mem_append.mpr ⟨fun _ => isDigit_of_mem_zeros, hds.2⟩
    generalize List.replicate (w + 1 + 1 - ds.length) '0' ++ ds = padded at hlength hpadded
    refine .point ⟨?_, ?_⟩ ?_
    · intro hnil
      have htake := congrArg List.length hnil
      rw [List.length_take, List.length_nil] at htake
      omega
    · exact fun c hc => hpadded c (List.mem_of_mem_take hc)
    · exact fun c hc => hpadded c (List.mem_of_mem_drop hc)

namespace Double

/-- The text of every magnitude is a significand. -/
theorem significand_magnitudeText (x : Double) : Significand isDigit x.magnitudeText := by
  unfold magnitudeText
  split
  · exact .whole ⟨List.cons_ne_nil _ _, List.all_eq_true.mp (by decide)⟩
  · next hcode =>
    have hdigits := Shortest.digits_pos (Nat.pos_of_ne_zero hcode)
    exact significand_positionalText hdigits _

/-- A finite number in positional notation is a numeral. -/
theorem written_positional (infinity : String) {x : Double} (h : x.isFinite = true) :
    Written isDigit (x.positional infinity).toList := by
  have hcode : x.code < infinityCode := of_decide_eq_true h
  have hnan : x.isNaN = false := decide_eq_false (by omega)
  have hinfinite : x.isInfinite = false := by
    rw [isInfinite, beq_eq_false_iff_ne]
    omega
  have hm := significand_magnitudeText x
  unfold positional
  simp only [hnan, hinfinite, Bool.false_eq_true, if_false, String.toList_append,
    String.toList_ofList]
  cases x.negative with
  | true => exact ⟨_, _, [], .minus, hm, .absent, by simp⟩
  | false => exact ⟨_, _, [], .absent, hm, .absent, by simp⟩

end Double
end DocLoad
