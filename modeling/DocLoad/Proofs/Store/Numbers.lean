import DocLoad.Proofs.Number.Rounding
import DocLoad.Proofs.Store.TypedFilter

/-!
# DocLoad.Proofs.Store.Numbers — which numbers a filter takes for equal

A number that is not a NaN is a rational number or an infinity (`Quantity`).  A filter compares two
integers as such and two doubles as such, but an integer and a double as doubles.  For 64-bit
integers that is a rounding: an integer is taken for equal to the double that is nearest to it
(`RoundsTo`), also where no double is the same number.

* `valueEq_iff_quantity` — two numbers are taken for equal exactly when they are the same quantity
  or one of them rounds to the other;
* `valueEq_trans_or` — equality is transitive but for two 64-bit integers with one double in the
  middle;
* `valueEq_numbers` — both, for any three numbers.
-/

namespace DocLoad

/-- What a number is: a rational number or one of the two infinities. -/
inductive Quantity where
  | finite (q : ℚ)
  | infinite (negative : Bool)
deriving DecidableEq

namespace Double

/-- The quantity that a double is.  A NaN is none. -/
def quantity? (x : Double) : Option Quantity :=
  if x.isFinite then some (.finite x.toRat)
  else if x.isInfinite then some (.infinite x.negative)
  else none

variable {x y : Double} {p q : Quantity} {n m : Int}

theorem quantity?_of_isFinite (h : x.isFinite = true) : x.quantity? = some (.finite x.toRat) := by
  unfold quantity?
  rw [if_pos h]

theorem quantity?_cases (h : x.quantity? = some p) :
    (x.code < infinityCode ∧ p = .finite x.toRat) ∨
      (x.code = infinityCode ∧ p = .infinite x.negative) := by
  unfold quantity? at h
  split at h
  · next hfinite => exact .inl ⟨of_decide_eq_true hfinite, (Option.some.inj h).symm⟩
  split at h
  · next hinfinite => exact .inr ⟨eq_of_beq hinfinite, (Option.some.inj h).symm⟩
  · cases h

theorem eq_finite_of_quantity? (hx : x.isFinite = true) (h : x.quantity? = some p) :
    p = .finite x.toRat :=
  Option.some.inj (h.symm.trans (quantity?_of_isFinite hx))

/-- Only a NaN is no quantity. -/
theorem quantity?_eq_none_iff : x.quantity? = none ↔ x.isNaN = true := by
  unfold quantity? isFinite isInfinite isNaN
  simp only [decide_eq_true_eq, beq_iff_eq]
  split
  · simp only [reduceCtorEq, false_iff]
    omega
  split
  · simp only [reduceCtorEq, false_iff]
    omega
  · simp only [true_iff]
    omega

/-- A NaN is no quantity. -/
theorem isNaN_eq_false_of_quantity? (h : x.quantity? = some p) : x.isNaN = false := by
  rw [← Bool.not_eq_true, ← quantity?_eq_none_iff, h]
  nofun

/-- Doubles are equal as numbers when they are the same quantity. -/
theorem numEq_iff_quantity (hp : x.quantity? = some p) (hq : y.quantity? = some q) :
    x.numEq y = true ↔ p = q := by
  have hx := isNaN_eq_false_of_quantity? hp
  have hy := isNaN_eq_false_of_quantity? hq
  rcases quantity?_cases hp with ⟨hxCode, rfl⟩ | ⟨hxCode, rfl⟩ <;>
    rcases quantity?_cases hq with ⟨hyCode, rfl⟩ | ⟨hyCode, rfl⟩
  · rw [numEq_iff_units hx hy, Quantity.finite.injEq, toRat_inj]
  · have hcode : x.code ≠ y.code := by omega
    simp [numEq, hcode]
  · have hcode : x.code ≠ y.code := by omega
    simp [numEq, hcode]
  · have hzero : infinityCode ≠ 0 := by decide
    simp [numEq, hx, hy, hxCode, hyCode, hzero]

/-! ## Integers as doubles -/

/-- A double is an integer if its units are those of the integer. -/
theorem toRat_eq_intCast : x.toRat = n ↔ x.units = n * unitsPerOne := by
  unfold toRat
  rw [div_eq_iff (ne_of_gt unitsPerOne_cast_pos)]
  exact_mod_cast Iff.rfl

/-- An integer that fits into a significand is not changed. -/
theorem toRat_ofInt_of_lt (hlt : n.natAbs < Nat.pow 2 53) : (ofInt n).toRat = n := by
  have hscaled := mul_unitsPerOne n
  rw [toRat_eq_intCast, units_ofInt, unitsOf_nearestCode_of_lt hlt]
  generalize n.natAbs * unitsPerOne = scaled at *
  generalize n * (unitsPerOne : Int) = target at *
  rcases hscaled with ⟨hpos, rfl⟩ | ⟨hneg, rfl⟩
  · rw [if_neg (by omega)]
  · rw [if_pos hneg]

/-- Integers of 64 bits are small enough to become finite doubles. -/
theorem log2_natAbs_lt (hlt : n.natAbs < Nat.pow 2 64) : n.natAbs.log2 < 1023 := by
  rcases Nat.eq_zero_or_pos n.natAbs with hzero | hpos
  · rw [hzero]
    decide
  · have hlog : n.natAbs.log2 < 64 := (Nat.log2_lt (Nat.ne_of_gt hpos)).mpr hlt
    omega

/-- What is nearest depends on the value only, not on the sign of a zero. -/
theorem IsNearest.congr {q : ℚ} (hx : x.IsNearest q) (hy : y.isFinite = true)
    (heq : x.toRat = y.toRat) : y.IsNearest q := by
  have hcode : x.code = y.code := by
    rw [toRat_inj] at heq
    have hxUnits := units_eq_or x
    have hyUnits := units_eq_or y
    rw [← unitsOf_inj]
    omega
  refine ⟨hy, fun z hz => ?_, fun z hz hne htie => ?_⟩
  · rw [← heq]
    exact hx.closest z hz
  · rw [← heq] at hne htie
    rw [← hcode]
    exact hx.even z hz hne htie

/-- No other integer is rounded to a small one: a neighbour of it would be closer. -/
theorem IsNearest.intCast_eq (hx : x.IsNearest n) (hm : x.toRat = m)
    (hlt : m.natAbs + 1 < Nat.pow 2 53) : n = m := by
  have hcloser (k : Int) (hk : k.natAbs < Nat.pow 2 53) : |n - m| ≤ |n - k| := by
    have hfinite : (ofInt k).isFinite = true :=
      isFinite_ofInt (log2_natAbs_lt (Nat.lt_trans hk (by decide)))
    have hclosest := hx.closest (ofInt k) hfinite
    rw [hm, toRat_ofInt_of_lt hk] at hclosest
    exact_mod_cast hclosest
  have hnext := hcloser (m + 1) (by omega)
  have hprevious := hcloser (m - 1) (by omega)
  rcases lt_trichotomy n m with hlow | heq | hhigh
  · rw [abs_of_neg (by omega), abs_of_nonpos (by omega)] at hprevious
    omega
  · exact heq
  · rw [abs_of_pos (by omega), abs_of_nonneg (by omega)] at hnext
    omega

end Double

namespace Bson

/-- The quantity that a number is. -/
def quantity? : Bson → Option Quantity
  | .int32 n => some (.finite n.toInt)
  | .int64 n => some (.finite n.toInt)
  | .double x => x.quantity?
  | _ => none

/-- A 64-bit integer and the double that is nearest to it. -/
def RoundsTo (a b : Bson) : Prop :=
  ∃ n x, a = .int64 n ∧ b = .double x ∧ x.IsNearest n.toInt

section

variable {a b c : Bson} {p q r : Quantity} {x : Double}

theorem log2_toInt_lt (n : Int64) : n.toInt.natAbs.log2 < 1023 := by
  have hlow := n.le_toInt
  have hhigh := n.toInt_lt
  apply Double.log2_natAbs_lt
  rw [Nat.pow_eq]
  omega

/-! ## Two numbers -/

theorem quantity?_cases (ha : a.quantity? = some p) :
    (∃ n, a = .int32 n ∧ p = .finite n.toInt) ∨ (∃ n, a = .int64 n ∧ p = .finite n.toInt) ∨
      ∃ x, a = .double x ∧ x.quantity? = some p := by
  cases a with
  | int32 n => exact .inl ⟨n, rfl, (Option.some.inj ha).symm⟩
  | int64 n => exact .inr (.inl ⟨n, rfl, (Option.some.inj ha).symm⟩)
  | double x => exact .inr (.inr ⟨x, rfl, ha⟩)
  | _ => cases ha

/-- A number is an integer or a double. -/
theorem integer_or_double (ha : a.quantity? = some p) :
    (∃ n, a.integer? = some n ∧ p = .finite n.toInt) ∨
      ∃ x, a = .double x ∧ x.quantity? = some p := by
  rcases quantity?_cases ha with ⟨n, rfl, rfl⟩ | ⟨n, rfl, rfl⟩ | hdouble
  · exact .inl ⟨n.toInt64, rfl, by rw [n.toInt_toInt64]⟩
  · exact .inl ⟨n, rfl, rfl⟩
  · exact .inr hdouble

theorem not_roundsTo_of_integer? {n : Int64} (hb : b.integer? = some n) : ¬ a.RoundsTo b := by
  rintro ⟨-, x, -, rfl, -⟩
  cases hb

theorem not_double_roundsTo : ¬ RoundsTo (.double x) b := by
  rintro ⟨n, -, ⟨⟩, -⟩

/-- A double that an integer rounds to does not round itself. -/
theorem RoundsTo.not_roundsTo (h : a.RoundsTo b) : ¬ b.RoundsTo c := by
  rcases h with ⟨-, x, -, rfl, -⟩
  exact not_double_roundsTo

/-- Integers are equal as integers, whatever their width. -/
theorem valueEq_integers {n m : Int64} (ha : a.integer? = some n) (hb : b.integer? = some m) :
    a.valueEq b = true ↔ n.toInt = m.toInt := by
  rw [valueEq, ha, hb, Int64.toInt_inj]
  exact beq_iff_eq

/-- A 32-bit integer becomes a double of the same quantity. -/
theorem quantity?_ofInt32 (n : Int32) :
    (Double.ofInt n.toInt).quantity? = some (.finite n.toInt) := by
  have hlt := natAbs_toInt_lt n
  have hfinite : (Double.ofInt n.toInt).isFinite = true :=
    Double.isFinite_ofInt (Double.log2_natAbs_lt (Nat.lt_trans hlt (by decide)))
  rw [Double.quantity?_of_isFinite hfinite, Double.toRat_ofInt_of_lt hlt]

/-- A 32-bit integer is equal to the doubles of the same quantity. -/
theorem valueEq_int32_double (n : Int32) (hq : x.quantity? = some q) :
    valueEq (.int32 n) (.double x) = true ↔ .finite n.toInt = q := by
  rw [valueEq_eq_numEq rfl rfl (.inr rfl)]
  exact Double.numEq_iff_quantity (quantity?_ofInt32 n) hq

/-- A 64-bit integer is equal to the doubles that are nearest to it. -/
theorem valueEq_int64_double (n : Int64) (hq : x.quantity? = some q) :
    valueEq (.int64 n) (.double x) = true ↔ x.IsNearest n.toInt := by
  have hlog := log2_toInt_lt n
  have hnearest := Double.isNearest_ofInt hlog
  rw [valueEq_eq_numEq rfl rfl (.inr rfl),
    Double.numEq_iff_quantity (Double.quantity?_of_isFinite hnearest.finite) hq]
  constructor
  · intro hsame
    rcases Double.quantity?_cases hq with ⟨hcode, rfl⟩ | ⟨-, rfl⟩
    · exact hnearest.congr (decide_eq_true hcode) (Quantity.finite.inj hsame)
    · cases hsame
  · intro hx
    rw [Double.quantity?_of_isFinite hx.finite] at hq
    rw [← Option.some.inj hq, hnearest.toRat_eq hx]

/-- A double that is the same number as an integer is nearest to it. -/
theorem isNearest_of_quantity (n : Int64) (hx : x.quantity? = some (.finite n.toInt)) :
    x.IsNearest n.toInt := by
  rcases Double.quantity?_cases hx with ⟨hcode, hvalue⟩ | ⟨-, hvalue⟩
  · have hfinite : x.isFinite = true := decide_eq_true hcode
    have hsame : x.toRat = n.toInt := (Quantity.finite.inj hvalue).symm
    have hexact := Double.toRat_ofInt_of_represented (log2_toInt_lt n) ⟨x, hfinite, hsame⟩
    exact (Double.isNearest_ofInt (log2_toInt_lt n)).congr hfinite (hexact.trans hsame.symm)
  · cases hvalue

/-- An integer equals a double that is the same quantity, or the one that it rounds to. -/
theorem valueEq_integer_double {n : Int64} (ha : a.integer? = some n) (hx : x.quantity? = some q) :
    a.valueEq (.double x) = true ↔ .finite n.toInt = q ∨ a.RoundsTo (.double x) := by
  cases a with
  | int32 m =>
    have hm : m.toInt64 = n := Option.some.inj ha
    have hnever : ¬ RoundsTo (.int32 m) (.double x) := by
      rintro ⟨-, -, ⟨⟩, -⟩
    rw [valueEq_int32_double m hx, ← hm, m.toInt_toInt64, or_iff_left hnever]
  | int64 m =>
    have hm : m = n := Option.some.inj ha
    subst hm
    rw [valueEq_int64_double m hx]
    constructor
    · intro hnearest
      exact .inr ⟨m, x, rfl, rfl, hnearest⟩
    · rintro (rfl | ⟨k, y, hk, hy, hnearest⟩)
      · exact isNearest_of_quantity m hx
      · cases hk
        cases hy
        exact hnearest
  | _ => cases ha

/-- Two numbers are taken for equal when they are the same quantity, or one of them is a 64-bit
integer and the other the double nearest to it. -/
theorem valueEq_iff_quantity (ha : a.quantity? = some p) (hb : b.quantity? = some q) :
    a.valueEq b = true ↔ p = q ∨ a.RoundsTo b ∨ b.RoundsTo a := by
  rcases integer_or_double ha with ⟨n, hn, rfl⟩ | ⟨x, rfl, hx⟩ <;>
    rcases integer_or_double hb with ⟨m, hm, rfl⟩ | ⟨y, rfl, hy⟩
  · have hnever := not_or.mpr
      ⟨not_roundsTo_of_integer? (a := a) hm, not_roundsTo_of_integer? (a := b) hn⟩
    rw [valueEq_integers hn hm, or_iff_left hnever, Quantity.finite.injEq, Int.cast_inj]
  · rw [valueEq_integer_double hn hy, or_iff_left (not_double_roundsTo (b := a))]
  · rw [valueEq_comm, valueEq_integer_double hm hx, or_iff_right (not_double_roundsTo (b := b)),
      eq_comm]
  · rw [or_iff_left (not_or.mpr ⟨not_double_roundsTo, not_double_roundsTo⟩)]
    exact Double.numEq_iff_quantity hx hy

/-- Doubles to which one integer rounds are the same quantity. -/
theorem RoundsTo.unique (hb : a.RoundsTo b) (hc : a.RoundsTo c) (hq : b.quantity? = some q)
    (hr : c.quantity? = some r) : q = r := by
  rcases hb with ⟨n, x, rfl, rfl, hx⟩
  rcases hc with ⟨m, y, hm, rfl, hy⟩
  cases hm
  rw [Double.eq_finite_of_quantity? hx.finite hq, Double.eq_finite_of_quantity? hy.finite hr,
    hx.toRat_eq hy]

/-- A 64-bit integer that is the same number as some double rounds to that number only. -/
theorem RoundsTo.quantity_eq (h : a.RoundsTo b) (ha : a.quantity? = some p)
    (hb : b.quantity? = some q) (hx : x.quantity? = some p) : p = q := by
  have hto : a.RoundsTo (.double x) := by
    rcases h with ⟨n, y, rfl, rfl, -⟩
    rw [← Option.some.inj ha] at hx
    exact ⟨n, x, rfl, rfl, isNearest_of_quantity n hx⟩
  exact hto.unique h hx hb

/-! ## Three numbers -/

/-- What rounds to a double does so as any number of the same quantity, unless that is the
double's quantity. -/
theorem RoundsTo.of_same_integer (h : b.RoundsTo c) (ha : a.quantity? = some p)
    (hb : b.quantity? = some p) (hc : c.quantity? = some r) : p = r ∨ a.RoundsTo c := by
  rcases quantity?_cases ha with ⟨k, rfl, rfl⟩ | ⟨k, rfl, rfl⟩ | ⟨x, rfl, hx⟩
  · exact .inl (h.quantity_eq hb hc (quantity?_ofInt32 k))
  · rcases h with ⟨n, x, rfl, rfl, hx⟩
    have hsame : n.toInt = k.toInt := by
      exact_mod_cast Quantity.finite.inj (Option.some.inj hb)
    rw [hsame] at hx
    exact .inr ⟨k, x, rfl, rfl, hx⟩
  · exact .inl (h.quantity_eq hb hc hx)

/-- In the place of a double to which an integer rounds: a double to which it rounds as well, an
integer that rounds to the double, too, or the same integer. -/
theorem RoundsTo.of_same_double (h : c.RoundsTo b) (ha : a.quantity? = some p)
    (hb : b.quantity? = some p) (hc : c.quantity? = some r) :
    p = r ∨ c.RoundsTo a ∨ a.RoundsTo b := by
  rcases h with ⟨n, x, rfl, rfl, hx⟩
  have hvalue := Double.eq_finite_of_quantity? hx.finite hb
  have hr : r = .finite n.toInt := (Option.some.inj hc).symm
  rcases quantity?_cases ha with ⟨k, rfl, rfl⟩ | ⟨k, rfl, rfl⟩ | ⟨y, rfl, hy⟩
  · -- no other integer rounds to one of 32 bits
    have hlow := k.le_toInt
    have hhigh := k.toInt_lt
    have hsame := hx.intCast_eq (Quantity.finite.inj hvalue).symm (by rw [Nat.pow_eq]; omega)
    rw [hr, hsame]
    exact .inl rfl
  · exact .inr (.inr ⟨k, x, rfl, rfl, isNearest_of_quantity k hb⟩)
  · subst hvalue
    rcases Double.quantity?_cases hy with ⟨hcode, hsame⟩ | ⟨-, hsame⟩
    · exact .inr (.inl ⟨n, y, rfl, rfl, hx.congr (decide_eq_true hcode)
        (Quantity.finite.inj hsame)⟩)
    · cases hsame

/-- The case in which equality is not transitive: two integers round to one double. -/
def Collide (a b c : Bson) : Prop :=
  a.quantity? ≠ c.quantity? ∧ a.RoundsTo b ∧ c.RoundsTo b

/-- A number can be replaced by another one of the same quantity, but for that case. -/
theorem valueEq_of_same_quantity (ha : a.quantity? = some p) (hb : b.quantity? = some p)
    (hc : c.quantity? = some r) (hbc : b.valueEq c = true) :
    a.valueEq c = true ∨ Collide a b c := by
  rw [valueEq_iff_quantity ha hc]
  by_cases hpr : p = r
  · exact .inl (.inl hpr)
  rcases (valueEq_iff_quantity hb hc).mp hbc with hsame | hto | hfrom
  · exact absurd hsame hpr
  · rcases hto.of_same_integer ha hb hc with hsame | hto'
    · exact absurd hsame hpr
    · exact .inl (.inr (.inl hto'))
  · rcases hfrom.of_same_double ha hb hc with hsame | hfrom' | hcollide
    · exact absurd hsame hpr
    · exact .inl (.inr (.inr hfrom'))
    · refine .inr ⟨?_, hcollide, hfrom⟩
      rw [ha, hc]
      exact fun hsome => hpr (Option.some.inj hsome)

theorem Collide.symm (h : Collide a b c) : Collide c b a :=
  ⟨h.1.symm, h.2.2, h.2.1⟩

/-- Equality is transitive but for that case. -/
theorem valueEq_trans_or (ha : a.quantity? = some p) (hb : b.quantity? = some q)
    (hc : c.quantity? = some r) (hab : a.valueEq b = true) (hbc : b.valueEq c = true) :
    a.valueEq c = true ∨ Collide a b c := by
  rcases (valueEq_iff_quantity ha hb).mp hab with rfl | hab' | hba'
  · exact valueEq_of_same_quantity ha hb hc hbc
  -- what something rounds to is a double, and that rounds to nothing
  all_goals rcases (valueEq_iff_quantity hb hc).mp hbc with rfl | hbc' | hcb'
  · rw [valueEq_comm] at hab ⊢
    exact (valueEq_of_same_quantity hc hb ha hab).imp_right Collide.symm
  · exact absurd hbc' hab'.not_roundsTo
  · by_cases hac : a.quantity? = c.quantity?
    · rw [valueEq_iff_quantity ha hc]
      exact .inl (.inl (Option.some.inj (ha.symm.trans (hac.trans hc))))
    · exact .inr ⟨hac, hab', hcb'⟩
  · rw [valueEq_comm] at hab ⊢
    exact (valueEq_of_same_quantity hc hb ha hab).imp_right Collide.symm
  · rw [valueEq_iff_quantity ha hc]
    exact .inl (.inl (hba'.unique hbc' ha hc))
  · exact absurd hba' hcb'.not_roundsTo

/-- Any three numbers in a filter and in documents.  Two of them are taken for equal exactly when
they are the same rational number or the same infinity, or one is a 64-bit integer and the other
the double nearest to it.  The latter adds something only where no double is the same number as the
integer.  Equality is symmetric, and transitive unless two different 64-bit integers round to one
double. -/
theorem valueEq_numbers (ha : a.quantity? = some p) (hb : b.quantity? = some q)
    (hc : c.quantity? = some r) :
    (a.valueEq b = true ↔ p = q ∨ a.RoundsTo b ∨ b.RoundsTo a) ∧
    (a.RoundsTo b → (∃ x : Double, x.quantity? = some p) → p = q) ∧
    a.valueEq b = b.valueEq a ∧
    (a.valueEq b = true → b.valueEq c = true →
      a.valueEq c = true ∨ (p ≠ r ∧ a.RoundsTo b ∧ c.RoundsTo b)) := by
  refine ⟨valueEq_iff_quantity ha hb, ?_, valueEq_comm a b, ?_⟩
  · rintro hto ⟨x, hx⟩
    exact hto.quantity_eq ha hb hx
  · intro hab hbc
    have htrans := valueEq_trans_or ha hb hc hab hbc
    unfold Collide at htrans
    rwa [ha, hc, Ne, Option.some_inj] at htrans

end

/-- The integer 2^53, the next one, and the double of the former. -/
def big : Bson := .int64 9007199254740992

def afterBig : Bson := .int64 9007199254740993

def bigDouble : Bson := .double ⟨false, 1076 * Nat.pow 2 52, by decide⟩

theorem quantity?_bigDouble : bigDouble.quantity? = some (.finite (9007199254740992 : Int)) := by
  have hfinite : (⟨false, 1076 * Nat.pow 2 52, by decide⟩ : Double).isFinite = true := by decide
  have hvalue : (⟨false, 1076 * Nat.pow 2 52, by decide⟩ : Double).toRat =
      (9007199254740992 : Int) := by
    rw [Double.toRat_eq_intCast]
    decide +kernel
  rw [← hvalue]
  exact Double.quantity?_of_isFinite hfinite

/-- Both integers round to that double. -/
theorem valueEq_numbers_big :
    (afterBig.quantity? = some (.finite (9007199254740993 : Int)) ∧
      bigDouble.quantity? = some (.finite (9007199254740992 : Int)) ∧
      big.quantity? = some (.finite (9007199254740992 : Int))) ∧
    afterBig.valueEq big = false ∧ afterBig.RoundsTo bigDouble ∧ big.RoundsTo bigDouble := by
  have hafter : afterBig.quantity? = some (.finite (9007199254740993 : Int)) := rfl
  have hbig : big.quantity? = some (.finite (9007199254740992 : Int)) := rfl
  have hdiffer : afterBig.valueEq big = false := by decide
  have hleft : afterBig.valueEq bigDouble = true := by decide +kernel
  have hright : bigDouble.valueEq big = true := by decide +kernel
  refine ⟨⟨hafter, quantity?_bigDouble, hbig⟩, hdiffer, ?_⟩
  rcases (valueEq_numbers hafter quantity?_bigDouble hbig).2.2.2 hleft hright with hequal | ⟨-, hto⟩
  · rw [hdiffer] at hequal
    cases hequal
  · exact hto

/-- So an integer and a double can be taken for equal that are different numbers, and equality is
not transitive. -/
theorem valueEq_not_exact :
    (afterBig.valueEq bigDouble = true ∧ afterBig.quantity? ≠ bigDouble.quantity?) ∧
    bigDouble.valueEq big = true ∧ afterBig.valueEq big = false := by
  refine ⟨⟨by decide +kernel, ?_⟩, by decide +kernel, by decide⟩
  have hafter : afterBig.quantity? = some (.finite (9007199254740993 : Int)) := rfl
  rw [hafter, quantity?_bigDouble]
  intro hsame
  have hnumbers : (9007199254740993 : Int) = 9007199254740992 := by
    exact_mod_cast Quantity.finite.inj (Option.some.inj hsame)
  omega

end Bson
end DocLoad
