import DocLoad.Proofs.Number.Numerals
import DocLoad.Proofs.Store.Update

/-!
# DocLoad.Proofs.Query.Literals — which values are numbers

The text of a value is a number when it is a numeral in ASCII digits: an integer if it writes one of
64 bits, and a binary64 number otherwise (`Literal.ofChars_grammar`).

Three recognizers one behind another come to the same (`Literal.recognized_ofChars`): of numerals in
any class of digits that has no further ASCII characters, of integers, and of binary64 numbers.  A
text that the first one accepts in other digits is refused by the other two.
-/

namespace DocLoad

/-! ## Values -/

/-- The integer of 64 bits that a text writes. -/
def Text.readInt64 (cs : List Char) : Option Int64 :=
  (readInt cs).bind fun n =>
    if Int64.minValue.toInt ≤ n ∧ n ≤ Int64.maxValue.toInt then some (Int64.ofInt n) else none

/-- The texts that are read as integers of 64 bits are those that write one in this range. -/
theorem Text.readInt64_eq_some {cs : List Char} {n : Int64} :
    readInt64 cs = some n ↔ WritesInt cs n.toInt := by
  rw [readInt64, Option.bind_eq_some_iff, ← readInt_eq_some]
  constructor
  · rintro ⟨k, hk, hn⟩
    split at hn
    · next hrange =>
      cases hn
      have hlt : k < 2 ^ 63 := Int.lt_of_le_of_lt hrange.2 (by decide)
      rw [hk, Int64.toInt_ofInt_of_le hrange.1 hlt]
    · cases hn
  · intro h
    refine ⟨n.toInt, h, ?_⟩
    rw [if_pos ⟨n.minValue_le_toInt, n.toInt_le⟩, Int64.ofInt_toInt]

namespace Bson

/-- An integer is stored in 32 bits when it fits, with the same number. -/
theorem narrow_cases (n : Int64) :
    (-2 ^ 31 ≤ n.toInt ∧ n.toInt < 2 ^ 31 ∧ ∃ m : Int32, narrow n = .int32 m ∧ m.toInt = n.toInt) ∨
      (¬ (-2 ^ 31 ≤ n.toInt ∧ n.toInt < 2 ^ 31) ∧ narrow n = .int64 n) := by
  have hhigh : n.toInt ≤ Int32.maxValue.toInt ↔ n.toInt < 2 ^ 31 := by
    rw [Int32.toInt_maxValue, Int.le_sub_one_iff]
  unfold narrow
  split
  · next hfits =>
    have hlt := hhigh.mp hfits.2
    exact .inl ⟨hfits.1, hlt, _, rfl, Int32.toInt_ofInt_of_le hfits.1 hlt⟩
  · next hfits => exact .inr ⟨fun h => hfits ⟨h.1, hhigh.mpr h.2⟩, rfl⟩

/-- An integer is narrowed when it fits in 32 bits. -/
theorem narrow_eq_int32 {n : Int64} :
    (∃ m : Int32, narrow n = .int32 m ∧ m.toInt = n.toInt) ↔
      -2 ^ 31 ≤ n.toInt ∧ n.toInt < 2 ^ 31 := by
  rcases narrow_cases n with ⟨hlow, hhigh, hnarrow⟩ | ⟨hwide, hnarrow⟩
  · exact ⟨fun _ => ⟨hlow, hhigh⟩, fun _ => hnarrow⟩
  · rw [hnarrow]
    refine ⟨?_, fun h => absurd h hwide⟩
    rintro ⟨m, hm, -⟩
    cases hm

theorem narrow_eq_int64 {n : Int64} :
    narrow n = .int64 n ↔ ¬ (-2 ^ 31 ≤ n.toInt ∧ n.toInt < 2 ^ 31) := by
  rcases narrow_cases n with ⟨hlow, hhigh, m, hnarrow, -⟩ | ⟨hwide, hnarrow⟩
  · rw [hnarrow]
    exact ⟨nofun, fun h => absurd ⟨hlow, hhigh⟩ h⟩
  · exact ⟨fun _ => hwide, fun _ => hnarrow⟩

/-- Only a NaN differs from itself. -/
theorem Atomic.isNaN {x : Double} (h : (double x).Atomic) : x.isNaN = false := by
  have hself : x.numEq x = true := h.self
  rw [Double.numEq] at hself
  simpa using hself

end Bson

namespace Literal

open Numeral Text

/-- What three recognizers one behind another make of a text: of numerals over a class of digits, of
integers of 64 bits, and of binary64 numbers. -/
inductive Recognized (digit : Char → Bool) (cs : List Char) : Literal → Prop where
  | integer {n : Int64} (hwritten : Written digit cs) (hint : readInt64 cs = some n) :
    Recognized digit cs (.integer n)
  | double {x : Double} (hwritten : Written digit cs) (hint : readInt64 cs = none)
      (hdouble : Double.ofText? cs = some x) : Recognized digit cs (.double x)
  | refused (hwritten : Written digit cs) (hint : readInt64 cs = none)
      (hdouble : Double.ofText? cs = none) : Recognized digit cs (.text (String.ofList cs))
  | text (hwritten : ¬ Written digit cs) : Recognized digit cs (.text (String.ofList cs))

/-- What the value of a clause is in terms of the readers of integers and numerals. -/
theorem ofChars_eq (cs : List Char) :
    ofChars cs =
      match readInt64 cs with
      | some n => .integer n
      | none =>
        match read cs with
        | some numeral => .double numeral.toDouble
        | none => .text (String.ofList cs) := by
  rw [ofChars, readInt64, ← bind_toInt?_read]
  cases read cs with
  | none => rfl
  | some numeral =>
    rw [Option.bind_some]
    dsimp only
    cases numeral.toInt? with
    | none => rfl
    | some n =>
      rw [Option.bind_some]
      dsimp only
      split <;> rfl

/-- The literals that are integers are the texts that write one of 64 bits. -/
theorem ofChars_eq_integer {cs : List Char} {n : Int64} :
    ofChars cs = .integer n ↔ WritesInt cs n.toInt := by
  rw [ofChars_eq, ← readInt64_eq_some]
  split
  · next k hk =>
    rw [hk]
    simp
  · next hk =>
    rw [hk]
    split <;> simp

/-- Integers are numerals. -/
theorem written_of_readInt64 {cs : List Char} {n : Int64} (h : readInt64 cs = some n) :
    Written isDigit cs := by
  rw [readInt64, ← bind_toInt?_read] at h
  rw [← isSome_read_iff]
  cases hread : read cs with
  | none =>
    rw [hread] at h
    cases h
  | some numeral => rfl

/-- The value of a clause is what the three recognizers make of its text, whatever further
characters the first one takes for digits. -/
theorem recognized_ofChars {digit : Char → Bool}
    (hascii : ∀ c : Char, c.toNat < 128 → digit c = isDigit c) (cs : List Char) :
    Recognized digit cs (ofChars cs) := by
  have hwider : ∀ c, isDigit c = true → digit c = true := by
    intro c hc
    have hnine := toNat_le_of_isDigit hc
    rw [hascii c (by omega)]
    exact hc
  rw [ofChars_eq]
  cases hint : readInt64 cs with
  | some n => exact .integer ((written_of_readInt64 hint).mono hwider) hint
  | none =>
    cases hread : read cs with
    | some numeral =>
      have hwritten : Written isDigit cs := isSome_read_iff.mp (by rw [hread]; rfl)
      have hdouble : Double.ofText? cs = some numeral.toDouble := by
        rw [Double.ofText?, hread]
      exact .double (hwritten.mono hwider) hint hdouble
    | none =>
      by_cases hwritten : Written digit cs
      · exact .refused hwritten hint (ofText?_eq_none hascii hwritten hread)
      · exact .text hwritten

/-- The literals that are doubles are the other numerals. -/
theorem exists_ofChars_eq_double {cs : List Char} :
    (∃ x, ofChars cs = .double x) ↔
      Written isDigit cs ∧ ¬ ∃ n : Int64, WritesInt cs n.toInt := by
  rw [ofChars_eq, ← isSome_read_iff]
  simp only [← readInt64_eq_some]
  cases hint : readInt64 cs with
  | some n => simp
  | none => cases read cs <;> simp

/-- The literals that are texts are all that is no numeral, as they stand. -/
theorem ofChars_eq_text {cs : List Char} {s : String} :
    ofChars cs = .text s ↔ ¬ Written isDigit cs ∧ s = String.ofList cs := by
  rw [ofChars_eq, ← isSome_read_iff]
  cases hint : readInt64 cs with
  | some n => simp [isSome_read_iff.mpr (written_of_readInt64 hint)]
  | none => cases read cs <;> simp [eq_comm]

/-- What the text of a value is.

It is an integer exactly when it is an optional sign with ASCII digits behind it that write an
integer of 64 bits, a binary64 number when it is any other numeral in ASCII digits, and otherwise
the text itself.  Three recognizers one behind another come to the same, the first of which may
take further characters for digits.  Integers are stored in 32 bits when they fit, as the same
number, and nothing that is read from a query line is a NaN. -/
theorem ofChars_grammar (raw : String) :
    (∀ n : Int64, ofChars raw.toList = .integer n ↔ WritesInt raw.toList n.toInt) ∧
    ((∃ x, ofChars raw.toList = .double x) ↔
      Written isDigit raw.toList ∧ ¬ ∃ n : Int64, WritesInt raw.toList n.toInt) ∧
    (∀ s, ofChars raw.toList = .text s ↔ ¬ Written isDigit raw.toList ∧ s = raw) ∧
    (∀ digit : Char → Bool, (∀ c : Char, c.toNat < 128 → digit c = isDigit c) →
      Recognized digit raw.toList (ofChars raw.toList)) ∧
    (∀ n : Int64,
      ((∃ m : Int32, (integer n).toBson = .int32 m ∧ m.toInt = n.toInt) ↔
        -2 ^ 31 ≤ n.toInt ∧ n.toInt < 2 ^ 31) ∧
      ((integer n).toBson = .int64 n ↔ ¬ (-2 ^ 31 ≤ n.toInt ∧ n.toInt < 2 ^ 31))) ∧
    (∀ x, ofChars raw.toList = .double x → x.isNaN = false) ∧
    ∀ line q, Session.readQuery line = .ok q →
      ∀ f ∈ q.toDocument, ∀ x, f.2 = .double x → x.isNaN = false := by
  refine ⟨fun n => ofChars_eq_integer, exists_ofChars_eq_double, ?_, ?_, ?_, ?_, ?_⟩
  · intro s
    rw [ofChars_eq_text, String.ofList_toList]
  · intro digit hascii
    exact recognized_ofChars hascii raw.toList
  · intro n
    exact ⟨Bson.narrow_eq_int32, Bson.narrow_eq_int64⟩
  · intro x hx
    have hatomic := atomic_ofChars raw.toList
    rw [hx] at hatomic
    exact hatomic.isNaN
  · intro line q hread f hf x hx
    have hatomic := Query.atomic_of_readQuery hread f hf
    rw [hx] at hatomic
    exact hatomic.isNaN

/-- ASCII digits, and the digits of a script of its own. -/
def arabicDigit (c : Char) : Bool :=
  isDigit c || ('\u0660' ≤ c && c ≤ '\u0669')

/-- At the end of the range an integer becomes a number of the other kind, and digits of another
script are a text although the first recognizer accepts them. -/
theorem ofChars_grammar_boundary :
    (∀ c : Char, c.toNat < 128 → arabicDigit c = isDigit c) ∧
    ofChars "-9223372036854775808".toList = .integer Int64.minValue ∧
    (∃ x, ofChars "9223372036854775808".toList = .double x) ∧
    Written arabicDigit "\u0661\u0662".toList ∧
    Recognized arabicDigit "\u0661\u0662".toList (ofChars "\u0661\u0662".toList) ∧
    ofChars "\u0661\u0662".toList = .text "\u0661\u0662" := by
  have hascii : ∀ c : Char, c.toNat < 128 → arabicDigit c = isDigit c := by
    intro c hc
    have hlow : ¬ '\u0660' ≤ c := by
      intro hle
      have hle' : 0x660 ≤ c.toNat := hle
      omega
    simp [arabicDigit, hlow]
  rcases ofChars_grammar "-9223372036854775808" with ⟨hinteger, -⟩
  rcases ofChars_grammar "9223372036854775808" with ⟨-, hdouble, -⟩
  rcases ofChars_grammar "\u0661\u0662" with ⟨-, -, htext, hrecognized, -⟩
  refine ⟨hascii, (hinteger _).mpr (readInt_eq_some.mp (by decide +kernel)), ?_, ?_,
    hrecognized arabicDigit hascii, (htext _).mpr ⟨?_, rfl⟩⟩
  · refine hdouble.mpr ⟨isSome_read_iff.mp (by decide +kernel), ?_⟩
    rintro ⟨n, hn⟩
    have hread : readInt "9223372036854775808".toList = some (2 ^ 63) := by decide +kernel
    rw [readInt_eq_some.mpr hn, Option.some.injEq] at hread
    have hlt := n.toInt_lt
    omega
  · have harabic : ∀ c ∈ "\u0661\u0662".toList, arabicDigit c = true :=
      List.all_eq_true.mp (by decide)
    exact ⟨[], "\u0661\u0662".toList, [], .absent, .whole ⟨by decide, harabic⟩, .absent, by decide⟩
  · rw [← isSome_read_iff]
    decide +kernel

/-- Blanks, signs and points alone, names and other notations are texts. -/
example : ["", " 42", "42\n", "+", ".", "1e", "e5", "inf", "NaN", "0x1F", "1_000", "+-1"].all
    (fun s => ofChars s.toList = .text s) = true := by decide +kernel

end Literal
end DocLoad
