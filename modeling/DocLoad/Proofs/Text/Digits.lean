import DocLoad.Bson.Basic
import Mathlib.Algebra.Order.Ring.Int

/-!
# DocLoad.Proofs.Text.Digits — numbers read back from their digits

The digits of a number are read back as that number: `readDecimal_decimal` for natural numbers,
`readInt_decimalInt` for integers and `ofHex?_hex` for identifiers.  So different numbers have
different digits (`decimal_injective`), also where other text follows these (`decimal_append_inj`).
-/

namespace DocLoad

namespace Text

/-! ## Decimal digits -/

theorem isDigit_of_mem_toDigits {n : Nat} {c : Char} (h : c ∈ Nat.toDigits 10 n) :
    isDigit c = true := by
  have hdigit := Nat.isDigit_of_mem_toDigits (by decide) (by decide) h
  simpa [isDigit, Char.isDigit, Char.le_def] using hdigit

theorem isDigit_of_mem_zeros {count : Nat} {c : Char} (h : c ∈ List.replicate count '0') :
    isDigit c = true := by
  rw [List.eq_of_mem_replicate h]
  decide

theorem isDigit_of_mem_decimal {n : Nat} {c : Char} (h : c ∈ (decimal n).toList) :
    isDigit c = true := by
  rw [decimal, String.toList_ofList] at h
  exact isDigit_of_mem_toDigits h

theorem isDigit_of_mem_decimalPadded {width n : Nat} {c : Char}
    (h : c ∈ (decimalPadded width n).toList) : isDigit c = true := by
  rw [decimalPadded, String.toList_ofList] at h
  rcases List.mem_append.mp h with hzero | hdigit
  · exact isDigit_of_mem_zeros hzero
  · exact isDigit_of_mem_toDigits hdigit

theorem decimal_ne_nil (n : Nat) : (decimal n).toList ≠ [] := by
  rw [decimal, String.toList_ofList]
  exact Nat.toDigits_ne_nil

/-- A natural number is read back from its digits. -/
theorem readDecimal_decimal (n : Nat) : readDecimal (decimal n).toList = some n := by
  have hall : (decimal n).toList.all isDigit = true :=
    List.all_eq_true.mpr fun c hc => isDigit_of_mem_decimal hc
  have hvalue : decimalValue (decimal n).toList = n := by
    rw [decimal, String.toList_ofList]
    have h := Nat.ofDigitChars_ten_toDigits (n := n)
    rwa [Nat.ofDigitChars_eq_foldl] at h
  have hempty : (decimal n).toList.isEmpty = false :=
    List.isEmpty_eq_false_iff.mpr (decimal_ne_nil n)
  rw [readDecimal, hempty, hall, hvalue]
  rfl

/-- Different numbers have different digits. -/
theorem decimal_injective {m n : Nat} (h : decimal m = decimal n) : m = n := by
  have hread := readDecimal_decimal m
  rw [h, readDecimal_decimal] at hread
  exact (Option.some.inj hread).symm

/-- Digits and what follows them are told apart. -/
theorem spanDigits_eq {ds rest : List Char} (hds : ∀ c ∈ ds, isDigit c = true)
    (hrest : ∀ c ∈ rest.head?, isDigit c = false) : spanDigits (ds ++ rest) = (ds, rest) := by
  have hnone : rest.takeWhile isDigit = [] ∧ rest.dropWhile isDigit = rest := by
    cases rest with
    | nil => exact ⟨rfl, rfl⟩
    | cons c rest => simp [hrest c rfl]
  rw [spanDigits, List.takeWhile_append_of_pos hds, List.dropWhile_append_of_pos hds, hnone.1,
    hnone.2, List.append_nil]

/-- The number in front of a text that does not start with a digit, and that text, are told from
the two together. -/
theorem decimal_append_inj {m n : Nat} {s t : List Char}
    (hs : ∀ c ∈ s.head?, isDigit c = false) (ht : ∀ c ∈ t.head?, isDigit c = false)
    (h : (decimal m).toList ++ s = (decimal n).toList ++ t) : m = n ∧ s = t := by
  have hspan : spanDigits ((decimal m).toList ++ s) = ((decimal m).toList, s) :=
    spanDigits_eq (fun _ hc => isDigit_of_mem_decimal hc) hs
  rw [h, spanDigits_eq (fun _ hc => isDigit_of_mem_decimal hc) ht] at hspan
  obtain ⟨hdigits, htext⟩ := Prod.mk.inj hspan
  exact ⟨(decimal_injective (String.toList_injective hdigits)).symm, htext.symm⟩

/-- A text without a sign is read as it stands. -/
theorem readInt_of_digit {c : Char} {cs : List Char} (h : isDigit c = true) :
    readInt (c :: cs) = (readDecimal (c :: cs)).map fun n => (n : Int) := by
  rw [readInt]
  · rintro _ ⟨⟩
    cases h
  · rintro _ ⟨⟩
    cases h

/-- An integer is read back from its sign and digits. -/
theorem readInt_decimalInt (n : Int) : readInt (decimalInt n).toList = some n := by
  cases n with
  | ofNat n =>
    have hread := readDecimal_decimal n
    rw [decimalInt]
    cases h : (decimal n).toList with
    | nil => exact absurd h (decimal_ne_nil n)
    | cons c cs =>
      have hc : isDigit c = true := isDigit_of_mem_decimal (h ▸ List.mem_cons_self)
      rw [readInt_of_digit hc, ← h, hread]
      rfl
  | negSucc n =>
    rw [decimalInt, String.toList_append]
    change (readDecimal (decimal (n + 1)).toList).map (fun n => -(n : Int)) = _
    rw [readDecimal_decimal]
    rfl

end Text

namespace ObjectId

/-! ## Hexadecimal digits -/

theorem hexValue_hexDigit {n : Nat} (h : n < 16) : Text.hexValue (Text.hexDigit n) = some n := by
  have hall : ∀ n : Fin 16, Text.hexValue (Text.hexDigit n) = some n.val := by decide
  exact hall ⟨n, h⟩

theorem length_hexDigits (width n : Nat) : (hexDigits width n).length = width := by
  induction width generalizing n with
  | zero => rfl
  | succ width ih => simp [hexDigits, ih]

/-- A further digit counts once, and those in front of it sixteen times. -/
theorem hexNumber_append_singleton (cs : List Char) (c : Char) :
    Text.hexNumber (cs ++ [c]) =
      (Text.hexNumber cs).bind fun n => (Text.hexValue c).map fun d => 16 * n + d := by
  rw [Text.hexNumber, List.foldl_append]
  change ((Text.hexNumber cs).bind fun n => (Text.hexValue c).bind fun d => some (16 * n + d)) = _
  simp only [Option.map_eq_bind]
  rfl

/-- The last digits of a number are read back as its remainder. -/
theorem hexNumber_hexDigits (width n : Nat) :
    Text.hexNumber (hexDigits width n) = some (n % 16 ^ width) := by
  induction width generalizing n with
  | zero => simp [hexDigits, Text.hexNumber, Nat.mod_one]
  | succ width ih =>
    have hdigit := hexValue_hexDigit (Nat.mod_lt n (by decide : 16 > 0))
    rw [hexDigits, hexNumber_append_singleton, ih, hdigit]
    have hmod : n % 16 ^ (width + 1) = 16 * (n / 16 % 16 ^ width) + n % 16 := by
      rw [Nat.pow_succ, Nat.mul_comm, Nat.mod_mul]
      omega
    rw [hmod]
    rfl

/-- An identifier is read back from its 24 digits. -/
theorem ofHex?_hex (id : ObjectId) : ofHex? id.hex.toList = some id := by
  have hvalue : id.value.toNat % 16 ^ 24 = id.value.toNat := Nat.mod_eq_of_lt id.value.isLt
  rw [hex, String.toList_ofList, ofHex?, length_hexDigits, hexNumber_hexDigits, hvalue]
  simp

end ObjectId
end DocLoad
