import DocLoad.Proofs.Number.Positional
import DocLoad.Proofs.Render.Legible

/-!
# DocLoad.Proofs.Render.Words — keys and scalars are words

A *word* is a text of plain characters, or quoted text between plain characters: it can be seen
where it ends (`Word.sealed`), and it is neither empty nor broken (`Word.ne_nil`,
`Word.newline_not_mem`).  Keys are words, and so are the texts of all scalars with a notation of
their own (`ShellScalar.word`).  What is laid out for a value with such scalars (`ShellValue`)
consists of words, brackets and what stands between them (`ShellValue.worded_layout`).
-/

namespace DocLoad

namespace Shell

/-! ## Words -/

/-- Plain characters, one or more, or quoted text between plain characters. -/
inductive Word : List Char → Prop where
  | plain {t : List Char} (hne : t ≠ []) (ht : ∀ c ∈ t, isPlain c = true) : Word t
  | quoted {a b : List Char} (ha : ∀ c ∈ a, isPlain c = true) (cs : List Char)
      (hb : ∀ c ∈ b, isPlain c = true) : Word (a ++ (Shell.quoted cs ++ b))

/-- A word is not empty. -/
theorem Word.ne_nil {t : List Char} (h : Word t) : t ≠ [] := by
  cases h with
  | plain hne _ => exact hne
  | quoted ha cs hb => simp [Shell.quoted]

/-- It can be seen where a word ends. -/
theorem Word.sealed {t : List Char} (h : Word t) : Sealed .outside t := by
  cases h with
  | plain _ ht => exact sealed_plain ht
  | quoted ha cs hb => exact sealed_plain_append ha (sealed_quoted_append cs (sealed_plain hb))

theorem newline_not_mem_escape (c : Char) : '\n' ∉ escape c := by
  unfold escape
  split
  · next hc => rcases hc with rfl | rfl <;> decide
  · split
    · decide
    split
    · decide
    · next hnewline _ => exact fun h => hnewline (List.mem_singleton.mp h).symm

/-- A line break in a string is written as an escape, so no quoted text is broken. -/
theorem newline_not_mem_quoted (cs : List Char) : '\n' ∉ quoted cs := by
  have hquote : '\n' ≠ '\'' := by decide
  have hescaped : '\n' ∉ cs.flatMap escape := by
    intro h
    rcases List.mem_flatMap.mp h with ⟨c, -, hc⟩
    exact newline_not_mem_escape c hc
  simp [quoted, hquote, hescaped]

/-- No word holds a line break. -/
theorem Word.newline_not_mem {t : List Char} (h : Word t) : '\n' ∉ t := by
  have hplain : ∀ a : List Char, (∀ c ∈ a, isPlain c = true) → '\n' ∉ a := by
    intro a ha hmem
    exact absurd (ha _ hmem) (by decide)
  cases h with
  | plain _ ht => exact hplain _ ht
  | quoted ha cs hb =>
    rw [List.mem_append, List.mem_append, not_or, not_or]
    exact ⟨hplain _ ha, newline_not_mem_quoted cs, hplain _ hb⟩

/-- A quoted text is a word. -/
theorem word_quoted (cs : List Char) : Word (quoted cs) := by
  have hword : Word ([] ++ (quoted cs ++ [])) :=
    .quoted (List.forall_mem_nil _) cs (List.forall_mem_nil _)
  rwa [List.append_nil] at hword

theorem word_key (cs : List Char) : Word (key cs) := by
  unfold key
  split
  · next hident =>
    have hne : cs ≠ [] := by
      rintro rfl
      cases hident
    exact .plain hne fun c hc => isPlain_of_isIdentRest (isIdentRest_of_isIdent hident c hc)
  · exact word_quoted cs

/-! ## Numerals -/

open Numeral in
/-- All characters of a numeral are plain. -/
theorem isPlain_of_written {t : List Char} (h : Written Text.isDigit t) :
    ∀ c ∈ t, isPlain c = true := by
  have hdigits : ∀ ds : List Char, (∀ c ∈ ds, Text.isDigit c = true) →
      ∀ c ∈ ds, isPlain c = true := by
    intro ds hds c hc
    have hdigit : ('0' ≤ c && c ≤ '9') = true := hds c hc
    apply isPlain_of_isIdentRest
    rw [isIdentRest, hdigit, Bool.or_true]
  have hsign : ∀ s, IsSign s → ∀ c ∈ s, isPlain c = true := by
    rintro s (_ | _ | _) <;> exact List.all_eq_true.mp (by decide)
  have hpoint : isPlain '.' = true := by decide
  rcases h with ⟨s, m, e, hs, hm, he, rfl⟩
  -- sign, significand and exponent, one after another
  rw [List.forall_mem_append, List.forall_mem_append]
  refine ⟨hsign s hs, ?_, ?_⟩
  · cases hm with
    | whole hds => exact hdigits _ hds.2
    | point hds hfraction =>
      rw [List.forall_mem_append, List.forall_mem_cons]
      exact ⟨hdigits _ hds.2, hpoint, hdigits _ hfraction⟩
    | fraction hds =>
      rw [List.forall_mem_cons]
      exact ⟨hpoint, hdigits _ hds.2⟩
  · cases he with
    | absent => exact List.forall_mem_nil _
    | present hletter hs hds =>
      rw [List.forall_mem_cons, List.forall_mem_append]
      refine ⟨?_, hsign _ hs, hdigits _ hds.2⟩
      rcases hletter with rfl | rfl <;> decide

/-- A numeral is a word. -/
theorem word_of_written {t : List Char} (h : Numeral.Written Text.isDigit t) : Word t := by
  have hne : t ≠ [] := by
    rcases h with ⟨s, m, e, -, hm, -, rfl⟩
    rcases hm.head e with ⟨c, cs, hbody, -⟩
    simp [hbody]
  exact .plain hne (isPlain_of_written h)

/-- The text of an integer is a numeral. -/
theorem written_decimalInt (n : Int) : Numeral.Written Text.isDigit (Text.decimalInt n).toList := by
  have hread : (Text.readInt (Text.decimalInt n).toList).isSome = true := by
    rw [Text.readInt_decimalInt]
    rfl
  rcases Text.isSome_readInt_iff.mp hread with ⟨s, ds, hs, hds, htext⟩
  exact ⟨s, ds, [], hs, .whole hds, .absent, by rw [htext, List.append_nil]⟩

end Shell

namespace Bson

open Shell

/-! ## The texts of the scalars, one kind after another -/

theorem scalar_boolean (b : Bool) : (scalar (.boolean b)).toList =
    if b then ['t', 'r', 'u', 'e'] else ['f', 'a', 'l', 's', 'e'] := by
  have htext : scalar (.boolean b) = if b then "true" else "false" := rfl
  rw [htext]
  cases b <;> simp

theorem scalar_int32 (n : Int32) : scalar (.int32 n) = Text.decimalInt n.toInt := rfl

theorem scalar_int64 (n : Int64) : scalar (.int64 n) = Text.decimalInt n.toInt := rfl

theorem scalar_string (s : String) : (scalar (.string s)).toList = quoted s.toList :=
  String.toList_ofList

/-- Hexadecimal digits need no escapes. -/
theorem flatMap_escape_hexDigits (width n : Nat) :
    (ObjectId.hexDigits width n).flatMap escape = ObjectId.hexDigits width n := by
  have hdigit : ∀ n : Fin 16, escape (Text.hexDigit n) = [Text.hexDigit n] := by decide
  induction width generalizing n with
  | zero => rfl
  | succ width ih =>
    have hlast := hdigit ⟨n % 16, Nat.mod_lt n (by decide)⟩
    rw [ObjectId.hexDigits, List.flatMap_append, ih, List.flatMap_singleton, hlast]

/-- The text of an identifier is a quoted text in a call. -/
theorem scalar_objectId (id : ObjectId) :
    (scalar (.objectId id)).toList =
      ['O', 'b', 'j', 'e', 'c', 't', 'I', 'd', '('] ++ (quoted id.hex.toList ++ [')']) := by
  have htext : scalar (.objectId id) = "ObjectId('" ++ id.hex ++ "')" := rfl
  have hescape : id.hex.toList.flatMap escape = id.hex.toList := by
    rw [ObjectId.hex, String.toList_ofList]
    exact flatMap_escape_hexDigits 24 _
  rw [htext]
  simp [quoted, hescape]

/-- Decimal digits need no escapes. -/
theorem flatMap_escape_digits {cs : List Char} (h : ∀ c ∈ cs, Text.isDigit c = true) :
    cs.flatMap escape = cs := by
  have hspecial : ['\'', '\\', '\n', '\t'].all (fun d => !Text.isDigit d) = true := by decide
  induction cs with
  | nil => rfl
  | cons c cs ih =>
    rcases List.forall_mem_cons.mp h with ⟨hc, hcs⟩
    have hne : ∀ d ∈ ['\'', '\\', '\n', '\t'], c ≠ d := by
      rintro d hd rfl
      have hdigit := List.all_eq_true.mp hspecial c hd
      rw [hc] at hdigit
      cases hdigit
    simp only [List.forall_mem_cons] at hne
    rw [List.flatMap_cons, ih hcs]
    simp [escape, hne]

/-- Dates and times of day need no escapes. -/
theorem flatMap_escape_iso {m : Calendar.Moment} {iso : String} (h : m.iso? = some iso) :
    iso.toList.flatMap escape = iso.toList := by
  have hpadded : ∀ width n, (Text.decimalPadded width n).toList.flatMap escape =
      (Text.decimalPadded width n).toList :=
    fun width n => flatMap_escape_digits fun c hc => Text.isDigit_of_mem_decimalPadded hc
  have hfraction : (Calendar.fractionText m.nanosecond).toList.flatMap escape =
      (Calendar.fractionText m.nanosecond).toList := by
    apply flatMap_escape_digits
    intro c hc
    rw [Calendar.fractionText, String.toList_ofList] at hc
    exact Text.isDigit_of_mem_decimalPadded ((List.rdropWhile_prefix _ _).subset hc)
  have hmark : ∀ mark ∈ ["-", "T", ":", ".", "Z"], mark.toList.flatMap escape = mark.toList := by
    decide
  simp only [List.forall_mem_cons] at hmark
  unfold Calendar.Moment.iso? at h
  split at h
  · have htext := Option.some.inj h
    rw [← htext]
    simp only [String.toList_append, List.flatMap_append, hpadded, hmark]
    split
    · rfl
    · simp only [String.toList_append, List.flatMap_append, hfraction, hmark]
  · cases h

/-- The text of a date is a word: what is not plain in it stands in quotes. -/
theorem word_dateTime (millis : Int64) : Word (scalar (.dateTime millis)).toList := by
  unfold scalar
  dsimp only
  split
  · next iso hiso =>
    have htext : ("ISODate('" ++ iso ++ "')").toList =
        ['I', 'S', 'O', 'D', 'a', 't', 'e', '('] ++ (quoted iso.toList ++ [')']) := by
      simp [quoted, flatMap_escape_iso hiso]
    rw [htext]
    exact .quoted (List.all_eq_true.mp (by decide)) _ (List.all_eq_true.mp (by decide))
  · have htext : ("ISODate(" ++ Text.decimalInt millis.toInt ++ ")").toList =
        ['I', 'S', 'O', 'D', 'a', 't', 'e', '('] ++
          ((Text.decimalInt millis.toInt).toList ++ [')']) := by
      simp
    have hplain := isPlain_of_written (written_decimalInt millis.toInt)
    rw [htext]
    refine .plain (List.cons_ne_nil _ _) ?_
    rw [List.forall_mem_append, List.forall_mem_append]
    exact ⟨List.all_eq_true.mp (by decide), hplain, List.all_eq_true.mp (by decide)⟩

/-- The text of a double is a word, for infinities and NaN too. -/
theorem word_double (x : Double) : Word (scalar (.double x)).toList := by
  have htext : scalar (.double x) = x.positional "Infinity" := rfl
  rw [htext]
  rcases Nat.lt_trichotomy x.code Double.infinityCode with hfinite | hinfinite | hnan
  · exact word_of_written (Double.written_positional _ (decide_eq_true hfinite))
  · have hnan : x.isNaN = false := decide_eq_false (by omega)
    have hinfinite : x.isInfinite = true := beq_iff_eq.mpr hinfinite
    unfold Double.positional
    simp only [hnan, hinfinite, Bool.false_eq_true, if_false, if_true]
    cases x.negative <;> exact .plain (by decide) (List.all_eq_true.mp (by decide))
  · have hnan : x.isNaN = true := decide_eq_true hnan
    rw [Double.positional, hnan, if_pos rfl]
    exact .plain (by decide) (List.all_eq_true.mp (by decide))

/-! ## Values in shell notation -/

/-- The scalars with a notation of their own: null and undefined, booleans, integers, doubles,
strings, identifiers and dates. -/
inductive ShellScalar : Bson → Prop where
  | null : ShellScalar .null
  | undefined : ShellScalar .undefined
  | boolean (b : Bool) : ShellScalar (.boolean b)
  | int32 (n : Int32) : ShellScalar (.int32 n)
  | int64 (n : Int64) : ShellScalar (.int64 n)
  | double (x : Double) : ShellScalar (.double x)
  | string (s : String) : ShellScalar (.string s)
  | objectId (id : ObjectId) : ShellScalar (.objectId id)
  | dateTime (millis : Int64) : ShellScalar (.dateTime millis)

/-- Values built from such scalars, to any depth and with any keys. -/
inductive ShellValue : Bson → Prop where
  | scalar {v : Bson} (h : ShellScalar v) : ShellValue v
  | array {items : List Bson} (h : ∀ v ∈ items, ShellValue v) : ShellValue (.array items)
  | document {fields : List (String × Bson)} (h : ∀ f ∈ fields, ShellValue f.2) :
    ShellValue (.document fields)

/-- The text of every such scalar is a word. -/
theorem ShellScalar.word {v : Bson} (h : ShellScalar v) : Word (Shell.scalar v).toList := by
  cases h with
  | null | undefined => exact .plain (by decide) (List.all_eq_true.mp (by decide))
  | boolean b =>
    rw [scalar_boolean]
    cases b <;> exact .plain (List.cons_ne_nil _ _) (List.all_eq_true.mp (by decide))
  | int32 n => exact word_of_written (written_decimalInt n.toInt)
  | int64 n => exact word_of_written (written_decimalInt n.toInt)
  | double x => exact word_double x
  | string s =>
    rw [scalar_string]
    exact word_quoted _
  | objectId id =>
    rw [scalar_objectId]
    exact .quoted (List.all_eq_true.mp (by decide)) _ (List.all_eq_true.mp (by decide))
  | dateTime millis => exact word_dateTime millis

theorem ShellScalar.layout_eq {v : Bson} (h : ShellScalar v) :
    layout v = .atom (Shell.scalar v).toList := by
  cases h <;> rfl

theorem itemLayouts_eq_map (items : List Bson) :
    itemLayouts items = items.map fun v => ([], layout v) := by
  induction items with
  | nil => rfl
  | cons v vs ih => rw [itemLayouts, ih, List.map_cons]

theorem fieldLayouts_eq_map (fields : List (String × Bson)) :
    fieldLayouts fields =
      fields.map fun f => (Shell.key f.1.toList ++ [':', ' '], layout f.2) := by
  induction fields with
  | nil => rfl
  | cons f rest ih => rw [fieldLayouts, ih, List.map_cons]

end Bson

/-! ## Layouts made of words -/

namespace Layout

open Shell

/-- Nothing in front of the items of an array, and a word with a colon in front of the items of a
document. -/
def WordedLabel : Bracket → List Char → Prop
  | .square, label => label = []
  | .curly, label => ∃ k, Word k ∧ label = k ++ [':', ' ']

/-- A layout whose texts and labels are words. -/
inductive Worded : Layout → Prop where
  | atom {t : List Char} (ht : Word t) : Worded (.atom t)
  | block {b : Bracket} {items : List (List Char × Layout)}
      (hlabels : ∀ item ∈ items, WordedLabel b item.1) (hitems : ∀ item ∈ items, Worded item.2) :
      Worded (.block b items)

theorem Worded.legible {l : Layout} (h : Worded l) : Legible l := by
  induction h with
  | atom ht => exact .atom ht.ne_nil ht.sealed
  | @block b items hlabels _ ih =>
    refine .block (fun item hitem => ?_) ih
    have hlabel := hlabels item hitem
    cases b with
    | square => exact hlabel
    | curly =>
      rcases hlabel with ⟨k, hk, hlabel⟩
      exact ⟨k, hk.sealed, hlabel⟩

end Layout

/-- Values with such scalars are laid out from words. -/
theorem Bson.ShellValue.worded_layout {v : Bson} (h : ShellValue v) : v.layout.Worded := by
  induction h with
  | scalar h =>
    rw [h.layout_eq]
    exact .atom h.word
  | array h ih =>
    rw [layout, itemLayouts_eq_map]
    refine .block ?_ ?_ <;> rw [List.forall_mem_map]
    · exact fun v _ => rfl
    · exact ih
  | document h ih =>
    rw [layout, fieldLayouts_eq_map]
    refine .block ?_ ?_ <;> rw [List.forall_mem_map]
    · exact fun f _ => ⟨_, Shell.word_key f.1.toList, rfl⟩
    · exact ih

end DocLoad
