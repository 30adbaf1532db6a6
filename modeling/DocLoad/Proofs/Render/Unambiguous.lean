import DocLoad.Proofs.Render.Words

/-!
# DocLoad.Proofs.Render.Unambiguous — a value is recovered from its rendering

Values built from null, booleans, integers, strings, identifiers, arrays and documents
(`Bson.Basic`) have the same rendering exactly when they are the same value, up to the width in
which integers are stored (`render_eq_iff`).  So nothing is left out of a rendering, whatever the
keys and strings are and wherever lines are broken.

The layout of such a value is legible (`Basic.legible_layout`), hence recovered from the text; its
scalars are read back with `readScalar` and its keys by `Shell.key_injective`.
-/

namespace DocLoad

namespace Bson

/-! ## Values that are recovered -/

/-- Null, booleans, integers, strings and identifiers. -/
inductive BasicScalar : Bson → Prop where
  | null : BasicScalar .null
  | boolean (b : Bool) : BasicScalar (.boolean b)
  | int32 (n : Int32) : BasicScalar (.int32 n)
  | int64 (n : Int64) : BasicScalar (.int64 n)
  | string (s : String) : BasicScalar (.string s)
  | objectId (id : ObjectId) : BasicScalar (.objectId id)

/-- Values built from such scalars, to any depth and with any keys. -/
inductive Basic : Bson → Prop where
  | scalar {v : Bson} (h : BasicScalar v) : Basic v
  | array {items : List Bson} (h : ∀ v ∈ items, Basic v) : Basic (.array items)
  | document {fields : List (String × Bson)} (h : ∀ f ∈ fields, Basic f.2) :
    Basic (.document fields)

mutual
/-- The value with every integer stored in 64 bits. -/
def widen : Bson → Bson
  | .int32 n => .int64 n.toInt64
  | .array items => .array (widenItems items)
  | .document fields => .document (widenFields fields)
  | other => other
/-- The items of an array with every integer stored in 64 bits. -/
def widenItems : List Bson → List Bson
  | [] => []
  | v :: vs => widen v :: widenItems vs
/-- The fields of a document with every integer stored in 64 bits. -/
def widenFields : List (String × Bson) → List (String × Bson)
  | [] => []
  | (k, v) :: rest => (k, widen v) :: widenFields rest
end

theorem widenItems_eq_map (items : List Bson) : widenItems items = items.map widen := by
  induction items with
  | nil => rfl
  | cons v vs ih => rw [widenItems, ih, List.map_cons]

theorem widenFields_eq_map (fields : List (String × Bson)) :
    widenFields fields = fields.map fun f => (f.1, widen f.2) := by
  induction fields with
  | nil => rfl
  | cons f rest ih => rw [widenFields, ih, List.map_cons]

/-! ## Scalars -/

open Shell

/-- The scalar that a text without a number stands for. -/
def readWord : List Char → Option Bson
  | 'n' :: _ => some .null
  | 't' :: _ => some (.boolean true)
  | 'f' :: _ => some (.boolean false)
  | '\'' :: cs => some (.string (String.ofList (unquote cs)))
  | 'O' :: cs => (ObjectId.ofHex? (unquote (cs.drop 9))).map .objectId
  | _ => none

/-- The scalar that a text stands for. -/
def readScalar (cs : List Char) : Option Bson :=
  match Text.readInt cs with
  | some n => some (.int64 (Int64.ofInt n))
  | none => readWord cs

/-- A text that does not start like a number is read as a word. -/
theorem readScalar_of_not_digit {c : Char} {cs : List Char} (hdigit : Text.isDigit c = false)
    (hminus : c ≠ '-') (hplus : c ≠ '+') : readScalar (c :: cs) = readWord (c :: cs) := by
  have hread : Text.readInt (c :: cs) = none := by
    rw [Text.readInt]
    · rw [Text.readDecimal, List.all_cons, hdigit]
      rfl
    · rintro _ ⟨⟩
      exact hminus rfl
    · rintro _ ⟨⟩
      exact hplus rfl
  rw [readScalar, hread]

/-- A scalar is read back from its text, with integers in 64 bits. -/
theorem readScalar_scalar {v : Bson} (h : BasicScalar v) :
    readScalar (scalar v).toList = some v.widen := by
  cases h with
  | null => rfl
  | boolean b =>
    rw [scalar_boolean]
    cases b <;> rfl
  | int32 n =>
    rw [scalar_int32, readScalar, Text.readInt_decimalInt]
    simp only [Int64.ofInt_int32ToInt, widen]
  | int64 n =>
    rw [scalar_int64, readScalar, Text.readInt_decimalInt]
    simp only [Int64.ofInt_toInt, widen]
  -- the other two start with a quote and a letter, so they are no numbers
  | string s =>
    rw [scalar_string, quoted, List.cons_append,
      readScalar_of_not_digit (by decide) (by decide) (by decide), readWord, unquote_escaped,
      String.ofList_toList]
    rfl
  | objectId id =>
    have hdrop : (['b', 'j', 'e', 'c', 't', 'I', 'd', '('] ++ (quoted id.hex.toList ++ [')'])).drop
        9 = id.hex.toList.flatMap escape ++ '\'' :: [')'] := by
      simp [quoted]
    rw [scalar_objectId, List.cons_append,
      readScalar_of_not_digit (by decide) (by decide) (by decide), readWord, hdrop,
      unquote_escaped, ObjectId.ofHex?_hex]
    rfl

/-! ## Values -/

theorem BasicScalar.shellScalar {v : Bson} (h : BasicScalar v) : ShellScalar v := by
  cases h with
  | null => exact .null
  | boolean b => exact .boolean b
  | int32 n => exact .int32 n
  | int64 n => exact .int64 n
  | string s => exact .string s
  | objectId id => exact .objectId id

/-- Basic values are built from scalars with a notation of their own. -/
theorem Basic.shellValue {v : Bson} (h : Basic v) : ShellValue v := by
  induction h with
  | scalar h => exact .scalar h.shellScalar
  | array _ ih => exact .array ih
  | document _ ih => exact .document ih

theorem layout_of_basicScalar {v : Bson} (h : BasicScalar v) :
    layout v = .atom (scalar v).toList :=
  h.shellScalar.layout_eq

/-- The layout of a basic value is legible, hence recovered from the text. -/
theorem Basic.legible_layout {v : Bson} (h : Basic v) : v.layout.Legible :=
  h.shellValue.worded_layout.legible

/-- Lists with the same images under `f` have the same images under `g`, if this is so for their
elements. -/
theorem map_eq_of_map_eq {α β γ : Type} {f : α → β} {g : α → γ} {as bs : List α}
    (hfg : ∀ a ∈ as, ∀ b ∈ bs, f a = f b → g a = g b) (h : as.map f = bs.map f) :
    as.map g = bs.map g := by
  induction as generalizing bs with
  | nil =>
    cases bs with
    | nil => rfl
    | cons b bs => cases h
  | cons a as ih =>
    cases bs with
    | nil => cases h
    | cons b bs =>
      obtain ⟨hhead, htail⟩ := List.cons.inj h
      have hg : g a = g b := hfg a List.mem_cons_self b List.mem_cons_self hhead
      have hrest : as.map g = bs.map g :=
        ih (fun a ha b hb => hfg a (.tail _ ha) b (.tail _ hb)) htail
      rw [List.map_cons, List.map_cons, hg, hrest]

/-- Basic values with one layout are the same up to the width of integers. -/
theorem Basic.widen_eq_of_layout_eq {v w : Bson} (hv : Basic v) (hw : Basic w)
    (h : v.layout = w.layout) : v.widen = w.widen := by
  induction hv generalizing w with
  | @scalar v hv =>
    -- the reader of scalars cannot tell the two apart, so neither can `widen`
    rw [layout_of_basicScalar hv] at h
    cases hw with
    | scalar hw =>
      rw [layout_of_basicScalar hw] at h
      have htext : (Shell.scalar v).toList = (Shell.scalar w).toList := Layout.atom.inj h
      have hread := readScalar_scalar hw
      rw [← htext, readScalar_scalar hv] at hread
      exact Option.some.inj hread
    | array => cases h
    | document => cases h
  | @array items _ ih =>
    cases hw with
    | scalar hw =>
      rw [layout_of_basicScalar hw] at h
      cases h
    | @array items' hitems' =>
      have hitems := (Layout.block.inj h).2
      rw [itemLayouts_eq_map, itemLayouts_eq_map] at hitems
      rw [widen, widen, widenItems_eq_map, widenItems_eq_map]
      refine congrArg _ (map_eq_of_map_eq ?_ hitems)
      exact fun v hv w hw hvw => ih v hv (hitems' w hw) (Prod.mk.inj hvw).2
    | document => cases h
  | @document fields _ ih =>
    cases hw with
    | scalar hw =>
      rw [layout_of_basicScalar hw] at h
      cases h
    | array => cases h
    | @document fields' hfields' =>
      have hfields := (Layout.block.inj h).2
      rw [fieldLayouts_eq_map, fieldLayouts_eq_map] at hfields
      rw [widen, widen, widenFields_eq_map, widenFields_eq_map]
      refine congrArg _ (map_eq_of_map_eq ?_ hfields)
      intro f hf f' hf' hff'
      obtain ⟨hlabel, hlayout⟩ := Prod.mk.inj hff'
      have hkey : f.1 = f'.1 :=
        String.toList_inj.mp (key_injective (List.append_cancel_right hlabel))
      rw [hkey, ih f hf (hfields' f' hf') hlayout]

/-- The width of integers is not rendered. -/
theorem Basic.layout_widen {v : Bson} (h : Basic v) : v.widen.layout = v.layout := by
  induction h with
  | scalar h =>
    cases h with
    | int32 n =>
      have htext : Shell.scalar (.int64 n.toInt64) = Shell.scalar (.int32 n) := by
        rw [scalar_int64, scalar_int32, Int32.toInt_toInt64]
      exact congrArg (fun s => Layout.atom s.toList) htext
    | _ => rfl
  | array h ih =>
    rw [widen, layout, layout, widenItems_eq_map, itemLayouts_eq_map, itemLayouts_eq_map,
      List.map_map]
    exact congrArg _ (List.map_congr_left fun v hv => congrArg _ (ih v hv))
  | document h ih =>
    rw [widen, layout, layout, widenFields_eq_map, fieldLayouts_eq_map, fieldLayouts_eq_map,
      List.map_map]
    exact congrArg _ (List.map_congr_left fun f hf => congrArg _ (ih f hf))

/-- Two values have the same rendering exactly when they are the same value, up to the width of
their integers: every key, every scalar and the nesting can be recovered from the text. -/
theorem render_eq_iff {v w : Bson} (hv : Basic v) (hw : Basic w) :
    v.render = w.render ↔ v.widen = w.widen := by
  constructor
  · intro h
    have htext : v.layout.text = w.layout.text := String.ofList_injective h
    exact hv.widen_eq_of_layout_eq hw
      (hv.legible_layout.text_injective hw.legible_layout htext)
  · intro h
    rw [render, render, ← hv.layout_widen, h, hw.layout_widen]

/-- A scalar in an array behind a key, with a string next to it; both need quotes. -/
def quotedRecord (v : Bson) : Bson :=
  .document [("two words", .array [v, .string "it's, [so]\n"])]

theorem basic_quotedRecord {v : Bson} (h : BasicScalar v) : Basic (quotedRecord v) := by
  refine .document fun f hf => ?_
  obtain rfl := List.mem_singleton.mp hf
  refine .array fun w hw => ?_
  rcases List.mem_cons.mp hw with rfl | hw
  · exact .scalar h
  · obtain rfl := List.mem_singleton.mp hw
    exact .scalar (.string _)

/-- The integer 1 is rendered alike in both widths, and not as the string 1 is. -/
theorem render_quotedRecord :
    let narrow := quotedRecord (.int32 1)
    let wide := quotedRecord (.int64 1)
    let text := quotedRecord (.string "1")
    Basic narrow ∧ Basic wide ∧ Basic text ∧ narrow.render = wide.render ∧
      narrow.render ≠ text.render := by
  intro narrow wide text
  have hnarrow : Basic narrow := basic_quotedRecord (.int32 1)
  have hwide : Basic wide := basic_quotedRecord (.int64 1)
  have htext : Basic text := basic_quotedRecord (.string "1")
  refine ⟨hnarrow, hwide, htext, (render_eq_iff hnarrow hwide).mpr rfl, fun h => ?_⟩
  have hwiden := (render_eq_iff hnarrow htext).mp h
  cases hwiden

end Bson
end DocLoad
