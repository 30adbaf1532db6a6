import DocLoad.Proofs.Render.Words

/-!
# DocLoad.Proofs.Render.Breaking — what is broken into lines

The layout of a list goes by its items as they are laid out, which depends on how deep they are
nested.  Yet whether a list is broken depends on one number only: the width of the list on one
line (`Worded.breaksIfWide`).  If all items are narrow together then each of them is, so none is
broken and they are laid out as they are on one line; and if none of them is broken, then their
widths are those of the one line.

For values this says which of them take more than a line at any depth, and that all others are
written on the one line that `Bson.oneLine` describes (`Bson.renderAt_breaks`).
-/

namespace DocLoad

namespace Layout

/-! ## Widths -/

theorem width_append (a b : List Char) : width (a ++ b) = width a + width b := by
  induction a with
  | nil => rw [List.nil_append, width, Nat.zero_add]
  | cons c cs ih => rw [List.cons_append, width, width, ih, Nat.add_assoc]

/-- The width of a text is how many bytes it takes. -/
theorem utf8ByteSize_ofList (cs : List Char) : (String.ofList cs).utf8ByteSize = width cs := by
  induction cs with
  | nil => rfl
  | cons c cs ih =>
    have hcons : String.ofList (c :: cs) = String.singleton c ++ String.ofList cs := by
      rw [String.singleton_eq_ofList, ← String.ofList_append]
      rfl
    rw [hcons, String.utf8ByteSize_append, String.utf8ByteSize_singleton, ih, width]

theorem width_le_totalWidth {t : List Char} {ts : List (List Char)} (h : t ∈ ts) :
    width t ≤ totalWidth ts := by
  induction ts with
  | nil => cases h
  | cons u us ih =>
    rw [totalWidth]
    rcases List.mem_cons.mp h with rfl | hmem
    · omega
    · have hrest := ih hmem
      omega

theorem joined_cons_cons (t u : List Char) (us : List (List Char)) :
    joined (t :: u :: us) = t ++ ',' :: ' ' :: joined (u :: us) := rfl

/-- Joined texts take two bytes less than `totalWidth` counts, for no separator stands behind the
last one. -/
theorem width_joined_cons (t : List Char) (ts : List (List Char)) :
    width (joined (t :: ts)) + 2 = totalWidth (t :: ts) := by
  induction ts generalizing t with
  | nil => rfl
  | cons u us ih =>
    have hcomma : Char.utf8Size ',' = 1 := by decide
    have hblank : Char.utf8Size ' ' = 1 := by decide
    have hrest := ih u
    rw [joined_cons_cons, width_append, width, width, totalWidth, hcomma, hblank]
    omega

/-- Brackets and blanks take two bytes more than the separator behind the last item. -/
theorem width_inline_cons (b : Bracket) (t : List Char) (ts : List (List Char)) :
    width (inline b (t :: ts)) = totalWidth (t :: ts) + 2 := by
  have hopening : b.opening.utf8Size = 1 := by cases b <;> decide
  have hclosing : b.closing.utf8Size = 1 := by cases b <;> decide
  have hblank : Char.utf8Size ' ' = 1 := by decide
  have hjoined := width_joined_cons t ts
  have hinline : inline b (t :: ts) = b.opening :: ' ' :: joined (t :: ts) ++ [' ', b.closing] :=
    rfl
  rw [hinline]
  simp only [List.cons_append, width, width_append, hopening, hclosing, hblank]
  omega

/-! ## Line breaks -/

/-- Items fit on a line if they are not too wide together and none of them is broken. -/
theorem fits_iff {ts : List (List Char)} :
    fits ts = true ↔ totalWidth ts ≤ inlineWidth ∧ ∀ t ∈ ts, '\n' ∉ t := by
  simp [fits]

/-- A list on one line has no line break if its items have none. -/
theorem newline_not_mem_inline {ts : List (List Char)} (h : ∀ t ∈ ts, '\n' ∉ t) (b : Bracket) :
    '\n' ∉ inline b ts := by
  have hbrackets : '\n' ≠ b.opening ∧ '\n' ≠ b.closing := by cases b <;> decide
  have hjoined : '\n' ∉ joined ts := by
    induction ts with
    | nil => exact List.not_mem_nil
    | cons t ts ih =>
      rcases List.forall_mem_cons.mp h with ⟨ht, hts⟩
      cases ts with
      | nil => exact ht
      | cons u us => simp [joined_cons_cons, ht, ih hts]
  unfold inline
  split <;> simp [hbrackets, hjoined]

theorem flatItems_eq_map (items : List (List Char × Layout)) :
    flatItems items = items.map fun item => item.1 ++ flat item.2 := by
  induction items with
  | nil => rfl
  | cons item rest ih => rw [flatItems, ih, List.map_cons]

theorem textsAt_eq_map (depth : Nat) (items : List (List Char × Layout)) :
    textsAt depth items = items.map fun item => item.1 ++ textAt depth item.2 := by
  induction items with
  | nil => rfl
  | cons item rest ih => rw [textsAt, ih, List.map_cons]

/-- The labels of words hold no line break either. -/
theorem WordedLabel.newline_not_mem {b : Bracket} {label : List Char} (h : WordedLabel b label) :
    '\n' ∉ label := by
  cases b with
  | square =>
    have hlabel : label = [] := h
    rw [hlabel]
    exact List.not_mem_nil
  | curly =>
    rcases h with ⟨k, hk, rfl⟩
    simp [hk.newline_not_mem]

theorem newline_not_mem_flatItems {b : Bracket} {items : List (List Char × Layout)}
    (hlabels : ∀ item ∈ items, WordedLabel b item.1)
    (hitems : ∀ item ∈ items, '\n' ∉ flat item.2) : ∀ t ∈ flatItems items, '\n' ∉ t := by
  rw [flatItems_eq_map, List.forall_mem_map]
  intro item hitem
  rw [List.mem_append, not_or]
  exact ⟨(hlabels item hitem).newline_not_mem, hitems item hitem⟩

/-- The text on one line holds no line break. -/
theorem Worded.newline_not_mem_flat {l : Layout} (h : Worded l) : '\n' ∉ flat l := by
  induction h with
  | atom ht => exact ht.newline_not_mem
  | block hlabels _ ih => exact newline_not_mem_inline (newline_not_mem_flatItems hlabels ih) _

/-! ## Which lists are broken -/

/-- A list that is too wide for one line. -/
def Wide : Layout → Prop
  | .atom _ => False
  | .block b items => inlineWidth + 2 < width (flat (.block b items))

/-- At a depth, a layout is broken if it is wide, and else it is its one line. -/
structure BreaksIfWide (depth : Nat) (l : Layout) : Prop where
  broken : Wide l → '\n' ∈ textAt depth l
  inline : ¬ Wide l → textAt depth l = flat l

/-- A list that is too wide for one line is too wide for a place in another one. -/
theorem Wide.lt_width {l : Layout} (h : Wide l) : inlineWidth < width (flat l) := by
  cases l with
  | atom => cases h
  | block => exact Nat.lt_of_le_of_lt (Nat.le_add_right _ 2) h

section

variable {depth : Nat} {items : List (List Char × Layout)}

/-- Among items that are narrow together none is wide. -/
theorem not_wide_of_totalWidth_le (h : totalWidth (flatItems items) ≤ inlineWidth) :
    ∀ item ∈ items, ¬ Wide item.2 := by
  intro item hitem hwide
  have hmem : item.1 ++ flat item.2 ∈ flatItems items := by
    rw [flatItems_eq_map]
    exact List.mem_map_of_mem hitem
  have hle := width_le_totalWidth hmem
  have hlt := hwide.lt_width
  rw [width_append] at hle
  omega

variable (hitems : ∀ item ∈ items, BreaksIfWide depth item.2)
include hitems

/-- Among items that fit on a line as they are laid out none is wide. -/
theorem not_wide_of_fits (h : fits (textsAt depth items) = true) :
    ∀ item ∈ items, ¬ Wide item.2 := by
  intro item hitem hwide
  have hmem : item.1 ++ textAt depth item.2 ∈ textsAt depth items := by
    rw [textsAt_eq_map]
    exact List.mem_map_of_mem hitem
  have hnone : '\n' ∉ item.1 ++ textAt depth item.2 := (fits_iff.mp h).2 _ hmem
  exact hnone (List.mem_append_right _ ((hitems item hitem).broken hwide))

/-- If no item is wide, all are laid out as they are on one line. -/
theorem textsAt_eq_flatItems (h : ∀ item ∈ items, ¬ Wide item.2) :
    textsAt depth items = flatItems items := by
  rw [textsAt_eq_map, flatItems_eq_map]
  apply List.map_congr_left
  intro item hitem
  rw [(hitems item hitem).inline (h item hitem)]

/-- Items fit on a line as they are laid out exactly when they do on one line each. -/
theorem fits_textsAt_iff (hflat : ∀ t ∈ flatItems items, '\n' ∉ t) :
    fits (textsAt depth items) = true ↔ totalWidth (flatItems items) ≤ inlineWidth := by
  constructor
  · intro h
    have htexts := textsAt_eq_flatItems hitems (not_wide_of_fits hitems h)
    rw [htexts] at h
    exact (fits_iff.mp h).1
  · intro h
    have htexts := textsAt_eq_flatItems hitems (not_wide_of_totalWidth_le h)
    rw [htexts]
    exact fits_iff.mpr ⟨h, hflat⟩

end

/-- Lists break if they are wide, provided that their items do. -/
theorem breaksIfWide_block {depth : Nat} {b : Bracket} {items : List (List Char × Layout)}
    (hflat : ∀ t ∈ flatItems items, '\n' ∉ t)
    (hitems : ∀ item ∈ items, BreaksIfWide (depth + 1) item.2) :
    BreaksIfWide depth (.block b items) := by
  cases items with
  | nil =>
    have hnarrow : ¬ inlineWidth + 2 < width (inline b []) := by cases b <;> decide
    exact ⟨fun hwide => absurd hwide hnarrow, fun _ => rfl⟩
  | cons item rest =>
    -- the test on the items as they are laid out comes to one on their widths on one line
    have hfits := fits_textsAt_iff hitems hflat
    have hwide : Wide (.block b (item :: rest)) ↔
        ¬ totalWidth (flatItems (item :: rest)) ≤ inlineWidth := by
      have hwidth := width_inline_cons b (item.1 ++ flat item.2) (flatItems rest)
      rw [Wide, flat, flatItems, hwidth, Nat.not_le, Nat.add_lt_add_iff_right]
    rw [← hfits, Bool.not_eq_true] at hwide
    have hempty : (textsAt (depth + 1) (item :: rest)).isEmpty = false := rfl
    constructor
    · intro h
      simp only [textAt, hempty, hwide.mp h, Bool.or_false, Bool.false_eq_true, if_false]
      exact .tail _ List.mem_cons_self
    · intro h
      rw [hwide, Bool.not_eq_false] at h
      have htexts := textsAt_eq_flatItems hitems (not_wide_of_fits hitems h)
      simp only [textAt, h, Bool.or_true, if_true]
      rw [htexts, flat]

/-- A layout made of words is broken exactly if it is wide, at every depth. -/
theorem Worded.breaksIfWide {l : Layout} (h : Worded l) (depth : Nat) : BreaksIfWide depth l := by
  -- by the structure of the layout; the items of a list are one level deeper
  induction h generalizing depth with
  | atom => exact ⟨False.elim, fun _ => rfl⟩
  | @block b items hlabels hitems ih =>
    apply breaksIfWide_block
    · have hflat : ∀ item ∈ items, '\n' ∉ flat item.2 :=
        fun item hitem => (hitems item hitem).newline_not_mem_flat
      exact newline_not_mem_flatItems hlabels hflat
    · exact fun item hitem => ih item hitem (depth + 1)

/-! ## One line as a text -/

theorem joined_eq_intercalate (ts : List (List Char)) : joined ts = [',', ' '].intercalate ts := by
  induction ts with
  | nil => rfl
  | cons t ts ih =>
    cases ts with
    | nil => simp [joined, List.intercalate]
    | cons u us =>
      rw [joined_cons_cons, ih]
      simp [List.intercalate]

theorem inline_map_toList (b : Bracket) (texts : List String) :
    inline b (texts.map String.toList) =
      if texts.isEmpty then [b.opening, b.closing]
      else b.opening :: ' ' :: (", ".intercalate texts).toList ++ [' ', b.closing] := by
  rw [inline, List.isEmpty_map, joined_eq_intercalate, String.toList_intercalate]
  rfl

end Layout

/-! ## Values -/

namespace Bson

/-- The text of a value that is nested some levels deep. -/
def renderAt (depth : Nat) (v : Bson) : String :=
  String.ofList (v.layout.textAt depth)

/-- The text of a value on one line. -/
def oneLine (v : Bson) : String :=
  String.ofList v.layout.flat

/-- Whether a value is an array or a document. -/
def isContainer : Bson → Bool
  | .array _ | .document _ => true
  | _ => false

theorem ShellScalar.oneLine_eq {v : Bson} (h : ShellScalar v) : v.oneLine = Shell.scalar v := by
  rw [oneLine, h.layout_eq, Layout.flat, String.ofList_toList]

/-- The line of an array: brackets with blanks inside them, and commas between the items. -/
theorem oneLine_array (items : List Bson) :
    (array items).oneLine =
      if items.isEmpty then "[]" else "[ " ++ ", ".intercalate (items.map oneLine) ++ " ]" := by
  have htexts : Layout.flatItems (itemLayouts items) = (items.map oneLine).map String.toList := by
    rw [Layout.flatItems_eq_map, itemLayouts_eq_map, List.map_map, List.map_map]
    simp [Function.comp_def, oneLine]
  apply String.toList_inj.mp
  rw [oneLine, layout, Layout.flat, htexts, Layout.inline_map_toList, List.isEmpty_map,
    String.toList_ofList]
  split <;> simp [Bracket.opening, Bracket.closing]

/-- The line of a document: braces with blanks inside them, and commas between the fields. -/
theorem oneLine_document (fields : List (String × Bson)) :
    (document fields).oneLine =
      if fields.isEmpty then "\x7b\x7d"
      else "\x7b " ++ ", ".intercalate (fields.map fun f =>
        String.ofList (Shell.key f.1.toList) ++ ": " ++ f.2.oneLine) ++ " \x7d" := by
  have htexts : Layout.flatItems (fieldLayouts fields) =
      (fields.map fun f =>
        String.ofList (Shell.key f.1.toList) ++ ": " ++ f.2.oneLine).map String.toList := by
    rw [Layout.flatItems_eq_map, fieldLayouts_eq_map, List.map_map, List.map_map]
    simp [Function.comp_def, oneLine]
  apply String.toList_inj.mp
  rw [oneLine, layout, Layout.flat, htexts, Layout.inline_map_toList, List.isEmpty_map,
    String.toList_ofList]
  split <;> simp [Bracket.opening, Bracket.closing]

/-- The layout of a value is wide if the value is an array or a document of more than 74 bytes. -/
theorem wide_layout_iff {v : Bson} (h : ShellValue v) :
    v.layout.Wide ↔ v.isContainer = true ∧ 74 < v.oneLine.utf8ByteSize := by
  cases h with
  | scalar h =>
    have hscalar : v.isContainer = false := by cases h <;> rfl
    rw [h.layout_eq, hscalar]
    exact ⟨False.elim, fun hwide => absurd hwide.1 (by decide)⟩
  | array =>
    rw [oneLine, Layout.utf8ByteSize_ofList]
    exact ⟨fun hwide => ⟨rfl, hwide⟩, fun hwide => hwide.2⟩
  | document =>
    rw [oneLine, Layout.utf8ByteSize_ofList]
    exact ⟨fun hwide => ⟨rfl, hwide⟩, fun hwide => hwide.2⟩

/-- Exactly the arrays and documents whose one line is longer than 74 bytes are broken into lines,
at every depth, and all else is written on its one line. -/
theorem renderAt_breaks {v : Bson} (h : ShellValue v) (depth : Nat) :
    ('\n' ∈ (v.renderAt depth).toList ↔ v.isContainer = true ∧ 74 < v.oneLine.utf8ByteSize) ∧
      ('\n' ∉ (v.renderAt depth).toList → v.renderAt depth = v.oneLine) := by
  have hbreaks := h.worded_layout.breaksIfWide depth
  rw [← wide_layout_iff h]
  have hflat := h.worded_layout.newline_not_mem_flat
  unfold renderAt oneLine
  rw [String.toList_ofList]
  constructor
  · constructor
    · intro hmem
      by_contra hnarrow
      rw [hbreaks.inline hnarrow] at hmem
      exact hflat hmem
    · exact hbreaks.broken
  · intro hmem
    have hnarrow : ¬ v.layout.Wide := fun hwide => hmem (hbreaks.broken hwide)
    rw [hbreaks.inline hnarrow]

/-- As many sevens, which take three bytes each on one line. -/
def sevens (count : Nat) : Bson :=
  .array (List.replicate count (.int32 7))

theorem shellValue_sevens (count : Nat) : ShellValue (sevens count) := by
  refine .array fun v hv => ?_
  rw [List.eq_of_mem_replicate hv]
  exact .scalar (.int32 7)

/-- Of twenty-four sevens the one line is just short enough; one more and they are broken. -/
theorem renderAt_breaks_sevens :
    ShellValue (sevens 24) ∧ ShellValue (sevens 25) ∧ (sevens 24).oneLine.utf8ByteSize = 74 ∧
      (sevens 24).renderAt 3 = (sevens 24).oneLine ∧ '\n' ∈ ((sevens 25).renderAt 3).toList := by
  have hnarrow : (sevens 24).oneLine.utf8ByteSize = 74 := by
    rw [oneLine, Layout.utf8ByteSize_ofList]
    decide
  have hwide : 74 < (sevens 25).oneLine.utf8ByteSize := by
    rw [oneLine, Layout.utf8ByteSize_ofList]
    decide
  have hbreaks := renderAt_breaks (shellValue_sevens 24) 3
  have hline : '\n' ∉ ((sevens 24).renderAt 3).toList := by
    rw [hbreaks.1, hnarrow]
    exact fun h => absurd h.2 (by decide)
  exact ⟨shellValue_sevens 24, shellValue_sevens 25, hnarrow, hbreaks.2 hline,
    (renderAt_breaks (shellValue_sevens 25) 3).1.mpr ⟨rfl, hwide⟩⟩

end Bson
end DocLoad
