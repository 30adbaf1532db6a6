import DocLoad.Proofs.Render.Breaking

/-!
# DocLoad.Proofs.Render.Indentation — lines are indented by their nesting

A `Reader` goes through a text in shell notation and counts the brackets outside quotes that are
open.  A text *wraps* another one when it has line breaks in place of some blanks, each with two
blanks behind it for every open bracket, where a bracket that is closed next does not count
(`Wraps`).  Undoing the line breaks then gives the other text back (`Wraps.unwrap_eq`), and the
indentation can be read off wherever the text is cut (`Wraps.indented`).

The text of every layout made of words wraps its one line, and has as many open brackets at its
start as it is deep (`Worded.wrapsItem`).  Hence a rendering is the one line of its value, broken
between items and indented by what is open there (`Bson.render_wraps`).
-/

namespace DocLoad

namespace Shell

/-! ## Open brackets -/

def isOpening (c : Char) : Bool :=
  c == '[' || c == '\x7b'

def isClosing (c : Char) : Bool :=
  c == ']' || c == '\x7d'

/-- A reader of shell notation: where it is, and how many brackets outside quotes are open. -/
structure Reader where
  quoting : Quoting
  nesting : Nat
deriving DecidableEq, Repr

namespace Reader

/-- A reader outside quotes. -/
def outside (nesting : Nat) : Reader :=
  ⟨.outside, nesting⟩

/-- The reader after one more character. -/
def next (r : Reader) (c : Char) : Reader where
  quoting := r.quoting.next c
  nesting :=
    if r.quoting ≠ .outside then r.nesting
    else if isOpening c then r.nesting + 1
    else if isClosing c then r.nesting - 1
    else r.nesting

/-- The reader after a text. -/
def read (r : Reader) (cs : List Char) : Reader :=
  cs.foldl next r

end Reader

/-- The number of brackets outside quotes that a text opens and does not close. -/
def openBrackets (cs : List Char) : Nat :=
  ((Reader.outside 0).read cs).nesting

theorem read_append (r : Reader) (a b : List Char) : r.read (a ++ b) = (r.read a).read b := by
  rw [Reader.read, List.foldl_append]
  rfl

/-- What is no delimiter is no bracket. -/
theorem not_bracket_of_not_mem {c : Char} (h : c ∉ delimiters) :
    isOpening c = false ∧ isClosing c = false := by
  simp only [delimiters, List.mem_cons, not_or] at h
  simp [isOpening, isClosing, h]

/-- A sealed text leaves all brackets as they are. -/
theorem read_sealed {q : Quoting} {t : List Char} (h : Sealed q t) (n : Nat) :
    Reader.read ⟨q, n⟩ t = .outside n := by
  induction h with
  | nil => rfl
  | @cons q c cs hc _ ih =>
    have hnext : Reader.next ⟨q, n⟩ c = ⟨q.next c, n⟩ := by
      by_cases hq : q = .outside
      · have hbracket := not_bracket_of_not_mem (hc hq)
        simp [Reader.next, hbracket]
      · simp [Reader.next, hq]
    have hread : Reader.read ⟨q, n⟩ (c :: cs) = (Reader.next ⟨q, n⟩ c).read cs := rfl
    rw [hread, hnext, ih]

example : openBrackets "[ 'it\\'s ]', [], \x7b key: [".toList = 3 := by decide

/-- Blanks outside quotes change nothing. -/
theorem read_indent (n count : Nat) :
    (Reader.outside n).read (List.replicate count ' ') = .outside n := by
  induction count with
  | zero => rfl
  | succ count ih => exact ih

/-! ## Line breaks in place of blanks -/

/-- The text with a blank for every line break and the blanks behind it. -/
def unwrap : List Char → List Char
  | [] => []
  | c :: cs => if c = '\n' then ' ' :: unwrap (cs.dropWhile (· = ' ')) else c :: unwrap cs
termination_by cs => cs.length
decreasing_by
  · exact Nat.lt_succ_of_le (List.length_dropWhile_le _ _)
  · exact Nat.lt_succ_self _

/-- A reader gets from `r` to `r'` over `t`, and `t` is `u` up to line breaks in place of blanks,
behind which the text is indented by the brackets that are open and not closed next. -/
inductive Wraps : Reader → List Char → List Char → Reader → Prop where
  | nil {r : Reader} : Wraps r [] [] r
  | char {r r' : Reader} {c : Char} {t u : List Char} (hc : c ≠ '\n')
      (h : Wraps (r.next c) t u r') : Wraps r (c :: t) (c :: u) r'
  | line {n k : Nat} {r' : Reader} {c : Char} {t u : List Char} (hc : c ∉ [' ', '\n'])
      (hk : n = k + if isClosing c then 1 else 0) (h : Wraps (.outside n) (c :: t) u r') :
      Wraps (.outside n) ('\n' :: (List.replicate (2 * k) ' ' ++ c :: t)) (' ' :: u) r'

namespace Wraps

/-- Texts that wrap others can be put one behind another. -/
theorem append {r r' r'' : Reader} {t u t' u' : List Char} (h : Wraps r t u r')
    (h' : Wraps r' t' u' r'') : Wraps r (t ++ t') (u ++ u') r'' := by
  induction h with
  | nil => exact h'
  | char hc _ ih => exact .char hc (ih h')
  | line hc hk _ ih =>
    have hline := Wraps.line hc hk (ih h')
    simpa using hline

/-- A text without line breaks stays as it is. -/
theorem of_newline_not_mem {t : List Char} (h : '\n' ∉ t) (r : Reader) :
    Wraps r t t (r.read t) := by
  induction t generalizing r with
  | nil => exact .nil
  | cons c cs ih =>
    rw [List.mem_cons, not_or] at h
    exact .char (Ne.symm h.1) (ih h.2 (r.next c))

/-- A word wraps itself, and leaves the brackets as they are. -/
theorem of_word {t : List Char} (h : Word t) (n : Nat) : Wraps (.outside n) t t (.outside n) := by
  have hwraps := of_newline_not_mem h.newline_not_mem (.outside n)
  rwa [Reader.outside, read_sealed h.sealed] at hwraps

/-- Undoing the line breaks of a text gives back the one that it wraps. -/
theorem unwrap_eq {r r' : Reader} {t u : List Char} (h : Wraps r t u r') : unwrap t = u := by
  induction h with
  | nil => rw [unwrap]
  | char hc _ ih => rw [unwrap, if_neg hc, ih]
  | @line n k r' c t u hc _ _ ih =>
    have hblanks : (List.replicate (2 * k) ' ' ++ c :: t).dropWhile (· = ' ') = c :: t := by
      rw [List.dropWhile_append_of_pos, List.dropWhile_cons_of_neg]
      · simpa using List.ne_of_not_mem_cons hc
      · intro d hd
        exact decide_eq_true (List.eq_of_mem_replicate hd)
    rw [unwrap, if_pos rfl, hblanks, ih]

/-- Behind every line break stand two blanks for each bracket that is open there and not closed
next. -/
theorem indented {r r' : Reader} {t u : List Char} (h : Wraps r t u r') {before after : List Char}
    (ht : t = before ++ '\n' :: after) :
    ∃ k c rest, after = List.replicate (2 * k) ' ' ++ c :: rest ∧ c ∉ [' ', '\n'] ∧
      (r.read before).nesting = k + if isClosing c then 1 else 0 := by
  induction h generalizing before with
  | nil => simp at ht
  | char hc _ ih =>
    cases before with
    | nil => exact absurd (List.cons.inj ht).1 hc
    | cons d before =>
      rcases List.cons.inj ht with ⟨rfl, htail⟩
      exact ih htail
  | @line n k r' c t u hc hk _ ih =>
    cases before with
    | nil => exact ⟨k, c, t, (List.cons.inj ht).2.symm, hc, hk⟩
    | cons d before =>
      rcases List.cons.inj ht with ⟨rfl, htail⟩
      -- a later line break does not stand among the blanks
      rcases List.append_eq_append_iff.mp htail with
        ⟨behind, hbefore, hcut⟩ | ⟨blanks, hcut, hafter⟩
      · rcases ih hcut with ⟨k', c', rest, hrest, hc', hk'⟩
        refine ⟨k', c', rest, hrest, hc', ?_⟩
        have hread : (Reader.outside n).read ('\n' :: List.replicate (2 * k) ' ') = .outside n :=
          read_indent n (2 * k)
        rw [hbefore, ← List.cons_append, read_append, hread]
        exact hk'
      · have hblank : '\n' ∈ List.replicate (2 * k) ' ' ∨ '\n' = c := by
          cases blanks with
          | nil => exact .inr (List.cons.inj hafter).1
          | cons b bs =>
            rw [← (List.cons.inj hafter).1] at hcut
            exact .inl (hcut ▸ List.mem_append_right before List.mem_cons_self)
        rcases hblank with hmem | rfl
        · exact absurd (List.eq_of_mem_replicate hmem) (by decide)
        · exact absurd hc (by decide)

end Wraps
end Shell

/-! ## Layouts -/

namespace Layout

open Shell

/-- What may stand behind the indentation of an item: no blank, no line break and no closing
bracket. -/
def Starts (t : List Char) : Prop :=
  ∃ c cs, t = c :: cs ∧ c ∉ [' ', '\n'] ∧ isClosing c = false

theorem Starts.append {t : List Char} (h : Starts t) (rest : List Char) : Starts (t ++ rest) := by
  rcases h with ⟨c, cs, rfl, hc⟩
  exact ⟨c, cs ++ rest, rfl, hc⟩

theorem starts_of_word {t : List Char} (h : Word t) : Starts t := by
  rcases List.exists_cons_of_ne_nil h.ne_nil with ⟨c, cs, rfl⟩
  have hc : c ∉ delimiters := h.sealed.head
  have hblanks : [' ', '\n'] ⊆ delimiters := by decide
  exact ⟨c, cs, rfl, fun hmem => hc (hblanks hmem), (not_bracket_of_not_mem hc).2⟩

/-- At a depth, `t` is what is laid out for an item whose one line is `u`. -/
structure WrapsItem (depth : Nat) (t u : List Char) : Prop where
  starts : Starts t
  wraps : Wraps (.outside depth) t u (.outside depth)

theorem WrapsItem.of_word {t : List Char} (h : Word t) (depth : Nat) : WrapsItem depth t t :=
  ⟨starts_of_word h, .of_word h depth⟩

/-- Labels stand in front of the items as they are. -/
theorem WrapsItem.label {b : Bracket} {depth : Nat} {label t u : List Char}
    (hlabel : WordedLabel b label) (h : WrapsItem depth t u) :
    WrapsItem depth (label ++ t) (label ++ u) := by
  cases b with
  | square =>
    have hnil : label = [] := hlabel
    rw [hnil]
    exact h
  | curly =>
    rcases hlabel with ⟨k, hk, rfl⟩
    have hcolon : Wraps (.outside depth) [':', ' '] [':', ' '] (.outside depth) :=
      .of_newline_not_mem (by decide) _
    have hlabel := (Wraps.of_word hk depth).append hcolon
    exact ⟨((starts_of_word hk).append _).append t, hlabel.append h.wraps⟩

/-- A closing bracket takes the nesting back by one. -/
theorem wraps_closing (b : Bracket) (depth : Nat) :
    Wraps (.outside (depth + 1)) [b.closing] [b.closing] (.outside depth) := by
  cases b <;> exact .char (by decide) .nil

section

variable {depth : Nat} (spread : Spread)

/-- In front of an item stands a blank, or the line break that is put in its place. -/
theorem wraps_lead {t u : List Char} (h : WrapsItem (depth + 1) t u) :
    Wraps (.outside (depth + 1)) (spread.lead depth ++ t) (' ' :: u) (.outside (depth + 1)) := by
  cases spread with
  | inline => exact .char (by decide) h.wraps
  | broken =>
    rcases h with ⟨⟨c, cs, rfl, hc, hclosing⟩, hwraps⟩
    have hk : depth + 1 = depth + 1 + if isClosing c then 1 else 0 := by rw [hclosing]; rfl
    exact .line hc hk hwraps

/-- The closing bracket is indented less than the items. -/
theorem wraps_stop (b : Bracket) :
    Wraps (.outside (depth + 1)) (spread.stop b depth) [' ', b.closing] (.outside depth) := by
  have hclosing := wraps_closing b depth
  cases spread with
  | inline => exact .char (by decide) hclosing
  | broken =>
    have hc : b.closing ∉ [' ', '\n'] := by cases b <;> decide
    have hk : depth + 1 = depth + if isClosing b.closing then 1 else 0 := by cases b <;> rfl
    exact .line hc hk hclosing

end

/-- The further items of a list, and its end. -/
theorem wraps_following {b : Bracket} {depth : Nat} (spread : Spread)
    {items : List (List Char × Layout)}
    (h : ∀ item ∈ items, WrapsItem (depth + 1) (item.1 ++ textAt (depth + 1) item.2)
      (item.1 ++ flat item.2)) :
    Wraps (.outside (depth + 1))
      (following (spread.lead depth) (spread.stop b depth) (textsAt (depth + 1) items))
      (following (Spread.inline.lead depth) (Spread.inline.stop b depth) (flatItems items))
      (.outside depth) := by
  induction items with
  | nil => exact wraps_stop spread b
  | cons item rest ih =>
    rcases List.forall_mem_cons.mp h with ⟨hitem, hrest⟩
    have hfirst := (wraps_lead spread hitem).append (ih hrest)
    exact Wraps.char (c := ',') (by decide) hfirst

/-- A list wraps its one line if its items do, one level deeper. -/
theorem wrapsItem_block {b : Bracket} {depth : Nat} {items : List (List Char × Layout)}
    (h : ∀ item ∈ items, WrapsItem (depth + 1) (item.1 ++ textAt (depth + 1) item.2)
      (item.1 ++ flat item.2)) :
    WrapsItem depth (textAt depth (.block b items)) (flat (.block b items)) := by
  have hopening : b.opening ∉ [' ', '\n'] ∧ isClosing b.opening = false := by cases b <;> decide
  have hnewline : b.opening ≠ '\n' := by cases b <;> decide
  have hnext : (Reader.outside depth).next b.opening = .outside (depth + 1) := by cases b <;> rfl
  -- behind the opening bracket one more is open
  have hopen : ∀ {t u : List Char}, Wraps (.outside (depth + 1)) t u (.outside depth) →
      WrapsItem depth (b.opening :: t) (b.opening :: u) := by
    intro t u hwraps
    refine ⟨⟨_, _, rfl, hopening⟩, .char hnewline ?_⟩
    rw [hnext]
    exact hwraps
  cases items with
  | nil => exact hopen (wraps_closing b depth)
  | cons item rest =>
    rcases textAt_block_cons b depth item.1 item.2 rest with ⟨spread, htext⟩
    rcases List.forall_mem_cons.mp h with ⟨hitem, hrest⟩
    rw [htext, flat, flatItems, inline_cons b depth]
    simp only [List.cons_append]
    exact hopen ((wraps_lead spread hitem).append (wraps_following spread hrest))

/-- Every layout made of words is its one line with line breaks in place of blanks, indented from
its depth on. -/
theorem Worded.wrapsItem {l : Layout} (h : Worded l) (depth : Nat) :
    WrapsItem depth (textAt depth l) (flat l) := by
  -- by the structure of the layout; the items of a list are behind one more bracket
  induction h generalizing depth with
  | atom ht => exact .of_word ht depth
  | block hlabels _ ih =>
    apply wrapsItem_block
    intro item hitem
    exact .label (hlabels item hitem) (ih item hitem (depth + 1))

end Layout

/-! ## Values -/

namespace Bson

open Shell

/-- A rendering is the one line of its value with some blanks replaced by line breaks, and behind
each of these stand two blanks for every bracket that is open there and not closed next. -/
theorem render_wraps {v : Bson} (h : ShellValue v) :
    String.ofList (unwrap v.render.toList) = v.oneLine ∧
      ∀ before after, v.render.toList = before ++ '\n' :: after →
        ∃ k c rest, after = List.replicate (2 * k) ' ' ++ c :: rest ∧ c ∉ [' ', '\n'] ∧
          openBrackets before = k + if isClosing c then 1 else 0 := by
  have hwraps := (h.worded_layout.wrapsItem 0).wraps
  have htext : v.render.toList = v.layout.textAt 0 := String.toList_ofList
  rw [htext]
  constructor
  · rw [hwraps.unwrap_eq, oneLine]
  · intro before after hcut
    exact hwraps.indented hcut

/-- Sevens behind a key that holds a bracket. -/
def bracketedSevens : Bson :=
  .document [("]", sevens 25)]

theorem shellValue_bracketedSevens : ShellValue bracketedSevens := by
  refine .document fun f hf => ?_
  rw [List.mem_singleton.mp hf]
  exact shellValue_sevens 25

/-- The bracket in quotes does not count: two are open where the first seven stands. -/
theorem render_wraps_bracketedSevens :
    let before := ['\x7b', '\n', ' ', ' ', '\'', ']', '\'', ':', ' ', '[']
    let after := bracketedSevens.layout.text.drop 11
    ShellValue bracketedSevens ∧ bracketedSevens.render.toList = before ++ '\n' :: after ∧
      openBrackets before = 2 ∧ String.ofList (unwrap bracketedSevens.render.toList) =
        bracketedSevens.oneLine ∧
      ∃ k c rest, after = List.replicate (2 * k) ' ' ++ c :: rest ∧ c ∉ [' ', '\n'] ∧
        2 = k + if isClosing c then 1 else 0 := by
  intro before after
  have hcut : bracketedSevens.render.toList = before ++ '\n' :: after := by
    rw [render, String.toList_ofList]
    decide +kernel
  have hwraps := render_wraps shellValue_bracketedSevens
  exact ⟨shellValue_bracketedSevens, hcut, by decide, hwraps.1, hwraps.2 before after hcut⟩

end Bson
end DocLoad
