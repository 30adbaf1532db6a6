import DocLoad.Proofs.Render.Quoting

/-!
# DocLoad.Proofs.Render.Legible — reading a layout back from its text

A layout is *legible* when its texts and its labels are sealed, so that it can be seen where each
of them ends.  The text of a legible layout says which layout it is, and where it ends
(`Legible.append_inj`): the characters behind an opening bracket show whether the list is empty,
on one line or broken, and this fixes what stands in front of every item and behind the last one.
-/

namespace DocLoad.Layout

open Shell

/-! ## Lists on one line and broken lists -/

/-- How the items of a list are spread. -/
inductive Spread where
  | inline
  | broken

/-- What stands in front of every item of a list at a depth. -/
def Spread.lead (depth : Nat) : Spread → List Char
  | inline => [' ']
  | broken => '\n' :: indent (depth + 1)

/-- What stands behind the last item of a list at a depth. -/
def Spread.stop (b : Bracket) (depth : Nat) : Spread → List Char
  | inline => [' ', b.closing]
  | broken => '\n' :: indent depth ++ [b.closing]

/-- What comes after an item: a comma in front of every further one, and the end of the list. -/
def following (lead stop : List Char) : List (List Char) → List Char
  | [] => stop
  | t :: ts => ',' :: lead ++ t ++ following lead stop ts

/-- Items on one line, seen as the first one and what follows it. -/
theorem joined_cons (t : List Char) (ts : List (List Char)) (stop : List Char) :
    joined (t :: ts) ++ stop = t ++ following [' '] stop ts := by
  induction ts generalizing t with
  | nil => rfl
  | cons u us ih => simp [joined, following, ih]

theorem inline_cons (b : Bracket) (depth : Nat) (t : List Char) (ts : List (List Char)) :
    inline b (t :: ts) = b.opening :: Spread.inline.lead depth ++ t ++
      following (Spread.inline.lead depth) (Spread.inline.stop b depth) ts := by
  simp [inline, Spread.lead, Spread.stop, joined_cons]

theorem lines_cons (depth : Nat) (t : List Char) (ts : List (List Char)) (stop : List Char) :
    lines depth (t :: ts) ++ stop =
      indent depth ++ t ++ following ('\n' :: indent depth) ('\n' :: stop) ts := by
  induction ts generalizing t with
  | nil => simp [lines, following]
  | cons u us ih => simp [lines, following, ih]

theorem broken_cons (b : Bracket) (depth : Nat) (t : List Char) (ts : List (List Char)) :
    broken b depth (t :: ts) = b.opening :: Spread.broken.lead depth ++ t ++
      following (Spread.broken.lead depth) (Spread.broken.stop b depth) ts := by
  have hlines := lines_cons (depth + 1) t ts (indent depth ++ [b.closing])
  simp only [broken, List.cons_append, List.append_assoc, hlines]
  rfl

/-- The text of a list that is not empty. -/
theorem textAt_block_cons (b : Bracket) (depth : Nat) (label : List Char) (l : Layout)
    (items : List (List Char × Layout)) :
    ∃ spread : Spread, textAt depth (.block b ((label, l) :: items)) =
      b.opening :: spread.lead depth ++ (label ++ textAt (depth + 1) l) ++
        following (spread.lead depth) (spread.stop b depth) (textsAt (depth + 1) items) := by
  have hempty : (textsAt (depth + 1) ((label, l) :: items)).isEmpty = false := rfl
  cases hfits : fits (textsAt (depth + 1) ((label, l) :: items)) with
  | true =>
    refine ⟨.inline, ?_⟩
    simp only [textAt, hempty, hfits, Bool.or_true, if_true]
    exact inline_cons b depth _ _
  | false =>
    refine ⟨.broken, ?_⟩
    simp only [textAt, hempty, hfits, Bool.or_false, Bool.false_eq_true, if_false]
    exact broken_cons b depth _ _

/-! ## Legible layouts -/

/-- Whether a label may stand in front of the items of a list. -/
def LabelFor : Bracket → List Char → Prop
  | .square, label => label = []
  | .curly, label => ∃ k, Sealed .outside k ∧ label = k ++ [':', ' ']

/-- A layout whose texts and labels are sealed. -/
inductive Legible : Layout → Prop where
  | atom {t : List Char} (hne : t ≠ []) (ht : Sealed .outside t) : Legible (.atom t)
  | block {b : Bracket} {items : List (List Char × Layout)}
      (hlabels : ∀ item ∈ items, LabelFor b item.1) (hitems : ∀ item ∈ items, Legible item.2) :
      Legible (.block b items)

/-- It can be seen where a label ends. -/
theorem LabelFor.append_inj {b : Bracket} {label label' r s : List Char}
    (hlabel : LabelFor b label) (hlabel' : LabelFor b label') (h : label ++ r = label' ++ s) :
    label = label' ∧ r = s := by
  cases b with
  | square =>
    obtain rfl : label = [] := hlabel
    obtain rfl : label' = [] := hlabel'
    exact ⟨rfl, h⟩
  | curly =>
    obtain ⟨k, hk, rfl⟩ := hlabel
    obtain ⟨k', hk', rfl⟩ := hlabel'
    have hcolon (cs : List Char) : Follows (':' :: cs) := by
      rintro c ⟨⟩
      decide
    rw [List.append_assoc, List.append_assoc] at h
    obtain ⟨rfl, hrest⟩ := hk.append_inj hk' (hcolon _) (hcolon _) h
    exact ⟨rfl, by simpa using hrest⟩

/-- A layout that can be recovered from its text, whatever follows. -/
def Recoverable (l : Layout) : Prop :=
  ∀ (l' : Layout) (depth : Nat) (r s : List Char), Legible l' → Follows r → Follows s →
    textAt depth l ++ r = textAt depth l' ++ s → l = l' ∧ r = s

/-- What follows an item starts with a delimiter, whether it is a further item or the end. -/
theorem follows_following {b : Bracket} {depth : Nat} (spread : Spread) (ts : List (List Char))
    (r : List Char) : Follows (following (spread.lead depth) (spread.stop b depth) ts ++ r) := by
  cases ts <;> cases spread <;> rintro c ⟨⟩ <;> decide

/-- An item behind its label, and where it ends. -/
theorem item_inj {b : Bracket} {depth : Nat} {item item' : List Char × Layout} {r s : List Char}
    (hitem : LabelFor b item.1 ∧ Recoverable item.2)
    (hitem' : LabelFor b item'.1 ∧ Legible item'.2) (hr : Follows r) (hs : Follows s)
    (h : item.1 ++ (textAt depth item.2 ++ r) = item'.1 ++ (textAt depth item'.2 ++ s)) :
    item = item' ∧ r = s := by
  obtain ⟨hlabel, htext⟩ := hitem.1.append_inj hitem'.1 h
  obtain ⟨hlayout, hrest⟩ := hitem.2 _ _ _ _ hitem'.2 hr hs htext
  exact ⟨Prod.ext hlabel hlayout, hrest⟩

/-- The further items of a list, and where it ends. -/
theorem following_inj {b : Bracket} {depth : Nat} {spread : Spread}
    {items items' : List (List Char × Layout)} {r s : List Char}
    (hitems : ∀ item ∈ items, LabelFor b item.1 ∧ Recoverable item.2)
    (hitems' : ∀ item ∈ items', LabelFor b item.1 ∧ Legible item.2)
    (h : following (spread.lead depth) (spread.stop b depth) (textsAt (depth + 1) items) ++ r =
      following (spread.lead depth) (spread.stop b depth) (textsAt (depth + 1) items') ++ s) :
    items = items' ∧ r = s := by
  induction items generalizing items' with
  | nil =>
    cases items' with
    | nil => exact ⟨rfl, List.append_cancel_left h⟩
    | cons item items' =>
      -- an end is no comma
      cases spread <;> exact absurd (List.cons.inj h).1 (by decide)
  | cons item items ih =>
    cases items' with
    | nil => cases spread <;> exact absurd (List.cons.inj h).1 (by decide)
    | cons item' items' =>
      obtain ⟨hitem, htail⟩ := List.forall_mem_cons.mp hitems
      obtain ⟨hitem', htail'⟩ := List.forall_mem_cons.mp hitems'
      -- behind the comma and the lead, the item shows where it ends
      simp only [textsAt, following, List.cons_append, List.append_assoc, List.cons.injEq,
        true_and] at h
      have htext := List.append_cancel_left h
      obtain ⟨rfl, hrest⟩ := item_inj hitem hitem' (follows_following spread _ _)
        (follows_following spread _ _) htext
      obtain ⟨rfl, hend⟩ := ih htail htail' hrest
      exact ⟨rfl, hend⟩

theorem opening_mem_delimiters (b : Bracket) : b.opening ∈ delimiters := by
  cases b <;> decide

/-- A bracket says whether an array or a document begins. -/
theorem opening_injective {b b' : Bracket} (h : b.opening = b'.opening) : b = b' := by
  revert h
  cases b <;> cases b' <;> decide

/-- A list starts with its bracket. -/
theorem textAt_block (b : Bracket) (depth : Nat) (items : List (List Char × Layout)) :
    ∃ cs, textAt depth (.block b items) = b.opening :: cs := by
  cases items with
  | nil => exact ⟨_, rfl⟩
  | cons item items =>
    obtain ⟨spread, h⟩ := textAt_block_cons b depth item.1 item.2 items
    exact ⟨_, h⟩

/-- A sealed text is not the text of a list. -/
theorem atom_ne_block {t : List Char} {b : Bracket} {depth : Nat}
    {items : List (List Char × Layout)} {r s : List Char} (hne : t ≠ [])
    (ht : Sealed .outside t) : t ++ r ≠ textAt depth (.block b items) ++ s := by
  intro h
  obtain ⟨cs, htext⟩ := textAt_block b depth items
  cases t with
  | nil => exact hne rfl
  | cons c t =>
    rw [htext] at h
    have hc : c = b.opening := (List.cons.inj h).1
    exact ht.head (hc ▸ opening_mem_delimiters b)

/-- Behind an opening bracket, the closing one and a first item can be told apart. -/
theorem closing_ne_lead {b : Bracket} {depth : Nat} (spread : Spread) {x y : List Char} :
    b.closing :: x ≠ spread.lead depth ++ y := by
  intro h
  cases b <;> cases spread <;> exact absurd (List.cons.inj h).1 (by decide)

/-- What stands in front of the first item says how the list is spread. -/
theorem lead_inj {depth : Nat} {spread spread' : Spread} {x y : List Char}
    (h : spread.lead depth ++ x = spread'.lead depth ++ y) : spread = spread' := by
  cases spread <;> cases spread' <;>
    first | rfl | exact absurd (List.cons.inj h).1 (by decide)

/-- Two lists with the same text have the same brackets and the same items. -/
theorem block_inj {b b' : Bracket} {depth : Nat} {items items' : List (List Char × Layout)}
    {r s : List Char} (hitems : ∀ item ∈ items, LabelFor b item.1 ∧ Recoverable item.2)
    (hitems' : ∀ item ∈ items', LabelFor b' item.1 ∧ Legible item.2)
    (h : textAt depth (.block b items) ++ r = textAt depth (.block b' items') ++ s) :
    b = b' ∧ items = items' ∧ r = s := by
  obtain rfl : b = b' := by
    obtain ⟨cs, hcs⟩ := textAt_block b depth items
    obtain ⟨cs', hcs'⟩ := textAt_block b' depth items'
    rw [hcs, hcs'] at h
    exact opening_injective (List.cons.inj h).1
  refine ⟨rfl, ?_⟩
  -- the second character tells an empty list, one on a line and a broken one apart
  rcases items with - | ⟨item, items⟩ <;> rcases items' with - | ⟨item', items'⟩
  · exact ⟨rfl, List.append_cancel_left h⟩
  · obtain ⟨spread, hcs⟩ := textAt_block_cons b depth item'.1 item'.2 items'
    simp only [hcs, List.cons_append, List.append_assoc] at h
    exact absurd (List.cons.inj h).2 (closing_ne_lead spread)
  · obtain ⟨spread, hcs⟩ := textAt_block_cons b depth item.1 item.2 items
    simp only [hcs, List.cons_append, List.append_assoc] at h
    exact absurd (List.cons.inj h).2.symm (closing_ne_lead spread)
  · obtain ⟨spread, hcs⟩ := textAt_block_cons b depth item.1 item.2 items
    obtain ⟨spread', hcs'⟩ := textAt_block_cons b depth item'.1 item'.2 items'
    simp only [hcs, hcs', List.cons_append, List.append_assoc] at h
    have hbehind := (List.cons.inj h).2
    obtain rfl := lead_inj hbehind
    obtain ⟨hitem, htail⟩ := List.forall_mem_cons.mp hitems
    obtain ⟨hitem', htail'⟩ := List.forall_mem_cons.mp hitems'
    obtain ⟨rfl, hrest⟩ := item_inj hitem hitem' (follows_following spread _ _)
      (follows_following spread _ _) (List.append_cancel_left hbehind)
    obtain ⟨rfl, hend⟩ := following_inj htail htail' hrest
    exact ⟨rfl, hend⟩

/-- Every legible layout can be recovered, by induction on it with `block_inj` as the step. -/
theorem Legible.recoverable {l : Layout} (h : Legible l) : Recoverable l := by
  -- by the structure of the first layout; the second one must be of the same form
  induction h with
  | @atom t hne ht =>
    intro l' depth r s hl' hr hs heq
    cases hl' with
    | atom hne' ht' =>
      obtain ⟨rfl, rfl⟩ := ht.append_inj ht' hr hs heq
      exact ⟨rfl, rfl⟩
    | block => exact absurd heq (atom_ne_block hne ht)
  | @block b items hlabels hitems ih =>
    intro l' depth r s hl' hr hs heq
    cases hl' with
    | atom hne' ht' => exact absurd heq.symm (atom_ne_block hne' ht')
    | @block b' items' hlabels' hitems' =>
      obtain ⟨rfl, rfl, hrest⟩ := block_inj (fun item hitem => ⟨hlabels item hitem, ih item hitem⟩)
        (fun item hitem => ⟨hlabels' item hitem, hitems' item hitem⟩) heq
      exact ⟨rfl, hrest⟩

/-- The text of a legible layout says which layout it is. -/
theorem Legible.text_injective {l l' : Layout} (h : Legible l) (h' : Legible l')
    (htext : text l = text l') : l = l' := by
  have hnone : Follows [] := nofun
  refine (h.recoverable l' 0 [] [] h' hnone hnone ?_).1
  rw [List.append_nil, List.append_nil]
  exact htext

end DocLoad.Layout
