import DocLoad.Text.Blank
import Mathlib.Data.List.TakeWhile

/-!
# DocLoad.Proofs.Text.Blank — blank texts

A text is blank when all of its characters are, and exactly then nothing is left of it by trimming
(`trim_eq_empty_iff`).  `Emptied` relates a text to itself and, if it is blank, to the empty text;
trimming does not tell the two apart (`Emptied.trim_eq`).
-/

namespace DocLoad.Text

/-- A text of blank characters only. -/
def Blank (s : String) : Prop :=
  ∀ c ∈ s.toList, isBlank c = true

instance (s : String) : Decidable (Blank s) :=
  decidable_of_iff (s.toList.all isBlank = true) List.all_eq_true

/-- Nothing is left of a text exactly if it is blank. -/
theorem trimChars_eq_nil_iff {cs : List Char} : trimChars cs = [] ↔ ∀ c ∈ cs, isBlank c = true := by
  unfold trimChars
  rw [List.reverse_eq_nil_iff, List.dropWhile_eq_nil_iff]
  simp only [List.mem_reverse]
  constructor
  · intro h c hc
    -- a character in front of the first one that is not blank, or behind it
    rw [← List.takeWhile_append_dropWhile (p := isBlank) (l := cs), List.mem_append] at hc
    rcases hc with hfront | hback
    · exact List.mem_takeWhile_imp hfront
    · exact h c hback
  · intro h c hc
    exact h c ((List.dropWhile_sublist isBlank).mem hc)

/-- Nothing is left of a blank text, and of no other one. -/
theorem trim_eq_empty_iff {s : String} : trim s = "" ↔ Blank s := by
  unfold trim Blank
  rw [← trimChars_eq_nil_iff, String.ofList_eq_empty_iff]

/-- A text and what may stand for it: the text itself, and the empty text if it is blank. -/
def Emptied (s s' : String) : Prop :=
  s' = s ∨ (Blank s ∧ s' = "")

theorem Emptied.refl (s : String) : Emptied s s :=
  .inl rfl

/-- A blank text and the empty one are trimmed to the same. -/
theorem Emptied.trim_eq {s s' : String} (h : Emptied s s') : trim s' = trim s := by
  rcases h with rfl | ⟨hblank, rfl⟩
  · rfl
  · rw [trim_eq_empty_iff.mpr hblank]
    rfl

end DocLoad.Text
