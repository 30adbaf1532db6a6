import DocLoad.Text.Split
import Mathlib.Data.List.Infix

/-!
# DocLoad.Proofs.Text.Split — the pieces of a text

`Cut sep cs ps` says what it means to cut a text at a separator from left to right: `ps` is what is
left of `cs` when each cut is made at the first occurrence in the rest.

* `Cut.unique` — a text has only one such list of pieces, and `Cut.intercalate` — the pieces with
  the separator between them are the text again;
* `cut_splitChar`, `cut_splitPair` — `splitChar` and `splitPair` find it;
* `splitPair_intercalate` — texts without the separator are found again when they are joined.

`cutFirst_eq` tells the two sides of the first occurrence of a character, `splitChar_eq_cutLast`
what the last occurrence has to do with the pieces, and `containsSub_iff` what it means that a text
occurs in another one.
-/

namespace DocLoad.Text

/-- The pieces of a text between the occurrences of a separator, taken from left to right without
overlap. -/
inductive Cut (sep : List Char) : List Char → List (List Char) → Prop where
  | last {p : List Char} (hp : ¬ sep <:+: p) : Cut sep p [p]
  /-- The first occurrence stands right behind the first piece. -/
  | next {p rest : List Char} {ps : List (List Char)} (hp : ¬ sep <:+: (p ++ sep).dropLast)
      (hrest : Cut sep rest ps) : Cut sep (p ++ sep ++ rest) (p :: ps)

namespace Cut

variable {sep cs : List Char} {ps qs : List (List Char)}

theorem ne_nil (h : Cut sep cs ps) : ps ≠ [] := by
  cases h <;> exact List.cons_ne_nil _ _

/-- The pieces with the separator between them are the text. -/
theorem intercalate (h : Cut sep cs ps) : sep.intercalate ps = cs := by
  induction h with
  | last hp => exact List.intercalate_singleton
  | @next p rest ps hp hrest ih =>
    obtain ⟨q, qs, rfl⟩ := List.exists_cons_of_ne_nil hrest.ne_nil
    rw [List.intercalate_cons_cons, ih]

/-- Where the first occurrence of the separator is the one behind a piece, the piece has none. -/
theorem not_infix_of_first {p : List Char} (hsep : sep ≠ [])
    (hp : ¬ sep <:+: (p ++ sep).dropLast) : ¬ sep <:+: p := by
  intro hin
  rw [List.dropLast_append_of_ne_nil hsep] at hp
  exact hp (hin.trans (List.prefix_append p _).isInfix)

/-- No piece has the separator in it. -/
theorem not_isInfix (hsep : sep ≠ []) (h : Cut sep cs ps) : ∀ p ∈ ps, ¬ sep <:+: p := by
  induction h with
  | last hp => simpa using hp
  | @next p rest ps hp hrest ih =>
    rw [List.forall_mem_cons]
    exact ⟨not_infix_of_first hsep hp, ih⟩

/-- Of two cuts of one text, neither makes its first cut before the other. -/
theorem length_le_of_first {p q rest rest' : List Char}
    (hq : ¬ sep <:+: (q ++ sep).dropLast) (h : p ++ sep ++ rest = q ++ sep ++ rest') :
    q.length ≤ p.length := by
  rw [← Nat.not_lt]
  intro hlt
  -- a shorter `p` would put the separator in front of the first occurrence behind `q`
  have hp : p ++ sep <+: p ++ sep ++ rest := List.prefix_append _ _
  have hd : (q ++ sep).dropLast <+: p ++ sep ++ rest := by
    rw [h]
    exact (List.dropLast_prefix _).trans (List.prefix_append _ _)
  have hlen : (p ++ sep).length ≤ (q ++ sep).dropLast.length := by
    simp only [List.length_append, List.length_dropLast]
    omega
  have hin : sep <:+: p ++ sep := (List.suffix_append p sep).isInfix
  exact hq (hin.trans (List.prefix_of_prefix_length_le hp hd hlen).isInfix)

/-- A text is cut in one way only. -/
theorem unique (hp : Cut sep cs ps) (hq : Cut sep cs qs) : ps = qs := by
  induction hp generalizing qs with
  | @last p hp =>
    cases hq with
    | last hq => rfl
    | next hq hrest => exact absurd (List.infix_append _ sep _) hp
  | @next p rest ps hp hrest ih =>
    generalize hcs : p ++ sep ++ rest = cs at hq
    cases hq with
    | last hq =>
      subst hcs
      exact absurd (List.infix_append p sep rest) hq
    | @next q rest' qs hq hrest' =>
      -- neither first piece can be longer than the other one
      have hlen : p.length = q.length :=
        Nat.le_antisymm (length_le_of_first hp hcs.symm) (length_le_of_first hq hcs)
      have hlen' : (p ++ sep).length = (q ++ sep).length := by
        simp only [List.length_append, hlen]
      obtain ⟨hpq, rfl⟩ := List.append_inj hcs hlen'
      obtain ⟨rfl, -⟩ := List.append_inj hpq hlen
      rw [ih hrest']

/-- Texts are the pieces of what they become with the separator between them, as long as each text
is followed by its first occurrence. -/
theorem of_pieces {ps : List (List Char)} (hne : ps ≠ [])
    (hps : ∀ p ∈ ps, ¬ sep <:+: (p ++ sep).dropLast) (hsep : sep ≠ []) :
    Cut sep (sep.intercalate ps) ps := by
  induction ps with
  | nil => exact absurd rfl hne
  | cons p ps ih =>
    rw [List.forall_mem_cons] at hps
    obtain ⟨hp, hps⟩ := hps
    cases ps with
    | nil =>
      rw [List.intercalate_singleton]
      exact .last (not_infix_of_first hsep hp)
    | cons q ps =>
      rw [List.intercalate_cons_cons]
      exact .next hp (ih (List.cons_ne_nil _ _) hps)

/-- A character in front of a text goes to its first piece, unless the separator begins there. -/
theorem consFirst {c : Char} (hsep : sep ≠ []) (h : Cut sep cs ps)
    (hc : ¬ sep <+: c :: cs) : Cut sep (c :: cs) (consFirst c ps) := by
  cases h with
  | last hp =>
    apply Cut.last
    rw [List.infix_cons_iff]
    exact not_or.mpr ⟨hc, hp⟩
  | @next p rest ps hp hrest =>
    refine Cut.next (p := c :: p) ?_ hrest
    have hne : p ++ sep ≠ [] := by simp [hsep]
    rw [List.cons_append, List.dropLast_cons_of_ne_nil hne, List.infix_cons_iff]
    refine not_or.mpr ⟨fun hpre => hc (hpre.trans ?_), hp⟩
    rw [List.cons_prefix_cons]
    exact ⟨rfl, (List.dropLast_prefix _).trans (List.prefix_append _ _)⟩

end Cut

/-! ## One character -/

/-- A text that is split at a character is cut at all its occurrences. -/
theorem cut_splitChar (sep : Char) (cs : List Char) : Cut [sep] cs (splitChar sep cs) := by
  induction cs with
  | nil => exact .last (by simp)
  | cons c cs ih =>
    rw [splitChar]
    split
    · next h =>
      subst h
      exact Cut.next (p := []) (by simp) ih
    · next h =>
      apply ih.consFirst (List.cons_ne_nil _ _)
      rw [List.cons_prefix_cons]
      exact fun hpre => h hpre.1.symm

/-- What stands on both sides of the first occurrence of a character. -/
theorem cutFirst_eq (sep : Char) (cs : List Char) :
    cutFirst sep cs =
      if sep ∈ cs then some (cs.takeWhile (· ≠ sep), (cs.dropWhile (· ≠ sep)).tail) else none := by
  induction cs with
  | nil => rfl
  | cons c cs ih =>
    rw [cutFirst]
    by_cases h : c = sep
    · simp [h]
    · have hne : sep ≠ c := Ne.symm h
      by_cases hmem : sep ∈ cs <;> simp [ih, h, hne, hmem]

/-- What stands before and after the last `sep`, if there is one. -/
def cutLast (sep : Char) : List Char → Option (List Char × List Char)
  | [] => none
  | c :: cs =>
    match cutLast sep cs with
    | some (before, after) => some (c :: before, after)
    | none => if c = sep then some ([], cs) else none

theorem consFirst_append {ps : List (List Char)} (hne : ps ≠ []) (c : Char)
    (qs : List (List Char)) : consFirst c (ps ++ qs) = consFirst c ps ++ qs := by
  obtain ⟨p, ps, rfl⟩ := List.exists_cons_of_ne_nil hne
  rfl

/-- The pieces of a text are those of what stands before the last separator, and what stands behind
it. -/
theorem splitChar_eq_cutLast (sep : Char) (cs : List Char) :
    splitChar sep cs =
      match cutLast sep cs with
      | some (before, after) => splitChar sep before ++ [after]
      | none => [cs] := by
  induction cs with
  | nil => rfl
  | cons c cs ih =>
    rw [splitChar, cutLast, ih]
    cases cutLast sep cs with
    | none =>
      by_cases hc : c = sep
      · rw [if_pos hc, if_pos hc]
        rfl
      · rw [if_neg hc, if_neg hc]
        rfl
    | some cut =>
      obtain ⟨before, after⟩ := cut
      have hne : splitChar sep before ≠ [] := (cut_splitChar sep before).ne_nil
      show (if c = sep then _ else _) = splitChar sep (c :: before) ++ [after]
      rw [splitChar]
      split
      · rfl
      · exact consFirst_append hne c [after]

/-! ## Two characters -/

section

variable {a b : Char} (hab : a ≠ b)
include hab

/-- Two different characters do not occur earlier because they are put behind a text. -/
theorem not_pair_infix_dropLast {p : List Char} (hp : ¬ [a, b] <:+: p) :
    ¬ [a, b] <:+: (p ++ [a, b]).dropLast := by
  have hdrop : (p ++ [a, b]).dropLast = p ++ [a] := by
    rw [List.dropLast_append_of_ne_nil (List.cons_ne_nil _ _)]
    rfl
  rw [hdrop, List.infix_concat_iff]
  rintro (hsuf | hin)
  · have hlast : b = (p ++ [a]).getLast _ := hsuf.getLast (List.cons_ne_nil _ _)
    rw [List.getLast_append_singleton] at hlast
    exact hab hlast.symm
  · exact hp hin

/-- A text that is split at two characters is cut at all their occurrences that do not overlap. -/
theorem cut_splitPair (cs : List Char) : Cut [a, b] cs (splitPair a b cs) := by
  fun_induction splitPair a b cs with
  | case1 => exact .last (by simp)
  | case2 c =>
    apply Cut.last
    intro hin
    simpa using hin.length_le
  | case3 c d cs h ih =>
    obtain ⟨rfl, rfl⟩ := h
    exact Cut.next (p := []) (not_pair_infix_dropLast hab (by simp)) ih
  | case4 c d cs h ih =>
    apply ih.consFirst (List.cons_ne_nil _ _)
    rw [List.cons_prefix_cons, List.cons_prefix_cons]
    exact fun hpre => h ⟨hpre.1.symm, hpre.2.1.symm⟩

/-- Texts without the pair are found again when they are joined with the pair between them. -/
theorem splitPair_intercalate {ps : List (List Char)} (hne : ps ≠ [])
    (hps : ∀ p ∈ ps, ¬ [a, b] <:+: p) : splitPair a b ([a, b].intercalate ps) = ps := by
  have hcut : Cut [a, b] ([a, b].intercalate ps) ps :=
    Cut.of_pieces hne (fun p hp => not_pair_infix_dropLast hab (hps p hp)) (List.cons_ne_nil _ _)
  exact (cut_splitPair hab _).unique hcut

end

/-! ## Occurrences -/

/-- A pattern is found if it stands anywhere in the text. -/
theorem containsSub_iff {pattern cs : List Char} :
    containsSub pattern cs = true ↔ pattern <:+: cs := by
  induction cs with
  | nil => rw [containsSub, List.isEmpty_iff, List.infix_nil]
  | cons c cs ih =>
    rw [containsSub, Bool.or_eq_true, List.isPrefixOf_iff_prefix, ih, List.infix_cons_iff]

end DocLoad.Text
