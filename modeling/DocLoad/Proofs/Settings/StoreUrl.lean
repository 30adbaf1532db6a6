import DocLoad.Proofs.Answering
import DocLoad.Proofs.Text.Split
import DocLoad.Run

/-!
# DocLoad.Proofs.Settings.StoreUrl — settled settings name a store

The store of a URL is decided twice, when an operator's text is completed and when the store is
opened, and in between the text is trimmed, replaced if it is blank and put behind a scheme.  What
comes out always has a known scheme:

* `StoreUrl.normalize?_eq_some` — a completed text has a scheme and is completed to itself;
* `StoreUrl.normalize?_eq_none_iff` — what is not completed has `://` in it without a known scheme
  in front;
* `Settings.endsIn_resolve` — so all settings that can be resolved have a URL with a scheme, and
  a run opens that store (`Run.settled_names_store`).
-/

namespace DocLoad

namespace StoreUrl

variable {u u' v : String} {scheme : Scheme}

/-! ## Known schemes -/

/-- The starts of store URLs, each with the store that it stands for. -/
def starts : List (String × Scheme) :=
  [("mongodb://", .mongo), ("mongodb+srv://", .mongo), ("memory://", .memory)]

/-- What ends a scheme. -/
def mark : String := "://"

theorem startsWith_iff {start s : String} :
    startsWith start s = true ↔ start.toList <+: s.toList :=
  List.isPrefixOf_iff_prefix

/-- No URL begins with the starts of two different stores. -/
theorem scheme_unique {a b : String × Scheme} (ha : a ∈ starts) (hb : b ∈ starts)
    (hau : a.1.toList <+: u.toList) (hbu : b.1.toList <+: u.toList) : a.2 = b.2 := by
  -- of two starts of one text, one begins with the other
  have hnested : ∀ a ∈ starts, ∀ b ∈ starts, a.1.toList <+: b.1.toList → a.2 = b.2 := by
    decide
  rcases List.prefix_or_prefix_of_prefix hau hbu with hab | hba
  · exact hnested a ha b hb hab
  · exact (hnested b hb a ha hba).symm

/-- A URL with a scheme starts in one of the known ways. -/
theorem exists_start (h : scheme? u = some scheme) :
    ∃ start, (start, scheme) ∈ starts ∧ start.toList <+: u.toList := by
  unfold scheme? at h
  split at h
  · next hmongo =>
    cases h
    rcases Bool.or_eq_true_iff.mp hmongo with hstart | hstart
    · exact ⟨"mongodb://", by decide, startsWith_iff.mp hstart⟩
    · exact ⟨"mongodb+srv://", by decide, startsWith_iff.mp hstart⟩
  split at h
  · next hmemory =>
    cases h
    exact ⟨"memory://", by decide, startsWith_iff.mp hmemory⟩
  · cases h

/-- Without a scheme, a text begins with none of the starts. -/
theorem scheme?_eq_none_iff :
    scheme? u = none ↔ ∀ start ∈ starts, ¬ start.1.toList <+: u.toList := by
  unfold scheme? starts
  simp only [List.forall_mem_cons, List.not_mem_nil, false_implies, implies_true, and_true,
    ← startsWith_iff, Bool.not_eq_true]
  cases startsWith "mongodb://" u <;> cases startsWith "mongodb+srv://" u <;>
    cases startsWith "memory://" u <;> simp

/-- A URL has the scheme of the start that it begins with. -/
theorem scheme?_eq_some_iff :
    scheme? u = some scheme ↔ ∃ start, (start, scheme) ∈ starts ∧ start.toList <+: u.toList := by
  refine ⟨exists_start, ?_⟩
  rintro ⟨start, hstart, hu⟩
  cases hscheme : scheme? u with
  | none => exact absurd hu (scheme?_eq_none_iff.mp hscheme (start, scheme) hstart)
  | some other =>
    rcases exists_start hscheme with ⟨start', hstart', hu'⟩
    exact congrArg some (scheme_unique hstart' hstart hu' hu)

/-- A URL with a scheme has the mark in it. -/
theorem mark_infix_of_scheme? (h : (scheme? u).isSome = true) : mark.toList <:+: u.toList := by
  have hmark : ∀ start ∈ starts, mark.toList <:+: start.1.toList := by decide
  rcases Option.isSome_iff_exists.mp h with ⟨scheme, hscheme⟩
  rcases exists_start hscheme with ⟨start, hstart, hu⟩
  exact (hmark _ hstart).trans hu.isInfix

/-! ## Completed texts -/

/-- A URL with a scheme is left as it is. -/
theorem normalize?_of_scheme? (h : (scheme? u).isSome = true) : normalize? u = some u := by
  unfold normalize?
  rw [if_pos h]

/-- A text without the mark is completed to the URL of a host. -/
theorem normalize?_of_bare (h : ¬ mark.toList <:+: u.toList) :
    normalize? u = some ("mongodb://" ++ u) := by
  have hscheme : ¬ (scheme? u).isSome = true := fun hsome => h (mark_infix_of_scheme? hsome)
  have hmark : ¬ Text.containsSub "://".toList u.toList = true := by
    rw [Text.containsSub_iff]
    exact h
  unfold normalize?
  rw [if_neg hscheme, if_neg hmark]

/-- A text is not completed when it has the mark in it but none of the known starts. -/
theorem normalize?_eq_none_iff :
    normalize? u = none ↔
      mark.toList <:+: u.toList ∧ ∀ start ∈ starts, ¬ start.1.toList <+: u.toList := by
  rw [← scheme?_eq_none_iff]
  by_cases hmark : mark.toList <:+: u.toList
  · have hcontains : Text.containsSub "://".toList u.toList = true := Text.containsSub_iff.mpr hmark
    unfold normalize?
    rw [hcontains, if_pos rfl]
    cases scheme? u <;> simp [hmark]
  · simp [normalize?_of_bare hmark, hmark]

/-- What a text is completed to has a scheme, and is completed to itself. -/
theorem normalize?_eq_some (h : normalize? u = some v) :
    (scheme? v).isSome = true ∧ normalize? v = some v := by
  have hsome : (scheme? v).isSome = true := by
    unfold normalize? at h
    split at h
    · next hscheme =>
      cases h
      exact hscheme
    split at h
    · cases h
    · cases h
      have hmongo : scheme? ("mongodb://" ++ u) = some .mongo :=
        scheme?_eq_some_iff.mpr ⟨"mongodb://", by decide, by simp⟩
      rw [hmongo]
      rfl
  exact ⟨hsome, normalize?_of_scheme? hsome⟩

/-- Different hosts have different URLs. -/
theorem normalize?_injective_of_bare (hu : ¬ mark.toList <:+: u.toList)
    (hu' : ¬ mark.toList <:+: u'.toList) (h : normalize? u = normalize? u') : u = u' := by
  rw [normalize?_of_bare hu, normalize?_of_bare hu', Option.some_inj] at h
  exact String.append_right_inj _ |>.mp h

end StoreUrl

/-! ## Settled settings -/

namespace Settings

/-- A URL that was resolved has a scheme. -/
theorem scheme?_of_resolveUrl {text url : String} (h : resolveUrl text = .ok url) :
    (StoreUrl.scheme? url).isSome = true := by
  unfold resolveUrl at h
  dsimp only at h
  split at h
  · cases h
    decide +kernel
  split at h
  · next url' hnormal =>
    cases h
    exact (StoreUrl.normalize?_eq_some hnormal).1
  · cases h

/-- All settings that can be resolved have a URL with a scheme. -/
theorem endsIn_resolve (flags : Flags) (envUrl : Option String) :
    (resolve flags envUrl).EndsIn fun settings =>
      (StoreUrl.scheme? settings.url).isSome = true := by
  unfold resolve
  apply Dialogue.EndsIn.bind (Dialogue.endsIn_true _)
  intro text _
  apply Dialogue.EndsIn.bind (Dialogue.endsIn_ofExcept fun url => scheme?_of_resolveUrl)
  intro url hurl
  -- the other settings do not touch the URL
  apply Dialogue.EndsIn.bind (Dialogue.endsIn_true _)
  intro database _
  apply Dialogue.EndsIn.bind (Dialogue.endsIn_true _)
  intro database _
  apply Dialogue.EndsIn.bind (Dialogue.endsIn_true _)
  intro collection _
  apply Dialogue.EndsIn.bind (Dialogue.endsIn_true _)
  intro collection _
  apply Dialogue.EndsIn.bind (Dialogue.endsIn_true _)
  intro file _
  exact .done hurl

end Settings

namespace Run

/-- A run with a store of a given kind. -/
def withStore (w : Surroundings) (settings : Settings) (answers : List (Except Error String)) :
    Scheme → Report
  | .memory => inMemory w settings answers
  | .mongo => onServer w settings answers

/-- Settings that were resolved name a store, and a run with them opens it: it never fails for a
URL without a known scheme.  Completing a text gives a URL with a scheme that is completed to
itself; this fails exactly for a text with `://` in it that begins with none of the known starts.
A URL with a scheme is not changed, and different hosts have different URLs. -/
theorem settled_names_store (w : Surroundings) (flags : Flags) (envUrl : Option String)
    (answers : List (Except Error String)) :
    (∀ settings, (settle flags envUrl answers).result = .ok settings →
      ∃ scheme, StoreUrl.scheme? settings.url = some scheme ∧
        ∀ rest, withSettings w settings rest = withStore w settings rest scheme) ∧
    (∀ u v, StoreUrl.normalize? u = some v →
      (StoreUrl.scheme? v).isSome = true ∧ StoreUrl.normalize? v = some v) ∧
    (∀ u, StoreUrl.normalize? u = none ↔ StoreUrl.mark.toList <:+: u.toList ∧
      ∀ start ∈ StoreUrl.starts, ¬ start.1.toList <+: u.toList) ∧
    (∀ u, (StoreUrl.scheme? u).isSome = true → StoreUrl.normalize? u = some u) ∧
    ∀ u u', ¬ StoreUrl.mark.toList <:+: u.toList → ¬ StoreUrl.mark.toList <:+: u'.toList →
      StoreUrl.normalize? u = StoreUrl.normalize? u' → u = u' := by
  refine ⟨?_, fun u v => StoreUrl.normalize?_eq_some, fun u => StoreUrl.normalize?_eq_none_iff,
    fun u => StoreUrl.normalize?_of_scheme?, fun u u' => StoreUrl.normalize?_injective_of_bare⟩
  intro settings hsettled
  have hscheme := (Settings.endsIn_resolve flags envUrl).of_result hsettled
  rcases Option.isSome_iff_exists.mp hscheme with ⟨scheme, hscheme⟩
  refine ⟨scheme, hscheme, fun rest => ?_⟩
  unfold withSettings
  rw [hscheme]
  cases scheme <;> rfl

/-- Surroundings without files and servers. -/
def bareSurroundings : Surroundings :=
  ⟨none, fun _ => .error .notFound, .unreachable, fun _ => ⟨0⟩⟩

/-- Flags that name a host, with blanks around it, and all other settings. -/
def hostFlags : Flags :=
  { Flags.none with
    url := some " db:1 ", database := some "d", collection := some "c", file := some "f" }

/-- The run with these flags goes to the server with that host, and `db:1` and `db:2` have
different URLs. -/
theorem settled_names_store_host :
    let settings : Settings := ⟨"mongodb://db:1", "d", "c", "f", .count, none⟩
    (settle hostFlags none []).result = .ok settings ∧
    withSettings bareSurroundings settings [] = onServer bareSurroundings settings [] ∧
    StoreUrl.normalize? "db:1" = some "mongodb://db:1" ∧
    StoreUrl.normalize? "mongodb://db:1" = some "mongodb://db:1" ∧
    ¬ StoreUrl.mark.toList <:+: "db:1".toList ∧ ¬ StoreUrl.mark.toList <:+: "db:2".toList ∧
    StoreUrl.normalize? "db:1" ≠ StoreUrl.normalize? "db:2" := by
  intro settings
  rcases settled_names_store bareSurroundings hostFlags none [] with
    ⟨hstore, hcompleted, -, -, hdistinct⟩
  have hsettled : (settle hostFlags none []).result = .ok settings := by rfl
  have hscheme : StoreUrl.scheme? "mongodb://db:1" = some .mongo := by decide +kernel
  have hnormal : StoreUrl.normalize? "db:1" = some "mongodb://db:1" := by decide +kernel
  have hfirst : ¬ StoreUrl.mark.toList <:+: "db:1".toList := by decide
  have hsecond : ¬ StoreUrl.mark.toList <:+: "db:2".toList := by decide
  refine ⟨hsettled, ?_, hnormal, (hcompleted _ _ hnormal).2, hfirst, hsecond, ?_⟩
  · rcases hstore settings hsettled with ⟨scheme, hsome, hrun⟩
    have hmongo : scheme = .mongo := Option.some.inj (hsome.symm.trans hscheme)
    rw [hrun [], hmongo]
    rfl
  · intro hsame
    have hequal : "db:1" = "db:2" := hdistinct _ _ hfirst hsecond hsame
    revert hequal
    decide

end Run
end DocLoad
