import DocLoad.Proofs.Bson.Path
import DocLoad.Store.Change

/-!
# DocLoad.Proofs.Store.Writing — writing at a path and looking it up

`Document.assign` makes a new document.  A store writes in place: it cuts a path at its last dot,
goes down through the documents in front of that, puts an empty one where a key is missing, and sets
the last key.  `write` is this walk, and `write_eq_assign` says that it comes to the same, and that
a walk that is stopped has put nothing on its way.

Together with the look-up, a write is a lawful accessor.  Each law is an induction on the segments,
whose step is `assignAt_of_enters`:

* `assignAt_eq_error_iff` — a write fails exactly where a value that is not a document stands in
  the way;
* `lookupAt?_assignAt_above` — above the written place there are documents, which keep their keys;
* `assignAt_assignAt` — of two writes at one path, the second one stays.

`assign_lawful` puts these together with the laws of `Proofs.Bson.Path`.
-/

namespace DocLoad

namespace Path

/-- The second path goes on after the first one. -/
def Above (q p : Path) : Prop :=
  q.segments <+: p.segments ∧ q.segments ≠ p.segments

/-- The paths above another one are made of its first segments. -/
theorem above_iff {q p : Path} : q.Above p ↔ ∃ n < p.rest.length, q = ⟨p.first, p.rest.take n⟩ := by
  constructor
  · rintro ⟨hsegments, hne⟩
    obtain ⟨hfirst, hrest⟩ := List.cons_prefix_cons.mp hsegments
    have hlength : q.rest.length ≠ p.rest.length := by
      intro hlength
      rw [segments, segments, hfirst, hrest.eq_of_length hlength] at hne
      exact hne rfl
    refine ⟨q.rest.length, Nat.lt_of_le_of_ne hrest.length_le hlength, ?_⟩
    rw [← List.prefix_iff_eq_take.mp hrest, ← hfirst]
  · rintro ⟨n, hn, rfl⟩
    refine ⟨List.cons_prefix_cons.mpr ⟨rfl, List.take_prefix n p.rest⟩, ?_⟩
    intro h
    have hlength := congrArg List.length h
    simp only [segments, List.length_cons, List.length_take] at hlength
    omega

/-- The segments in front of the last dot of a text, and what stands behind it. -/
def waypoints (s : String) : List String × String :=
  match Text.cutLast '.' s.toList with
  | some (parents, leaf) => ((Text.splitChar '.' parents).map String.ofList, String.ofList leaf)
  | none => ([], s)

/-- The segments of a text are those in front of its last dot and what stands behind it. -/
theorem segments_eq_waypoints (s : String) :
    (ofString s).segments = (waypoints s).1 ++ [(waypoints s).2] := by
  rw [segments_ofString, Text.splitChar_eq_cutLast, waypoints]
  cases Text.cutLast '.' s.toList with
  | none => simp only [List.map_cons, String.ofList_toList, List.map_nil, List.nil_append]
  | some cut => simp only [List.map_append, List.map_cons, List.map_nil]

theorem leaf_eq_waypoints (s : String) : (ofString s).leaf = (waypoints s).2 := by
  have hlast : (ofString s).segments.getLast? = some (ofString s).leaf :=
    List.getLast?_cons.trans (congrArg some List.getLastD_eq_getLast?.symm)
  rw [segments_eq_waypoints, List.getLast?_concat] at hlast
  exact (Option.some.inj hlast).symm

end Path

namespace Document

/-! ## In place -/

/-- Goes down through the documents under some keys and sets a last one, in place.  A key that is
missing gets an empty document first.  Gives the key that stopped the walk, if one did, and what is
left of the document. -/
def writeBelow (leaf : String) (value : Bson) (d : Document) :
    List String → Option String × Document
  | [] => (none, Fields.set leaf value d)
  | key :: keys =>
    let entered := if (Fields.get? key d).isSome then d else Fields.set key (.document []) d
    match Fields.get? key entered with
    | some (.document nested) =>
      let (stop, nested) := writeBelow leaf value nested keys
      (stop, Fields.set key (.document nested) entered)
    | _ => (some key, entered)

/-- Writes at the path that a text names, in place. -/
def write (d : Document) (s : String) (value : Bson) : Except StoreError Unit × Document :=
  let (parents, leaf) := Path.waypoints s
  match writeBelow leaf value d parents with
  | (none, d) => (.ok (), d)
  | (some key, d) => (.error (.notNested leaf key s), d)

variable {d d' nested : Document} {value : Bson} {key next leaf : String} {rest : List String}

/-- A write that goes on below a key is one in the document there, or in a new one. -/
theorem assignAt_of_enters (value : Bson) (rest : List String) (h : d.Enters key nested) :
    assignAt value d key (next :: rest) =
      (assignAt value nested next rest).map fun nested => Fields.set key (.document nested) d := by
  rw [assignAt]
  rcases h with ⟨hnone, rfl⟩ | hsome
  · rw [hnone]
  · rw [hsome]

/-- Nothing stands in the way in a new document. -/
theorem exists_assignAt_nil (value : Bson) (key : String) (rest : List String) :
    ∃ d', assignAt value [] key rest = .ok d' := by
  induction rest generalizing key with
  | nil => exact ⟨_, rfl⟩
  | cons next rest ih =>
    obtain ⟨nested', hnested⟩ := ih next
    exact ⟨_, assignAt_cons.mpr ⟨[], nested', .inl ⟨rfl, rfl⟩, hnested, rfl⟩⟩

/-- The walk does what the write does; where it is stopped, it has left everything as it was. -/
theorem writeBelow_eq {parents : List String} (h : parents ++ [leaf] = key :: rest) :
    writeBelow leaf value d parents =
      match assignAt value d key rest with
      | .ok d' => (none, d')
      | .error segment => (some segment, d) := by
  induction parents generalizing d key rest with
  | nil =>
    cases h
    rfl
  | cons parent parents ih =>
    obtain ⟨next, rest', hparents⟩ := List.exists_cons_of_ne_nil
      (List.append_ne_nil_of_right_ne_nil parents (List.cons_ne_nil leaf []))
    rw [List.cons_append, hparents] at h
    cases h
    cases hkey : Fields.get? parent d with
    | none =>
      -- the new document that is put here cannot stop the walk
      obtain ⟨nested', hnested⟩ := exists_assignAt_nil value next rest'
      rw [assignAt_of_enters value rest' (.inl ⟨hkey, rfl⟩), hnested]
      simp only [writeBelow, hkey, Option.isSome_none, Bool.false_eq_true, if_false,
        Fields.get?_set_self, ih hparents, hnested, Fields.set_set]
      rfl
    | some v =>
      cases v with
      | document nested =>
        rw [assignAt_of_enters value rest' (.inr hkey)]
        simp only [writeBelow, hkey, Option.isSome_some, if_true, ih hparents]
        cases assignAt value nested next rest' with
        | ok nested' => rfl
        | error segment => exact congrArg (some segment, ·) (Fields.set_of_get? hkey)
      | _ => simp only [writeBelow, assignAt, hkey, Option.isSome_some, if_true]

/-- Writing in place is assigning, and after a failure the document is as it was. -/
theorem write_eq_assign (d : Document) (s : String) (value : Bson) :
    d.write s value =
      match d.assign (Path.ofString s) value with
      | .ok d' => (.ok (), d')
      | .error segment => (.error (.notNested (Path.ofString s).leaf segment s), d) := by
  rw [write, Path.leaf_eq_waypoints, assign]
  simp only [writeBelow_eq (Path.segments_eq_waypoints s).symm]
  cases assignAt value d (Path.ofString s).first (Path.ofString s).rest <;> rfl

/-! ## Failure -/

/-- A value other than a document is found at a path. -/
def ObstructedAt (d : Document) (q : Path) : Prop :=
  ∃ w, d.lookup? q = some w ∧ ∀ nested, w ≠ .document nested

/-- A value at the first of several segments that is not a document stops the write. -/
theorem assignAt_of_other {v : Bson} (hkey : Fields.get? key d = some v)
    (hother : ∀ nested, v ≠ .document nested) :
    assignAt value d key (next :: rest) = .error key := by
  rw [assignAt, hkey]
  split
  · next h => cases h
  · next nested h => exact absurd (Option.some.inj h) (hother nested)
  · rfl

/-- Below a key there is nothing to be found unless a document is there. -/
theorem lookupAt?_of_not_document (h : ∀ nested, Fields.get? key d ≠ some (.document nested)) :
    d.lookupAt? key (next :: rest) = none := by
  rw [lookupAt?]
  split
  · next nested hnested => exact absurd hnested (h nested)
  · rfl

/-- A write fails exactly where something other than a document stands in the way, and tells the
last segment of the way there. -/
theorem assignAt_eq_error_iff {segment : String} :
    assignAt value d key rest = .error segment ↔
      ∃ n < rest.length, (rest.take n).getLastD key = segment ∧
        d.ObstructedAt ⟨key, rest.take n⟩ := by
  induction rest generalizing d key with
  | nil => exact ⟨nofun, nofun⟩
  | cons next rest ih =>
    rw [List.length_cons, Nat.exists_lt_succ_left]
    simp only [List.take_zero, List.take_succ_cons, List.getLastD_nil, List.getLastD_cons,
      ObstructedAt, lookup?]
    by_cases hdocument : ∃ nested, Fields.get? key d = some (.document nested)
    · -- the key itself is not in the way, so something below it is
      obtain ⟨nested, hkey⟩ := hdocument
      rw [assignAt_of_enters value rest (.inr hkey), Except.map_eq_error, ih]
      simp only [lookupAt?_of_enters (.inr hkey)]
      constructor
      · exact .inr
      · rintro (⟨-, w, hw, hother⟩ | hbelow)
        · cases hkey.symm.trans hw
          exact absurd rfl (hother nested)
        · exact hbelow
    · -- nothing is below the key, so it can only be the key itself
      rw [not_exists] at hdocument
      simp only [lookupAt?_of_not_document hdocument, reduceCtorEq, false_and, exists_false,
        and_false, or_false]
      cases hkey : Fields.get? key d with
      | none =>
        obtain ⟨nested', hnested⟩ := exists_assignAt_nil value next rest
        rw [assignAt_of_enters value rest (.inl ⟨hkey, rfl⟩), hnested]
        refine ⟨nofun, ?_⟩
        rintro ⟨-, w, hw, -⟩
        cases hkey.symm.trans hw
      | some v =>
        have hother : ∀ nested, v ≠ .document nested :=
          fun nested h => hdocument nested (h ▸ hkey)
        rw [assignAt_of_other hkey hother]
        constructor
        · rintro ⟨⟩
          exact ⟨rfl, v, hkey, hother⟩
        · rintro ⟨rfl, -⟩
          rfl

/-! ## Above the written place -/

/-- Above the place of a write there are documents, and those that were there have kept their keys
in order. -/
theorem lookupAt?_assignAt_above {n : Nat} (hn : n < rest.length)
    (h : assignAt value d key rest = .ok d') :
    ∃ nested', d'.lookupAt? key (rest.take n) = some (.document nested') ∧
      ∀ nested, d.lookupAt? key (rest.take n) = some (.document nested) →
        Fields.keys nested <+: Fields.keys nested' := by
  induction rest generalizing d d' key n with
  | nil => cases hn
  | cons next rest ih =>
    obtain ⟨nested, nested', henters, hnested, rfl⟩ := assignAt_cons.mp h
    cases n with
    | zero =>
      refine ⟨nested', Fields.get?_set_self key _ d, ?_⟩
      intro old hold
      rcases henters with ⟨hnone, -⟩ | hsome
      · rw [List.take_zero, lookupAt?, hnone] at hold
        cases hold
      · rw [List.take_zero, lookupAt?, hsome] at hold
        cases hold
        exact keys_isPrefix_assignAt hnested
    | succ n =>
      rw [List.take_succ_cons, lookupAt?_of_enters enters_set, lookupAt?_of_enters henters]
      exact ih (Nat.lt_of_succ_lt_succ hn) hnested

/-! ## Two writes -/

/-- Of two writes at one path, the second one stays. -/
theorem assignAt_assignAt (other : Bson) (h : assignAt value d key rest = .ok d') :
    assignAt other d' key rest = assignAt other d key rest := by
  induction rest generalizing d d' key with
  | nil =>
    cases h
    exact congrArg Except.ok (Fields.set_set key other value d)
  | cons next rest ih =>
    obtain ⟨nested, nested', henters, hnested, rfl⟩ := assignAt_cons.mp h
    rw [assignAt_of_enters other rest henters, assignAt_of_enters other rest enters_set, ih hnested]
    simp only [Fields.set_set]

/-! ## The laws -/

/-- What a write at a path makes of a document: the value is found there, documents are found above,
other look-ups are as they were, and no key that was there has moved. -/
structure Assigned (d : Document) (p : Path) (value : Bson) (d' : Document) : Prop where
  written : d'.lookup? p = some value
  above (q : Path) (hq : q.Above p) :
    ∃ nested', d'.lookup? q = some (.document nested') ∧
      ∀ nested, d.lookup? q = some (.document nested) → Fields.keys nested <+: Fields.keys nested'
  apart (q : Path) (hq : p.Apart q) : d'.lookup? q = d.lookup? q
  keys : Fields.keys d <+: Fields.keys d'

/-- A write that succeeds has all effects of `Assigned`. -/
theorem assigned_of_assign {p : Path} (h : d.assign p value = .ok d') :
    Assigned d p value d' := by
  constructor
  · exact lookupAt?_assignAt_self h
  · intro q hq
    obtain ⟨n, hn, rfl⟩ := Path.above_iff.mp hq
    exact lookupAt?_assignAt_above hn h
  · intro q hq
    exact lookup?_assign_of_apart hq h
  · exact keys_isPrefix_assignAt h

/-- A write fails exactly if a value other than a document is found above its path, and the failure
names the last segment of the path to that value. -/
theorem assign_eq_error_iff {p : Path} {segment : String} :
    d.assign p value = .error segment ↔
      ∃ q : Path, q.Above p ∧ q.leaf = segment ∧ d.ObstructedAt q := by
  rw [assign, assignAt_eq_error_iff]
  constructor
  · rintro ⟨n, hn, hleaf, hother⟩
    exact ⟨_, Path.above_iff.mpr ⟨n, hn, rfl⟩, hleaf, hother⟩
  · rintro ⟨q, hq, hleaf, hother⟩
    obtain ⟨n, hn, rfl⟩ := Path.above_iff.mp hq
    exact ⟨n, hn, hleaf, hother⟩

/-- Writing and looking up at the path that a text names are a lawful accessor.

A write in place does what `assign` does, and where that fails it leaves the document as it was.
It fails exactly if at a path above a value other than a document is found.  Otherwise the document
is `Assigned`.  To write the value that is found at the path changes nothing, and of two writes at
the path the second one stays. -/
theorem assign_lawful (d : Document) (s : String) (value : Bson) :
    let p := Path.ofString s
    (d.write s value = match d.assign p value with
      | .ok d' => (.ok (), d')
      | .error segment => (.error (.notNested p.leaf segment s), d)) ∧
    (∀ segment, d.assign p value = .error segment ↔
      ∃ q : Path, q.Above p ∧ q.leaf = segment ∧ d.ObstructedAt q) ∧
    (∀ d', d.assign p value = .ok d' → Assigned d p value d') ∧
    (∀ w, d.lookup? p = some w → d.assign p w = .ok d) ∧
    (∀ d' w, d.assign p value = .ok d' → d'.assign p w = d.assign p w) := by
  intro p
  refine ⟨write_eq_assign d s value, fun segment => assign_eq_error_iff, ?_, ?_, ?_⟩
  · intro d' h
    exact assigned_of_assign h
  · intro w hw
    exact assignAt_of_lookupAt? hw
  · intro d' w h
    exact assignAt_assignAt w h

/-- Between two dots there is an empty key, and a value that is not a document leaves nothing to go
down into. -/
example :
    write [("a", .document [])] "a..b" .null =
        (.ok (), [("a", .document [("", .document [("b", .null)])])]) ∧
      write [("a", .document [("b", .int32 1)])] "a.b.c.d" .null =
        (.error (.notNested "d" "b" "a.b.c.d"), [("a", .document [("b", .int32 1)])]) :=
  ⟨rfl, rfl⟩

end Document
end DocLoad
