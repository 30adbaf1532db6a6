/-!
# DocLoad.Fields — keys with values, in order

`Fields.get?` finds the first field with a key.  `Fields.set` changes that field in its place or
appends a new one, so it never moves a key that is present.
-/

namespace DocLoad

/-- Keys with values, in order. -/
abbrev Fields (α : Type) := List (String × α)

namespace Fields

variable {α : Type}

/-- The value of the first field with a key. -/
def get? (key : String) : Fields α → Option α
  | [] => none
  | (k, v) :: rest => if k = key then some v else get? key rest

/-- The fields with one of them set: the first field with the key keeps its position and takes the
value, or a new field comes last. -/
def set (key : String) (value : α) : Fields α → Fields α
  | [] => [(key, value)]
  | (k, v) :: rest => if k = key then (key, value) :: rest else (k, v) :: set key value rest

/-- The result of setting the given fields one after another. -/
def ofList (fields : List (String × α)) : Fields α :=
  fields.foldl (fun d (k, v) => set k v d) []

/-- The keys in order. -/
def keys (d : Fields α) : List String :=
  d.map (·.1)

/-! ## What setting does to look-ups and keys -/

@[simp]
theorem get?_nil (key : String) : get? key ([] : Fields α) = none := rfl

@[simp]
theorem get?_set_self (key : String) (value : α) (d : Fields α) :
    get? key (set key value d) = some value := by
  induction d with
  | nil => simp [set, get?]
  | cons f rest ih =>
    obtain ⟨k, v⟩ := f
    by_cases h : k = key <;> simp [set, get?, h, ih]

/-- Setting a key leaves the values of all others. -/
theorem get?_set_of_ne {key other : String} (h : other ≠ key) (value : α) (d : Fields α) :
    get? other (set key value d) = get? other d := by
  induction d with
  | nil => simp [set, get?, h.symm]
  | cons f rest ih =>
    obtain ⟨k, v⟩ := f
    by_cases hk : k = key
    · subst hk
      simp [set, get?, h.symm]
    · rw [set, if_neg hk, get?, get?, ih]

/-- Setting the value that a key has already changes nothing. -/
theorem set_of_get? {key : String} {value : α} {d : Fields α} (h : get? key d = some value) :
    set key value d = d := by
  induction d with
  | nil => cases h
  | cons f rest ih =>
    obtain ⟨k, v⟩ := f
    by_cases hk : k = key
    · simp_all [get?, set]
    · simp only [get?, if_neg hk] at h
      rw [set, if_neg hk, ih h]

/-- Of two values that are set under one key, the second one stays. -/
theorem set_set (key : String) (value other : α) (d : Fields α) :
    set key value (set key other d) = set key value d := by
  induction d with
  | nil => simp [set]
  | cons f rest ih =>
    obtain ⟨k, v⟩ := f
    by_cases hk : k = key
    · simp [set, hk]
    · simp [set, hk, ih]

/-- A new key comes last. -/
theorem set_of_not_mem {key : String} {value : α} {d : Fields α} (h : key ∉ keys d) :
    set key value d = d ++ [(key, value)] := by
  induction d with
  | nil => rfl
  | cons f rest ih =>
    obtain ⟨k, v⟩ := f
    simp only [keys, List.map_cons, List.mem_cons, not_or] at h
    rw [set, if_neg (Ne.symm h.1), ih h.2, List.cons_append]

/-- Setting a key keeps the keys that are present, in order, and adds it at the end if it is
new. -/
theorem keys_set (key : String) (value : α) (d : Fields α) :
    keys (set key value d) = if key ∈ keys d then keys d else keys d ++ [key] := by
  induction d with
  | nil => simp [set, keys]
  | cons f rest ih =>
    obtain ⟨k, v⟩ := f
    simp only [keys] at ih
    by_cases h : k = key
    · simp [set, keys, h]
    · by_cases hm : key ∈ rest.map (·.1) <;> simp_all [set, keys, Ne.symm h]

/-- Setting a key keeps the keys that are there, in order. -/
theorem keys_isPrefix_set (key : String) (value : α) (d : Fields α) :
    keys d <+: keys (set key value d) := by
  rw [keys_set]
  split
  · exact List.prefix_refl _
  · exact List.prefix_append _ _

theorem get?_eq_none_iff {key : String} {d : Fields α} : get? key d = none ↔ key ∉ keys d := by
  induction d with
  | nil => simp [keys]
  | cons f rest ih =>
    obtain ⟨k, v⟩ := f
    simp only [keys] at ih
    by_cases h : k = key
    · simp [get?, keys, h]
    · simp [get?, keys, h, ih, Ne.symm h]

/-- A value that is found under a key stands there as a field. -/
theorem mem_of_get? {key : String} {value : α} {d : Fields α} (h : get? key d = some value) :
    (key, value) ∈ d := by
  induction d with
  | nil => cases h
  | cons f rest ih =>
    obtain ⟨k, v⟩ := f
    by_cases hk : k = key
    · simp [get?, hk] at h
      simp [hk, h]
    · simp only [get?, if_neg hk] at h
      exact List.mem_cons_of_mem _ (ih h)

end Fields
end DocLoad
