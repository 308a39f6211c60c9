/-
Entries: values under names, as a list. `set` keeps the names in the order
in which they came first, `insert` in their own order.

`lookup_set` and `lookup_insert`: either of them gives one name its value and
leaves every other as it was. `map_fst_set`: setting a name adds it behind
the others, unless it is there; so no name comes twice (`nodup_set`).
-/
namespace VectorLint.Entries

variable {α : Type}

/-- Sets the entry of a name: in place if it is there, else at the end. -/
def set (name : String) (value : α) : List (String × α) → List (String × α)
  | [] => [(name, value)]
  | (n, v) :: entries =>
    if n = name then (n, value) :: entries else (n, v) :: set name value entries

/-- Puts an entry at its place in the order of names; it replaces one of the
same name. -/
def insert (name : String) (value : α) : List (String × α) → List (String × α)
  | [] => [(name, value)]
  | (n, v) :: entries =>
    if name = n then (name, value) :: entries
    else if name < n then (name, value) :: (n, v) :: entries
    else (n, v) :: insert name value entries

theorem lookup_cons (name n : String) (v : α) (entries : List (String × α)) :
    ((n, v) :: entries).lookup name = if name = n then some v else entries.lookup name := by
  by_cases h : name = n
  · simp [h]
  · have hb : (name == n) = false := by simpa using h
    simp [List.lookup_cons, h, hb]

theorem lookup_set (name other : String) (value : α) (entries : List (String × α)) :
    (set name value entries).lookup other =
      if other = name then some value else entries.lookup other := by
  induction entries with
  | nil => simp [set, lookup_cons]
  | cons entry entries ih =>
    obtain ⟨n, v⟩ := entry
    by_cases h : n = name
    · subst h
      simp only [set, if_pos, lookup_cons]
      split <;> rfl
    · simp only [set, if_neg h, lookup_cons, ih]
      split <;> split <;> simp_all

theorem lookup_insert (name other : String) (value : α) (entries : List (String × α)) :
    (insert name value entries).lookup other =
      if other = name then some value else entries.lookup other := by
  induction entries with
  | nil => simp [insert, lookup_cons]
  | cons entry entries ih =>
    obtain ⟨n, v⟩ := entry
    by_cases h : name = n
    · subst h
      simp only [insert, if_pos, lookup_cons]
      split <;> rfl
    · simp only [insert, if_neg h]
      split
      · simp only [lookup_cons]
      · simp only [lookup_cons, ih]
        split <;> split <;> simp_all

theorem map_fst_set (name : String) (value : α) (entries : List (String × α)) :
    (set name value entries).map Prod.fst =
      if name ∈ entries.map Prod.fst then entries.map Prod.fst
      else entries.map Prod.fst ++ [name] := by
  induction entries with
  | nil => rfl
  | cons entry entries ih =>
    obtain ⟨n, v⟩ := entry
    by_cases h : n = name
    · subst h; simp [set]
    · simp only [set, if_neg h, List.map_cons, ih, List.mem_cons, Ne.symm h, false_or]
      split <;> simp

theorem nodup_set {entries : List (String × α)} (h : (entries.map Prod.fst).Nodup)
    (name : String) (value : α) : ((set name value entries).map Prod.fst).Nodup := by
  rw [map_fst_set]
  split
  · exact h
  · rename_i absent
    rw [List.nodup_append]
    refine ⟨h, by simp, ?_⟩
    intro a ha b hb hab
    simp only [List.mem_singleton] at hb
    exact absent (hb ▸ hab ▸ ha)

end VectorLint.Entries
