/-
Settings as an ordered map. Settings are known by their names in order and
the setting of each name (`ext_get?`), and both of these are known of a merge:
the names of the one and then what the other adds (`names_merge`), and of the
two settings of a name that of the other (`get?_merge`).

Hence merging is associative and idempotent, with the empty settings as its
unit, and `instances_merge` says which rules are run.
-/
import Mathlib.Data.List.Induction
import Mathlib.Data.List.Nodup
import VectorLint.Rule.Settings

namespace VectorLint

namespace Entries

variable {α : Type}

theorem lookup_eq_none_iff {name : String} {entries : List (String × α)} :
    entries.lookup name = none ↔ name ∉ entries.map Prod.fst := by
  induction entries with
  | nil => simp
  | cons entry entries ih =>
    obtain ⟨n, v⟩ := entry
    rw [lookup_cons, List.map_cons, List.mem_cons, not_or, ← ih]
    split <;> simp_all

/-- If no name comes twice, entries are the names with what is found under
them. -/
theorem filterMap_lookup {entries : List (String × α)} (h : (entries.map Prod.fst).Nodup) :
    (entries.map Prod.fst).filterMap (fun name => (entries.lookup name).map (Prod.mk name)) =
      entries := by
  induction entries with
  | nil => rfl
  | cons entry entries ih =>
    obtain ⟨n, v⟩ := entry
    rw [List.map_cons, List.nodup_cons] at h
    have hrest : (entries.map Prod.fst).filterMap
        (fun name => (((n, v) :: entries).lookup name).map (Prod.mk name)) =
        (entries.map Prod.fst).filterMap (fun name => (entries.lookup name).map (Prod.mk name)) :=
      List.filterMap_congr fun name hname => by
        rw [lookup_cons, if_neg (ne_of_mem_of_not_mem hname h.1)]
    rw [List.map_cons, List.filterMap_cons, hrest, ih h.2]
    simp

theorem lookup_reverse {entries : List (String × α)} (h : (entries.map Prod.fst).Nodup)
    (name : String) : entries.reverse.lookup name = entries.lookup name := by
  induction entries with
  | nil => rfl
  | cons entry entries ih =>
    obtain ⟨n, v⟩ := entry
    rw [List.map_cons, List.nodup_cons] at h
    rw [List.reverse_cons, List.lookup_append, ih h.2, lookup_cons, lookup_cons]
    split
    · rename_i heq
      rw [heq, lookup_eq_none_iff.mpr h.1, Option.none_or]
    · simp

end Entries

theorem eraseDups_of_nodup {names : List String} (h : names.Nodup) : names.eraseDups = names := by
  induction names with
  | nil => rfl
  | cons name names ih =>
    rw [List.nodup_cons] at h
    have hrest : names.filter (fun n => !n == name) = names :=
      List.filter_eq_self.mpr fun n hn => by simpa using ne_of_mem_of_not_mem hn h.1
    rw [List.eraseDups_cons, hrest, ih h.2]

namespace RuleSettings

def names (r : RuleSettings) : List String :=
  r.entries.map Prod.fst

theorem nodup_names (r : RuleSettings) : r.names.Nodup := r.distinct

/-- Settings with the same names in the same order and the same setting under
each name are the same. -/
theorem ext_get? {a b : RuleSettings} (hnames : a.names = b.names)
    (hget : ∀ name, a.get? name = b.get? name) : a = b := by
  have hentries : a.entries = b.entries := by
    rw [← Entries.filterMap_lookup a.distinct, ← Entries.filterMap_lookup b.distinct]
    show a.names.filterMap (fun name => (a.get? name).map (Prod.mk name)) =
      b.names.filterMap (fun name => (b.get? name).map (Prod.mk name))
    rw [hnames, funext hget]
  cases a
  cases b
  cases hentries
  rfl

/-! ## Setting one entry after the other -/

theorem names_set (r : RuleSettings) (name : String) (setting : Setting) :
    (r.set name setting).names = if name ∈ r.names then r.names else r.names ++ [name] :=
  Entries.map_fst_set name setting r.entries

/-- A name keeps the place that it got when it came first. -/
theorem names_setAll (r : RuleSettings) (given : List (String × Setting)) :
    (r.setAll given).names = (r.names ++ given.map Prod.fst).eraseDups := by
  induction given generalizing r with
  | nil =>
    rw [List.map_nil, List.append_nil, eraseDups_of_nodup r.nodup_names]
    rfl
  | cons entry given ih =>
    obtain ⟨name, setting⟩ := entry
    show ((r.set name setting).setAll given).names = _
    rw [ih, names_set, List.map_cons]
    split
    · rename_i h
      simp [List.eraseDups_append, List.cons_removeAll, h]
    · simp

/-- A name has the setting that was given for it last. -/
theorem get?_setAll (r : RuleSettings) (given : List (String × Setting)) (name : String) :
    (r.setAll given).get? name = (given.reverse.lookup name).or (r.get? name) := by
  induction given generalizing r with
  | nil => rfl
  | cons entry given ih =>
    obtain ⟨n, setting⟩ := entry
    show ((r.set n setting).setAll given).get? name = _
    rw [ih, get?_set, List.reverse_cons, List.lookup_append, Option.or_assoc, Entries.lookup_cons]
    split <;> rfl

theorem setAll_append (r : RuleSettings) (given more : List (String × Setting)) :
    r.setAll (given ++ more) = (r.setAll given).setAll more :=
  List.foldl_append

/-! ## Merging -/

theorem names_merge (a b : RuleSettings) :
    (a.merge b).names = a.names ++ b.names.filter (· ∉ a.names) := by
  have hnew : b.names.removeAll a.names = b.names.filter (· ∉ a.names) := by
    simp [List.removeAll]
  rw [merge, names_setAll, ← names, List.eraseDups_append, eraseDups_of_nodup a.nodup_names, hnew,
    eraseDups_of_nodup (b.nodup_names.filter _)]

theorem get?_merge (a b : RuleSettings) (name : String) :
    (a.merge b).get? name = (b.get? name).or (a.get? name) := by
  rw [merge, get?_setAll, Entries.lookup_reverse b.distinct]
  rfl

theorem merge_empty (a : RuleSettings) : a.merge empty = a := rfl

theorem empty_merge (a : RuleSettings) : empty.merge a = a := by
  refine ext_get? ?_ fun name => ?_
  · rw [names_merge]
    simp [names, empty]
  · rw [get?_merge]
    simp [get?, empty]

theorem merge_self (a : RuleSettings) : a.merge a = a := by
  refine ext_get? ?_ fun name => ?_
  · simp [names_merge]
  · rw [get?_merge, Option.or_self]

theorem merge_assoc (a b c : RuleSettings) : (a.merge b).merge c = a.merge (b.merge c) := by
  refine ext_get? ?_ fun name => ?_
  · simp only [names_merge, List.filter_append, List.append_assoc, List.filter_filter]
    congr 2
    refine List.filter_congr fun name _ => ?_
    by_cases ha : name ∈ a.names <;> simp [ha]
  · simp only [get?_merge, Option.or_assoc]

/-- What is set in settings is set in a merge with them. -/
theorem merge_set (a b : RuleSettings) (name : String) (setting : Setting) :
    a.merge (b.set name setting) = (a.merge b).set name setting := by
  refine ext_get? ?_ fun other => ?_
  · rw [names_merge, names_set, names_set, names_merge]
    by_cases hb : name ∈ b.names
    · by_cases ha : name ∈ a.names <;> simp [ha, hb]
    · by_cases ha : name ∈ a.names <;> simp [ha, hb]
  · rw [get?_merge, get?_set, get?_set, get?_merge]
    split <;> rfl

theorem merge_ofList (a : RuleSettings) (given : List (String × Setting)) :
    a.merge (ofList given) = a.setAll given := by
  induction given using List.reverseRecOn with
  | nil => rfl
  | append_singleton given entry ih =>
    rw [ofList, setAll_append, ← ofList, setAll_append]
    show a.merge ((ofList given).set entry.1 entry.2) = (a.setAll given).set entry.1 entry.2
    rw [merge_set, ih]

/-! ## Instances -/

theorem instances_eq (r : RuleSettings) :
    r.instances = r.names.flatMap fun name =>
      ((r.get? name).elim [] Setting.options).map (⟨name, ·⟩) := by
  have hentries : r.entries = r.names.filterMap fun name => (r.get? name).map (Prod.mk name) :=
    (Entries.filterMap_lookup r.distinct).symm
  rw [instances, hentries, List.filterMap_eq_flatMap_toList, List.flatMap_assoc]
  refine List.flatMap_congr fun name _ => ?_
  cases r.get? name <;> simp

/-- The instances of a merge: the names of the one in order, then what the
other adds, each with the options that the other has for it, if any. -/
theorem instances_merge (a b : RuleSettings) :
    (a.merge b).instances = (a.names ++ b.names.filter (· ∉ a.names)).flatMap fun name =>
      (((b.get? name).or (a.get? name)).elim [] Setting.options).map (⟨name, ·⟩) := by
  rw [instances_eq, names_merge]
  simp only [get?_merge]

end RuleSettings

end VectorLint
