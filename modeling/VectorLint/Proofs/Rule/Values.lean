/-
The values of the options of `attr`. A value says which values of an attribute
it allows (`Allows`), and with which message it refuses another (`Mismatch`);
what is expected of an attribute does just that (`violation_eq_none_iff`,
`violation_eq_some_iff`). What a pattern matches is up to the engine.
-/
import VectorLint.Proofs.Rule.Data

namespace VectorLint.Attributes

variable {engine : PatternEngine} {name : String} {v : Json.Value} {e : Expectation}
  {value : Option String} {m : Message}

theorem patternText?_eq_some_iff {s re : String} :
    patternText? s = some re ↔ s = "/" ++ re ++ "/" := by
  constructor
  · intro h
    unfold patternText? at h
    split at h
    · rename_i rest hs
      split at h
      · rename_i hlast
        cases h
        have hrest := List.dropLast_append_getLast? _ hlast
        apply String.toList_injective
        rw [hs, String.toList_append, String.toList_append, String.toList_ofList]
        simp [hrest]
      · cases h
    · cases h
  · rintro rfl
    simp [patternText?]

theorem slashed_inj {re re' : String} (h : "/" ++ re ++ "/" = "/" ++ re' ++ "/") : re = re' := by
  have hread := patternText?_eq_some_iff.mpr (rfl : "/" ++ re ++ "/" = "/" ++ re ++ "/")
  rw [h, patternText?_eq_some_iff.mpr rfl] at hread
  exact (Option.some.inj hread).symm

theorem map_string_of_mapM {items : List Json.Value} {values : List String}
    (h : items.mapM Json.Value.asString? = some values) : items = values.map .string := by
  induction items generalizing values with
  | nil =>
    cases h
    rfl
  | cons item items ih =>
    rw [List.mapM_cons] at h
    obtain ⟨text, htext, h⟩ := Option.bind_eq_some_iff.mp h
    obtain ⟨texts, htexts, h⟩ := Option.bind_eq_some_iff.mp h
    cases h
    rw [List.map_cons, ← ih htexts]
    cases item <;> cases htext
    rfl

/-- The values of an attribute that a value allows; without a value the
attribute is absent. -/
inductive Allows (engine : PatternEngine) : Json.Value → Option String → Prop
  | present (a : String) : Allows engine (.bool true) (some a)
  | absent : Allows engine (.bool false) none
  | number (x : Json.Number) : Allows engine (.number x) (some (String.ofList x.chars))
  | text {s : String} (plain : ∀ re, s ≠ "/" ++ re ++ "/") : Allows engine (.string s) (some s)
  | pattern {s re a : String} {accepts : String → Bool} (slashed : s = "/" ++ re ++ "/")
      (h : engine re = .ok accepts) (hmatch : accepts a = true) :
      Allows engine (.string s) (some a)
  | item {items : List Json.Value} {a : String} (h : .string a ∈ items) :
      Allows engine (.array items) (some a)

/-- How a value refuses what it does not allow. -/
inductive Mismatch (engine : PatternEngine) (name : String) :
    Json.Value → Option String → Message → Prop
  | disallowed (a : String) :
      Mismatch engine name (.bool false) (some a)
        (.ofText ("Attribute '" ++ name ++ "' is disallowed"))
  | missing {v : Json.Value} (h : v ≠ .bool false) :
      Mismatch engine name v none (.ofText ("Expected attribute '" ++ name ++ "', didn't find it"))
  | number {x : Json.Number} {a : String} (h : String.ofList x.chars ≠ a) :
      Mismatch engine name (.number x) (some a)
        ⟨[.string ("Expected attribute '" ++ name ++ "' to be"), .string (String.ofList x.chars),
          .string "but found", .string a]⟩
  | text {s a : String} (plain : ∀ re, s ≠ "/" ++ re ++ "/") (h : s ≠ a) :
      Mismatch engine name (.string s) (some a)
        ⟨[.string ("Expected attribute '" ++ name ++ "' to be"), .string s, .string "but found",
          .string a]⟩
  | pattern {s re a : String} {accepts : String → Bool} (slashed : s = "/" ++ re ++ "/")
      (h : engine re = .ok accepts) (hmatch : accepts a = false) :
      Mismatch engine name (.string s) (some a)
        ⟨[.string ("Expected attribute '" ++ name ++ "' to match /" ++ re ++ "/, found"), .string a]⟩
  | item {items : List Json.Value} {a : String} (h : .string a ∉ items) :
      Mismatch engine name (.array items) (some a)
        ⟨[.string ("Expected attribute '" ++ name ++ "' to be one of"), .array items,
          .string "but found", .string a]⟩

/-- What is expected of an attribute is what its value says. -/
theorem violation_of_readExpectation (h : readExpectation engine name v = .ok e)
    (value : Option String) :
    match e.violation name value with
    | none => Allows engine v value
    | some m => Mismatch engine name v value m := by
  unfold readExpectation at h
  split at h
  · cases h
    cases value with
    | none => exact .missing nofun
    | some a => exact .present a
  · cases h
    cases value with
    | none => exact .absent
    | some a => exact .disallowed a
  · rename_i x
    cases h
    cases value with
    | none => exact .missing nofun
    | some a =>
      by_cases ha : String.ofList x.chars = a
      · simpa [Expectation.violation, ha] using ha ▸ Allows.number x
      · simpa [Expectation.violation, ha] using Mismatch.number ha
  · rename_i s
    split at h
    · rename_i hplain
      have plain (re : String) : s ≠ "/" ++ re ++ "/" := fun hs => by
        rw [patternText?_eq_some_iff.mpr hs] at hplain
        cases hplain
      cases h
      cases value with
      | none => exact .missing nofun
      | some a =>
        by_cases ha : s = a
        · simpa [Expectation.violation, ha] using ha ▸ Allows.text plain
        · simpa [Expectation.violation, ha] using Mismatch.text plain ha
    · rename_i re hre
      have slashed := patternText?_eq_some_iff.mp hre
      split at h
      · rename_i accepts hp
        cases h
        cases value with
        | none => exact .missing nofun
        | some a =>
          cases ha : accepts a with
          | true => simpa [Expectation.violation, ha] using Allows.pattern slashed hp ha
          | false => simpa [Expectation.violation, ha] using Mismatch.pattern slashed hp ha
      · cases h
  · split at h
    · rename_i values hvalues
      cases h
      cases value with
      | none => exact .missing nofun
      | some a =>
        rw [map_string_of_mapM hvalues]
        by_cases ha : a ∈ values
        · simpa [Expectation.violation, ha] using Allows.item (List.mem_map_of_mem ha)
        · have hitem : Json.Value.string a ∉ values.map .string := by simpa using ha
          simpa [Expectation.violation, ha] using Mismatch.item hitem
    · cases h
  · cases h

/-- Nothing is both allowed and refused. -/
theorem Allows.not_mismatch (h : Allows engine v value) : ¬ Mismatch engine name v value m := by
  intro hm
  cases h with
  | pattern slashed hp hmatch =>
    cases hm with
    | text plain => exact plain _ slashed
    | pattern slashed' hp' hmatch' =>
      obtain rfl := slashed_inj (slashed.symm.trans slashed')
      cases hp.symm.trans hp'
      rw [hmatch] at hmatch'
      cases hmatch'
  | text plain =>
    cases hm with
    | text _ h => exact h rfl
    | pattern slashed => exact plain _ slashed
  | _ => cases hm <;> contradiction

theorem Mismatch.unique {m' : Message} (h : Mismatch engine name v value m)
    (h' : Mismatch engine name v value m') : m = m' := by
  cases h with
  | text plain =>
    cases h' with
    | text => rfl
    | pattern slashed => exact absurd slashed (plain _)
  | pattern slashed =>
    cases h' with
    | text plain => exact absurd slashed (plain _)
    | pattern slashed' =>
      obtain rfl := slashed_inj (slashed.symm.trans slashed')
      rfl
  | _ =>
    cases h'
    rfl

theorem violation_eq_none_iff (h : readExpectation engine name v = .ok e) :
    e.violation name value = none ↔ Allows engine v value := by
  have hviolation := violation_of_readExpectation h value
  cases he : e.violation name value with
  | none =>
    rw [he] at hviolation
    exact iff_of_true rfl hviolation
  | some m =>
    rw [he] at hviolation
    exact iff_of_false nofun fun hallows => hallows.not_mismatch hviolation

theorem violation_eq_some_iff (h : readExpectation engine name v = .ok e) :
    e.violation name value = some m ↔ Mismatch engine name v value m := by
  have hviolation := violation_of_readExpectation h value
  cases he : e.violation name value with
  | none =>
    rw [he] at hviolation
    exact iff_of_false nofun hviolation.not_mismatch
  | some m' =>
    rw [he] at hviolation
    rw [Option.some.injEq]
    exact ⟨fun heq => heq ▸ hviolation, fun hm => hviolation.unique hm⟩

end VectorLint.Attributes
