/-
What the messages of the built-in rules are made of: texts and counts, and
lists of them (`Message.Flat`). There is no double among them, and they hardly
nest, so results of rules that data configures are read back by any reader of
JSON (`Linter.flat_of_run`, `JsonFormat.depth_of_flat`).
-/
import VectorLint.Proofs.Output.Results
import VectorLint.Proofs.Rule.Data

namespace VectorLint

open Json

/-! ## Messages -/

/-- The parts of a message are texts and counts, or lists of those. -/
inductive Message.IsFlat : Json.Value → Prop
  | text (s : String) : IsFlat (.string s)
  | texts (ss : List String) : IsFlat (.array (ss.map .string))
  | count (n : Nat) : IsFlat (.ofNat n)
  | counts (ns : List Nat) : IsFlat (.array (ns.map .ofNat))

def Message.Flat (m : Message) : Prop :=
  ∀ v ∈ m.parts, IsFlat v

namespace Message

variable {v : Json.Value}

theorem IsFlat.plain (h : IsFlat v) : v.Plain := by
  cases h with
  | text s => exact .string s
  | texts ss => exact .array (List.forall_mem_map.mpr fun s _ => .string s)
  | count n => exact .ofNat n
  | counts ns => exact .array (List.forall_mem_map.mpr fun n _ => .ofNat n)

theorem IsFlat.depth_le (h : IsFlat v) : v.depth ≤ 1 := by
  cases h with
  | text s => simp
  | texts ss =>
    rw [Value.depth, Nat.add_le_add_iff_right, depthItems_le_iff]
    simp
  | count n => simp
  | counts ns =>
    rw [Value.depth, Nat.add_le_add_iff_right, depthItems_le_iff]
    simp

theorem flat_ofText (text : String) : (ofText text).Flat :=
  List.forall_mem_singleton.mpr (.text text)

end Message

/-! ## The messages of the rules -/

namespace Elements

theorem flat_countMessage (c : Check) (count : Nat) {expected : Json.Value}
    (h : Message.IsFlat expected) : (countMessage c count expected).Flat :=
  List.forall_mem_cons.mpr ⟨.text _, List.forall_mem_singleton.mpr h⟩

theorem flat_errors (checks : List Check) (d : Document) : ∀ e ∈ errors checks d, e.1.Flat := by
  intro e he
  obtain ⟨c, -, he⟩ := List.mem_flatMap.mp he
  unfold Check.errors at he
  split at he
  · split at he
    · exact List.mem_singleton.mp he ▸ Message.flat_ofText _
    · cases he
  · obtain ⟨id, -, rfl⟩ := List.mem_map.mp he
    exact Message.flat_ofText _
  · split at he
    · cases he
    · exact List.mem_singleton.mp he ▸ flat_countMessage _ _ (.count _)
  · rename_i least most _
    split at he
    · cases he
    · exact List.mem_singleton.mp he ▸ flat_countMessage _ _ (.counts [least, most])

end Elements

namespace Attributes

theorem flat_violation {e : Expectation} {name : String} {value : Option String} {m : Message}
    (h : e.violation name value = some m) : m.Flat := by
  unfold Expectation.violation at h
  split at h
  · cases h
    exact Message.flat_ofText _
  · cases h
  · cases h
    exact Message.flat_ofText _
  · cases h
  · split at h
    · cases h
    · cases h
      simp only [Message.Flat, List.forall_mem_cons]
      exact ⟨.text _, .text _, .text _, .text _, List.forall_mem_nil _⟩
  · split at h
    · cases h
    · cases h
      simp only [Message.Flat, List.forall_mem_cons]
      exact ⟨.text _, .text _, List.forall_mem_nil _⟩
  · split at h
    · cases h
    · cases h
      simp only [Message.Flat, List.forall_mem_cons]
      exact ⟨.text _, .texts _, .text _, .text _, List.forall_mem_nil _⟩

theorem flat_orderViolation {order : List String} {n : Node} {m : Message}
    (h : orderViolation order n = some m) : m.Flat := by
  unfold orderViolation at h
  dsimp only at h
  split at h
  · cases h
  · cases h
    simp only [Message.Flat, List.forall_mem_cons]
    exact ⟨.text _, .texts _, .text _, .texts _, List.forall_mem_nil _⟩

theorem flat_violations (c : Config) (n : Node) : ∀ m ∈ c.violations n, m.Flat := by
  intro m hm
  simp only [Config.violations, List.mem_append] at hm
  rcases hm with (hm | hm) | hm
  · obtain ⟨_, -, hm⟩ := List.mem_filterMap.mp hm
    exact flat_violation hm
  · split at hm
    · obtain ⟨_, -, rfl⟩ := List.mem_map.mp hm
      exact Message.flat_ofText _
    · cases hm
  · obtain ⟨order, -, hm⟩ := Option.bind_eq_some_iff.mp (Option.mem_toList.mp hm)
    exact flat_orderViolation hm

theorem flat_errors (c : Config) (d : Document) : ∀ e ∈ errors c d, e.1.Flat := by
  intro e he
  obtain ⟨id, -, he⟩ := List.mem_flatMap.mp he
  split at he
  · obtain ⟨m, hm, rfl⟩ := List.mem_map.mp he
    exact flat_violations c _ m hm
  · cases he

end Attributes

/-! ## Reports -/

theorem Registry.exists_errors_of_resolve {engine : PatternEngine} {i : RuleInstance} {v : Json.Value}
    {rule : Rule} (hdata : i.options = .data v)
    (h : (builtinWith engine).resolve i.name i.options = .ok rule) :
    ∃ errors, rule = .ofErrors errors ∧ ∀ d, ∀ e ∈ errors d, e.1.Flat := by
  rcases factory_of_resolve_builtinWith hdata h with ⟨-, hrule⟩ | ⟨-, hrule⟩
  · obtain ⟨-, checks, -, -, rfl⟩ := Elements.factory_eq_ok hrule
    exact ⟨_, rfl, Elements.flat_errors checks⟩
  · obtain ⟨-, c, -, -, rfl⟩ := Attributes.factory_eq_ok hrule
    exact ⟨_, rfl, Attributes.flat_errors c⟩

theorem Registry.flat_of_mem_events {engine : PatternEngine} {i : RuleInstance} {v : Json.Value}
    {d : Document} {context : Context} {event : Event} (hdata : i.options = .data v)
    (h : event ∈ (builtinWith engine).events d context i) :
    ∃ e, event = .error e ∧ e.raw.Flat := by
  cases hresolve : (builtinWith engine).resolve i.name i.options with
  | error e =>
    rw [events, hresolve] at h
    cases h
  | ok rule =>
    obtain ⟨errors, rfl, hflat⟩ := exists_errors_of_resolve hdata hresolve
    rw [events_ofErrors hresolve] at h
    obtain ⟨e, he, rfl⟩ := List.mem_map.mp h
    exact ⟨_, rfl, hflat d e he⟩

/-- Every diagnostic of a report has a flat message. -/
def Report.Flat (r : Report) : Prop :=
  ∀ d ∈ r.errors ++ r.warnings ++ r.logs, d.raw.Flat

theorem Report.flat_ofEvents {events : List Event}
    (h : ∀ event ∈ events, ∃ e, event = .error e ∧ e.raw.Flat) : (ofEvents events).Flat := by
  intro d hd
  simp only [ofEvents, List.mem_append, List.mem_filterMap] at hd
  rcases hd with (⟨event, hevent, hd⟩ | ⟨event, hevent, hd⟩) | ⟨event, hevent, hd⟩
  all_goals
    obtain ⟨e, rfl, hflat⟩ := h event hevent
    cases hd
  exact hflat

/-- What the built-in rules report is flat if data configures them. -/
theorem Linter.flat_of_run (engine : PatternEngine) {l : Linter} {read : ReadText} {input : String}
    {r : Report} (builtin : l.registry = .builtinWith engine)
    (data : ∀ i ∈ l.settings.instances, ∃ v, i.options = .data v)
    (h : (l.run read input).outcome = .ok r) : r.Flat := by
  cases hparse : Document.parse (resolveInput read input).1 with
  | error e =>
    rw [outcome_run_error hparse] at h
    cases h
  | ok d =>
    rw [outcome_run_eq hparse, Except.ok.injEq] at h
    subst h
    refine Report.flat_ofEvents fun event hevent => ?_
    obtain ⟨i, hi, hevent⟩ := List.mem_flatMap.mp hevent
    obtain ⟨v, hv⟩ := data i hi
    rw [builtin] at hevent
    exact Registry.flat_of_mem_events hv hevent

theorem FileReport.Legible.of_flat {f : FileReport} (h : ∀ r, f.outcome = .ok r → r.Flat) :
    f.Legible :=
  fun r hr d hd v hv => (h r hr d hd v hv).plain

/-- Flat results nest by seven levels at most. -/
theorem JsonFormat.depth_of_flat {files : List FileReport}
    (h : ∀ f ∈ files, ∀ r, f.outcome = .ok r → r.Flat) : (resultsValue files).depth ≤ 7 :=
  depth_resultsValue fun f hf r hr d hd v hv => (h f hf r hr d hd v hv).depth_le

end VectorLint
