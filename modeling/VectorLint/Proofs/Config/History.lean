/-
Histories of settings: in which ways settings come about, and what was given
on the way (`RuleSettings.Given`). A file gives the members of its rules one
after the other, in either format (`readRules_eq`, `mapping_ruleMember`), so
that what is read is one more list of settings given.

`ordered_merge_monoid`: settings hold what was given last under each name, in
the order in which the names came first, and merging is a monoid on them.
-/
import VectorLint.Config.Json
import VectorLint.Config.Yaml
import VectorLint.Proofs.Rule.Merging

namespace VectorLint

/-! ## Reading into a view

What is read off a tape into a view of what was read before is a view of what
is read. -/

namespace Yaml.Tape

variable {α β : Type} {f : α → β}

theorem node_map {read : Reads α} {read' : Reads β}
    (h : ∀ t, read' t = (read t).map (Prod.map f id)) (t : Tape) :
    node read' t = (node read t).map (Prod.map f id) := by
  unfold node
  split
  · rename_i n rest _
    split
    · rfl
    · cases target? n t.document with
      | none => rfl
      | some target =>
        let start : Tape := { t with rest := target, follows := t.follows - 1 }
        show (read' start >>= fun x => some (x.1, { x.2 with rest := rest })) =
          (read start >>= fun x => some (x.1, { x.2 with rest := rest })).map (Prod.map f id)
        rw [h]
        cases read start <;> rfl
  · exact h t

variable {read : String → α → Reads α} {read' : String → β → Reads β}

theorem members_map (h : ∀ key a t, read' key (f a) t = (read key a t).map (Prod.map f id))
    (fuel : Nat) (a : α) (t : Tape) :
    members read' fuel (f a) t = (members read fuel a t).map (Prod.map f id) := by
  induction fuel generalizing a t with
  | zero => rfl
  | succ fuel ih =>
    unfold members
    split
    · rfl
    · cases text t with
      | none => rfl
      | some key =>
        show (read' key.1 (f a) key.2 >>= fun next => members read' fuel next.1 next.2) =
          (read key.1 a key.2 >>= fun next => members read fuel next.1 next.2).map (Prod.map f id)
        rw [h]
        cases read key.1 a key.2 with
        | none => rfl
        | some next => exact ih next.1 next.2

theorem mapping_map (h : ∀ key a t, read' key (f a) t = (read key a t).map (Prod.map f id)) (a : α)
    (t : Tape) : mapping read' (f a) t = (mapping read a t).map (Prod.map f id) := by
  refine node_map (fun t => ?_) t
  split
  · exact members_map h _ _ _
  · rfl
  · rfl

end Yaml.Tape

/-! ## The members of a file's rules -/

namespace RuleSettings

theorem ofMembers_concat (members : List (String × Json.Value)) (name : String) (v : Json.Value) :
    ofMembers (members ++ [(name, v)]) = (ofMembers members).set name (.ofValue v) := by
  simp [ofMembers, ofList, setAll, List.foldl_append]

end RuleSettings

namespace Config

open Json Yaml

/-- Reads the members of an object behind those read before. -/
def readMembersBehind : (fuel : Nat) → List (String × Json.Value) → Turn →
    Except Fault (List (String × Json.Value) × List Char)
  | 0, _, _ => .error .ended
  | _ + 1, members, .close s => .ok (members, s)
  | fuel + 1, members, .item s => do
    let (name, s) ← readString s
    let s ← readColon s
    let (v, s) ← readValue (readFuel s) settingLevels s
    readMembersBehind fuel (members ++ [(name, v)]) (← nextMember s)

/-- Reads the members of the object that a JSON text begins with. -/
def readJsonMembers (s : List Char) : Except Fault (List (String × Json.Value) × List Char) :=
  match skipSpace s with
  | '\x7b' :: s => do readMembersBehind (s.length + 1) [] (← firstMember s)
  | s => refuseValue s

/-- Reads a member of a mapping behind those read before. -/
def readMemberBehind (name : String) (members : List (String × Json.Value)) :
    Reads (List (String × Json.Value)) := fun t => do
  let (v, t) ← Tape.value (Yaml.maxLevels - 2) t
  return (members ++ [(name, v)], t)

theorem readRuleMembers_eq (fuel : Nat) (members : List (String × Json.Value)) (turn : Turn) :
    readRuleMembers fuel (.ofMembers members) turn =
      (readMembersBehind fuel members turn).map (Prod.map RuleSettings.ofMembers id) := by
  induction fuel generalizing members turn with
  | zero => rfl
  | succ fuel ih =>
    cases turn with
    | close s => rfl
    | item s =>
      simp only [readRuleMembers, readMembersBehind, bind, Except.bind]
      cases readString s with
      | error e => rfl
      | ok name =>
        simp only
        cases readColon name.2 with
        | error e => rfl
        | ok s =>
          simp only
          cases readValue (readFuel s) settingLevels s with
          | error e => rfl
          | ok v =>
            simp only
            cases nextMember v.2 with
            | error e => rfl
            | ok turn => exact RuleSettings.ofMembers_concat members _ _ ▸ ih _ turn

theorem refuseValue_map {α β : Type} (f : α → β) (s : List Char) :
    (refuseValue s : Except Fault α).map f = refuseValue s := by
  unfold refuseValue
  split
  · rfl
  · rfl
  · cases readValue 1 0 (skipSpace s) <;> rfl

theorem readRules_of_ne {s : List Char} (h : ∀ members, skipSpace s ≠ '\x7b' :: members) :
    readRules s = refuseValue (skipSpace s) := by
  unfold readRules
  split
  · rename_i members hbrace
    exact absurd hbrace (h members)
  · rfl

theorem readJsonMembers_of_ne {s : List Char} (h : ∀ members, skipSpace s ≠ '\x7b' :: members) :
    readJsonMembers s = refuseValue (skipSpace s) := by
  unfold readJsonMembers
  split
  · rename_i members hbrace
    exact absurd hbrace (h members)
  · rfl

theorem readRules_eq (s : List Char) :
    readRules s = (readJsonMembers s).map (Prod.map RuleSettings.ofMembers id) := by
  by_cases h : ∃ members, skipSpace s = '\x7b' :: members
  · obtain ⟨members, hbrace⟩ := h
    simp only [readRules, readJsonMembers, hbrace]
    cases firstMember members with
    | error e => rfl
    | ok turn => exact readRuleMembers_eq (members.length + 1) [] turn
  · have hother : ∀ members, skipSpace s ≠ '\x7b' :: members :=
      fun members hbrace => h ⟨members, hbrace⟩
    rw [readRules_of_ne hother, readJsonMembers_of_ne hother, refuseValue_map]

theorem mapping_ruleMember (t : Tape) :
    Tape.mapping ruleMember .empty t =
      (Tape.mapping readMemberBehind [] t).map (Prod.map RuleSettings.ofMembers id) := by
  refine Tape.mapping_map (f := RuleSettings.ofMembers) (a := []) (fun name members t => ?_) t
  unfold ruleMember readMemberBehind
  cases Tape.value (Yaml.maxLevels - 2) t with
  | none => rfl
  | some read =>
    exact congrArg (fun r => some (r, read.2)) (RuleSettings.ofMembers_concat members name read.1).symm

/-- The members that a JSON text gives. -/
def jsonMembers (s : List Char) : List (String × Json.Value) :=
  ((readJsonMembers s).toOption.map Prod.fst).getD []

/-- The members that a YAML document gives. -/
def yamlMembers (t : Tape) : List (String × Json.Value) :=
  ((Tape.mapping readMemberBehind [] t).map Prod.fst).getD []

end Config

/-! ## Histories -/

namespace RuleSettings

/-- What members give. -/
def settingsOf (members : List (String × Json.Value)) : List (String × Setting) :=
  members.map fun (name, v) => (name, .ofValue v)

/-- Settings that operations lead to, with everything that was given on the
way, the oldest first. -/
inductive Given : List (String × Setting) → RuleSettings → Prop
  | empty : Given [] empty
  | set {given : List (String × Setting)} {r : RuleSettings} (name : String) (setting : Setting) :
    Given given r → Given (given ++ [(name, setting)]) (r.set name setting)
  | merge {given more : List (String × Setting)} {r other : RuleSettings} :
    Given given r → Given more other → Given (given ++ more) (r.merge other)
  | ofMembers (members : List (String × Json.Value)) : Given (settingsOf members) (ofMembers members)
  | json {s rest : List Char} {r : RuleSettings} :
    Config.readRules s = .ok (r, rest) → Given (settingsOf (Config.jsonMembers s)) r
  | yaml {t rest : Yaml.Tape} {r : RuleSettings} :
    Yaml.Tape.mapping Config.ruleMember .empty t = some (r, rest) →
      Given (settingsOf (Config.yamlMembers t)) r

/-- However settings came about, they are what was given, set one after the
other. -/
theorem Given.eq_ofList {given : List (String × Setting)} {r : RuleSettings} (h : Given given r) :
    r = ofList given := by
  induction h with
  | empty => rfl
  | set name setting _ ih => rw [ih, ofList, ofList, setAll_append]; rfl
  | merge _ _ ih ihOther => rw [ih, ihOther, merge_ofList, ofList, ofList, setAll_append]
  | ofMembers members => rfl
  | json hread =>
    rename_i s _ _
    rw [Config.readRules_eq] at hread
    rw [Config.jsonMembers]
    cases hmembers : Config.readJsonMembers s with
    | error e => simp [hmembers, Except.map] at hread
    | ok members =>
      simp only [hmembers, Except.map, Except.ok.injEq, Prod.map, Prod.mk.injEq] at hread
      exact hread.1.symm
  | yaml hread =>
    rename_i t _ _
    rw [Config.mapping_ruleMember] at hread
    rw [Config.yamlMembers]
    cases hmembers : Yaml.Tape.mapping Config.readMemberBehind [] t with
    | none => simp [hmembers] at hread
    | some members =>
      simp only [hmembers, Option.map_some, Option.some.injEq, Prod.map, Prod.mk.injEq] at hread
      exact hread.1.symm

theorem names_ofList (given : List (String × Setting)) :
    (ofList given).names = (given.map Prod.fst).eraseDups :=
  names_setAll empty given

theorem get?_ofList (given : List (String × Setting)) (name : String) :
    (ofList given).get? name = given.reverse.lookup name := by
  rw [ofList, get?_setAll]
  exact Option.or_none

/-- **Settings are an ordered map, and merging is a monoid on it.** Whatever
operations lead to settings, no name comes twice, names stand in the order in
which they were given first, and each has the setting given for it last. The
empty settings change nothing in a merge, nor do settings merged into
themselves; merging is associative; and a merge runs, name by name, what the
other settings have for it, else what the first ones have. -/
theorem ordered_merge_monoid :
    (∀ (given : List (String × Setting)) (r : RuleSettings), Given given r →
      r.names.Nodup ∧ r.names = (given.map Prod.fst).eraseDups ∧
        ∀ name, r.get? name = given.reverse.lookup name) ∧
    ∀ a b c : RuleSettings,
      empty.merge a = a ∧ a.merge empty = a ∧ a.merge a = a ∧
      (a.merge b).merge c = a.merge (b.merge c) ∧
      (a.merge b).instances = (a.names ++ b.names.filter (· ∉ a.names)).flatMap fun name =>
        (((b.get? name).or (a.get? name)).elim [] Setting.options).map (⟨name, ·⟩) := by
  refine ⟨fun given r h => ⟨r.nodup_names, ?_, fun name => ?_⟩, fun a b c =>
    ⟨empty_merge a, merge_empty a, merge_self a, merge_assoc a b c, instances_merge a b⟩⟩
  · rw [h.eq_ofList, names_ofList]
  · rw [h.eq_ofList, get?_ofList]

/-- Settings for two names, with others merged in that disable the first. -/
def overridden : RuleSettings :=
  ((empty.set "elm" (.one (.data .null))).set "attr" (.many [.data .null, .data (.bool true)])).merge
    (empty.set "elm" .disabled)

theorem ordered_merge_overridden :
    Given [("elm", .one (.data .null)), ("attr", .many [.data .null, .data (.bool true)]),
      ("elm", .disabled)] overridden ∧
    overridden.names = ["elm", "attr"] ∧ overridden.get? "elm" = some .disabled ∧
    overridden.instances = [⟨"attr", .data .null⟩, ⟨"attr", .data (.bool true)⟩] := by
  have given : Given ([("elm", .one (.data .null)), ("attr", .many [.data .null, .data (.bool true)])] ++
      [("elm", .disabled)]) overridden :=
    .merge (.set _ _ (.set _ _ .empty)) (.set _ _ .empty)
  obtain ⟨-, hnames, hget⟩ := ordered_merge_monoid.1 _ _ given
  obtain ⟨-, -, -, -, hinstances⟩ := ordered_merge_monoid.2
    ((empty.set "elm" (.one (.data .null))).set "attr" (.many [.data .null, .data (.bool true)]))
    (empty.set "elm" .disabled) empty
  exact ⟨given, hnames, hget "elm", hinstances⟩

end RuleSettings

end VectorLint
