/-
What stands in configuration files. The settings that are read from a file are
those that values stand for, and merging keeps to them (`RuleSettings.Written`);
so in a configuration that was loaded every instance has data for its options,
and never a rule (`data_of_loadDefault`, `data_of_load`).

Each reader is walked over once, with the settings in the draft as the
invariant.
-/
import VectorLint.Config.Load
import VectorLint.Proofs.Except

namespace VectorLint

/-! ## Settings that values stand for -/

theorem Entries.mem_set {α : Type} {name : String} {value : α} {entries : List (String × α)}
    {entry : String × α} (h : entry ∈ set name value entries) :
    entry = (name, value) ∨ entry ∈ entries := by
  induction entries with
  | nil => exact .inl (List.mem_singleton.mp h)
  | cons first entries ih =>
    obtain ⟨n, v⟩ := first
    unfold set at h
    split at h
    · rename_i hname
      rcases List.mem_cons.mp h with h | h
      · exact .inl (hname ▸ h)
      · exact .inr (List.mem_cons_of_mem _ h)
    · rcases List.mem_cons.mp h with h | h
      · exact .inr (h ▸ List.mem_cons_self)
      · exact (ih h).imp_right (List.mem_cons_of_mem _)

theorem Setting.data_ofValue {v : Json.Value} {o : Options} (h : o ∈ (ofValue v).options) :
    ∃ w, o = .data w := by
  unfold ofValue at h
  split at h
  · cases h
  · obtain ⟨w, -, rfl⟩ := List.mem_map.mp h
    exact ⟨w, rfl⟩
  · exact ⟨v, List.mem_singleton.mp h⟩

namespace RuleSettings

/-- Every setting is one that a value stands for. -/
def Written (r : RuleSettings) : Prop :=
  ∀ entry ∈ r.entries, ∃ v, entry.2 = .ofValue v

theorem Written.empty : Written empty := List.forall_mem_nil _

variable {r other : RuleSettings}

theorem Written.set (h : r.Written) (name : String) (v : Json.Value) :
    (r.set name (.ofValue v)).Written := by
  intro entry hentry
  rcases Entries.mem_set hentry with rfl | hentry
  · exact ⟨v, rfl⟩
  · exact h entry hentry

theorem Written.merge (h : r.Written) (hother : other.Written) : (r.merge other).Written := by
  have hall (given : List (String × Setting)) (hgiven : ∀ entry ∈ given, ∃ v, entry.2 = .ofValue v) :
      (r.setAll given).Written := by
    induction given generalizing r with
    | nil => exact h
    | cons entry given ih =>
      obtain ⟨name, setting⟩ := entry
      obtain ⟨⟨v, hv⟩, hlater⟩ := List.forall_mem_cons.mp hgiven
      obtain rfl : setting = .ofValue v := hv
      exact ih (h.set name v) hlater
  exact hall other.entries hother

theorem Written.data (h : r.Written) : ∀ i ∈ r.instances, ∃ v, i.options = .data v := by
  intro i hi
  obtain ⟨entry, hentry, hi⟩ := List.mem_flatMap.mp hi
  obtain ⟨o, ho, rfl⟩ := List.mem_map.mp hi
  obtain ⟨v, hv⟩ := h entry hentry
  rw [hv] at ho
  exact Setting.data_ofValue ho

end RuleSettings

namespace Config

/-- The settings read so far are ones that values stand for. -/
def Draft.Written (d : Draft) : Prop :=
  ∀ r ∈ d.rules, r.Written

theorem Draft.Written.empty : Written empty := nofun

theorem Draft.Written.config {d : Draft} (h : d.Written) : d.config.rules.Written := by
  show (d.rules.getD .empty).Written
  cases hrules : d.rules with
  | none => exact .empty
  | some r => exact h r hrules

/-! ## Reading JSON -/

section

open Json

variable {s rest : List Char} {d d' : Draft}

theorem written_of_readRuleMembers {fuel : Nat} {r r' : RuleSettings} {turn : Turn}
    (h : readRuleMembers fuel r turn = .ok (r', rest)) (hr : r.Written) : r'.Written := by
  induction fuel generalizing r turn with
  | zero => cases h
  | succ fuel ih =>
    cases turn with
    | close s =>
      cases h
      exact hr
    | item s =>
      obtain ⟨⟨name, _⟩, -, h⟩ := bind_eq_ok.mp h
      obtain ⟨_, -, h⟩ := bind_eq_ok.mp h
      obtain ⟨⟨v, _⟩, -, h⟩ := bind_eq_ok.mp h
      obtain ⟨_, -, h⟩ := bind_eq_ok.mp h
      exact ih h (hr.set name v)

theorem refuseValue_ne_ok {α : Type} {a : α} : refuseValue s ≠ .ok a := by
  unfold refuseValue
  split
  · nofun
  · nofun
  · intro h
    obtain ⟨_, -, h⟩ := bind_eq_ok.mp h
    cases h

theorem written_of_readRules {r : RuleSettings} (h : readRules s = .ok (r, rest)) : r.Written := by
  unfold readRules at h
  split at h
  · obtain ⟨_, -, h⟩ := bind_eq_ok.mp h
    exact written_of_readRuleMembers h .empty
  · exact absurd h refuseValue_ne_ok

theorem written_of_readPart {part : Part} (h : readPart d part s = .ok (d', rest)) (hd : d.Written) :
    d'.Written := by
  cases part with
  | rules =>
    obtain ⟨⟨r, _⟩, hr, h⟩ := bind_eq_ok.mp h
    cases h
    rintro _ ⟨⟩
    exact written_of_readRules hr
  | bases | ignore =>
    obtain ⟨_, -, h⟩ := bind_eq_ok.mp h
    cases h
    exact hd

theorem written_of_readParts {fuel : Nat} {turn : Turn} (h : readParts fuel d turn = .ok (d', rest))
    (hd : d.Written) : d'.Written := by
  induction fuel generalizing d turn with
  | zero => cases h
  | succ fuel ih =>
    cases turn with
    | close s =>
      cases h
      exact hd
    | item s =>
      obtain ⟨⟨key, _⟩, -, h⟩ := bind_eq_ok.mp h
      dsimp only at h
      split at h
      · split at h
        · cases h
        · obtain ⟨_, -, h⟩ := bind_eq_ok.mp h
          obtain ⟨⟨next, _⟩, hnext, h⟩ := bind_eq_ok.mp h
          obtain ⟨_, -, h⟩ := bind_eq_ok.mp h
          exact ih h (written_of_readPart hnext hd)
      · obtain ⟨_, -, h⟩ := bind_eq_ok.mp h
        obtain ⟨_, -, h⟩ := bind_eq_ok.mp h
        obtain ⟨_, -, h⟩ := bind_eq_ok.mp h
        exact ih h hd

theorem written_of_readPartItems {parts : List Part} {turn : Turn}
    (h : readPartItems d parts turn = .ok (d', rest)) (hd : d.Written) : d'.Written := by
  induction parts generalizing d turn with
  | nil =>
    cases turn with
    | close s =>
      cases h
      exact hd
    | item s => cases h
  | cons part parts ih =>
    cases turn with
    | close s =>
      cases h
      exact hd
    | item s =>
      obtain ⟨⟨next, _⟩, hnext, h⟩ := bind_eq_ok.mp h
      dsimp only at h
      split at h
      · cases h
      · obtain ⟨_, -, h⟩ := bind_eq_ok.mp h
        exact ih h (written_of_readPart hnext hd)

theorem written_of_ofJson {c : Config} (h : ofJson s = .ok c) : c.rules.Written := by
  have hended {d : Draft} {rest : List Char} (hd : d.Written)
      (h : (readEnd rest >>= fun _ => pure d.config) = .ok c) : c.rules.Written := by
    obtain ⟨_, -, h⟩ := bind_eq_ok.mp h
    cases h
    exact hd.config
  unfold ofJson at h
  dsimp only at h
  split at h
  · obtain ⟨_, -, h⟩ := bind_eq_ok.mp h
    obtain ⟨⟨d, _⟩, hd, h⟩ := bind_eq_ok.mp h
    exact hended (written_of_readParts hd .empty) h
  · obtain ⟨_, -, h⟩ := bind_eq_ok.mp h
    obtain ⟨⟨d, _⟩, hd, h⟩ := bind_eq_ok.mp h
    exact hended (written_of_readPartItems hd .empty) h
  · obtain ⟨_, hd, -⟩ := bind_eq_ok.mp h
    exact absurd hd refuseValue_ne_ok

end

end Config

/-! ## Reading YAML -/

namespace Yaml.Tape

variable {α : Type} {P : α → Prop} {a : α} {t t' : Tape}

/-- What is read at a node is read somewhere on the tape. -/
theorem exists_of_node {read : Reads α} (h : node read t = some (a, t')) :
    ∃ u u', read u = some (a, u') := by
  unfold node at h
  split at h
  · split at h
    · cases h
    · obtain ⟨rest, -, h⟩ := Option.bind_eq_some_iff.mp h
      obtain ⟨⟨b, after⟩, hread, h⟩ := Option.bind_eq_some_iff.mp h
      cases h
      exact ⟨_, after, hread⟩
  · exact ⟨t, t', h⟩

variable {read : String → α → Reads α}

/-- What every member keeps is kept by all of them. -/
theorem members_keeps (keeps : ∀ key a b t t', read key a t = some (b, t') → P a → P b) {fuel : Nat}
    {b : α} (h : members read fuel a t = some (b, t')) (ha : P a) : P b := by
  induction fuel generalizing a t with
  | zero => cases h
  | succ fuel ih =>
    unfold members at h
    split at h
    · cases h
      exact ha
    · obtain ⟨⟨key, _⟩, -, h⟩ := Option.bind_eq_some_iff.mp h
      obtain ⟨⟨next, _⟩, hnext, h⟩ := Option.bind_eq_some_iff.mp h
      exact ih h (keeps _ _ _ _ _ hnext ha)

theorem mapping_keeps (keeps : ∀ key a b t t', read key a t = some (b, t') → P a → P b) {b : α}
    (h : mapping read a t = some (b, t')) (ha : P a) : P b := by
  obtain ⟨u, u', h⟩ := exists_of_node h
  split at h
  · exact members_keeps keeps h ha
  · cases h
    exact ha
  · cases h

end Yaml.Tape

namespace Config

open Yaml

theorem written_of_ruleMember {name : String} {r r' : RuleSettings} {t t' : Tape}
    (h : ruleMember name r t = some (r', t')) (hr : r.Written) : r'.Written := by
  obtain ⟨⟨v, _⟩, -, h⟩ := Option.bind_eq_some_iff.mp h
  cases h
  exact hr.set name v

theorem written_of_partMember {key : String} {d d' : Draft} {t t' : Tape}
    (h : partMember key d t = some (d', t')) (hd : d.Written) : d'.Written := by
  unfold partMember at h
  split at h
  · obtain ⟨_, -, h⟩ := Option.bind_eq_some_iff.mp h
    cases h
    exact hd
  · split at h
    · cases h
    · split at h
      · obtain ⟨_, -, h⟩ := Option.bind_eq_some_iff.mp h
        cases h
        exact hd
      · obtain ⟨⟨r, _⟩, hr, h⟩ := Option.bind_eq_some_iff.mp h
        cases h
        rintro _ ⟨⟩
        exact Tape.mapping_keeps (fun _ _ _ _ _ => written_of_ruleMember) hr .empty
      · obtain ⟨_, -, h⟩ := Option.bind_eq_some_iff.mp h
        cases h
        exact hd

theorem written_of_ofYaml? {s : List Char} {c : Config} (h : ofYaml? s = some c) :
    c.rules.Written := by
  obtain ⟨tokens, -, h⟩ := Option.bind_eq_some_iff.mp h
  obtain ⟨events, -, h⟩ := Option.bind_eq_some_iff.mp h
  split at h
  · cases h
    exact .empty
  · obtain ⟨tape, -, h⟩ := Option.bind_eq_some_iff.mp h
    obtain ⟨⟨d, _⟩, hd, h⟩ := Option.bind_eq_some_iff.mp h
    cases h
    exact (Tape.mapping_keeps (fun _ _ _ _ _ => written_of_partMember) hd Draft.Written.empty).config

/-! ## Loading -/

theorem written_of_parse {path : String} {text : List Char} {c : Config}
    (h : Decoders.builtin.parse path text = .ok c) : c.rules.Written := by
  unfold Decoders.parse at h
  split at h
  · split at h
    · rename_i hyaml
      cases h
      exact written_of_ofYaml? hyaml
    · cases h
  · split at h
    · rename_i hyaml
      cases h
      exact written_of_ofYaml? hyaml
    · cases h
  · exact written_of_ofJson (mapError_eq_ok.mp h)
  · cases h

theorem written_foldl_merge {cs : List Config} {c : Config} (hall : ∀ base ∈ cs, base.rules.Written)
    (h : c.rules.Written) : (cs.foldl merge c).rules.Written := by
  induction cs generalizing c with
  | nil => exact h
  | cons base cs ih =>
    obtain ⟨hbase, hall⟩ := List.forall_mem_cons.mp hall
    exact ih hall (h.merge hbase)

theorem written_of_loadWithin {read : String → Except IoError (List Char)} {depth : Nat}
    {path : String} {c : Config} (h : loadWithin .builtin read depth path = .ok c) :
    c.rules.Written := by
  induction depth generalizing path c with
  | zero => cases h
  | succ depth ih =>
    obtain ⟨text, -, h⟩ := bind_eq_ok.mp h
    obtain ⟨own, hown, h⟩ := bind_eq_ok.mp h
    obtain ⟨bases, hbases, h⟩ := bind_eq_ok.mp h
    cases h
    have hall : ∀ base ∈ bases, base.rules.Written := by
      intro base hbase
      obtain ⟨_, -, hload⟩ := exists_of_mem_mapM hbases hbase
      exact ih hload
    exact (written_foldl_merge hall .empty).merge (written_of_parse hown)

/-- **Files configure rules by data**: no text stands for a rule itself. -/
theorem data_of_load {read : String → Except IoError (List Char)} {path : String} {c : Config}
    (h : load read path = .ok c) : ∀ i ∈ c.rules.instances, ∃ v, i.options = .data v :=
  (written_of_loadWithin h).data

theorem data_of_loadDefault {fs : FileSystem} {c : Config} (h : loadDefault fs = .ok c) :
    ∀ i ∈ c.rules.instances, ∃ v, i.options = .data v := by
  unfold loadDefault at h
  split at h
  · exact data_of_load h
  · cases h
    exact List.forall_mem_nil _

end Config

end VectorLint
