/-
The rules that there are, by name, and how a rule comes out of options.
-/
import VectorLint.Rule.Settings

namespace VectorLint

/-- Why a name and options give no rule. -/
inductive ResolutionError
  | unknown (rule : String)
  | invalidConfig (rule message : String)
  | failed (rule : String) (p : Panic)
deriving DecidableEq, Repr

def ResolutionError.message : ResolutionError → String
  | .unknown rule => "Unknown rule (" ++ rule ++ ")"
  | .invalidConfig rule message => "Invalid config for rule (" ++ rule ++ "): " ++ message
  | .failed rule p => "Failed to load rule (" ++ rule ++ "): " ++ p.message

/-- How a factory gives no rule: it refuses the options, or it panics. -/
inductive Refusal
  | refused (e : ResolutionError)
  | panicked (p : Panic)

abbrev Factory := Options → Except Refusal Rule

/-- Refuses options for a reason. -/
def refuse {α : Type} (rule message : String) : Except Refusal α :=
  .error (.refused (.invalidConfig rule message))

/-- Factories in the order of their names. -/
structure Registry where
  factories : List (String × Factory)

namespace Registry

def empty : Registry := ⟨[]⟩

/-- The registry with a further factory; it replaces one of the same name. -/
def register (r : Registry) (name : String) (factory : Factory) : Registry :=
  ⟨Entries.insert name factory r.factories⟩

theorem lookup_register (r : Registry) (name other : String) (factory : Factory) :
    (r.register name factory).factories.lookup other =
      if other = name then some factory else r.factories.lookup other :=
  Entries.lookup_insert name other factory r.factories

def contains (r : Registry) (name : String) : Bool :=
  (r.factories.lookup name).isSome

/-- The names in order. -/
def names (r : Registry) : List String :=
  r.factories.map Prod.fst

def size (r : Registry) : Nat :=
  r.factories.length

/-- The registry for a reader. -/
def describe (r : Registry) : String :=
  "RuleRegistry \x7b rules: [" ++ ", ".intercalate (r.names.map Text.quoted) ++ "] \x7d"

/-- The rule of a name with options. A factory that panics fails. -/
def resolve (r : Registry) (name : String) (options : Options) : Except ResolutionError Rule :=
  match r.factories.lookup name with
  | none => .error (.unknown name)
  | some factory =>
    match factory options with
    | .ok rule => .ok rule
    | .error (.refused e) => .error e
    | .error (.panicked p) => .error (.failed name p)

end Registry

end VectorLint
