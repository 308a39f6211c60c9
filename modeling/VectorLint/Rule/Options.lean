/-
What the options of data-driven rules have in common: they are an object,
and some of their parts are selectors.
-/
import VectorLint.Rule.Registry
import VectorLint.Selector.Reader

namespace VectorLint

/-- The members of options that are an object. -/
def Options.members (rule : String) : Options → Except Refusal (List (String × Json.Value))
  | .data (.object members) => .ok members
  | .data v => refuse rule ("expected an object, got " ++ v.compact)
  | .check _ => refuse rule "expected an object, got a check function"

/-- The selector in the options of a rule. -/
def readSelector (rule text : String) : Except Refusal Selector :=
  match Selector.parse text with
  | .ok selector => .ok selector
  | .error e => refuse rule e.message

end VectorLint
