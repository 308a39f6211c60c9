/-
The rule `elm`: which elements have to exist, and which must not. An element
that a selector allows is exempt from the selectors that disallow it.
-/
import VectorLint.Rule.Options

namespace VectorLint.Elements

def ruleName : String := "elm"

/-- What is expected of the matches of a selector. -/
inductive Expectation
  | present
  | disallowed
  | exactly (n : Nat)
  | between (least most : Nat)
deriving DecidableEq, Repr

/-- The expectation that a value stands for: `true`, `false`, a count, or the
least and the most count. -/
def Expectation.ofValue? : Json.Value → Option Expectation
  | .bool true => some .present
  | .bool false => some .disallowed
  | .array [least, most] =>
    match least.asNat?, most.asNat? with
    | some least, some most => if least ≤ most then some (.between least most) else none
    | _, _ => none
  | v =>
    match v.asNat? with
    | some 0 => some .disallowed
    | some n => some (.exactly n)
    | none => none

def Expectation.allows (e : Expectation) : Bool :=
  e ≠ .disallowed

structure Check where
  selector : Selector
  expectation : Expectation
deriving DecidableEq, Repr

/-- Reads a member of the options. -/
def readCheck (member : String × Json.Value) : Except Refusal Check := do
  let selector ← readSelector ruleName member.1
  match Expectation.ofValue? member.2 with
  | some expectation => return ⟨selector, expectation⟩
  | none => refuse ruleName ("unsupported value " ++ member.2.compact ++ " for '" ++ member.1 ++ "'")

/-- The message for a count that is not what is expected. -/
def countMessage (c : Check) (count : Nat) (expected : Json.Value) : Message :=
  ⟨[.string ("Found " ++ count.repr ++ " elements for '" ++ c.selector.source ++ "', expected"),
    expected]⟩

/-- The errors of a check, given the nodes it matches and those that are
allowed. -/
def Check.errors (d : Document) (allowed : List NodeId) (c : Check) (ids : List NodeId) :
    List (Message × Option NodeRef) :=
  match c.expectation with
  | .present =>
    if ids.isEmpty then
      [(.ofText ("Expected '" ++ c.selector.source ++ "', none found"), none)]
    else []
  | .disallowed =>
    (ids.filter fun id => !allowed.contains id).map fun id =>
      (.ofText ("Element disallowed by '" ++ c.selector.source ++ "'"), d.ref? id)
  | .exactly n => if ids.length = n then [] else [(countMessage c ids.length (.ofNat n), none)]
  | .between least most =>
    if least ≤ ids.length ∧ ids.length ≤ most then []
    else [(countMessage c ids.length (.array [.ofNat least, .ofNat most]), none)]

/-- The nodes that a check with another expectation than absence matches. -/
def allowedIn (d : Document) (checks : List Check) : List NodeId :=
  (checks.filter (·.expectation.allows)).flatMap fun c => d.select c.selector

/-- The errors of all checks in order. -/
def errors (checks : List Check) (d : Document) : List (Message × Option NodeRef) :=
  let allowed := allowedIn d checks
  checks.flatMap fun c => c.errors d allowed (d.select c.selector)

def factory : Factory := fun options => do
  let members ← options.members ruleName
  let checks ← members.mapM readCheck
  return .ofErrors (errors checks)

end VectorLint.Elements
