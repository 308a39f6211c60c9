/-
Patterns and the texts they match. A pattern relates the places of a text at
which a match of it starts to those at which it ends; it matches a text when
it relates any place to any.
-/
import VectorLint.Pattern.Class

namespace VectorLint

namespace Pattern

/-- Conditions on the characters around a place. -/
inductive Look
  | start
  | stop
  /-- At the start or the end of a line; a line may end with a carriage
  return too. -/
  | lineStart (returns : Bool)
  | lineStop (returns : Bool)
  | boundary (unicode negated : Bool)
  | wordStart (unicode : Bool)
  | wordStop (unicode : Bool)
  /-- Not behind a word character. -/
  | wordStartHalf (unicode : Bool)
  /-- Not before a word character. -/
  | wordStopHalf (unicode : Bool)
deriving DecidableEq, Repr

end Pattern

open Pattern in
inductive Pattern
  | empty
  | one (mode : ClassMode) (item : ClassItem)
  | look (l : Look)
  | concat (first second : Pattern)
  | either (left right : Pattern)
  | repeated (least : Nat) (most : Option Nat) (body : Pattern)

namespace Pattern

def isWordAt (unicode : Bool) : Option Char → Bool
  | none => false
  | some c => PerlClass.word.contains unicode c

/-- Whether a condition holds between two characters; at the ends of a text
there is none. -/
def Look.holds (l : Look) (before after : Option Char) : Bool :=
  match l with
  | .start => before.isNone
  | .stop => after.isNone
  | .lineStart false => before.isNone || before = some '\n'
  | .lineStart true =>
    before.isNone || before = some '\n' || (before = some '\r' && after ≠ some '\n')
  | .lineStop false => after.isNone || after = some '\n'
  | .lineStop true =>
    after.isNone || after = some '\r' || (after = some '\n' && before ≠ some '\r')
  | .boundary unicode negated => (isWordAt unicode before != isWordAt unicode after) != negated
  | .wordStart unicode => !isWordAt unicode before && isWordAt unicode after
  | .wordStop unicode => isWordAt unicode before && !isWordAt unicode after
  | .wordStartHalf unicode => !isWordAt unicode before
  | .wordStopHalf unicode => !isWordAt unicode after

/-- Places of a text, in increasing order. -/
abbrev Places := List Nat

/-- The places of two lists. -/
def merge : (fuel : Nat) → Places → Places → Places
  | 0, _, _ => []
  | _ + 1, [], b => b
  | _ + 1, a, [] => a
  | fuel + 1, i :: a, j :: b =>
    if i < j then i :: merge fuel a (j :: b)
    else if j < i then j :: merge fuel (i :: a) b
    else i :: merge fuel a b

def union (a b : Places) : Places :=
  merge (a.length + b.length + 1) a b

/-- The places reached in any number of steps; `reached` holds those known,
and no more than `fuel` steps lead to new ones. -/
def closure (step : Places → Places) : (fuel : Nat) → (reached : Places) → Places
  | 0, reached => reached
  | fuel + 1, reached =>
    let next := union reached (step reached)
    if next.length = reached.length then reached else closure step fuel next

/-- The places reached in exactly `n` steps. -/
def iterate (step : Places → Places) : (n : Nat) → Places → Places
  | 0, places => places
  | n + 1, places =>
    let next := step places
    if next.isEmpty || next = places then next else iterate step n next

/-- The places reached in up to `n` steps. -/
def iterateUpTo (step : Places → Places) : (n : Nat) → (reached : Places) → Places
  | 0, reached => reached
  | n + 1, reached =>
    let next := union reached (step reached)
    if next.length = reached.length then reached else iterateUpTo step n next

/-- The places at which matches end that start at one of the given places. -/
def ends (s : Array Char) : Pattern → Places → Places
  | .empty, places => places
  | .one mode item, places =>
    places.filterMap fun i => if s[i]?.any (item.contains mode) then some (i + 1) else none
  | .look l, places =>
    places.filter fun i => l.holds (if i = 0 then none else s[i - 1]?) s[i]?
  | .concat first second, places => second.ends s (first.ends s places)
  | .either left right, places => union (left.ends s places) (right.ends s places)
  | .repeated least most body, places =>
    let start := iterate (body.ends s) least places
    match most with
    | none => closure (body.ends s) (s.size + 1) start
    | some most => iterateUpTo (body.ends s) (most - least) start

/-- Whether any part of a text matches. -/
def isMatch (p : Pattern) (text : String) : Bool :=
  let s := text.toList.toArray
  !(p.ends s (List.range (s.size + 1))).isEmpty

end Pattern

end VectorLint
