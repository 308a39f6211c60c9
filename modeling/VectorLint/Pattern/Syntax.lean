/-
Patterns as they are written, and what they mean. Flags change how the rest
of a group is read; some combinations have no meaning for texts.
-/
import VectorLint.Pattern.Basic

namespace VectorLint.Pattern

inductive Flag
  | caseInsensitive
  | multiLine
  | dotAll
  | swapGreed
  | unicode
  | returns
  | verbose
deriving DecidableEq, Repr

/-- Flags set or cleared, in the order they are written. -/
abbrev FlagChange := List (Flag × Bool)

structure Flags where
  caseInsensitive : Bool
  multiLine : Bool
  dotAll : Bool
  unicode : Bool
  returns : Bool
deriving DecidableEq, Repr

def Flags.init : Flags := ⟨false, false, false, true, false⟩

def Flags.set (f : Flags) : Flag × Bool → Flags
  | (.caseInsensitive, b) => { f with caseInsensitive := b }
  | (.multiLine, b) => { f with multiLine := b }
  | (.dotAll, b) => { f with dotAll := b }
  | (.unicode, b) => { f with unicode := b }
  | (.returns, b) => { f with returns := b }
  | (.swapGreed, _) | (.verbose, _) => f

def Flags.change (f : Flags) (changes : FlagChange) : Flags :=
  changes.foldl Flags.set f

/-- Conditions as written; flags decide which they are. -/
inductive Anchor
  | caret
  | dollar
  | textStart
  | textStop
  | boundary (negated : Bool)
  | wordStart
  | wordStop
  | wordStartHalf
  | wordStopHalf
deriving DecidableEq, Repr

inductive Syntax
  /-- A character; `byte` if it is written as a byte of two hexadecimal digits. -/
  | literal (c : Char) (byte : Bool)
  | dot
  | anchor (a : Anchor)
  | cls (item : ClassItem)
  | flags (changes : FlagChange)
  | group (changes : FlagChange) (body : Syntax)
  | repeated (least : Nat) (most : Option Nat) (body : Syntax)
  | concat (items : List Syntax)
  | either (branches : List Syntax)

def Anchor.look (f : Flags) : Anchor → Look
  | .caret => if f.multiLine then .lineStart f.returns else .start
  | .dollar => if f.multiLine then .lineStop f.returns else .stop
  | .textStart => .start
  | .textStop => .stop
  | .boundary negated => .boundary f.unicode negated
  | .wordStart => .wordStart f.unicode
  | .wordStop => .wordStop f.unicode
  | .wordStartHalf => .wordStartHalf f.unicode
  | .wordStopHalf => .wordStopHalf f.unicode

/-- A class under flags; over ASCII it has to keep to ASCII. -/
def classMeaning (f : Flags) (item : ClassItem) : Option Pattern :=
  let mode : ClassMode := ⟨f.unicode, f.caseInsensitive⟩
  if f.unicode || item.isAscii mode then some (.one mode item) else none

/-- A character under flags. A byte beyond ASCII is no character. -/
def literalMeaning (f : Flags) (c : Char) (byte : Bool) : Option Pattern :=
  if !f.unicode && byte && c.toNat ≥ 0x80 then none
  else some (.one ⟨f.unicode, f.caseInsensitive⟩ (.bracket false (.union [.range c c])))

/-- The dot under flags. -/
def dotMeaning (f : Flags) : Option Pattern :=
  if !f.unicode then none
  else
    let excluded : List ClassItem :=
      if f.dotAll then []
      else if f.returns then [.range '\n' '\n', .range '\r' '\r']
      else [.range '\n' '\n']
    some (.one ⟨true, false⟩ (.bracket true (.union excluded)))

mutual

/-- The meaning of a pattern under flags, and the flags behind it. -/
def Syntax.meaning (f : Flags) : Syntax → Option (Pattern × Flags)
  | .literal c byte => (literalMeaning f c byte).map (·, f)
  | .dot => (dotMeaning f).map (·, f)
  | .anchor a => some (.look (a.look f), f)
  | .cls item => (classMeaning f item).map (·, f)
  | .flags changes => some (.empty, f.change changes)
  | .group changes body => (body.meaning (f.change changes)).map fun (p, _) => (p, f)
  | .repeated least most body =>
    (body.meaning f).map fun (p, f) => (.repeated least most p, f)
  | .concat items => concatMeaning f items
  | .either branches => eitherMeaning f branches

def concatMeaning (f : Flags) : List Syntax → Option (Pattern × Flags)
  | [] => some (.empty, f)
  | item :: items =>
    match item.meaning f with
    | none => none
    | some (p, f) =>
      match concatMeaning f items with
      | none => none
      | some (q, f) => some (.concat p q, f)

def eitherMeaning (f : Flags) : List Syntax → Option (Pattern × Flags)
  | [] => some (.empty, f)
  | [branch] => branch.meaning f
  | branch :: branches =>
    match branch.meaning f with
    | none => none
    | some (p, f) =>
      match eitherMeaning f branches with
      | none => none
      | some (q, f) => some (.either p q, f)

end

/-! ## Nesting -/

mutual

/-- How deep a class nests. -/
def ClassItem.depth : ClassItem → Nat
  | .bracket _ set => set.depth + 1
  | _ => 0

def ClassSet.depth : ClassSet → Nat
  | .union [] => 0
  | .union [item] => item.depth
  | .union items => maxItemDepth items + 1
  | .operation _ left right => max left.depth right.depth + 1

def maxItemDepth : List ClassItem → Nat
  | [] => 0
  | item :: items => max item.depth (maxItemDepth items)

end

mutual

/-- How deep a pattern nests. -/
def Syntax.depth : Syntax → Nat
  | .literal .. | .dot | .anchor _ | .flags _ => 0
  | .cls item => item.depth
  | .group _ body | .repeated _ _ body => body.depth + 1
  | .concat items | .either items =>
    match items with
    | [] => 0
    | [item] => item.depth
    | items => maxDepth items + 1

def maxDepth : List Syntax → Nat
  | [] => 0
  | item :: items => max item.depth (maxDepth items)

end

/-- How deep patterns may nest. -/
def maxNesting : Nat := 250

end VectorLint.Pattern
