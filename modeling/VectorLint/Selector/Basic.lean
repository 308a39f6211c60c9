/-
Selectors over the elements of a document: what they are and what they
match. A chain is matched from its last compound backwards, through parents
and ancestors.
-/
import VectorLint.Document.Navigation
import VectorLint.Text.Blank

namespace VectorLint

inductive AttributeTest
  | present (name : String)
  | equals (name value : String)
deriving DecidableEq, Repr

/-- Tests on one element; all of them have to hold. -/
structure Compound where
  /-- The tag name; none for any name. -/
  tag : Option String
  id : Option String
  classes : List String
  attributes : List AttributeTest
deriving DecidableEq, Repr

/-- How an element lies below the one before it in a chain. -/
inductive Combinator
  | descendant
  | child
deriving DecidableEq, Repr

/-- Compounds joined by combinators, read from the outermost element to the
innermost. -/
inductive Chain
  | single (compound : Compound)
  | join (outer : Chain) (combinator : Combinator) (compound : Compound)
deriving DecidableEq, Repr

/-- A list of chains, and the text it was read from. -/
structure Selector where
  source : String
  chains : List Chain
deriving DecidableEq, Repr

def AttributeTest.holds (test : AttributeTest) (n : Node) : Bool :=
  match test with
  | .present name => n.hasAttribute name
  | .equals name value => n.attribute? name = some value

/-- The classes of an element: the words of its `class` attribute. -/
def Node.classes (n : Node) : List String :=
  (Text.words ((n.attribute? "class").getD "").toList).map String.ofList

def Compound.matches (c : Compound) (n : Node) : Bool :=
  n.isElement &&
    c.tag.all (n.name = ·) &&
    c.id.all (n.attribute? "id" = some ·) &&
    c.classes.all (n.classes.contains ·) &&
    c.attributes.all (·.holds n)

def Chain.matches (d : Document) : Chain → NodeId → Bool
  | .single c, id => (d.get? id).any c.matches
  | .join outer combinator c, id =>
    (d.get? id).any c.matches &&
      match combinator with
      | .child => (d.parent? id).any (outer.matches d)
      | .descendant => (d.ancestors id).any (outer.matches d)

/-- Whether any chain of the list matches a node. -/
def Selector.matches (d : Document) (s : Selector) (id : NodeId) : Bool :=
  s.chains.any (·.matches d id)

/-- The elements that a selector matches, in source order. -/
def Document.select (d : Document) (s : Selector) : List NodeId :=
  d.elements.filter (s.matches d)

end VectorLint
