/-
Reading a document from its text. The events of the text are taken one by
one into an arena; a document has exactly one root element, and no text
stands outside of it.
-/
import VectorLint.Document.Basic
import VectorLint.Markup.Attributes
import VectorLint.Markup.Scanner
import VectorLint.Text.Blank

namespace VectorLint

inductive ParseFault
  | markup (fault : Markup.Fault)
  | attribute (fault : Markup.AttributeFault)
  | reference (fault : Markup.ReferenceFault)
  | secondRoot (name : String)
  | strayText
  | unclosed (name : String)
  | noRoot
deriving DecidableEq, Repr

/-- Why a text is no document, and the line where that shows; line 0 is no
line. -/
structure ParseError where
  fault : ParseFault
  line : Nat
deriving DecidableEq, Repr

def ParseFault.message : ParseFault → String
  | .markup fault => fault.message
  | .attribute fault => fault.message
  | .reference fault => fault.message
  | .secondRoot name => "multiple root elements, found <" ++ name ++ "> after the root"
  | .strayText => "text content outside of the root element"
  | .unclosed name => "unclosed element <" ++ name ++ ">"
  | .noRoot => "document has no root element"

def ParseError.message (e : ParseError) : String :=
  e.fault.message ++ " (line " ++ e.line.repr ++ ")"

namespace Document

/-- A document that is being read: the open elements, the innermost first,
and the root element once it is met. -/
structure Builder where
  arena : Arena
  opened : List NodeId
  root : Option NodeId
  opened_lt : ∀ id ∈ opened, id < arena.size
  root_lt : ∀ id ∈ root, id < arena.size

namespace Builder

def empty : Builder where
  arena := .empty
  opened := []
  root := none
  opened_lt := by simp
  root_lt := by simp

/-- The innermost open element. -/
def parent (b : Builder) : Option (Fin b.arena.size) :=
  match h : b.opened with
  | [] => none
  | id :: _ => some ⟨id, b.opened_lt id (by simp [h])⟩

/-- What a node outside of every element means: an element is the root, which
there is only one of, and a text is refused. -/
def rootAfter (b : Builder) (content : Content) : Except ParseFault (Option NodeId) :=
  match b.parent, content with
  | none, .element name _ =>
    match b.root with
    | some _ => .error (.secondRoot name)
    | none => .ok (some b.arena.size)
  | none, .text _ => .error .strayText
  | _, _ => .ok b.root

theorem lt_of_rootAfter {b : Builder} {content : Content} {root : Option NodeId}
    (h : b.rootAfter content = .ok root) : ∀ id ∈ root, id < b.arena.size + 1 := by
  have old := b.root_lt
  unfold rootAfter at h
  split at h
  · split at h
    · simp at h
    · simp only [Except.ok.injEq] at h
      subst h
      simp
  · simp at h
  · simp only [Except.ok.injEq] at h
    subst h
    exact fun id hid => Nat.lt_succ_of_lt (old id hid)

/-- Adds a node below the innermost open element. -/
def add (b : Builder) (content : Content) (span : Span) (position : Text.Position) :
    Except ParseError Builder :=
  match h : b.rootAfter content with
  | .error fault => .error ⟨fault, position.line⟩
  | .ok root => .ok {
      arena := b.arena.push content span position b.parent
      opened := b.opened
      root
      opened_lt := fun id hid => by
        rw [Arena.size_push]
        exact Nat.lt_succ_of_lt (b.opened_lt id hid)
      root_lt := fun id hid => by
        rw [Arena.size_push]
        exact lt_of_rootAfter h id hid }

/-- Adds an element that stays open. -/
def openElement (b : Builder) (content : Content) (start : Nat) (position : Text.Position) :
    Except ParseError Builder :=
  match h : b.rootAfter content with
  | .error fault => .error ⟨fault, position.line⟩
  | .ok root => .ok {
      arena := b.arena.push content ⟨start, start⟩ position b.parent
      opened := b.arena.size :: b.opened
      root
      opened_lt := fun id hid => by
        rw [Arena.size_push]
        rcases List.mem_cons.mp hid with rfl | hid
        · exact Nat.lt_succ_self _
        · exact Nat.lt_succ_of_lt (b.opened_lt id hid)
      root_lt := fun id hid => by
        rw [Arena.size_push]
        exact lt_of_rootAfter h id hid }

/-- Closes the innermost open element, whose text ends before `stop`. -/
def closeElement (b : Builder) (stop : Nat) : Builder :=
  match h : b.opened with
  | [] => b
  | id :: opened => {
      arena := b.arena.close id stop
      opened
      root := b.root
      opened_lt := fun other hother => by
        rw [Arena.size_close]
        exact b.opened_lt other (by simp [h, hother])
      root_lt := fun other hother => by
        rw [Arena.size_close]
        exact b.root_lt other hother }

/-- The element that a tag writes. -/
def element (content : List Char) : Except Markup.AttributeFault Content := do
  let attributes ← Markup.attributes content
  return .element (String.ofList (Markup.tagName content))
    (attributes.map fun a => (String.ofList a.name, String.ofList a.value))

/-- Takes in an event of the text `source`. A blank text makes no node, and a
text is trimmed; character data stand as they are written. -/
def read (source : List Char) (b : Builder) (e : Markup.Located) : Except ParseError Builder :=
  let position := fun (_ : Unit) => Text.Position.ofOffset source e.start
  match e.event with
  | .startTag content =>
    match element content with
    | .error fault => .error ⟨.attribute fault, (position ()).line⟩
    | .ok element => b.openElement element e.start (position ())
  | .emptyTag content =>
    match element content with
    | .error fault => .error ⟨.attribute fault, (position ()).line⟩
    | .ok element => b.add element ⟨e.start, e.stop⟩ (position ())
  | .endTag _ => .ok (b.closeElement e.stop)
  | .text raw =>
    match Markup.resolve raw with
    | .error fault => .error ⟨.reference fault, (position ()).line⟩
    | .ok text =>
      match Text.trim text with
      | [] => .ok b
      | text => b.add (.text (String.ofList text)) ⟨e.start, e.stop⟩ (position ())
  | .cdata content => b.add (.text (String.ofList content)) ⟨e.start, e.stop⟩ (position ())
  | .comment content => b.add (.comment (String.ofList content)) ⟨e.start, e.stop⟩ (position ())
  | .aside => .ok b

/-- The document, once every event is taken in: no element is open, and there
is a root. -/
def finish (b : Builder) (source : List Char) : Except ParseError Document :=
  match h : b.opened, hr : b.root with
  | id :: _, _ =>
    have lt : id < b.arena.nodes.size := b.opened_lt id (by simp [h])
    let node := b.arena.nodes[id]
    .error ⟨.unclosed node.name, node.position.line⟩
  | [], none => .error ⟨.noRoot, 0⟩
  | [], some root => .ok { b.arena with root := ⟨root, b.root_lt root (by simp [hr])⟩, source }

end Builder

/-- The document that events of the text `source` write, unless a failure
ended them. -/
def ofScan (source : List Char) (scanned : List Markup.Located × Option Markup.Failure) :
    Except ParseError Document := do
  let (events, failure) := scanned
  let b ← events.foldlM (Builder.read source) .empty
  match failure with
  | some failure =>
    throw ⟨.markup failure.fault, (Text.Position.ofOffset source failure.offset).line⟩
  | none => b.finish source

/-- The document that a text writes. -/
def parse (source : List Char) : Except ParseError Document :=
  ofScan source (Markup.scan source)

end Document

end VectorLint
