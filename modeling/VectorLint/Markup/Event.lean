/-
The pieces that a marked-up text consists of, and what can be wrong with
their form.
-/
import VectorLint.Text.Bytes

namespace VectorLint.Markup

/-- The blanks of markup. -/
def isSpace (c : Char) : Bool :=
  c = ' ' || c = '\t' || c = '\n' || c = '\r'

/-- A piece of a text. The content of a tag is what stands between its
angle brackets, without the slash of an empty tag. -/
inductive Event
  /-- Text up to the next markup, with its references unresolved. -/
  | text (raw : List Char)
  | startTag (content : List Char)
  | emptyTag (content : List Char)
  | endTag (name : List Char)
  | cdata (content : List Char)
  | comment (content : List Char)
  /-- A declaration, a processing instruction or a document type. -/
  | aside
deriving DecidableEq, Repr

/-- An event and the bytes it takes in the text. -/
structure Located where
  event : Event
  start : Nat
  stop : Nat
deriving DecidableEq, Repr

/-- The name in the content of a tag: what comes before the first blank. -/
def tagName (content : List Char) : List Char :=
  content.takeWhile (!isSpace ·)

inductive Fault
  /-- What follows `<!` begins nothing. -/
  | unknownMarkup
  | unclosedInstruction
  | unclosedComment
  | unclosedDoctype
  | unclosedCData
  | unclosedTag
  | mismatchedEnd (expected found : List Char)
  | unmatchedEnd (name : List Char)
  | missingDoctypeName
deriving DecidableEq, Repr

/-- A fault and the number of bytes read when it showed. -/
structure Failure where
  fault : Fault
  offset : Nat
deriving DecidableEq, Repr

def Fault.message : Fault → String
  | .unknownMarkup => "syntax error: unknown or missed symbol in markup"
  | .unclosedInstruction =>
    "syntax error: processing instruction or xml declaration not closed: `?>` not found before " ++
      "end of input"
  | .unclosedComment => "syntax error: comment not closed: `-->` not found before end of input"
  | .unclosedDoctype => "syntax error: DOCTYPE not closed: `>` not found before end of input"
  | .unclosedCData => "syntax error: CDATA not closed: `]]>` not found before end of input"
  | .unclosedTag => "syntax error: tag not closed: `>` not found before end of input"
  | .mismatchedEnd expected found =>
    "ill-formed document: expected `</" ++ String.ofList expected ++ ">`, but `</" ++
      String.ofList found ++ ">` was found"
  | .unmatchedEnd name =>
    "ill-formed document: close tag `</" ++ String.ofList name ++ ">` does not match any open tag"
  | .missingDoctypeName =>
    "ill-formed document: `<!DOCTYPE>` declaration does not contain a name of a document type"

end VectorLint.Markup
