/-
Messages: one or more values, read one after the other.
-/
import VectorLint.Json.Writer

namespace VectorLint

structure Message where
  parts : List Json.Value

namespace Message

def ofText (text : String) : Message :=
  ⟨[.string text]⟩

/-- The text of a part: a string stands for itself, any other value for its
compact JSON. -/
def partText : Json.Value → String
  | .string s => s
  | v => v.compact

/-- The texts of the parts, with a blank between them. -/
def text (m : Message) : String :=
  " ".intercalate (m.parts.map partText)

end Message

end VectorLint
