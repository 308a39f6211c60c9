/-
Positions in a text: lines and columns counted from one, columns in
characters. A byte offset that is no character boundary has the column of
its bytes.
-/
namespace VectorLint.Text

structure Position where
  line : Nat
  column : Nat
deriving DecidableEq, Repr

namespace Position

/-- The position `bytes` further on, from a place in line `line` with
`chars` characters and `width` bytes of that line before it. -/
def advance : List Char → (bytes line chars width : Nat) → Position
  | _, 0, line, chars, _ => ⟨line, chars + 1⟩
  | [], bytes, line, _, width => ⟨line, width + bytes + 1⟩
  | c :: s, bytes, line, chars, width =>
    if bytes < c.utf8Size then ⟨line, width + bytes + 1⟩
    else if c = '\n' then advance s (bytes - c.utf8Size) (line + 1) 0 0
    else advance s (bytes - c.utf8Size) line (chars + 1) (width + c.utf8Size)

/-- The position of the byte offset `offset` in `s`. -/
def ofOffset (s : List Char) (offset : Nat) : Position :=
  advance s offset 1 0 0

end Position

end VectorLint.Text
