/-
Cutting a text: at every separator, into lines, and behind an expected
beginning. A text is a list of characters here, so that each operation is a
recursion on it.
-/
namespace VectorLint.Text

/-- The parts of a text between the characters that `cut` holds of: one more
part than there are such characters. -/
def splitWhere (cut : Char → Bool) : List Char → List (List Char)
  | [] => [[]]
  | c :: s =>
    if cut c then [] :: splitWhere cut s
    else match splitWhere cut s with
      | [] => [[c]]
      | part :: parts => (c :: part) :: parts

/-- A line without the carriage return at its end. -/
def dropReturn (line : List Char) : List Char :=
  if line.getLast? = some '\r' then line.dropLast else line

/-- The lines of a text. A line ends at a line feed, with the carriage return
before it if there is one; after the last line feed only a non-empty text is
a line. -/
def lines (s : List Char) : List (List Char) :=
  let parts := splitWhere (· == '\n') s
  parts.dropLast.map dropReturn ++ parts.getLast?.toList.filter (!·.isEmpty)

/-- The line with the given number, counted from zero. -/
def line? : (s : List Char) → Nat → Option (List Char)
  | [], _ => none
  | s, 0 =>
    match s.span (· ≠ '\n') with
    | (line, []) => some line
    | (line, _ :: _) => some (dropReturn line)
  | c :: s, n + 1 => if c = '\n' then line? s n else line? s (n + 1)

/-- What follows `start` in a text that begins with it. -/
def stripPrefix? : (start s : List Char) → Option (List Char)
  | [], s => some s
  | _ :: _, [] => none
  | a :: start, c :: s => if a = c then stripPrefix? start s else none

theorem stripPrefix?_eq_some {start s rest : List Char} :
    stripPrefix? start s = some rest ↔ s = start ++ rest := by
  induction start generalizing s with
  | nil => simp [stripPrefix?]
  | cons a start ih =>
    cases s with
    | nil => simp [stripPrefix?]
    | cons c s =>
      by_cases h : a = c
      · subst h; simp [stripPrefix?, ih]
      · simp [stripPrefix?, h, Ne.symm h]

end VectorLint.Text
