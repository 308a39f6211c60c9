/-
Styled text on terminals: escape sequences that set a style stand before the
text, and one that resets it behind.
-/
import VectorLint.Text.Split

namespace VectorLint

inductive Color
  | red
  | green
  | yellow
  | blue
  | magenta
  | cyan
deriving DecidableEq, Repr

structure Style where
  bold : Bool
  dimmed : Bool
  underline : Bool
  color : Option Color
deriving DecidableEq, Repr

namespace Style

def plain (c : Color) : Style := ⟨false, false, false, some c⟩

def bolded (c : Color) : Style := ⟨true, false, false, some c⟩

def dim : Style := ⟨false, true, false, none⟩

def underlined : Style := ⟨false, false, true, none⟩

end Style

def Color.code : Color → List Char
  | .red => ['3', '1']
  | .green => ['3', '2']
  | .yellow => ['3', '3']
  | .blue => ['3', '4']
  | .magenta => ['3', '5']
  | .cyan => ['3', '6']

namespace Style

/-- The codes of a style, with semicolons between them. -/
def codes (s : Style) : List Char :=
  let parts :=
    (if s.bold then [['1']] else []) ++ (if s.dimmed then [['2']] else []) ++
      (if s.underline then [['4']] else []) ++ (s.color.map Color.code).toList
  List.intercalate [';'] parts

def opening (s : Style) : List Char :=
  '\x1b' :: '[' :: s.codes ++ ['m']

/-- What resets every style. -/
def reset : List Char := ['\x1b', '[', '0', 'm']

/-- The text with the opening again behind every reset in it. -/
def reopen (opening : List Char) : List Char → List Char
  | '\x1b' :: '[' :: '0' :: 'm' :: s => reset ++ opening ++ reopen opening s
  | c :: s => c :: reopen opening s
  | [] => []

/-- The text in a style. A reset inside the text does not end the style. -/
def apply (s : Style) (text : String) : String :=
  String.ofList (s.opening ++ reopen s.opening text.toList ++ reset)

end Style

end VectorLint
