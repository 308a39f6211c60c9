/-
Reading a selector from its text. Chains stand between commas; inside a
chain, blanks and `>` stand between compounds.
-/
import VectorLint.Selector.Basic
import VectorLint.Text.Alphanumeric

namespace VectorLint

inductive SelectorFault
  | unexpectedChild
  | danglingChild
  | empty
  | expectedSelector
  | expectedId
  | expectedClass
  | expectedAttributeName
  | expectedBracket
  | expectedBracketOrEquals
  | unexpectedCharacter (c : Char)
deriving DecidableEq, Repr

def SelectorFault.message : SelectorFault → String
  | .unexpectedChild => "unexpected '>'"
  | .danglingChild => "dangling '>'"
  | .empty => "empty selector"
  | .expectedSelector => "expected a selector"
  | .expectedId => "expected id after '#'"
  | .expectedClass => "expected class after '.'"
  | .expectedAttributeName => "expected attribute name"
  | .expectedBracket => "expected ']'"
  | .expectedBracketOrEquals => "expected ']' or '='"
  | .unexpectedCharacter c => "unexpected character '" ++ c.toString ++ "'"

/-- Why a text is no selector. -/
structure SelectorError where
  selector : String
  fault : SelectorFault
deriving DecidableEq, Repr

def SelectorError.message (e : SelectorError) : String :=
  "invalid selector '" ++ e.selector ++ "': " ++ e.fault.message

namespace Selector

def isNameChar (c : Char) : Bool :=
  Text.isAlphanumeric c || c = '-' || c = '_' || c = ':'

/-- The name at the head of a text, possibly empty, and the rest. -/
def readName (s : List Char) : List Char × List Char :=
  (s.takeWhile isNameChar, s.dropWhile isNameChar)

theorem length_readName_le (s : List Char) : (readName s).2.length ≤ s.length :=
  (List.dropWhile_sublist _).length_le

/-- Reads the value of an attribute test and the closing bracket. A value
that begins with a quote ends at the next such quote; any other ends at the
bracket and is trimmed. -/
def readValue (s : List Char) : Except SelectorFault (List Char × List Char) :=
  let quoted (q : Char) (s : List Char) : Except SelectorFault (List Char × List Char) :=
    match s.dropWhile (· ≠ q) with
    | _ :: ']' :: rest => .ok (s.takeWhile (· ≠ q), rest)
    | _ => .error .expectedBracket
  match s with
  | '"' :: s => quoted '"' s
  | '\'' :: s => quoted '\'' s
  | s =>
    match s.dropWhile (· ≠ ']') with
    | _ :: rest => .ok (Text.trim (s.takeWhile (· ≠ ']')), rest)
    | [] => .error .expectedBracket

/-- Reads an attribute test behind its opening bracket. -/
def readTest (s : List Char) : Except SelectorFault (AttributeTest × List Char) :=
  match readName s with
  | ([], _) => .error .expectedAttributeName
  | (name, ']' :: rest) => .ok (.present (String.ofList name), rest)
  | (name, '=' :: rest) =>
    match readValue rest with
    | .error fault => .error fault
    | .ok (value, rest) => .ok (.equals (String.ofList name) (String.ofList value), rest)
  | _ => .error .expectedBracketOrEquals

theorem length_readValue_lt {s value rest : List Char} (h : readValue s = .ok (value, rest)) :
    rest.length < s.length := by
  have cut (p : Char → Bool) (s : List Char) : (s.dropWhile p).length ≤ s.length :=
    (List.dropWhile_sublist _).length_le
  simp only [readValue] at h
  split at h
  · rename_i s'
    have := cut (· ≠ '"') s'
    split at h <;> grind
  · rename_i s'
    have := cut (· ≠ '\'') s'
    split at h <;> grind
  · have := cut (· ≠ ']') s
    split at h <;> grind

theorem length_readTest_lt {s rest : List Char} {test : AttributeTest}
    (h : readTest s = .ok (test, rest)) : rest.length < s.length := by
  have cut := length_readName_le s
  simp only [readTest] at h
  split at h
  · simp at h
  · grind
  · split at h
    · simp at h
    · rename_i hv
      have := length_readValue_lt hv
      grind
  · simp at h

/-- Reads the simple tests of a compound that has the tests `c` already, up
to a blank, a `>` or the end. A later id replaces an earlier one. -/
def readTests (c : Compound) (s : List Char) : Except SelectorFault (Compound × List Char) :=
  match s with
  | [] => .ok (c, [])
  | '#' :: s =>
    match _h : readName s with
    | ([], _) => .error .expectedId
    | (id, rest) => readTests { c with id := some (String.ofList id) } rest
  | '.' :: s =>
    match _h : readName s with
    | ([], _) => .error .expectedClass
    | (name, rest) => readTests { c with classes := c.classes ++ [String.ofList name] } rest
  | '[' :: s =>
    match _h : readTest s with
    | .error fault => .error fault
    | .ok (test, rest) => readTests { c with attributes := c.attributes ++ [test] } rest
  | a :: s =>
    if Text.isBlank a || a = '>' then .ok (c, a :: s) else .error (.unexpectedCharacter a)
termination_by s.length
decreasing_by
  · have := length_readName_le s
    simp_all only [List.length_cons]
    omega
  · have := length_readName_le s
    simp_all only [List.length_cons]
    omega
  · have := length_readTest_lt _h
    simp only [List.length_cons]
    omega

theorem length_readTests_le {c c' : Compound} {s rest : List Char}
    (h : readTests c s = .ok (c', rest)) : rest.length ≤ s.length := by
  fun_induction readTests c s with
  | case1 => simp_all
  | case2 => simp at h
  | case3 c s id rest' hid hn ih =>
    have := length_readName_le s
    have := ih h
    simp_all only [List.length_cons]
    omega
  | case4 => simp at h
  | case5 c s name rest' hid hn ih =>
    have := length_readName_le s
    have := ih h
    simp_all only [List.length_cons]
    omega
  | case6 => simp at h
  | case7 c s test rest' ht ih =>
    have := length_readTest_lt ht
    have := ih h
    simp only [List.length_cons]
    omega
  | case8 => simp_all
  | case9 => simp at h

/-- Reads a compound: `*` or a tag name, if there is one, and further tests.
Something has to be there. -/
def readCompound (s : List Char) : Except SelectorFault (Compound × List Char) :=
  let (tag, rest) : Option String × List Char :=
    match s with
    | '*' :: rest => (none, rest)
    | s =>
      match readName s with
      | ([], _) => (none, s)
      | (name, rest) => (some (String.ofList name), rest)
  match readTests ⟨tag, none, [], []⟩ rest with
  | .error fault => .error fault
  | .ok (c, rest) => if rest.length < s.length then .ok (c, rest) else .error .expectedSelector

theorem length_readCompound_lt {c : Compound} {s rest : List Char}
    (h : readCompound s = .ok (c, rest)) : rest.length < s.length := by
  simp only [readCompound] at h
  split at h
  · simp at h
  · split at h <;> simp_all

/-- A chain with a further compound. -/
def extend (outer : Option Chain) (combinator : Combinator) (c : Compound) : Chain :=
  match outer with
  | none => .single c
  | some outer => .join outer combinator c

/-- Reads what is left of a chain; `combinator` joins the next compound to
the chain read so far. -/
def readChain (outer : Option Chain) (combinator : Combinator) (s : List Char) :
    Except SelectorFault Chain :=
  match _hs : s.dropWhile Text.isBlank with
  | [] =>
    match outer, combinator with
    | none, _ => .error .empty
    | some _, .child => .error .danglingChild
    | some outer, .descendant => .ok outer
  | '>' :: rest =>
    if outer.isNone || combinator = .child then .error .unexpectedChild
    else readChain outer .child rest
  | a :: rest =>
    match _hc : readCompound (a :: rest) with
    | .error fault => .error fault
    | .ok (c, rest) => readChain (some (extend outer combinator c)) .descendant rest
termination_by s.length
decreasing_by
  all_goals have cut := (List.dropWhile_sublist Text.isBlank (l := s)).length_le
  all_goals rw [_hs] at cut
  · exact cut
  · exact Nat.lt_of_lt_of_le (length_readCompound_lt _hc) cut

/-- The selector that a text writes. -/
def parse (s : String) : Except SelectorError Selector :=
  match (Text.splitWhere (· = ',') s.toList).mapM (readChain none .descendant) with
  | .error fault => .error ⟨s, fault⟩
  | .ok chains => .ok ⟨s, chains⟩

end Selector

/-- The elements that match the selector a text writes. -/
def Document.query (d : Document) (selector : String) : Except SelectorError (List NodeId) :=
  (Selector.parse selector).map d.select

end VectorLint
