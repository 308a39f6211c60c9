/-
The events of a YAML document: its nodes in the order in which they are
written, with marks where collections begin and end.
-/
import VectorLint.Yaml.Token

namespace VectorLint.Yaml

/-- What is written in front of a node; an alias and an anchor are given by
what names them. -/
structure Properties (α : Type) where
  anchor : Option α
  tag : Option TagText
deriving DecidableEq, Repr

inductive Event (α : Type)
  | alias (target : α)
  | scalar (properties : Properties α) (plain : Bool) (text : String)
  | sequenceStart (properties : Properties α)
  | sequenceEnd
  | mappingStart (properties : Properties α)
  | mappingEnd
deriving DecidableEq, Repr

namespace Event

/-- The node that is written as nothing. -/
def nothing : Event String :=
  .scalar ⟨none, none⟩ true ""

/-- The tags that handles stand for without a directive. -/
def defaultHandles : List (List Char × TagText) :=
  [(['!'], wordBytes ['!']), (['!', '!'], "tag:yaml.org,2002:".toUTF8.toList)]

/-- The tag that is meant; a handle has to be known. -/
def resolveTag (handles : List (List Char × TagText)) (t : WrittenTag) : Option TagText :=
  if t.handle.isEmpty then some t.suffix
  else (handles.lookup t.handle).map (· ++ t.suffix)

/-- Reads the anchor and the tag of a node, in either order. -/
def readProperties (handles : List (List Char × TagText)) (tokens : List Token) :
    Option (Properties String × List Token) :=
  let tagged (anchor : Option String) (t : WrittenTag) (rest : List Token) := do
    return (⟨anchor, ← resolveTag handles t⟩, rest)
  match tokens with
  | .anchor a :: .tag t :: rest => tagged (some a) t rest
  | .tag t :: .anchor a :: rest => tagged (some a) t rest
  | .anchor a :: rest => some (⟨some a, none⟩, rest)
  | .tag t :: rest => tagged none t rest
  | rest => some (⟨none, none⟩, rest)

/-- Events read so far, the newest first, and the tokens that are left. -/
abbrev Progress := List (Event String) × List Token

/-- Where a node may stand: within a block, or as the key or value of one,
where a sequence needs no indentation, or within a flow collection. -/
inductive Position
  | block
  | blockMember
  | flow
deriving DecidableEq, Repr

/-- What stands behind the comma between the entries of a flow collection; the
first entry has none, nor has the end. -/
def entryBehind (first : Bool) (ending : Token) (tokens : List Token) : Option (List Token) :=
  if first ∨ tokens.head? = some ending then some tokens
  else
    match tokens with
    | .flowEntry :: tokens => some tokens
    | _ => none

mutual

/-- Reads a node. -/
def readNode (handles : List (List Char × TagText)) (position : Position) :
    (fuel : Nat) → Progress → Option Progress
  | 0, _ => none
  | fuel + 1, (events, tokens) =>
    match tokens with
    | .alias name :: tokens => some (.alias name :: events, tokens)
    | tokens => do
      let (properties, tokens) ← readProperties handles tokens
      let inBlock := position ≠ .flow
      match tokens with
      | .scalar plain text :: rest => some (.scalar properties plain text :: events, rest)
      | .flowSequenceStart :: rest =>
        readFlowSequence handles true fuel (.sequenceStart properties :: events, rest)
      | .flowMappingStart :: rest =>
        readFlowMapping handles true fuel (.mappingStart properties :: events, rest)
      | token :: rest =>
        if token = .blockEntry ∧ position = .blockMember then
          readBareSequence handles fuel (.sequenceStart properties :: events, tokens)
        else if token = .blockSequenceStart ∧ inBlock then
          readBlockSequence handles fuel (.sequenceStart properties :: events, rest)
        else if token = .blockMappingStart ∧ inBlock then
          readBlockMapping handles fuel (.mappingStart properties :: events, rest)
        else if properties.anchor.isSome ∨ properties.tag.isSome then
          some (.scalar properties true "" :: events, tokens)
        else none
      | [] => none

/-- Reads a node, or nothing in front of tokens of certain kinds. -/
def readOptional (handles : List (List Char × TagText)) (position : Position)
    (absentBefore : List Token) : (fuel : Nat) → Progress → Option Progress
  | 0, _ => none
  | fuel + 1, (events, tokens) =>
    if tokens.head?.any absentBefore.contains then some (nothing :: events, tokens)
    else readNode handles position fuel (events, tokens)

/-- Reads the value of a member behind its key; without a colon it is
nothing. -/
def readMemberValue (handles : List (List Char × TagText)) (position : Position)
    (absentBefore : List Token) : (fuel : Nat) → Progress → Option Progress
  | 0, _ => none
  | fuel + 1, (events, tokens) =>
    match tokens with
    | .value :: tokens => readOptional handles position absentBefore fuel (events, tokens)
    | tokens => some (nothing :: events, tokens)

/-- Reads the entries of a sequence in a block of its own. -/
def readBlockSequence (handles : List (List Char × TagText)) :
    (fuel : Nat) → Progress → Option Progress
  | 0, _ => none
  | fuel + 1, (events, tokens) =>
    match tokens with
    | .blockEntry :: tokens => do
      readBlockSequence handles fuel
        (← readOptional handles .block [.blockEntry, .blockEnd] fuel (events, tokens))
    | .blockEnd :: tokens => some (.sequenceEnd :: events, tokens)
    | _ => none

/-- Reads the entries of a sequence at the indentation of its mapping. -/
def readBareSequence (handles : List (List Char × TagText)) :
    (fuel : Nat) → Progress → Option Progress
  | 0, _ => none
  | fuel + 1, (events, tokens) =>
    match tokens with
    | .blockEntry :: tokens => do
      readBareSequence handles fuel
        (← readOptional handles .block [.blockEntry, .key, .value, .blockEnd] fuel (events, tokens))
    | tokens => some (.sequenceEnd :: events, tokens)

/-- Reads the members of a mapping in a block. -/
def readBlockMapping (handles : List (List Char × TagText)) :
    (fuel : Nat) → Progress → Option Progress
  | 0, _ => none
  | fuel + 1, (events, tokens) =>
    let absentBefore : List Token := [.key, .value, .blockEnd]
    match tokens with
    | .key :: tokens => do
      let keyed ← readOptional handles .blockMember absentBefore fuel (events, tokens)
      readBlockMapping handles fuel
        (← readMemberValue handles .blockMember absentBefore fuel keyed)
    | .blockEnd :: tokens => some (.mappingEnd :: events, tokens)
    | _ => none

/-- Reads the key of a member that is an entry of a sequence in brackets. A key
that is not there takes the token behind it away. -/
def readEntryKey (handles : List (List Char × TagText)) :
    (fuel : Nat) → Progress → Option Progress
  | 0, _ => none
  | fuel + 1, (events, tokens) =>
    match tokens with
    | .value :: tokens | .flowEntry :: tokens | .flowSequenceEnd :: tokens =>
      some (nothing :: events, tokens)
    | tokens => readNode handles .flow fuel (events, tokens)

/-- Reads the entries of a sequence in brackets. A key in it begins a mapping
of one member. -/
def readFlowSequence (handles : List (List Char × TagText)) (first : Bool) :
    (fuel : Nat) → Progress → Option Progress
  | 0, _ => none
  | fuel + 1, (events, tokens) => do
    match ← entryBehind first .flowSequenceEnd tokens with
    | .flowSequenceEnd :: tokens => some (.sequenceEnd :: events, tokens)
    | .key :: tokens =>
      let keyed ← readEntryKey handles fuel (.mappingStart ⟨none, none⟩ :: events, tokens)
      let (events, tokens) ←
        readMemberValue handles .flow [.flowEntry, .flowSequenceEnd] fuel keyed
      readFlowSequence handles false fuel (.mappingEnd :: events, tokens)
    | tokens => readFlowSequence handles false fuel (← readNode handles .flow fuel (events, tokens))

/-- Reads the members of a mapping in braces. -/
def readFlowMapping (handles : List (List Char × TagText)) (first : Bool) :
    (fuel : Nat) → Progress → Option Progress
  | 0, _ => none
  | fuel + 1, (events, tokens) => do
    match ← entryBehind first .flowMappingEnd tokens with
    | .flowMappingEnd :: tokens => some (.mappingEnd :: events, tokens)
    | .key :: tokens =>
      let keyed ←
        readOptional handles .flow [.value, .flowEntry, .flowMappingEnd] fuel (events, tokens)
      readFlowMapping handles false fuel
        (← readMemberValue handles .flow [.flowEntry, .flowMappingEnd] fuel keyed)
    | tokens =>
      let (events, tokens) ← readNode handles .flow fuel (events, tokens)
      readFlowMapping handles false fuel (nothing :: events, tokens)

end

/-- Reads the directives of a document: at most one version, which has to be
1.1 or 1.2, and the handles, each at most once. -/
def readDirectives (versioned : Bool) (handles : List (List Char × TagText)) :
    List Token → Option (List (List Char × TagText) × List Token)
  | .directive (.version major minor) :: tokens =>
    if versioned ∨ major ≠ 1 ∨ (minor ≠ 1 ∧ minor ≠ 2) then none
    else readDirectives true handles tokens
  | .directive (.tag handle start) :: tokens =>
    if (handles.lookup handle).isSome then none
    else readDirectives versioned ((handle, start) :: handles) tokens
  | tokens => some (handles, tokens)

/-- Nothing but marks of its end may follow a document. -/
def isOver (tokens : List Token) : Bool :=
  tokens.dropWhile (· = .documentEnd) == [.streamEnd]

/-- Reads the only document of a text; a text may hold none. -/
def readDocument (fuel : Nat) (tokens : List Token) : Option (List (Event String)) := do
  if tokens = [.streamEnd] then return []
  let (handles, afterDirectives) ← readDirectives false [] tokens
  let handles := handles ++ defaultHandles
  let (events, rest) ←
    match afterDirectives with
    | .documentStart :: rest =>
      match rest with
      | .directive _ :: _ | .documentStart :: _ | .documentEnd :: _ | .streamEnd :: _ =>
        some ([nothing], rest)
      | rest => readNode handles .block fuel ([], rest)
    | rest =>
      if rest.length = tokens.length then readNode handles .block fuel ([], rest) else none
  if isOver rest then return events.reverse else none

/-- Enough fuel to read a node off tokens: three readers at most call each
other before a token is taken. -/
def readFuel (tokens : List Token) : Nat :=
  3 * tokens.length + 3

/-- The events of the document of a text. -/
def ofTokens? (tokens : List Token) : Option (List (Event String)) :=
  readDocument (readFuel tokens) tokens

end Event

end VectorLint.Yaml
