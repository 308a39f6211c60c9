/-
Scripts: rules given step by step. From the first deferral on a script may
give up its turn; what it found before is returned at its end all the same.
-/
import VectorLint.Rule.Process
import VectorLint.Selector.Reader

namespace VectorLint

/-- A step of a script. A node that the document does not have is no node. -/
inductive Step
  | report (severity : Severity) (message : Message) (at? : Option NodeId)
  | exception (reason : String)
  | finding (message : Message) (at? : Option NodeId)
  /-- Reports an error with the message at every match; a bad selector fails
  the script. -/
  | query (selector : String) (message : Message)
  /-- Logs the path of the file. -/
  | filepath
  /-- Logs the number of characters of the source. -/
  | sourceLength
  | fail (chain : List String)
  | panic (p : Panic)
  | defer
  /-- Gives up the turn; before the deferral it does nothing. -/
  | yield

abbrev Script := List Step

namespace Script

/-- A log entry without a node. -/
def logEntry (parts : List Json.Value) : Entry :=
  .diagnostic .log ⟨parts⟩ none

/-- What is left of a script to do, given whether it is deferred already and
what it has found, the newest first. -/
def process (d : Document) (context : Context) : (deferred : Bool) → (found : List Finding) →
    Script → Process
  | _, found, [] => .finish found.reverse
  | deferred, found, step :: steps =>
    match step with
    | .report severity message at? =>
      .record (.diagnostic severity message (at?.bind d.ref?)) (process d context deferred found steps)
    | .exception reason => .record (.exception reason) (process d context deferred found steps)
    | .finding message at? =>
      process d context deferred (⟨message, at?.bind d.ref?⟩ :: found) steps
    | .query selector message =>
      match d.query selector with
      | .error e => .fail (.error [e.message])
      | .ok ids =>
        .recordAll (ids.map fun id => .diagnostic .error message (d.ref? id))
          (process d context deferred found steps)
    | .filepath =>
      let parts := match context.filepath with
        | some path => [.string "filepath", .string path]
        | none => [.string "no filepath"]
      .record (logEntry parts) (process d context deferred found steps)
    | .sourceLength =>
      .record (logEntry [.ofNat d.source.length]) (process d context deferred found steps)
    | .fail chain => .fail (.error chain)
    | .panic p => .fail (.panic p)
    | .defer => process d context true found steps
    | .yield =>
      if deferred then .suspend (process d context deferred found steps)
      else process d context deferred found steps

/-- The rule that follows a script. -/
def toRule (s : Script) : Rule :=
  ⟨fun d context => process d context false [] s⟩

end Script

end VectorLint
