import RequestKey.Dispatcher.Style
import RequestKey.Query.Basic

/-!
# Log records

Operations report what they leave out and what they choose.  Each kind of record
has its level and its wording in one place.
-/

namespace RequestKey

/-- How much attention a record asks for. -/
inductive Level
  | debug
  | warning
  deriving DecidableEq, Repr

/-- The name of a level. -/
def Level.label : Level -> String
  | .debug => "DEBUG"
  | .warning => "WARNING"

/-- What an operation reports while it runs. -/
inductive Record
  /-- A piece of a query is left out. -/
  | skippedParameter (failure : Query.Failure)
  /-- A URI does not match the pattern of a template. -/
  | mismatch (uri pattern : Text)
  /-- Nothing varies among the given number of sources. -/
  | nothingVaries (sources : Nat)
  /-- A dispatcher of the given style and rules was inferred. -/
  | inferred (style : Dispatcher.Style) (rules : Rule)
  deriving DecidableEq, Repr

namespace Record

/-- The level of a record. -/
def level : Record -> Level
  | .skippedParameter _ => .warning
  | .mismatch _ _ | .nothingVaries _ | .inferred _ _ => .debug

/-- The words of a record. -/
def message : Record -> String
  | .skippedParameter failure =>
      "Skipping query parameter " ++ Text.shown failure.piece ++ ": " ++
        failure.reason.message
  | .mismatch uri pattern =>
      "URI " ++ Text.shown uri ++ " does not match template " ++
        Text.shown pattern
  | .nothingVaries sources =>
      "No variable parts or parameters in " ++ toString sources ++
        " example(s)"
  | .inferred style rules =>
      "Inferred " ++ style.label ++ " dispatcher with rules " ++
        Text.shown rules

end Record

/-- The records about the failures of a query, in query order. -/
def Query.warnings (query : Query) : List Record :=
  query.failures.map Record.skippedParameter

end RequestKey
