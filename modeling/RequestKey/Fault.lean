import RequestKey.Config.Value
import RequestKey.Dispatcher.Style
import RequestKey.Positional.Basic
import RequestKey.Template.Basic
import RequestKey.Text.Quoted

/-!
# Faults

A fault is the reason why an operation has no result.  Each has its wording in
one place.
-/

namespace RequestKey

/-- Why an operation has no result. -/
inductive Fault
  /-- No example was given. -/
  | noExamples (operation : Positional.Operation)
  /-- The pattern of a template has too many code points. -/
  | templateTooLong (length : Nat)
  /-- No style has this name. -/
  | unknownStyle (text : Text)
  /-- A configuration is not an object. -/
  | notAnObject (kind : Config.Kind)
  /-- A configuration names no style. -/
  | missingStyle
  /-- A field of a configuration is not a text. -/
  | notText (field : Config.Field) (kind : Config.Kind)
  deriving DecidableEq, Repr

namespace Fault

/-- The names of all styles, as a message lists them. -/
def expectedStyles : String :=
  "[" ++ ", ".intercalate
    (Dispatcher.Style.all.map fun style => Text.shown style.label.toList) ++ "]"

/-- The words for a fault. -/
def message : Fault -> String
  | .noExamples operation =>
      operation.label ++ " requires at least one example URI"
  | .templateTooLong length =>
      "template length " ++ toString length ++ " exceeds maximum " ++
        toString Template.maximumLength
  | .unknownStyle text =>
      "unknown dispatcher " ++ Text.shown text ++ ", expected one of " ++
        expectedStyles
  | .notAnObject kind => "expected dict, got " ++ kind.label
  | .missingStyle =>
      "missing required field '" ++ Config.Field.dispatcher.label ++ "'"
  | .notText field kind =>
      "'" ++ field.label ++ "' must be a string, got " ++ kind.label

end Fault
end RequestKey
