import RequestKey.Criteria
import RequestKey.Fault
import RequestKey.Positional.Basic

/-!
# Learning from examples

Base and rule are learned from a list of examples, which must not be empty.  The
criteria of a URI write the values of its positional variables.
-/

namespace RequestKey
namespace Positional

/-- The base that examples share. -/
def baseOf : List Text -> Except Fault Text
  | [] => .error (.noExamples .base)
  | first :: others => .ok (base first others)

/-- The rule of the parts of examples. -/
def ruleOf : List Text -> Except Fault Rule
  | [] => .error (.noExamples .rule)
  | first :: others => .ok (rule first others)

/-- The criteria of a URI under a base. -/
def criteria (base uri : Text) : Text :=
  (bindings base uri).criteria pathMarker

end Positional
end RequestKey
