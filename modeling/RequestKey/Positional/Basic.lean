import RequestKey.Bindings.Basic
import RequestKey.Rule

/-!
# Positional variables

Where nothing names the variable parts of a path, examples show where they are.
The examples share a base, which ends before a slash, and each segment after the
base is a variable that is named by its position.
-/

namespace RequestKey
namespace Positional

/-- The operations that learn from examples and need at least one. -/
inductive Operation
  /-- Finding the base that the examples share. -/
  | base
  /-- Finding the rule of the parts after the base. -/
  | rule
  deriving DecidableEq, Repr

/-- The name of an operation in messages. -/
def Operation.label : Operation -> String
  | .base => "extract_common_prefix"
  | .rule => "extract_parts_from_uris"

/-- The longest text with which all of several texts start. -/
def sharedStart (first : Text) (others : List Text) : Text :=
  others.foldl Text.agreement first

/-- The path that examples share.  It is the first example if all others start
with that, and otherwise ends before the last slash of what they share. -/
def base (first : Text) (others : List Text) : Text :=
  if sharedStart first others = first then first
  else (sharedStart first others).beforeLast '/'

/-- The texts between slashes, without the empty ones at the end. -/
def parts (text : Text) : List Text :=
  ((text.splitOn '/').reverse.dropWhile fun part => part.isEmpty).reverse

/-- The parts of a URI after a base and the slash that follows it. -/
def partsAfter (base uri : Text) : List Text :=
  parts (uri.drop (base.length + 1))

/-- The name of the variable at a position. -/
def partName (position : Nat) : Text :=
  ['p', 'a', 'r', 't'] ++ Nat.toDigits 10 position

/-- The names of the first variables, as many as given. -/
def partNames (count : Nat) : List Text :=
  (List.range count).map fun index => partName (index + 1)

/-- The largest number of parts that an example has after the base. -/
def partCount (first : Text) (others : List Text) : Nat :=
  ((first :: others).map fun uri =>
    (partsAfter (base first others) uri).length).foldl max 0

/-- The rule that lists a variable for every part that some example has. -/
def rule (first : Text) (others : List Text) : Rule :=
  Rule.join (partNames (partCount first others))

/-- Whether a URI is the base or continues it after a slash. -/
def isUnder (base uri : Text) : Bool :=
  uri = base || (base ++ ['/']).isPrefixOf uri

/-- The values of the variables in a URI.  A URI outside the base has none. -/
def bindings (base uri : Text) : Bindings :=
  if isUnder base uri then
    Bindings.ofPairs
      ((partsAfter base uri).mapIdx fun index part =>
        (partName (index + 1), part))
  else Bindings.empty

end Positional
end RequestKey
