import RequestKey.Text.Basic

/-!
# Configuration values

A configuration arrives as a value of a self-describing data format: a scalar, a
list or an object with named fields.  The kind of a value is what a reader
reports when it expected another one.
-/

namespace RequestKey
namespace Config

/-- A value of the data format. -/
inductive Value
  | null
  | boolean (value : Bool)
  | integer (value : Int)
  /-- A number that is not written as an integer, kept as its numeral. -/
  | fraction (numeral : Text)
  | text (text : Text)
  | list (items : List Value)
  /-- Fields in the order in which they are written. -/
  | object (fields : List (Text × Value))

/-- The kinds of values. -/
inductive Kind
  | null
  | boolean
  | integer
  | fraction
  | text
  | list
  | object
  deriving DecidableEq, Repr

/-- The word for a kind in messages. -/
def Kind.label : Kind -> String
  | .null => "NoneType"
  | .boolean => "bool"
  | .integer => "int"
  | .fraction => "float"
  | .text => "str"
  | .list => "list"
  | .object => "dict"

namespace Value

/-- The kind of a value. -/
def kind : Value -> Kind
  | .null => .null
  | .boolean _ => .boolean
  | .integer _ => .integer
  | .fraction _ => .fraction
  | .text _ => .text
  | .list _ => .list
  | .object _ => .object

end Value

/-- The value of a field.  A field that is written more than once has its last
value. -/
def field? (fields : List (Text × Value)) (name : Text) : Option Value :=
  fields.reverse.lookup name

/-- The fields of a dispatcher's configuration. -/
inductive Field
  | dispatcher
  | rules
  | template
  | base
  deriving DecidableEq, Repr

/-- The name of a field. -/
def Field.label : Field -> String
  | .dispatcher => "dispatcher"
  | .rules => "rules"
  | .template => "template"
  | .base => "prefix"

/-- The name of a field as a text. -/
def Field.name (field : Field) : Text :=
  field.label.toList

end Config
end RequestKey
