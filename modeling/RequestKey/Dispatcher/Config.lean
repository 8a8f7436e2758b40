import RequestKey.Config.Value
import RequestKey.Dispatcher.Basic

/-!
# Dispatchers from configurations

A configuration is an object with a style, rules, a template and a base.  Its
conditions are checked in a fixed order, and the first one that fails is the
fault: the value is an object; it names a style by a text; rules, template and
base are texts where they are given; the style exists.
-/

namespace RequestKey
namespace Dispatcher

open Config

/-- The dispatcher of the given parts, if the style exists. -/
def ofParts
    (styleLabel : Text)
    (rules : Rule)
    (template base : Option Text) : Except Fault Dispatcher :=
  match Style.ofLabel? styleLabel with
  | some style => .ok ⟨style, rules, template, base⟩
  | none => .error (.unknownStyle styleLabel)

/-- The name of the style in a configuration. -/
def styleField (fields : List (Text × Value)) : Except Fault Text :=
  match field? fields Field.dispatcher.name with
  | none | some .null => .error .missingStyle
  | some (.text label) => .ok label
  | some other => .error (.notText .dispatcher other.kind)

/-- The rules in a configuration, which are empty when the field is absent. -/
def rulesField (fields : List (Text × Value)) : Except Fault Rule :=
  match field? fields Field.rules.name with
  | none => .ok []
  | some (.text rules) => .ok rules
  | some other => .error (.notText .rules other.kind)

/-- A text in a configuration that may be absent or null. -/
def optionalField
    (fields : List (Text × Value))
    (field : Field) : Except Fault (Option Text) :=
  match field? fields field.name with
  | none | some .null => .ok none
  | some (.text text) => .ok (some text)
  | some other => .error (.notText field other.kind)

/-- The dispatcher that the fields of a configuration describe. -/
def ofFields (fields : List (Text × Value)) : Except Fault Dispatcher := do
  let styleLabel <- styleField fields
  let rules <- rulesField fields
  let template <- optionalField fields .template
  let base <- optionalField fields .base
  ofParts styleLabel rules template base

/-- The dispatcher that a configuration describes. -/
def ofValue : Value -> Except Fault Dispatcher
  | .object fields => ofFields fields
  | value => .error (.notAnObject value.kind)

/-- A text that may be missing, as a configuration shows it. -/
def valueOfText? : Option Text -> Value
  | none => .null
  | some text => .text text

/-- The configuration that describes a dispatcher. -/
def toValue (dispatcher : Dispatcher) : Value :=
  .object
    [(Field.dispatcher.name, .text dispatcher.style.label.toList),
      (Field.rules.name, .text dispatcher.rules),
      (Field.template.name, valueOfText? dispatcher.template),
      (Field.base.name, valueOfText? dispatcher.base)]

end Dispatcher
end RequestKey
