import RequestKey.Positional.Criteria
import RequestKey.Query.Criteria
import RequestKey.Template.Criteria

/-!
# Dispatchers

A dispatcher turns each request URI for one operation into the criteria by which
its answer is looked up.  Criteria of the path come from a template if there is
one, otherwise from the parts after a base; criteria of the query come from the
parameters that the rules list.
-/

namespace RequestKey

/-- How requests for one operation are turned into criteria. -/
structure Dispatcher where
  /-- Which sides of a request matter. -/
  style : Dispatcher.Style
  /-- The rules of the sides that matter. -/
  rules : Rule
  /-- The pattern for the path. -/
  template : Option Text
  /-- The base of positional parts, used where there is no template. -/
  base : Option Text
  deriving DecidableEq, Repr

namespace Dispatcher

/-- The text between the two rules of a dispatcher of both sides. -/
def elementsSeparator : Text := [' ', '?', '?', ' ']

/-- The rule for the path. -/
def partsRule (dispatcher : Dispatcher) : Rule :=
  match dispatcher.style with
  | .parts => dispatcher.rules
  | .params => []
  | .elements => (Text.cutAtDoubled '?' dispatcher.rules).1.trim

/-- The rule for the query. -/
def paramsRule (dispatcher : Dispatcher) : Rule :=
  match dispatcher.style with
  | .parts => []
  | .params => dispatcher.rules
  | .elements => (Text.cutAtDoubled '?' dispatcher.rules).2.trim

/-- The criteria of the path of a request. -/
def pathCriteria (dispatcher : Dispatcher) (path : Text) : Run Text :=
  match dispatcher.template with
  | some pattern => Template.criteriaOf pattern path
  | none =>
      match dispatcher.base with
      | some base => pure (Positional.criteria base path)
      | none => pure []

/-- The criteria of the query of a request. -/
def queryCriteria (dispatcher : Dispatcher) (uri : Text) : Run Text :=
  Query.criteriaOf dispatcher.paramsRule .listed uri

/-- The criteria of a request.  Where both sides matter, those of the path stand
first; the query is not read if the path leads to a fault. -/
def criteria (dispatcher : Dispatcher) (uri : Text) : Run Text :=
  match dispatcher.style with
  | .parts => dispatcher.pathCriteria (uri.before '?')
  | .params => dispatcher.queryCriteria uri
  | .elements => do
      let pathSide <- dispatcher.pathCriteria (uri.before '?')
      let querySide <- dispatcher.queryCriteria uri
      return pathSide ++ querySide

end Dispatcher
end RequestKey
