import RequestKey.Dispatcher.Basic

/-!
# Inferred dispatchers

A dispatcher for an operation is inferred from its template and from example
requests.  Placeholders in the template give the rule for the path.  Without
them, examples with different paths give a positional rule under the base that
they share.  Parameters in the examples, or in the template where there are no
examples, give the rule for the query.
-/

namespace RequestKey
namespace Dispatcher

/-- What a template and examples say about the path. -/
structure PathSide where
  /-- The rule for the path, empty when nothing varies. -/
  rule : Rule
  /-- The pattern whose placeholders give the rule. -/
  template : Option Text
  /-- The base under which the rule is positional. -/
  base : Option Text

/-- The path side that is learned from different paths.  A single path shows no
variable part, so base and rule are learned from two paths or more. -/
def PathSide.learn (paths : List Text) : Except Fault PathSide :=
  if 1 < paths.length then do
    let base <- Positional.baseOf paths
    let rule <- Positional.ruleOf paths
    return { rule := rule, template := none, base := some base }
  else return { rule := [], template := none, base := none }

/-- The different paths of URIs, in the order in which they are first seen. -/
def differentPaths (uris : List Text) : List Text :=
  (uris.map (Text.before '?')).eraseDups

/-- The path side of a template, of which the part before the query counts, or of
examples where the template has no placeholder. -/
def PathSide.infer
    (template : Option Text)
    (examples : List Text) : Except Fault PathSide :=
  match template with
  | none => learn (differentPaths examples)
  | some text => do
      let pattern := text.before '?'
      let pathTemplate <- Template.ofPattern pattern
      if pathTemplate.names = [] then learn (differentPaths examples)
      else return { rule := pathTemplate.rule, template := some pattern, base := none }

/-- The URIs whose parameters count: the examples, or the template if there are
none. -/
def sources (template : Option Text) (examples : List Text) : List Text :=
  if examples = [] then template.toList else examples

/-- The rule that lists the keys of several queries, each once, in the order in
which they are first seen. -/
def queryRule (queries : List Query) : Rule :=
  Rule.join (queries.flatMap Query.keys).eraseDups

/-- The dispatcher for a path side and a rule for the query, if either side
varies. -/
def ofSides (side : PathSide) (paramsRule : Rule) : Option Dispatcher :=
  if side.rule = [] then
    if paramsRule = [] then none
    else some ⟨.params, paramsRule, side.template, side.base⟩
  else if paramsRule = [] then
    some ⟨.parts, side.rule, side.template, side.base⟩
  else
    some ⟨.elements, side.rule ++ elementsSeparator ++ paramsRule,
      side.template, side.base⟩

/-- Infer the dispatcher of an operation, or none if nothing about its requests
varies.  The queries are read before the path is looked at. -/
def infer
    (template : Option Text)
    (examples : List Text) : Run (Option Dispatcher) := do
  let queries := (sources template examples).map Query.ofUri
  Run.report (queries.flatMap Query.warnings)
  let side <- Run.ofExcept (PathSide.infer template examples)
  match ofSides side (queryRule queries) with
  | none =>
      Run.report [.nothingVaries (sources template examples).length]
      return none
  | some dispatcher =>
      Run.report [.inferred dispatcher.style dispatcher.rules]
      return some dispatcher

end Dispatcher
end RequestKey
