import RequestKey.Dispatcher.Basic

/-!
# The two sides of criteria

Whatever its style, a dispatcher writes the criteria of the path, where the path
matters, and after them the parameters that its rules list.  The main statement
says so for all styles at once; a style without one of the sides leaves that side
empty.
-/

namespace RequestKey

namespace Template

/-- The criteria of a URI under a template are those of its match, if any. -/
theorem criteria_outcome (template : Template) (uri : Text) :
    (template.criteria uri).outcome =
      .ok (((template.match? uri).getD Bindings.empty).criteria pathMarker) := by
  unfold criteria
  cases template.match? uri <;> rfl

/-- There are criteria under a pattern exactly when it is the pattern of a
template, and then they are those under the template. -/
theorem criteriaOf_outcome_eq_ok_iff (pattern uri key : Text) :
    (criteriaOf pattern uri).outcome = .ok key ↔
      ∃ template, ofPattern? pattern = some template ∧
        ((template.match? uri).getD Bindings.empty).criteria pathMarker = key := by
  unfold criteriaOf ofPattern
  cases ofPattern? pattern with
  | none => simp [Except.bind]
  | some template => simp [Except.bind, criteria_outcome]

end Template

/-- Rules that list the same names select the same names. -/
theorem Rule.selects_listed_congr
    {left right : Rule}
    (sameNames : ∀ name, name ∈ left.names ↔ name ∈ right.names) :
    left.selects .listed = right.selects .listed := by
  funext name
  simp only [Rule.selects, List.contains_eq_mem, sameNames]

/-- Rules that list the same names give the same criteria of a query. -/
theorem Query.criteriaOf_congr
    {left right : Rule}
    (sameNames : ∀ name, name ∈ left.names ↔ name ∈ right.names)
    (uri : Text) :
    criteriaOf left .listed uri = criteriaOf right .listed uri := by
  unfold criteriaOf criteria selected
  rw [Rule.selects_listed_congr sameNames]

namespace Dispatcher

/-- The criteria of the path of a request, if the path matters. -/
def pathSide (dispatcher : Dispatcher) (uri : Text) : Run Text :=
  if dispatcher.style.hasPathSide then
    dispatcher.pathCriteria (uri.before '?')
  else pure []

/-- The parameters of a request that the rules list. -/
def selected (dispatcher : Dispatcher) (uri : Text) : Bindings :=
  (Query.ofUri uri).selected dispatcher.paramsRule .listed

/-- A rule that lists nothing selects nothing. -/
theorem selected_criteria_of_paramsRule_eq_nil
    {dispatcher : Dispatcher}
    (noRule : dispatcher.paramsRule = [])
    (uri : Text) :
    (dispatcher.selected uri).criteria queryMarker = [] := by
  unfold selected Query.selected Bindings.criteria
  simp [noRule, Rule.selects]

theorem queryCriteria_outcome
    (dispatcher : Dispatcher)
    (uri : Text) :
    (dispatcher.queryCriteria uri).outcome =
      .ok ((dispatcher.selected uri).criteria queryMarker) := rfl

/-- The criteria of a request are those of its path side, followed by the listed
parameters. -/
theorem criteria_outcome
    (dispatcher : Dispatcher)
    (uri : Text) :
    (dispatcher.criteria uri).outcome =
      (dispatcher.pathSide uri).outcome.map
        (· ++ (dispatcher.selected uri).criteria queryMarker) := by
  unfold criteria pathSide
  cases style : dispatcher.style with
  | parts =>
      have noRule : dispatcher.paramsRule = [] := by
        rw [paramsRule, style]
      simp only [Style.hasPathSide, if_true,
        selected_criteria_of_paramsRule_eq_nil noRule, List.append_nil]
      cases (dispatcher.pathCriteria (uri.before '?')).outcome <;> rfl
  | params =>
      simp only [Style.hasPathSide, queryCriteria_outcome]
      rfl
  | elements =>
      simp only [Style.hasPathSide, if_true, Run.outcome_bind,
        queryCriteria_outcome]
      cases (dispatcher.pathCriteria (uri.before '?')).outcome <;> rfl

end Dispatcher
end RequestKey
