import RequestKey.Proofs.Dispatcher.Sides
import RequestKey.Proofs.Query.Reordering

/-!
# Orders that do not show in criteria

Criteria are written in the order of names.  Neither the order in which a request
gives its parameters shows in them, nor the order in which a rule lists its names,
nor how often.  Only the parameters of one key must keep their order, since the
last of them counts.

The main statement puts both together.
-/

namespace RequestKey
namespace Dispatcher

/-- Reordering the pieces of a query keeps the criteria of the request, or the
fault that it has instead. -/
theorem criteria_outcome_eq_of_isReordering
    (dispatcher : Dispatcher)
    {path left right : Text}
    (noMark : '?' ∉ path)
    (reordering : Query.IsReordering (left.splitOn '&') (right.splitOn '&')) :
    (dispatcher.criteria (path ++ '?' :: left)).outcome =
      (dispatcher.criteria (path ++ '?' :: right)).outcome := by
  have sameSelected : dispatcher.selected (path ++ '?' :: left) =
      dispatcher.selected (path ++ '?' :: right) := by
    unfold selected Query.selected
    rw [reordering.bindings_ofUri noMark]
  have samePathSide : dispatcher.pathSide (path ++ '?' :: left) =
      dispatcher.pathSide (path ++ '?' :: right) := by
    unfold pathSide
    rw [Text.before_append_mark noMark, Text.before_append_mark noMark]
  rw [criteria_outcome, criteria_outcome, samePathSide, sameSelected]

/-- A dispatcher with other rules. -/
def withRules (dispatcher : Dispatcher) (rules : Rule) : Dispatcher :=
  { dispatcher with rules := rules }

/-- Rules that list the same parameters give every request the same criteria, and
make the same records. -/
theorem criteria_withRules
    {dispatcher : Dispatcher}
    {rules : Rule}
    (sameNames : ∀ name, name ∈ dispatcher.paramsRule.names ↔
      name ∈ (dispatcher.withRules rules).paramsRule.names)
    (uri : Text) :
    (dispatcher.withRules rules).criteria uri = dispatcher.criteria uri := by
  have samePath : ∀ path,
      (dispatcher.withRules rules).pathCriteria path = dispatcher.pathCriteria path :=
    fun _ => rfl
  have sameQuery :
      (dispatcher.withRules rules).queryCriteria uri = dispatcher.queryCriteria uri :=
    (Query.criteriaOf_congr sameNames uri).symm
  have sameStyle : (dispatcher.withRules rules).style = dispatcher.style := rfl
  unfold criteria
  rw [sameStyle, sameQuery]
  simp only [samePath]

/-- Criteria depend neither on the order of a request's parameters, as long as
those of each key keep theirs, nor on the order of the names that a rule lists. -/
theorem criteria_orderIndependent (dispatcher : Dispatcher) :
    (∀ path left right : Text, '?' ∉ path ->
        Query.IsReordering (left.splitOn '&') (right.splitOn '&') ->
          (dispatcher.criteria (path ++ '?' :: left)).outcome =
            (dispatcher.criteria (path ++ '?' :: right)).outcome) ∧
      ∀ rules : Rule,
        (∀ name, name ∈ dispatcher.paramsRule.names ↔
          name ∈ (dispatcher.withRules rules).paramsRule.names) ->
            ∀ uri, (dispatcher.withRules rules).criteria uri =
              dispatcher.criteria uri := by
  constructor
  · intro path left right noMark reordering
    exact dispatcher.criteria_outcome_eq_of_isReordering noMark reordering
  · intro rules sameNames uri
    exact criteria_withRules sameNames uri

/-- A dispatcher of both sides that lists two parameters. -/
def petPage : Dispatcher :=
  ⟨.elements, "id ?? page && size".toList, some "/pets/{id}".toList, none⟩

/-- A key is spelled in two ways, one piece cannot be decoded and one has no
key. -/
theorem criteria_orderIndependent_petPage :
    Query.IsReordering
        ("page=1&size=5&p%61ge=2&bad=%zz&=x".toList.splitOn '&')
        ("=x&bad=%zz&page=1&p%61ge=2&size=5".toList.splitOn '&') ∧
      (petPage.criteria ("/pets/7".toList ++ '?' ::
          "page=1&size=5&p%61ge=2&bad=%zz&=x".toList)).outcome =
        (petPage.criteria ("/pets/7".toList ++ '?' ::
          "=x&bad=%zz&page=1&p%61ge=2&size=5".toList)).outcome ∧
      (petPage.criteria ("/pets/7".toList ++ '?' ::
          "=x&bad=%zz&page=1&p%61ge=2&size=5".toList)).outcome =
        .ok "/id=7?page=2?size=5".toList ∧
      (petPage.withRules "id ?? size&&page && page".toList).criteria
          "/pets/7?size=5&page=2".toList =
        petPage.criteria "/pets/7?size=5&page=2".toList := by
  have reordering : Query.IsReordering
      ("page=1&size=5&p%61ge=2&bad=%zz&=x".toList.splitOn '&')
      ("=x&bad=%zz&page=1&p%61ge=2&size=5".toList.splitOn '&') := by
    decide
  have names : petPage.paramsRule.names = ["page".toList, "size".toList] := rfl
  have otherNames : (petPage.withRules
      "id ?? size&&page && page".toList).paramsRule.names =
        ["size".toList, "page".toList, "page".toList] := rfl
  refine ⟨reordering, ?_, rfl, ?_⟩
  · exact (criteria_orderIndependent petPage).1 _ _ _ (by decide) reordering
  · refine (criteria_orderIndependent petPage).2 _ (fun name => ?_) _
    rw [names, otherNames]
    simp [or_comm]

end Dispatcher
end RequestKey
