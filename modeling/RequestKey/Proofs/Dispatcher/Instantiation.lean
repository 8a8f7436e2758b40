import RequestKey.Proofs.Dispatcher.Distinction
import RequestKey.Proofs.Positional.Variables

/-!
# Criteria that instantiate their rule

The rule for the path of a positional dispatcher lists as many variables as an
example has parts at most.  The criteria of a request number the parts of the
request itself, and nothing leaves out those that the rule does not list.

The main statement is that the criteria of a request show variables of the rule
alone exactly when the request has no more parts under the base than the rule lists
variables.
-/

namespace RequestKey
namespace Dispatcher

open Positional

/-- A path side of examples with a rule is learned from the paths of these. -/
theorem PathSide.exists_ofExamples_eq_of_rule_ne_nil
    {examples : List Text}
    (varies : (PathSide.ofExamples examples).rule ≠ []) :
    ∃ first others,
      PathSide.ofExamples examples =
          ⟨Positional.rule first others, none,
            some (Positional.base first others)⟩ ∧
        ∀ path, path ∈ first :: others ↔
          path ∈ examples.map (Text.before '?') := by
  unfold ofExamples at varies ⊢
  split at varies
  · rename_i first second others distinct
    refine ⟨first, second :: others, rfl, fun path => ?_⟩
    rw [← distinct, mem_differentPaths_iff]
  · exact absurd rfl varies

/-- A dispatcher writes the parts after a base and lists as many variables for them
as one of its examples has parts at most. -/
structure ListsParts
    (dispatcher : Dispatcher)
    (examples : List Text)
    (base : Text)
    (count : Nat) : Prop where
  /-- The criteria of a path are those of its parts after the base. -/
  pathSide : ∀ uri, (dispatcher.pathSide uri).outcome =
    .ok (Positional.criteria base (uri.before '?'))
  /-- The rule for the path lists the first variables. -/
  names : dispatcher.partsRule.names = partNames count
  /-- Their number is the least that suffices for every example. -/
  least : ∀ bound, count ≤ bound ↔
    ∀ uri ∈ examples, (partsAfter base (uri.before '?')).length ≤ bound

/-- A dispatcher that is inferred from examples alone lists their parts if the path
matters. -/
theorem exists_listsParts_of_infer
    {examples : List Text}
    {dispatcher : Dispatcher}
    (inferred : (infer none examples).outcome = .ok (some dispatcher))
    (pathMatters : dispatcher.style.hasPathSide = true) :
    ∃ base count, dispatcher.base = some base ∧
      dispatcher.ListsParts examples base count := by
  obtain ⟨side, isSide, made⟩ := exists_ofSides_of_infer inferred
  have varies := (hasPathSide_iff_of_ofSides made).mp pathMatters
  have sameNames := partsRule_names_of_ofSides (PathSide.not_mem_rule isSide) made
  obtain ⟨noTemplate, hasBase⟩ := template_eq_and_base_eq_of_ofSides made
  rw [PathSide.infer_none] at isSide
  obtain rfl := Except.ok.inj isSide
  obtain ⟨first, others, learned, samePaths⟩ :=
    PathSide.exists_ofExamples_eq_of_rule_ne_nil varies
  rw [learned] at sameNames noTemplate hasBase
  refine ⟨Positional.base first others, partCount first others, hasBase, ?_, ?_, ?_⟩
  · intro uri
    rw [pathSide_outcome_of_base noTemplate hasBase, if_pos pathMatters]
  · rw [sameNames, names_rule]
  · intro bound
    rw [partCount_le_iff]
    simp only [samePaths, List.forall_mem_map]

/-- The criteria of a path show variables of the rule alone exactly when no more
parts of it are shown than the rule lists variables. -/
theorem ListsParts.shownNames_listed_iff
    {dispatcher : Dispatcher}
    {examples : List Text}
    {base : Text}
    {count : Nat}
    (lists : dispatcher.ListsParts examples base count)
    (uri : Text) :
    ∃ pathKey, (dispatcher.pathSide uri).outcome = .ok pathKey ∧
      ((∀ name ∈ Bindings.shownNames '/' pathKey,
          name ∈ dispatcher.partsRule.names) ↔
        shownCount base (uri.before '?') ≤ count) := by
  refine ⟨_, lists.pathSide uri, ?_⟩
  rw [lists.names, shownNames_criteria_subset_iff]

/-- A dispatcher inferred from examples alone, for which the path matters, has a
base and lists the first variables, as many as one of its examples has parts after
the base at most.  The criteria of the path of a request show variables of the rule
alone exactly when the path has no more parts under the base. -/
theorem shownNames_listed_iff_of_infer
    {examples : List Text}
    {dispatcher : Dispatcher}
    (inferred : (infer none examples).outcome = .ok (some dispatcher))
    (pathMatters : dispatcher.style.hasPathSide = true) :
    ∃ base count, dispatcher.base = some base ∧
      dispatcher.ListsParts examples base count ∧
        ∀ uri, ∃ pathKey, (dispatcher.pathSide uri).outcome = .ok pathKey ∧
          ((∀ name ∈ Bindings.shownNames '/' pathKey,
              name ∈ dispatcher.partsRule.names) ↔
            shownCount base (uri.before '?') ≤ count) := by
  obtain ⟨base, count, hasBase, lists⟩ :=
    exists_listsParts_of_infer inferred pathMatters
  exact ⟨base, count, hasBase, lists, lists.shownNames_listed_iff⟩

/-- Examples with one and with three parts, and a parameter. -/
def kindRequests : List Text :=
  ["/pets/cat?size=5".toList, "/pets/dog//1/".toList]

/-- The dispatcher that is inferred from these examples. -/
def kindDispatcher : Dispatcher :=
  ⟨.elements, "part1 && part2 && part3 ?? size".toList, none, some "/pets".toList⟩

theorem shownNames_listed_iff_of_infer_kindRequests :
    (infer none kindRequests).outcome = .ok (some kindDispatcher) ∧
      kindDispatcher.style.hasPathSide = true ∧
      (∃ pathKey,
        (kindDispatcher.pathSide "/pets/bird/2/x?a=/pets".toList).outcome =
            .ok pathKey ∧
          ∀ name ∈ Bindings.shownNames '/' pathKey,
            name ∈ kindDispatcher.partsRule.names) ∧
      ∃ pathKey,
        (kindDispatcher.pathSide "/pets/bird///x".toList).outcome =
            .ok pathKey ∧
          ¬∀ name ∈ Bindings.shownNames '/' pathKey,
            name ∈ kindDispatcher.partsRule.names := by
  have inferred : (infer none kindRequests).outcome = .ok (some kindDispatcher) :=
    rfl
  have pathMatters : kindDispatcher.style.hasPathSide = true := rfl
  obtain ⟨base, count, hasBase, lists, shown⟩ :=
    shownNames_listed_iff_of_infer inferred pathMatters
  cases hasBase
  -- The longer of the two examples has three parts.
  have three : count = 3 :=
    Nat.le_antisymm ((lists.least 3).mpr (by decide))
      ((lists.least count).mp (Nat.le_refl count) "/pets/dog//1/".toList (by decide))
  refine ⟨inferred, pathMatters, ?_, ?_⟩
  · obtain ⟨pathKey, path, listed⟩ := shown "/pets/bird/2/x?a=/pets".toList
    exact ⟨pathKey, path, listed.mpr (by rw [three]; decide)⟩
  · obtain ⟨pathKey, path, listed⟩ := shown "/pets/bird///x".toList
    exact ⟨pathKey, path, listed.not.mpr (by rw [three]; decide)⟩

/-- A request with a part more than the examples shows a variable that the rule does
not list. -/
theorem not_listed_furtherPart :
    (infer none ["/a/1".toList, "/a/2".toList]).outcome =
        .ok (some ⟨.parts, "part1".toList, none, some "/a".toList⟩) ∧
      (pathSide ⟨.parts, "part1".toList, none, some "/a".toList⟩
          "/a/1/2".toList).outcome = .ok "/part1=1/part2=2".toList ∧
      "part2".toList ∈ Bindings.shownNames '/' "/part1=1/part2=2".toList ∧
      "part2".toList ∉ (partsRule
        ⟨.parts, "part1".toList, none, some "/a".toList⟩).names :=
  ⟨rfl, rfl, by decide, by decide⟩

end Dispatcher
end RequestKey
