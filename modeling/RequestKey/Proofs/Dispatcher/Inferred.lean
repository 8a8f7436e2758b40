import RequestKey.Dispatcher.Inference
import RequestKey.Proofs.Dispatcher.Sides
import RequestKey.Proofs.Positional.Parts
import RequestKey.Proofs.Rule.Names
import RequestKey.Proofs.Template.Captures

/-!
# Inferred dispatchers

An inferred dispatcher is made of what template and examples say about the path
and of a rule that lists the parameters of the examples.  Nothing in a rule for
the path holds a question mark, so the two rules of a dispatcher of both sides
are found again where they were put together.

The main statement is that an inferred dispatcher reads from each of its examples
the parameters with listable names.
-/

namespace RequestKey

namespace Template

theorem pattern_eq_of_ofPattern_eq_ok
    {pattern : Text}
    {template : Template}
    (isTemplate : ofPattern pattern = .ok template) :
    template.pattern = pattern := by
  unfold ofPattern ofPattern? at isTemplate
  split at isTemplate
  · rename_i found
    split at found
    · cases found
      cases isTemplate
      rfl
    · cases found
  · cases isTemplate

end Template

namespace Dispatcher

/-! ## The sides of an inferred dispatcher -/

theorem mem_differentPaths_iff (uris : List Text) (path : Text) :
    path ∈ differentPaths uris ↔ path ∈ uris.map (Text.before '?') :=
  List.mem_eraseDups

/-- The path side of examples without a template: positional if their paths differ,
and else none. -/
def PathSide.ofExamples (examples : List Text) : PathSide :=
  match differentPaths examples with
  | first :: second :: others =>
      { rule := Positional.rule first (second :: others)
        template := none
        base := some (Positional.base first (second :: others)) }
  | _ => { rule := [], template := none, base := none }

/-- Learning from the different paths of examples is not tried where it would
fail. -/
theorem PathSide.learn_differentPaths (examples : List Text) :
    PathSide.learn (differentPaths examples) = .ok (PathSide.ofExamples examples) := by
  unfold learn ofExamples
  cases differentPaths examples with
  | nil => rfl
  | cons first others =>
      cases others with
      | nil => rfl
      | cons second others =>
          rw [if_pos (by simp)]
          rfl

/-- Without a template the path side is that of the examples. -/
theorem PathSide.infer_none (examples : List Text) :
    PathSide.infer none examples = .ok (PathSide.ofExamples examples) :=
  PathSide.learn_differentPaths examples

/-- Examples with different paths give a positional path side, and others none. -/
theorem PathSide.ofExamples_cases (examples : List Text) :
    PathSide.ofExamples examples = ⟨[], none, none⟩ ∨
      ∃ first others, PathSide.ofExamples examples =
        ⟨Positional.rule first others, none,
          some (Positional.base first others)⟩ := by
  unfold PathSide.ofExamples
  split
  · rename_i first second others _
    exact Or.inr ⟨first, second :: others, rfl⟩
  · exact Or.inl rfl

/-- There is no path side, or it is positional, or it comes from a template that
has a placeholder and does not reach into the query. -/
theorem PathSide.infer_eq_ok_cases
    {template : Option Text}
    {examples : List Text}
    {side : PathSide}
    (inferred : PathSide.infer template examples = .ok side) :
    side = ⟨[], none, none⟩ ∨
      (∃ first others, side =
        ⟨Positional.rule first others, none,
          some (Positional.base first others)⟩) ∨
      ∃ pathTemplate : Template,
        '?' ∉ pathTemplate.pattern ∧ pathTemplate.names ≠ [] ∧
          side = ⟨pathTemplate.rule, some pathTemplate.pattern, none⟩ := by
  unfold PathSide.infer at inferred
  simp only [PathSide.learn_differentPaths] at inferred
  cases template with
  | none =>
      cases inferred
      exact (PathSide.ofExamples_cases examples).imp_right Or.inl
  | some text =>
      cases isTemplate : Template.ofPattern (text.before '?') with
      | error fault => simp [isTemplate, bind, Except.bind] at inferred
      | ok pathTemplate =>
          have pattern := Template.pattern_eq_of_ofPattern_eq_ok isTemplate
          have plain := Text.not_mem_before '?' text
          simp only [isTemplate, bind, Except.bind] at inferred
          rw [← pattern] at inferred plain
          split at inferred
          · cases inferred
            exact (PathSide.ofExamples_cases examples).imp_right Or.inl
          · rename_i varies
            cases inferred
            exact Or.inr (Or.inr ⟨pathTemplate, plain, varies, rfl⟩)

/-- A rule for the path holds no question mark. -/
theorem PathSide.not_mem_rule
    {template : Option Text}
    {examples : List Text}
    {side : PathSide}
    (inferred : PathSide.infer template examples = .ok side) :
    '?' ∉ side.rule := by
  rcases PathSide.infer_eq_ok_cases inferred with
    rfl | ⟨first, others, rfl⟩ | ⟨pathTemplate, plain, _, rfl⟩
  · exact List.not_mem_nil
  · apply Rule.not_mem_join (by decide)
    intro name member
    obtain ⟨index, _, rfl⟩ := List.mem_map.mp member
    exact Positional.not_mem_partName (by decide) (by decide) _
  · exact Rule.not_mem_join (by decide) fun name =>
      Template.not_mem_of_mem_names plain

/-- The style of a dispatcher made of two sides says which of them varies. -/
theorem ofSides_eq_some_cases
    {side : PathSide}
    {query : Rule}
    {dispatcher : Dispatcher}
    (made : ofSides side query = some dispatcher) :
    (side.rule = [] ∧ query ≠ [] ∧
        dispatcher = ⟨.params, query, side.template, side.base⟩) ∨
      (side.rule ≠ [] ∧ query = [] ∧
        dispatcher = ⟨.parts, side.rule, side.template, side.base⟩) ∨
      (side.rule ≠ [] ∧ query ≠ [] ∧
        dispatcher = ⟨.elements, side.rule ++ elementsSeparator ++ query,
          side.template, side.base⟩) := by
  unfold ofSides at made
  split at made <;> split at made <;> simp_all

/-- No dispatcher is made exactly when neither side varies. -/
theorem ofSides_eq_none_iff (side : PathSide) (query : Rule) :
    ofSides side query = none ↔ side.rule = [] ∧ query = [] := by
  unfold ofSides
  split <;> split <;> simp_all

/-- The two rules of both sides are cut apart between them. -/
theorem cutAtDoubled_append_elementsSeparator
    {rule : Rule}
    (plain : '?' ∉ rule)
    (query : Rule) :
    Text.cutAtDoubled '?' (rule ++ elementsSeparator ++ query) =
      (rule ++ [' '], ' ' :: query) := by
  have absent : '?' ∉ rule ++ [' '] := by simpa using plain
  have cut := Text.cutAtDoubled_append_mark_mark absent (' ' :: query)
  simpa [elementsSeparator] using cut

/-- The names that an inferred dispatcher lists for the query are those of the
rule for the query. -/
theorem paramsRule_names_of_ofSides
    {side : PathSide}
    {query : Rule}
    {dispatcher : Dispatcher}
    (plain : '?' ∉ side.rule)
    (made : ofSides side query = some dispatcher) :
    dispatcher.paramsRule.names = query.names := by
  rcases ofSides_eq_some_cases made with
    ⟨_, _, rfl⟩ | ⟨_, none, rfl⟩ | ⟨_, _, rfl⟩
  · rfl
  · rw [none]
    rfl
  · simp only [paramsRule, cutAtDoubled_append_elementsSeparator plain,
      Rule.names_trim]
    exact Rule.names_cons_of_isBlank (by decide) query

/-- The names that an inferred dispatcher lists for the path are those of the rule
for the path. -/
theorem partsRule_names_of_ofSides
    {side : PathSide}
    {query : Rule}
    {dispatcher : Dispatcher}
    (plain : '?' ∉ side.rule)
    (made : ofSides side query = some dispatcher) :
    dispatcher.partsRule.names = side.rule.names := by
  rcases ofSides_eq_some_cases made with
    ⟨none, _, rfl⟩ | ⟨_, _, rfl⟩ | ⟨_, _, rfl⟩
  · rw [none]
    rfl
  · rfl
  · simp only [partsRule, cutAtDoubled_append_elementsSeparator plain,
      Rule.names_trim]
    exact Rule.names_append_of_isBlank (by decide) side.rule

theorem template_eq_and_base_eq_of_ofSides
    {side : PathSide}
    {query : Rule}
    {dispatcher : Dispatcher}
    (made : ofSides side query = some dispatcher) :
    dispatcher.template = side.template ∧ dispatcher.base = side.base := by
  rcases ofSides_eq_some_cases made with
    ⟨_, _, rfl⟩ | ⟨_, _, rfl⟩ | ⟨_, _, rfl⟩ <;>
    exact ⟨rfl, rfl⟩

theorem hasPathSide_iff_of_ofSides
    {side : PathSide}
    {query : Rule}
    {dispatcher : Dispatcher}
    (made : ofSides side query = some dispatcher) :
    dispatcher.style.hasPathSide = true ↔ side.rule ≠ [] := by
  rcases ofSides_eq_some_cases made with
    ⟨varies, _, rfl⟩ | ⟨varies, _, rfl⟩ | ⟨varies, _, rfl⟩ <;>
    simp [Style.hasPathSide, varies]

/-- Inference ends with the dispatcher of the path side and of the parameters,
if there is a path side. -/
theorem infer_outcome (template : Option Text) (examples : List Text) :
    (infer template examples).outcome =
      (PathSide.infer template examples).map fun side =>
        ofSides side (queryRule ((sources template examples).map Query.ofUri)) := by
  unfold infer
  simp only [Run.outcome_bind, Run.outcome_report, Run.outcome_ofExcept,
    Except.bind]
  cases PathSide.infer template examples with
  | error fault => rfl
  | ok side =>
      cases made :
          ofSides side (queryRule ((sources template examples).map Query.ofUri)) <;>
        simp [made, Except.map, Except.bind]

/-- An inferred dispatcher is made of the path side and of the parameters. -/
theorem exists_ofSides_of_infer
    {template : Option Text}
    {examples : List Text}
    {dispatcher : Dispatcher}
    (inferred : (infer template examples).outcome = .ok (some dispatcher)) :
    ∃ side, PathSide.infer template examples = .ok side ∧
      ofSides side (queryRule ((sources template examples).map Query.ofUri)) =
        some dispatcher := by
  rw [infer_outcome] at inferred
  cases path : PathSide.infer template examples with
  | error fault => simp [path, Except.map] at inferred
  | ok side =>
      rw [path] at inferred
      exact ⟨side, rfl, Except.ok.inj inferred⟩

/-! ## Criteria of requests -/

/-- The criteria of a path under an inferred dispatcher end without a fault, and
hold no question mark if the path holds none. -/
theorem exists_pathCriteria_outcome_eq_ok
    {template : Option Text}
    {examples : List Text}
    {dispatcher : Dispatcher}
    (inferred : (infer template examples).outcome = .ok (some dispatcher))
    {path : Text}
    (plain : '?' ∉ path) :
    ∃ pathKey, (dispatcher.pathCriteria path).outcome = .ok pathKey ∧
      '?' ∉ pathKey := by
  obtain ⟨side, isSide, made⟩ := exists_ofSides_of_infer inferred
  obtain ⟨sameTemplate, sameBase⟩ := template_eq_and_base_eq_of_ofSides made
  unfold pathCriteria
  rw [sameTemplate, sameBase]
  rcases PathSide.infer_eq_ok_cases isSide with
    rfl | ⟨first, others, rfl⟩ | ⟨pathTemplate, plainPattern, _, rfl⟩
  · exact ⟨[], rfl, List.not_mem_nil⟩
  · exact ⟨_, rfl, Positional.not_mem_criteria (by decide) (by decide) plain⟩
  · simp only [Template.criteriaOf_pattern, Template.criteria_outcome]
    exact ⟨_, rfl,
      Template.not_mem_match?_criteria (by decide) plainPattern plain⟩

/-- The path side of an inferred dispatcher ends without a fault. -/
theorem exists_pathSide_outcome_eq_ok
    {template : Option Text}
    {examples : List Text}
    {dispatcher : Dispatcher}
    (inferred : (infer template examples).outcome = .ok (some dispatcher))
    (uri : Text) :
    ∃ pathKey, (dispatcher.pathSide uri).outcome = .ok pathKey := by
  obtain ⟨pathKey, result, _⟩ :=
    exists_pathCriteria_outcome_eq_ok inferred (Text.not_mem_before '?' uri)
  unfold pathSide
  split
  · exact ⟨pathKey, result⟩
  · exact ⟨[], rfl⟩

/-- From one of its examples an inferred dispatcher selects the parameters whose
names are listable. -/
theorem selected_eq_restrict
    {template : Option Text}
    {examples : List Text}
    {dispatcher : Dispatcher}
    (inferred : (infer template examples).outcome = .ok (some dispatcher))
    {uri : Text}
    (member : uri ∈ examples) :
    dispatcher.selected uri =
      (Query.ofUri uri).bindings.restrict fun name => Rule.IsListable name := by
  obtain ⟨side, path, made⟩ := exists_ofSides_of_infer inferred
  have listed := paramsRule_names_of_ofSides (PathSide.not_mem_rule path) made
  have nonempty : examples ≠ [] := List.ne_nil_of_mem member
  apply Bindings.restrict_congr
  intro entry isEntry
  have isKey : entry.1 ∈ (Query.ofUri uri).keys :=
    List.mem_map_of_mem (Bindings.mem_of_mem_entries_ofPairs isEntry)
  have isListed : entry.1 ∈
      (((sources template examples).map Query.ofUri).flatMap
        Query.keys).eraseDups := by
    rw [sources, if_neg nonempty, List.mem_eraseDups, List.flatMap_map]
    exact List.mem_flatMap.mpr ⟨uri, member, isKey⟩
  rw [Rule.selects, listed, queryRule, List.contains_eq_mem]
  exact decide_eq_decide.mpr (Rule.mem_names_join_iff isListed)

/-- The criteria of an example are those of its path, followed by all of its
parameters that have listable names. -/
theorem criteria_eq_ok_of_mem_examples
    {template : Option Text}
    {examples : List Text}
    {dispatcher : Dispatcher}
    (inferred : (infer template examples).outcome = .ok (some dispatcher))
    {uri : Text}
    (member : uri ∈ examples) :
    ∃ pathKey, (dispatcher.pathSide uri).outcome = .ok pathKey ∧
      (dispatcher.criteria uri).outcome =
        .ok (pathKey ++ ((Query.ofUri uri).bindings.restrict fun name =>
          Rule.IsListable name).criteria queryMarker) := by
  obtain ⟨pathKey, path⟩ := exists_pathSide_outcome_eq_ok inferred uri
  refine ⟨pathKey, path, ?_⟩
  rw [criteria_outcome, path, selected_eq_restrict inferred member]
  rfl

/-- Requests whose queries have a listable name twice, one with a blank in front
and one with a doubled ampersand. -/
def petRequests : List Text :=
  ["/pets/1?a=1&+b=2".toList, "/pets/2?c%26%26d=3&a=4".toList]

/-- The dispatcher that is inferred for these requests and a template. -/
def petDispatcher : Dispatcher :=
  ⟨.elements, "id ?? a &&  b && c&&d".toList, some "/pets/{id}".toList, none⟩

theorem criteria_eq_ok_of_mem_examples_petRequests :
    (infer (some "/pets/{id}?x".toList) petRequests).outcome =
        .ok (some petDispatcher) ∧
      "/pets/2?c%26%26d=3&a=4".toList ∈ petRequests ∧
      ∃ pathKey,
        (petDispatcher.pathSide "/pets/2?c%26%26d=3&a=4".toList).outcome =
            .ok pathKey ∧
          (petDispatcher.criteria "/pets/2?c%26%26d=3&a=4".toList).outcome =
            .ok (pathKey ++
              ((Query.ofUri "/pets/2?c%26%26d=3&a=4".toList).bindings.restrict
                fun name => Rule.IsListable name).criteria queryMarker) := by
  have inferred : (infer (some "/pets/{id}?x".toList) petRequests).outcome =
      .ok (some petDispatcher) := rfl
  have member : "/pets/2?c%26%26d=3&a=4".toList ∈ petRequests := by decide
  exact ⟨inferred, member, criteria_eq_ok_of_mem_examples inferred member⟩

/-- A parameter is left out of the criteria of its own example when its name
holds a doubled ampersand, and when a blank stands at an end of its name. -/
theorem parameter_left_out :
    ((infer none ["/?a%26%26b=1".toList]).outcome =
          .ok (some ⟨.params, "a&&b".toList, none, none⟩) ∧
        (criteria ⟨.params, "a&&b".toList, none, none⟩
          "/?a%26%26b=1".toList).outcome = .ok [] ∧
        (Query.ofUri "/?a%26%26b=1".toList).bindings.criteria queryMarker =
          "?a&&b=1".toList) ∧
      (infer none ["/?+a=1".toList]).outcome =
          .ok (some ⟨.params, " a".toList, none, none⟩) ∧
        (criteria ⟨.params, " a".toList, none, none⟩ "/?+a=1".toList).outcome =
          .ok [] ∧
        (Query.ofUri "/?+a=1".toList).bindings.criteria queryMarker =
          "? a=1".toList :=
  ⟨⟨rfl, rfl, rfl⟩, rfl, rfl, rfl⟩

end Dispatcher
end RequestKey
