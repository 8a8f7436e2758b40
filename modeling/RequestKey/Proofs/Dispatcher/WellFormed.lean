import RequestKey.Proofs.Dispatcher.Inferred
import RequestKey.Proofs.Template.WellFormed

/-!
# Well-formed dispatchers

Inference chooses the style, the rules, the template and the base of a dispatcher
in separate branches, by whether a joined rule is empty.  Names of placeholders
are never empty, so a template with placeholders always has a rule, and the
branches agree.

The main statement says that inference fails on nothing but a pattern over the
length limit, and that an inferred dispatcher is well-formed and has criteria for
every request.
-/

namespace RequestKey

namespace Template

/-- The rule of a template with placeholders is not empty. -/
theorem rule_ne_nil
    {template : Template}
    (varies : template.names ≠ []) :
    template.rule ≠ [] := by
  obtain ⟨first, others, split⟩ := List.exists_cons_of_ne_nil varies
  have isPlaceholder : .placeholder first ∈ Segment.ofPattern template.pattern := by
    rw [← mem_names_iff, split]
    exact List.mem_cons_self
  have wellFormed : Segment.WellFormed (Segment.ofPattern template.pattern) :=
    Segment.wellFormed_scan none template.pattern (by simp)
  rw [rule, split]
  exact Rule.join_cons_ne_nil (wellFormed.name_valid first isPlaceholder).1 others

/-- A pattern fails to be that of a template by its length alone. -/
theorem ofPattern_eq_error_iff (pattern : Text) (fault : Fault) :
    ofPattern pattern = .error fault ↔
      maximumLength < pattern.length ∧
        fault = .templateTooLong pattern.length := by
  unfold ofPattern ofPattern?
  by_cases within : pattern.length ≤ maximumLength
  · simp [within, Nat.not_lt.mpr within]
  · simp [within, Nat.not_le.mp within, eq_comm]

end Template

namespace Dispatcher

/-! ## Faults of inference -/

/-- The path side fails on a pattern over the limit, and on nothing else. -/
theorem PathSide.infer_eq_error_iff
    (template : Option Text)
    (examples : List Text)
    (fault : Fault) :
    PathSide.infer template examples = .error fault ↔
      ∃ text, template = some text ∧
        Template.maximumLength < (text.before '?').length ∧
          fault = .templateTooLong (text.before '?').length := by
  cases template with
  | none => simp [infer_none]
  | some text =>
      have onlyLength := Template.ofPattern_eq_error_iff (text.before '?') fault
      simp only [infer, learn_differentPaths, Option.some.injEq, exists_eq_left',
        ← onlyLength]
      cases Template.ofPattern (text.before '?') with
      | error pathFault => simp [bind, Except.bind]
      | ok pathTemplate =>
          simp only [bind, Except.bind]
          split <;> simp [pure, Except.pure]

/-- Inference fails where the path side does. -/
theorem infer_outcome_eq_error_iff
    (template : Option Text)
    (examples : List Text)
    (fault : Fault) :
    (infer template examples).outcome = .error fault ↔
      PathSide.infer template examples = .error fault := by
  rw [infer_outcome]
  cases PathSide.infer template examples <;> simp [Except.map]

/-! ## What is inferred -/

/-- A pattern for a path is within the length limit, has no query and has a
placeholder. -/
structure IsPathPattern (pattern : Text) : Prop where
  /-- The pattern is that of a template. -/
  length_le : pattern.length ≤ Template.maximumLength
  /-- The pattern does not reach into the query. -/
  plain : '?' ∉ pattern
  /-- Something in the pattern varies. -/
  hasPlaceholder : ∃ name,
    .placeholder name ∈ Template.Segment.ofPattern pattern

/-- A path side has at most one source, and one if it has a rule. -/
structure PathSide.IsWellFormed (side : PathSide) : Prop where
  /-- A pattern gives a rule. -/
  isPathPattern : ∀ pattern, side.template = some pattern ->
    IsPathPattern pattern ∧ side.rule ≠ []
  /-- There is no base beside a pattern. -/
  oneSource : side.template = none ∨ side.base = none
  /-- A rule comes from a pattern or from a base. -/
  hasSource : side.rule ≠ [] -> side.template ≠ none ∨ side.base ≠ none

/-- The rules of a dispatcher are not empty, and its style says which sources its
path side has. -/
structure IsWellFormed (dispatcher : Dispatcher) : Prop where
  /-- Something varies. -/
  rules_ne_nil : dispatcher.rules ≠ []
  /-- The template is a pattern for a path. -/
  isPathPattern : ∀ pattern, dispatcher.template = some pattern ->
    IsPathPattern pattern
  /-- There is no base beside a template. -/
  oneSource : dispatcher.template = none ∨ dispatcher.base = none
  /-- Where the path matters, there is a template or a base. -/
  hasSource : dispatcher.style = .parts ∨ dispatcher.style = .elements ->
    dispatcher.template ≠ none ∨ dispatcher.base ≠ none
  /-- Where only the query matters, there is no template. -/
  noTemplate : dispatcher.style = .params -> dispatcher.template = none

/-- The path side of a template and examples is well-formed. -/
theorem PathSide.isWellFormed_of_infer
    {template : Option Text}
    {examples : List Text}
    {side : PathSide}
    (inferred : PathSide.infer template examples = .ok side) :
    side.IsWellFormed := by
  rcases PathSide.infer_eq_ok_cases inferred with
    rfl | ⟨first, others, rfl⟩ | ⟨pathTemplate, plain, varies, rfl⟩
  · constructor <;> simp
  · constructor <;> simp
  · refine ⟨?_, Or.inr rfl, fun _ => Or.inl (Option.some_ne_none _)⟩
    rintro _ ⟨rfl⟩
    obtain ⟨name, member⟩ := List.exists_mem_of_ne_nil _ varies
    have isPlaceholder := (pathTemplate.mem_names_iff name).mp member
    exact ⟨⟨pathTemplate.length_le, plain, name, isPlaceholder⟩,
      Template.rule_ne_nil varies⟩

/-- A dispatcher made of a well-formed path side is well-formed. -/
theorem PathSide.IsWellFormed.ofSides
    {side : PathSide}
    (wellFormed : side.IsWellFormed)
    {query : Rule}
    {dispatcher : Dispatcher}
    (made : ofSides side query = some dispatcher) :
    dispatcher.IsWellFormed := by
  have isPathPattern : ∀ pattern, side.template = some pattern ->
      IsPathPattern pattern :=
    fun pattern given => (wellFormed.isPathPattern pattern given).1
  rcases ofSides_eq_some_cases made with
    ⟨noRule, queryVaries, rfl⟩ | ⟨pathVaries, _, rfl⟩ | ⟨pathVaries, _, rfl⟩
  · refine ⟨queryVaries, isPathPattern, wellFormed.oneSource, by simp, fun _ => ?_⟩
    -- A pattern would have given the path side a rule.
    rw [Option.eq_none_iff_forall_ne_some]
    exact fun pattern given => (wellFormed.isPathPattern pattern given).2 noRule
  · exact ⟨pathVaries, isPathPattern, wellFormed.oneSource,
      fun _ => wellFormed.hasSource pathVaries, by simp⟩
  · exact ⟨by simp [pathVaries], isPathPattern, wellFormed.oneSource,
      fun _ => wellFormed.hasSource pathVaries, by simp⟩

/-- An inferred dispatcher has criteria for every request. -/
theorem exists_criteria_outcome_eq_ok
    {template : Option Text}
    {examples : List Text}
    {dispatcher : Dispatcher}
    (inferred : (infer template examples).outcome = .ok (some dispatcher))
    (uri : Text) :
    ∃ key, (dispatcher.criteria uri).outcome = .ok key := by
  obtain ⟨pathKey, path⟩ := exists_pathSide_outcome_eq_ok inferred uri
  rw [criteria_outcome, path]
  exact ⟨_, rfl⟩

/-- Inference fails exactly when the part of the template before the query is over
the length limit; learning from examples never makes it fail.  What it infers is
well-formed and never fails on a request. -/
theorem infer_total (template : Option Text) (examples : List Text) :
    (∀ fault, (infer template examples).outcome = .error fault ↔
        ∃ text, template = some text ∧
          Template.maximumLength < (text.before '?').length ∧
            fault = .templateTooLong (text.before '?').length) ∧
      PathSide.learn (examples.map (Text.before '?')).eraseDups =
          .ok (PathSide.ofExamples examples) ∧
        ∀ dispatcher, (infer template examples).outcome = .ok (some dispatcher) ->
          dispatcher.IsWellFormed ∧
            ∀ uri, ∃ key, (dispatcher.criteria uri).outcome = .ok key := by
  refine ⟨fun fault => ?_, PathSide.learn_differentPaths examples,
    fun dispatcher inferred => ⟨?_, exists_criteria_outcome_eq_ok inferred⟩⟩
  · rw [infer_outcome_eq_error_iff, PathSide.infer_eq_error_iff]
  · obtain ⟨side, isSide, made⟩ := exists_ofSides_of_infer inferred
    exact (PathSide.isWellFormed_of_infer isSide).ofSides made

/-- A dispatcher is inferred for the requests of pets, and a pattern of one code
point over the limit is refused although the same requests vary. -/
theorem infer_total_petRequests :
    (infer (some "/pets/{id}?x".toList) petRequests).outcome =
        .ok (some petDispatcher) ∧
      petDispatcher.IsWellFormed ∧
      (∃ key, (petDispatcher.criteria "/dogs?a=%zz".toList).outcome = .ok key) ∧
      (infer (some (List.replicate 8193 'a')) petRequests).outcome =
        .error (.templateTooLong 8193) := by
  have inferred : (infer (some "/pets/{id}?x".toList) petRequests).outcome =
      .ok (some petDispatcher) := rfl
  obtain ⟨wellFormed, hasCriteria⟩ := (infer_total _ _).2.2 _ inferred
  have noQuery : '?' ∉ List.replicate 8193 'a' := fun member =>
    absurd (List.eq_of_mem_replicate member) (by decide)
  refine ⟨inferred, wellFormed, hasCriteria _, ?_⟩
  refine ((infer_total _ _).1 _).mpr ⟨_, rfl, ?_⟩
  rw [Text.before_eq_self noQuery, List.length_replicate]
  exact ⟨by decide, rfl⟩

end Dispatcher
end RequestKey
