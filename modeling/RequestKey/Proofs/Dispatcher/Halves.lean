import RequestKey.Proofs.Bindings.Reading
import RequestKey.Proofs.Dispatcher.Inferred

/-!
# The two halves of rules and criteria

A dispatcher of both sides writes two rules into one text, and two criteria into
one key.  The names of parameters may hold question marks, those of placeholders
need not look like names, and values are written as they are.  But nothing that is
written for the path holds a question mark, so the first one always begins the
half for the query.

The main statement is that an inferred dispatcher of both sides gives back both
rules, and the criteria of every request both criteria.
-/

namespace RequestKey

namespace Text

/-- The part of a text before the first occurrence of a mark, and the part that
begins with it. -/
def halves (mark : Char) (text : Text) : Text × Text :=
  (text.before mark, text.dropWhile fun char => char != mark)

/-- The halves of a text make up the text. -/
theorem halves_fst_append_snd (mark : Char) (text : Text) :
    (halves mark text).1 ++ (halves mark text).2 = text :=
  List.takeWhile_append_dropWhile

/-- A text without the mark and one that begins with it are the halves of their
join. -/
theorem halves_append
    {mark : Char}
    {first second : Text}
    (absent : mark ∉ first)
    (begins : EndsAt (· = [mark]) second) :
    halves mark (first ++ second) = (first, second) := by
  have passes : ∀ char ∈ first, (char != mark) = true := by
    intro char member
    simpa using ne_of_mem_of_not_mem member absent
  unfold halves before
  rw [List.takeWhile_append_of_pos passes, List.dropWhile_append_of_pos passes]
  rcases begins with rfl | ⟨stop, rfl, rest, rfl⟩ <;> simp

end Text

namespace Dispatcher

/-- A dispatcher of both sides has a rule for the path and one for the query.  It
gives both back up to blanks around them, and the criteria of a request are those
of its path up to the first question mark and those of its query from there on. -/
structure HasHalves (dispatcher : Dispatcher) (parts params : Rule) : Prop where
  /-- The rule for the path is given back. -/
  partsRule : dispatcher.partsRule = parts.trim
  /-- The rule for the query is given back. -/
  paramsRule : dispatcher.paramsRule = params.trim
  /-- Reading it lists the same parameters in the same order. -/
  names : dispatcher.paramsRule.names = params.names
  /-- A request has criteria, and the first question mark cuts them apart. -/
  criteria : ∀ uri, ∃ key, (dispatcher.criteria uri).outcome = .ok key ∧
    (dispatcher.pathCriteria (uri.before '?')).outcome =
      .ok (Text.halves '?' key).1 ∧
    (Query.criteriaOf params .listed uri).outcome =
      .ok (Text.halves '?' key).2

/-- Two requests have equal criteria exactly when both halves are equal. -/
theorem HasHalves.criteria_outcome_eq_iff
    {dispatcher : Dispatcher}
    {parts params : Rule}
    (has : dispatcher.HasHalves parts params)
    (left right : Text) :
    (dispatcher.criteria left).outcome = (dispatcher.criteria right).outcome ↔
      (dispatcher.pathCriteria (left.before '?')).outcome =
          (dispatcher.pathCriteria (right.before '?')).outcome ∧
        (Query.criteriaOf params .listed left).outcome =
          (Query.criteriaOf params .listed right).outcome := by
  obtain ⟨leftKey, leftWhole, leftPath, leftQuery⟩ := has.criteria left
  obtain ⟨rightKey, rightWhole, rightPath, rightQuery⟩ := has.criteria right
  rw [leftWhole, rightWhole, leftPath, rightPath, leftQuery, rightQuery]
  simp only [Except.ok.injEq]
  constructor
  · rintro rfl
    exact ⟨rfl, rfl⟩
  · rintro ⟨samePath, sameQuery⟩
    rw [← Text.halves_fst_append_snd '?' leftKey, samePath, sameQuery,
      Text.halves_fst_append_snd]

/-- The rules of a dispatcher that is made of both sides are given back. -/
theorem partsRule_eq_and_paramsRule_eq_of_ofSides
    {side : PathSide}
    {query : Rule}
    {dispatcher : Dispatcher}
    (plain : '?' ∉ side.rule)
    (made : ofSides side query = some dispatcher)
    (bothSides : dispatcher.style = .elements) :
    dispatcher.partsRule = side.rule.trim ∧
      dispatcher.paramsRule = query.trim := by
  rcases ofSides_eq_some_cases made with
    ⟨_, _, rfl⟩ | ⟨_, _, rfl⟩ | ⟨_, _, rfl⟩
  · cases bothSides
  · cases bothSides
  · simp only [partsRule, paramsRule,
      cutAtDoubled_append_elementsSeparator plain]
    exact ⟨Text.trim_append_of_isBlank (by decide) side.rule,
      Text.trim_cons_of_isBlank (by decide) query⟩

/-- An inferred dispatcher of both sides has the rule of its path side and the rule
that lists the parameters as its halves, and two requests have equal criteria
exactly when both halves of these are equal. -/
theorem hasHalves_of_infer
    {template : Option Text}
    {examples : List Text}
    {dispatcher : Dispatcher}
    (inferred : (infer template examples).outcome = .ok (some dispatcher))
    (bothSides : dispatcher.style = .elements) :
    ∃ side params, PathSide.infer template examples = .ok side ∧
      queryRule ((sources template examples).map Query.ofUri) = params ∧
        dispatcher.HasHalves side.rule params ∧
          ∀ left right,
            (dispatcher.criteria left).outcome =
                (dispatcher.criteria right).outcome ↔
              (dispatcher.pathCriteria (left.before '?')).outcome =
                  (dispatcher.pathCriteria (right.before '?')).outcome ∧
                (Query.criteriaOf params .listed left).outcome =
                  (Query.criteriaOf params .listed right).outcome := by
  obtain ⟨side, isSide, made⟩ := exists_ofSides_of_infer inferred
  have plain : '?' ∉ side.rule := PathSide.not_mem_rule isSide
  have sameNames := paramsRule_names_of_ofSides plain made
  obtain ⟨isParts, isParams⟩ :=
    partsRule_eq_and_paramsRule_eq_of_ofSides plain made bothSides
  have has : dispatcher.HasHalves side.rule
      (queryRule ((sources template examples).map Query.ofUri)) := by
    refine ⟨isParts, isParams, sameNames, fun uri => ?_⟩
    -- The path writes no question mark, and what the query writes is nothing or
    -- begins with one.
    obtain ⟨pathKey, path, plainPath⟩ :=
      exists_pathCriteria_outcome_eq_ok inferred (Text.not_mem_before '?' uri)
    have cut := Text.halves_append plainPath
      (Bindings.endsAt_criteria '?' (dispatcher.selected uri))
    refine ⟨pathKey ++ (dispatcher.selected uri).criteria ['?'], ?_, ?_, ?_⟩
    · rw [criteria_outcome, pathSide, if_pos (by rw [bothSides]; rfl), path]
      rfl
    · rw [path, cut]
    · rw [cut, ← Query.criteriaOf_congr (fun name => by rw [sameNames]) uri]
      rfl
  exact ⟨side, _, isSide, rfl, has, has.criteria_outcome_eq_iff⟩

/-- The dispatcher inferred from a template whose placeholders are no plain names,
and from an example with parameters that begin with question marks. -/
def markedPets : Dispatcher :=
  ⟨.elements, " id  && k:d ?? ??a && ?? && a".toList,
    some "/pets/{ id }/{k:d}".toList, none⟩

theorem hasHalves_of_infer_markedPets :
    (infer (some "/pets/{ id }/{k:d}?x".toList)
          ["/pets/1/2???a=1&%3F%3F=2&a=3".toList]).outcome =
        .ok (some markedPets) ∧
      markedPets.style = .elements ∧
      (markedPets.criteria "/pets/7/8?%3F%3F=x&a=1".toList).outcome =
        .ok "/ id =7/k:d=8???=x?a=1".toList ∧
      ∃ side params,
        PathSide.infer (some "/pets/{ id }/{k:d}?x".toList)
            ["/pets/1/2???a=1&%3F%3F=2&a=3".toList] = .ok side ∧
          params = "??a && ?? && a".toList ∧
            markedPets.HasHalves side.rule params := by
  have inferred : (infer (some "/pets/{ id }/{k:d}?x".toList)
      ["/pets/1/2???a=1&%3F%3F=2&a=3".toList]).outcome =
        .ok (some markedPets) := rfl
  have bothSides : markedPets.style = .elements := rfl
  obtain ⟨side, params, isSide, isRule, has, _⟩ :=
    hasHalves_of_infer inferred bothSides
  exact ⟨inferred, bothSides, rfl, side, params, isSide, isRule.symm, has⟩

end Dispatcher
end RequestKey
