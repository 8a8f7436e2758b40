import RequestKey.Proofs.Bindings.Reading
import RequestKey.Proofs.Dispatcher.Sides
import RequestKey.Proofs.Template.Captures

/-!
# Requests with the same criteria

A dispatcher without a base reads named values from a request: those that its
template captures from the path, and the parameters that its rules list.  Values
are written into the criteria as they are, so two requests with different values
may have the same criteria.

The main statement says that they have not, unless a value holds the lead of
another name, or another name holds a mark by which leads are read.
-/

namespace RequestKey

namespace Dispatcher

open Bindings Text

/-! ## Captured values -/

/-- The template of a dispatcher, if it has one within the length limit and the
path matters. -/
def pathTemplate? (dispatcher : Dispatcher) : Option Template :=
  if dispatcher.style.hasPathSide then
    dispatcher.template.bind Template.ofPattern?
  else none

/-- The values that the template captures from the path of a request. -/
def captured (dispatcher : Dispatcher) (uri : Text) : Bindings :=
  (dispatcher.pathTemplate?.bind
    fun template => template.match? (uri.before '?')).getD Bindings.empty

/-- Without a base, the path side writes the captured values. -/
theorem captured_criteria_eq_of_pathSide_eq_ok
    {dispatcher : Dispatcher}
    (noBase : dispatcher.base = none)
    {uri key : Text}
    (result : (dispatcher.pathSide uri).outcome = .ok key) :
    (dispatcher.captured uri).criteria pathMarker = key := by
  unfold pathSide pathCriteria at result
  unfold captured pathTemplate?
  split at result
  · rename_i hasPath
    rw [if_pos hasPath]
    cases given : dispatcher.template with
    | none =>
        rw [given, noBase] at result
        exact Except.ok.inj result
    | some pattern =>
        rw [given] at result
        obtain ⟨template, isTemplate, written⟩ :=
          (Template.criteriaOf_outcome_eq_ok_iff _ _ _).mp result
        rw [Option.bind_some, isTemplate]
        exact written
  · rename_i noPath
    rw [if_neg noPath]
    exact Except.ok.inj result

/-- Nothing is captured, or what a template matches. -/
theorem captured_eq_empty_or_match?
    (dispatcher : Dispatcher)
    (uri : Text) :
    dispatcher.captured uri = Bindings.empty ∨
      ∃ template, dispatcher.pathTemplate? = some template ∧
        template.match? (uri.before '?') = some (dispatcher.captured uri) := by
  unfold captured
  cases dispatcher.pathTemplate? with
  | none => exact Or.inl rfl
  | some template =>
      rw [Option.bind_some]
      cases matched : template.match? (uri.before '?') with
      | none => exact Or.inl rfl
      | some bindings => exact Or.inr ⟨template, rfl, matched⟩

/-- Two requests that both bind captured names bind the same ones. -/
theorem captured_names_eq
    {dispatcher : Dispatcher}
    {left right : Text}
    (leftBinds : dispatcher.captured left ≠ Bindings.empty)
    (rightBinds : dispatcher.captured right ≠ Bindings.empty) :
    (dispatcher.captured left).names = (dispatcher.captured right).names := by
  obtain ⟨template, isTemplate, leftMatched⟩ :=
    (dispatcher.captured_eq_empty_or_match? left).resolve_left leftBinds
  obtain ⟨other, isOther, rightMatched⟩ :=
    (dispatcher.captured_eq_empty_or_match? right).resolve_left rightBinds
  rw [isTemplate] at isOther
  cases isOther
  exact Template.names_eq_of_match?_eq_some leftMatched rightMatched

/-- A captured value does not hold the mark in front of a query. -/
theorem not_mem_captured
    {dispatcher : Dispatcher}
    {uri : Text}
    {entry : Text × Text}
    (member : entry ∈ (dispatcher.captured uri).entries) :
    '?' ∉ entry.2 := by
  rcases dispatcher.captured_eq_empty_or_match? uri with
    nothing | ⟨template, _, matched⟩
  · simp [nothing] at member
  · exact Template.not_mem_of_match?_eq_some matched
      (Text.not_mem_before '?' uri) member

/-- A selected parameter is one that the rules list. -/
theorem mem_names_of_mem_selected
    {dispatcher : Dispatcher}
    {uri : Text}
    {entry : Text × Text}
    (member : entry ∈ (dispatcher.selected uri).entries) :
    entry.1 ∈ dispatcher.paramsRule.names := by
  unfold selected Query.selected at member
  have kept := (List.mem_filter.mp member).2
  simpa [Rule.selects] using kept

/-! ## Reading a request back -/

/-- The values of a request do not read as if the criterion of another name began
in them. -/
structure ReadsBack (dispatcher : Dispatcher) (uri : Text) : Prop where
  /-- Captured values are readable among the captured names. -/
  captured : IsReadable '/' (· ∈ (dispatcher.captured uri).names)
    (dispatcher.captured uri).entries
  /-- Selected values are readable among the listed names. -/
  selected : IsReadable '?' (· ∈ dispatcher.paramsRule.names)
    (dispatcher.selected uri).entries
  /-- Other names than that of a selected parameter do not hold the mark of the
  query. -/
  noMark : ∀ entry ∈ (dispatcher.selected uri).entries,
    ∀ name ∈ dispatcher.paramsRule.names, name ≠ entry.1 -> '?' ∉ name

/-- Without a base, criteria write the captured values and then the selected
parameters. -/
theorem captured_append_selected_eq_of_criteria_eq_ok
    {dispatcher : Dispatcher}
    (noBase : dispatcher.base = none)
    {uri key : Text}
    (result : (dispatcher.criteria uri).outcome = .ok key) :
    (dispatcher.captured uri).criteria ['/'] ++
      (dispatcher.selected uri).criteria ['?'] = key := by
  rw [criteria_outcome] at result
  cases pathResult : (dispatcher.pathSide uri).outcome with
  | error fault => simp [pathResult, Except.map] at result
  | ok pathKey =>
      rw [pathResult] at result
      have written := captured_criteria_eq_of_pathSide_eq_ok noBase pathResult
      have joined := Except.ok.inj result
      rw [← written] at joined
      exact joined

/-- If nothing is captured from a request, no name is captured from one with the
same criteria. -/
private theorem captured_names_eq_of_captured_eq_empty
    {dispatcher : Dispatcher}
    {left right : Text}
    (nothing : dispatcher.captured left = Bindings.empty)
    (equal : (dispatcher.captured left).criteria ['/'] ++
        (dispatcher.selected left).criteria ['?'] =
      (dispatcher.captured right).criteria ['/'] ++
        (dispatcher.selected right).criteria ['?']) :
    (dispatcher.captured left).names = (dispatcher.captured right).names := by
  have ends := endsAt_criteria '?' (dispatcher.selected left)
  rw [nothing, criteria_empty, List.nil_append] at equal
  rw [equal] at ends
  have noEntries := entries_eq_nil_of_criteria_append_endsAt
    (by decide : '/' ≠ '?') ends
  rw [nothing, names, names, noEntries, entries_empty]

/-- Two requests with the same criteria have the same captured values and the
same selected parameters, if their values can be read back. -/
theorem captured_eq_and_selected_eq
    {dispatcher : Dispatcher}
    (noBase : dispatcher.base = none)
    {left right : Text}
    (leftReads : dispatcher.ReadsBack left)
    (rightReads : dispatcher.ReadsBack right)
    {key : Text}
    (leftKey : (dispatcher.criteria left).outcome = .ok key)
    (rightKey : (dispatcher.criteria right).outcome = .ok key) :
    dispatcher.captured left = dispatcher.captured right ∧
      dispatcher.selected left = dispatcher.selected right := by
  have equal :=
    (captured_append_selected_eq_of_criteria_eq_ok noBase leftKey).trans
      (captured_append_selected_eq_of_criteria_eq_ok noBase rightKey).symm
  have sameNames :
      (dispatcher.captured left).names = (dispatcher.captured right).names := by
    -- Two matches bind the names of one template; where one request does not
    -- match, the key itself shows that nothing is captured from the other.
    by_cases leftNothing : dispatcher.captured left = Bindings.empty
    · exact captured_names_eq_of_captured_eq_empty leftNothing equal
    · by_cases rightNothing : dispatcher.captured right = Bindings.empty
      · exact (captured_names_eq_of_captured_eq_empty rightNothing
          equal.symm).symm
      · exact captured_names_eq leftNothing rightNothing
  have rightCaptured : IsReadable '/'
      (· ∈ (dispatcher.captured left).names)
      (dispatcher.captured right).entries := by
    rw [sameNames]
    exact rightReads.captured
  obtain ⟨sameCaptured, sameQuery⟩ := eq_of_criteria_append_eq (by decide)
    sameNames (fun _ => List.mem_map_of_mem) leftReads.captured rightCaptured
    (fun _ => not_mem_captured) (fun _ => not_mem_captured)
    (endsAt_criteria '?' _) (endsAt_criteria '?' _) equal
  refine ⟨sameCaptured, ?_⟩
  exact eq_of_criteria_eq (by decide)
    (fun _ => mem_names_of_mem_selected) (fun _ => mem_names_of_mem_selected)
    leftReads.selected rightReads.selected leftReads.noMark sameQuery

/-- A dispatcher of both sides with two names on each. -/
def petPages : Dispatcher :=
  ⟨.elements, "kind && id ?? page && size".toList,
    some "/pets/{kind}/{id}".toList, none⟩

theorem captured_eq_and_selected_eq_petPages :
    petPages.ReadsBack "/pets/a/b/1?size=5&page=x=y".toList ∧
      petPages.ReadsBack "/pets/a/b/1?page=x%3Dy&z=9&size=5".toList ∧
      (petPages.criteria "/pets/a/b/1?size=5&page=x=y".toList).outcome =
        .ok "/id=1/kind=a/b?page=x=y?size=5".toList ∧
      petPages.captured "/pets/a/b/1?size=5&page=x=y".toList =
        petPages.captured "/pets/a/b/1?page=x%3Dy&z=9&size=5".toList ∧
      petPages.selected "/pets/a/b/1?size=5&page=x=y".toList =
        petPages.selected "/pets/a/b/1?page=x%3Dy&z=9&size=5".toList := by
  have leftReads : petPages.ReadsBack "/pets/a/b/1?size=5&page=x=y".toList :=
    ⟨⟨by decide, by simp only [← Text.occursIn_iff]; decide⟩,
      ⟨by decide, by simp only [← Text.occursIn_iff]; decide⟩, by decide⟩
  have rightReads :
      petPages.ReadsBack "/pets/a/b/1?page=x%3Dy&z=9&size=5".toList :=
    ⟨⟨by decide, by simp only [← Text.occursIn_iff]; decide⟩,
      ⟨by decide, by simp only [← Text.occursIn_iff]; decide⟩, by decide⟩
  have leftKey : (petPages.criteria "/pets/a/b/1?size=5&page=x=y".toList).outcome =
      .ok "/id=1/kind=a/b?page=x=y?size=5".toList := rfl
  exact ⟨leftReads, rightReads, leftKey,
    captured_eq_and_selected_eq rfl leftReads rightReads leftKey rfl⟩

/-- Two requests have the same criteria, though their values differ. -/
def Collide (dispatcher : Dispatcher) (left right : Text) : Prop :=
  (∃ key, (dispatcher.criteria left).outcome = .ok key ∧
      (dispatcher.criteria right).outcome = .ok key) ∧
    ¬(dispatcher.captured left = dispatcher.captured right ∧
      dispatcher.selected left = dispatcher.selected right)

theorem collide_of_captured_ne
    {dispatcher : Dispatcher}
    {left right : Text}
    (key : Text)
    (leftKey : (dispatcher.criteria left).outcome = .ok key)
    (rightKey : (dispatcher.criteria right).outcome = .ok key)
    (differ : (dispatcher.captured left).entries ≠
      (dispatcher.captured right).entries) :
    dispatcher.Collide left right :=
  ⟨⟨key, leftKey, rightKey⟩, fun same => differ (by rw [same.1])⟩

theorem collide_of_selected_ne
    {dispatcher : Dispatcher}
    {left right : Text}
    (key : Text)
    (leftKey : (dispatcher.criteria left).outcome = .ok key)
    (rightKey : (dispatcher.criteria right).outcome = .ok key)
    (differ : (dispatcher.selected left).entries ≠
      (dispatcher.selected right).entries) :
    dispatcher.Collide left right :=
  ⟨⟨key, leftKey, rightKey⟩, fun same => differ (by rw [same.2])⟩

/-- Requests collide when a parameter or a captured value holds the lead of
another name, and when another name holds an equals sign or the mark of the
query. -/
theorem collide_unreadable :
    Collide ⟨.params, "a && b".toList, none, none⟩
        "/?a=1%3Fb%3D2".toList "/?a=1&b=2".toList ∧
      Collide ⟨.params, "a && a=b".toList, none, none⟩
        "/?a%3Db=c".toList "/?a=b=c".toList ∧
      Collide ⟨.params, "a && m && x?m".toList, none, none⟩
        "/?a=1&x?m=2".toList "/?a=1?x&m=2".toList ∧
      Collide ⟨.parts, "a && b".toList, some "{a}!{b}".toList, none⟩
        "x/b=y!z".toList "x!y/b=z".toList ∧
      Collide ⟨.parts, "0 && =/".toList, some "{0}!{=/}".toList, none⟩
        "x!/=z".toList "x/=!z".toList := by
  refine ⟨?_, ?_, ?_, ?_, ?_⟩
  · exact collide_of_selected_ne "?a=1?b=2".toList rfl rfl (by decide)
  · exact collide_of_selected_ne "?a=b=c".toList rfl rfl (by decide)
  · exact collide_of_selected_ne "?a=1?x?m=2".toList rfl rfl (by decide)
  · exact collide_of_captured_ne "/a=x/b=y/b=z".toList rfl rfl (by decide)
  · exact collide_of_captured_ne "/0=x/=/=/=z".toList rfl rfl (by decide)

end Dispatcher
end RequestKey
