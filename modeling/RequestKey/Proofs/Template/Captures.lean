import RequestKey.Criteria
import RequestKey.Proofs.Template.Substitution

/-!
# What a match captures

A match binds the names of the template to parts of the URI.  So it invents
nothing: its names are those of the template, and its values hold only characters
of the URI.
-/

namespace RequestKey
namespace Template

/-- The characters of a pattern are those that its segments show. -/
theorem Segment.mem_pattern_iff (char : Char) (pattern : Text) :
    char ∈ pattern ↔ ∃ segment ∈ ofPattern pattern, char ∈ segment.render := by
  rw [← List.mem_flatMap]
  exact iff_of_eq (congrArg (char ∈ ·) (renderAll_ofPattern pattern).symm)

/-- The names of a template are those of the placeholders in its pattern. -/
theorem mem_names_iff (template : Template) (name : Text) :
    name ∈ template.names ↔
      .placeholder name ∈ Segment.ofPattern template.pattern := by
  rw [names, Segment.names, List.mem_filterMap]
  constructor
  · rintro ⟨segment, member, named⟩
    cases segment with
    | literal text => cases named
    | placeholder placeholderName =>
        cases named
        exact member
  · exact fun member => ⟨.placeholder name, member, rfl⟩

/-- A name of a template holds only characters of the pattern. -/
theorem not_mem_of_mem_names
    {template : Template}
    {char : Char}
    (absent : char ∉ template.pattern)
    {name : Text}
    (member : name ∈ template.names) :
    char ∉ name := by
  intro inside
  apply absent
  refine (Segment.mem_pattern_iff char _).mpr
    ⟨.placeholder name, (mem_names_iff template name).mp member, ?_⟩
  simp [Segment.render, inside]

/-- A match binds every name of the template, and no other. -/
theorem mem_names_of_match?_eq_some
    {template : Template}
    {uri : Text}
    {bindings : Bindings}
    (matched : template.match? uri = some bindings)
    (name : Text) :
    name ∈ bindings.names ↔ name ∈ template.names := by
  obtain ⟨values, assigned, rfl⟩ := Option.map_eq_some_iff.mp matched
  have split := ((Segment.assignment?_eq_some_iff _ _ _).mp assigned).toIsSplit
  rw [Bindings.mem_names_ofPairs, names,
    List.map_fst_zip (Nat.le_of_eq split.length_eq.symm)]

/-- Matches of one template bind the same names. -/
theorem names_eq_of_match?_eq_some
    {template : Template}
    {left right : Text}
    {leftBindings rightBindings : Bindings}
    (leftMatched : template.match? left = some leftBindings)
    (rightMatched : template.match? right = some rightBindings) :
    leftBindings.names = rightBindings.names := by
  apply Bindings.names_eq_of_mem_iff
  intro name
  rw [mem_names_of_match?_eq_some leftMatched,
    mem_names_of_match?_eq_some rightMatched]

/-- A captured value holds only characters of the URI. -/
theorem not_mem_of_match?_eq_some
    {template : Template}
    {uri : Text}
    {bindings : Bindings}
    (matched : template.match? uri = some bindings)
    {char : Char}
    (absent : char ∉ uri)
    {entry : Text × Text}
    (member : entry ∈ bindings.entries) :
    char ∉ entry.2 := by
  obtain ⟨values, assigned, rfl⟩ := Option.map_eq_some_iff.mp matched
  have split := ((Segment.assignment?_eq_some_iff _ _ _).mp assigned).toIsSplit
  have inValues : entry.2 ∈ values :=
    (List.of_mem_zip (Bindings.mem_of_mem_entries_ofPairs member)).2
  intro present
  exact absent ((Segment.mem_iff_of_fill?_eq split.filled char).mpr
    (Or.inr ⟨entry.2, inValues, present⟩))

/-- What is written of a match holds only characters of the pattern and of the URI,
and those between names and values. -/
theorem not_mem_match?_criteria
    {template : Template}
    {uri : Text}
    {char : Char}
    (notWritten : char ∉ ['/', '='])
    (notInPattern : char ∉ template.pattern)
    (notInUri : char ∉ uri) :
    char ∉ ((template.match? uri).getD Bindings.empty).criteria pathMarker := by
  simp only [List.mem_cons, List.not_mem_nil, or_false, not_or] at notWritten
  have notMarker : char ∉ pathMarker := by simpa [pathMarker] using notWritten.1
  cases matched : template.match? uri with
  | none => simp
  | some bindings =>
      apply Bindings.not_mem_criteria notMarker notWritten.2
      intro entry member
      have isName : entry.1 ∈ template.names :=
        (mem_names_of_match?_eq_some matched entry.1).mp
          (List.mem_map_of_mem member)
      exact ⟨not_mem_of_mem_names notInPattern isName,
        not_mem_of_match?_eq_some matched notInUri member⟩

end Template
end RequestKey
