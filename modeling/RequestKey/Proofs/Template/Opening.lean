import RequestKey.Proofs.Template.Language
import RequestKey.Proofs.Template.WellFormed

/-!
# What all matches of a template start with

A template opens with the literal text before its first placeholder.  The reading of
a pattern never puts two literal runs side by side, so after the opening the template
is at its end or at a placeholder, whose value may begin with any character but a
newline.

The main statement says that the opening of a template with a placeholder is the
longest text with which all its matches start, and that a template without
placeholders matches its own pattern alone, which is also its opening.
-/

namespace RequestKey
namespace Template

open Segment

/-! ## The segments after the opening -/

/-- The segments after the opening of a template. -/
def afterOpening (template : Template) : List Segment :=
  match template.segments with
  | .literal _ :: segments => segments
  | segments => segments

/-- The splits along a template are those along the segments after the opening, in
texts that start with it. -/
theorem isSplit_segments_iff
    (template : Template)
    (values : List Text)
    (uri : Text) :
    IsSplit template.segments values uri ↔
      ∃ rest, uri = template.opening ++ rest ∧
        IsSplit template.afterOpening values rest := by
  unfold opening afterOpening
  cases template.segments with
  | nil => simp
  | cons segment segments =>
      cases segment with
      | literal text => exact isSplit_literal_iff text segments values uri
      | placeholder name => simp

/-- The names of a template are those of the segments after its opening. -/
theorem names_afterOpening (template : Template) :
    Segment.names template.afterOpening = template.names := by
  unfold Template.names afterOpening
  cases template.segments with
  | nil => rfl
  | cons segment segments => cases segment <;> rfl

/-- A pattern is the opening followed by what the segments after it show. -/
theorem opening_append_renderAll (template : Template) :
    template.opening ++ renderAll template.afterOpening = template.pattern := by
  rw [← renderAll_ofPattern template.pattern]
  change _ = renderAll template.segments
  unfold opening afterOpening
  cases template.segments with
  | nil => rfl
  | cons segment segments => cases segment <;> rfl

/-- After the opening a template is at its end or at a placeholder. -/
theorem afterOpening_cases (template : Template) :
    template.afterOpening = [] ∨
      ∃ name segments, template.afterOpening = .placeholder name :: segments := by
  have wellFormed : WellFormed template.segments :=
    wellFormed_scan none template.pattern (by simp)
  unfold afterOpening
  cases read : template.segments with
  | nil => exact Or.inl rfl
  | cons segment segments =>
      rw [read] at wellFormed
      cases segment with
      | placeholder name => exact Or.inr ⟨name, segments, rfl⟩
      | literal text =>
          cases segments with
          | nil => exact Or.inl rfl
          | cons next segments =>
              cases next with
              | literal second => exact wellFormed.mayPrecede.elim
              | placeholder name => exact Or.inr ⟨name, segments, rfl⟩

/-- A template matches what starts with the opening and goes on along the segments
after it. -/
theorem match?_ne_none_iff (template : Template) (uri : Text) :
    template.match? uri ≠ none ↔
      ∃ rest, uri = template.opening ++ rest ∧
        ∃ values, IsSplit template.afterOpening values rest := by
  rw [Ne, match?_eq_none_iff, Classical.not_not]
  constructor
  · rintro ⟨values, split⟩
    obtain ⟨rest, equal, later⟩ := (isSplit_segments_iff ..).mp split
    exact ⟨rest, equal, values, later⟩
  · rintro ⟨rest, equal, values, later⟩
    exact ⟨values, (isSplit_segments_iff ..).mpr ⟨rest, equal, later⟩⟩

/-! ## The language of a template -/

/-- A text is the longest one with which all texts of a language start. -/
structure IsLongestStart (language : Text -> Prop) (start : Text) : Prop where
  /-- The texts of the language start with it. -/
  starts : ∀ text, language text -> start <+: text
  /-- Whatever they all start with begins it. -/
  longest : ∀ other, (∀ text, language text -> other <+: text) -> other <+: start

/-- After the opening of a template with a placeholder, a match may go on with any
character but a newline. -/
theorem exists_match?_opening_append
    {template : Template}
    (varies : template.names ≠ [])
    {char : Char}
    (notNewline : char ≠ '\n') :
    ∃ rest, template.match? (template.opening ++ char :: rest) ≠ none := by
  rcases template.afterOpening_cases with atEnd | ⟨name, segments, continues⟩
  · rw [← names_afterOpening, atEnd] at varies
    exact absurd rfl varies
  · obtain ⟨rest, split⟩ := exists_isSplit_replicate notNewline segments
    refine ⟨rest, (match?_ne_none_iff ..).mpr ⟨char :: rest, rfl, ?_⟩⟩
    rw [continues]
    exact ⟨_, (isSplit_placeholder_cons_iff ..).mpr
      ⟨notNewline, Or.inl ⟨_, rfl, split⟩⟩⟩

/-- The opening of a template with a placeholder is the longest start of its
matches. -/
theorem isLongestStart_opening
    {template : Template}
    (varies : template.names ≠ []) :
    IsLongestStart (fun uri => template.match? uri ≠ none) template.opening := by
  constructor
  · intro uri isMatch
    obtain ⟨rest, rfl, _⟩ := (match?_ne_none_iff ..).mp isMatch
    exact List.prefix_append _ rest
  · intro other starts
    -- Two matches that differ right after the opening agree on nothing longer.
    have different : 'a' ≠ 'b' := by decide
    obtain ⟨left, leftMatch⟩ := exists_match?_opening_append varies
      (by decide : 'a' ≠ '\n')
    obtain ⟨right, rightMatch⟩ := exists_match?_opening_append varies
      (by decide : 'b' ≠ '\n')
    rw [← Text.agreement_append different template.opening left right]
    exact (Text.isPrefix_agreement_iff ..).mpr
      ⟨starts _ leftMatch, starts _ rightMatch⟩

/-- A template without placeholders ends after its opening. -/
theorem afterOpening_eq_nil
    {template : Template}
    (constant : template.names = []) :
    template.afterOpening = [] := by
  rcases template.afterOpening_cases with atEnd | ⟨name, segments, continues⟩
  · exact atEnd
  · rw [← names_afterOpening, continues, Segment.names_placeholder] at constant
    exact absurd constant (List.cons_ne_nil _ _)

/-- The opening of a template with a placeholder is the longest text with which all
its matches start.  A template without placeholders matches its pattern and nothing
else, and the pattern is its opening. -/
theorem opening_language (template : Template) :
    (template.names ≠ [] ->
        IsLongestStart (fun uri => template.match? uri ≠ none)
          template.opening) ∧
      (template.names = [] ->
        (∀ uri, template.match? uri ≠ none ↔ uri = template.pattern) ∧
          template.opening = template.pattern) := by
  refine ⟨isLongestStart_opening, fun constant => ?_⟩
  have atEnd := afterOpening_eq_nil constant
  have isPattern : template.opening = template.pattern := by
    rw [← opening_append_renderAll, atEnd, renderAll_nil, List.append_nil]
  refine ⟨fun uri => ?_, isPattern⟩
  rw [match?_ne_none_iff, atEnd, isPattern]
  simp [isSplit_nil_iff]

/-- A template whose opening holds an empty pair of braces, and which ends with a
brace that stays open. -/
def bracedTemplate : Template :=
  ⟨"/a{}/{x}{y}\x7bz".toList, by decide⟩

/-- A template of which all braces are literal text. -/
def constantTemplate : Template :=
  ⟨"/a{}/\x7bz".toList, by decide⟩

theorem opening_language_braces :
    (bracedTemplate.names ≠ [] ∧
        IsLongestStart (fun uri => bracedTemplate.match? uri ≠ none)
          "/a{}/".toList) ∧
      constantTemplate.names = [] ∧
        ∀ uri, constantTemplate.match? uri ≠ none ↔ uri = "/a{}/\x7bz".toList := by
  have varies : bracedTemplate.names ≠ [] := by decide
  have constant : constantTemplate.names = [] := by decide
  exact ⟨⟨varies, (opening_language bracedTemplate).1 varies⟩, constant,
    ((opening_language constantTemplate).2 constant).1⟩

end Template
end RequestKey
