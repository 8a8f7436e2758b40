import RequestKey.Proofs.Bindings.Reading
import RequestKey.Proofs.Template.Captures

/-!
# Texts to which a pattern applies

A pattern applies to a text when values in the places of its placeholders make up
the text.  A character of the pattern is then one of the text unless it stands in a
name, so a pattern with a mark applies to texts without the mark only by names that
hold it.

The main statement is that two patterns of which one holds a mark have the same
criteria for a text without the mark exactly when neither applies to the text.
-/

namespace RequestKey
namespace Template

namespace Segment

/-- The characters of literal text are those of the literal runs. -/
theorem mem_literalText_iff
    (char : Char)
    (segments : List Segment) :
    char ∈ literalText segments ↔
      ∃ text, .literal text ∈ segments ∧ char ∈ text := by
  induction segments with
  | nil => simp [literalText]
  | cons segment segments inductionHypothesis =>
      cases segment with
      | literal run => simp [literalText, inductionHypothesis, or_and_right, exists_or]
      | placeholder name => simp [literalText, inductionHypothesis]

/-- A character of a pattern other than a brace stands in literal text or in a
name. -/
theorem mem_literalText_or_exists_name
    {char : Char}
    (notBrace : char ∉ ['{', '}'])
    {pattern : Text}
    (inPattern : char ∈ pattern) :
    char ∈ literalText (ofPattern pattern) ∨
      ∃ name, .placeholder name ∈ ofPattern pattern ∧ char ∈ name := by
  obtain ⟨segment, member, inside⟩ := (mem_pattern_iff char pattern).mp inPattern
  cases segment with
  | literal text =>
      exact Or.inl ((mem_literalText_iff char _).mpr ⟨text, member, inside⟩)
  | placeholder name =>
      refine Or.inr ⟨name, member, ?_⟩
      simp only [List.mem_cons, List.not_mem_nil, or_false, not_or] at notBrace
      simpa [render, notBrace] using inside

/-- Literal text holds only characters of the pattern. -/
theorem not_mem_literalText
    {char : Char}
    {pattern : Text}
    (absent : char ∉ pattern) :
    char ∉ literalText (ofPattern pattern) := by
  rw [mem_literalText_iff]
  rintro ⟨text, member, inside⟩
  exact absent ((mem_pattern_iff char pattern).mpr ⟨.literal text, member, inside⟩)

end Segment

/-- Some values in the places of the placeholders of a pattern make up a text. -/
def Applies (pattern text : Text) : Prop :=
  ∃ values, Segment.IsSplit (Segment.ofPattern pattern) values text

instance (pattern text : Text) : Decidable (Applies pattern text) :=
  decidable_of_iff
    (Segment.assignment? (Segment.ofPattern pattern) text ≠ none)
    (by rw [Ne, Segment.assignment?_eq_none_iff, Classical.not_not, Applies])

/-- A template matches the texts to which its pattern applies. -/
theorem match?_eq_none_iff (template : Template) (text : Text) :
    template.match? text = none ↔ ¬Applies template.pattern text := by
  rw [match?, Option.map_eq_none_iff, Segment.assignment?_eq_none_iff]
  rfl

/-- A pattern without a mark applies to a text without it. -/
theorem exists_applies
    {mark : Char}
    (notFiller : mark ≠ 'a')
    {pattern : Text}
    (absent : mark ∉ pattern) :
    ∃ text, Applies pattern text ∧ mark ∉ text := by
  -- The letter stands in the place of every placeholder.
  have notNewline : 'a' ≠ '\n' := by decide
  obtain ⟨text, split⟩ :=
    Segment.exists_isSplit_replicate notNewline (Segment.ofPattern pattern)
  refine ⟨text, ⟨_, split⟩, ?_⟩
  rw [Segment.mem_iff_of_fill?_eq split.filled]
  rintro (inLiteral | ⟨value, member, inside⟩)
  · exact Segment.not_mem_literalText absent inLiteral
  · rw [List.eq_of_mem_replicate member, List.mem_singleton] at inside
    exact notFiller inside

/-- A pattern with a mark applies to a text without the mark only if a name holds
it. -/
theorem exists_mem_names_of_applies
    {mark : Char}
    (notBrace : mark ∉ ['{', '}'])
    {template : Template}
    (inPattern : mark ∈ template.pattern)
    {text : Text}
    (absent : mark ∉ text)
    (applies : Applies template.pattern text) :
    ∃ name ∈ template.names, mark ∈ name := by
  obtain ⟨values, _, filled⟩ := applies
  have notLiteral : mark ∉
      Segment.literalText (Segment.ofPattern template.pattern) := fun inLiteral =>
    absent ((Segment.mem_iff_of_fill?_eq filled mark).mpr (Or.inl inLiteral))
  obtain ⟨name, isPlaceholder, inside⟩ :=
    (Segment.mem_literalText_or_exists_name notBrace inPattern).resolve_left
      notLiteral
  exact ⟨name, (mem_names_iff template name).mpr isPlaceholder, inside⟩

/-! ## Criteria of matches -/

/-- What a template writes of a text. -/
def key (template : Template) (text : Text) : Text :=
  ((template.match? text).getD Bindings.empty).criteria pathMarker

/-- Nothing is written where a pattern does not apply. -/
theorem key_eq_nil_of_not_applies
    {template : Template}
    {text : Text}
    (apart : ¬Applies template.pattern text) :
    template.key text = [] := by
  rw [key, (match?_eq_none_iff template text).mpr apart]
  rfl

/-- A match and its names, where a pattern applies. -/
theorem exists_key_eq_of_applies
    {template : Template}
    {text : Text}
    (applies : Applies template.pattern text) :
    ∃ bindings : Bindings, template.key text = bindings.criteria pathMarker ∧
      ∀ name, name ∈ bindings.names ↔ name ∈ template.names := by
  obtain ⟨bindings, matched⟩ := Option.ne_none_iff_exists'.mp
    fun none => (match?_eq_none_iff template text).mp none applies
  refine ⟨bindings, ?_, mem_names_of_match?_eq_some matched⟩
  rw [key, matched]
  rfl

/-- A template with placeholders writes something exactly where its pattern
applies. -/
theorem key_eq_nil_iff
    {template : Template}
    (varies : template.names ≠ [])
    (text : Text) :
    template.key text = [] ↔ ¬Applies template.pattern text := by
  refine ⟨fun nothing applies => ?_, key_eq_nil_of_not_applies⟩
  obtain ⟨bindings, written, sameNames⟩ := exists_key_eq_of_applies applies
  rw [written, Bindings.criteria_eq_nil_iff] at nothing
  obtain ⟨name, member⟩ := List.exists_mem_of_ne_nil _ varies
  rw [← sameNames, nothing] at member
  exact List.not_mem_nil member

/-- Of a text without a mark, a template with placeholders and without the mark
writes the same as a template with the mark exactly when neither applies. -/
theorem key_eq_key_iff
    {mark : Char}
    (notWritten : mark ∉ ['/', '='])
    (notBrace : mark ∉ ['{', '}'])
    {plain marked : Template}
    (varies : plain.names ≠ [])
    (isPlain : mark ∉ plain.pattern)
    (isMarked : mark ∈ marked.pattern)
    {text : Text}
    (absent : mark ∉ text) :
    plain.key text = marked.key text ↔
      ¬Applies plain.pattern text ∧ ¬Applies marked.pattern text := by
  constructor
  · intro equal
    have markedApart : ¬Applies marked.pattern text := by
      intro applies
      obtain ⟨name, isName, inside⟩ :=
        exists_mem_names_of_applies notBrace isMarked absent applies
      obtain ⟨bindings, written, sameNames⟩ := exists_key_eq_of_applies applies
      have shown := Bindings.mem_criteria_of_mem_names
        ((sameNames name).mpr isName) inside pathMarker
      rw [← written, ← equal] at shown
      exact not_mem_match?_criteria notWritten isPlain absent shown
    rw [key_eq_nil_of_not_applies markedApart] at equal
    exact ⟨(key_eq_nil_iff varies text).mp equal, markedApart⟩
  · rintro ⟨plainApart, markedApart⟩
    rw [key_eq_nil_of_not_applies plainApart, key_eq_nil_of_not_applies markedApart]

end Template
end RequestKey
