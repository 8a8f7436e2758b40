import RequestKey.Template.Basic

/-!
# Splits of a URI along the segments of a template

A split chooses one value for every placeholder such that the literal runs and
the values, written one after another, are the URI.  Each placeholder captures its
name with its value.  The splits along a segment list are described by its first
segment, and the splits at a leading placeholder by the first character of the URI.
-/

namespace RequestKey
namespace Template
namespace Segment

/-! ## Filling segments -/

theorem fill?_nil_eq_some_iff (values : List Text) (uri : Text) :
    fill? [] values = some uri ↔ values = [] ∧ uri = [] := by
  cases values with
  | nil => simp [fill?, eq_comm]
  | cons value values => simp [fill?]

theorem fill?_literal_eq_some_iff
    (text : Text)
    (segments : List Segment)
    (values : List Text)
    (uri : Text) :
    fill? (.literal text :: segments) values = some uri ↔
      ∃ rest, uri = text ++ rest ∧ fill? segments values = some rest := by
  rw [fill?, Option.map_eq_some_iff]
  constructor
  · rintro ⟨rest, filled, equal⟩
    exact ⟨rest, equal.symm, filled⟩
  · rintro ⟨rest, equal, filled⟩
    exact ⟨rest, filled, equal.symm⟩

theorem fill?_placeholder_eq_some_iff
    (name : Text)
    (segments : List Segment)
    (values : List Text)
    (uri : Text) :
    fill? (.placeholder name :: segments) values = some uri ↔
      ∃ value others rest, values = value :: others ∧ uri = value ++ rest ∧
        fill? segments others = some rest := by
  cases values with
  | nil => simp [fill?]
  | cons value values =>
      rw [fill?, Option.map_eq_some_iff]
      constructor
      · rintro ⟨rest, filled, equal⟩
        exact ⟨value, values, rest, rfl, equal.symm, filled⟩
      · rintro ⟨_, _, rest, ⟨rfl, rfl⟩, equal, filled⟩
        exact ⟨rest, filled, equal.symm⟩

/-- Segments can be filled exactly by one value for each placeholder. -/
theorem exists_fill?_iff
    (segments : List Segment)
    (values : List Text) :
    (∃ uri, fill? segments values = some uri) ↔
      values.length = (names segments).length := by
  induction segments generalizing values with
  | nil => simp [fill?_nil_eq_some_iff]
  | cons segment segments inductionHypothesis =>
      cases segment with
      | literal text =>
          rw [names_literal, ← inductionHypothesis values]
          simp only [fill?_literal_eq_some_iff]
          constructor
          · rintro ⟨_, rest, _, filled⟩
            exact ⟨rest, filled⟩
          · rintro ⟨rest, filled⟩
            exact ⟨text ++ rest, rest, rfl, filled⟩
      | placeholder name =>
          simp only [fill?_placeholder_eq_some_iff, names_placeholder,
            List.length_cons]
          constructor
          · rintro ⟨_, value, others, rest, rfl, _, filled⟩
            have enough := (inductionHypothesis others).mp ⟨rest, filled⟩
            rw [List.length_cons, enough]
          · intro enough
            cases values with
            | nil => simp at enough
            | cons value others =>
                have othersEnough := Nat.succ.inj enough
                obtain ⟨rest, filled⟩ :=
                  (inductionHypothesis others).mpr othersEnough
                exact ⟨value ++ rest, value, others, rest, rfl, rfl, filled⟩

/-- The names of the placeholders, in order, each with the value in its place. -/
inductive Captures : List Segment -> List Text -> List (Text × Text) -> Prop
  | nil : Captures [] [] []
  | literal
      {text : Text} {segments : List Segment}
      {values : List Text} {captured : List (Text × Text)}
      (later : Captures segments values captured) :
      Captures (.literal text :: segments) values captured
  | placeholder
      {name value : Text} {segments : List Segment}
      {values : List Text} {captured : List (Text × Text)}
      (later : Captures segments values captured) :
      Captures (.placeholder name :: segments) (value :: values)
        ((name, value) :: captured)

/-- Where there is one value for each placeholder, the names are captured with the
values in their order. -/
theorem captures_iff_of_length_eq
    {segments : List Segment}
    {values : List Text}
    (enough : values.length = (names segments).length)
    (captured : List (Text × Text)) :
    Captures segments values captured ↔ captured = (names segments).zip values := by
  constructor
  · intro captures
    clear enough
    induction captures with
    | nil => rfl
    | literal later inductionHypothesis => exact inductionHypothesis
    | placeholder later inductionHypothesis =>
        rw [names_placeholder, List.zip_cons_cons, inductionHypothesis]
  · rintro rfl
    induction segments generalizing values with
    | nil =>
        obtain rfl := List.length_eq_zero_iff.mp enough
        exact .nil
    | cons segment segments inductionHypothesis =>
        cases segment with
        | literal text => exact .literal (inductionHypothesis enough)
        | placeholder name =>
            cases values with
            | nil => simp at enough
            | cons value values =>
                exact .placeholder (inductionHypothesis (Nat.succ.inj enough))

/-! ## Splits -/

/-- The values, one for each placeholder, fill the segments to the URI. -/
structure IsSplit
    (segments : List Segment)
    (values : List Text)
    (uri : Text) : Prop where
  /-- Every value may stand in the place of a placeholder. -/
  isValue : ∀ value ∈ values, IsValue value
  /-- The literal text and the values in segment order are the URI. -/
  filled : fill? segments values = some uri

/-- A split has one value for each placeholder. -/
theorem IsSplit.length_eq
    {segments : List Segment}
    {values : List Text}
    {uri : Text}
    (split : IsSplit segments values uri) :
    values.length = (names segments).length :=
  (exists_fill?_iff segments values).mp ⟨uri, split.filled⟩

theorem isSplit_nil_iff (values : List Text) (uri : Text) :
    IsSplit [] values uri ↔ values = [] ∧ uri = [] := by
  rw [← fill?_nil_eq_some_iff]
  refine ⟨IsSplit.filled, ?_⟩
  intro filled
  obtain ⟨rfl, _⟩ := (fill?_nil_eq_some_iff values uri).mp filled
  exact ⟨by simp, filled⟩

theorem isSplit_literal_iff
    (text : Text)
    (segments : List Segment)
    (values : List Text)
    (uri : Text) :
    IsSplit (.literal text :: segments) values uri ↔
      ∃ rest, uri = text ++ rest ∧ IsSplit segments values rest := by
  constructor
  · rintro ⟨isValue, filled⟩
    obtain ⟨rest, equal, filled⟩ := (fill?_literal_eq_some_iff ..).mp filled
    exact ⟨rest, equal, isValue, filled⟩
  · rintro ⟨rest, equal, isValue, filled⟩
    refine ⟨isValue, ?_⟩
    exact (fill?_literal_eq_some_iff ..).mpr ⟨rest, equal, filled⟩

theorem isSplit_placeholder_iff
    (name : Text)
    (segments : List Segment)
    (values : List Text)
    (uri : Text) :
    IsSplit (.placeholder name :: segments) values uri ↔
      ∃ value others rest, values = value :: others ∧ uri = value ++ rest ∧
        IsValue value ∧ IsSplit segments others rest := by
  constructor
  · rintro ⟨isValue, filled⟩
    obtain ⟨value, others, rest, rfl, equal, filled⟩ :=
      (fill?_placeholder_eq_some_iff ..).mp filled
    obtain ⟨first, later⟩ := List.forall_mem_cons.mp isValue
    exact ⟨value, others, rest, rfl, equal, first, later, filled⟩
  · rintro ⟨value, others, rest, rfl, equal, first, later, filled⟩
    refine ⟨List.forall_mem_cons.mpr ⟨first, later⟩, ?_⟩
    exact (fill?_placeholder_eq_some_iff ..).mpr
      ⟨value, others, rest, rfl, equal, filled⟩

/-- Segments have a split in which every value is the same character. -/
theorem exists_isSplit_replicate
    {char : Char}
    (notNewline : char ≠ '\n')
    (segments : List Segment) :
    ∃ uri, IsSplit segments
      (List.replicate (names segments).length [char]) uri := by
  obtain ⟨uri, filled⟩ := (exists_fill?_iff segments _).mpr
    (List.length_replicate (n := (names segments).length) (a := [char]))
  refine ⟨uri, fun value member => ?_, filled⟩
  rw [List.eq_of_mem_replicate member]
  exact ⟨List.cons_ne_nil char [], by simpa using Ne.symm notNewline⟩

/-- A placeholder has no value in the empty text. -/
theorem not_isSplit_placeholder_nil
    (name : Text)
    (segments : List Segment)
    (values : List Text) :
    ¬IsSplit (.placeholder name :: segments) values [] := by
  rw [isSplit_placeholder_iff]
  rintro ⟨value, others, rest, _, equal, proper, _⟩
  exact proper.1 (List.append_eq_nil_iff.mp equal.symm).1

/-- The first character of a URI belongs to the value of a leading placeholder.
Either it is the whole value, or the value without it still begins a split of
what follows. -/
theorem isSplit_placeholder_cons_iff
    (name : Text)
    (segments : List Segment)
    (values : List Text)
    (char : Char)
    (uri : Text) :
    IsSplit (.placeholder name :: segments) values (char :: uri) ↔
      char ≠ '\n' ∧
        ((∃ others, values = [char] :: others ∧ IsSplit segments others uri) ∨
          ∃ value others, values = (char :: value) :: others ∧
            IsSplit (.placeholder name :: segments) (value :: others) uri) := by
  simp only [isSplit_placeholder_iff]
  constructor
  · rintro ⟨value, others, rest, rfl, equal, ⟨nonempty, noNewline⟩, split⟩
    cases value with
    | nil => exact absurd rfl nonempty
    | cons first value =>
        obtain ⟨rfl, rfl⟩ := List.cons.inj equal
        simp only [List.mem_cons, not_or] at noNewline
        refine ⟨Ne.symm noNewline.1, ?_⟩
        by_cases single : value = []
        · subst single
          exact Or.inl ⟨others, rfl, split⟩
        · exact Or.inr ⟨value, others, rfl, value, others, rest, rfl, rfl,
            ⟨single, noNewline.2⟩, split⟩
  · rintro ⟨notNewline, ⟨others, rfl, split⟩ | ⟨value, others, rfl, longer⟩⟩
    · refine ⟨[char], others, uri, rfl, rfl, ⟨by simp, ?_⟩, split⟩
      simpa using Ne.symm notNewline
    · obtain ⟨_, _, rest, equal, rfl, ⟨_, noNewline⟩, split⟩ := longer
      obtain ⟨rfl, rfl⟩ := List.cons.inj equal
      refine ⟨char :: value, others, rest, rfl, rfl, ⟨by simp, ?_⟩, split⟩
      simp [Ne.symm notNewline, noNewline]

end Segment
end Template
end RequestKey
