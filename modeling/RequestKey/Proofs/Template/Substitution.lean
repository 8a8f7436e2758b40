import RequestKey.Proofs.Template.GreedySplit
import RequestKey.Template.Criteria

/-!
# Substituting values into a template

A URI is built from a template by values in the places of its placeholders.  If
the literal text between any two consecutive placeholders holds a separator that
no value holds, the URI has no other split: the separators in the literal runs
are all the separators of the URI, so every split avoids them in its values, and
the first one after a value shows where the value ends.

The main statement says that matching such a URI gives the values back, and that
templates which name the same values in different orders give the same criteria.
-/

namespace RequestKey
namespace Template
namespace Segment

/-! ## Separated placeholders -/

/-- In front of the next placeholder there is a literal run with the separator. -/
def SeparatorFirst (separator : Char) (segments : List Segment) : Prop :=
  ∀ between next rest, segments = between ++ .placeholder next :: rest ->
    names between = [] -> ∃ text, .literal text ∈ between ∧ separator ∈ text

/-- Any two consecutive placeholders have between them a literal run with the
separator. -/
def SeparatedBy (separator : Char) (segments : List Segment) : Prop :=
  ∀ start name rest, segments = start ++ .placeholder name :: rest ->
    SeparatorFirst separator rest

@[simp] theorem separatorFirst_nil (separator : Char) :
    SeparatorFirst separator [] := by
  intro between next rest equal
  simp at equal

@[simp] theorem not_separatorFirst_placeholder
    (separator : Char)
    (name : Text)
    (segments : List Segment) :
    ¬SeparatorFirst separator (.placeholder name :: segments) := by
  intro first
  obtain ⟨text, member, _⟩ := first [] name segments rfl rfl
  simp at member

@[simp] theorem separatorFirst_literal_iff
    (separator : Char)
    (text : Text)
    (segments : List Segment) :
    SeparatorFirst separator (.literal text :: segments) ↔
      separator ∈ text ∨ SeparatorFirst separator segments := by
  constructor
  · intro first
    by_cases present : separator ∈ text
    · exact Or.inl present
    · right
      intro between next rest equal noNames
      obtain ⟨other, member, inOther⟩ := first (.literal text :: between) next
        rest (by rw [equal, List.cons_append]) noNames
      rcases List.mem_cons.mp member with same | later
      · exact absurd (Segment.literal.inj same ▸ inOther) present
      · exact ⟨other, later, inOther⟩
  · rintro inText between next rest equal noNames
    cases between with
    | nil => simp at equal
    | cons head between =>
        obtain ⟨rfl, tailEqual⟩ := List.cons.inj equal
        rcases inText with present | first
        · exact ⟨text, List.mem_cons_self, present⟩
        · obtain ⟨other, member, inOther⟩ :=
            first between next rest tailEqual noNames
          exact ⟨other, List.mem_cons_of_mem _ member, inOther⟩

@[simp] theorem separatedBy_nil (separator : Char) :
    SeparatedBy separator [] := by
  intro start name rest equal
  simp at equal

theorem SeparatedBy.tail
    {separator : Char}
    {segment : Segment}
    {segments : List Segment}
    (separated : SeparatedBy separator (segment :: segments)) :
    SeparatedBy separator segments := by
  intro start name rest equal
  exact separated (segment :: start) name rest
    (by rw [equal, List.cons_append])

@[simp] theorem separatedBy_literal_iff
    (separator : Char)
    (text : Text)
    (segments : List Segment) :
    SeparatedBy separator (.literal text :: segments) ↔
      SeparatedBy separator segments := by
  refine ⟨SeparatedBy.tail, ?_⟩
  intro separated start name rest equal
  cases start with
  | nil => simp at equal
  | cons head start => exact separated start name rest (List.cons.inj equal).2

@[simp] theorem separatedBy_placeholder_iff
    (separator : Char)
    (name : Text)
    (segments : List Segment) :
    SeparatedBy separator (.placeholder name :: segments) ↔
      SeparatorFirst separator segments ∧ SeparatedBy separator segments := by
  constructor
  · intro separated
    exact ⟨separated [] name segments rfl, separated.tail⟩
  · rintro ⟨first, separated⟩ start other rest equal
    cases start with
    | nil => exact (List.cons.inj equal).2 ▸ first
    | cons head start => exact separated start other rest (List.cons.inj equal).2

/-! ## Separators of a filled URI -/

/-- The literal text of segments. -/
def literalText : List Segment -> Text
  | [] => []
  | .literal text :: segments => text ++ literalText segments
  | .placeholder _ :: segments => literalText segments

/-- Every character of a filled URI comes from a literal run or from a value. -/
theorem count_fill?
    (char : Char)
    {segments : List Segment}
    {values : List Text}
    {uri : Text}
    (filled : fill? segments values = some uri) :
    uri.count char =
      (literalText segments).count char + values.flatten.count char := by
  induction segments generalizing values uri with
  | nil =>
      obtain ⟨rfl, rfl⟩ := (fill?_nil_eq_some_iff ..).mp filled
      rfl
  | cons segment segments inductionHypothesis =>
      cases segment with
      | literal text =>
          obtain ⟨rest, rfl, later⟩ := (fill?_literal_eq_some_iff ..).mp filled
          rw [literalText, List.count_append, List.count_append,
            inductionHypothesis later]
          omega
      | placeholder name =>
          obtain ⟨value, others, rest, rfl, rfl, later⟩ :=
            (fill?_placeholder_eq_some_iff ..).mp filled
          rw [literalText, List.flatten_cons, List.count_append,
            List.count_append, inductionHypothesis later]
          omega

/-- The characters of a filled URI are those of the literal runs and of the
values. -/
theorem mem_iff_of_fill?_eq
    {segments : List Segment}
    {values : List Text}
    {uri : Text}
    (filled : fill? segments values = some uri)
    (char : Char) :
    char ∈ uri ↔
      char ∈ literalText segments ∨ ∃ value ∈ values, char ∈ value := by
  rw [← List.mem_flatten, ← List.count_pos_iff, ← List.count_pos_iff,
    ← List.count_pos_iff, count_fill? char filled]
  omega

/-- If the values of one filling avoid a character, so do those of every filling
to the same URI. -/
theorem not_mem_of_fill?_eq
    {char : Char}
    {segments : List Segment}
    {values others : List Text}
    {uri : Text}
    (filled : fill? segments values = some uri)
    (free : ∀ value ∈ values, char ∉ value)
    (otherFilled : fill? segments others = some uri) :
    ∀ value ∈ others, char ∉ value := by
  have noneInValues : values.flatten.count char = 0 := by
    rw [List.count_eq_zero, List.mem_flatten]
    rintro ⟨value, member, present⟩
    exact free value member present
  have counted := count_fill? char filled
  have otherCounted := count_fill? char otherFilled
  have noneInOthers : others.flatten.count char = 0 := by omega
  rw [List.count_eq_zero, List.mem_flatten] at noneInOthers
  intro value member present
  exact noneInOthers ⟨value, member, present⟩

/-- Without placeholders there is only one text to fill. -/
theorem fill?_eq_of_names_eq_nil
    {segments : List Segment}
    (noNames : names segments = [])
    {values : List Text}
    {uri : Text}
    (filled : fill? segments values = some uri) :
    uri = literalText segments := by
  induction segments generalizing uri with
  | nil => exact ((fill?_nil_eq_some_iff ..).mp filled).2
  | cons segment segments inductionHypothesis =>
      cases segment with
      | literal text =>
          obtain ⟨rest, rfl, later⟩ := (fill?_literal_eq_some_iff ..).mp filled
          rw [literalText, inductionHypothesis noNames later]
      | placeholder name => simp at noNames

/-- Where a placeholder follows, the literal text in front of it fixes what
stands before the first separator, whatever the values are. -/
theorem SeparatorFirst.exists_lead
    {separator : Char}
    {segments : List Segment}
    (first : SeparatorFirst separator segments)
    (someName : names segments ≠ []) :
    ∃ lead, separator ∉ lead ∧
      ∀ values uri, fill? segments values = some uri ->
        ∃ rest, uri = lead ++ separator :: rest := by
  induction segments with
  | nil => exact absurd rfl someName
  | cons segment segments inductionHypothesis =>
      cases segment with
      | placeholder name =>
          exact absurd first (not_separatorFirst_placeholder _ _ _)
      | literal text =>
          by_cases present : separator ∈ text
          · refine ⟨text.before separator, Text.not_mem_before _ _, ?_⟩
            intro values uri filled
            obtain ⟨rest, rfl, _⟩ := (fill?_literal_eq_some_iff ..).mp filled
            refine ⟨text.after separator ++ rest, ?_⟩
            rw [← List.cons_append, ← List.append_assoc,
              Text.before_append_mark_append_after present]
          · have later : SeparatorFirst separator segments :=
              ((separatorFirst_literal_iff _ _ _).mp first).resolve_left present
            obtain ⟨lead, absent, leads⟩ := inductionHypothesis later someName
            refine ⟨text ++ lead, by simp [present, absent], ?_⟩
            intro values uri filled
            obtain ⟨filledRest, rfl, restFilled⟩ :=
              (fill?_literal_eq_some_iff ..).mp filled
            obtain ⟨rest, rfl⟩ := leads values filledRest restFilled
            exact ⟨rest, by rw [List.append_assoc]⟩

/-- Values in front of separated segments are told apart by the first separator
that follows them. -/
theorem value_eq_of_append_eq
    {separator : Char}
    {segments : List Segment}
    (first : SeparatorFirst separator segments)
    {value other : Text}
    (valueFree : separator ∉ value)
    (otherFree : separator ∉ other)
    {values others : List Text}
    {rest otherRest : Text}
    (filled : fill? segments values = some rest)
    (otherFilled : fill? segments others = some otherRest)
    (equal : value ++ rest = other ++ otherRest) :
    value = other := by
  by_cases noNames : names segments = []
  · have restEqual : rest = otherRest :=
      (fill?_eq_of_names_eq_nil noNames filled).trans
        (fill?_eq_of_names_eq_nil noNames otherFilled).symm
    rw [restEqual] at equal
    exact List.append_cancel_right equal
  · obtain ⟨lead, absent, leads⟩ := first.exists_lead noNames
    obtain ⟨later, rfl⟩ := leads values rest filled
    obtain ⟨otherLater, rfl⟩ := leads others otherRest otherFilled
    rw [← List.append_assoc, ← List.append_assoc] at equal
    have starts := congrArg (Text.before separator) equal
    rw [Text.before_append_mark (by simp [valueFree, absent]),
      Text.before_append_mark (by simp [otherFree, absent])] at starts
    exact List.append_cancel_right starts

/-- Separated placeholders have only one filling to a URI by values without the
separator. -/
theorem SeparatedBy.values_eq
    {separator : Char}
    {segments : List Segment}
    (separated : SeparatedBy separator segments)
    {values others : List Text}
    (valuesFree : ∀ value ∈ values, separator ∉ value)
    (othersFree : ∀ value ∈ others, separator ∉ value)
    {uri : Text}
    (filled : fill? segments values = some uri)
    (otherFilled : fill? segments others = some uri) :
    values = others := by
  induction segments generalizing values others uri with
  | nil =>
      have none := ((fill?_nil_eq_some_iff ..).mp filled).1
      have otherNone := ((fill?_nil_eq_some_iff ..).mp otherFilled).1
      rw [none, otherNone]
  | cons segment segments inductionHypothesis =>
      cases segment with
      | literal text =>
          obtain ⟨rest, rfl, restFilled⟩ :=
            (fill?_literal_eq_some_iff ..).mp filled
          obtain ⟨otherRest, equal, otherRestFilled⟩ :=
            (fill?_literal_eq_some_iff ..).mp otherFilled
          rw [← List.append_cancel_left equal] at otherRestFilled
          exact inductionHypothesis separated.tail valuesFree othersFree
            restFilled otherRestFilled
      | placeholder name =>
          obtain ⟨value, values, rest, rfl, rfl, restFilled⟩ :=
            (fill?_placeholder_eq_some_iff ..).mp filled
          obtain ⟨other, others, otherRest, rfl, equal, otherRestFilled⟩ :=
            (fill?_placeholder_eq_some_iff ..).mp otherFilled
          obtain ⟨valueFree, laterFree⟩ := List.forall_mem_cons.mp valuesFree
          obtain ⟨otherFree, otherLaterFree⟩ :=
            List.forall_mem_cons.mp othersFree
          obtain ⟨first, later⟩ :=
            (separatedBy_placeholder_iff _ _ _).mp separated
          have same : value = other := value_eq_of_append_eq first valueFree
            otherFree restFilled otherRestFilled equal
          rw [same] at equal ⊢
          rw [← List.append_cancel_left equal] at otherRestFilled
          rw [inductionHypothesis later laterFree otherLaterFree restFilled
            otherRestFilled]

/-- The assignment gives separated values back. -/
theorem SeparatedBy.assignment?_eq_some
    {separator : Char}
    {segments : List Segment}
    (separated : SeparatedBy separator segments)
    {values : List Text}
    {uri : Text}
    (split : IsSplit segments values uri)
    (free : ∀ value ∈ values, separator ∉ value) :
    assignment? segments uri = some values := by
  rw [assignment?_eq_some_iff]
  refine ⟨split, ?_⟩
  intro others otherSplit different
  have othersFree := not_mem_of_fill?_eq split.filled free otherSplit.filled
  have same := separated.values_eq free othersFree split.filled
    otherSplit.filled
  exact absurd same.symm different

end Segment

/-! ## Criteria of a substituted template -/

/-- One value for each placeholder of a template, and a separator that stands
between the placeholders and not in the values. -/
structure SetsApart
    (template : Template)
    (separator : Char)
    (values : List Text) : Prop where
  /-- Consecutive placeholders have the separator between them. -/
  separated : Segment.SeparatedBy separator template.segments
  /-- There is one value for each placeholder. -/
  length_eq : values.length = template.names.length
  /-- The values may stand in the places of placeholders. -/
  isValue : ∀ value ∈ values, IsValue value
  /-- The values do not hold the separator. -/
  free : ∀ value ∈ values, separator ∉ value

/-- Values that a template is filled with come back from the URI, and its
criteria write them by name. -/
theorem criteriaOf_of_assignment?_eq_some
    {template : Template}
    {uri : Text}
    {values : List Text}
    (assigned : Segment.assignment? template.segments uri = some values) :
    template.match? uri =
        some (Bindings.ofPairs (template.names.zip values)) ∧
      criteriaOf template.pattern uri = pure
        ((Bindings.ofPairs (template.names.zip values)).criteria
          pathMarker) := by
  have matched : template.match? uri =
      some (Bindings.ofPairs (template.names.zip values)) := by
    unfold match?
    rw [assigned, Option.map_some]
  refine ⟨matched, ?_⟩
  rw [criteriaOf_pattern]
  unfold criteria
  rw [matched]

/-- A template can be filled with separated values, and only they come back. -/
theorem SetsApart.exists_assignment?
    {template : Template}
    {separator : Char}
    {values : List Text}
    (apart : template.SetsApart separator values) :
    ∃ uri, Segment.fill? template.segments values = some uri ∧
      Segment.assignment? template.segments uri = some values := by
  obtain ⟨uri, filled⟩ :=
    (Segment.exists_fill?_iff template.segments values).mpr apart.length_eq
  have split : Segment.IsSplit template.segments values uri :=
    ⟨apart.isValue, filled⟩
  exact ⟨uri, filled, apart.separated.assignment?_eq_some split apart.free⟩

/-- A URI built from a template and separated values gives every placeholder its
value back, and its criteria write the values by name.  Where no name repeats,
another template that gives the same names the same values builds a URI with the
same criteria. -/
theorem criteriaOf_fill?
    {template : Template}
    {separator : Char}
    {values : List Text}
    (apart : template.SetsApart separator values) :
    ∃ uri, Segment.fill? template.segments values = some uri ∧
      Segment.assignment? template.segments uri = some values ∧
      template.match? uri =
        some (Bindings.ofPairs (template.names.zip values)) ∧
      criteriaOf template.pattern uri = pure
        ((Bindings.ofPairs (template.names.zip values)).criteria pathMarker) ∧
      (template.names.Nodup ->
        ∀ (other : Template) (otherSeparator : Char) (otherValues : List Text),
          other.SetsApart otherSeparator otherValues ->
          (template.names.zip values).Perm (other.names.zip otherValues) ->
          ∃ otherUri,
            Segment.fill? other.segments otherValues = some otherUri ∧
            criteriaOf other.pattern otherUri =
              criteriaOf template.pattern uri) := by
  obtain ⟨uri, filled, assigned⟩ := apart.exists_assignment?
  obtain ⟨matched, criteriaEqual⟩ := criteriaOf_of_assignment?_eq_some assigned
  refine ⟨uri, filled, assigned, matched, criteriaEqual, ?_⟩
  intro distinct other otherSeparator otherValues otherApart reordered
  obtain ⟨otherUri, otherFilled, otherAssigned⟩ :=
    otherApart.exists_assignment?
  have otherCriteriaEqual :=
    (criteriaOf_of_assignment?_eq_some otherAssigned).2
  have namesOfPairs :
      (template.names.zip values).map Prod.fst = template.names :=
    List.map_fst_zip (Nat.le_of_eq apart.length_eq.symm)
  have sameBindings := Bindings.ofPairs_eq_of_perm reordered
    (by rwa [namesOfPairs])
  refine ⟨otherUri, otherFilled, ?_⟩
  rw [criteriaEqual, otherCriteriaEqual, sameBindings]

/-- Two placeholders, each after a literal run. -/
def twoPlaceholders (opening first between second : String) : List Segment :=
  [.literal opening.toList, .placeholder first.toList, .literal between.toList,
    .placeholder second.toList]

theorem criteriaOf_fill?_twoPlaceholders :
    ∃ uri otherUri,
      Segment.fill? (twoPlaceholders "/a/" "y" "/" "x")
          ["20".toList, "10".toList] = some uri ∧
        Segment.fill? (twoPlaceholders "/b-" "x" "-" "y")
          ["10".toList, "20".toList] = some otherUri ∧
        criteriaOf (Segment.renderAll (twoPlaceholders "/a/" "y" "/" "x")) uri =
          pure "/x=10/y=20".toList ∧
        criteriaOf (Segment.renderAll (twoPlaceholders "/b-" "x" "-" "y"))
          otherUri = pure "/x=10/y=20".toList := by
  let template : Template :=
    ⟨Segment.renderAll (twoPlaceholders "/a/" "y" "/" "x"), by decide⟩
  let other : Template :=
    ⟨Segment.renderAll (twoPlaceholders "/b-" "x" "-" "y"), by decide⟩
  have apart : template.SetsApart '/' ["20".toList, "10".toList] := by
    refine ⟨?_, rfl, by decide, by decide⟩
    change Segment.SeparatedBy '/' (twoPlaceholders "/a/" "y" "/" "x")
    simp [twoPlaceholders]
  have otherApart : other.SetsApart '-' ["10".toList, "20".toList] := by
    refine ⟨?_, rfl, by decide, by decide⟩
    change Segment.SeparatedBy '-' (twoPlaceholders "/b-" "x" "-" "y")
    simp [twoPlaceholders]
  obtain ⟨uri, filled, _, _, criteriaEqual, reordered⟩ := criteriaOf_fill? apart
  obtain ⟨otherUri, otherFilled, sameCriteria⟩ :=
    reordered (by decide) other '-' _ otherApart (by decide)
  refine ⟨uri, otherUri, filled, otherFilled, criteriaEqual, ?_⟩
  exact sameCriteria.trans criteriaEqual

end Template
end RequestKey
