import RequestKey.Bindings.Lookup
import RequestKey.Proofs.Bindings.LastValue
import RequestKey.Proofs.Template.Split

/-!
# The greedy split

Of all splits of a URI the greedy one gives the first placeholder the longest
value, then the second, and so on.  The tables of suffixes find it: every entry
is the assignment for its own suffix, so the assignments obey equations by the
first segment, and those equations keep the greedy split.

The main statement says that a template matches exactly the URIs that have a
split, and that a match takes its values from the greedy one.
-/

namespace RequestKey
namespace Template
namespace Segment

open SuffixTable

/-! ## Assignments by the first segment -/

/-- Extending a table by one segment again gives a table of the values at the
suffixes themselves. -/
theorem prependTo_ofText
    (segment : Segment)
    (valueAt : Text -> Option (List Text))
    (uri : Text) :
    prependTo segment (ofText valueAt uri) =
      ofText (fun suffix => (prependTo segment (ofText valueAt suffix)).value)
        uri := by
  cases segment with
  | literal text =>
      simp only [prependTo, extend_ofText, value_ofText]
  | placeholder name =>
      induction uri with
      | nil => rfl
      | cons char uri inductionHypothesis =>
          simp only [prependTo] at inductionHypothesis ⊢
          rw [ofText, ofText, ← inductionHypothesis]
          rfl

/-- Every entry of the computed table is the assignment for its suffix. -/
theorem foldr_prependTo_eq_ofText
    (segments : List Segment)
    (uri : Text) :
    segments.foldr prependTo (noSegments uri) =
      ofText (assignment? segments) uri := by
  induction segments generalizing uri with
  | nil =>
      have values : assignment? [] =
          fun suffix => if suffix = [] then some [] else none := by
        funext suffix
        rw [assignment?, List.foldr_nil, noSegments, value_ofText]
      rw [List.foldr_nil, noSegments, values]
  | cons segment segments inductionHypothesis =>
      have values : assignment? (segment :: segments) = fun suffix =>
          (prependTo segment (ofText (assignment? segments) suffix)).value := by
        funext suffix
        rw [assignment?, List.foldr_cons, inductionHypothesis]
      rw [List.foldr_cons, inductionHypothesis, prependTo_ofText, values]

theorem assignment?_cons
    (segment : Segment)
    (segments : List Segment)
    (uri : Text) :
    assignment? (segment :: segments) uri =
      (prependTo segment (ofText (assignment? segments) uri)).value := by
  rw [assignment?, List.foldr_cons, foldr_prependTo_eq_ofText]

theorem assignment?_nil (uri : Text) :
    assignment? [] uri = if uri = [] then some [] else none := by
  rw [assignment?, List.foldr_nil, noSegments, value_ofText]

/-- The value after a start is the one at what follows the start. -/
theorem valueAfter?_ofText_append
    (valueAt : Text -> Option α)
    (start rest : Text) :
    valueAfter? start (ofText valueAt (start ++ rest)) = valueAt rest := by
  induction start with
  | nil => simp [valueAfter?]
  | cons char start inductionHypothesis =>
      rw [List.cons_append, ofText, valueAfter?, if_pos rfl]
      exact inductionHypothesis

/-- There is a value after a start only where the text starts that way. -/
theorem isPrefix_of_valueAfter?_eq_some
    {valueAt : Text -> Option α}
    {start text : Text}
    {result : α}
    (found : valueAfter? start (ofText valueAt text) = some result) :
    start <+: text := by
  induction start generalizing text with
  | nil => exact List.nil_prefix
  | cons expected start inductionHypothesis =>
      cases text with
      | nil => simp [ofText, valueAfter?] at found
      | cons char text =>
          rw [ofText, valueAfter?] at found
          split at found
          · rename_i same
            rw [same]
            exact List.cons_prefix_cons.mpr ⟨rfl, inductionHypothesis found⟩
          · exact absurd found (by simp)

theorem assignment?_literal_append
    (text : Text)
    (segments : List Segment)
    (rest : Text) :
    assignment? (.literal text :: segments) (text ++ rest) =
      assignment? segments rest := by
  rw [assignment?_cons, prependTo, extend_ofText, value_ofText,
    valueAfter?_ofText_append]

theorem isPrefix_of_assignment?_literal_eq_some
    {text : Text}
    {segments : List Segment}
    {uri : Text}
    {values : List Text}
    (assigned : assignment? (.literal text :: segments) uri = some values) :
    text <+: uri := by
  rw [assignment?_cons, prependTo, extend_ofText, value_ofText] at assigned
  exact isPrefix_of_valueAfter?_eq_some assigned

theorem assignment?_placeholder_nil
    (name : Text)
    (segments : List Segment) :
    assignment? (.placeholder name :: segments) [] = none := by
  rw [assignment?_cons]
  rfl

/-- A leading placeholder takes the first character together with the value it
has in what follows, and only that character if it has none there. -/
theorem assignment?_placeholder_cons
    (name : Text)
    (segments : List Segment)
    (char : Char)
    (uri : Text) :
    assignment? (.placeholder name :: segments) (char :: uri) =
      if char = '\n' then none
      else
        match assignment? (.placeholder name :: segments) uri with
        | some values => some (values.modifyHead (char :: ·))
        | none => (assignment? segments uri).map ([char] :: ·) := by
  rw [assignment?_cons, assignment?_cons, ofText, ← value_ofText
    (assignment? segments) uri]
  rfl

/-! ## The greedy split -/

/-- The values on the left are shorter at the first place where the lengths
differ, or there are fewer of them. -/
def TakesLess (left right : List Text) : Prop :=
  List.Lex (· < ·) (left.map List.length) (right.map List.length)

theorem takesLess_cons_of_length_lt
    {left right : Text}
    (shorter : left.length < right.length)
    (lefts rights : List Text) :
    TakesLess (left :: lefts) (right :: rights) :=
  List.Lex.rel shorter

theorem TakesLess.cons
    {lefts rights : List Text}
    (less : TakesLess lefts rights)
    (value : Text) :
    TakesLess (value :: lefts) (value :: rights) :=
  List.Lex.cons less

/-- One more character in both first values leaves the comparison as it is. -/
theorem TakesLess.cons_char
    {left right : Text}
    {lefts rights : List Text}
    (less : TakesLess (left :: lefts) (right :: rights))
    (char : Char) :
    TakesLess ((char :: left) :: lefts) ((char :: right) :: rights) := by
  unfold TakesLess at less ⊢
  simp only [List.map_cons, List.length_cons, List.cons_lex_cons_iff] at less ⊢
  rcases less with shorter | ⟨same, less⟩
  · exact Or.inl (Nat.succ_lt_succ shorter)
  · exact Or.inr ⟨congrArg Nat.succ same, less⟩

/-- The split whose lengths of values are the greatest, the first placeholder
counting most. -/
structure IsGreedySplit
    (segments : List Segment)
    (values : List Text)
    (uri : Text) : Prop extends IsSplit segments values uri where
  /-- Every other split takes less. -/
  greatest : ∀ other, IsSplit segments other uri -> other ≠ values ->
    TakesLess other values

/-- There is at most one greedy split. -/
theorem IsGreedySplit.eq
    {segments : List Segment}
    {values others : List Text}
    {uri : Text}
    (greedy : IsGreedySplit segments values uri)
    (otherGreedy : IsGreedySplit segments others uri) :
    values = others := by
  by_cases same : values = others
  · exact same
  · have less := otherGreedy.greatest values greedy.toIsSplit same
    have more := greedy.greatest others otherGreedy.toIsSplit (Ne.symm same)
    have oneWay : ∀ left right : Nat, left < right -> ¬right < left := by omega
    exact absurd more (List.lex_asymm (oneWay _ _) less)

/-- What an assignment has to be: the greedy split, or none where there is no
split. -/
def Answers (segments : List Segment) (uri : Text) : Option (List Text) -> Prop
  | none => ∀ values, ¬IsSplit segments values uri
  | some values => IsGreedySplit segments values uri

theorem answers_nil (uri : Text) :
    Answers [] uri (assignment? [] uri) := by
  rw [assignment?_nil]
  by_cases empty : uri = []
  · rw [if_pos empty]
    refine ⟨(isSplit_nil_iff [] uri).mpr ⟨rfl, empty⟩, ?_⟩
    intro other split different
    exact absurd ((isSplit_nil_iff other uri).mp split).1 different
  · rw [if_neg empty]
    intro values split
    exact empty ((isSplit_nil_iff values uri).mp split).2

/-- Literal text in front of the URI changes no split. -/
theorem answers_literal_append
    {text : Text}
    {segments : List Segment}
    {rest : Text}
    {answer : Option (List Text)}
    (answers : Answers segments rest answer) :
    Answers (.literal text :: segments) (text ++ rest) answer := by
  have sameSplits : ∀ values,
      IsSplit (.literal text :: segments) values (text ++ rest) ↔
        IsSplit segments values rest := by
    intro values
    rw [isSplit_literal_iff]
    constructor
    · rintro ⟨other, equal, split⟩
      rwa [List.append_cancel_left equal]
    · intro split
      exact ⟨rest, rfl, split⟩
  cases answer with
  | none =>
      intro values split
      exact answers values ((sameSplits values).mp split)
  | some values =>
      refine ⟨(sameSplits values).mpr answers.toIsSplit, ?_⟩
      intro other split different
      exact answers.greatest other ((sameSplits other).mp split) different

/-- The longest value of a leading placeholder is found one character later. -/
theorem IsGreedySplit.cons_char
    {name : Text}
    {segments : List Segment}
    {value : Text}
    {others : List Text}
    {uri : Text}
    (greedy : IsGreedySplit (.placeholder name :: segments) (value :: others)
      uri)
    {char : Char}
    (notNewline : char ≠ '\n') :
    IsGreedySplit (.placeholder name :: segments) ((char :: value) :: others)
      (char :: uri) := by
  have nonempty : value ≠ [] := (greedy.isValue value (by simp)).1
  refine ⟨(isSplit_placeholder_cons_iff ..).mpr
    ⟨notNewline, Or.inr ⟨value, others, rfl, greedy.toIsSplit⟩⟩, ?_⟩
  intro other split different
  obtain ⟨_, ⟨rest, rfl, _⟩ | ⟨first, rest, rfl, longer⟩⟩ :=
    (isSplit_placeholder_cons_iff ..).mp split
  · apply takesLess_cons_of_length_lt
    have positive := List.length_pos_iff.mpr nonempty
    simp only [List.length_cons, List.length_nil]
    omega
  · have stillDifferent : first :: rest ≠ value :: others := by
      intro equal
      obtain ⟨rfl, rfl⟩ := List.cons.inj equal
      exact different rfl
    exact (greedy.greatest _ longer stillDifferent).cons_char char

/-- Where no longer value begins a split, the first character is the value. -/
theorem IsGreedySplit.cons_single
    {segments : List Segment}
    {others : List Text}
    {uri : Text}
    (greedy : IsGreedySplit segments others uri)
    {name : Text}
    (noLonger : ∀ values, ¬IsSplit (.placeholder name :: segments) values uri)
    {char : Char}
    (notNewline : char ≠ '\n') :
    IsGreedySplit (.placeholder name :: segments) ([char] :: others)
      (char :: uri) := by
  refine ⟨(isSplit_placeholder_cons_iff ..).mpr
    ⟨notNewline, Or.inl ⟨others, rfl, greedy.toIsSplit⟩⟩, ?_⟩
  intro other split different
  obtain ⟨_, ⟨rest, rfl, later⟩ | ⟨first, rest, rfl, longer⟩⟩ :=
    (isSplit_placeholder_cons_iff ..).mp split
  · have restDifferent : rest ≠ others := by
      intro equal
      exact different (by rw [equal])
    exact (greedy.greatest rest later restDifferent).cons [char]
  · exact absurd longer (noLonger _)

theorem answers_placeholder
    (name : Text)
    {segments : List Segment}
    (answers : ∀ uri, Answers segments uri (assignment? segments uri))
    (uri : Text) :
    Answers (.placeholder name :: segments) uri
      (assignment? (.placeholder name :: segments) uri) := by
  induction uri with
  | nil =>
      rw [assignment?_placeholder_nil]
      exact not_isSplit_placeholder_nil name segments
  | cons char uri inductionHypothesis =>
      rw [assignment?_placeholder_cons]
      by_cases newline : char = '\n'
      · rw [if_pos newline]
        intro values split
        exact ((isSplit_placeholder_cons_iff ..).mp split).1 newline
      · rw [if_neg newline]
        -- A longer value is preferred wherever one is found.
        cases longer : assignment? (.placeholder name :: segments) uri with
        | some values =>
            rw [longer] at inductionHypothesis
            obtain ⟨value, others, rest, rfl, _⟩ :=
              (isSplit_placeholder_iff ..).mp inductionHypothesis.toIsSplit
            exact inductionHypothesis.cons_char newline
        | none =>
            rw [longer] at inductionHypothesis
            have later := answers uri
            cases found : assignment? segments uri with
            | some others =>
                rw [found] at later
                exact later.cons_single inductionHypothesis newline
            | none =>
                rw [found] at later
                intro values split
                obtain ⟨_, ⟨others, _, short⟩ | ⟨value, others, _, long⟩⟩ :=
                  (isSplit_placeholder_cons_iff ..).mp split
                · exact later others short
                · exact inductionHypothesis _ long

/-- The assignment is the greedy split, and there is none only where there is no
split. -/
theorem answers_assignment?
    (segments : List Segment)
    (uri : Text) :
    Answers segments uri (assignment? segments uri) := by
  induction segments generalizing uri with
  | nil => exact answers_nil uri
  | cons segment segments inductionHypothesis =>
      cases segment with
      | placeholder name => exact answers_placeholder name inductionHypothesis uri
      | literal text =>
          by_cases starts : text <+: uri
          · obtain ⟨rest, rfl⟩ := starts
            rw [assignment?_literal_append]
            exact answers_literal_append (inductionHypothesis rest)
          · cases found : assignment? (.literal text :: segments) uri with
            | some values =>
                exact absurd (isPrefix_of_assignment?_literal_eq_some found) starts
            | none =>
                intro values split
                obtain ⟨rest, rfl, _⟩ := (isSplit_literal_iff ..).mp split
                exact starts (List.prefix_append text rest)

theorem assignment?_eq_none_iff
    (segments : List Segment)
    (uri : Text) :
    assignment? segments uri = none ↔
      ¬∃ values, IsSplit segments values uri := by
  rw [not_exists]
  have answers := answers_assignment? segments uri
  cases found : assignment? segments uri with
  | none =>
      rw [found] at answers
      exact iff_of_true rfl answers
  | some values =>
      rw [found] at answers
      refine iff_of_false (by simp) ?_
      intro noSplit
      exact noSplit values answers.toIsSplit

/-- The assignment is some values exactly when these are the greedy split. -/
theorem assignment?_eq_some_iff
    (segments : List Segment)
    (uri : Text)
    (values : List Text) :
    assignment? segments uri = some values ↔
      IsGreedySplit segments values uri := by
  have answers := answers_assignment? segments uri
  constructor
  · intro found
    rwa [found] at answers
  · intro greedy
    cases found : assignment? segments uri with
    | none =>
        rw [found] at answers
        exact absurd greedy.toIsSplit (answers values)
    | some others =>
        rw [found] at answers
        rw [IsGreedySplit.eq answers greedy]

end Segment

/-! ## Matching -/

/-- A template matches a URI exactly when some split of the URI exists.  The
match binds every name to the value that the greedy split gives its last
place, and no other name. -/
theorem match?_greedySplit (template : Template) (uri : Text) :
    (template.match? uri = none ↔
      ¬∃ values, Segment.IsSplit template.segments values uri) ∧
    ∀ bindings, template.match? uri = some bindings ↔
      ∃ values captured, Segment.IsGreedySplit template.segments values uri ∧
        Segment.Captures template.segments values captured ∧
        ∀ name value, bindings.value? name = some value ↔
          Bindings.IsLastValue captured name value := by
  unfold match?
  constructor
  · rw [Option.map_eq_none_iff, Segment.assignment?_eq_none_iff]
  · intro bindings
    simp only [Option.map_eq_some_iff, Segment.assignment?_eq_some_iff,
      ← Bindings.eq_ofPairs_iff]
    constructor
    · rintro ⟨values, greedy, rfl⟩
      have enough := greedy.toIsSplit.length_eq
      exact ⟨values, _, greedy,
        (Segment.captures_iff_of_length_eq enough _).mpr rfl, rfl⟩
    · rintro ⟨values, captured, greedy, captures, rfl⟩
      have enough := greedy.toIsSplit.length_eq
      obtain rfl := (Segment.captures_iff_of_length_eq enough captured).mp captures
      exact ⟨values, greedy, rfl⟩

end Template
end RequestKey
