import RequestKey.Text.Basic

/-!
# Cuts at a doubled mark

Two equal marks side by side separate larger parts of a text, where a single
mark is an ordinary character.  Marks are paired from the left, so of three in a
row the first two separate and the third belongs to what follows.

The main statements say that no piece holds a doubled mark, and that a doubled
mark after another character separates what stands on its two sides.
-/

namespace RequestKey
namespace Text

/-- The pieces of a text between its doubled marks.  There is always at least
one piece. -/
def splitOnDoubled (mark : Char) : Text -> List Text
  | [] => [[]]
  | [char] => [[char]]
  | first :: second :: text =>
      if first = mark ∧ second = mark then
        [] :: splitOnDoubled mark text
      else
        (splitOnDoubled mark (second :: text)).modifyHead (first :: ·)

/-- The parts of a text before and after its first doubled mark.  A text without
one lies before it entirely. -/
def cutAtDoubled (mark : Char) : Text -> Text × Text
  | [] => ([], [])
  | [char] => ([char], [])
  | first :: second :: text =>
      if first = mark ∧ second = mark then
        ([], text)
      else
        let parts := cutAtDoubled mark (second :: text)
        (first :: parts.1, parts.2)

/-- A doubled mark separates; it belongs to no piece. -/
@[simp] theorem splitOnDoubled_mark_mark
    (mark : Char)
    (text : Text) :
    splitOnDoubled mark (mark :: mark :: text) =
      [] :: splitOnDoubled mark text := by
  simp [splitOnDoubled]

/-- A doubled mark at the start leaves nothing before it. -/
@[simp] theorem cutAtDoubled_mark_mark
    (mark : Char)
    (text : Text) :
    cutAtDoubled mark (mark :: mark :: text) = ([], text) := by
  simp [cutAtDoubled]

/-- A character that is not the mark belongs to the first piece. -/
theorem splitOnDoubled_cons_of_ne
    {mark char : Char}
    (different : char ≠ mark)
    (text : Text) :
    splitOnDoubled mark (char :: text) =
      (splitOnDoubled mark text).modifyHead (char :: ·) := by
  cases text with
  | nil => rfl
  | cons second text => simp [splitOnDoubled, different]

/-- A text has a first piece, and starts with it. -/
theorem exists_isPrefix_splitOnDoubled_eq_cons
    (mark : Char)
    (text : Text) :
    ∃ piece pieces, splitOnDoubled mark text = piece :: pieces ∧
      piece <+: text := by
  fun_induction splitOnDoubled mark text with
  | case1 => exact ⟨[], [], rfl, List.prefix_rfl⟩
  | case2 char => exact ⟨[char], [], rfl, List.prefix_rfl⟩
  | case3 first second text _ _ => exact ⟨[], _, rfl, List.nil_prefix⟩
  | case4 first second text _ inductionHypothesis =>
      obtain ⟨piece, pieces, split, starts⟩ := inductionHypothesis
      exact ⟨first :: piece, pieces, by rw [split]; rfl,
        (List.prefix_cons_inj first).mpr starts⟩

/-- A text without a doubled mark is one piece. -/
theorem splitOnDoubled_eq_singleton
    {mark : Char}
    {text : Text}
    (undoubled : ¬[mark, mark] <:+: text) :
    splitOnDoubled mark text = [text] := by
  fun_induction splitOnDoubled mark text with
  | case1 => rfl
  | case2 char => rfl
  | case3 first second text separates _ =>
      obtain ⟨rfl, rfl⟩ := separates
      exact absurd (List.prefix_append [_, _] text).isInfix undoubled
  | case4 first second text _ inductionHypothesis =>
      rw [inductionHypothesis fun inside => undoubled (List.infix_cons inside)]
      rfl

/-- No piece holds a doubled mark. -/
theorem not_isInfix_of_mem_splitOnDoubled
    {mark : Char}
    {text piece : Text}
    (member : piece ∈ splitOnDoubled mark text) :
    ¬[mark, mark] <:+: piece := by
  fun_induction splitOnDoubled mark text generalizing piece with
  | case1 => simp_all
  | case2 char => simp_all [List.infix_cons_iff]
  | case3 first second text _ inductionHypothesis =>
      rcases List.mem_cons.mp member with rfl | later
      · simp
      · exact inductionHypothesis later
  | case4 first second text notDoubled inductionHypothesis =>
      obtain ⟨head, tail, split, starts⟩ :=
        exists_isPrefix_splitOnDoubled_eq_cons mark (second :: text)
      rw [split] at member inductionHypothesis
      rcases List.mem_cons.mp member with rfl | inTail
      · intro inside
        rcases List.infix_cons_iff.mp inside with doubled | later
        · obtain ⟨isFirst, again⟩ := List.cons_prefix_cons.mp doubled
          obtain ⟨isSecond, _⟩ := List.cons_prefix_cons.mp (again.trans starts)
          exact notDoubled ⟨isFirst.symm, isSecond.symm⟩
        · exact inductionHypothesis List.mem_cons_self later
      · exact inductionHypothesis (List.mem_cons_of_mem _ inTail)

/-- A piece stands in the text as it is. -/
theorem isInfix_of_mem_splitOnDoubled
    {mark : Char}
    {text piece : Text}
    (member : piece ∈ splitOnDoubled mark text) :
    piece <:+: text := by
  fun_induction splitOnDoubled mark text generalizing piece with
  | case1 =>
      obtain rfl := List.mem_singleton.mp member
      exact List.infix_rfl
  | case2 char =>
      obtain rfl := List.mem_singleton.mp member
      exact List.infix_rfl
  | case3 first second text _ inductionHypothesis =>
      rcases List.mem_cons.mp member with rfl | later
      · exact List.nil_infix
      · exact List.infix_cons (List.infix_cons (inductionHypothesis later))
  | case4 first second text _ inductionHypothesis =>
      obtain ⟨head, tail, split, starts⟩ :=
        exists_isPrefix_splitOnDoubled_eq_cons mark (second :: text)
      rw [split] at member inductionHypothesis
      rcases List.mem_cons.mp member with rfl | inTail
      · exact ((List.prefix_cons_inj first).mpr starts).isInfix
      · exact List.infix_cons (inductionHypothesis (List.mem_cons_of_mem _ inTail))

/-- A doubled mark after another character separates what stands before it from
what follows. -/
theorem splitOnDoubled_append_mark_mark
    {mark char : Char}
    (different : char ≠ mark)
    (left right : Text) :
    splitOnDoubled mark (left ++ char :: mark :: mark :: right) =
      splitOnDoubled mark (left ++ [char]) ++ splitOnDoubled mark right := by
  fun_induction splitOnDoubled mark left with
  | case1 => simp [splitOnDoubled, different]
  | case2 first => simp [splitOnDoubled, different]
  | case3 first second text separates inductionHypothesis =>
      obtain ⟨rfl, rfl⟩ := separates
      simp [inductionHypothesis]
  | case4 first second text notDoubled inductionHypothesis =>
      obtain ⟨piece, pieces, split, _⟩ :=
        exists_isPrefix_splitOnDoubled_eq_cons mark (second :: text ++ [char])
      rw [split] at inductionHypothesis
      simp only [List.cons_append] at split inductionHypothesis
      simp only [List.cons_append, splitOnDoubled, notDoubled, if_false]
      rw [inductionHypothesis, split]
      rfl

/-- A character at the end that is not the mark belongs to the last piece. -/
theorem exists_splitOnDoubled_append_singleton
    {mark char : Char}
    (different : char ≠ mark)
    (text : Text) :
    ∃ pieces last, splitOnDoubled mark text = pieces ++ [last] ∧
      splitOnDoubled mark (text ++ [char]) = pieces ++ [last ++ [char]] := by
  fun_induction splitOnDoubled mark text with
  | case1 => exact ⟨[], [], rfl, rfl⟩
  | case2 first => exact ⟨[], [first], rfl, by simp [splitOnDoubled, different]⟩
  | case3 first second text separates inductionHypothesis =>
      obtain ⟨rfl, rfl⟩ := separates
      obtain ⟨pieces, last, split, appended⟩ := inductionHypothesis
      exact ⟨[] :: pieces, last, by simp [split], by simp [appended]⟩
  | case4 first second text notDoubled inductionHypothesis =>
      obtain ⟨pieces, last, split, appended⟩ := inductionHypothesis
      simp only [List.cons_append] at split appended ⊢
      simp only [splitOnDoubled, notDoubled, if_false]
      rw [split, appended]
      cases pieces with
      | nil => exact ⟨[], first :: last, rfl, rfl⟩
      | cons piece pieces => exact ⟨(first :: piece) :: pieces, last, rfl, rfl⟩

/-- A character that is not the mark lies before the first doubled mark. -/
theorem cutAtDoubled_cons_of_ne
    {mark char : Char}
    (different : char ≠ mark)
    (text : Text) :
    cutAtDoubled mark (char :: text) =
      (char :: (cutAtDoubled mark text).1, (cutAtDoubled mark text).2) := by
  cases text with
  | nil => rfl
  | cons second text => simp [cutAtDoubled, different]

/-- A text is cut at its first doubled mark, if no mark stands before that. -/
theorem cutAtDoubled_append_mark_mark
    {mark : Char}
    {left : Text}
    (absent : mark ∉ left)
    (right : Text) :
    cutAtDoubled mark (left ++ mark :: mark :: right) = (left, right) := by
  induction left with
  | nil => simp
  | cons char left inductionHypothesis =>
      simp only [List.mem_cons, not_or] at absent
      rw [List.cons_append, cutAtDoubled_cons_of_ne (Ne.symm absent.1),
        inductionHypothesis absent.2]

end Text
end RequestKey
