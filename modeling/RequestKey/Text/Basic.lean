/-!
# Texts and their cuts

A text is a finite sequence of code points.  This module cuts a text at its
first or last occurrence of a mark and compares two texts from the left.

The main statements say that a cut at the first mark loses only that mark, that
nothing before it is a mark, that what stands before the last mark begins with what
stands before any other, and that the agreement of two texts is the longest text
that both start with.
-/

namespace RequestKey

/-- A sequence of code points. -/
abbrev Text := List Char

namespace Text

/-- The part of a text before the first occurrence of a mark, or all of the
text when the mark does not occur. -/
def before (mark : Char) (text : Text) : Text :=
  text.takeWhile fun char => char != mark

/-- The part of a text after the first occurrence of a mark, or nothing when
the mark does not occur. -/
def after (mark : Char) (text : Text) : Text :=
  (text.dropWhile fun char => char != mark).drop 1

/-- The part of a text before the last occurrence of a mark, or nothing when
the mark does not occur. -/
def beforeLast (mark : Char) (text : Text) : Text :=
  (after mark text.reverse).reverse

@[simp] theorem before_nil (mark : Char) : before mark [] = [] := rfl

@[simp] theorem after_nil (mark : Char) : after mark [] = [] := rfl

theorem before_cons
    (mark char : Char)
    (text : Text) :
    before mark (char :: text) =
      if char = mark then [] else char :: before mark text := by
  by_cases same : char = mark <;> simp [before, same]

theorem after_cons
    (mark char : Char)
    (text : Text) :
    after mark (char :: text) =
      if char = mark then text else after mark text := by
  by_cases same : char = mark <;> simp [after, same]

/-- The part before the first mark does not hold the mark. -/
theorem not_mem_before (mark : Char) (text : Text) :
    mark ∉ before mark text := by
  induction text with
  | nil => simp
  | cons char text inductionHypothesis =>
      by_cases same : char = mark
      · simp [before_cons, same]
      · simp [before_cons, same, Ne.symm same, inductionHypothesis]

/-- A text that holds the mark is the part before it, the mark, and the part
after it. -/
theorem before_append_mark_append_after
    {mark : Char}
    {text : Text}
    (present : mark ∈ text) :
    before mark text ++ mark :: after mark text = text := by
  induction text with
  | nil => simp at present
  | cons char text inductionHypothesis =>
      by_cases same : char = mark
      · simp [before_cons, after_cons, same]
      · have inTail : mark ∈ text := by
          simpa [Ne.symm same] using present
        simp [before_cons, after_cons, same, inductionHypothesis inTail]

/-- A text without the mark lies before it entirely. -/
theorem before_eq_self
    {mark : Char}
    {text : Text}
    (absent : mark ∉ text) :
    before mark text = text := by
  induction text with
  | nil => rfl
  | cons char text inductionHypothesis =>
      simp only [List.mem_cons, not_or] at absent
      simp [before_cons, Ne.symm absent.1, inductionHypothesis absent.2]

/-- Nothing follows a mark in a text without marks. -/
theorem after_eq_nil
    {mark : Char}
    {text : Text}
    (absent : mark ∉ text) :
    after mark text = [] := by
  induction text with
  | nil => rfl
  | cons char text inductionHypothesis =>
      simp only [List.mem_cons, not_or] at absent
      rw [after_cons, if_neg (Ne.symm absent.1), inductionHypothesis absent.2]

/-- What stands before the first mark is found whatever follows the mark. -/
theorem before_append_mark
    {mark : Char}
    {text : Text}
    (absent : mark ∉ text)
    (rest : Text) :
    before mark (text ++ mark :: rest) = text := by
  induction text with
  | nil => simp [before_cons]
  | cons char text inductionHypothesis =>
      simp only [List.mem_cons, not_or] at absent
      simp [before_cons, Ne.symm absent.1, inductionHypothesis absent.2]

/-- What follows the first mark is found whatever stands before it. -/
theorem after_append_mark
    {mark : Char}
    {text : Text}
    (absent : mark ∉ text)
    (rest : Text) :
    after mark (text ++ mark :: rest) = rest := by
  induction text with
  | nil => simp [after_cons]
  | cons char text inductionHypothesis =>
      simp only [List.mem_cons, not_or] at absent
      simp [after_cons, Ne.symm absent.1, inductionHypothesis absent.2]

/-- A text that holds the mark starts with the part before its last mark and
that mark. -/
theorem beforeLast_append_mark_isPrefix
    {mark : Char}
    {text : Text}
    (present : mark ∈ text) :
    beforeLast mark text ++ [mark] <+: text := by
  have cut := before_append_mark_append_after (List.mem_reverse.mpr present)
  refine ⟨(before mark text.reverse).reverse, ?_⟩
  calc
    beforeLast mark text ++ [mark] ++ (before mark text.reverse).reverse =
        (before mark text.reverse ++ mark :: after mark text.reverse).reverse := by
      simp [beforeLast]
    _ = text := by rw [cut, List.reverse_reverse]

/-- What follows any mark ends what follows the first one. -/
theorem suffix_after_append_mark
    (mark : Char)
    (left right : Text) :
    right <:+ after mark (left ++ mark :: right) := by
  induction left with
  | nil => simp [after_cons]
  | cons char left inductionHypothesis =>
      rw [List.cons_append, after_cons]
      split
      · exact (List.suffix_cons mark right).trans (List.suffix_append left _)
      · exact inductionHypothesis

/-- What stands before any mark begins what stands before the last one. -/
theorem isPrefix_beforeLast
    {mark : Char}
    {start text : Text}
    (continues : start ++ [mark] <+: text) :
    start <+: beforeLast mark text := by
  obtain ⟨rest, rfl⟩ := continues
  have ends := suffix_after_append_mark mark rest.reverse start.reverse
  rw [← List.reverse_suffix, beforeLast, List.reverse_reverse]
  simpa using ends

/-- Nothing stands before a mark in a text without marks. -/
theorem beforeLast_eq_nil
    {mark : Char}
    {text : Text}
    (absent : mark ∉ text) :
    beforeLast mark text = [] := by
  rw [← List.mem_reverse] at absent
  rw [beforeLast, after_eq_nil absent, List.reverse_nil]

/-- Whether a word stands somewhere in a text as a contiguous piece. -/
def occursIn (word : Text) : Text -> Bool
  | [] => word.isEmpty
  | char :: text => word.isPrefixOf (char :: text) || occursIn word text

/-- A word occurs in a text exactly when the text is something, the word, and
something. -/
theorem occursIn_iff
    (word text : Text) :
    occursIn word text = true ↔ word <:+: text := by
  induction text with
  | nil => cases word <;> simp [occursIn]
  | cons char text inductionHypothesis =>
      rw [occursIn, Bool.or_eq_true, inductionHypothesis,
        List.isPrefixOf_iff_prefix, List.infix_cons_iff]

/-- The longest text with which both texts start. -/
def agreement : Text -> Text -> Text
  | leftChar :: left, rightChar :: right =>
      if leftChar = rightChar then leftChar :: agreement left right else []
  | _, _ => []

@[simp] theorem agreement_nil_left (text : Text) :
    agreement [] text = [] := by
  cases text <;> rfl

@[simp] theorem agreement_nil_right (text : Text) :
    agreement text [] = [] := by
  cases text <;> rfl

/-- A text is a common start of two texts exactly when their agreement starts
with it. -/
theorem isPrefix_agreement_iff
    (start left right : Text) :
    start <+: agreement left right ↔ start <+: left ∧ start <+: right := by
  induction start generalizing left right with
  | nil => simp
  | cons char start inductionHypothesis =>
      cases left with
      | nil => simp
      | cons leftChar left =>
          cases right with
          | nil => simp
          | cons rightChar right =>
              by_cases same : leftChar = rightChar
              · subst same
                simp only [agreement, if_true, List.cons_prefix_cons,
                  inductionHypothesis]
                exact ⟨fun ⟨equal, both⟩ => ⟨⟨equal, both.1⟩, equal, both.2⟩,
                  fun ⟨first, second⟩ => ⟨first.1, first.2, second.2⟩⟩
              · simp only [agreement, same, if_false, List.prefix_nil,
                  reduceCtorEq, List.cons_prefix_cons, false_iff]
                rintro ⟨⟨first, _⟩, second, _⟩
                exact same (first.symm.trans second)

/-- Texts that differ after a common start agree on that start alone. -/
theorem agreement_append
    {leftChar rightChar : Char}
    (different : leftChar ≠ rightChar)
    (start left right : Text) :
    agreement (start ++ leftChar :: left) (start ++ rightChar :: right) =
      start := by
  induction start with
  | nil => rw [List.nil_append, List.nil_append, agreement, if_neg different]
  | cons char start inductionHypothesis =>
      rw [List.cons_append, List.cons_append, agreement, if_pos rfl,
        inductionHypothesis]

end Text
end RequestKey
