import RequestKey.Text.Basic

/-!
# Pieces between marks

A mark cuts a text into the pieces between its occurrences.  The pieces hold the
characters of the text other than the mark, and putting them together adds only
the separator.
-/

namespace RequestKey
namespace Text

/-- A piece between marks holds characters of the text other than the mark. -/
theorem mem_of_mem_splitOn
    {mark char : Char}
    {text piece : Text}
    (member : piece ∈ text.splitOn mark)
    (inside : char ∈ piece) :
    char ≠ mark ∧ char ∈ text := by
  induction text generalizing piece with
  | nil =>
      rw [List.splitOn_nil, List.mem_singleton] at member
      simp [member] at inside
  | cons first text inductionHypothesis =>
      have ofLater : ∀ {later : Text}, later ∈ text.splitOn mark -> char ∈ later ->
          char ≠ mark ∧ char ∈ first :: text := fun isPiece present =>
        (inductionHypothesis isPiece present).imp_right (List.mem_cons_of_mem _)
      rw [List.splitOn_cons_eq_if_modifyHead] at member
      split at member
      · rcases List.mem_cons.mp member with rfl | later
        · simp at inside
        · exact ofLater later inside
      · rename_i different
        obtain ⟨head, tail, split⟩ :=
          List.exists_cons_of_ne_nil (List.splitOn_ne_nil mark text)
        rw [split] at member ofLater
        rcases List.mem_cons.mp member with rfl | later
        · rcases List.mem_cons.mp inside with rfl | inHead
          · exact ⟨by simpa using different, List.mem_cons_self⟩
          · exact ofLater List.mem_cons_self inHead
        · exact ofLater (List.mem_cons_of_mem _ later) inside

/-- Pieces with a separator between them hold the characters of the pieces and of
the separator. -/
theorem not_mem_intercalate
    {char : Char}
    {separator : Text}
    (notSeparator : char ∉ separator)
    {pieces : List Text}
    (plain : ∀ piece ∈ pieces, char ∉ piece) :
    char ∉ separator.intercalate pieces := by
  induction pieces with
  | nil => simp
  | cons piece pieces inductionHypothesis =>
      obtain ⟨first, later⟩ := List.forall_mem_cons.mp plain
      cases pieces with
      | nil => simpa using first
      | cons second pieces =>
          rw [List.intercalate_cons_cons]
          simp only [List.mem_append, not_or]
          exact ⟨⟨first, notSeparator⟩, inductionHypothesis later⟩

/-- A character other than the mark is in a text exactly when it is in a piece of
the text. -/
theorem mem_iff_exists_mem_splitOn
    {mark char : Char}
    (different : char ≠ mark)
    (text : Text) :
    char ∈ text ↔ ∃ piece ∈ text.splitOn mark, char ∈ piece := by
  constructor
  · intro present
    refine Classical.byContradiction fun none => ?_
    have plain : ∀ piece ∈ text.splitOn mark, char ∉ piece :=
      fun piece isPiece inside => none ⟨piece, isPiece, inside⟩
    have notMark : char ∉ [mark] := by simpa using different
    have absent := not_mem_intercalate notMark plain
    rw [List.intercalate_splitOn mark] at absent
    exact absent present
  · rintro ⟨piece, isPiece, inside⟩
    exact (mem_of_mem_splitOn isPiece inside).2

end Text
end RequestKey
