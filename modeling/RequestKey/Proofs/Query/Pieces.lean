import RequestKey.Proofs.Text.Pieces
import RequestKey.Query.Basic

/-!
# Pieces of a query

What the query of a URI contributes is read from the pieces of its query text.
The path in front of the query text has no part in it, but for one thing: a URI
without any equals sign is not read at all, and the sign may stand in the path.
-/

namespace RequestKey
namespace Query

/-- The path in front of a query text matters only by the equals signs in it. -/
theorem ofUri_append
    {path : Text}
    (noMark : '?' ∉ path)
    (text : Text) :
    ofUri (path ++ '?' :: text) =
      if '=' ∈ path ∨ '=' ∈ text then ofText text else ⟨[]⟩ := by
  unfold ofUri
  rw [Text.after_append_mark noMark]
  simp

/-- A piece contributes nothing exactly when its key is empty. -/
theorem Item.ofPiece?_eq_none_iff (piece : Text) :
    Item.ofPiece? piece = none ↔ piece.before '=' = [] := by
  unfold Item.ofPiece?
  by_cases noKey : piece.before '=' = []
  · simp [noKey]
  · rw [if_neg noKey]
    cases Component.decode (piece.before '=') with
    | error reason => simp [noKey]
    | ok key => cases Component.decode (piece.after '=') <;> simp [noKey]

/-- A query contributes nothing exactly when it has no parameter and no
failure. -/
theorem items_eq_nil_iff (query : Query) :
    query.items = [] ↔ query.pairs = [] ∧ query.failures = [] := by
  unfold pairs failures
  rw [List.filterMap_eq_nil_iff, List.filterMap_eq_nil_iff]
  constructor
  · intro none
    simp [none]
  · rintro ⟨noPairs, noFailures⟩
    refine List.eq_nil_iff_forall_not_mem.mpr fun item member => ?_
    cases item with
    | parameter key value => simpa [Item.pair?] using noPairs _ member
    | skipped failure => simpa [Item.failure?] using noFailures _ member

/-- A query text without an equals sign contributes nothing exactly when it
consists of ampersands. -/
theorem ofText_items_eq_nil_iff
    {text : Text}
    (noEquals : '=' ∉ text) :
    (ofText text).items = [] ↔ ∀ char ∈ text, char = '&' := by
  have whole : ∀ piece ∈ text.splitOn '&', Text.before '=' piece = piece :=
    fun piece isPiece => Text.before_eq_self fun inside =>
      noEquals (Text.mem_of_mem_splitOn isPiece inside).2
  calc
    (ofText text).items = [] ↔ ∀ piece ∈ text.splitOn '&', piece = [] := by
      unfold ofText
      rw [List.filterMap_eq_nil_iff]
      refine forall₂_congr fun piece isPiece => ?_
      rw [Item.ofPiece?_eq_none_iff, whole piece isPiece]
    _ ↔ ∀ char ∈ text, char = '&' := by
      constructor
      · intro allEmpty char present
        refine Decidable.byContradiction fun different => ?_
        obtain ⟨piece, isPiece, inside⟩ :=
          (Text.mem_iff_exists_mem_splitOn different text).mp present
        simp [allEmpty piece isPiece] at inside
      · intro allMarks piece isPiece
        refine List.eq_nil_iff_forall_not_mem.mpr fun char inside => ?_
        obtain ⟨different, present⟩ := Text.mem_of_mem_splitOn isPiece inside
        exact different (allMarks char present)

end Query
end RequestKey
