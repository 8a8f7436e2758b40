import RequestKey.Proofs.Bindings.LastValue
import RequestKey.Proofs.Query.Pieces

/-!
# Reordered pieces

The pieces of a query may change places, as long as those that decode to the same
key keep their order: the last of them gives the key its value.  Pieces that
contribute no parameter are free to stand anywhere.

The main statement says that a query whose pieces are reordered in this way binds
its keys to the same values.
-/

namespace RequestKey
namespace Query

/-- The parameter to which a piece decodes.  A piece that is ignored or left out
has none. -/
def pairOf? (piece : Text) : Option (Text × Text) :=
  (Item.ofPiece? piece).bind Item.pair?

/-- The key to which a piece decodes. -/
def keyOf? (piece : Text) : Option Text :=
  (pairOf? piece).map Prod.fst

/-- The pieces that decode to a key, in their order. -/
def piecesOf (key : Text) (pieces : List Text) : List Text :=
  pieces.filter fun piece => keyOf? piece = some key

/-- The same pieces in another order, in which those that decode to the same key
keep theirs. -/
structure IsReordering (pieces reordered : List Text) : Prop where
  /-- No piece is lost, added or repeated. -/
  perm : pieces.Perm reordered
  /-- The pieces of each key stand in the same order. -/
  piecesOf_eq : ∀ key, piecesOf key pieces = piecesOf key reordered

theorem mem_keys_of_mem_piecesOf
    {key piece : Text}
    {pieces : List Text}
    (member : piece ∈ piecesOf key pieces) :
    key ∈ pieces.filterMap keyOf? := by
  obtain ⟨isPiece, decodes⟩ := List.mem_filter.mp member
  exact List.mem_filterMap.mpr ⟨piece, isPiece, by simpa using decodes⟩

/-- Only the keys that occur need to be compared. -/
theorem isReordering_iff (pieces reordered : List Text) :
    IsReordering pieces reordered ↔
      pieces.Perm reordered ∧
        ∀ key ∈ pieces.filterMap keyOf?,
          piecesOf key pieces = piecesOf key reordered := by
  constructor
  · intro reordering
    exact ⟨reordering.perm, fun key _ => reordering.piecesOf_eq key⟩
  · rintro ⟨perm, sameOrder⟩
    refine ⟨perm, fun key => ?_⟩
    by_cases occurs : key ∈ pieces.filterMap keyOf?
    · exact sameOrder key occurs
    · have absent : piecesOf key pieces = [] :=
        List.eq_nil_iff_forall_not_mem.mpr fun piece member =>
          occurs (mem_keys_of_mem_piecesOf member)
      have samePieces : (piecesOf key pieces).Perm (piecesOf key reordered) :=
        perm.filter _
      rw [absent] at samePieces ⊢
      exact samePieces.nil_eq

instance (pieces reordered : List Text) :
    Decidable (IsReordering pieces reordered) :=
  decidable_of_iff _ (isReordering_iff pieces reordered).symm

/-! ## Values of reordered queries -/

theorem pairs_ofText (text : Text) :
    (ofText text).pairs = (text.splitOn '&').filterMap pairOf? := by
  unfold pairs ofText
  rw [List.filterMap_filterMap]
  rfl

/-- The parameters of a key are those of the pieces that decode to it. -/
theorem filter_filterMap_pairOf? (key : Text) (pieces : List Text) :
    ((pieces.filterMap pairOf?).filter fun pair => pair.1 = key) =
      (piecesOf key pieces).filterMap pairOf? := by
  unfold piecesOf
  rw [List.filter_filterMap, List.filterMap_filter]
  congr 1
  funext piece
  unfold keyOf?
  cases pairOf? piece with
  | none => simp
  | some pair => simp [Option.filter]

/-- Reordered pieces bind the same keys to the same values. -/
theorem IsReordering.bindings_ofText
    {left right : Text}
    (reordering : IsReordering (left.splitOn '&') (right.splitOn '&')) :
    (ofText left).bindings = (ofText right).bindings := by
  unfold bindings
  apply Bindings.ofPairs_eq_of_filter_eq
  intro key
  rw [pairs_ofText, pairs_ofText, filter_filterMap_pairOf?,
    filter_filterMap_pairOf?, reordering.piecesOf_eq]

/-- Reordered pieces hold an equals sign, or do not, together. -/
theorem IsReordering.equals_mem_iff
    {left right : Text}
    (reordering : IsReordering (left.splitOn '&') (right.splitOn '&')) :
    '=' ∈ left ↔ '=' ∈ right := by
  have notMark : '=' ≠ '&' := by decide
  rw [Text.mem_iff_exists_mem_splitOn notMark left,
    Text.mem_iff_exists_mem_splitOn notMark right]
  simp only [reordering.perm.mem_iff]

/-- The query of a URI binds the same keys to the same values when its pieces are
reordered. -/
theorem IsReordering.bindings_ofUri
    {left right : Text}
    (reordering : IsReordering (left.splitOn '&') (right.splitOn '&'))
    {path : Text}
    (noMark : '?' ∉ path) :
    (ofUri (path ++ '?' :: left)).bindings =
      (ofUri (path ++ '?' :: right)).bindings := by
  rw [ofUri_append noMark, ofUri_append noMark]
  simp only [reordering.equals_mem_iff]
  split
  · exact reordering.bindings_ofText
  · rfl

end Query
end RequestKey
