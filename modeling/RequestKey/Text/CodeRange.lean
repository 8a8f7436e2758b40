import RequestKey.Text.Basic

/-!
# Tables of code points

A property of characters that a standard fixes by enumeration is stored as a table:
closed ranges of code points in ascending order, so that a search may stop early.
The main statement says that the search finds a code point exactly when some range
of the table holds it.
-/

namespace RequestKey
namespace Text

/-- The code points from `first` to `last`, both included. -/
structure CodeRange where
  /-- The least code point. -/
  first : Nat
  /-- The greatest code point. -/
  last : Nat
  deriving DecidableEq, Repr

namespace CodeRange

/-- A code point lies in the range. -/
def Holds (range : CodeRange) (code : Nat) : Prop :=
  range.first ≤ code ∧ code ≤ range.last

/-- Whether the ranges ascend from a bound on: each begins at the bound or above
it, ends no earlier than it begins, and its end bounds the ranges after it. -/
def ascendFrom (bound : Nat) : List CodeRange -> Bool
  | [] => true
  | range :: ranges =>
      bound ≤ range.first && range.first ≤ range.last &&
        ascendFrom (range.last + 1) ranges

/-- Whether a code point lies in one of the ranges, which are in ascending
order.  The search ends at the first range above the code point. -/
def anyHolds : List CodeRange -> Nat -> Bool
  | [], _ => false
  | range :: ranges, code =>
      if code < range.first then false
      else if code ≤ range.last then true
      else anyHolds ranges code

/-- Ranges that ascend from a bound hold no code point below it. -/
theorem le_of_holds
    {bound code : Nat}
    {ranges : List CodeRange}
    (ascend : ascendFrom bound ranges = true)
    {range : CodeRange}
    (member : range ∈ ranges)
    (holds : range.Holds code) :
    bound ≤ code := by
  induction ranges generalizing bound with
  | nil => simp at member
  | cons first ranges inductionHypothesis =>
      simp only [ascendFrom, Bool.and_eq_true, decide_eq_true_eq] at ascend
      rcases List.mem_cons.mp member with rfl | later
      · exact Nat.le_trans ascend.1.1 holds.1
      · have above := inductionHypothesis ascend.2 later
        omega

/-- On ascending ranges the search finds every range that holds the code
point. -/
theorem anyHolds_iff
    {bound : Nat}
    {ranges : List CodeRange}
    (ascend : ascendFrom bound ranges = true)
    (code : Nat) :
    anyHolds ranges code = true ↔ ∃ range ∈ ranges, range.Holds code := by
  induction ranges generalizing bound with
  | nil => simp [anyHolds]
  | cons range ranges inductionHypothesis =>
      simp only [ascendFrom, Bool.and_eq_true, decide_eq_true_eq] at ascend
      simp only [anyHolds, List.mem_cons, exists_eq_or_imp]
      split
      · rename_i below
        refine iff_of_false Bool.false_ne_true ?_
        rintro (here | ⟨other, later, holds⟩)
        · exact Nat.not_le.mpr below here.1
        · have above := le_of_holds ascend.2 later holds
          omega
      · rename_i notBelow
        split
        · rename_i within
          exact iff_of_true rfl (Or.inl ⟨Nat.not_lt.mp notBelow, within⟩)
        · rename_i notWithin
          rw [inductionHypothesis ascend.2]
          exact (or_iff_right fun here => notWithin here.2).symm

end CodeRange

/-- Ranges of code points in ascending order. -/
structure CodeTable where
  /-- The ranges. -/
  ranges : List CodeRange
  /-- The ranges ascend. -/
  ascending : CodeRange.ascendFrom 0 ranges = true

namespace CodeTable

/-- Whether a code point stands in the table. -/
def contains (table : CodeTable) (code : Nat) : Bool :=
  CodeRange.anyHolds table.ranges code

/-- A table contains the code points that its ranges hold. -/
theorem contains_iff (table : CodeTable) (code : Nat) :
    table.contains code = true ↔ ∃ range ∈ table.ranges, range.Holds code :=
  CodeRange.anyHolds_iff table.ascending code

end CodeTable
end Text
end RequestKey
