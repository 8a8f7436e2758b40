import RequestKey.Proofs.Positional.Parts

/-!
# Positional variables in rules and in criteria

Examples fix how many variables a rule lists, while the criteria of a URI number
all of its own parts.  Both begin with the first variable, so they are compared by
their numbers.

The main statements are that the rule of examples lists the first variables, as
many as an example has parts at most, that criteria show the first variables, as
many as the URI has parts, and that the first variables are among others exactly
when there are no more of them.
-/

namespace RequestKey
namespace Positional

open Bindings

/-! ## Lists of the first variables -/

private theorem not_isBlank_of_isDigit
    {char : Char}
    (digit : char.isDigit = true) :
    ¬Text.isBlank char = true := by
  simp only [Char.isDigit, Bool.and_eq_true, decide_eq_true_eq] at digit
  have above : 48 ≤ char.toNat := digit.1
  have below : char.toNat ≤ 57 := digit.2
  rw [Text.isBlank, Text.CodeTable.contains_iff]
  simp only [Text.blankTable, Text.CodeRange.Holds, List.mem_cons, List.not_mem_nil,
    or_false, exists_eq_or_imp, exists_eq_left]
  omega

/-- A rule can list every variable. -/
theorem isListable_partName (position : Nat) :
    Rule.IsListable (partName position) where
  nonempty := by simp [partName]
  undoubled := fun inside =>
    not_mem_partName (by decide) (by decide) position
      (inside.subset (List.mem_cons_self (a := '&')))
  trimmed := by
    have noBlankLetter : ['p', 'a', 'r', 't'].any Text.isBlank = false := rfl
    apply Text.trim_eq_self
    intro char member blank
    refine not_mem_partName (fun letter => ?_)
      (fun digit => not_isBlank_of_isDigit digit blank) position member
    exact List.any_eq_false.mp noBlankLetter char letter blank

/-- The rule of examples lists the first variables. -/
theorem names_rule (first : Text) (others : List Text) :
    (rule first others).names = partNames (partCount first others) := by
  apply Rule.names_join_of_isListable
  intro name member
  obtain ⟨index, _, rfl⟩ := List.mem_map.mp member
  exact isListable_partName (index + 1)

theorem partName_mem_partNames_iff (index count : Nat) :
    partName (index + 1) ∈ partNames count ↔ index < count := by
  simp [partNames, partName_injective.eq_iff]

/-- The first variables are among others exactly when there are no more. -/
theorem partNames_subset_iff (count bound : Nat) :
    (∀ name ∈ partNames count, name ∈ partNames bound) ↔ count ≤ bound := by
  constructor
  · intro within
    cases count with
    | zero => exact Nat.zero_le bound
    | succ count =>
        have last := (partName_mem_partNames_iff count (count + 1)).mpr
          (Nat.lt_succ_self count)
        exact (partName_mem_partNames_iff count bound).mp (within _ last)
  · intro atMost name member
    obtain ⟨index, within, rfl⟩ := List.mem_map.mp member
    exact (partName_mem_partNames_iff index bound).mpr
      ((List.mem_range.mp within).trans_le atMost)

/-! ## Variables that criteria show -/

/-- The number of parts that criteria show: those of a URI under the base. -/
def shownCount (base uri : Text) : Nat :=
  if isUnder base uri then (partsAfter base uri).length else 0

/-- The bound variables of a URI are the first ones. -/
theorem mem_names_bindings_iff (base uri name : Text) :
    name ∈ (bindings base uri).names ↔
      name ∈ partNames (shownCount base uri) := by
  unfold shownCount
  split
  · rename_i under
    rw [bindings_eq_ofPairs under, mem_names_ofPairs, map_fst_numbered]
  · rename_i apart
    rw [bindings, if_neg apart]
    rfl

/-- Criteria show the first variables, as many as the URI has parts. -/
theorem mem_shownNames_criteria_iff (base uri name : Text) :
    name ∈ shownNames '/' (criteria base uri) ↔
      name ∈ partNames (shownCount base uri) := by
  have shown : shownNames '/' (criteria base uri) = (bindings base uri).names := by
    apply shownNames_criteria (by decide)
    · intro entry member
      obtain ⟨index, named, isPart⟩ := exists_of_mem_bindings member
      rw [named]
      exact ⟨not_mem_partName (by decide) (by decide) _,
        fun inside => (mem_of_mem_parts isPart inside).1 rfl⟩
    · intro entry member
      obtain ⟨index, named, _⟩ := exists_of_mem_bindings member
      rw [named]
      exact not_mem_partName (by decide) (by decide) _
  rw [shown, mem_names_bindings_iff]

/-- The variables that criteria show are among the first ones exactly when the URI
has no more parts than there are. -/
theorem shownNames_criteria_subset_iff
    (base uri : Text)
    (bound : Nat) :
    (∀ name ∈ shownNames '/' (criteria base uri), name ∈ partNames bound) ↔
      shownCount base uri ≤ bound := by
  simp only [mem_shownNames_criteria_iff, partNames_subset_iff]

end Positional
end RequestKey
