import RequestKey.Bindings.Basic

/-!
# Values of bound names

Bindings are determined by the values of their names: inserting changes the
value of one name only, and two bindings that agree on every name are equal.
-/

namespace RequestKey
namespace Bindings

@[simp] theorem value?_empty (name : Text) : empty.value? name = none := rfl

private theorem lookup_entry_cons
    (name : Text)
    (entry : Text × Text)
    (entries : List (Text × Text)) :
    (entry :: entries).lookup name =
      if name = entry.1 then some entry.2 else entries.lookup name := by
  rw [List.lookup_cons]
  by_cases same : name = entry.1
  · rw [if_pos same, beq_iff_eq.mpr same]
  · rw [if_neg same, beq_eq_false_iff_ne.mpr same]

private theorem lookup_insertEntry
    (name value other : Text)
    (entries : List (Text × Text)) :
    (insertEntry name value entries).lookup other =
      if other = name then some value else entries.lookup other := by
  induction entries with
  | nil => rw [insertEntry, lookup_entry_cons]
  | cons head entries inductionHypothesis =>
      rw [insertEntry]
      split
      · rw [lookup_entry_cons]
      · split
        · rename_i equal
          rw [lookup_entry_cons, lookup_entry_cons, equal]
          split <;> rfl
        · rename_i different
          rw [lookup_entry_cons, lookup_entry_cons, inductionHypothesis]
          by_cases same : other = name
          · simp [same, different]
          · simp [same]

/-- An inserted value is the value of its name and of no other. -/
theorem value?_insert
    (bindings : Bindings)
    (name value other : Text) :
    (bindings.insert name value).value? other =
      if other = name then some value else bindings.value? other :=
  lookup_insertEntry name value other bindings.entries

/-- The value of a name in ascending entries comes from the entry of that
name. -/
theorem value?_eq_some_iff
    (bindings : Bindings)
    (name value : Text) :
    bindings.value? name = some value ↔ (name, value) ∈ bindings.entries := by
  obtain ⟨entries, ascending⟩ := bindings
  simp only [value?]
  induction entries with
  | nil => simp
  | cons head entries inductionHypothesis =>
      obtain ⟨headBelow, tailAscending⟩ := List.pairwise_cons.mp ascending
      rw [lookup_entry_cons]
      by_cases same : name = head.1
      · subst same
        have absent : (head.1, value) ∉ entries := fun member =>
          by simpa using headBelow (head.1, value) member
        simp only [if_true, Option.some.injEq, List.mem_cons, absent, or_false]
        exact ⟨fun equal => by rw [← equal], fun equal => by rw [← equal]⟩
      · have different : (name, value) ≠ head := fun equal =>
          same (congrArg Prod.fst equal)
        rw [if_neg same]
        simpa [different] using inductionHypothesis tailAscending

/-- Bindings with the same values are equal. -/
theorem eq_of_value?_eq
    {left right : Bindings}
    (agree : ∀ name, left.value? name = right.value? name) :
    left = right := by
  have sameMembers : ∀ entry, entry ∈ left.entries ↔ entry ∈ right.entries := by
    intro entry
    rw [← value?_eq_some_iff, ← value?_eq_some_iff, agree]
  obtain ⟨leftEntries, leftAscending⟩ := left
  obtain ⟨rightEntries, rightAscending⟩ := right
  congr
  simp only at sameMembers
  clear agree
  induction leftEntries generalizing rightEntries with
  | nil =>
      cases rightEntries with
      | nil => rfl
      | cons head entries => simpa using sameMembers head
  | cons leftHead leftEntries inductionHypothesis =>
      cases rightEntries with
      | nil => simpa using sameMembers leftHead
      | cons rightHead rightEntries =>
          obtain ⟨leftBelow, leftTail⟩ := List.pairwise_cons.mp leftAscending
          obtain ⟨rightBelow, rightTail⟩ := List.pairwise_cons.mp rightAscending
          have headsEqual : leftHead = rightHead := by
            have leftMember := (sameMembers leftHead).mp (by simp)
            have rightMember := (sameMembers rightHead).mpr (by simp)
            rcases List.mem_cons.mp leftMember with equal | leftInTail
            · exact equal
            · rcases List.mem_cons.mp rightMember with equal | rightInTail
              · exact equal.symm
              · have cyclic := Text.precedes_trans
                  (leftBelow _ rightInTail) (rightBelow _ leftInTail)
                simp at cyclic
          subst headsEqual
          have notInLeft : leftHead ∉ leftEntries := fun member => by
            simpa using leftBelow _ member
          have notInRight : leftHead ∉ rightEntries := fun member => by
            simpa using rightBelow _ member
          rw [inductionHypothesis leftTail rightEntries rightTail]
          intro entry
          have both := sameMembers entry
          simp only [List.mem_cons] at both
          constructor
          · intro member
            rcases both.mp (Or.inr member) with equal | inTail
            · exact absurd (equal ▸ member) notInLeft
            · exact inTail
          · intro member
            rcases both.mpr (Or.inr member) with equal | inTail
            · exact absurd (equal ▸ member) notInRight
            · exact inTail

end Bindings
end RequestKey
