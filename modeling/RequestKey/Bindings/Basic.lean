import RequestKey.Text.Order

/-!
# Bindings of names to values

Bindings give each of finitely many names one value.  Their entries are kept in
strictly ascending order of names, compared code point by code point, so that
bindings with the same values are the same object however they were built.
-/

namespace RequestKey

/-- Finitely many names with one value each. -/
structure Bindings where
  /-- The names with their values. -/
  entries : List (Text × Text)
  /-- Names ascend strictly. -/
  ascending : entries.Pairwise fun lower upper => lower.1.precedes upper.1

namespace Bindings

theorem eq_of_entries_eq
    {left right : Bindings}
    (same : left.entries = right.entries) :
    left = right := by
  cases left
  cases right
  congr

/-- The bindings of no name. -/
def empty : Bindings :=
  ⟨[], List.Pairwise.nil⟩

/-- Put an entry into ascending entries, replacing one of the same name. -/
def insertEntry (name value : Text) : List (Text × Text) -> List (Text × Text)
  | [] => [(name, value)]
  | entry :: entries =>
      if name.precedes entry.1 then (name, value) :: entry :: entries
      else if name = entry.1 then (name, value) :: entries
      else entry :: insertEntry name value entries

theorem mem_insertEntry
    {name value : Text}
    {entry : Text × Text}
    {entries : List (Text × Text)}
    (member : entry ∈ insertEntry name value entries) :
    entry = (name, value) ∨ entry ∈ entries := by
  induction entries with
  | nil => exact Or.inl (by simpa [insertEntry] using member)
  | cons head entries inductionHypothesis =>
      rw [insertEntry] at member
      split at member
      · exact (List.mem_cons.mp member).imp_right id
      · split at member
        · exact (List.mem_cons.mp member).imp_right (List.mem_cons_of_mem _)
        · rcases List.mem_cons.mp member with equal | inTail
          · exact Or.inr (by simp [equal])
          · exact (inductionHypothesis inTail).imp_right
              (List.mem_cons_of_mem _)

/-- Putting an entry into ascending entries keeps them ascending. -/
theorem insertEntry_ascending
    (name value : Text)
    {entries : List (Text × Text)}
    (ascending : entries.Pairwise fun lower upper => lower.1.precedes upper.1) :
    (insertEntry name value entries).Pairwise
      fun lower upper => lower.1.precedes upper.1 := by
  induction entries with
  | nil => simp [insertEntry]
  | cons head entries inductionHypothesis =>
      obtain ⟨headBelow, tailAscending⟩ := List.pairwise_cons.mp ascending
      rw [insertEntry]
      split
      · rename_i nameBelow
        refine List.pairwise_cons.mpr ⟨?_, ascending⟩
        intro other member
        rcases List.mem_cons.mp member with equal | inTail
        · exact equal ▸ nameBelow
        · exact Text.precedes_trans nameBelow (headBelow other inTail)
      · split
        · rename_i equal
          exact List.pairwise_cons.mpr ⟨equal ▸ headBelow, tailAscending⟩
        · rename_i notBelow different
          refine List.pairwise_cons.mpr
            ⟨?_, inductionHypothesis tailAscending⟩
          intro other member
          rcases mem_insertEntry member with equal | inTail
          · subst equal
            exact Text.precedes_of_not_precedes notBelow different
          · exact headBelow other inTail

/-- Bind a name to a value, replacing the value that the name had. -/
def insert (bindings : Bindings) (name value : Text) : Bindings :=
  ⟨insertEntry name value bindings.entries,
    insertEntry_ascending name value bindings.ascending⟩

/-- The bindings that result when the pairs are put in one after another, so
that the last of several values of one name remains. -/
def ofPairs (pairs : List (Text × Text)) : Bindings :=
  pairs.foldl (fun bindings pair => bindings.insert pair.1 pair.2) empty

/-- The value of a name, if the name is bound. -/
def value? (bindings : Bindings) (name : Text) : Option Text :=
  bindings.entries.lookup name

/-- The bindings of those names that satisfy a condition. -/
def restrict (bindings : Bindings) (keep : Text -> Bool) : Bindings :=
  ⟨bindings.entries.filter fun entry => keep entry.1,
    bindings.ascending.filter _⟩

@[simp] theorem entries_empty : empty.entries = [] := rfl

@[simp] theorem entries_restrict
    (bindings : Bindings)
    (keep : Text -> Bool) :
    (bindings.restrict keep).entries =
      bindings.entries.filter fun entry => keep entry.1 := rfl

/-- Only the bound names matter for what a restriction keeps. -/
theorem restrict_congr
    {bindings : Bindings}
    {keep other : Text -> Bool}
    (agree : ∀ entry ∈ bindings.entries, keep entry.1 = other entry.1) :
    bindings.restrict keep = bindings.restrict other :=
  eq_of_entries_eq (List.filter_congr agree)

end Bindings
end RequestKey
