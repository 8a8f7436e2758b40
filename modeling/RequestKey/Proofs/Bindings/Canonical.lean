import RequestKey.Criteria
import RequestKey.Proofs.Bindings.LastValue

/-!
# Canonical criteria

A listing of pairs holds each of their names once, with its last value, in ascending
order of names.  Names are compared by their first different code points, whatever
the encoding of the text.  Pairs have one listing.

The main statement says that criteria write the listing of the pairs that the
bindings were built from.  It follows that they are the same for all lists of pairs
that denote the same mapping, in whatever order the pairs were put in.
-/

namespace RequestKey
namespace Text

/-- At the first place where the texts are not the same, the lower one has ended or
has the smaller code point. -/
def IsBelow (lower upper : Text) : Prop :=
  List.Lex (fun left right => left.toNat < right.toNat) lower upper

theorem precedes_iff_isBelow (lower upper : Text) :
    lower.precedes upper = true ↔ lower.IsBelow upper := by
  induction lower generalizing upper with
  | nil =>
      cases upper with
      | nil => simp [IsBelow]
      | cons char upper => exact iff_of_true rfl .nil
  | cons lowerChar lower inductionHypothesis =>
      cases upper with
      | nil => simp [IsBelow]
      | cons upperChar upper =>
          rw [precedes, IsBelow, List.cons_lex_cons_iff]
          by_cases same : lowerChar = upperChar
          · subst same
            rw [if_pos rfl, inductionHypothesis, IsBelow]
            simp
          · rw [if_neg same, decide_eq_true_eq]
            simp only [same, false_and, or_false]
            -- Characters are ordered as their code points.
            exact Iff.rfl

end Text

namespace Bindings

/-- The entries list the names of pairs in ascending order of code points, each with
its last value. -/
structure IsListing (pairs entries : List (Text × Text)) : Prop where
  /-- Each name is below those that follow it. -/
  ascending : entries.Pairwise fun lower upper => lower.1.IsBelow upper.1
  /-- The names are those of the pairs. -/
  mem_names_iff :
    ∀ name, name ∈ entries.map Prod.fst ↔ name ∈ pairs.map Prod.fst
  /-- Each name stands with the last of its values. -/
  isLastValue : ∀ entry ∈ entries, IsLastValue pairs entry.1 entry.2

/-- The entries of a listing are the names with their last values. -/
theorem IsListing.mem_iff
    {pairs entries : List (Text × Text)}
    (listing : IsListing pairs entries)
    (name value : Text) :
    (name, value) ∈ entries ↔ IsLastValue pairs name value := by
  constructor
  · exact listing.isLastValue (name, value)
  · intro last
    have named : name ∈ pairs.map Prod.fst :=
      (exists_isLastValue_iff pairs name).mp ⟨value, last⟩
    obtain ⟨entry, member, rfl⟩ :=
      List.mem_map.mp ((listing.mem_names_iff name).mpr named)
    have same := (listing.isLastValue entry member).eq last
    exact same ▸ member

/-- The entries of bindings built from pairs list the pairs. -/
theorem isListing_entries_ofPairs (pairs : List (Text × Text)) :
    IsListing pairs (ofPairs pairs).entries where
  ascending := by
    simpa only [Text.precedes_iff_isBelow] using (ofPairs pairs).ascending
  mem_names_iff := mem_names_ofPairs pairs
  isLastValue := fun entry =>
    (mem_entries_ofPairs_iff pairs entry.1 entry.2).mp

/-- Pairs have no other listing than the entries of the bindings built from them. -/
theorem IsListing.eq_entries_ofPairs
    {pairs entries : List (Text × Text)}
    (listing : IsListing pairs entries) :
    entries = (ofPairs pairs).entries := by
  -- A listing ascends, so it holds bindings, and their values determine them.
  let listed : Bindings :=
    ⟨entries, by simpa only [Text.precedes_iff_isBelow] using listing.ascending⟩
  have sameBindings : listed = ofPairs pairs := by
    rw [eq_ofPairs_iff]
    intro name value
    rw [value?_eq_some_iff]
    exact listing.mem_iff name value
  exact congrArg Bindings.entries sameBindings

/-- Pairs have one listing, and their criteria write it: for each name the marker,
the name, an equals sign and the value.  Pairs that denote the same mapping have the
same criteria. -/
theorem criteria_ofPairs_canonical
    (marker : Text)
    (pairs : List (Text × Text)) :
    (∃ entries, (∀ other, IsListing pairs other ↔ other = entries) ∧
        (ofPairs pairs).criteria marker =
          (entries.map fun entry =>
            marker ++ entry.1 ++ ['='] ++ entry.2).flatten) ∧
      ∀ others, DenoteSame pairs others ->
        (ofPairs others).criteria marker = (ofPairs pairs).criteria marker := by
  constructor
  · refine ⟨(ofPairs pairs).entries, ?_, ?_⟩
    · intro other
      constructor
      · exact IsListing.eq_entries_ofPairs
      · rintro rfl
        exact isListing_entries_ofPairs pairs
    · have written : criterion marker = fun entry =>
          marker ++ entry.1 ++ ['='] ++ entry.2 := by
        funext entry
        simp [criterion]
      rw [criteria, List.flatMap_def, written]
  · intro others same
    rw [(ofPairs_eq_ofPairs_iff pairs others).mpr same]

/-- Names of which one begins another, and names of which the first characters lie
on both sides of the sixteen-bit code points. -/
def unsortedPairs : List (Text × Text) :=
  [("😀".toList, "1".toList), ("ab".toList, "2".toList), ("a".toList, "3".toList),
    ("\uff5e".toList, "4".toList), ("ab".toList, "5".toList)]

/-- The same names with the same last values, put in differently. -/
def reinsertedPairs : List (Text × Text) :=
  [("a".toList, "0".toList), ("ab".toList, "5".toList), ("\uff5e".toList, "4".toList),
    ("a".toList, "3".toList), ("😀".toList, "1".toList)]

theorem criteria_ofPairs_canonical_unsortedPairs :
    DenoteSame unsortedPairs reinsertedPairs ∧
      (ofPairs reinsertedPairs).criteria queryMarker =
        "?a=3?ab=5?\uff5e=4?😀=1".toList := by
  have same : DenoteSame unsortedPairs reinsertedPairs := by
    intro name value
    simp only [unsortedPairs, reinsertedPairs, isLastValue_cons, not_isLastValue_nil]
    grind
  have unchanged :=
    (criteria_ofPairs_canonical queryMarker unsortedPairs).2 reinsertedPairs same
  exact ⟨same, unchanged.trans rfl⟩

end Bindings
end RequestKey
