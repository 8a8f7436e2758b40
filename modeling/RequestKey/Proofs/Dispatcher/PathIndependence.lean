import RequestKey.Proofs.Dispatcher.Sides
import RequestKey.Proofs.Query.Pieces

/-!
# Paths in front of a query

A URI without any equals sign has no parameters, and the sign may stand in the path
as well as in the query.  Otherwise the path in front of a query has no part in
what the query contributes.

The main statement says for which paths a query contributes the same after both,
and that a dispatcher of the query alone then cannot tell the two requests apart.
-/

namespace RequestKey
namespace Query

/-- The equals signs of two paths do not make a difference for a query text: it
has one of its own, or both paths have one or neither has, or there is nothing to
read. -/
def ReadsAlike (left right text : Text) : Prop :=
  '=' ∈ text ∨ ('=' ∈ left ↔ '=' ∈ right) ∨ ∀ char ∈ text, char = '&'

instance (left right text : Text) : Decidable (ReadsAlike left right text) :=
  inferInstanceAs (Decidable (_ ∨ _ ∨ _))

/-- What a query text without an equals sign contributes after a path. -/
theorem ofUri_append_of_not_mem
    {path text : Text}
    (noMark : '?' ∉ path)
    (noEquals : '=' ∉ text) :
    ofUri (path ++ '?' :: text) = if '=' ∈ path then ofText text else ⟨[]⟩ := by
  rw [ofUri_append noMark]
  simp only [noEquals, or_false]

theorem ofUri_eq_of_readsAlike
    {left right text : Text}
    (leftPath : '?' ∉ left)
    (rightPath : '?' ∉ right)
    (alike : ReadsAlike left right text) :
    ofUri (left ++ '?' :: text) = ofUri (right ++ '?' :: text) := by
  by_cases equals : '=' ∈ text
  · rw [ofUri_append leftPath, ofUri_append rightPath, if_pos (Or.inr equals),
      if_pos (Or.inr equals)]
  · rw [ofUri_append_of_not_mem leftPath equals,
      ofUri_append_of_not_mem rightPath equals]
    rcases alike with present | samePaths | nothing
    · exact absurd present equals
    · simp only [samePaths]
    · have noItems : ofText text = ⟨[]⟩ :=
        congrArg Query.mk ((ofText_items_eq_nil_iff equals).mpr nothing)
      rw [noItems, ite_self, ite_self]

theorem ReadsAlike.symm
    {left right text : Text}
    (alike : ReadsAlike left right text) :
    ReadsAlike right left text :=
  alike.imp_right (Or.imp_left Iff.symm)

/-- If a query contributes the same after a path with an equals sign as after
another path, the two are read alike. -/
private theorem readsAlike_of_mem
    {left right text : Text}
    (leftPath : '?' ∉ left)
    (rightPath : '?' ∉ right)
    (inLeft : '=' ∈ left)
    (samePairs : (ofUri (left ++ '?' :: text)).pairs =
      (ofUri (right ++ '?' :: text)).pairs)
    (sameFailures : (ofUri (left ++ '?' :: text)).failures =
      (ofUri (right ++ '?' :: text)).failures) :
    ReadsAlike left right text := by
  by_cases equals : '=' ∈ text
  · exact Or.inl equals
  · by_cases inRight : '=' ∈ right
    · exact Or.inr (Or.inl (iff_of_true inLeft inRight))
    · rw [ofUri_append_of_not_mem leftPath equals, if_pos inLeft,
        ofUri_append_of_not_mem rightPath equals, if_neg inRight]
        at samePairs sameFailures
      have noItems : (ofText text).items = [] :=
        (items_eq_nil_iff _).mpr ⟨samePairs, sameFailures⟩
      exact Or.inr (Or.inr ((ofText_items_eq_nil_iff equals).mp noItems))

/-- A query contributes the same after two paths exactly when they are read
alike. -/
theorem pairs_eq_and_failures_eq_iff
    {left right : Text}
    (leftPath : '?' ∉ left)
    (rightPath : '?' ∉ right)
    (text : Text) :
    ((ofUri (left ++ '?' :: text)).pairs = (ofUri (right ++ '?' :: text)).pairs ∧
        (ofUri (left ++ '?' :: text)).failures =
          (ofUri (right ++ '?' :: text)).failures) ↔
      ReadsAlike left right text := by
  constructor
  · rintro ⟨samePairs, sameFailures⟩
    by_cases inLeft : '=' ∈ left
    · exact readsAlike_of_mem leftPath rightPath inLeft samePairs sameFailures
    · by_cases inRight : '=' ∈ right
      · exact (readsAlike_of_mem rightPath leftPath inRight samePairs.symm
          sameFailures.symm).symm
      · exact Or.inr (Or.inl (iff_of_false inLeft inRight))
  · intro alike
    rw [ofUri_eq_of_readsAlike leftPath rightPath alike]
    exact ⟨rfl, rfl⟩

end Query

namespace Dispatcher

/-- A dispatcher of the query alone sees only what the query contributes. -/
theorem criteria_eq_of_ofUri_eq
    {dispatcher : Dispatcher}
    (queryOnly : dispatcher.style = .params)
    {left right : Text}
    (sameQuery : Query.ofUri left = Query.ofUri right) :
    dispatcher.criteria left = dispatcher.criteria right := by
  unfold criteria
  rw [queryOnly]
  unfold queryCriteria Query.criteriaOf Query.read
  rw [sameQuery]

/-- A query contributes the same after two paths exactly when they are read alike,
and a dispatcher of the query alone then gives both requests the same criteria. -/
theorem pathIndependent_iff_readsAlike
    {left right : Text}
    (leftPath : '?' ∉ left)
    (rightPath : '?' ∉ right)
    (text : Text) :
    (((Query.ofUri (left ++ '?' :: text)).pairs =
          (Query.ofUri (right ++ '?' :: text)).pairs ∧
        (Query.ofUri (left ++ '?' :: text)).failures =
          (Query.ofUri (right ++ '?' :: text)).failures) ↔
      Query.ReadsAlike left right text) ∧
      (Query.ReadsAlike left right text ->
        ∀ dispatcher : Dispatcher, dispatcher.style = .params ->
          dispatcher.criteria (left ++ '?' :: text) =
            dispatcher.criteria (right ++ '?' :: text)) := by
  constructor
  · exact Query.pairs_eq_and_failures_eq_iff leftPath rightPath text
  · intro alike dispatcher queryOnly
    exact criteria_eq_of_ofUri_eq queryOnly
      (Query.ofUri_eq_of_readsAlike leftPath rightPath alike)

/-- The query has an equals sign of its own, so that of the first path does not
matter. -/
theorem pathIndependent_iff_readsAlike_flagAndPage :
    Query.ReadsAlike "/a=b".toList "/c".toList "flag&page=2".toList ∧
      (Query.ofUri ("/a=b".toList ++ '?' :: "flag&page=2".toList)).pairs =
        (Query.ofUri ("/c".toList ++ '?' :: "flag&page=2".toList)).pairs ∧
      (criteria ⟨.params, "flag && page".toList, none, none⟩
          ("/a=b".toList ++ '?' :: "flag&page=2".toList)).outcome =
        .ok "?flag=?page=2".toList ∧
      criteria ⟨.params, "flag && page".toList, none, none⟩
          ("/a=b".toList ++ '?' :: "flag&page=2".toList) =
        criteria ⟨.params, "flag && page".toList, none, none⟩
          ("/c".toList ++ '?' :: "flag&page=2".toList) := by
  have alike : Query.ReadsAlike "/a=b".toList "/c".toList "flag&page=2".toList := by
    decide
  have leftPath : '?' ∉ "/a=b".toList := by decide
  have rightPath : '?' ∉ "/c".toList := by decide
  obtain ⟨same, sameCriteria⟩ :=
    pathIndependent_iff_readsAlike leftPath rightPath "flag&page=2".toList
  exact ⟨alike, (same.mpr alike).1, rfl, sameCriteria alike _ rfl⟩

/-- A flag is a parameter after `/a=b`, which has an equals sign, and is none after
`/a`. -/
theorem flag_read_after_equals_in_path :
    ('?' ∉ "/a=b".toList ∧ '?' ∉ "/a".toList) ∧
      ((Query.ofUri ("/a=b".toList ++ '?' :: "x".toList)).pairs =
          [("x".toList, [])] ∧
        (Query.ofUri ("/a".toList ++ '?' :: "x".toList)).pairs = []) ∧
      (criteria ⟨.params, "x".toList, none, none⟩
          ("/a=b".toList ++ '?' :: "x".toList)).outcome = .ok "?x=".toList ∧
        (criteria ⟨.params, "x".toList, none, none⟩
          ("/a".toList ++ '?' :: "x".toList)).outcome = .ok [] :=
  ⟨⟨by decide, by decide⟩, ⟨rfl, rfl⟩, rfl, rfl⟩

end Dispatcher
end RequestKey
