import RequestKey.Positional.Basic

/-!
# The base that examples share

What all examples start with is the longest such text.  Where it ends inside the
first example, the base ends before a slash of every example, so every example
lies under it.  Where it is the whole first example, the base is that example,
even if another one continues it inside a segment.

The main statement says that the latter is the only way in which an example
fails to lie under the base.
-/

namespace RequestKey
namespace Positional

/-! ## What all examples start with -/

/-- All examples start with a text exactly when their shared start does. -/
theorem isPrefix_sharedStart_iff
    (start first : Text)
    (others : List Text) :
    start <+: sharedStart first others ↔
      ∀ uri ∈ first :: others, start <+: uri := by
  unfold sharedStart
  induction others generalizing first with
  | nil => simp
  | cons other others inductionHypothesis =>
      rw [List.foldl_cons, inductionHypothesis]
      simp only [List.forall_mem_cons, Text.isPrefix_agreement_iff, and_assoc]

/-- Every example starts with the shared start. -/
theorem sharedStart_isPrefix
    {first uri : Text}
    {others : List Text}
    (member : uri ∈ first :: others) :
    sharedStart first others <+: uri :=
  (isPrefix_sharedStart_iff _ first others).mp (List.prefix_refl _) uri member

/-- The shared start is the first example exactly when all others start with
that. -/
theorem sharedStart_eq_first_iff
    (first : Text)
    (others : List Text) :
    sharedStart first others = first ↔ ∀ uri ∈ others, first <+: uri := by
  constructor
  · intro whole uri member
    have starts := sharedStart_isPrefix (List.mem_cons_of_mem first member)
    rwa [whole] at starts
  · intro starts
    have below : sharedStart first others <+: first :=
      sharedStart_isPrefix List.mem_cons_self
    have above : first <+: sharedStart first others := by
      rw [isPrefix_sharedStart_iff, List.forall_mem_cons]
      exact ⟨List.prefix_refl first, starts⟩
    exact below.eq_of_length_le above.length_le

/-! ## Lying under a base -/

/-- A URI lies under a base when it is the base or continues it after a
slash. -/
theorem isUnder_iff (base uri : Text) :
    isUnder base uri = true ↔ uri = base ∨ base ++ ['/'] <+: uri := by
  simp [isUnder]

@[simp] theorem isUnder_self (base : Text) : isUnder base base = true := by
  simp [isUnder]

theorem base_eq_first
    {first : Text}
    {others : List Text}
    (starts : ∀ uri ∈ others, first <+: uri) :
    base first others = first := by
  unfold base
  exact if_pos ((sharedStart_eq_first_iff first others).mpr starts)

/-- A base that is not the first example ends before a slash of every
example. -/
theorem base_append_slash_isPrefix
    {first : Text}
    {others : List Text}
    (diverge : ¬∀ uri ∈ others, first <+: uri)
    (absolute : ∀ uri ∈ first :: others, ['/'] <+: uri)
    {uri : Text}
    (member : uri ∈ first :: others) :
    base first others ++ ['/'] <+: uri := by
  have shared : ['/'] <+: sharedStart first others :=
    (isPrefix_sharedStart_iff _ first others).mpr absolute
  have slash : '/' ∈ sharedStart first others :=
    shared.subset List.mem_cons_self
  rw [← sharedStart_eq_first_iff] at diverge
  unfold base
  rw [if_neg diverge]
  apply List.IsPrefix.trans _ (sharedStart_isPrefix member)
  exact Text.beforeLast_append_mark_isPrefix slash

/-- All examples start with the first one, and some of them continues it
otherwise than after a slash. -/
def CutsSegment (first : Text) (others : List Text) : Prop :=
  (∀ uri ∈ others, first <+: uri) ∧ ∃ uri ∈ others, ¬isUnder first uri = true

instance (first : Text) (others : List Text) :
    Decidable (CutsSegment first others) :=
  inferInstanceAs (Decidable (_ ∧ _))

/-- Only the examples matter for a cut, not how often they are listed. -/
theorem cutsSegment_congr
    {first : Text}
    {left right : List Text}
    (same : ∀ uri, uri ∈ first :: left ↔ uri ∈ first :: right) :
    CutsSegment first left ↔ CutsSegment first right := by
  have ofAll : ∀ others : List Text, CutsSegment first others ↔
      (∀ uri ∈ first :: others, first <+: uri) ∧
        ∃ uri ∈ first :: others, ¬isUnder first uri = true := by
    intro others
    simp [CutsSegment]
  rw [ofAll, ofAll]
  simp only [same]

/-- A base that cuts no segment has every absolute example under it. -/
theorem isUnder_base_of_not_cutsSegment
    {first : Text}
    {others : List Text}
    (absolute : ∀ uri ∈ first :: others, ['/'] <+: uri)
    (noCut : ¬CutsSegment first others)
    {uri : Text}
    (member : uri ∈ first :: others) :
    isUnder (base first others) uri = true := by
  by_cases starts : ∀ uri ∈ others, first <+: uri
  · rw [base_eq_first starts]
    rcases List.mem_cons.mp member with rfl | isOther
    · exact isUnder_self uri
    · exact Decidable.byContradiction fun apart =>
        noCut ⟨starts, uri, isOther, apart⟩
  · rw [isUnder_iff]
    exact Or.inr (base_append_slash_isPrefix starts absolute member)

/-- Every example lies under the base that absolute examples share, unless the
first one cuts a segment of another. -/
theorem isUnder_base_iff
    {first : Text}
    {others : List Text}
    (absolute : ∀ uri ∈ first :: others, ['/'] <+: uri) :
    (∀ uri ∈ first :: others, isUnder (base first others) uri = true) ↔
      ¬CutsSegment first others := by
  constructor
  · rintro under ⟨starts, uri, isOther, apart⟩
    rw [base_eq_first starts] at under
    exact apart (under uri (List.mem_cons_of_mem first isOther))
  · intro noCut uri member
    exact isUnder_base_of_not_cutsSegment absolute noCut member

theorem isUnder_base_userz :
    (∀ uri ∈ ["/api/users".toList, "/api/userz".toList], ['/'] <+: uri) ∧
      ((∀ uri ∈ ["/api/users".toList, "/api/userz".toList],
          isUnder (base "/api/users".toList ["/api/userz".toList]) uri = true) ↔
        ¬CutsSegment "/api/users".toList ["/api/userz".toList]) :=
  ⟨by decide, isUnder_base_iff (by decide)⟩

/-- The base of `/a` and `/ab` is `/a`, outside which the second lies. -/
theorem not_isUnder_base_letterAdded :
    ¬∀ uri ∈ ["/a".toList, "/ab".toList],
      isUnder (base "/a".toList ["/ab".toList]) uri = true := by
  decide

end Positional
end RequestKey
