import RequestKey.Proofs.Dispatcher.Inferred

/-!
# Examples with different paths

A dispatcher that is inferred from examples without a template is positional under
the base of their paths.  Examples under the base whose paths differ in more than
slashes at the end have different criteria.  Where the first path cuts a segment of
another, nothing of either path is in the criteria.

The main statement puts both cases together.
-/

namespace RequestKey
namespace Dispatcher

open Positional Text

/-! ## Positional path sides -/

/-- Two different texts of a list remain when repeats are left out. -/
private theorem exists_eraseDups_eq_cons_cons
    {first left right : Text}
    {others : List Text}
    (leftMember : left ∈ first :: others)
    (rightMember : right ∈ first :: others)
    (different : left ≠ right) :
    ∃ second later, (first :: others).eraseDups = first :: second :: later := by
  obtain ⟨text, member, isOther⟩ : ∃ text ∈ others, text ≠ first := by
    by_contra none
    simp only [not_exists, not_and, not_not] at none
    have same : ∀ text ∈ first :: others, text = first :=
      List.forall_mem_cons.mpr ⟨rfl, none⟩
    exact different
      ((same left leftMember).trans (same right rightMember).symm)
  have remains : text ∈ (others.filter fun text => !text == first).eraseDups := by
    rw [List.mem_eraseDups]
    exact List.mem_filter.mpr ⟨member, by simpa using isOther⟩
  obtain ⟨second, later, split⟩ :=
    List.exists_cons_of_ne_nil (List.ne_nil_of_mem remains)
  exact ⟨second, later, by rw [List.eraseDups_cons, split]⟩

/-- Examples with different paths have a positional path side, which is learned
from the paths alone. -/
theorem PathSide.exists_ofExamples_eq
    {first left right : Text}
    {others : List Text}
    (leftMember : left ∈ first :: others)
    (rightMember : right ∈ first :: others)
    (different : left.before '?' ≠ right.before '?') :
    ∃ paths,
      PathSide.ofExamples (first :: others) =
          ⟨Positional.rule (first.before '?') paths, none,
            some (Positional.base (first.before '?') paths)⟩ ∧
        ∀ path, path ∈ first.before '?' :: paths ↔
          path ∈ (first :: others).map (Text.before '?') := by
  obtain ⟨second, later, distinct⟩ := exists_eraseDups_eq_cons_cons
    (List.mem_map_of_mem (f := Text.before '?') leftMember)
    (List.mem_map_of_mem rightMember) different
  have paths : differentPaths (first :: others) =
      first.before '?' :: second :: later := distinct
  refine ⟨second :: later, ?_, ?_⟩
  · rw [ofExamples, paths]
  · intro path
    rw [← paths, mem_differentPaths_iff]

/-- A positional dispatcher writes the parts of the path, if the path matters. -/
theorem pathSide_outcome_of_base
    {dispatcher : Dispatcher}
    {base : Text}
    (noTemplate : dispatcher.template = none)
    (hasBase : dispatcher.base = some base)
    (uri : Text) :
    (dispatcher.pathSide uri).outcome =
      .ok (if dispatcher.style.hasPathSide then
        Positional.criteria base (uri.before '?')
      else []) := by
  unfold pathSide pathCriteria
  rw [noTemplate, hasBase]
  split <;> rfl

/-- Requests with different path sides have different criteria, where the mark in
front of a query shows where the path sides end. -/
theorem exists_criteria_ne
    {dispatcher : Dispatcher}
    {left right leftKey rightKey : Text}
    (leftSide : (dispatcher.pathSide left).outcome = .ok leftKey)
    (rightSide : (dispatcher.pathSide right).outcome = .ok rightKey)
    (leftPlain : '?' ∉ leftKey)
    (rightPlain : '?' ∉ rightKey)
    (different : leftKey ≠ rightKey) :
    ∃ leftCriteria rightCriteria,
      (dispatcher.criteria left).outcome = .ok leftCriteria ∧
        (dispatcher.criteria right).outcome = .ok rightCriteria ∧
        leftCriteria ≠ rightCriteria := by
  refine ⟨leftKey ++ (dispatcher.selected left).criteria queryMarker,
    rightKey ++ (dispatcher.selected right).criteria queryMarker, ?_, ?_, ?_⟩
  · rw [criteria_outcome, leftSide]
    rfl
  · rw [criteria_outcome, rightSide]
    rfl
  · intro equal
    have both := eq_of_append_eq_of_avoids (noOverlap_singleton '?')
      (avoids_singleton leftPlain) (avoids_singleton rightPlain)
      (Bindings.endsAt_criteria '?' (dispatcher.selected left))
      (Bindings.endsAt_criteria '?' (dispatcher.selected right)) equal
    exact different both.1

/-! ## Examples under their base -/

/-- Two requests have different criteria under the dispatcher that is inferred
from examples. -/
def TellsApart (examples : List Text) (left right : Text) : Prop :=
  ∃ dispatcher leftCriteria rightCriteria,
    (infer none examples).outcome = .ok (some dispatcher) ∧
      (dispatcher.criteria left).outcome = .ok leftCriteria ∧
      (dispatcher.criteria right).outcome = .ok rightCriteria ∧
      leftCriteria ≠ rightCriteria

/-- Two requests have no criteria of the path under any dispatcher that is
inferred from examples. -/
def IgnoresPaths (examples : List Text) (left right : Text) : Prop :=
  ∀ dispatcher, (infer none examples).outcome = .ok (some dispatcher) ->
    (dispatcher.pathSide left).outcome = .ok [] ∧
      (dispatcher.pathSide right).outcome = .ok []

section Examples

variable {first : Text} {others : List Text}

/-- A positional path side with a rule gives a dispatcher with that side. -/
theorem exists_infer_of_ofExamples_eq
    {rule : Rule}
    {base : Text}
    (side : PathSide.ofExamples (first :: others) = ⟨rule, none, some base⟩)
    (varies : rule ≠ []) :
    ∃ dispatcher, (infer none (first :: others)).outcome = .ok (some dispatcher) ∧
      ∀ uri, (dispatcher.pathSide uri).outcome =
        .ok (Positional.criteria base (uri.before '?')) := by
  cases made : ofSides (PathSide.ofExamples (first :: others))
      (queryRule ((sources none (first :: others)).map Query.ofUri)) with
  | none =>
      rw [ofSides_eq_none_iff, side] at made
      exact absurd made.1 varies
  | some dispatcher =>
      have inferred : (infer none (first :: others)).outcome =
          .ok (some dispatcher) := by
        rw [infer_outcome, PathSide.infer_none, ← made]
        rfl
      obtain ⟨noTemplate, hasBase⟩ := template_eq_and_base_eq_of_ofSides made
      have pathMatters := (hasPathSide_iff_of_ofSides made).mpr
      rw [side] at noTemplate hasBase pathMatters
      refine ⟨dispatcher, inferred, fun uri => ?_⟩
      rw [pathSide_outcome_of_base noTemplate hasBase, if_pos (pathMatters varies)]

/-- Repeats among the paths of examples do not matter: every path lies under the
base of the different ones, unless the first cuts a segment of another. -/
private theorem isUnder_base_of_samePaths
    (absolute : ∀ uri ∈ first :: others, ['/'] <+: uri.before '?')
    (noCut : ¬CutsSegment (first.before '?') (others.map (Text.before '?')))
    {paths : List Text}
    (samePaths : ∀ path, path ∈ first.before '?' :: paths ↔
      path ∈ (first :: others).map (Text.before '?'))
    {path : Text}
    (member : path ∈ first.before '?' :: paths) :
    isUnder (Positional.base (first.before '?') paths) path = true := by
  have absolutePaths : ∀ path ∈ first.before '?' :: paths, ['/'] <+: path := by
    intro path isPath
    obtain ⟨uri, isExample, rfl⟩ := List.mem_map.mp ((samePaths path).mp isPath)
    exact absolute uri isExample
  rw [← cutsSegment_congr samePaths] at noCut
  exact isUnder_base_of_not_cutsSegment absolutePaths noCut member

/-- Examples with absolute paths of which the first cuts no segment are told apart
if their paths differ in more than slashes at the end. -/
theorem tellsApart_of_not_cutsSegment
    (absolute : ∀ uri ∈ first :: others, ['/'] <+: uri.before '?')
    (noCut : ¬CutsSegment (first.before '?') (others.map (Text.before '?')))
    {left right : Text}
    (leftMember : left ∈ first :: others)
    (rightMember : right ∈ first :: others)
    (different : stem (left.before '?') ≠ stem (right.before '?')) :
    TellsApart (first :: others) left right := by
  obtain ⟨paths, side, samePaths⟩ := PathSide.exists_ofExamples_eq leftMember
    rightMember fun equal => different (congrArg stem equal)
  have isPath : ∀ uri ∈ first :: others,
      uri.before '?' ∈ first.before '?' :: paths := fun uri member =>
    (samePaths _).mpr (List.mem_map_of_mem member)
  have under : ∀ uri ∈ first :: others,
      isUnder (Positional.base (first.before '?') paths) (uri.before '?') = true :=
    fun uri member => isUnder_base_of_samePaths absolute noCut samePaths
      (isPath uri member)
  have partsDiffer :
      partsAfter (Positional.base (first.before '?') paths) (left.before '?') ≠
        partsAfter (Positional.base (first.before '?') paths) (right.before '?') :=
    fun equal => different
      (stem_eq_of_partsAfter_eq (under left leftMember) (under right rightMember)
        equal)
  have varies : Positional.rule (first.before '?') paths ≠ [] := by
    intro noRule
    have noParts := (rule_eq_nil_iff _ paths).mp noRule
    exact partsDiffer ((noParts _ (isPath left leftMember)).trans
      (noParts _ (isPath right rightMember)).symm)
  obtain ⟨dispatcher, inferred, pathSides⟩ :=
    exists_infer_of_ofExamples_eq side varies
  obtain ⟨leftCriteria, rightCriteria, leftKey, rightKey, apart⟩ :=
    exists_criteria_ne (pathSides left) (pathSides right)
      (Positional.not_mem_criteria (by decide) (by decide) (not_mem_before '?' left))
      (Positional.not_mem_criteria (by decide) (by decide)
        (not_mem_before '?' right))
      (fun equal => partsDiffer ((criteria_eq_criteria_iff (under left leftMember)
        (under right rightMember)).mp equal))
  exact ⟨dispatcher, leftCriteria, rightCriteria, inferred, leftKey, rightKey,
    apart⟩

/-- Where the path of the first example cuts a segment of another path, the two
differ in more than slashes at the end and nothing of them is in the criteria. -/
theorem exists_ignoresPaths_of_cutsSegment
    (cut : CutsSegment (first.before '?') (others.map (Text.before '?'))) :
    ∃ other ∈ others,
      stem (first.before '?') ≠ stem (other.before '?') ∧
        IgnoresPaths (first :: others) first other := by
  obtain ⟨starts, path, member, apart⟩ := cut
  obtain ⟨other, isOther, rfl⟩ := List.mem_map.mp member
  have different := stem_ne_of_not_isUnder (starts _ member) apart
  refine ⟨other, isOther, different, fun dispatcher inferred => ?_⟩
  obtain ⟨paths, side, samePaths⟩ := PathSide.exists_ofExamples_eq
    List.mem_cons_self (List.mem_cons_of_mem first isOther)
    fun equal => different (congrArg stem equal)
  have sameBase : Positional.base (first.before '?') paths = first.before '?' := by
    apply base_eq_first
    intro path isPath
    have given := (samePaths path).mp (List.mem_cons_of_mem _ isPath)
    rcases List.mem_cons.mp given with rfl | isOther
    · exact List.prefix_rfl
    · exact starts path isOther
  obtain ⟨_, isSide, made⟩ := exists_ofSides_of_infer inferred
  rw [PathSide.infer_none] at isSide
  cases isSide
  obtain ⟨noTemplate, hasBase⟩ := template_eq_and_base_eq_of_ofSides made
  rw [side] at noTemplate hasBase
  rw [sameBase] at hasBase
  rw [pathSide_outcome_of_base noTemplate hasBase,
    pathSide_outcome_of_base noTemplate hasBase, criteria_self,
    criteria_eq_nil_of_not_isUnder apart, ite_self]
  exact ⟨rfl, rfl⟩

/-- Examples with absolute paths that differ in more than slashes at the end are
told apart, unless the path of the first cuts a segment of another.  The paths of
those two are then ignored. -/
theorem tellsApart_unless_cutsSegment
    (absolute : ∀ uri ∈ first :: others, ['/'] <+: uri.before '?') :
    (¬CutsSegment (first.before '?') (others.map (Text.before '?')) ->
        ∀ left ∈ first :: others, ∀ right ∈ first :: others,
          stem (left.before '?') ≠ stem (right.before '?') ->
            TellsApart (first :: others) left right) ∧
      (CutsSegment (first.before '?') (others.map (Text.before '?')) ->
        ∃ other ∈ others,
          stem (first.before '?') ≠ stem (other.before '?') ∧
            IgnoresPaths (first :: others) first other) := by
  constructor
  · intro noCut left leftMember right rightMember different
    exact tellsApart_of_not_cutsSegment absolute noCut leftMember rightMember
      different
  · exact exists_ignoresPaths_of_cutsSegment

end Examples

theorem tellsApart_unless_cutsSegment_users :
    (∀ uri ∈ ["/users/1".toList, "/users/".toList, "/users/1/x?y=z".toList],
        ['/'] <+: Text.before '?' uri) ∧
      TellsApart ["/users/1".toList, "/users/".toList, "/users/1/x?y=z".toList]
        "/users/1".toList "/users/1/x?y=z".toList := by
  have absolute :
      ∀ uri ∈ ["/users/1".toList, "/users/".toList, "/users/1/x?y=z".toList],
        ['/'] <+: Text.before '?' uri := by
    decide
  exact ⟨absolute, (tellsApart_unless_cutsSegment absolute).1 (by decide)
    _ (by decide) _ (by decide) (by decide)⟩

/-- Nothing is inferred from `/a` and `/ab`, and no request is told apart from
another by its path with what is inferred from `/a` and `/ab/c`. -/
theorem not_tellsApart_letterAdded :
    (stem "/a".toList ≠ stem "/ab".toList ∧
        ¬TellsApart ["/a".toList, "/ab".toList] "/a".toList "/ab".toList) ∧
      stem "/a".toList ≠ stem "/ab/c".toList ∧
        ¬TellsApart ["/a".toList, "/ab/c".toList] "/a".toList "/ab/c".toList := by
  refine ⟨⟨by decide, ?_⟩, by decide, ?_⟩
  · rintro ⟨dispatcher, _, _, inferred, _⟩
    have nothing : (infer none ["/a".toList, "/ab".toList]).outcome = .ok none := rfl
    rw [nothing] at inferred
    cases inferred
  · rintro ⟨dispatcher, _, _, inferred, left, right, different⟩
    cases inferred
    cases left
    cases right
    exact different rfl

end Dispatcher
end RequestKey
