import RequestKey.Positional.Criteria
import RequestKey.Proofs.Positional.Base

/-!
# The longest shared path

A path is shared by URIs when each of them continues it after a slash.  Shared
paths begin the first URI, so the longest one is unique.

The main statement says that the base of examples is the first one if all others
start with that, else the longest shared path, and nothing if no path is shared.
It follows that neither the order nor the number of the other examples matters.
-/

namespace RequestKey
namespace Positional

/-! ## Shared paths -/

/-- Every URI continues the path after a slash. -/
def IsSharedPath (path : Text) (uris : List Text) : Prop :=
  ∀ uri ∈ uris, path ++ ['/'] <+: uri

/-- The longest of the paths that URIs share. -/
structure IsLongestSharedPath (path : Text) (uris : List Text) : Prop where
  /-- The URIs share the path. -/
  shared : IsSharedPath path uris
  /-- They share no longer path. -/
  longest : ∀ other, IsSharedPath other uris -> other.length ≤ path.length

/-- Shared paths of equal length are equal. -/
theorem IsSharedPath.eq_of_length_eq
    {left right first : Text}
    {others : List Text}
    (leftShared : IsSharedPath left (first :: others))
    (rightShared : IsSharedPath right (first :: others))
    (sameLength : left.length = right.length) :
    left = right := by
  have leftStarts := leftShared first List.mem_cons_self
  have rightStarts := rightShared first List.mem_cons_self
  have starts : left ++ ['/'] <+: right ++ ['/'] :=
    List.prefix_of_prefix_length_le leftStarts rightStarts (by simp [sameLength])
  have equal := starts.eq_of_length (by simp [sameLength])
  exact List.append_cancel_right equal

theorem IsLongestSharedPath.eq
    {left right first : Text}
    {others : List Text}
    (leftLongest : IsLongestSharedPath left (first :: others))
    (rightLongest : IsLongestSharedPath right (first :: others)) :
    left = right :=
  leftLongest.shared.eq_of_length_eq rightLongest.shared
    (Nat.le_antisymm (rightLongest.longest left leftLongest.shared)
      (leftLongest.longest right rightLongest.shared))

/-- A path is shared exactly when what all examples start with continues it after
a slash. -/
theorem isSharedPath_iff
    (path first : Text)
    (others : List Text) :
    IsSharedPath path (first :: others) ↔
      path ++ ['/'] <+: sharedStart first others :=
  (isPrefix_sharedStart_iff _ first others).symm

/-- Examples that share a path share a longest one, which ends before the last
slash of what they all start with. -/
theorem isLongestSharedPath_beforeLast
    {first : Text}
    {others : List Text}
    (slash : '/' ∈ sharedStart first others) :
    IsLongestSharedPath ((sharedStart first others).beforeLast '/')
      (first :: others) where
  shared := by
    rw [isSharedPath_iff]
    exact Text.beforeLast_append_mark_isPrefix slash
  longest := by
    intro other shared
    rw [isSharedPath_iff] at shared
    exact (Text.isPrefix_beforeLast shared).length_le

/-- Examples whose shared start has no slash share no path. -/
theorem not_isSharedPath
    {first : Text}
    {others : List Text}
    (noSlash : '/' ∉ sharedStart first others)
    (path : Text) :
    ¬IsSharedPath path (first :: others) := by
  rw [isSharedPath_iff]
  intro starts
  exact noSlash (starts.subset (by simp))

/-- Every path that examples share begins their base. -/
theorem IsSharedPath.isPrefix_base
    {path first : Text}
    {others : List Text}
    (shared : IsSharedPath path (first :: others)) :
    path <+: base first others := by
  unfold base
  split
  · have starts := shared first List.mem_cons_self
    exact (List.prefix_append path ['/']).trans starts
  · rw [isSharedPath_iff] at shared
    exact Text.isPrefix_beforeLast shared

/-! ## The base of examples -/

/-- The base of examples, said without comparing them character by character. -/
inductive IsBase (uris : List Text) (first : Text) : Text -> Prop
  /-- The first URI, when all start with it. -/
  | whole (starts : ∀ uri ∈ uris, first <+: uri) : IsBase uris first first
  /-- The longest shared path, when some URI does not start with the first. -/
  | longest
      {path : Text}
      (diverge : ¬∀ uri ∈ uris, first <+: uri)
      (isLongest : IsLongestSharedPath path uris) :
      IsBase uris first path
  /-- Nothing, when there is no shared path either. -/
  | nothing
      (diverge : ¬∀ uri ∈ uris, first <+: uri)
      (noneShared : ¬∃ path, IsSharedPath path uris) :
      IsBase uris first []

/-- Examples have one base. -/
theorem IsBase.eq
    {first left right : Text}
    {others : List Text}
    (leftBase : IsBase (first :: others) first left)
    (rightBase : IsBase (first :: others) first right) :
    left = right := by
  cases leftBase with
  | whole starts =>
      cases rightBase with
      | whole => rfl
      | longest diverge => exact absurd starts diverge
      | nothing diverge => exact absurd starts diverge
  | longest diverge leftLongest =>
      cases rightBase with
      | whole starts => exact absurd starts diverge
      | longest _ rightLongest => exact leftLongest.eq rightLongest
      | nothing _ noneShared => exact absurd ⟨_, leftLongest.shared⟩ noneShared
  | nothing diverge noneShared =>
      cases rightBase with
      | whole starts => exact absurd starts diverge
      | longest _ rightLongest => exact absurd ⟨_, rightLongest.shared⟩ noneShared
      | nothing => rfl

/-- A base depends on which URIs there are, not on their order or number. -/
theorem IsBase.congr
    {first path : Text}
    {left right : List Text}
    (same : ∀ uri, uri ∈ left ↔ uri ∈ right)
    (isBase : IsBase left first path) :
    IsBase right first path := by
  have sameShared : ∀ other,
      IsSharedPath other left ↔ IsSharedPath other right := by
    intro other
    simp only [IsSharedPath, same]
  cases isBase with
  | whole starts => exact .whole (by simpa only [same] using starts)
  | longest diverge isLongest =>
      refine .longest (by simpa only [same] using diverge) ?_
      exact {
        shared := (sameShared path).mp isLongest.shared
        longest := fun other shared =>
          isLongest.longest other ((sameShared other).mpr shared) }
  | nothing diverge noneShared =>
      refine .nothing (by simpa only [same] using diverge) ?_
      simpa only [sameShared] using noneShared

theorem isBase_base (first : Text) (others : List Text) :
    IsBase (first :: others) first (base first others) := by
  have allStart : (∀ uri ∈ first :: others, first <+: uri) ↔
      sharedStart first others = first := by
    rw [sharedStart_eq_first_iff, List.forall_mem_cons]
    exact and_iff_right (List.prefix_refl first)
  unfold base
  split
  · rename_i whole
    exact .whole (allStart.mpr whole)
  · rename_i notWhole
    rw [← allStart] at notWhole
    by_cases slash : '/' ∈ sharedStart first others
    · exact .longest notWhole (isLongestSharedPath_beforeLast slash)
    · rw [Text.beforeLast_eq_nil slash]
      exact .nothing notWhole fun ⟨path, shared⟩ =>
        not_isSharedPath slash path shared

/-- Examples have a base.  It is the first example if all start with that, else the
longest path that all continue after a slash, or nothing if there is none.
Listing the same examples in another order, or repeatedly, does not change it. -/
theorem baseOf_longestSharedPath
    (first : Text)
    (others : List Text) :
    ∃ path, baseOf (first :: others) = .ok path ∧
      (∀ other, IsBase (first :: others) first other ↔ other = path) ∧
      ∀ listed : List Text,
        (∀ uri, uri ∈ first :: listed ↔ uri ∈ first :: others) ->
          baseOf (first :: listed) = .ok path := by
  have isBase := isBase_base first others
  refine ⟨base first others, rfl, ?_, ?_⟩
  · intro other
    constructor
    · intro otherBase
      exact otherBase.eq isBase
    · rintro rfl
      exact isBase
  · intro listed same
    have listedBase := (isBase_base first listed).congr same
    rw [← listedBase.eq isBase]
    rfl

/-- Requests share the path of their collection, also when one of them is listed
first and again. -/
theorem baseOf_longestSharedPath_petPages :
    (∀ uri, uri ∈ ["/pets/1".toList, "/pets/22".toList, "/pets/".toList,
          "/pets/22".toList] ↔
        uri ∈ ["/pets/1".toList, "/pets/".toList, "/pets/22".toList]) ∧
      baseOf ["/pets/1".toList, "/pets/22".toList, "/pets/".toList,
          "/pets/22".toList] = .ok "/pets".toList := by
  have same : ∀ uri, uri ∈ ["/pets/1".toList, "/pets/22".toList, "/pets/".toList,
        "/pets/22".toList] ↔
      uri ∈ ["/pets/1".toList, "/pets/".toList, "/pets/22".toList] := by
    grind
  obtain ⟨path, found, _, unchanged⟩ :=
    baseOf_longestSharedPath "/pets/1".toList ["/pets/".toList, "/pets/22".toList]
  have isPets : path = "/pets".toList := Except.ok.inj (found.symm.trans rfl)
  exact ⟨same, isPets ▸ unchanged _ same⟩

end Positional
end RequestKey
