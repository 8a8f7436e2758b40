import RequestKey.Proofs.Positional.LongestPath
import RequestKey.Proofs.Positional.Variables

/-!
# Learning from more examples

A further example can only shorten the base, and a shorter base leaves more of
every URI to be cut into parts.  A text has one more part than it has slashes
before those at its end, so more text has no fewer parts.

The main statement says that the base of more examples begins the base of fewer,
and that the variables of fewer examples come first among those of more.
-/

namespace RequestKey
namespace Positional

/-! ## Numbers of parts -/

private theorem count_intercalate_slash
    {pieces : List Text}
    (nonempty : pieces ≠ [])
    (plain : ∀ piece ∈ pieces, '/' ∉ piece) :
    (['/'].intercalate pieces).count '/' + 1 = pieces.length := by
  induction pieces with
  | nil => exact absurd rfl nonempty
  | cons piece pieces inductionHypothesis =>
      obtain ⟨first, later⟩ := List.forall_mem_cons.mp plain
      cases pieces with
      | nil => simpa [List.count_eq_zero] using first
      | cons second pieces =>
          have counted := inductionHypothesis (by simp) later
          rw [List.intercalate_cons_cons, List.count_append, List.count_append,
            List.count_eq_zero.mpr first, List.length_cons, ← counted]
          simp only [List.count_singleton_self]
          omega

theorem parts_eq_nil_iff (text : Text) : parts text = [] ↔ stem text = [] :=
  parts_eq_parts_iff text []

/-- A text has one more part than there are slashes before those at its end. -/
theorem count_stem_add_one
    {text : Text}
    (nonempty : stem text ≠ []) :
    (stem text).count '/' + 1 = (parts text).length := by
  rw [← intercalate_parts]
  apply count_intercalate_slash
  · rwa [Ne, parts_eq_nil_iff]
  · intro part isPart inside
    exact (mem_of_mem_parts isPart inside).1 rfl

/-- Text in front of another does not take away parts. -/
theorem length_parts_le_append (left right : Text) :
    (parts right).length ≤ (parts (left ++ right)).length := by
  by_cases allSlashes : stem right = []
  · rw [(parts_eq_nil_iff right).mpr allSlashes]
    exact Nat.zero_le _
  · have joined : stem (left ++ right) = left ++ stem right := by
      rw [stem_append, if_neg allSlashes]
    have nonempty : stem (left ++ right) ≠ [] := by
      rw [joined]
      exact List.append_ne_nil_of_right_ne_nil left allSlashes
    rw [← count_stem_add_one allSlashes, ← count_stem_add_one nonempty, joined,
      List.count_append]
    omega

/-- A URI has no fewer parts after a shorter base, whether or not it lies under
either. -/
theorem length_partsAfter_le
    {shorter longer : Text}
    (noLonger : shorter.length ≤ longer.length)
    (uri : Text) :
    (partsAfter longer uri).length ≤ (partsAfter shorter uri).length := by
  have ends : uri.drop (longer.length + 1) <:+ uri.drop (shorter.length + 1) :=
    List.drop_suffix_drop_left uri (Nat.succ_le_succ noLonger)
  obtain ⟨more, split⟩ := ends
  unfold partsAfter
  rw [← split]
  exact length_parts_le_append more _

/-! ## More examples -/

/-- The base of more examples begins the base of fewer. -/
theorem base_append_isPrefix
    (first : Text)
    (others more : List Text) :
    base first (others ++ more) <+: base first others := by
  have isBase := isBase_base first (others ++ more)
  generalize base first (others ++ more) = later at isBase
  cases isBase with
  | whole starts =>
      have startsOthers : ∀ uri ∈ others, first <+: uri := fun uri member =>
        starts uri (List.mem_cons_of_mem first (List.mem_append_left more member))
      simp only [base_eq_first startsOthers, List.prefix_rfl]
  | longest _ isLongest =>
      apply IsSharedPath.isPrefix_base
      intro uri member
      exact isLongest.shared uri (List.mem_append_left more member)
  | nothing => exact List.nil_prefix

/-- More examples have no fewer variables. -/
theorem partCount_le_append
    (first : Text)
    (others more : List Text) :
    partCount first others ≤ partCount first (others ++ more) := by
  rw [partCount_le_iff]
  intro uri member
  have shorter := (base_append_isPrefix first others more).length_le
  have within := (partCount_le_iff first (others ++ more) _).mp (Nat.le_refl _)
    uri (List.mem_append_left more member)
  exact (length_partsAfter_le shorter uri).trans within

/-- The first variables begin any longer list of them. -/
theorem partNames_isPrefix
    {count bound : Nat}
    (noMore : count ≤ bound) :
    partNames count <+: partNames bound := by
  obtain ⟨further, rfl⟩ := Nat.exists_eq_add_of_le noMore
  unfold partNames
  rw [List.range_add, List.map_append]
  exact List.prefix_append _ _

/-- Further examples never lengthen the base that is learned, and never take a
variable out of the rule or change the order of those that it lists. -/
theorem learned_append_monotone
    (first : Text)
    (others more : List Text) :
    ∃ path laterPath rule laterRule,
      baseOf (first :: others) = .ok path ∧
      baseOf (first :: others ++ more) = .ok laterPath ∧
      ruleOf (first :: others) = .ok rule ∧
      ruleOf (first :: others ++ more) = .ok laterRule ∧
      laterPath <+: path ∧ rule.names <+: laterRule.names := by
  refine ⟨_, _, _, _, rfl, rfl, rfl, rfl, ?_, ?_⟩
  · exact base_append_isPrefix first others more
  · rw [names_rule, names_rule]
    exact partNames_isPrefix (partCount_le_append first others more)

end Positional
end RequestKey
