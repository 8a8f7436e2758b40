import RequestKey.Bindings.Lookup

/-!
# The last value of a name

A list of pairs may hold several values of one name.  Bindings built from it
keep the last one, and only that one.  When no name repeats, the order of the
pairs is immaterial.
-/

namespace RequestKey
namespace Bindings

/-- The last pair of a name in a list of pairs holds the given value. -/
def IsLastValue
    (pairs : List (Text × Text))
    (name value : Text) : Prop :=
  ∃ earlier later,
    pairs = earlier ++ (name, value) :: later ∧ name ∉ later.map Prod.fst

theorem not_isLastValue_nil (name value : Text) :
    ¬IsLastValue [] name value := by
  rintro ⟨earlier, later, equal, _⟩
  simp at equal

theorem IsLastValue.mem
    {pairs : List (Text × Text)}
    {name value : Text}
    (last : IsLastValue pairs name value) :
    (name, value) ∈ pairs := by
  obtain ⟨earlier, later, equal, _⟩ := last
  rw [equal]
  exact List.mem_append_right _ List.mem_cons_self

/-- A pair in front gives the last value only of a name that does not follow. -/
theorem isLastValue_cons
    (pair : Text × Text)
    (pairs : List (Text × Text))
    (name value : Text) :
    IsLastValue (pair :: pairs) name value ↔
      IsLastValue pairs name value ∨
        pair = (name, value) ∧ name ∉ pairs.map Prod.fst := by
  constructor
  · rintro ⟨earlier, later, equal, absent⟩
    cases earlier with
    | nil =>
        obtain ⟨rfl, rfl⟩ := List.cons.inj equal
        exact Or.inr ⟨rfl, absent⟩
    | cons first earlier =>
        obtain ⟨rfl, rfl⟩ := List.cons.inj equal
        exact Or.inl ⟨earlier, later, rfl, absent⟩
  · rintro (⟨earlier, later, rfl, absent⟩ | ⟨rfl, absent⟩)
    · exact ⟨pair :: earlier, later, rfl, absent⟩
    · exact ⟨[], pairs, rfl, absent⟩

/-- Where no name repeats, every pair is the last of its name. -/
theorem isLastValue_iff_mem
    {pairs : List (Text × Text)}
    (distinct : (pairs.map Prod.fst).Nodup)
    (name value : Text) :
    IsLastValue pairs name value ↔ (name, value) ∈ pairs := by
  refine ⟨IsLastValue.mem, ?_⟩
  intro member
  obtain ⟨earlier, later, rfl⟩ := List.append_of_mem member
  refine ⟨earlier, later, rfl, ?_⟩
  rw [List.map_append, List.map_cons] at distinct
  have tailDistinct := (List.nodup_append.mp distinct).2.1
  exact (List.nodup_cons.mp tailDistinct).1

/-- A name has a last value exactly when some pair gives it one. -/
theorem exists_isLastValue_iff
    (pairs : List (Text × Text))
    (name : Text) :
    (∃ value, IsLastValue pairs name value) ↔ name ∈ pairs.map Prod.fst := by
  induction pairs with
  | nil => simp [not_isLastValue_nil]
  | cons pair pairs inductionHypothesis =>
      obtain ⟨pairName, pairValue⟩ := pair
      simp only [isLastValue_cons, exists_or, inductionHypothesis,
        List.map_cons, List.mem_cons, Prod.mk.injEq]
      by_cases later : name ∈ pairs.map Prod.fst
      · simp [later]
      · simp [later, eq_comm]

/-- Putting pairs into bindings one after another replaces the value of every
name among them by its last one, and of no other name. -/
private theorem value?_foldl_insert
    (pairs : List (Text × Text))
    (bindings : Bindings)
    (name value : Text) :
    (pairs.foldl (fun bindings pair => bindings.insert pair.1 pair.2)
        bindings).value? name = some value ↔
      IsLastValue pairs name value ∨
        name ∉ pairs.map Prod.fst ∧ bindings.value? name = some value := by
  induction pairs generalizing bindings with
  | nil => simp [not_isLastValue_nil]
  | cons pair pairs inductionHypothesis =>
      obtain ⟨pairName, pairValue⟩ := pair
      rw [List.foldl_cons, inductionHypothesis, isLastValue_cons, value?_insert]
      by_cases same : name = pairName
      · subst same
        simp [and_comm]
      · simp [same, Ne.symm same]

/-- Bindings give each name the last of its values. -/
theorem value?_ofPairs_eq_some_iff
    (pairs : List (Text × Text))
    (name value : Text) :
    (ofPairs pairs).value? name = some value ↔
      IsLastValue pairs name value := by
  unfold ofPairs
  rw [value?_foldl_insert]
  simp

/-- A name has at most one last value. -/
theorem IsLastValue.eq
    {pairs : List (Text × Text)}
    {name left right : Text}
    (leftLast : IsLastValue pairs name left)
    (rightLast : IsLastValue pairs name right) :
    left = right := by
  rw [← value?_ofPairs_eq_some_iff] at leftLast rightLast
  exact Option.some.inj (leftLast.symm.trans rightLast)

/-- The entries of bindings built from pairs are the names with their last values. -/
theorem mem_entries_ofPairs_iff
    (pairs : List (Text × Text))
    (name value : Text) :
    (name, value) ∈ (ofPairs pairs).entries ↔ IsLastValue pairs name value := by
  rw [← value?_eq_some_iff, value?_ofPairs_eq_some_iff]

/-- Every entry of bindings built from pairs is one of the pairs. -/
theorem mem_of_mem_entries_ofPairs
    {pairs : List (Text × Text)}
    {entry : Text × Text}
    (member : entry ∈ (ofPairs pairs).entries) :
    entry ∈ pairs :=
  ((mem_entries_ofPairs_iff pairs entry.1 entry.2).mp member).mem

/-! ## Pairs with the same last values -/

/-- Only bindings built from pairs give each name the last of its values. -/
theorem eq_ofPairs_iff
    (bindings : Bindings)
    (pairs : List (Text × Text)) :
    bindings = ofPairs pairs ↔
      ∀ name value, bindings.value? name = some value ↔
        IsLastValue pairs name value := by
  constructor
  · rintro rfl
    exact value?_ofPairs_eq_some_iff pairs
  · intro lastValues
    apply eq_of_value?_eq
    intro name
    apply Option.ext
    intro value
    rw [lastValues, value?_ofPairs_eq_some_iff]

/-- Two lists of pairs denote the same mapping: they give the same names the same
last values. -/
def DenoteSame (left right : List (Text × Text)) : Prop :=
  ∀ name value, IsLastValue left name value ↔ IsLastValue right name value

/-- Lists of pairs give the same bindings exactly when they denote the same
mapping. -/
theorem ofPairs_eq_ofPairs_iff
    (left right : List (Text × Text)) :
    ofPairs left = ofPairs right ↔ DenoteSame left right := by
  rw [eq_ofPairs_iff]
  simp only [value?_ofPairs_eq_some_iff]
  rfl

/-- Pairs without repeated names give the same bindings in every order. -/
theorem ofPairs_eq_of_perm
    {left right : List (Text × Text)}
    (reordered : left.Perm right)
    (distinct : (left.map Prod.fst).Nodup) :
    ofPairs left = ofPairs right := by
  have rightDistinct : (right.map Prod.fst).Nodup :=
    (reordered.map Prod.fst).nodup_iff.mp distinct
  rw [ofPairs_eq_ofPairs_iff]
  intro name value
  rw [isLastValue_iff_mem distinct, isLastValue_iff_mem rightDistinct]
  exact reordered.mem_iff

/-- Only the pairs of a name matter for its last value. -/
theorem isLastValue_filter_iff
    (pairs : List (Text × Text))
    (name value : Text) :
    IsLastValue (pairs.filter fun pair => pair.1 = name) name value ↔
      IsLastValue pairs name value := by
  induction pairs with
  | nil => rfl
  | cons pair pairs inductionHypothesis =>
      by_cases same : pair.1 = name
      · have sameNames :
            name ∈ (pairs.filter fun pair => pair.1 = name).map Prod.fst ↔
              name ∈ pairs.map Prod.fst := by
          simp
        rw [List.filter_cons_of_pos (by simpa using same), isLastValue_cons,
          isLastValue_cons, inductionHypothesis, sameNames]
      · have different : pair ≠ (name, value) := fun equal => same (by rw [equal])
        rw [List.filter_cons_of_neg (by simpa using same), inductionHypothesis,
          isLastValue_cons]
        simp [different]

/-- Pairs give the same bindings in every order that keeps the pairs of each name
in theirs. -/
theorem ofPairs_eq_of_filter_eq
    {left right : List (Text × Text)}
    (same : ∀ name, (left.filter fun pair => pair.1 = name) =
      right.filter fun pair => pair.1 = name) :
    ofPairs left = ofPairs right := by
  rw [ofPairs_eq_ofPairs_iff]
  intro name value
  rw [← isLastValue_filter_iff left, same, isLastValue_filter_iff]

/-! ## Bound names -/

/-- The bound names, in ascending order. -/
def names (bindings : Bindings) : List Text :=
  bindings.entries.map Prod.fst

/-- Bindings built from pairs bind exactly the names of the pairs. -/
theorem mem_names_ofPairs
    (pairs : List (Text × Text))
    (name : Text) :
    name ∈ (ofPairs pairs).names ↔ name ∈ pairs.map Prod.fst := by
  rw [← exists_isLastValue_iff]
  simp only [← mem_entries_ofPairs_iff]
  simp [names]

/-- Bindings of the same names list them in the same order. -/
theorem names_eq_of_mem_iff
    {left right : Bindings}
    (same : ∀ name, name ∈ left.names ↔ name ∈ right.names) :
    left.names = right.names := by
  have ascending : ∀ bindings : Bindings,
      bindings.names.Pairwise fun lower upper => lower.precedes upper :=
    fun bindings => List.pairwise_map.mpr bindings.ascending
  have distinct : ∀ bindings : Bindings, bindings.names.Nodup := by
    intro bindings
    apply (ascending bindings).imp
    rintro lower upper below rfl
    simp at below
  apply List.Perm.eq_of_pairwise _ (ascending left) (ascending right)
  · exact (List.perm_ext_iff_of_nodup (distinct left) (distinct right)).mpr same
  · intro lower upper _ _ below above
    simpa using Text.precedes_trans below above

end Bindings
end RequestKey
