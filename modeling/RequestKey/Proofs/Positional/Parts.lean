import Mathlib.Data.List.DropRight
import RequestKey.Positional.Criteria
import RequestKey.Proofs.Bindings.Reading
import RequestKey.Proofs.Positional.Base
import RequestKey.Proofs.Rule.Names
import RequestKey.Proofs.Text.Pieces

/-!
# Positional parts

The parts of a text are what stands between its slashes, so they determine the
text up to the slashes at its end.  Their variables have different names, and no
part holds the slash in front of a name, so the criteria of a URI under a base
determine its parts.

The main statements are that the parts of two URIs under a base agree exactly
when the URIs agree up to slashes at the end, and that their criteria agree
exactly when their parts do, so up to the same slashes.
-/

namespace RequestKey
namespace Positional

open Bindings

/-! ## Parts and slashes at the end -/

/-- A text without the slashes at its end. -/
def stem (text : Text) : Text :=
  text.rdropWhile (· == '/')

@[simp] theorem stem_nil : stem [] = [] := rfl

@[simp] theorem stem_append_slash (text : Text) :
    stem (text ++ ['/']) = stem text :=
  List.rdropWhile_concat_pos _ _ _ rfl

/-- The slashes at the end are those of the part that is not all slashes. -/
theorem stem_append (left right : Text) :
    stem (left ++ right) =
      if stem right = [] then stem left else left ++ stem right := by
  simp only [stem, List.rdropWhile, List.reverse_append, List.dropWhile_append,
    List.isEmpty_iff, List.reverse_eq_nil_iff]
  split <;> simp

/-- Joining with one more piece adds a mark unless the piece is the first. -/
private theorem intercalate_append_singleton
    (mark : Char)
    (pieces : List Text)
    (last : Text) :
    [mark].intercalate (pieces ++ [last]) =
      if pieces = [] then last else [mark].intercalate pieces ++ mark :: last := by
  induction pieces with
  | nil => simp
  | cons piece pieces inductionHypothesis =>
      cases pieces with
      | nil => simp [List.intercalate_cons_cons]
      | cons second pieces =>
          simp only [List.cons_append, List.intercalate_cons_cons,
            reduceCtorEq, if_false, List.append_assoc] at inductionHypothesis ⊢
          rw [inductionHypothesis]

/-- A part holds characters of the text other than the slash. -/
theorem mem_of_mem_parts
    {char : Char}
    {text part : Text}
    (member : part ∈ parts text)
    (inside : char ∈ part) :
    char ≠ '/' ∧ char ∈ text :=
  Text.mem_of_mem_splitOn
    ((List.rdropWhile_prefix List.isEmpty (text.splitOn '/')).subset member) inside

/-- Leaving out the empty pieces at the end is leaving out the marks there. -/
private theorem intercalate_rdropWhile_isEmpty
    {pieces : List Text}
    (plain : ∀ piece ∈ pieces, '/' ∉ piece) :
    ['/'].intercalate (pieces.rdropWhile List.isEmpty) =
      stem (['/'].intercalate pieces) := by
  induction pieces using List.reverseRecOn with
  | nil => rfl
  | append_singleton pieces last inductionHypothesis =>
      rw [List.forall_mem_append] at plain
      rw [List.rdropWhile_concat, intercalate_append_singleton]
      cases last using List.reverseRecOn with
      | nil =>
          rw [if_pos List.isEmpty_nil, inductionHypothesis plain.1]
          split
          · rename_i none
            rw [none, List.intercalate_nil]
          · rw [stem_append_slash]
      | append_singleton start char =>
          -- The last piece ends with another character, so nothing is left out.
          have notSlash : ¬(char == '/') = true := by
            have absent := plain.2 _ (List.mem_singleton_self _)
            simp only [List.mem_append, List.mem_singleton, not_or] at absent
            simpa using Ne.symm absent.2
          rw [if_neg (by simp), intercalate_append_singleton]
          split
          · exact (List.rdropWhile_concat_neg _ start char notSlash).symm
          · rw [← List.cons_append, ← List.append_assoc]
            exact (List.rdropWhile_concat_neg _ _ char notSlash).symm

/-- The parts of a text between slashes are the text without the slashes at its
end. -/
theorem intercalate_parts (text : Text) :
    ['/'].intercalate (parts text) = stem text := by
  calc
    ['/'].intercalate (parts text) =
        stem (['/'].intercalate (text.splitOn '/')) :=
      intercalate_rdropWhile_isEmpty fun _ isPiece inside =>
        (Text.mem_of_mem_splitOn isPiece inside).1 rfl
    _ = stem text := by rw [List.intercalate_splitOn]

theorem parts_append_slash (text : Text) :
    parts (text ++ ['/']) = parts text := by
  have split : (text ++ ['/']).splitOn '/' = text.splitOn '/' ++ [[]] := by
    rw [List.splitOn_append_cons_self, List.splitOn_nil]
  unfold parts
  rw [split]
  exact List.rdropWhile_concat_pos List.isEmpty _ [] rfl

/-- The slashes at the end of a text separate no parts. -/
theorem parts_stem (text : Text) : parts (stem text) = parts text := by
  induction text using List.reverseRecOn with
  | nil => rfl
  | append_singleton text char inductionHypothesis =>
      by_cases isSlash : char = '/'
      · rw [isSlash, stem_append_slash, parts_append_slash, inductionHypothesis]
      · rw [stem, List.rdropWhile_concat_neg _ _ _ (by simpa using isSlash)]

/-- Two texts have the same parts exactly when they are equal without the slashes
at their ends. -/
theorem parts_eq_parts_iff (left right : Text) :
    parts left = parts right ↔ stem left = stem right := by
  constructor
  · intro equal
    rw [← intercalate_parts, equal, intercalate_parts]
  · intro equal
    rw [← parts_stem, equal, parts_stem]

/-! ## Parts after a base -/

/-- What follows a base in a URI under it: nothing, or a slash and more. -/
def FollowsBase (rest : Text) : Prop :=
  rest = [] ∨ ['/'] <+: rest

instance : DecidablePred FollowsBase := fun rest =>
  inferInstanceAs (Decidable (rest = [] ∨ ['/'] <+: rest))

theorem isUnder_iff_exists (base uri : Text) :
    isUnder base uri = true ↔ ∃ rest, FollowsBase rest ∧ uri = base ++ rest := by
  rw [isUnder_iff]
  constructor
  · rintro (rfl | ⟨later, rfl⟩)
    · exact ⟨[], Or.inl rfl, (List.append_nil _).symm⟩
    · exact ⟨'/' :: later, Or.inr (List.prefix_append ['/'] later),
        List.append_assoc _ _ _⟩
  · rintro ⟨rest, rfl | ⟨later, rfl⟩, rfl⟩
    · exact Or.inl (List.append_nil _)
    · exact Or.inr ⟨later, List.append_assoc _ _ _⟩

theorem partsAfter_append (base rest : Text) :
    partsAfter base (base ++ rest) = parts (rest.drop 1) := by
  rw [partsAfter, ← List.drop_drop, List.drop_left]

/-- What follows a base begins with a slash unless it is all slashes. -/
theorem stem_eq_of_followsBase
    {rest : Text}
    (follows : FollowsBase rest) :
    stem rest =
      if stem (rest.drop 1) = [] then [] else '/' :: stem (rest.drop 1) := by
  rcases follows with rfl | ⟨later, rfl⟩
  · rfl
  · exact stem_append ['/'] later

/-- The slash after a base does not matter for the comparison of what follows. -/
theorem stem_drop_one_eq_iff
    {left right : Text}
    (leftFollows : FollowsBase left)
    (rightFollows : FollowsBase right) :
    stem (left.drop 1) = stem (right.drop 1) ↔ stem left = stem right := by
  rw [stem_eq_of_followsBase leftFollows, stem_eq_of_followsBase rightFollows]
  constructor
  · intro equal
    rw [equal]
  · intro equal
    split at equal <;> split at equal <;> simp_all

/-- Two URIs have the same parts after a base exactly when what follows the base
is equal without the slashes at the end. -/
theorem partsAfter_append_eq_iff
    (base : Text)
    {left right : Text}
    (leftFollows : FollowsBase left)
    (rightFollows : FollowsBase right) :
    partsAfter base (base ++ left) = partsAfter base (base ++ right) ↔
      stem left = stem right := by
  rw [partsAfter_append, partsAfter_append, parts_eq_parts_iff,
    stem_drop_one_eq_iff leftFollows rightFollows]

/-- URIs under a base with the same parts are equal without the slashes at their
ends. -/
theorem stem_eq_of_partsAfter_eq
    {base left right : Text}
    (leftUnder : isUnder base left = true)
    (rightUnder : isUnder base right = true)
    (equal : partsAfter base left = partsAfter base right) :
    stem left = stem right := by
  obtain ⟨left, leftFollows, rfl⟩ := (isUnder_iff_exists base left).mp leftUnder
  obtain ⟨right, rightFollows, rfl⟩ :=
    (isUnder_iff_exists base right).mp rightUnder
  have sameRest :=
    (partsAfter_append_eq_iff base leftFollows rightFollows).mp equal
  rw [stem_append, stem_append, sameRest]

/-- A URI that continues a base inside a segment differs from it in more than
slashes at the end. -/
theorem stem_ne_of_not_isUnder
    {base uri : Text}
    (starts : base <+: uri)
    (apart : ¬isUnder base uri = true) :
    stem base ≠ stem uri := by
  obtain ⟨rest, rfl⟩ := starts
  have notFollows : ¬FollowsBase rest := fun follows =>
    apart ((isUnder_iff_exists base _).mpr ⟨rest, follows, rfl⟩)
  have restVaries : stem rest ≠ [] := by
    intro allSlashes
    have slashes := List.rdropWhile_eq_nil_iff.mp allSlashes
    cases rest with
    | nil => exact notFollows (Or.inl rfl)
    | cons char rest =>
        have isSlash : char = '/' := by
          simpa using slashes char List.mem_cons_self
        rw [isSlash] at notFollows
        exact notFollows (Or.inr (List.prefix_append ['/'] rest))
  rw [stem_append, if_neg restVaries]
  intro equal
  have shorter : (stem base).length ≤ base.length :=
    (List.rdropWhile_prefix _ base).length_le
  rw [equal, List.length_append] at shorter
  have longer := List.length_pos_iff.mpr restVaries
  omega

/-! ## The rule of examples -/

private theorem foldl_max_le_iff
    (values : List Nat)
    (start bound : Nat) :
    values.foldl max start ≤ bound ↔
      start ≤ bound ∧ ∀ value ∈ values, value ≤ bound := by
  induction values generalizing start with
  | nil => simp
  | cons value values inductionHypothesis =>
      rw [List.foldl_cons, inductionHypothesis, Nat.max_le, List.forall_mem_cons,
        and_assoc]

/-- The number of variables is the least that suffices for every example. -/
theorem partCount_le_iff
    (first : Text)
    (others : List Text)
    (bound : Nat) :
    partCount first others ≤ bound ↔
      ∀ uri ∈ first :: others,
        (partsAfter (base first others) uri).length ≤ bound := by
  rw [partCount, foldl_max_le_iff]
  simp only [Nat.zero_le, true_and, List.forall_mem_map]

/-- The rule is empty exactly when no example has a part after the base. -/
theorem rule_eq_nil_iff (first : Text) (others : List Text) :
    rule first others = [] ↔
      ∀ uri ∈ first :: others, partsAfter (base first others) uri = [] := by
  have noCount : rule first others = [] ↔ partCount first others ≤ 0 := by
    unfold rule partNames
    cases partCount first others with
    | zero => simp
    | succ count =>
        rw [List.range_succ_eq_map, List.map_cons]
        simp [Rule.join_cons_ne_nil, partName]
  rw [noCount, partCount_le_iff]
  simp only [Nat.le_zero_eq, List.length_eq_zero_iff]

/-! ## Variables of parts -/

/-- The name of a variable consists of letters and digits. -/
theorem not_mem_partName
    {char : Char}
    (notLetter : char ∉ ['p', 'a', 'r', 't'])
    (notDigit : ¬char.isDigit = true)
    (position : Nat) :
    char ∉ partName position := by
  unfold partName
  rw [List.mem_append, not_or]
  refine ⟨notLetter, fun member => notDigit ?_⟩
  exact Nat.isDigit_of_mem_toDigits (by decide) (by decide) member

theorem partName_injective : Function.Injective partName := by
  intro left right equal
  have digits : Nat.toDigits 10 left = Nat.toDigits 10 right :=
    List.append_cancel_left equal
  have numbers := congrArg (Nat.ofDigitChars 10 · 0) digits
  simpa only [Nat.ofDigitChars_ten_toDigits] using numbers

/-- The variables of parts with their values. -/
def numbered (values : List Text) : List (Text × Text) :=
  values.mapIdx fun index part => (partName (index + 1), part)

theorem mem_numbered_iff
    (values : List Text)
    (index : Nat)
    (value : Text) :
    (partName (index + 1), value) ∈ numbered values ↔
      values[index]? = some value := by
  simp only [numbered, List.mem_mapIdx, Prod.mk.injEq, partName_injective.eq_iff,
    Nat.add_right_cancel_iff, List.getElem?_eq_some_iff]
  constructor
  · rintro ⟨_, bound, rfl, equal⟩
    exact ⟨bound, equal⟩
  · rintro ⟨bound, equal⟩
    exact ⟨index, bound, rfl, equal⟩

/-- The variables of parts are the first ones. -/
theorem map_fst_numbered (values : List Text) :
    (numbered values).map Prod.fst = partNames values.length := by
  apply List.ext_getElem
  · simp [numbered, partNames]
  · intro index _ _
    simp [numbered, partNames]

/-- The variables of parts have different names. -/
theorem nodup_numbered (values : List Text) :
    ((numbered values).map Prod.fst).Nodup := by
  rw [map_fst_numbered, partNames, List.Nodup, List.pairwise_map]
  apply List.nodup_range.imp
  intro left right different equal
  exact different (Nat.succ.inj (partName_injective equal))

/-- Parts are determined by the bindings of their variables. -/
theorem ofPairs_numbered_injective
    {left right : List Text}
    (equal : ofPairs (numbered left) = ofPairs (numbered right)) :
    left = right := by
  have bound : ∀ (values : List Text) (index : Nat) (value : Text),
      (ofPairs (numbered values)).value? (partName (index + 1)) = some value ↔
        values[index]? = some value := by
    intro values index value
    rw [value?_ofPairs_eq_some_iff, isLastValue_iff_mem (nodup_numbered values),
      mem_numbered_iff]
  apply List.ext_getElem?
  intro index
  apply Option.ext
  intro value
  rw [← bound, ← bound, equal]

theorem bindings_eq_ofPairs
    {base uri : Text}
    (under : isUnder base uri = true) :
    bindings base uri = ofPairs (numbered (partsAfter base uri)) := by
  unfold bindings
  rw [if_pos under]
  rfl

/-! ## Criteria of parts -/

/-- An entry of positional bindings has the name of a variable and the value of a
part. -/
theorem exists_of_mem_bindings
    {base uri : Text}
    {entry : Text × Text}
    (member : entry ∈ (bindings base uri).entries) :
    ∃ index, entry.1 = partName (index + 1) ∧ entry.2 ∈ partsAfter base uri := by
  unfold bindings at member
  split at member
  · obtain ⟨index, within, rfl⟩ :=
      List.mem_mapIdx.mp (mem_of_mem_entries_ofPairs member)
    exact ⟨index, rfl, List.getElem_mem within⟩
  · simp at member

/-- Names by which positional bindings are read back. -/
private def IsPlain (name : Text) : Prop :=
  '/' ∉ name ∧ '=' ∉ name

private theorem isPlain_of_mem_bindings
    {base uri : Text}
    {entry : Text × Text}
    (member : entry ∈ (bindings base uri).entries) :
    IsPlain entry.1 := by
  obtain ⟨index, named, _⟩ := exists_of_mem_bindings member
  rw [named]
  exact ⟨not_mem_partName (by decide) (by decide) _,
    not_mem_partName (by decide) (by decide) _⟩

/-- A part cannot hold the lead of a name, which begins with a slash. -/
private theorem isReadable_bindings (base uri : Text) :
    IsReadable '/' IsPlain (bindings base uri).entries where
  plain := fun _ _ _ named _ => named.2
  clear := by
    intro entry member name _ _ inside
    obtain ⟨_, _, isPart⟩ := exists_of_mem_bindings member
    have slash : '/' ∈ entry.2 := inside.subset (by simp [lead])
    exact (mem_of_mem_parts isPart slash).1 rfl

/-- URIs under a base have the same criteria exactly when they have the same parts
after it. -/
theorem criteria_eq_criteria_iff
    {base left right : Text}
    (leftUnder : isUnder base left = true)
    (rightUnder : isUnder base right = true) :
    criteria base left = criteria base right ↔
      partsAfter base left = partsAfter base right := by
  constructor
  · intro equal
    have sameBindings : bindings base left = bindings base right :=
      eq_of_criteria_eq (by decide) (fun _ => isPlain_of_mem_bindings)
        (fun _ => isPlain_of_mem_bindings) (isReadable_bindings base left)
        (isReadable_bindings base right) (fun _ _ _ named _ => named.1) equal
    rw [bindings_eq_ofPairs leftUnder, bindings_eq_ofPairs rightUnder]
      at sameBindings
    exact ofPairs_numbered_injective sameBindings
  · intro equal
    rw [criteria, criteria, bindings_eq_ofPairs leftUnder,
      bindings_eq_ofPairs rightUnder, equal]

/-- Two URIs under a base have the same criteria exactly when what follows the base
is equal without the slashes at the end. -/
theorem criteria_append_eq_iff
    (base : Text)
    {left right : Text}
    (leftFollows : FollowsBase left)
    (rightFollows : FollowsBase right) :
    criteria base (base ++ left) = criteria base (base ++ right) ↔
      stem left = stem right := by
  have leftUnder : isUnder base (base ++ left) = true :=
    (isUnder_iff_exists base _).mpr ⟨left, leftFollows, rfl⟩
  have rightUnder : isUnder base (base ++ right) = true :=
    (isUnder_iff_exists base _).mpr ⟨right, rightFollows, rfl⟩
  calc
    criteria base (base ++ left) = criteria base (base ++ right) ↔
        partsAfter base (base ++ left) = partsAfter base (base ++ right) :=
      criteria_eq_criteria_iff leftUnder rightUnder
    _ ↔ stem left = stem right :=
      partsAfter_append_eq_iff base leftFollows rightFollows

/-- Ten parts, of which some are empty and one reads like another variable, have the
same criteria with slashes at the end, and other criteria with one more slash
between them. -/
theorem criteria_append_eq_iff_tenParts :
    FollowsBase "//part2=1//d/e/f/g/h/i/j".toList ∧
      FollowsBase "//part2=1//d/e/f/g/h/i/j//".toList ∧
      FollowsBase "//part2=1///d/e/f/g/h/i/j".toList ∧
      criteria "/a/".toList "/a///part2=1//d/e/f/g/h/i/j".toList =
        criteria "/a/".toList "/a///part2=1//d/e/f/g/h/i/j//".toList ∧
      criteria "/a/".toList "/a///part2=1//d/e/f/g/h/i/j".toList ≠
        criteria "/a/".toList "/a///part2=1///d/e/f/g/h/i/j".toList := by
  have plain : FollowsBase "//part2=1//d/e/f/g/h/i/j".toList := by decide
  have slashed : FollowsBase "//part2=1//d/e/f/g/h/i/j//".toList := by decide
  have shifted : FollowsBase "//part2=1///d/e/f/g/h/i/j".toList := by decide
  exact ⟨plain, slashed, shifted,
    (criteria_append_eq_iff "/a/".toList plain slashed).mpr (by decide),
    (criteria_append_eq_iff "/a/".toList plain shifted).not.mpr (by decide)⟩

/-- A URI outside a base has no criteria. -/
theorem criteria_eq_nil_of_not_isUnder
    {base uri : Text}
    (apart : ¬isUnder base uri = true) :
    criteria base uri = [] := by
  rw [criteria, bindings, if_neg apart]
  rfl

/-- A base itself has no criteria. -/
@[simp] theorem criteria_self (base : Text) : criteria base base = [] := by
  rw [criteria, bindings_eq_ofPairs (isUnder_self base), partsAfter,
    List.drop_of_length_le (Nat.le_succ _)]
  rfl

/-- Criteria of parts hold only the characters of the URI and those by which names
are written. -/
theorem not_mem_criteria
    {char : Char}
    (notWritten : char ∉ ['/', '=', 'p', 'a', 'r', 't'])
    (notDigit : ¬char.isDigit = true)
    {base uri : Text}
    (absent : char ∉ uri) :
    char ∉ criteria base uri := by
  have notMarker : char ∉ pathMarker := fun slash => notWritten (by simp_all [pathMarker])
  have notEquals : char ≠ '=' := fun equals => notWritten (by simp [equals])
  apply Bindings.not_mem_criteria notMarker notEquals
  intro entry member
  obtain ⟨index, named, isPart⟩ := exists_of_mem_bindings member
  constructor
  · rw [named]
    exact not_mem_partName (fun letter => notWritten (by simp_all)) notDigit _
  · exact fun inside =>
      absent (List.mem_of_mem_drop (mem_of_mem_parts isPart inside).2)

end Positional
end RequestKey
