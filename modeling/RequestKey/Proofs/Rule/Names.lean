import Mathlib.Data.List.DropRight
import RequestKey.Proofs.Text.Pieces
import RequestKey.Rule

/-!
# Names that a rule can list

A rule is joined from names and read back as text, so a name that holds a
separator, or has a blank at an end, is not read back as it was written.

The main statements say that joining and reading happens name by name, that a
joined rule lists exactly those of its names that are not empty, hold no doubled
ampersand and have no blank at either end, and that it gives all names back exactly
when each is such a name.
-/

namespace RequestKey
namespace Text

/-! ## Trimmed texts -/

theorem trim_cons_of_isBlank
    {char : Char}
    (blank : isBlank char = true)
    (text : Text) :
    trim (char :: text) = trim text := by
  rw [trim, List.dropWhile_cons_of_pos blank, trim]

theorem trim_append_of_isBlank
    {char : Char}
    (blank : isBlank char = true)
    (text : Text) :
    trim (text ++ [char]) = trim text := by
  simp only [trim, List.dropWhile_append]
  split
  · rename_i allBlank
    rw [List.isEmpty_iff.mp allBlank, List.dropWhile_cons_of_pos blank,
      List.dropWhile_nil]
  · exact List.rdropWhile_concat_pos isBlank _ char blank

/-- A trimmed text is a piece of the text. -/
theorem trim_isInfix (text : Text) : trim text <:+: text :=
  (List.rdropWhile_prefix isBlank (text.dropWhile isBlank)).isInfix.trans
    (List.dropWhile_suffix isBlank).isInfix

/-- A text without blanks has nothing to trim. -/
theorem trim_eq_self
    {text : Text}
    (noBlank : ∀ char ∈ text, ¬isBlank char = true) :
    trim text = text := by
  have fromStart : text.dropWhile isBlank = text :=
    List.dropWhile_eq_self_iff.mpr fun _ => noBlank _ (List.getElem_mem _)
  calc
    trim text = text.rdropWhile isBlank := by
      rw [trim, fromStart, List.rdropWhile]
    _ = text :=
      List.rdropWhile_eq_self_iff.mpr fun nonempty =>
        noBlank _ (List.getLast_mem nonempty)

/-- A trimmed text has no blank to trim. -/
@[simp] theorem trim_trim (text : Text) : trim (trim text) = trim text := by
  have starts : trim text <+: text.dropWhile isBlank :=
    List.rdropWhile_prefix isBlank (text.dropWhile isBlank)
  have noBlankFirst : (trim text).dropWhile isBlank = trim text := by
    cases trimmed : trim text with
    | nil => rfl
    | cons char rest =>
        rw [trimmed] at starts
        obtain ⟨later, split⟩ := starts
        have first := List.head?_dropWhile_not isBlank text
        rw [← split] at first
        exact List.dropWhile_cons_of_neg (by simpa using first)
  calc
    trim (trim text) = (trim text).rdropWhile isBlank := by
      rw [trim, noBlankFirst, List.rdropWhile]
    _ = trim text := List.rdropWhile_idempotent isBlank (text.dropWhile isBlank)

end Text

namespace Rule

open Text

/-! ## Reading names -/

theorem ne_ampersand_of_isBlank
    {char : Char}
    (blank : isBlank char = true) :
    char ≠ '&' := by
  rintro rfl
  exact absurd blank (by decide)

/-- A blank at the start of a rule does not matter. -/
theorem names_cons_of_isBlank
    {char : Char}
    (blank : isBlank char = true)
    (rule : Rule) :
    names (char :: rule) = names rule := by
  obtain ⟨piece, pieces, split, _⟩ :=
    exists_isPrefix_splitOnDoubled_eq_cons '&' rule
  rw [names, names,
    splitOnDoubled_cons_of_ne (ne_ampersand_of_isBlank blank), split]
  simp only [List.modifyHead_cons, List.map_cons, trim_cons_of_isBlank blank]

/-- A blank at the end of a rule does not matter. -/
theorem names_append_of_isBlank
    {char : Char}
    (blank : isBlank char = true)
    (rule : Rule) :
    names (rule ++ [char]) = names rule := by
  obtain ⟨pieces, last, split, appended⟩ :=
    exists_splitOnDoubled_append_singleton (ne_ampersand_of_isBlank blank) rule
  rw [names, names, split, appended]
  simp only [List.map_append, List.map_cons, trim_append_of_isBlank blank]

/-- Blanks at the ends of a rule do not matter. -/
@[simp] theorem names_trim (rule : Rule) : names (trim rule) = names rule := by
  have fromStart : names (rule.dropWhile isBlank) = names rule := by
    induction rule with
    | nil => rfl
    | cons char rule inductionHypothesis =>
        rw [List.dropWhile_cons]
        split
        · rename_i blank
          rw [inductionHypothesis, names_cons_of_isBlank blank]
        · rfl
  have fromEnd : ∀ text : Text, names (text.rdropWhile isBlank) = names text := by
    intro text
    induction text using List.reverseRecOn with
    | nil => rfl
    | append_singleton text char inductionHypothesis =>
        rw [List.rdropWhile_concat]
        split
        · rename_i blank
          rw [inductionHypothesis, names_append_of_isBlank blank]
        · rfl
  exact (fromEnd _).trans fromStart

/-- A separator lists what stands before it and then what follows. -/
theorem names_append_separator_append (left right : Text) :
    names (left ++ (separator ++ right)) = names left ++ names right := by
  have blank : isBlank ' ' = true := by decide
  calc
    names (left ++ (separator ++ right)) =
        names (left ++ [' ']) ++ names (' ' :: right) := by
      simp only [names, separator, List.cons_append, List.nil_append]
      rw [splitOnDoubled_append_mark_mark (by decide), List.map_append,
        List.filter_append]
    _ = names left ++ names right := by
      rw [names_append_of_isBlank blank, names_cons_of_isBlank blank]

/-- A joined rule lists what its names list when read on their own. -/
theorem names_join (listed : List Text) :
    names (join listed) = listed.flatMap names := by
  unfold join
  induction listed with
  | nil => rfl
  | cons name listed inductionHypothesis =>
      cases listed with
      | nil => simp
      | cons second listed =>
          rw [List.intercalate_cons_cons, List.append_assoc,
            names_append_separator_append, inductionHypothesis]
          rfl

/-- A joined rule holds the characters of its names and of the separator. -/
theorem not_mem_join
    {char : Char}
    (notSeparator : char ∉ separator)
    {listed : List Text}
    (plain : ∀ name ∈ listed, char ∉ name) :
    char ∉ join listed :=
  not_mem_intercalate notSeparator plain

/-- A rule that begins with a name is not empty. -/
theorem join_cons_ne_nil
    {name : Text}
    (nonempty : name ≠ [])
    (listed : List Text) :
    join (name :: listed) ≠ [] := by
  cases listed with
  | nil => simpa using nonempty
  | cons second listed =>
      simp [join, List.intercalate_cons_cons, nonempty]

/-! ## Names that are read back -/

/-- A name that is read back as it was written. -/
structure IsListable (name : Text) : Prop where
  /-- The name is not empty. -/
  nonempty : name ≠ []
  /-- The name does not hold a doubled ampersand. -/
  undoubled : ¬['&', '&'] <:+: name
  /-- The name has no blank at either end. -/
  trimmed : name.trim = name

theorem isListable_iff (name : Text) :
    IsListable name ↔
      name ≠ [] ∧ ¬occursIn ['&', '&'] name = true ∧ name.trim = name := by
  rw [occursIn_iff]
  exact ⟨fun listable => ⟨listable.nonempty, listable.undoubled, listable.trimmed⟩,
    fun ⟨nonempty, undoubled, trimmed⟩ => ⟨nonempty, undoubled, trimmed⟩⟩

instance : DecidablePred IsListable := fun name =>
  decidable_of_iff _ (isListable_iff name).symm

/-- A listable name is the only name of the rule that it is. -/
theorem names_eq_singleton
    {name : Text}
    (listable : IsListable name) :
    names name = [name] := by
  rw [names, splitOnDoubled_eq_singleton listable.undoubled, List.map_singleton,
    listable.trimmed, List.filter_cons_of_pos (by simpa using listable.nonempty),
    List.filter_nil]

/-- A rule joined from listable names lists them in their order. -/
theorem names_join_of_isListable
    {listed : List Text}
    (listable : ∀ name ∈ listed, IsListable name) :
    names (join listed) = listed := by
  rw [names_join]
  induction listed with
  | nil => rfl
  | cons name listed inductionHypothesis =>
      obtain ⟨first, later⟩ := List.forall_mem_cons.mp listable
      rw [List.flatMap_cons, names_eq_singleton first, inductionHypothesis later]
      rfl

/-- What a rule lists is listable. -/
theorem isListable_of_mem_names
    {rule : Rule}
    {name : Text}
    (member : name ∈ names rule) :
    IsListable name := by
  obtain ⟨trimmed, nonempty⟩ := List.mem_filter.mp member
  obtain ⟨piece, isPiece, rfl⟩ := List.mem_map.mp trimmed
  exact {
    nonempty := by simpa using nonempty
    undoubled := fun inside =>
      not_isInfix_of_mem_splitOnDoubled isPiece (inside.trans (trim_isInfix piece))
    trimmed := trim_trim piece }

/-- What a rule lists stands in its text as it is. -/
theorem isInfix_of_mem_names
    {rule : Rule}
    {name : Text}
    (member : name ∈ names rule) :
    name <:+: rule := by
  obtain ⟨piece, isPiece, rfl⟩ := List.mem_map.mp (List.mem_of_mem_filter member)
  exact (trim_isInfix piece).trans (isInfix_of_mem_splitOnDoubled isPiece)

/-- A joined rule lists a name of it exactly when the name is listable. -/
theorem mem_names_join_iff
    {listed : List Text}
    {name : Text}
    (member : name ∈ listed) :
    name ∈ names (join listed) ↔ IsListable name := by
  constructor
  · exact isListable_of_mem_names
  · intro listable
    rw [names_join]
    refine List.mem_flatMap.mpr ⟨name, member, ?_⟩
    rw [names_eq_singleton listable]
    exact List.mem_singleton_self name

/-- A joined rule gives its names back exactly when each can be listed, and
joining what any rule lists gives the same list again. -/
theorem names_join_eq_self_iff (listed : List Text) (rule : Rule) :
    (names (join listed) = listed ↔ ∀ name ∈ listed, IsListable name) ∧
      names (join (names rule)) = names rule := by
  refine ⟨⟨?_, names_join_of_isListable⟩, ?_⟩
  · intro restored name member
    rw [← restored] at member
    exact isListable_of_mem_names member
  · exact names_join_of_isListable fun _ => isListable_of_mem_names

end Rule
end RequestKey
