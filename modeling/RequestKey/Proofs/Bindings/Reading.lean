import RequestKey.Criteria
import RequestKey.Proofs.Bindings.LastValue

/-!
# Reading criteria back

Criteria write names and values as they are, so a value can hold a text that
reads as the start of another criterion.  Where no value does, a value ends at
the first such text, and the bindings can be read back from their criteria.

The main statements say so for bindings whose names are among given ones, and for
bindings of the same names that are followed by more text.  Where neither names nor
values hold the mark, what stands between marks shows the names.
-/

namespace RequestKey
namespace Text

/-! ## Values before stops -/

/-- No stop begins inside a stop and reaches its end or beyond. -/
def NoOverlap (stops : Text -> Prop) : Prop :=
  ∀ start rest other, stops (start ++ rest) -> stops other ->
    start ≠ [] -> rest ≠ [] -> ¬rest <+: other ∧ ¬other <+: rest

/-- A text is nothing or starts with a stop. -/
def EndsAt (stops : Text -> Prop) (text : Text) : Prop :=
  text = [] ∨ ∃ stop, stops stop ∧ stop <+: text

/-- No stop stands in a text. -/
def Avoids (stops : Text -> Prop) (text : Text) : Prop :=
  ∀ stop, stops stop -> ¬stop <:+: text

/-- A text that avoids the stops cannot be longer than one of which the rest
begins with a stop. -/
private theorem eq_nil_of_avoids_append
    {stops : Text -> Prop}
    (noOverlap : NoOverlap stops)
    {value extra rest : Text}
    (avoids : Avoids stops (value ++ extra))
    (extraEnds : EndsAt stops (extra ++ rest))
    (restEnds : EndsAt stops rest) :
    extra = [] := by
  refine Decidable.byContradiction fun nonempty => ?_
  rcases extraEnds with none | ⟨stop, isStop, starts⟩
  · exact nonempty (List.append_eq_nil_iff.mp none).1
  · have notInside : ¬stop <+: extra := fun inside =>
      avoids stop isStop (inside.isInfix.trans (List.suffix_append value extra).isInfix)
    rcases List.prefix_or_prefix_of_prefix starts (List.prefix_append extra rest)
      with inside | ⟨beyond, rfl⟩
    · exact notInside inside
    · have beyondNonempty : beyond ≠ [] := by
        rintro rfl
        simp at notInside
      have beyondStarts : beyond <+: rest :=
        (List.prefix_append_right_inj extra).mp starts
      -- The stop ends inside the rest, which begins with a stop of its own.
      rcases restEnds with rfl | ⟨other, isOther, otherStarts⟩
      · exact beyondNonempty (List.prefix_nil.mp beyondStarts)
      · have apart := noOverlap extra beyond other isStop isOther nonempty
          beyondNonempty
        exact (List.prefix_or_prefix_of_prefix beyondStarts otherStarts).elim
          apart.1 apart.2

/-- Two values that avoid the stops and are followed by nothing or by a stop are
equal if the texts that they begin are. -/
theorem eq_of_append_eq_of_avoids
    {stops : Text -> Prop}
    (noOverlap : NoOverlap stops)
    {left right leftRest rightRest : Text}
    (leftAvoids : Avoids stops left)
    (rightAvoids : Avoids stops right)
    (leftEnds : EndsAt stops leftRest)
    (rightEnds : EndsAt stops rightRest)
    (equal : left ++ leftRest = right ++ rightRest) :
    left = right ∧ leftRest = rightRest := by
  rcases List.append_eq_append_iff.mp equal with
    ⟨extra, rfl, rfl⟩ | ⟨extra, rfl, rfl⟩
  · have none := eq_nil_of_avoids_append noOverlap rightAvoids leftEnds rightEnds
    simp [none]
  · have none := eq_nil_of_avoids_append noOverlap leftAvoids rightEnds leftEnds
    simp [none]

/-- A single character is a stop that overlaps nothing. -/
theorem noOverlap_singleton (mark : Char) : NoOverlap (· = [mark]) := by
  intro start rest other isStop _ startNonempty restNonempty
  have lengths := congrArg List.length isStop
  have startLength := List.length_pos_iff.mpr startNonempty
  have restLength := List.length_pos_iff.mpr restNonempty
  simp only [List.length_append, List.length_singleton] at lengths
  omega

theorem avoids_singleton
    {mark : Char}
    {text : Text}
    (absent : mark ∉ text) :
    Avoids (· = [mark]) text := by
  rintro stop rfl inside
  exact absent (inside.subset List.mem_cons_self)

end Text

namespace Bindings

open Text

/-! ## Leads of criteria -/

/-- What the criterion of a name writes in front of the value. -/
def lead (marker name : Text) : Text :=
  marker ++ name ++ ['=']

theorem criterion_eq_lead_append (marker : Text) (entry : Text × Text) :
    criterion marker entry = lead marker entry.1 ++ entry.2 := by
  simp [criterion, lead]

/-- The leads of the listed names other than a given one. -/
def otherLeads
    (mark : Char)
    (isName : Text -> Prop)
    (name stop : Text) : Prop :=
  ∃ other, isName other ∧ other ≠ name ∧ stop = lead [mark] other

/-- The leads of names that do not hold the mark overlap nowhere: a lead begins
with the mark and holds it only there. -/
theorem noOverlap_otherLeads
    {mark : Char}
    (notEquals : mark ≠ '=')
    {isName : Text -> Prop}
    {name : Text}
    (plain : ∀ other, isName other -> other ≠ name -> mark ∉ other) :
    NoOverlap (otherLeads mark isName name) := by
  rintro start rest stop ⟨first, named, different, isLead⟩ ⟨second, _, _, rfl⟩
    startNonempty restNonempty
  cases start with
  | nil => exact absurd rfl startNonempty
  | cons leading start =>
      cases rest with
      | nil => exact absurd rfl restNonempty
      | cons char rest =>
          have tail : start ++ char :: rest = first ++ ['='] :=
            (List.cons.inj isLead).2
          have inTail : char ∈ first ++ ['='] := by simp [← tail]
          have notMark : char ≠ mark := by
            rintro rfl
            rcases List.mem_append.mp inTail with inName | isEquals
            · exact plain first named different inName
            · exact notEquals (List.mem_singleton.mp isEquals)
          simp [lead, List.cons_prefix_cons, notMark, Ne.symm notMark]

/-- The lead of a name without an equals sign does not overlap itself: it ends
with the equals sign and holds it only there. -/
theorem noOverlap_lead
    {marker name : Text}
    (plain : '=' ∉ marker ++ name) :
    NoOverlap (· = lead marker name) := by
  rintro start rest other isLead rfl startNonempty restNonempty
  have shorter : rest.length ≤ (marker ++ name).length := by
    have lengths := congrArg List.length isLead
    have startLength := List.length_pos_iff.mpr startNonempty
    simp only [lead, List.length_append, List.length_singleton] at lengths ⊢
    omega
  have notPrefix : ¬rest <+: marker ++ name := by
    intro starts
    have last := congrArg List.getLast? isLead
    rw [List.getLast?_append, List.getLast?_eq_some_getLast restNonempty,
      Option.some_or, lead, List.getLast?_concat] at last
    rw [← Option.some.inj last] at plain
    exact plain (starts.subset (List.getLast_mem restNonempty))
  constructor
  · intro starts
    exact notPrefix (List.prefix_of_prefix_length_le starts
      (List.prefix_append _ _) shorter)
  · intro contains
    have atLeast := contains.length_le
    simp only [lead, List.length_append, List.length_singleton] at atLeast shorter
    omega

/-- Criteria begin with the lead of their first name. -/
theorem lead_isPrefix_flatMap_criterion
    (marker : Text)
    (entry : Text × Text)
    (entries : List (Text × Text)) :
    lead marker entry.1 <+: (entry :: entries).flatMap (criterion marker) := by
  rw [List.flatMap_cons, criterion_eq_lead_append, List.append_assoc]
  exact List.prefix_append _ _

/-! ## Bindings of listed names -/

section Listed

variable {mark : Char} {isName : Text -> Prop}

/-- Entries in which no value reads as if the criterion of another listed name
began in it, for listed names of which the leads show where they end. -/
structure IsReadable
    (mark : Char)
    (isName : Text -> Prop)
    (entries : List (Text × Text)) : Prop where
  /-- Other names than that of an entry hold no equals sign. -/
  plain : ∀ entry ∈ entries, ∀ name, isName name -> name ≠ entry.1 ->
    '=' ∉ name
  /-- A value does not hold the lead of another name. -/
  clear : ∀ entry ∈ entries, ∀ name, isName name -> name ≠ entry.1 ->
    ¬lead [mark] name <:+: entry.2

theorem IsReadable.tail
    {entry : Text × Text}
    {entries : List (Text × Text)}
    (readable : IsReadable mark isName (entry :: entries)) :
    IsReadable mark isName entries where
  plain := fun other member =>
    readable.plain other (List.mem_cons_of_mem _ member)
  clear := fun other member =>
    readable.clear other (List.mem_cons_of_mem _ member)

/-- A readable value avoids the leads of all other listed names. -/
theorem IsReadable.avoids
    {entries : List (Text × Text)}
    (readable : IsReadable mark isName entries)
    {entry : Text × Text}
    (member : entry ∈ entries) :
    Avoids (otherLeads mark isName entry.1) entry.2 := by
  rintro stop ⟨name, named, different, rfl⟩
  exact readable.clear entry member name named different

/-- The names after the first of ascending entries differ from it. -/
theorem name_ne_of_below
    {entry other : Text × Text}
    {entries : List (Text × Text)}
    (below : ∀ later ∈ entries, entry.1.precedes later.1 = true)
    (member : other ∈ entries) :
    other.1 ≠ entry.1 := by
  intro same
  have ascends := below other member
  simp [same] at ascends

/-- What follows a value of ascending entries is nothing or begins with the lead
of another name. -/
theorem endsAt_otherLeads
    {entry : Text × Text}
    {entries : List (Text × Text)}
    (listed : ∀ later ∈ entries, isName later.1)
    (below : ∀ later ∈ entries, entry.1.precedes later.1 = true) :
    EndsAt (otherLeads mark isName entry.1)
      (entries.flatMap (criterion [mark])) := by
  cases entries with
  | nil => exact Or.inl rfl
  | cons next entries =>
      have named : isName next.1 := listed next List.mem_cons_self
      have different := name_ne_of_below below List.mem_cons_self
      exact Or.inr ⟨lead [mark] next.1, ⟨next.1, named, different, rfl⟩,
        lead_isPrefix_flatMap_criterion [mark] next entries⟩

/-- Two leads are equal only if their names are, where different names hold no
equals sign. -/
theorem name_eq_of_lead_append_eq
    {left right leftRest rightRest : Text}
    (plain : left ≠ right -> '=' ∉ left ∧ '=' ∉ right)
    (equal : lead [mark] left ++ leftRest = lead [mark] right ++ rightRest) :
    left = right := by
  refine Decidable.byContradiction fun different => ?_
  obtain ⟨leftPlain, rightPlain⟩ := plain different
  have tails : left ++ '=' :: leftRest = right ++ '=' :: rightRest := by
    simpa [lead] using equal
  have cut := congrArg (Text.before '=') tails
  rw [Text.before_append_mark leftPlain, Text.before_append_mark rightPlain]
    at cut
  exact different cut

private theorem entries_eq_of_flatMap_criterion_eq
    (notEquals : mark ≠ '=')
    {left right : List (Text × Text)}
    (leftListed : ∀ entry ∈ left, isName entry.1)
    (rightListed : ∀ entry ∈ right, isName entry.1)
    (leftAscending : left.Pairwise fun lower upper => lower.1.precedes upper.1)
    (rightAscending : right.Pairwise fun lower upper => lower.1.precedes upper.1)
    (leftReadable : IsReadable mark isName left)
    (rightReadable : IsReadable mark isName right)
    (noMark : ∀ entry ∈ left, ∀ name, isName name -> name ≠ entry.1 ->
      mark ∉ name)
    (equal : left.flatMap (criterion [mark]) = right.flatMap (criterion [mark])) :
    left = right := by
  induction left generalizing right with
  | nil =>
      cases right with
      | nil => rfl
      | cons entry right => simp [criterion] at equal
  | cons leftEntry left inductionHypothesis =>
      cases right with
      | nil => simp [criterion] at equal
      | cons rightEntry right =>
          obtain ⟨name, leftValue⟩ := leftEntry
          obtain ⟨rightName, rightValue⟩ := rightEntry
          obtain ⟨named, leftLater⟩ := List.forall_mem_cons.mp leftListed
          obtain ⟨rightNamed, rightLater⟩ := List.forall_mem_cons.mp rightListed
          obtain ⟨leftBelow, leftTail⟩ := List.pairwise_cons.mp leftAscending
          obtain ⟨rightBelow, rightTail⟩ := List.pairwise_cons.mp rightAscending
          obtain ⟨noMarkFirst, noMarkLater⟩ := List.forall_mem_cons.mp noMark
          simp only [List.flatMap_cons, criterion_eq_lead_append,
            List.append_assoc] at equal
          have sameName : name = rightName := by
            apply name_eq_of_lead_append_eq _ equal
            intro different
            exact ⟨rightReadable.plain _ List.mem_cons_self _ named different,
              leftReadable.plain _ List.mem_cons_self _ rightNamed
                (Ne.symm different)⟩
          subst sameName
          -- The lead of the next entry shows on both sides where the value ends.
          have both : leftValue = rightValue ∧ _ =
              right.flatMap (criterion [mark]) :=
            eq_of_append_eq_of_avoids
              (noOverlap_otherLeads notEquals noMarkFirst)
              (leftReadable.avoids List.mem_cons_self)
              (rightReadable.avoids List.mem_cons_self)
              (endsAt_otherLeads leftLater leftBelow)
              (endsAt_otherLeads rightLater rightBelow)
              (List.append_cancel_left equal)
          rw [both.1, inductionHypothesis leftLater rightLater leftTail rightTail
            leftReadable.tail rightReadable.tail noMarkLater both.2]

/-- Readable bindings of listed names are equal if their criteria are, where
other names than that of an entry do not hold the mark. -/
theorem eq_of_criteria_eq
    (notEquals : mark ≠ '=')
    {left right : Bindings}
    (leftListed : ∀ entry ∈ left.entries, isName entry.1)
    (rightListed : ∀ entry ∈ right.entries, isName entry.1)
    (leftReadable : IsReadable mark isName left.entries)
    (rightReadable : IsReadable mark isName right.entries)
    (noMark : ∀ entry ∈ left.entries, ∀ name, isName name -> name ≠ entry.1 ->
      mark ∉ name)
    (equal : left.criteria [mark] = right.criteria [mark]) :
    left = right :=
  eq_of_entries_eq
    (entries_eq_of_flatMap_criterion_eq notEquals leftListed rightListed
      left.ascending right.ascending leftReadable rightReadable noMark equal)

end Listed

/-! ## Bindings of the same names -/

section SameNames

variable {mark tailMark : Char} {isName : Text -> Prop}

/-- What stands after a value: the lead of the next name, or else the mark of the
text that follows the criteria. -/
def nextStop (mark tailMark : Char) : List Text -> Text
  | [] => [tailMark]
  | name :: _ => lead [mark] name

theorem noOverlap_nextStop
    (notEquals : mark ≠ '=')
    {names : List Text}
    (plain : ∀ name ∈ names, '=' ∉ name) :
    NoOverlap (· = nextStop mark tailMark names) := by
  cases names with
  | nil => exact noOverlap_singleton tailMark
  | cons name names =>
      have notInName := plain name List.mem_cons_self
      apply noOverlap_lead
      simp [Ne.symm notEquals, notInName]

theorem IsReadable.avoids_nextStop
    {entries : List (Text × Text)}
    (readable : IsReadable mark isName entries)
    {entry : Text × Text}
    (member : entry ∈ entries)
    (absent : tailMark ∉ entry.2)
    {names : List Text}
    (others : ∀ name ∈ names, isName name ∧ name ≠ entry.1) :
    Avoids (· = nextStop mark tailMark names) entry.2 := by
  cases names with
  | nil => exact avoids_singleton absent
  | cons name names =>
      rintro stop rfl
      obtain ⟨named, different⟩ := others name List.mem_cons_self
      exact readable.clear entry member name named different

theorem endsAt_nextStop
    (entries : List (Text × Text))
    {tail : Text}
    (tailEnds : EndsAt (· = [tailMark]) tail) :
    EndsAt (· = nextStop mark tailMark (entries.map Prod.fst))
      (entries.flatMap (criterion [mark]) ++ tail) := by
  cases entries with
  | nil => exact tailEnds
  | cons entry entries =>
      have starts := lead_isPrefix_flatMap_criterion [mark] entry entries
      exact Or.inr ⟨_, rfl, starts.trans (List.prefix_append _ tail)⟩

private theorem entries_eq_of_flatMap_criterion_append_eq
    (notEquals : mark ≠ '=')
    {left right : List (Text × Text)}
    (sameNames : left.map Prod.fst = right.map Prod.fst)
    (listed : ∀ entry ∈ left, isName entry.1)
    (ascending : left.Pairwise fun lower upper => lower.1.precedes upper.1)
    (leftReadable : IsReadable mark isName left)
    (rightReadable : IsReadable mark isName right)
    (leftAbsent : ∀ entry ∈ left, tailMark ∉ entry.2)
    (rightAbsent : ∀ entry ∈ right, tailMark ∉ entry.2)
    {leftTail rightTail : Text}
    (leftEnds : EndsAt (· = [tailMark]) leftTail)
    (rightEnds : EndsAt (· = [tailMark]) rightTail)
    (equal : left.flatMap (criterion [mark]) ++ leftTail =
      right.flatMap (criterion [mark]) ++ rightTail) :
    left = right ∧ leftTail = rightTail := by
  induction left generalizing right with
  | nil =>
      have noRight : right = [] := by simpa using sameNames.symm
      subst noRight
      exact ⟨rfl, equal⟩
  | cons leftEntry left inductionHypothesis =>
      cases right with
      | nil => simp at sameNames
      | cons rightEntry right =>
          obtain ⟨name, leftValue⟩ := leftEntry
          obtain ⟨rightName, rightValue⟩ := rightEntry
          obtain ⟨rfl, laterNames⟩ := List.cons.inj sameNames
          obtain ⟨below, tailAscending⟩ := List.pairwise_cons.mp ascending
          obtain ⟨_, laterListed⟩ := List.forall_mem_cons.mp listed
          obtain ⟨leftFirst, leftLater⟩ := List.forall_mem_cons.mp leftAbsent
          obtain ⟨rightFirst, rightLater⟩ := List.forall_mem_cons.mp rightAbsent
          have others : ∀ other ∈ left.map Prod.fst,
              isName other ∧ other ≠ name := by
            intro other member
            obtain ⟨entry, inLeft, rfl⟩ := List.mem_map.mp member
            exact ⟨laterListed entry inLeft, name_ne_of_below below inLeft⟩
          have noOverlap : NoOverlap
              (· = nextStop mark tailMark (left.map Prod.fst)) := by
            apply noOverlap_nextStop notEquals
            intro other member
            obtain ⟨named, different⟩ := others other member
            exact leftReadable.plain _ List.mem_cons_self other named different
          have rightFollows :
              EndsAt (· = nextStop mark tailMark (right.map Prod.fst))
                (right.flatMap (criterion [mark]) ++ rightTail) :=
            endsAt_nextStop right rightEnds
          rw [← laterNames] at rightFollows
          simp only [List.flatMap_cons, criterion_eq_lead_append,
            List.append_assoc] at equal
          have both : leftValue = rightValue ∧ _ =
              right.flatMap (criterion [mark]) ++ rightTail :=
            eq_of_append_eq_of_avoids noOverlap
              (leftReadable.avoids_nextStop List.mem_cons_self leftFirst others)
              (rightReadable.avoids_nextStop List.mem_cons_self rightFirst
                others)
              (endsAt_nextStop left leftEnds) rightFollows
              (List.append_cancel_left equal)
          have later := inductionHypothesis laterNames laterListed tailAscending
            leftReadable.tail rightReadable.tail leftLater rightLater both.2
          exact ⟨by rw [both.1, later.1], later.2⟩

/-- Readable bindings of the same names are equal if their criteria are, each
followed by text of which the mark stands in no value. -/
theorem eq_of_criteria_append_eq
    (notEquals : mark ≠ '=')
    {left right : Bindings}
    (sameNames : left.names = right.names)
    (listed : ∀ entry ∈ left.entries, isName entry.1)
    (leftReadable : IsReadable mark isName left.entries)
    (rightReadable : IsReadable mark isName right.entries)
    (leftAbsent : ∀ entry ∈ left.entries, tailMark ∉ entry.2)
    (rightAbsent : ∀ entry ∈ right.entries, tailMark ∉ entry.2)
    {leftTail rightTail : Text}
    (leftEnds : EndsAt (· = [tailMark]) leftTail)
    (rightEnds : EndsAt (· = [tailMark]) rightTail)
    (equal : left.criteria [mark] ++ leftTail =
      right.criteria [mark] ++ rightTail) :
    left = right ∧ leftTail = rightTail := by
  obtain ⟨entries, tails⟩ := entries_eq_of_flatMap_criterion_append_eq notEquals
    sameNames listed left.ascending leftReadable rightReadable leftAbsent
    rightAbsent leftEnds rightEnds equal
  exact ⟨eq_of_entries_eq entries, tails⟩

/-- Criteria are nothing or begin with their mark. -/
theorem endsAt_criteria (mark : Char) (bindings : Bindings) :
    EndsAt (· = [mark]) (bindings.criteria [mark]) := by
  unfold criteria
  cases bindings.entries with
  | nil => exact Or.inl rfl
  | cons entry entries =>
      refine Or.inr ⟨[mark], rfl, ?_⟩
      simp [criterion]

/-- Where a text is nothing or begins with another mark, it has no criteria in
front. -/
theorem entries_eq_nil_of_criteria_append_endsAt
    (differ : mark ≠ tailMark)
    {bindings : Bindings}
    {tail : Text}
    (ends : EndsAt (· = [tailMark]) (bindings.criteria [mark] ++ tail)) :
    bindings.entries = [] := by
  unfold criteria at ends
  cases found : bindings.entries with
  | nil => rfl
  | cons entry entries =>
      rw [found] at ends
      rcases ends with none | ⟨stop, rfl, starts⟩
      · simp [criterion] at none
      · simp [criterion, Ne.symm differ] at starts

end SameNames

/-! ## Names that criteria show -/

/-- The names that criteria show: what stands between a mark and the equals sign
that follows it. -/
def shownNames (mark : Char) (key : Text) : List Text :=
  ((key.splitOn mark).drop 1).map (Text.before '=')

/-- Criteria are empty exactly when no name is bound. -/
theorem criteria_eq_nil_iff (marker : Text) (bindings : Bindings) :
    bindings.criteria marker = [] ↔ bindings.names = [] := by
  unfold criteria names
  cases bindings.entries with
  | nil => simp
  | cons entry entries => simp [criterion]

/-- Criteria hold the characters of the bound names. -/
theorem mem_criteria_of_mem_names
    {char : Char}
    {name : Text}
    {bindings : Bindings}
    (bound : name ∈ bindings.names)
    (inside : char ∈ name)
    (marker : Text) :
    char ∈ bindings.criteria marker := by
  obtain ⟨entry, member, rfl⟩ := List.mem_map.mp bound
  exact List.mem_flatMap.mpr ⟨entry, member, by simp [criterion, inside]⟩

/-- Marks in front of bindings are marks between an empty piece and the bindings. -/
private theorem intercalate_nil_cons
    (mark : Char)
    (entries : List (Text × Text)) :
    [mark].intercalate ([] :: entries.map (criterion [])) =
      entries.flatMap (criterion [mark]) := by
  induction entries with
  | nil => rfl
  | cons entry entries inductionHypothesis =>
      rw [List.flatMap_cons, ← inductionHypothesis]
      cases entries <;> simp [criterion, List.intercalate_cons_cons]

/-- Where names and values hold no mark, the pieces of criteria between marks are
the bindings. -/
theorem splitOn_criteria
    {mark : Char}
    (notEquals : mark ≠ '=')
    {bindings : Bindings}
    (plain : ∀ entry ∈ bindings.entries, mark ∉ entry.1 ∧ mark ∉ entry.2) :
    (bindings.criteria [mark]).splitOn mark =
      [] :: bindings.entries.map (criterion []) := by
  rw [criteria, ← intercalate_nil_cons]
  refine List.splitOn_intercalate mark ?_ (List.cons_ne_nil _ _)
  rw [List.forall_mem_cons, List.forall_mem_map]
  refine ⟨List.not_mem_nil, fun entry member => ?_⟩
  obtain ⟨notInName, notInValue⟩ := plain entry member
  simp [criterion, notEquals, notInName, notInValue]

/-- Where names and values hold no mark, and names no equals sign either, criteria
show exactly the bound names. -/
theorem shownNames_criteria
    {mark : Char}
    (notEquals : mark ≠ '=')
    {bindings : Bindings}
    (plain : ∀ entry ∈ bindings.entries, mark ∉ entry.1 ∧ mark ∉ entry.2)
    (noEquals : ∀ entry ∈ bindings.entries, '=' ∉ entry.1) :
    shownNames mark (bindings.criteria [mark]) = bindings.names := by
  rw [shownNames, splitOn_criteria notEquals plain, List.drop_one, List.tail_cons,
    List.map_map, names]
  exact List.map_congr_left fun entry member =>
    Text.before_append_mark (noEquals entry member) entry.2

end Bindings
end RequestKey
