import RequestKey.Template.Segment

/-!
# Well-formed segments

A pattern has one reading as segments, and segments have one pattern that shows
them.  Which segments are a reading is said by their literal runs: a run in
front of a placeholder must not open a brace that the placeholder could close,
and only the last run may hold a brace that stays open.

The main statement says that reading a pattern and writing well-formed segments
are inverse to each other.
-/

namespace RequestKey
namespace Template
namespace Segment

/-! ## Closed texts -/

/-- Every opening brace of a text is followed at once by a closing brace. -/
def IsClosed (text : Text) : Prop :=
  ∀ start rest, text = start ++ '{' :: rest -> rest.head? = some '}'

@[simp] theorem isClosed_nil : IsClosed [] := by
  intro start rest equal
  simp at equal

theorem isClosed_cons_iff
    {char : Char}
    (notOpening : char ≠ '{')
    (text : Text) :
    IsClosed (char :: text) ↔ IsClosed text := by
  constructor
  · intro closed start rest equal
    exact closed (char :: start) rest (by rw [equal, List.cons_append])
  · intro closed start rest equal
    cases start with
    | nil => exact absurd (List.cons.inj equal).1 notOpening
    | cons first start => exact closed start rest (List.cons.inj equal).2

theorem isClosed_opening_iff (text : Text) :
    IsClosed ('{' :: text) ↔ ∃ rest, text = '}' :: rest ∧ IsClosed rest := by
  constructor
  · intro closed
    have follows := closed [] text rfl
    obtain ⟨rest, rfl⟩ := List.head?_eq_some_iff.mp follows
    refine ⟨rest, rfl, ?_⟩
    intro start later equal
    exact closed ('{' :: '}' :: start) later (by rw [equal]; rfl)
  · rintro ⟨rest, rfl, closed⟩ start later equal
    cases start with
    | nil =>
        rw [← (List.cons.inj equal).2]
        rfl
    | cons first start =>
        have notOpening : '}' ≠ '{' := by decide
        have braceClosed := (isClosed_cons_iff notOpening rest).mpr closed
        exact braceClosed start later (List.cons.inj equal).2

/-- A closed text is built from single characters and empty pairs of braces. -/
@[elab_as_elim]
theorem IsClosed.induction
    {motive : (text : Text) -> IsClosed text -> Prop}
    (nil : motive [] isClosed_nil)
    (char : ∀ char text (notOpening : char ≠ '{') (closed : IsClosed text),
      motive text closed ->
        motive (char :: text) ((isClosed_cons_iff notOpening text).mpr closed))
    (braces : ∀ text (closed : IsClosed text), motive text closed ->
      motive ('{' :: '}' :: text)
        ((isClosed_opening_iff _).mpr ⟨text, rfl, closed⟩))
    (text : Text)
    (closed : IsClosed text) :
    motive text closed := by
  match text, closed with
  | [], _ => exact nil
  | first :: text, closed =>
      by_cases opening : first = '{'
      · subst opening
        obtain ⟨rest, rfl, restClosed⟩ := (isClosed_opening_iff text).mp closed
        exact braces rest restClosed
          (IsClosed.induction nil char braces rest restClosed)
      · have textClosed := (isClosed_cons_iff opening text).mp closed
        exact char first text opening textClosed
          (IsClosed.induction nil char braces text textClosed)

theorem IsClosed.append
    {start rest : Text}
    (startClosed : IsClosed start)
    (restClosed : IsClosed rest) :
    IsClosed (start ++ rest) := by
  induction start, startClosed using IsClosed.induction with
  | nil => exact restClosed
  | char char text notOpening _ inductionHypothesis =>
      exact (isClosed_cons_iff notOpening _).mpr inductionHypothesis
  | braces text _ inductionHypothesis =>
      exact (isClosed_opening_iff _).mpr ⟨_, rfl, inductionHypothesis⟩

theorem isClosed_singleton
    {char : Char}
    (notOpening : char ≠ '{') :
    IsClosed [char] :=
  (isClosed_cons_iff notOpening []).mpr isClosed_nil

theorem isClosed_braces : IsClosed ['{', '}'] :=
  (isClosed_opening_iff _).mpr ⟨[], rfl, isClosed_nil⟩

/-- A text that may end a pattern: it is closed, or closed up to an opening brace
that no closing brace follows. -/
def MayEnd (text : Text) : Prop :=
  IsClosed text ∨
    ∃ start rest, text = start ++ '{' :: rest ∧ IsClosed start ∧ '}' ∉ rest

theorem MayEnd.append
    {start text : Text}
    (startClosed : IsClosed start)
    (ends : MayEnd text) :
    MayEnd (start ++ text) := by
  rcases ends with closed | ⟨middle, rest, rfl, closed, unclosed⟩
  · exact Or.inl (startClosed.append closed)
  · refine Or.inr ⟨start ++ middle, rest, ?_, startClosed.append closed, unclosed⟩
    rw [List.append_assoc]

/-! ## Well-formed segments -/

/-- The segments are the reading of some pattern. -/
structure WellFormed (segments : List Segment) : Prop where
  /-- No literal run is empty. -/
  literal_ne_nil : ∀ text, .literal text ∈ segments -> text ≠ []
  /-- No two literal runs are adjacent. -/
  literals_apart : ∀ start first second rest,
    segments ≠ start ++ .literal first :: .literal second :: rest
  /-- Names are not empty and hold no closing brace. -/
  name_valid : ∀ name, .placeholder name ∈ segments -> name ≠ [] ∧ '}' ∉ name
  /-- A literal run that another segment follows is closed. -/
  inner_closed : ∀ start text next rest,
    segments = start ++ .literal text :: next :: rest -> IsClosed text
  /-- A literal run at the end is closed or leaves one brace open. -/
  last_mayEnd : ∀ start text, segments = start ++ [.literal text] -> MayEnd text

/-- Whether a segment may stand in front of the given ones. -/
def MayPrecede : Segment -> List Segment -> Prop
  | .placeholder name, _ => name ≠ [] ∧ '}' ∉ name
  | .literal text, [] => text ≠ [] ∧ MayEnd text
  | .literal _, .literal _ :: _ => False
  | .literal text, .placeholder _ :: _ => text ≠ [] ∧ IsClosed text

theorem wellFormed_nil : WellFormed [] := by
  constructor <;> simp

theorem WellFormed.tail
    {segment : Segment}
    {segments : List Segment}
    (wellFormed : WellFormed (segment :: segments)) :
    WellFormed segments where
  literal_ne_nil text member :=
    wellFormed.literal_ne_nil text (List.mem_cons_of_mem _ member)
  literals_apart start first second rest equal :=
    wellFormed.literals_apart (segment :: start) first second rest
      (by rw [equal, List.cons_append])
  name_valid name member :=
    wellFormed.name_valid name (List.mem_cons_of_mem _ member)
  inner_closed start text next rest equal :=
    wellFormed.inner_closed (segment :: start) text next rest
      (by rw [equal, List.cons_append])
  last_mayEnd start text equal :=
    wellFormed.last_mayEnd (segment :: start) text
      (by rw [equal, List.cons_append])

theorem WellFormed.mayPrecede
    {segment : Segment}
    {segments : List Segment}
    (wellFormed : WellFormed (segment :: segments)) :
    MayPrecede segment segments := by
  cases segment with
  | placeholder name => exact wellFormed.name_valid name List.mem_cons_self
  | literal text =>
      have nonempty := wellFormed.literal_ne_nil text List.mem_cons_self
      cases segments with
      | nil => exact ⟨nonempty, wellFormed.last_mayEnd [] text rfl⟩
      | cons next segments =>
          cases next with
          | literal second =>
              exact wellFormed.literals_apart [] text second segments rfl
          | placeholder name =>
              exact ⟨nonempty, wellFormed.inner_closed [] text _ segments rfl⟩

theorem MayPrecede.wellFormed_cons
    {segment : Segment}
    {segments : List Segment}
    (precedes : MayPrecede segment segments)
    (wellFormed : WellFormed segments) :
    WellFormed (segment :: segments) where
  literal_ne_nil text member := by
    rcases List.mem_cons.mp member with rfl | later
    · cases segments with
      | nil => exact precedes.1
      | cons next segments =>
          cases next with
          | literal second => exact precedes.elim
          | placeholder name => exact precedes.1
    · exact wellFormed.literal_ne_nil text later
  literals_apart start first second rest equal := by
    cases start with
    | nil =>
        obtain ⟨rfl, rfl⟩ := List.cons.inj equal
        exact precedes
    | cons head start =>
        exact wellFormed.literals_apart start first second rest
          (List.cons.inj equal).2
  name_valid name member := by
    rcases List.mem_cons.mp member with rfl | later
    · exact precedes
    · exact wellFormed.name_valid name later
  inner_closed start text next rest equal := by
    cases start with
    | nil =>
        obtain ⟨rfl, rfl⟩ := List.cons.inj equal
        cases next with
        | literal second => exact precedes.elim
        | placeholder name => exact precedes.2
    | cons head start =>
        exact wellFormed.inner_closed start text next rest
          (List.cons.inj equal).2
  last_mayEnd start text equal := by
    cases start with
    | nil =>
        obtain ⟨rfl, rfl⟩ := List.cons.inj equal
        exact precedes.2
    | cons head start =>
        exact wellFormed.last_mayEnd start text (List.cons.inj equal).2

/-- Segments are well-formed exactly when the first may stand in front of the
others and these are well-formed. -/
theorem wellFormed_cons_iff
    (segment : Segment)
    (segments : List Segment) :
    WellFormed (segment :: segments) ↔
      MayPrecede segment segments ∧ WellFormed segments :=
  ⟨fun wellFormed => ⟨wellFormed.mayPrecede, wellFormed.tail⟩,
    fun ⟨precedes, wellFormed⟩ => precedes.wellFormed_cons wellFormed⟩

/-! ## Literal text in front of segments -/

/-- Text in front of a literal run joins the run. -/
theorem foldr_prependLiteral_literal
    (run text : Text)
    (segments : List Segment) :
    run.foldr prependLiteral (.literal text :: segments) =
      .literal (run ++ text) :: segments := by
  induction run with
  | nil => rfl
  | cons char run inductionHypothesis =>
      rw [List.foldr_cons, inductionHypothesis]
      rfl

/-- Text in front of a placeholder, or of nothing, is a run of its own. -/
theorem foldr_prependLiteral_apart
    {run : Text}
    (nonempty : run ≠ [])
    {segments : List Segment}
    (apart : ∀ text rest, segments ≠ .literal text :: rest) :
    run.foldr prependLiteral segments = .literal run :: segments := by
  obtain ⟨start, char, rfl⟩ := (List.eq_nil_or_concat run).resolve_left nonempty
  have first : prependLiteral char segments = .literal [char] :: segments := by
    cases segments with
    | nil => rfl
    | cons segment segments =>
        cases segment with
        | literal text => exact absurd rfl (apart text segments)
        | placeholder name => rfl
  rw [List.concat_eq_append, List.foldr_append, List.foldr_cons,
    List.foldr_nil, first, foldr_prependLiteral_literal]

/-- Closed text in front of well-formed segments keeps them well-formed. -/
theorem WellFormed.foldr_prependLiteral
    {segments : List Segment}
    (wellFormed : WellFormed segments)
    {run : Text}
    (nonempty : run ≠ [])
    (closed : IsClosed run) :
    WellFormed (run.foldr prependLiteral segments) := by
  cases segments with
  | nil =>
      rw [foldr_prependLiteral_apart nonempty (by simp)]
      refine (wellFormed_cons_iff _ _).mpr ⟨?_, wellFormed⟩
      exact ⟨nonempty, Or.inl closed⟩
  | cons segment segments =>
      cases segment with
      | placeholder name =>
          rw [foldr_prependLiteral_apart nonempty (by simp)]
          refine (wellFormed_cons_iff _ _).mpr ⟨?_, wellFormed⟩
          exact ⟨nonempty, closed⟩
      | literal text =>
          obtain ⟨precedes, later⟩ := (wellFormed_cons_iff _ _).mp wellFormed
          rw [foldr_prependLiteral_literal]
          refine (wellFormed_cons_iff _ _).mpr ⟨?_, later⟩
          have joined : run ++ text ≠ [] := by simp [nonempty]
          cases segments with
          | nil => exact ⟨joined, MayEnd.append closed precedes.2⟩
          | cons next segments =>
              cases next with
              | literal second => exact precedes
              | placeholder name => exact ⟨joined, closed.append precedes.2⟩

/-! ## Reading a pattern -/

/-- The segments of a text are well-formed, also inside an open brace. -/
theorem wellFormed_scan
    (openName : Option Text)
    (text : Text)
    (unclosed : ∀ reversedName, openName = some reversedName ->
      '}' ∉ reversedName) :
    WellFormed (scan openName text) := by
  fun_induction scan openName text with
  | case1 => exact wellFormed_nil
  | case2 text inductionHypothesis =>
      exact inductionHypothesis (by simp)
  | case3 char text notOpening inductionHypothesis =>
      exact (inductionHypothesis (by simp)).foldr_prependLiteral
        (List.cons_ne_nil char []) (isClosed_singleton notOpening)
  | case4 reversedName =>
      refine (wellFormed_cons_iff _ _).mpr ⟨⟨by simp, ?_⟩, wellFormed_nil⟩
      refine Or.inr ⟨[], reversedName.reverse, rfl, isClosed_nil, ?_⟩
      simpa using unclosed reversedName rfl
  | case5 text inductionHypothesis =>
      exact (inductionHypothesis (by simp)).foldr_prependLiteral
        (List.cons_ne_nil '{' ['}']) isClosed_braces
  | case6 reversedName text nonempty inductionHypothesis =>
      refine (wellFormed_cons_iff _ _).mpr ⟨⟨by simpa using nonempty, ?_⟩,
        inductionHypothesis (by simp)⟩
      simpa using unclosed reversedName rfl
  | case7 reversedName char text notClosing inductionHypothesis =>
      apply inductionHypothesis
      rintro _ ⟨rfl⟩
      simp [Ne.symm notClosing, unclosed reversedName rfl]

/-- Closed text is read character by character as literal text. -/
theorem scan_append_of_isClosed
    {run : Text}
    (closed : IsClosed run)
    (text : Text) :
    scan none (run ++ text) = run.foldr prependLiteral (scan none text) := by
  induction run, closed using IsClosed.induction with
  | nil => rfl
  | char char run notOpening _ inductionHypothesis =>
      rw [List.cons_append, scan, if_neg notOpening, inductionHypothesis]
      rfl
  | braces run _ inductionHypothesis =>
      rw [List.cons_append, List.cons_append, scan, if_pos rfl, scan,
        if_pos rfl, if_pos rfl, inductionHypothesis]
      rfl

/-- A name ends at the first closing brace. -/
theorem scan_some_append_closing
    {name : Text}
    (unclosed : '}' ∉ name)
    {reversedName : Text}
    (nonempty : reversedName.reverse ++ name ≠ [])
    (text : Text) :
    scan (some reversedName) (name ++ '}' :: text) =
      .placeholder (reversedName.reverse ++ name) :: scan none text := by
  induction name generalizing reversedName with
  | nil =>
      have reversedNonempty : reversedName ≠ [] := by simpa using nonempty
      rw [List.nil_append, scan, if_pos rfl, if_neg reversedNonempty,
        List.append_nil]
  | cons char name inductionHypothesis =>
      simp only [List.mem_cons, not_or] at unclosed
      rw [List.cons_append, scan, if_neg (Ne.symm unclosed.1),
        inductionHypothesis unclosed.2 (by simp)]
      simp

/-- A brace that is never closed makes the rest literal text. -/
theorem scan_some_of_not_mem
    {name : Text}
    (unclosed : '}' ∉ name)
    (reversedName : Text) :
    scan (some reversedName) name =
      [.literal ('{' :: (reversedName.reverse ++ name))] := by
  induction name generalizing reversedName with
  | nil => rw [scan, List.append_nil]
  | cons char name inductionHypothesis =>
      simp only [List.mem_cons, not_or] at unclosed
      rw [scan, if_neg (Ne.symm unclosed.1), inductionHypothesis unclosed.2]
      simp

theorem scan_placeholder_append
    {name : Text}
    (nonempty : name ≠ [])
    (unclosed : '}' ∉ name)
    (text : Text) :
    scan none (render (.placeholder name) ++ text) =
      .placeholder name :: scan none text := by
  have shown : render (.placeholder name) ++ text =
      '{' :: (name ++ '}' :: text) := by
    simp [render]
  rw [shown, scan, if_pos rfl]
  exact scan_some_append_closing unclosed (by simpa using nonempty) text

/-- A text that may end a pattern is read as one literal run. -/
theorem scan_of_mayEnd
    {text : Text}
    (nonempty : text ≠ [])
    (ends : MayEnd text) :
    scan none text = [.literal text] := by
  rcases ends with closed | ⟨start, rest, rfl, closed, unclosed⟩
  · have read := scan_append_of_isClosed closed []
    rw [List.append_nil] at read
    rw [read]
    exact foldr_prependLiteral_apart nonempty (by simp [scan])
  · rw [scan_append_of_isClosed closed, scan, if_pos rfl,
      scan_some_of_not_mem unclosed, foldr_prependLiteral_literal]
    rfl

/-- Reading what well-formed segments show gives the segments back. -/
theorem scan_renderAll
    {segments : List Segment}
    (wellFormed : WellFormed segments) :
    scan none (renderAll segments) = segments := by
  induction segments with
  | nil => rfl
  | cons segment segments inductionHypothesis =>
      obtain ⟨precedes, later⟩ := (wellFormed_cons_iff _ _).mp wellFormed
      have readLater := inductionHypothesis later
      rw [renderAll_cons]
      cases segment with
      | placeholder name =>
          rw [scan_placeholder_append precedes.1 precedes.2, readLater]
      | literal text =>
          cases segments with
          | nil =>
              rw [renderAll_nil, List.append_nil]
              exact scan_of_mayEnd precedes.1 precedes.2
          | cons next segments =>
              cases next with
              | literal second => exact precedes.elim
              | placeholder name =>
                  rw [render, scan_append_of_isClosed precedes.2, readLater]
                  exact foldr_prependLiteral_apart precedes.1 (by simp)

/-- Reading patterns and writing well-formed segments are inverse to each
other. -/
theorem ofPattern_renderAll_inverse :
    (∀ pattern, WellFormed (ofPattern pattern) ∧
      renderAll (ofPattern pattern) = pattern) ∧
    ∀ segments, WellFormed segments ->
      ofPattern (renderAll segments) = segments := by
  constructor
  · intro pattern
    exact ⟨wellFormed_scan none pattern (by simp), renderAll_ofPattern pattern⟩
  · intro segments wellFormed
    exact scan_renderAll wellFormed

/-- Segments with a literal pair of braces and a brace that stays open. -/
def bracedSegments : List Segment :=
  [.literal ['/', '{', '}'], .placeholder ['x', '{'], .placeholder ['y'],
    .literal ['}', '{', '}', '{', 'z']]

theorem ofPattern_renderAll_bracedSegments :
    WellFormed bracedSegments ∧
      ofPattern (renderAll bracedSegments) = bracedSegments := by
  have opening : IsClosed ['/', '{', '}'] :=
    (isClosed_singleton (by decide)).append isClosed_braces
  have ending : MayEnd ['}', '{', '}', '{', 'z'] :=
    MayEnd.append ((isClosed_singleton (by decide)).append isClosed_braces)
      (Or.inr ⟨[], ['z'], rfl, isClosed_nil, by decide⟩)
  have wellFormed : WellFormed bracedSegments := by
    refine (wellFormed_cons_iff _ _).mpr ⟨⟨by decide, opening⟩, ?_⟩
    refine (wellFormed_cons_iff _ _).mpr ⟨⟨by decide, by decide⟩, ?_⟩
    refine (wellFormed_cons_iff _ _).mpr ⟨⟨by decide, by decide⟩, ?_⟩
    exact (wellFormed_cons_iff _ _).mpr ⟨⟨by decide, ending⟩, wellFormed_nil⟩
  exact ⟨wellFormed, ofPattern_renderAll_inverse.2 bracedSegments wellFormed⟩

end Segment
end Template
end RequestKey
