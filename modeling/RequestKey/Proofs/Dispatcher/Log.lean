import RequestKey.Proofs.Dispatcher.WellFormed
import RequestKey.Proofs.Query.BestEffort
import RequestKey.Proofs.Template.Language

/-!
# What is logged

Matching, decoding and inference report what they leave out and what they choose.
The reports of a run stand in the order in which its parts are done, so the log of a
run is put together from the logs of its parts.

The main statement says which lines the criteria of a request and an inference log,
to the last one: a line for a path to which the template does not apply, a line for
every piece of a query that does not decode, and a closing line about what was
inferred.
-/

namespace RequestKey

/-- A line of a log: a level and words. -/
abbrev LogLine := Level × String

/-- A record as a line of a log. -/
def Record.line (record : Record) : LogLine :=
  (record.level, record.message)

namespace Run

/-- The lines that a run logs. -/
def log (run : Run α) : List LogLine :=
  run.records.map Record.line

@[simp] theorem log_pure (value : α) : (pure value : Run α).log = [] := rfl

@[simp] theorem log_report (records : List Record) :
    (report records).log = records.map Record.line := rfl

@[simp] theorem log_ofExcept (outcome : Except Fault α) :
    (ofExcept outcome).log = [] := rfl

/-- Returning what a run has adds nothing to it. -/
theorem bind_pure (run : Run α) : (run >>= pure) = run := by
  apply ext
  · rw [outcome_bind]
    cases run.outcome <;> rfl
  · rw [records_bind]
    cases run.outcome <;> exact List.append_nil run.records

/-- A continued run logs the lines of its continuation last, if it gets there. -/
theorem log_bind (run : Run α) (next : α -> Run β) :
    (run >>= next).log =
      run.log ++
        match run.outcome with
        | .ok value => (next value).log
        | .error _ => [] := by
  rw [log, records_bind, List.map_append]
  cases run.outcome <;> rfl

end Run

/-! ## Lines about queries -/

namespace Query

/-- The line about a piece that is left out. -/
def skippedLine (failure : Failure) : LogLine :=
  (.warning, "Skipping query parameter " ++ Text.shown failure.piece ++ ": " ++
    failure.reason.message)

/-- The failures are those of the pieces of a URI that do not decode, in their order.
A URI without a question mark or without any equals sign has no parameters, so none of
its pieces is decoded, and a piece without a key is passed over. -/
def Undecodable (uri : Text) (failures : List Failure) : Prop :=
  if '?' ∈ uri ∧ '=' ∈ uri then
    ∃ pairs, Reads (piecesOfUri uri) pairs failures
  else failures = []

theorem undecodable_failures (uri : Text) :
    Undecodable uri (ofUri uri).failures := by
  unfold Undecodable
  split
  · rename_i hasQuery
    rw [ofUri_eq_ofPieces hasQuery.1 hasQuery.2]
    exact ⟨_, reads_ofPieces (piecesOfUri uri)⟩
  · rename_i noQuery
    rw [ofUri, if_neg noQuery]
    rfl

/-- A URI has one list of failures. -/
theorem Undecodable.unique
    {uri : Text}
    {left right : List Failure}
    (leftFailures : Undecodable uri left)
    (rightFailures : Undecodable uri right) :
    left = right := by
  unfold Undecodable at leftFailures rightFailures
  split at leftFailures
  · rename_i hasQuery
    rw [if_pos hasQuery] at rightFailures
    obtain ⟨_, leftReads⟩ := leftFailures
    obtain ⟨_, rightReads⟩ := rightFailures
    exact leftReads.eq_ofPieces.2.symm.trans rightReads.eq_ofPieces.2
  · rename_i noQuery
    rw [if_neg noQuery] at rightFailures
    exact leftFailures.trans rightFailures.symm

/-- The lines of a log that warn about several URIs, one after another. -/
inductive Warns : List Text -> List LogLine -> Prop
  | nil : Warns [] []
  | cons
      {uri : Text} {uris : List Text}
      {failures : List Failure} {lines : List LogLine}
      (undecodable : Undecodable uri failures)
      (later : Warns uris lines) :
      Warns (uri :: uris) (failures.map skippedLine ++ lines)

/-- There is one way to warn about several URIs. -/
theorem Warns.unique
    {uris : List Text}
    {left right : List LogLine}
    (leftWarns : Warns uris left)
    (rightWarns : Warns uris right) :
    left = right := by
  induction leftWarns generalizing right with
  | nil =>
      cases rightWarns
      rfl
  | cons undecodable later inductionHypothesis =>
      cases rightWarns with
      | cons alsoUndecodable alsoLater =>
          rw [undecodable.unique alsoUndecodable, inductionHypothesis alsoLater]

/-- The warnings of a query are lines about its failures. -/
theorem map_line_warnings (query : Query) :
    query.warnings.map Record.line = query.failures.map skippedLine := by
  rw [warnings, List.map_map]
  rfl

/-- The criteria of a query log the failures of the query. -/
theorem criteriaOf_log
    (rule : Rule)
    (selection : Rule.Selection)
    (uri : Text) :
    (criteriaOf rule selection uri).log =
      (ofUri uri).failures.map skippedLine := by
  have records : (criteriaOf rule selection uri).records = (ofUri uri).warnings :=
    (List.append_nil _).trans (read_records uri)
  rw [Run.log, records, map_line_warnings]

theorem warns_flatMap_warnings (uris : List Text) :
    Warns uris (((uris.map ofUri).flatMap warnings).map Record.line) := by
  induction uris with
  | nil => exact .nil
  | cons uri uris inductionHypothesis =>
      rw [List.map_cons, List.flatMap_cons, List.map_append, map_line_warnings]
      exact .cons (undecodable_failures uri) inductionHypothesis

end Query

/-! ## Lines about paths -/

namespace Template

/-- The line about a path to which a pattern does not apply. -/
def mismatchLine (path pattern : Text) : LogLine :=
  (.debug, "URI " ++ Text.shown path ++ " does not match template " ++
    Text.shown pattern)

/-- A template reports the texts to which its pattern does not apply. -/
theorem criteria_log (template : Template) (uri : Text) :
    (template.criteria uri).log =
      if Applies template.pattern uri then []
      else [mismatchLine uri template.pattern] := by
  have noMatch := template.match?_eq_none_iff uri
  unfold criteria
  cases matched : template.match? uri with
  | none =>
      rw [if_neg (noMatch.mp matched)]
      rfl
  | some bindings =>
      have applies : Applies template.pattern uri := by
        simpa [matched] using noMatch
      rw [if_pos applies]
      rfl

/-- The criteria under a pattern fail on its length alone. -/
theorem criteriaOf_outcome_eq_error_iff (pattern uri : Text) (fault : Fault) :
    (criteriaOf pattern uri).outcome = .error fault ↔
      maximumLength < pattern.length ∧
        fault = .templateTooLong pattern.length := by
  rw [← ofPattern_eq_error_iff, criteriaOf, Run.outcome_bind,
    Run.outcome_ofExcept]
  cases ofPattern pattern with
  | error patternFault => simp [Except.bind]
  | ok template => simp [Except.bind, criteria_outcome]

theorem criteriaOf_log (pattern uri : Text) :
    (criteriaOf pattern uri).log =
      if pattern.length ≤ maximumLength ∧ ¬Applies pattern uri then
        [mismatchLine uri pattern]
      else [] := by
  by_cases within : pattern.length ≤ maximumLength
  · have isTemplate := criteriaOf_pattern ⟨pattern, within⟩ uri
    simp only at isTemplate
    rw [isTemplate, criteria_log]
    by_cases applies : Applies pattern uri <;> simp [within, applies]
  · have tooLong := (ofPattern_eq_error_iff pattern _).mpr
      ⟨Nat.not_le.mp within, rfl⟩
    simp [criteriaOf, Run.log_bind, tooLong, within]

end Template

namespace Dispatcher

/-! ## The log of a request -/

/-- The template of a dispatcher is compared with the path of a request and does not
apply to it. -/
structure Mismatches (dispatcher : Dispatcher) (path pattern : Text) : Prop where
  /-- The path matters. -/
  pathMatters : dispatcher.style.hasPathSide = true
  /-- The pattern is that of the dispatcher. -/
  isTemplate : dispatcher.template = some pattern
  /-- The pattern is within the length limit. -/
  within : pattern.length ≤ Template.maximumLength
  /-- No values in the places of the placeholders make up the path. -/
  apart : ¬Template.Applies pattern path

/-- A dispatcher has one template to compare with a path. -/
theorem Mismatches.pattern_eq
    {dispatcher : Dispatcher}
    {path pattern other : Text}
    (mismatches : Mismatches dispatcher path other)
    (isTemplate : dispatcher.template = some pattern) :
    other = pattern :=
  Option.some.inj (mismatches.isTemplate.symm.trans isTemplate)

/-- The lines about the path of a request: one about a mismatch, or none. -/
inductive PathLog (dispatcher : Dispatcher) (path : Text) : List LogLine -> Prop
  | mismatch
      {pattern : Text}
      (mismatches : Mismatches dispatcher path pattern) :
      PathLog dispatcher path [Template.mismatchLine path pattern]
  | silent
      (noMismatch : ∀ pattern, ¬Mismatches dispatcher path pattern) :
      PathLog dispatcher path []

theorem PathLog.unique
    {dispatcher : Dispatcher}
    {path : Text}
    {left right : List LogLine}
    (leftLog : PathLog dispatcher path left)
    (rightLog : PathLog dispatcher path right) :
    left = right := by
  cases leftLog with
  | mismatch mismatches =>
      cases rightLog with
      | mismatch alsoMismatches =>
          rw [mismatches.pattern_eq alsoMismatches.isTemplate]
      | silent noMismatch => exact absurd mismatches (noMismatch _)
  | silent noMismatch =>
      cases rightLog with
      | mismatch mismatches => exact absurd mismatches (noMismatch _)
      | silent _ => rfl

/-- The lines about the query of a request: one for each piece that does not decode,
if the query matters. -/
inductive QueryLog (dispatcher : Dispatcher) (uri : Text) : List LogLine -> Prop
  | warnings
      {failures : List Query.Failure}
      (queryMatters : dispatcher.style.hasQuerySide = true)
      (undecodable : Query.Undecodable uri failures) :
      QueryLog dispatcher uri (failures.map Query.skippedLine)
  | silent
      (queryIgnored : dispatcher.style.hasQuerySide = false) :
      QueryLog dispatcher uri []

theorem QueryLog.unique
    {dispatcher : Dispatcher}
    {uri : Text}
    {left right : List LogLine}
    (leftLog : QueryLog dispatcher uri left)
    (rightLog : QueryLog dispatcher uri right) :
    left = right := by
  cases leftLog with
  | warnings queryMatters undecodable =>
      cases rightLog with
      | warnings _ alsoUndecodable => rw [undecodable.unique alsoUndecodable]
      | silent queryIgnored => simp [queryMatters] at queryIgnored
  | silent queryIgnored =>
      cases rightLog with
      | warnings queryMatters _ => simp [queryMatters] at queryIgnored
      | silent _ => rfl

/-- The lines that the criteria of a request log, by how they end. -/
inductive RequestLog (dispatcher : Dispatcher) (uri : Text) :
    Except Fault Text -> List LogLine -> Prop
  /-- The lines about the path stand before those about the query. -/
  | result
      {key : Text} {pathLines queryLines : List LogLine}
      (path : PathLog dispatcher (uri.before '?') pathLines)
      (query : QueryLog dispatcher uri queryLines) :
      RequestLog dispatcher uri (.ok key) (pathLines ++ queryLines)
  /-- Nothing is logged where the template is too long. -/
  | tooLong
      {pattern : Text}
      (pathMatters : dispatcher.style.hasPathSide = true)
      (isTemplate : dispatcher.template = some pattern)
      (exceeds : Template.maximumLength < pattern.length) :
      RequestLog dispatcher uri (.error (.templateTooLong pattern.length)) []

/-- The end of the criteria of a request leaves one account of their log. -/
theorem RequestLog.unique
    {dispatcher : Dispatcher}
    {uri : Text}
    {outcome : Except Fault Text}
    {left right : List LogLine}
    (leftLog : RequestLog dispatcher uri outcome left)
    (rightLog : RequestLog dispatcher uri outcome right) :
    left = right := by
  cases leftLog with
  | result path query =>
      cases rightLog with
      | result alsoPath alsoQuery => rw [path.unique alsoPath, query.unique alsoQuery]
  | @tooLong pattern _ _ _ =>
      -- The length in the fault is no variable, so the cases are taken of any end.
      generalize ended : Except.error (Fault.templateTooLong pattern.length) = outcome
        at rightLog
      cases rightLog with
      | result _ _ => cases ended
      | tooLong _ _ _ => rfl

/-- The criteria of the query of a request, if the query matters. -/
def querySide (dispatcher : Dispatcher) (uri : Text) : Run Text :=
  if dispatcher.style.hasQuerySide then dispatcher.queryCriteria uri
  else pure []

/-- Computing criteria is computing those of the path and then those of the query,
where they matter. -/
theorem criteria_eq_sides (dispatcher : Dispatcher) (uri : Text) :
    dispatcher.criteria uri = do
      let pathKey <- dispatcher.pathSide uri
      let queryKey <- dispatcher.querySide uri
      return pathKey ++ queryKey := by
  unfold criteria pathSide querySide
  cases dispatcher.style with
  | parts =>
      change _ = dispatcher.pathCriteria (uri.before '?') >>= fun pathKey =>
        pure (pathKey ++ [])
      simp only [List.append_nil]
      exact (Run.bind_pure _).symm
  | params => exact (Run.bind_pure (dispatcher.queryCriteria uri)).symm
  | elements => rfl

/-- The criteria of the path fail exactly where the template is too long. -/
theorem pathSide_outcome_eq_error_iff
    (dispatcher : Dispatcher)
    (uri : Text)
    (fault : Fault) :
    (dispatcher.pathSide uri).outcome = .error fault ↔
      dispatcher.style.hasPathSide = true ∧ ∃ pattern,
        dispatcher.template = some pattern ∧
          Template.maximumLength < pattern.length ∧
            fault = .templateTooLong pattern.length := by
  unfold pathSide pathCriteria
  by_cases pathMatters : dispatcher.style.hasPathSide = true
  · rw [if_pos pathMatters]
    cases dispatcher.template with
    | some pattern =>
        simp [pathMatters, Template.criteriaOf_outcome_eq_error_iff]
    | none => cases dispatcher.base <;> simp
  · simp [pathMatters]

theorem pathLog_pathSide (dispatcher : Dispatcher) (uri : Text) :
    PathLog dispatcher (uri.before '?') (dispatcher.pathSide uri).log := by
  unfold pathSide
  split
  · rename_i pathMatters
    unfold pathCriteria
    cases isTemplate : dispatcher.template with
    | some pattern =>
        simp only [Template.criteriaOf_log]
        split
        · rename_i differs
          exact .mismatch ⟨pathMatters, isTemplate, differs.1, differs.2⟩
        · rename_i agrees
          refine .silent fun other mismatches => agrees ?_
          obtain rfl := mismatches.pattern_eq isTemplate
          exact ⟨mismatches.within, mismatches.apart⟩
    | none =>
        have noMismatch : ∀ pattern,
            ¬Mismatches dispatcher (uri.before '?') pattern := by
          intro pattern mismatches
          cases isTemplate.symm.trans mismatches.isTemplate
        cases dispatcher.base <;> exact .silent noMismatch
  · rename_i pathIgnored
    exact .silent fun pattern mismatches => pathIgnored mismatches.pathMatters

theorem queryLog_querySide (dispatcher : Dispatcher) (uri : Text) :
    QueryLog dispatcher uri (dispatcher.querySide uri).log := by
  unfold querySide
  split
  · rename_i queryMatters
    rw [queryCriteria, Query.criteriaOf_log]
    exact .warnings queryMatters (Query.undecodable_failures uri)
  · rename_i queryIgnored
    exact .silent (by simpa using queryIgnored)

theorem exists_querySide_outcome_eq_ok (dispatcher : Dispatcher) (uri : Text) :
    ∃ key, (dispatcher.querySide uri).outcome = .ok key := by
  unfold querySide
  split <;> exact ⟨_, rfl⟩

/-- A fault of the path comes before anything is logged. -/
theorem pathSide_log_of_fault
    {dispatcher : Dispatcher}
    {uri : Text}
    {fault : Fault}
    (fails : (dispatcher.pathSide uri).outcome = .error fault) :
    (dispatcher.pathSide uri).log = [] := by
  obtain ⟨_, pattern, isTemplate, exceeds, _⟩ :=
    (pathSide_outcome_eq_error_iff dispatcher uri fault).mp fails
  refine (pathLog_pathSide dispatcher uri).unique (.silent fun other mismatches => ?_)
  obtain rfl := mismatches.pattern_eq isTemplate
  exact Nat.not_le.mpr exceeds mismatches.within

/-- The criteria of a request log what the account of a request says. -/
theorem requestLog_criteria (dispatcher : Dispatcher) (uri : Text) :
    RequestLog dispatcher uri (dispatcher.criteria uri).outcome
      (dispatcher.criteria uri).log := by
  obtain ⟨queryKey, query⟩ := exists_querySide_outcome_eq_ok dispatcher uri
  rw [criteria_eq_sides, Run.outcome_bind, Run.log_bind]
  cases path : (dispatcher.pathSide uri).outcome with
  | ok pathKey =>
      simp only [Except.bind, Run.outcome_bind, Run.log_bind, query,
        Run.outcome_pure, Run.log_pure, List.append_nil]
      exact .result (pathLog_pathSide dispatcher uri) (queryLog_querySide dispatcher uri)
  | error fault =>
      obtain ⟨pathMatters, pattern, isTemplate, exceeds, rfl⟩ :=
        (pathSide_outcome_eq_error_iff dispatcher uri fault).mp path
      rw [pathSide_log_of_fault path]
      exact .tooLong pathMatters isTemplate exceeds

/-- A template with a placeholder does not apply to a path exactly when nothing is
written of the path. -/
theorem mismatches_iff_pathCriteria_eq_nil
    {dispatcher : Dispatcher}
    (pathMatters : dispatcher.style.hasPathSide = true)
    {pattern : Text}
    (isTemplate : dispatcher.template = some pattern)
    (within : pattern.length ≤ Template.maximumLength)
    {name : Text}
    (isPlaceholder : .placeholder name ∈ Template.Segment.ofPattern pattern)
    (path : Text) :
    Mismatches dispatcher path pattern ↔
      (dispatcher.pathCriteria path).outcome = .ok [] := by
  let template : Template := ⟨pattern, within⟩
  have varies : template.names ≠ [] :=
    List.ne_nil_of_mem ((template.mem_names_iff name).mpr isPlaceholder)
  have underTemplate : dispatcher.pathCriteria path = template.criteria path := by
    rw [pathCriteria, isTemplate]
    exact Template.criteriaOf_pattern template path
  have written : (dispatcher.pathCriteria path).outcome = .ok (template.key path) := by
    rw [underTemplate, Template.criteria_outcome]
    rfl
  rw [written, Except.ok.injEq, Template.key_eq_nil_iff varies]
  exact ⟨fun mismatches => mismatches.apart,
    fun apart => ⟨pathMatters, isTemplate, within, apart⟩⟩

/-! ## The log of an inference -/

/-- The line about an inferred dispatcher. -/
def inferredLine (dispatcher : Dispatcher) : LogLine :=
  (.debug, "Inferred " ++ dispatcher.style.label ++ " dispatcher with rules " ++
    Text.shown dispatcher.rules)

/-- The line about a number of sources among which nothing varies. -/
def nothingVariesLine (sources : Nat) : LogLine :=
  (.debug, "No variable parts or parameters in " ++ toString sources ++
    " example(s)")

/-- The sources of an inference are the examples, or the template alone where there is
no example. -/
inductive AreSources : Option Text -> List Text -> List Text -> Prop
  | examples {template : Option Text} {first : Text} {others : List Text} :
      AreSources template (first :: others) (first :: others)
  | template {text : Text} : AreSources (some text) [] [text]
  | nothing : AreSources none [] []

/-- An inference has one list of sources. -/
theorem AreSources.unique
    {template : Option Text}
    {examples left right : List Text}
    (leftSources : AreSources template examples left)
    (rightSources : AreSources template examples right) :
    left = right := by
  cases leftSources <;> cases rightSources <;> rfl

theorem areSources_sources (template : Option Text) (examples : List Text) :
    AreSources template examples (sources template examples) := by
  cases examples with
  | cons first others => exact .examples
  | nil =>
      cases template with
      | some text => exact .template
      | none => exact .nothing

/-- The lines that an inference logs, by how it ends: the warnings about its sources,
and a closing line if it does not fail. -/
inductive InferenceLog (template : Option Text) (examples : List Text) :
    Except Fault (Option Dispatcher) -> List LogLine -> Prop
  | inferred
      {dispatcher : Dispatcher} {uris : List Text} {warnings : List LogLine}
      (areSources : AreSources template examples uris)
      (warns : Query.Warns uris warnings) :
      InferenceLog template examples (.ok (some dispatcher))
        (warnings ++ [inferredLine dispatcher])
  | nothingVaries
      {uris : List Text} {warnings : List LogLine}
      (areSources : AreSources template examples uris)
      (warns : Query.Warns uris warnings) :
      InferenceLog template examples (.ok none)
        (warnings ++ [nothingVariesLine uris.length])
  | fault
      {fault : Fault} {uris : List Text} {warnings : List LogLine}
      (areSources : AreSources template examples uris)
      (warns : Query.Warns uris warnings) :
      InferenceLog template examples (.error fault) warnings

/-- The end of an inference leaves one account of its log. -/
theorem InferenceLog.unique
    {template : Option Text}
    {examples : List Text}
    {outcome : Except Fault (Option Dispatcher)}
    {left right : List LogLine}
    (leftLog : InferenceLog template examples outcome left)
    (rightLog : InferenceLog template examples outcome right) :
    left = right := by
  cases leftLog with
  | inferred areSources warns =>
      cases rightLog with
      | inferred alsoSources alsoWarns =>
          obtain rfl := areSources.unique alsoSources
          rw [warns.unique alsoWarns]
  | nothingVaries areSources warns =>
      cases rightLog with
      | nothingVaries alsoSources alsoWarns =>
          obtain rfl := areSources.unique alsoSources
          rw [warns.unique alsoWarns]
  | fault areSources warns =>
      cases rightLog with
      | fault alsoSources alsoWarns =>
          obtain rfl := areSources.unique alsoSources
          exact warns.unique alsoWarns

/-- An inference logs what the account of an inference says. -/
theorem inferenceLog_infer (template : Option Text) (examples : List Text) :
    InferenceLog template examples (infer template examples).outcome
      (infer template examples).log := by
  have areSources := areSources_sources template examples
  have warns := Query.warns_flatMap_warnings (sources template examples)
  rw [infer_outcome]
  unfold infer
  rw [Run.log_bind, Run.log_report, Run.outcome_report]
  simp only [Run.log_bind, Run.log_ofExcept, Run.outcome_ofExcept, List.nil_append]
  cases PathSide.infer template examples with
  | error fault =>
      rw [List.append_nil]
      exact .fault areSources warns
  | ok side =>
      simp only [Except.map]
      cases ofSides side (queryRule ((sources template examples).map Query.ofUri)) with
      | none => exact .nothingVaries areSources warns
      | some dispatcher => exact .inferred areSources warns

/-- The log of the criteria of a request and the log of an inference are the lines
that the accounts of the two say, and no others.  A line about the template says that
nothing is written of the path, if the template has a placeholder. -/
theorem log_exact :
    (∀ dispatcher uri,
      (∀ lines,
        RequestLog dispatcher uri (dispatcher.criteria uri).outcome lines ↔
          lines = (dispatcher.criteria uri).log) ∧
        ∀ pattern, dispatcher.style.hasPathSide = true ->
          dispatcher.template = some pattern ->
          pattern.length ≤ Template.maximumLength ->
          (∃ name, .placeholder name ∈ Template.Segment.ofPattern pattern) ->
            (Mismatches dispatcher (uri.before '?') pattern ↔
              (dispatcher.pathCriteria (uri.before '?')).outcome = .ok [])) ∧
      ∀ template examples lines,
        InferenceLog template examples (infer template examples).outcome lines ↔
          lines = (infer template examples).log := by
  refine ⟨fun dispatcher uri => ⟨fun lines => ?_, ?_⟩, fun template examples lines => ?_⟩
  · refine ⟨fun account => account.unique (requestLog_criteria dispatcher uri), ?_⟩
    rintro rfl
    exact requestLog_criteria dispatcher uri
  · rintro pattern pathMatters isTemplate within ⟨name, isPlaceholder⟩
    exact mismatches_iff_pathCriteria_eq_nil pathMatters isTemplate within
      isPlaceholder (uri.before '?')
  · refine ⟨fun account => account.unique (inferenceLog_infer template examples), ?_⟩
    rintro rfl
    exact inferenceLog_infer template examples

/-- A pattern of one code point over the limit. -/
def overlongPattern : Text := List.replicate 8193 'a'

/-- A dispatcher of both sides with that pattern. -/
def overlongDispatcher : Dispatcher :=
  ⟨.elements, "id ?? x".toList, some overlongPattern, none⟩

/-- A path to which the template does not apply is logged before two pieces that do not
decode, and what is written of the path is nothing.  A template without examples is the
source of an inference.  Where a template is too long, a request logs nothing and an
inference what its examples give rise to. -/
theorem log_exact_strayRequests :
    ((petDispatcher.style.hasPathSide = true ∧
          petDispatcher.template = some "/pets/{id}".toList ∧
          "/pets/{id}".toList.length ≤ Template.maximumLength ∧
          ∃ name, .placeholder name ∈
            Template.Segment.ofPattern "/pets/{id}".toList) ∧
        RequestLog petDispatcher "/dogs?a=%zz&b=1&c=%ff".toList (.ok "?b=1".toList)
          [(.debug, "URI '/dogs' does not match template '/pets/{id}'"),
            (.warning, "Skipping query parameter 'a=%zz': malformed percent-escape"),
            (.warning, "Skipping query parameter 'c=%ff': " ++
              "escaped bytes are not valid UTF-8")] ∧
        Mismatches petDispatcher "/dogs".toList "/pets/{id}".toList) ∧
      ((overlongDispatcher.criteria "/a?x=%zz".toList).outcome =
          .error (.templateTooLong 8193) ∧
        (overlongDispatcher.criteria "/a?x=%zz".toList).log = []) ∧
      InferenceLog none ["/pets".toList, "/pets?%zz=".toList] (.ok none)
        [(.warning, "Skipping query parameter '%zz=': malformed percent-escape"),
          (.debug, "No variable parts or parameters in 2 example(s)")] ∧
      InferenceLog (some "/pets?%zz=&limit=5".toList) []
        (.ok (some ⟨.params, "limit".toList, none, none⟩))
        [(.warning, "Skipping query parameter '%zz=': malformed percent-escape"),
          (.debug, "Inferred URI_PARAMS dispatcher with rules 'limit'")] ∧
      (infer (some overlongPattern) ["/a?x=%zz".toList]).outcome =
          .error (.templateTooLong 8193) ∧
        (infer (some overlongPattern) ["/a?x=%zz".toList]).log =
          [(.warning, "Skipping query parameter 'x=%zz': malformed percent-escape")] := by
  have pathMatters : petDispatcher.style.hasPathSide = true := rfl
  have isTemplate : petDispatcher.template = some "/pets/{id}".toList := rfl
  have within : "/pets/{id}".toList.length ≤ Template.maximumLength := by decide
  have hasPlaceholder : ∃ name, .placeholder name ∈
      Template.Segment.ofPattern "/pets/{id}".toList := ⟨"id".toList, by decide⟩
  have length : overlongPattern.length = 8193 := List.length_replicate
  have exceeds : Template.maximumLength < overlongPattern.length := by
    rw [length]
    decide
  have noQuery : '?' ∉ overlongPattern := fun member =>
    absurd (List.eq_of_mem_replicate member) (by decide)
  have requestFails : (overlongDispatcher.criteria "/a?x=%zz".toList).outcome =
      .error (.templateTooLong overlongPattern.length) := by
    rw [criteria_outcome, (pathSide_outcome_eq_error_iff ..).mpr
      ⟨rfl, overlongPattern, rfl, exceeds, rfl⟩]
    rfl
  have inferenceFails : (infer (some overlongPattern) ["/a?x=%zz".toList]).outcome =
      .error (.templateTooLong overlongPattern.length) := by
    rw [infer_outcome_eq_error_iff, PathSide.infer_eq_error_iff]
    refine ⟨overlongPattern, rfl, ?_⟩
    rw [Text.before_eq_self noQuery]
    exact ⟨exceeds, rfl⟩
  obtain ⟨ofRequests, ofInferences⟩ := log_exact
  obtain ⟨lines, nothingWritten⟩ :=
    ofRequests petDispatcher "/dogs?a=%zz&b=1&c=%ff".toList
  have requestLog : RequestLog overlongDispatcher "/a?x=%zz".toList
      (overlongDispatcher.criteria "/a?x=%zz".toList).outcome [] := by
    rw [requestFails]
    exact .tooLong rfl rfl exceeds
  have inferenceLog : InferenceLog (some overlongPattern) ["/a?x=%zz".toList]
      (infer (some overlongPattern) ["/a?x=%zz".toList]).outcome
      [(.warning, "Skipping query parameter 'x=%zz': malformed percent-escape")] := by
    rw [inferenceFails]
    exact .fault .examples (Query.warns_flatMap_warnings ["/a?x=%zz".toList])
  rw [length] at requestFails inferenceFails
  refine ⟨⟨⟨pathMatters, isTemplate, within, hasPlaceholder⟩, (lines _).mpr rfl, ?_⟩,
    ⟨requestFails, (((ofRequests _ _).1 _).mp requestLog).symm⟩,
    (ofInferences _ _ _).mpr rfl, (ofInferences _ _ _).mpr rfl,
    inferenceFails, ((ofInferences _ _ _).mp inferenceLog).symm⟩
  exact (nothingWritten _ pathMatters isTemplate within hasPlaceholder).mpr rfl

end Dispatcher
end RequestKey
