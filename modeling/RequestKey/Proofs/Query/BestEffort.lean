import RequestKey.Proofs.Query.Decoding
import RequestKey.Proofs.Query.Pieces
import RequestKey.Query.Criteria

/-!
# Best effort, piece by piece

The pieces of a query are read one after another, each by itself.  A piece with a
key contributes a parameter if its key and its value decode, and one failure
otherwise; a piece without a key contributes nothing.

The main statement says that reading a URI accounts for every piece in this way,
reports each failure once, and that putting another text in the place of one piece
changes nothing of what the other pieces contribute.
-/

namespace RequestKey
namespace Query

open Component

/-! ## What pieces contribute -/

/-- The reason for which a piece is left out: that of its key, or that of its value
if the key decodes. -/
inductive FailsBy (piece : Text) : Reason -> Prop
  | key
      {reason : Reason}
      (fails : decode (piece.before '=') = .error reason) :
      FailsBy piece reason
  | value
      {reason : Reason}
      {key : Text}
      (keyDecoded : decode (piece.before '=') = .ok key)
      (fails : decode (piece.after '=') = .error reason) :
      FailsBy piece reason

/-- The parameters and the failures that pieces contribute, one piece after
another. -/
inductive Reads : List Text -> List (Text × Text) -> List Failure -> Prop
  | nil : Reads [] [] []
  /-- A piece without a key contributes nothing. -/
  | ignored
      {piece : Text} {pieces : List Text}
      {pairs : List (Text × Text)} {failures : List Failure}
      (noKey : piece.before '=' = [])
      (later : Reads pieces pairs failures) :
      Reads (piece :: pieces) pairs failures
  /-- A piece of which both sides decode contributes a parameter. -/
  | decoded
      {piece key value : Text} {pieces : List Text}
      {pairs : List (Text × Text)} {failures : List Failure}
      (hasKey : piece.before '=' ≠ [])
      (keyDecoded : decode (piece.before '=') = .ok key)
      (valueDecoded : decode (piece.after '=') = .ok value)
      (later : Reads pieces pairs failures) :
      Reads (piece :: pieces) ((key, value) :: pairs) failures
  /-- A piece of which one side does not decode contributes a failure. -/
  | failed
      {piece : Text} {reason : Reason} {pieces : List Text}
      {pairs : List (Text × Text)} {failures : List Failure}
      (hasKey : piece.before '=' ≠ [])
      (fails : FailsBy piece reason)
      (later : Reads pieces pairs failures) :
      Reads (piece :: pieces) pairs (⟨piece, reason⟩ :: failures)

/-- Each piece with a key contributes one parameter or one failure. -/
theorem Reads.length_add_length
    {pieces : List Text}
    {pairs : List (Text × Text)}
    {failures : List Failure}
    (reads : Reads pieces pairs failures) :
    pairs.length + failures.length =
      (pieces.filter fun piece => piece.before '=' ≠ []).length := by
  induction reads with
  | nil => rfl
  | ignored noKey later inductionHypothesis =>
      simpa [noKey] using inductionHypothesis
  | decoded hasKey keyDecoded valueDecoded later inductionHypothesis =>
      rw [List.filter_cons_of_pos (by simpa using hasKey), List.length_cons,
        List.length_cons, ← inductionHypothesis]
      omega
  | failed hasKey fails later inductionHypothesis =>
      rw [List.filter_cons_of_pos (by simpa using hasKey), List.length_cons,
        List.length_cons, ← inductionHypothesis]
      omega

/-- A decoded key is not empty. -/
theorem Reads.key_ne_nil
    {pieces : List Text}
    {pairs : List (Text × Text)}
    {failures : List Failure}
    (reads : Reads pieces pairs failures) :
    ∀ pair ∈ pairs, pair.1 ≠ [] := by
  induction reads with
  | nil => simp
  | ignored noKey later inductionHypothesis => exact inductionHypothesis
  | decoded hasKey keyDecoded valueDecoded later inductionHypothesis =>
      exact List.forall_mem_cons.mpr
        ⟨ne_nil_of_decode_eq_ok hasKey keyDecoded, inductionHypothesis⟩
  | failed hasKey fails later inductionHypothesis => exact inductionHypothesis

/-- Pieces after others contribute after them. -/
theorem Reads.append
    {left right : List Text}
    {leftPairs rightPairs : List (Text × Text)}
    {leftFailures rightFailures : List Failure}
    (leftReads : Reads left leftPairs leftFailures)
    (rightReads : Reads right rightPairs rightFailures) :
    Reads (left ++ right) (leftPairs ++ rightPairs)
      (leftFailures ++ rightFailures) := by
  induction leftReads with
  | nil => exact rightReads
  | ignored noKey later inductionHypothesis =>
      exact .ignored noKey inductionHypothesis
  | decoded hasKey keyDecoded valueDecoded later inductionHypothesis =>
      exact .decoded hasKey keyDecoded valueDecoded inductionHypothesis
  | failed hasKey fails later inductionHypothesis =>
      exact .failed hasKey fails inductionHypothesis

/-! ## What a query reads -/

/-- Both sides of a piece decode, or the piece fails for a reason. -/
theorem decoded_or_failsBy (piece : Text) :
    (∃ key value, decode (piece.before '=') = .ok key ∧
        decode (piece.after '=') = .ok value) ∨
      ∃ reason, FailsBy piece reason := by
  cases keyDecoded : decode (piece.before '=') with
  | error reason => exact Or.inr ⟨reason, .key keyDecoded⟩
  | ok key =>
      cases valueDecoded : decode (piece.after '=') with
      | error reason => exact Or.inr ⟨reason, .value keyDecoded valueDecoded⟩
      | ok value => exact Or.inl ⟨key, value, rfl, rfl⟩

theorem Item.ofPiece?_of_decoded
    {piece key value : Text}
    (hasKey : piece.before '=' ≠ [])
    (keyDecoded : decode (piece.before '=') = .ok key)
    (valueDecoded : decode (piece.after '=') = .ok value) :
    ofPiece? piece = some (.parameter key value) := by
  rw [ofPiece?, if_neg hasKey, keyDecoded, valueDecoded]

theorem Item.ofPiece?_of_failsBy
    {piece : Text}
    {reason : Reason}
    (hasKey : piece.before '=' ≠ [])
    (fails : FailsBy piece reason) :
    ofPiece? piece = some (.skipped ⟨piece, reason⟩) := by
  cases fails with
  | key fails => rw [ofPiece?, if_neg hasKey, fails]
  | value keyDecoded fails => rw [ofPiece?, if_neg hasKey, keyDecoded, fails]

/-- The query that pieces make up. -/
def ofPieces (pieces : List Text) : Query :=
  ⟨pieces.filterMap Item.ofPiece?⟩

/-- A query holds what its pieces contribute. -/
theorem reads_ofPieces (pieces : List Text) :
    Reads pieces (ofPieces pieces).pairs (ofPieces pieces).failures := by
  unfold ofPieces pairs failures
  induction pieces with
  | nil => exact .nil
  | cons piece pieces inductionHypothesis =>
      by_cases noKey : piece.before '=' = []
      · rw [List.filterMap_cons_none ((Item.ofPiece?_eq_none_iff piece).mpr noKey)]
        exact .ignored noKey inductionHypothesis
      · rcases decoded_or_failsBy piece with
          ⟨key, value, keyDecoded, valueDecoded⟩ | ⟨reason, fails⟩
        · rw [List.filterMap_cons_some
            (Item.ofPiece?_of_decoded noKey keyDecoded valueDecoded)]
          exact .decoded noKey keyDecoded valueDecoded inductionHypothesis
        · rw [List.filterMap_cons_some (Item.ofPiece?_of_failsBy noKey fails)]
          exact .failed noKey fails inductionHypothesis

/-- Pieces contribute nothing else than what their query holds. -/
theorem Reads.eq_ofPieces
    {pieces : List Text}
    {pairs : List (Text × Text)}
    {failures : List Failure}
    (reads : Reads pieces pairs failures) :
    (ofPieces pieces).pairs = pairs ∧ (ofPieces pieces).failures = failures := by
  unfold ofPieces Query.pairs Query.failures
  induction reads with
  | nil => exact ⟨rfl, rfl⟩
  | ignored noKey later inductionHypothesis =>
      rw [List.filterMap_cons_none ((Item.ofPiece?_eq_none_iff _).mpr noKey)]
      exact inductionHypothesis
  | decoded hasKey keyDecoded valueDecoded later inductionHypothesis =>
      rw [List.filterMap_cons_some
        (Item.ofPiece?_of_decoded hasKey keyDecoded valueDecoded)]
      exact ⟨congrArg _ inductionHypothesis.1, inductionHypothesis.2⟩
  | failed hasKey fails later inductionHypothesis =>
      rw [List.filterMap_cons_some (Item.ofPiece?_of_failsBy hasKey fails)]
      exact ⟨inductionHypothesis.1, congrArg _ inductionHypothesis.2⟩

/-! ## Pieces of a URI -/

/-- The pieces of the query text of a URI. -/
def piecesOfUri (uri : Text) : List Text :=
  (uri.after '?').splitOn '&'

/-- The URI with other pieces in its query text. -/
def withPieces (uri : Text) (pieces : List Text) : Text :=
  uri.before '?' ++ '?' :: ['&'].intercalate pieces

/-- The pieces of a URI hold no ampersand. -/
theorem not_mem_of_mem_piecesOfUri
    {uri piece : Text}
    (member : piece ∈ piecesOfUri uri) :
    '&' ∉ piece :=
  fun inside => (Text.mem_of_mem_splitOn member inside).1 rfl

/-- A URI with a query text is put together from its own pieces. -/
theorem withPieces_piecesOfUri
    {uri : Text}
    (hasQuery : '?' ∈ uri) :
    withPieces uri (piecesOfUri uri) = uri := by
  rw [withPieces, piecesOfUri, List.intercalate_splitOn,
    Text.before_append_mark_append_after hasQuery]

/-- A URI with given pieces in its query text has these pieces. -/
theorem piecesOfUri_withPieces
    {pieces : List Text}
    (nonempty : pieces ≠ [])
    (plain : ∀ piece ∈ pieces, '&' ∉ piece)
    (uri : Text) :
    piecesOfUri (withPieces uri pieces) = pieces := by
  rw [piecesOfUri, withPieces,
    Text.after_append_mark (Text.not_mem_before '?' uri)]
  exact List.splitOn_intercalate '&' plain nonempty

/-- A URI with a query text and an equals sign is read piece by piece. -/
theorem ofUri_eq_ofPieces
    {uri : Text}
    (hasQuery : '?' ∈ uri)
    (hasEquals : '=' ∈ uri) :
    ofUri uri = ofPieces (piecesOfUri uri) := by
  rw [ofUri, if_pos ⟨hasQuery, hasEquals⟩]
  rfl

/-! ## Accounts of a URI -/

/-- A run accounts for pieces by a query: the query holds what they contribute, and
every failure is reported once. -/
structure Accounts
    (run : Run Query)
    (pieces : List Text)
    (query : Query) : Prop where
  /-- The run ends with the query, whatever fails. -/
  outcome : run.outcome = .ok query
  /-- The query holds what the pieces contribute, in their order. -/
  reads : Reads pieces query.pairs query.failures
  /-- Each piece with a key counts once, as a parameter or as a failure. -/
  oneForEach : query.pairs.length + query.failures.length =
    (pieces.filter fun piece => piece.before '=' ≠ []).length
  /-- Each failure is reported once, in the same order. -/
  records : run.records = query.failures.map Record.skippedParameter
  /-- The reports are warnings. -/
  warnings : ∀ record ∈ run.records, record.level = .warning
  /-- No parameter has an empty key. -/
  keys : ∀ key ∈ query.keys, key ≠ []

/-- A query holds what a piece contributes, between what the pieces before it and
those after it contribute. -/
def HoldsBetween (earlier later : Query) (piece : Text) (query : Query) : Prop :=
  ∃ pairs failures, Reads [piece] pairs failures ∧
    query.pairs = earlier.pairs ++ pairs ++ later.pairs ∧
    query.failures = earlier.failures ++ failures ++ later.failures

/-- Reading a URI reports its failures and nothing else. -/
theorem read_records (uri : Text) :
    (read uri).records = (ofUri uri).failures.map Record.skippedParameter :=
  List.append_nil _

theorem accounts_read
    {uri : Text}
    (hasQuery : '?' ∈ uri)
    (hasEquals : '=' ∈ uri) :
    Accounts (read uri) (piecesOfUri uri) (ofUri uri) := by
  have reads := reads_ofPieces (piecesOfUri uri)
  rw [← ofUri_eq_ofPieces hasQuery hasEquals] at reads
  refine ⟨rfl, reads, reads.length_add_length, read_records uri, ?_, ?_⟩
  · intro record member
    rw [read_records] at member
    obtain ⟨failure, _, rfl⟩ := List.mem_map.mp member
    rfl
  · intro key member
    obtain ⟨pair, isPair, rfl⟩ := List.mem_map.mp member
    exact reads.key_ne_nil pair isPair

theorem holdsBetween_ofPieces
    (earlier later : List Text)
    (piece : Text) :
    HoldsBetween (ofPieces earlier) (ofPieces later) piece
      (ofPieces (earlier ++ piece :: later)) := by
  refine ⟨(ofPieces [piece]).pairs, (ofPieces [piece]).failures,
    reads_ofPieces [piece], ?_⟩
  have reads := ((reads_ofPieces earlier).append (reads_ofPieces [piece])).append
    (reads_ofPieces later)
  rw [List.append_assoc] at reads
  exact reads.eq_ofPieces

/-- A text without an ampersand in the place of a piece is read between the same
contributions of the other pieces. -/
theorem holdsBetween_withPieces
    {uri piece : Text}
    {earlier later : List Text}
    (split : piecesOfUri uri = earlier ++ piece :: later)
    {other : Text}
    (plain : '&' ∉ other)
    (hasEquals : '=' ∈ withPieces uri (earlier ++ other :: later)) :
    HoldsBetween (ofPieces earlier) (ofPieces later) other
      (ofUri (withPieces uri (earlier ++ other :: later))) := by
  have hasQuery : '?' ∈ withPieces uri (earlier ++ other :: later) := by
    simp [withPieces]
  have plainPieces : ∀ part ∈ earlier ++ other :: later, '&' ∉ part := by
    have given : ∀ part ∈ earlier ++ piece :: later, '&' ∉ part := by
      rw [← split]
      exact fun _ => not_mem_of_mem_piecesOfUri
    simp only [List.forall_mem_append, List.forall_mem_cons] at given ⊢
    exact ⟨given.1, plain, given.2.2⟩
  rw [ofUri_eq_ofPieces hasQuery hasEquals,
    piecesOfUri_withPieces (by simp) plainPieces]
  exact holdsBetween_ofPieces earlier later other

/-- Reading a URI with a query text and an equals sign accounts for every piece of
the text, and another text in the place of one piece leaves what the other pieces
contribute as it was. -/
theorem read_bestEffort
    {uri : Text}
    (hasQuery : '?' ∈ uri)
    (hasEquals : '=' ∈ uri) :
    Accounts (read uri) (piecesOfUri uri) (ofUri uri) ∧
      ∀ earlier piece later, piecesOfUri uri = earlier ++ piece :: later ->
        ∃ before after : Query,
          Reads earlier before.pairs before.failures ∧
            Reads later after.pairs after.failures ∧
            HoldsBetween before after piece (ofUri uri) ∧
            ∀ other, '&' ∉ other ->
              '=' ∈ withPieces uri (earlier ++ other :: later) ->
                HoldsBetween before after other
                  (ofUri (withPieces uri (earlier ++ other :: later))) := by
  refine ⟨accounts_read hasQuery hasEquals, ?_⟩
  intro earlier piece later split
  have whole : withPieces uri (earlier ++ piece :: later) = uri := by
    rw [← split, withPieces_piecesOfUri hasQuery]
  have member : piece ∈ piecesOfUri uri := by
    rw [split]
    exact List.mem_append_right earlier List.mem_cons_self
  have plain : '&' ∉ piece := not_mem_of_mem_piecesOfUri member
  refine ⟨ofPieces earlier, ofPieces later, reads_ofPieces earlier,
    reads_ofPieces later, ?_, ?_⟩
  · have unchanged := holdsBetween_withPieces split plain (by rwa [whole])
    rwa [whole] at unchanged
  · intro other plainOther
    exact holdsBetween_withPieces split plainOther

/-- A key and a value fail in one piece, pieces without a key stand between the
others, and a piece that fails is replaced by one that decodes. -/
theorem read_bestEffort_faultyPieces :
    ('?' ∈ "/a?x=1&=2&&%ff=%zz&y=%C3%A9&flag".toList ∧
        '=' ∈ "/a?x=1&=2&&%ff=%zz&y=%C3%A9&flag".toList) ∧
      Accounts (read "/a?x=1&=2&&%ff=%zz&y=%C3%A9&flag".toList)
        ["x=1".toList, "=2".toList, [], "%ff=%zz".toList, "y=%C3%A9".toList,
          "flag".toList]
        (ofUri "/a?x=1&=2&&%ff=%zz&y=%C3%A9&flag".toList) ∧
      (ofUri "/a?x=1&=2&&%ff=%zz&y=%C3%A9&flag".toList).pairs =
        [("x".toList, "1".toList), ("y".toList, "é".toList),
          ("flag".toList, [])] ∧
      (ofUri "/a?x=1&=2&&%ff=%zz&y=%C3%A9&flag".toList).failures =
        [⟨"%ff=%zz".toList, .invalidUtf8⟩] ∧
      ∃ before after : Query,
        HoldsBetween before after "%ff=%zz".toList
            (ofUri "/a?x=1&=2&&%ff=%zz&y=%C3%A9&flag".toList) ∧
          HoldsBetween before after "z=?".toList
            (ofUri "/a?x=1&=2&&z=?&y=%C3%A9&flag".toList) := by
  have hasQuery : '?' ∈ "/a?x=1&=2&&%ff=%zz&y=%C3%A9&flag".toList := by decide
  have hasEquals : '=' ∈ "/a?x=1&=2&&%ff=%zz&y=%C3%A9&flag".toList := by decide
  obtain ⟨accounts, around⟩ := read_bestEffort hasQuery hasEquals
  obtain ⟨before, after, _, _, given, replaced⟩ :=
    around ["x=1".toList, "=2".toList, []] "%ff=%zz".toList
      ["y=%C3%A9".toList, "flag".toList] rfl
  exact ⟨⟨hasQuery, hasEquals⟩, accounts, rfl, rfl, before, after, given,
    replaced "z=?".toList (by decide) (by decide)⟩

end Query
end RequestKey
