import RequestKey.Bindings.Basic
import RequestKey.Query.Component
import RequestKey.Rule
import RequestKey.Text.Quoted

/-!
# Queries

The query of a URI follows its first question mark and consists of pieces
between ampersands.  A piece is a key and a value around its first equals sign.
Decoding is best effort: every piece with a key contributes one item, either a
parameter or the failure that kept it from being one, and no piece influences
another.
-/

namespace RequestKey

namespace Query

/-- A piece that could not be decoded. -/
structure Failure where
  /-- The piece as it stands in the query. -/
  piece : Text
  /-- Why its key, or else its value, cannot be decoded. -/
  reason : Reason
  deriving DecidableEq, Repr

/-- The words for a failure. -/
def Failure.message (failure : Failure) : String :=
  "cannot decode query parameter " ++ Text.shown failure.piece ++ ": " ++
    failure.reason.message

/-- What one piece of a query contributes. -/
inductive Item
  /-- A decoded key with its decoded value. -/
  | parameter (key value : Text)
  /-- A piece that is left out. -/
  | skipped (failure : Failure)
  deriving DecidableEq, Repr

namespace Item

/-- The contribution of a piece.  A piece with an empty key has none. -/
def ofPiece? (piece : Text) : Option Item :=
  if piece.before '=' = [] then none
  else
    match Component.decode (piece.before '=') with
    | .error reason => some (.skipped ⟨piece, reason⟩)
    | .ok key =>
        match Component.decode (piece.after '=') with
        | .error reason => some (.skipped ⟨piece, reason⟩)
        | .ok value => some (.parameter key value)

/-- The key and value of a parameter. -/
def pair? : Item -> Option (Text × Text)
  | .parameter key value => some (key, value)
  | .skipped _ => none

/-- The failure of a piece that is left out. -/
def failure? : Item -> Option Failure
  | .parameter _ _ => none
  | .skipped failure => some failure

end Item

end Query

/-- What the query of a URI contributes, in the order of its pieces. -/
structure Query where
  /-- The contributions of the pieces. -/
  items : List Query.Item

namespace Query

/-- The contributions of all pieces of a query text. -/
def ofText (text : Text) : Query :=
  ⟨(text.splitOn '&').filterMap Item.ofPiece?⟩

/-- The query of a URI.  A URI without a question mark or without any equals
sign contributes nothing. -/
def ofUri (uri : Text) : Query :=
  if '?' ∈ uri ∧ '=' ∈ uri then ofText (uri.after '?') else ⟨[]⟩

/-- The decoded keys and values in query order, repeats kept. -/
def pairs (query : Query) : List (Text × Text) :=
  query.items.filterMap Item.pair?

/-- The failures in query order. -/
def failures (query : Query) : List Failure :=
  query.items.filterMap Item.failure?

/-- The decoded keys in query order, repeats kept. -/
def keys (query : Query) : List Text :=
  query.pairs.map Prod.fst

/-- The keys with their values.  A repeated key has its last value. -/
def bindings (query : Query) : Bindings :=
  Bindings.ofPairs query.pairs

/-- The rule that lists the keys in query order. -/
def rule (query : Query) : Rule :=
  Rule.join query.keys

/-- The parameters that a rule selects. -/
def selected
    (query : Query)
    (rule : Rule)
    (selection : Rule.Selection) : Bindings :=
  query.bindings.restrict (rule.selects selection)

end Query
end RequestKey
