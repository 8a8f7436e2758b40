import RequestKey.Template.Segment
import RequestKey.Template.SuffixTable

/-!
# Assigning values to placeholders

A URI matches segments when it is their literal text with some text in the place
of each placeholder.  A value has at least one character and no newline.  Of
several assignments the first placeholder takes the longest value it can, then
the second, and so on.

The assignment for every suffix of the URI is computed from the last segment to
the first, one table for each segment, so the work is bounded by the length of the
pattern times the length of the URI.
-/

namespace RequestKey
namespace Template

/-- Whether a text may stand in the place of a placeholder. -/
def IsValue (value : Text) : Prop :=
  value ≠ [] ∧ '\n' ∉ value

instance (value : Text) : Decidable (IsValue value) :=
  inferInstanceAs (Decidable (value ≠ [] ∧ '\n' ∉ value))

namespace Segment

/-- The text of the segments with the values in the places of the placeholders,
if there are as many values as placeholders. -/
def fill? : List Segment -> List Text -> Option Text
  | [], [] => some []
  | [], _ :: _ => none
  | .literal text :: segments, values =>
      (fill? segments values).map (text ++ ·)
  | .placeholder _ :: _, [] => none
  | .placeholder _ :: segments, value :: values =>
      (fill? segments values).map (value ++ ·)

/-- Extend assignments at later suffixes by a value in front.  The value is as
long as possible: it grows at its start as long as a longer one has an
assignment after it. -/
def prependValue :
    SuffixTable (Option (List Text)) -> SuffixTable (Option (List Text))
  | .last _ => .last none
  | .next char _ later =>
      let longer := prependValue later
      let assigned :=
        if char = '\n' then none
        else
          match longer.value with
          | some values => some (values.modifyHead (char :: ·))
          | none => later.value.map ([char] :: ·)
      .next char assigned longer

/-- Assignments for a segment and what follows it, from the assignments for what
follows. -/
def prependTo :
    Segment -> SuffixTable (Option (List Text)) ->
      SuffixTable (Option (List Text))
  | .literal text, table => table.extend (SuffixTable.valueAfter? text)
  | .placeholder _, table => prependValue table

/-- The only assignment for no segments is the one without values, at the empty
suffix. -/
def noSegments (uri : Text) : SuffixTable (Option (List Text)) :=
  SuffixTable.ofText (fun suffix => if suffix = [] then some [] else none) uri

/-- The values of the placeholders in their order, if the URI matches. -/
def assignment? (segments : List Segment) (uri : Text) : Option (List Text) :=
  (segments.foldr prependTo (noSegments uri)).value

end Segment
end Template
end RequestKey
