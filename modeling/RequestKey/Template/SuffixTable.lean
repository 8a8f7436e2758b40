import RequestKey.Text.Basic

/-!
# Tables over the suffixes of a text

A table holds one value for every suffix of a text, from the whole text down to
the empty one.  Tables are computed from the end of the text, so the value at a
suffix may use the values at all later ones.
-/

namespace RequestKey
namespace Template

/-- A value for every suffix of a text. -/
inductive SuffixTable (α : Type)
  /-- The value at the empty suffix. -/
  | last (value : α)
  /-- The value at a suffix that starts with a character, and the table of the
  later suffixes. -/
  | next (char : Char) (value : α) (later : SuffixTable α)

namespace SuffixTable

/-- The value at the whole text. -/
def value : SuffixTable α -> α
  | .last value => value
  | .next _ value _ => value

/-- The table of a function on the suffixes of a text. -/
def ofText (valueAt : Text -> α) : Text -> SuffixTable α
  | [] => .last (valueAt [])
  | char :: text => .next char (valueAt (char :: text)) (ofText valueAt text)

/-- The value at the suffix that follows a given start of the text, if the text
starts that way. -/
def valueAfter? : Text -> SuffixTable (Option α) -> Option α
  | [], table => table.value
  | _ :: _, .last _ => none
  | expected :: start, .next char _ later =>
      if expected = char then later.valueAfter? start else none

/-- The table whose value at a suffix comes from the given table from that
suffix on. -/
def extend (f : SuffixTable α -> β) : SuffixTable α -> SuffixTable β
  | .last value => .last (f (.last value))
  | .next char value later =>
      .next char (f (.next char value later)) (extend f later)

@[simp] theorem value_ofText
    (valueAt : Text -> α)
    (text : Text) :
    (ofText valueAt text).value = valueAt text := by
  cases text <;> rfl

/-- Extending the table of a function by a function of tables gives the table of
their composition. -/
theorem extend_ofText
    (f : SuffixTable α -> β)
    (valueAt : Text -> α)
    (text : Text) :
    extend f (ofText valueAt text) =
      ofText (fun suffix => f (ofText valueAt suffix)) text := by
  induction text with
  | nil => rfl
  | cons char text inductionHypothesis =>
      simp only [ofText, extend, inductionHypothesis]

end SuffixTable
end Template
end RequestKey
