import RequestKey.Text.Basic

/-!
# Segments of a template

A template pattern is read as literal runs and placeholders.  A placeholder is a
name between braces; its name is not empty and ends at the first closing brace.
An empty pair of braces and an opening brace that is never closed are literal
text.  Adjacent literal text is one run.

The main statement says that writing the segments of a pattern gives the pattern
back.
-/

namespace RequestKey
namespace Template

/-- A part of a template. -/
inductive Segment
  /-- Text that stands for itself. -/
  | literal (text : Text)
  /-- A named place for a value. -/
  | placeholder (name : Text)
  deriving DecidableEq, Repr

namespace Segment

/-- Put a literal character in front, into the first run if there is one. -/
def prependLiteral (char : Char) : List Segment -> List Segment
  | .literal text :: segments => .literal (char :: text) :: segments
  | segments => .literal [char] :: segments

/-- The segments of a text.  Inside a brace that is still open, the part of the
name read so far is given with its last character first. -/
def scan : (openName : Option Text) -> Text -> List Segment
  | none, [] => []
  | none, char :: text =>
      if char = '{' then scan (some []) text
      else prependLiteral char (scan none text)
  | some reversedName, [] => [.literal ('{' :: reversedName.reverse)]
  | some reversedName, char :: text =>
      if char = '}' then
        if reversedName = [] then
          prependLiteral '{' (prependLiteral '}' (scan none text))
        else
          .placeholder reversedName.reverse :: scan none text
      else scan (some (char :: reversedName)) text

/-- The segments of a pattern. -/
def ofPattern (pattern : Text) : List Segment :=
  scan none pattern

/-- A segment as a pattern shows it. -/
def render : Segment -> Text
  | .literal text => text
  | .placeholder name => '{' :: name ++ ['}']

/-- The pattern that shows the segments one after another. -/
def renderAll (segments : List Segment) : Text :=
  segments.flatMap render

/-- The name of a placeholder. -/
def name? : Segment -> Option Text
  | .literal _ => none
  | .placeholder name => some name

/-- The names of the placeholders in order, repeats kept. -/
def names (segments : List Segment) : List Text :=
  segments.filterMap name?

@[simp] theorem names_nil : names [] = [] := rfl

@[simp] theorem names_literal (text : Text) (segments : List Segment) :
    names (.literal text :: segments) = names segments := rfl

@[simp] theorem names_placeholder (name : Text) (segments : List Segment) :
    names (.placeholder name :: segments) = name :: names segments := rfl

@[simp] theorem renderAll_nil : renderAll [] = [] := rfl

@[simp] theorem renderAll_cons
    (segment : Segment)
    (segments : List Segment) :
    renderAll (segment :: segments) = segment.render ++ renderAll segments :=
  List.flatMap_cons

@[simp] theorem renderAll_prependLiteral
    (char : Char)
    (segments : List Segment) :
    renderAll (prependLiteral char segments) = char :: renderAll segments := by
  cases segments with
  | nil => rfl
  | cons segment segments => cases segment <;> rfl

/-- Writing the segments of a text gives the text back, after the part of an
open brace that was read before. -/
theorem renderAll_scan
    (openName : Option Text)
    (text : Text) :
    renderAll (scan openName text) =
      (openName.elim [] fun reversedName => '{' :: reversedName.reverse) ++
        text := by
  fun_induction scan openName text with
  | case1 => rfl
  | case2 text inductionHypothesis => simpa using inductionHypothesis
  | case3 char text notOpening inductionHypothesis => simpa using inductionHypothesis
  | case4 reversedName => simp [render]
  | case5 text inductionHypothesis => simpa using inductionHypothesis
  | case6 reversedName text nonempty inductionHypothesis =>
      simpa [render] using inductionHypothesis
  | case7 reversedName char text notClosing inductionHypothesis =>
      simpa using inductionHypothesis

/-- Writing the segments of a pattern gives the pattern back. -/
@[simp] theorem renderAll_ofPattern (pattern : Text) :
    renderAll (ofPattern pattern) = pattern :=
  renderAll_scan none pattern

end Segment
end Template
end RequestKey
