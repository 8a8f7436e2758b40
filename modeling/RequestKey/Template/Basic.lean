import RequestKey.Bindings.Basic
import RequestKey.Rule
import RequestKey.Template.Assignment

/-!
# Templates

A template is a pattern of bounded length.  Its placeholders name the variables
that matter, and matching it against a URI binds each name to the text in its
place.  Names may repeat; the last place of a name then gives its value.
-/

namespace RequestKey

/-- Number of code points that a template pattern may have at most. -/
def Template.maximumLength : Nat := 8192

/-- A pattern within the length limit. -/
structure Template where
  /-- The text of the template. -/
  pattern : Text
  /-- The pattern is within the limit. -/
  length_le : pattern.length ≤ Template.maximumLength

namespace Template

/-- The template of a pattern, unless the pattern is too long. -/
def ofPattern? (pattern : Text) : Option Template :=
  if bounded : pattern.length ≤ maximumLength then some ⟨pattern, bounded⟩
  else none

/-- The segments of a template. -/
def segments (template : Template) : List Segment :=
  Segment.ofPattern template.pattern

/-- The names of a template are those of its segments. -/
def names (template : Template) : List Text :=
  Segment.names template.segments

/-- The literal text before the first placeholder. -/
def opening (template : Template) : Text :=
  match template.segments with
  | .literal text :: _ => text
  | _ => []

/-- The values of the names in a URI, if the URI as a whole matches. -/
def match? (template : Template) (uri : Text) : Option Bindings :=
  (Segment.assignment? template.segments uri).map fun values =>
    Bindings.ofPairs (template.names.zip values)

/-- The rule that lists the names of a template. -/
def rule (template : Template) : Rule :=
  Rule.join template.names

end Template
end RequestKey
