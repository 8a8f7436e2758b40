import RequestKey.Text.Basic

/-!
# Dispatch styles

A style says which sides of a request URI matter: the parts of its path, the
parameters of its query, or both.
-/

namespace RequestKey
namespace Dispatcher

/-- Which sides of a request URI matter. -/
inductive Style
  /-- Only the path matters. -/
  | parts
  /-- Only the query matters. -/
  | params
  /-- Both sides matter. -/
  | elements
  deriving DecidableEq, Repr

namespace Style

/-- The name of a style. -/
def label : Style -> String
  | .parts => "URI_PARTS"
  | .params => "URI_PARAMS"
  | .elements => "URI_ELEMENTS"

/-- All styles, in ascending order of their names. -/
def all : List Style :=
  [.elements, .params, .parts]

/-- The style with a given name. -/
def ofLabel? (text : Text) : Option Style :=
  all.find? fun style => style.label.toList = text

/-- Whether the path matters. -/
def hasPathSide : Style -> Bool
  | .parts | .elements => true
  | .params => false

/-- Whether the query matters. -/
def hasQuerySide : Style -> Bool
  | .params | .elements => true
  | .parts => false

/-- Each style is found by its name. -/
@[simp] theorem ofLabel?_label (style : Style) :
    ofLabel? style.label.toList = some style := by
  cases style <;> decide

/-- A style is found by its name alone. -/
theorem ofLabel?_eq_some_iff (text : Text) (style : Style) :
    ofLabel? text = some style ↔ text = style.label.toList := by
  constructor
  · intro found
    have sameName := List.find?_some found
    exact (of_decide_eq_true sameName).symm
  · rintro rfl
    exact ofLabel?_label style

end Style
end Dispatcher
end RequestKey
