import RequestKey.Text.Doubled
import RequestKey.Text.Blank

/-!
# Rules

A rule is a text that lists the names of the variables that matter, in a chosen
order, with a doubled ampersand between blanks as separator.  Reading a rule
tolerates any blanks around the separator and drops blank names.
-/

namespace RequestKey

/-- A text that lists variable names. -/
abbrev Rule := Text

namespace Rule

/-- The text between two names of a rule. -/
def separator : Text := [' ', '&', '&', ' ']

/-- The rule that lists the given names in the given order. -/
def join (names : List Text) : Rule :=
  separator.intercalate names

/-- The names that a rule lists. -/
def names (rule : Rule) : List Text :=
  ((Text.splitOnDoubled '&' rule).map Text.trim).filter fun name => name ≠ []

/-- Ways to decide whether a rule selects a name. -/
inductive Selection
  /-- The name is one of the rule's names. -/
  | listed
  /-- The name occurs anywhere in the text of the rule. -/
  | mentioned
  deriving DecidableEq, Repr

/-- Whether a rule selects a name. -/
def selects (selection : Selection) (rule : Rule) (name : Text) : Bool :=
  match selection with
  | .listed => rule.names.contains name
  | .mentioned => Text.occursIn name rule

@[simp] theorem join_nil : join [] = [] := rfl

@[simp] theorem join_singleton (name : Text) : join [name] = name := by
  simp [join]

@[simp] theorem names_nil : names [] = [] := rfl

end Rule
end RequestKey
