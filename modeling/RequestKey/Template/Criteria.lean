import RequestKey.Criteria
import RequestKey.Run

/-!
# Criteria of a path under a template

The criteria of a path write the values of a template's names in it.  A path
that does not match has no criteria, which is reported.
-/

namespace RequestKey
namespace Template

/-- The template of a pattern, or the fault that the pattern is too long. -/
def ofPattern (pattern : Text) : Except Fault Template :=
  match ofPattern? pattern with
  | some template => .ok template
  | none => .error (.templateTooLong pattern.length)

/-- The pattern of a template is within the limit. -/
@[simp] theorem ofPattern_pattern (template : Template) :
    ofPattern template.pattern = .ok template := by
  rw [ofPattern, ofPattern?, dif_pos template.length_le]

/-- The criteria of a URI under a template. -/
def criteria (template : Template) (uri : Text) : Run Text :=
  match template.match? uri with
  | some bindings => pure (bindings.criteria pathMarker)
  | none => do
      Run.report [.mismatch uri template.pattern]
      return []

/-- The criteria of a URI under the template of a pattern. -/
def criteriaOf (pattern uri : Text) : Run Text := do
  let template <- Run.ofExcept (ofPattern pattern)
  template.criteria uri

@[simp] theorem criteriaOf_pattern (template : Template) (uri : Text) :
    criteriaOf template.pattern uri = template.criteria uri := by
  apply Run.ext <;> simp [criteriaOf, Except.bind]

/-- The rule of the template of a pattern. -/
def ruleOf (pattern : Text) : Except Fault Rule :=
  (ofPattern pattern).map rule

end Template
end RequestKey
