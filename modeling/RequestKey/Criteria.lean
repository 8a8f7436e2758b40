import RequestKey.Bindings.Basic

/-!
# Criteria

Criteria are bindings written as one text that serves as a lookup key.  Each
binding is written as a marker, its name, an equals sign and its value, in
ascending order of names.  Names and values are written as they are.
-/

namespace RequestKey

/-- The marker in front of a binding of the path. -/
def pathMarker : Text := ['/']

/-- The marker in front of a binding of the query. -/
def queryMarker : Text := ['?']

namespace Bindings

/-- One binding as criteria show it. -/
def criterion (marker : Text) (entry : Text × Text) : Text :=
  marker ++ entry.1 ++ '=' :: entry.2

/-- The bindings written one after another. -/
def criteria (marker : Text) (bindings : Bindings) : Text :=
  bindings.entries.flatMap (criterion marker)

@[simp] theorem criteria_empty (marker : Text) :
    empty.criteria marker = [] := rfl

/-- Criteria hold the characters of the marker, of the equals sign, and of the
names and values. -/
theorem not_mem_criteria
    {char : Char}
    {marker : Text}
    (notMarker : char ∉ marker)
    (notEquals : char ≠ '=')
    {bindings : Bindings}
    (plain : ∀ entry ∈ bindings.entries, char ∉ entry.1 ∧ char ∉ entry.2) :
    char ∉ bindings.criteria marker := by
  unfold criteria
  rw [List.mem_flatMap]
  rintro ⟨entry, member, present⟩
  obtain ⟨notInName, notInValue⟩ := plain entry member
  simp [criterion, notMarker, notEquals, notInName, notInValue] at present

end Bindings
end RequestKey
