import RequestKey.Text.Basic

/-!
# The order of texts

Texts are ordered by their first different code points, and a text precedes its
own continuations.  The order is strict and total.
-/

namespace RequestKey
namespace Text

/-- Whether the left text comes before the right one. -/
def precedes : Text -> Text -> Bool
  | _, [] => false
  | [], _ :: _ => true
  | leftChar :: left, rightChar :: right =>
      if leftChar = rightChar then precedes left right
      else leftChar < rightChar

@[simp] theorem precedes_nil (text : Text) : precedes text [] = false := by
  cases text <;> rfl

/-- No text precedes itself. -/
@[simp] theorem precedes_self (text : Text) : precedes text text = false := by
  induction text with
  | nil => rfl
  | cons char text inductionHypothesis =>
      simpa [precedes] using inductionHypothesis

/-- What precedes a text precedes whatever that text precedes. -/
theorem precedes_trans
    {first second third : Text}
    (firstBelow : precedes first second = true)
    (secondBelow : precedes second third = true) :
    precedes first third = true := by
  induction first generalizing second third with
  | nil =>
      cases third with
      | nil => simp at secondBelow
      | cons char text => rfl
  | cons firstChar first inductionHypothesis =>
      cases second with
      | nil => simp at firstBelow
      | cons secondChar second =>
          cases third with
          | nil => simp at secondBelow
          | cons thirdChar third =>
              rw [precedes] at firstBelow secondBelow ⊢
              by_cases firstSame : firstChar = secondChar
              · subst firstSame
                rw [if_pos rfl] at firstBelow
                by_cases secondSame : firstChar = thirdChar
                · rw [if_pos secondSame] at secondBelow ⊢
                  exact inductionHypothesis firstBelow secondBelow
                · rw [if_neg secondSame] at secondBelow ⊢
                  exact secondBelow
              · rw [if_neg firstSame, decide_eq_true_eq] at firstBelow
                by_cases secondSame : secondChar = thirdChar
                · subst secondSame
                  rw [if_neg firstSame, decide_eq_true_eq]
                  exact firstBelow
                · rw [if_neg secondSame, decide_eq_true_eq] at secondBelow
                  have below : firstChar < thirdChar :=
                    Char.lt_trans firstBelow secondBelow
                  rw [if_neg (Char.ne_of_lt below), decide_eq_true_eq]
                  exact below

/-- Of two different texts one precedes the other. -/
theorem precedes_of_not_precedes
    {left right : Text}
    (notBelow : ¬precedes left right = true)
    (different : left ≠ right) :
    precedes right left = true := by
  induction left generalizing right with
  | nil =>
      cases right with
      | nil => exact absurd rfl different
      | cons char text => exact absurd rfl notBelow
  | cons leftChar left inductionHypothesis =>
      cases right with
      | nil => rfl
      | cons rightChar right =>
          rw [precedes] at notBelow ⊢
          by_cases same : leftChar = rightChar
          · subst same
            rw [if_pos rfl] at notBelow ⊢
            exact inductionHypothesis notBelow fun equal =>
              different (by rw [equal])
          · rw [if_neg same, decide_eq_true_eq] at notBelow
            rw [if_neg (Ne.symm same), decide_eq_true_eq]
            exact Decidable.byContradiction fun notAbove =>
              same (Char.le_antisymm (Char.not_lt.mp notAbove)
                (Char.not_lt.mp notBelow))

end Text
end RequestKey
