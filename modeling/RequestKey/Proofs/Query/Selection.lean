import RequestKey.Proofs.Rule.Names
import RequestKey.Query.Criteria

/-!
# Listed and mentioned parameters

A rule selects the parameters that it lists or, more generously, all whose names it
mentions anywhere in its text.  A listed name is a trimmed piece of the text of the
rule, so it is also mentioned.

The main statement says that the criteria of the mentioned parameters show those of
the listed ones in the same order, and besides them exactly the parameters whose
names occur in the rule without being listed.
-/

namespace RequestKey

/-- A wider condition keeps more entries, in the same order. -/
theorem Bindings.restrict_sublist
    {narrow wide : Text -> Bool}
    (wider : ∀ name, narrow name = true -> wide name = true)
    (bindings : Bindings) :
    (bindings.restrict narrow).entries.Sublist (bindings.restrict wide).entries := by
  rw [entries_restrict, entries_restrict]
  exact List.monotone_filter_right bindings.entries fun entry => wider entry.1

namespace Rule

theorem selects_listed_iff (rule : Rule) (name : Text) :
    rule.selects .listed name = true ↔ name ∈ rule.names := by
  rw [selects, List.contains_eq_mem, decide_eq_true_eq]

theorem selects_mentioned_iff (rule : Rule) (name : Text) :
    rule.selects .mentioned name = true ↔ name <:+: rule :=
  Text.occursIn_iff name rule

/-- A rule mentions the names that it lists. -/
theorem selects_mentioned_of_listed
    {rule : Rule}
    {name : Text}
    (listed : rule.selects .listed name = true) :
    rule.selects .mentioned name = true := by
  rw [selects_listed_iff] at listed
  rw [selects_mentioned_iff]
  exact isInfix_of_mem_names listed

end Rule

namespace Query

/-- The parameters of a URI that a rule selects, in the order in which criteria show
them. -/
def shown
    (rule : Rule)
    (selection : Rule.Selection)
    (uri : Text) : List (Text × Text) :=
  ((ofUri uri).selected rule selection).entries

theorem mem_shown_iff
    (rule : Rule)
    (selection : Rule.Selection)
    (uri : Text)
    (entry : Text × Text) :
    entry ∈ shown rule selection uri ↔
      entry ∈ (ofUri uri).bindings.entries ∧
        rule.selects selection entry.1 = true := by
  rw [shown, selected, Bindings.entries_restrict, List.mem_filter]

/-- Criteria write the selected parameters one after another.  The listed ones are a
subsequence of the mentioned ones, and what is only mentioned is every parameter
whose name occurs in the rule and is none of its names. -/
theorem shown_listed_sublist_mentioned (rule : Rule) (uri : Text) :
    (∀ selection, (criteriaOf rule selection uri).outcome =
        .ok ((shown rule selection uri).flatMap
          (Bindings.criterion queryMarker))) ∧
      (shown rule .listed uri).Sublist (shown rule .mentioned uri) ∧
        ∀ entry,
          entry ∈ shown rule .mentioned uri ∧ entry ∉ shown rule .listed uri ↔
            entry ∈ (ofUri uri).bindings.entries ∧
              entry.1 <:+: rule ∧ entry.1 ∉ rule.names := by
  refine ⟨fun selection => rfl, ?_, fun entry => ?_⟩
  · exact Bindings.restrict_sublist
      (fun _ => Rule.selects_mentioned_of_listed) _
  · rw [mem_shown_iff, mem_shown_iff, Rule.selects_mentioned_iff,
      Rule.selects_listed_iff]
    constructor
    · rintro ⟨⟨bound, mentioned⟩, notShown⟩
      exact ⟨bound, mentioned, fun listed => notShown ⟨bound, listed⟩⟩
    · rintro ⟨bound, mentioned, notListed⟩
      exact ⟨⟨bound, mentioned⟩, fun both => notListed both.2⟩

end Query
end RequestKey
