import RequestKey.Dispatcher.Config
import RequestKey.Proofs.Dispatcher.WellFormed
import RequestKey.Proofs.Template.Language

/-!
# Configured and inferred dispatchers

A dispatcher that is inferred from a template has the part of the template before
the query.  One that is configured with the style, the rules and the template has
the whole template, while both compare it with the path of a request alone.

The main statement is that the two give every request the same criteria exactly
when the template has no question mark, and that otherwise they give the same
criteria to those requests to whose paths neither the whole template nor its part
before the query applies.
-/

namespace RequestKey
namespace Dispatcher

/-! ## Dispatchers with a template -/

/-- The dispatcher with a style, rules and a template, and without a base. -/
def withTemplate (style : Style) (rules : Rule) (template : Text) : Dispatcher :=
  ⟨style, rules, some template, none⟩

/-- If the path matters, a dispatcher with a template writes of the path what the
template writes of it. -/
theorem pathSide_withTemplate
    {style : Style}
    (pathMatters : style.hasPathSide = true)
    (rules : Rule)
    (template : Template)
    (uri : Text) :
    ((withTemplate style rules template.pattern).pathSide uri).outcome =
      .ok (template.key (uri.before '?')) := by
  have hasPath : (withTemplate style rules template.pattern).pathSide uri =
      template.criteria (uri.before '?') :=
    (if_pos pathMatters).trans
      (Template.criteriaOf_pattern template (uri.before '?'))
  rw [hasPath, Template.criteria_outcome]
  rfl

/-- Dispatchers with the same style and rules select the same parameters, so they
give a request the same criteria exactly when they write the same of its path. -/
theorem criteria_withTemplate_eq_iff
    (style : Style)
    (rules : Rule)
    (left right uri : Text) :
    ((withTemplate style rules left).criteria uri).outcome =
        ((withTemplate style rules right).criteria uri).outcome ↔
      ((withTemplate style rules left).pathSide uri).outcome =
        ((withTemplate style rules right).pathSide uri).outcome := by
  have sameSelected : (withTemplate style rules left).selected uri =
      (withTemplate style rules right).selected uri := rfl
  rw [criteria_outcome, criteria_outcome, sameSelected]
  cases ((withTemplate style rules left).pathSide uri).outcome <;>
    cases ((withTemplate style rules right).pathSide uri).outcome <;>
    simp [Except.map]

/-! ## The two dispatchers of a template -/

/-- The configuration with a style, rules and a template. -/
def configuration (style : Style) (rules : Rule) (template : Text) : Config.Value :=
  .object
    [(Config.Field.dispatcher.name, .text style.label.toList),
      (Config.Field.rules.name, .text rules),
      (Config.Field.template.name, .text template)]

/-- A configuration with a style, rules and a template describes the dispatcher with
these. -/
theorem ofValue_configuration
    (style : Style)
    (rules : Rule)
    (template : Text) :
    ofValue (configuration style rules template) =
      .ok (withTemplate style rules template) := by
  have built : ofValue (configuration style rules template) =
      ofParts style.label.toList rules (some template) none := rfl
  rw [built, ofParts, Style.ofLabel?_label]
  rfl

/-- From a template with a placeholder before the query, a dispatcher with that part
of the template is inferred, for which the path matters. -/
theorem exists_infer_of_template
    {template : Text}
    (within : (template.before '?').length ≤ Template.maximumLength)
    {name : Text}
    (isPlaceholder :
      .placeholder name ∈ Template.Segment.ofPattern (template.before '?'))
    (examples : List Text) :
    ∃ style rules,
      (infer (some template) examples).outcome =
          .ok (some (withTemplate style rules (template.before '?'))) ∧
        style.hasPathSide = true := by
  let pathTemplate : Template := ⟨template.before '?', within⟩
  have varies : pathTemplate.names ≠ [] :=
    List.ne_nil_of_mem ((pathTemplate.mem_names_iff name).mpr isPlaceholder)
  have isSide : PathSide.infer (some template) examples =
      .ok ⟨pathTemplate.rule, some (template.before '?'), none⟩ := by
    have isTemplate : Template.ofPattern (template.before '?') = .ok pathTemplate :=
      Template.ofPattern_pattern pathTemplate
    simp only [PathSide.infer, isTemplate, bind, Except.bind]
    rw [if_neg varies]
    rfl
  have hasRule : pathTemplate.rule ≠ [] := Template.rule_ne_nil varies
  rw [infer_outcome, isSide]
  simp only [Except.map, ofSides, if_neg hasRule]
  split
  · exact ⟨.parts, _, rfl, rfl⟩
  · exact ⟨.elements, _, rfl, rfl⟩

/-- The dispatchers that have the whole template and its part before the query write
the same of a path exactly when neither pattern applies to it, if the template has a
query. -/
theorem pathSide_withTemplate_eq_iff
    {template : Text}
    (within : template.length ≤ Template.maximumLength)
    {name : Text}
    (isPlaceholder :
      .placeholder name ∈ Template.Segment.ofPattern (template.before '?'))
    (hasQuery : '?' ∈ template)
    {style : Style}
    (pathMatters : style.hasPathSide = true)
    (rules : Rule)
    (uri : Text) :
    ((withTemplate style rules (template.before '?')).pathSide uri).outcome =
        ((withTemplate style rules template).pathSide uri).outcome ↔
      ¬Template.Applies (template.before '?') (uri.before '?') ∧
        ¬Template.Applies template (uri.before '?') := by
  let whole : Template := ⟨template, within⟩
  let path : Template :=
    ⟨template.before '?', (List.takeWhile_prefix _).length_le.trans within⟩
  have varies : path.names ≠ [] :=
    List.ne_nil_of_mem ((path.mem_names_iff name).mpr isPlaceholder)
  rw [pathSide_withTemplate pathMatters rules path,
    pathSide_withTemplate pathMatters rules whole, Except.ok.injEq]
  exact Template.key_eq_key_iff (by decide) (by decide) varies
    (Text.not_mem_before '?' template) hasQuery (Text.not_mem_before '?' uri)

/-- The dispatcher that is inferred from a template with a placeholder before the
query and the one that is configured with its style, its rules and the template give
every request the same criteria exactly when the template has no query.  Otherwise
they do so for the requests to whose paths neither the template nor its part before
the query applies. -/
theorem configured_agrees_iff
    {template : Text}
    (within : template.length ≤ Template.maximumLength)
    (hasPlaceholder : ∃ name,
      .placeholder name ∈ Template.Segment.ofPattern (template.before '?')) :
    ∃ inferred configured,
      (infer (some template) []).outcome = .ok (some inferred) ∧
        ofValue (configuration inferred.style inferred.rules template) =
            .ok configured ∧
          ((∀ uri, (inferred.criteria uri).outcome =
              (configured.criteria uri).outcome) ↔ '?' ∉ template) ∧
            ('?' ∈ template -> ∀ uri,
              (inferred.criteria uri).outcome = (configured.criteria uri).outcome ↔
                ¬Template.Applies (template.before '?') (uri.before '?') ∧
                  ¬Template.Applies template (uri.before '?')) := by
  obtain ⟨name, isPlaceholder⟩ := hasPlaceholder
  obtain ⟨style, rules, inferred, pathMatters⟩ := exists_infer_of_template
    ((List.takeWhile_prefix _).length_le.trans within) isPlaceholder []
  have agrees : '?' ∈ template -> ∀ uri,
      ((withTemplate style rules (template.before '?')).criteria uri).outcome =
          ((withTemplate style rules template).criteria uri).outcome ↔
        ¬Template.Applies (template.before '?') (uri.before '?') ∧
          ¬Template.Applies template (uri.before '?') := by
    intro hasQuery uri
    rw [criteria_withTemplate_eq_iff]
    exact pathSide_withTemplate_eq_iff within isPlaceholder hasQuery pathMatters
      rules uri
  refine ⟨_, _, inferred, ofValue_configuration style rules template, ?_, agrees⟩
  constructor
  · intro same hasQuery
    -- The part before the query applies to some path.
    obtain ⟨path, applies, noQuery⟩ := Template.exists_applies (by decide)
      (Text.not_mem_before '?' template)
    have apart := ((agrees hasQuery path).mp (same path)).1
    rw [Text.before_eq_self noQuery] at apart
    exact apart applies
  · intro noQuery uri
    rw [Text.before_eq_self noQuery]

/-- A template with a query, whose inferred dispatcher tells pets apart by a name and
by a parameter. -/
def fieldsTemplate : Text :=
  "/pets/{id}?fields=name".toList

theorem configured_agrees_iff_fieldsTemplate :
    fieldsTemplate.length ≤ Template.maximumLength ∧
      (∃ name, .placeholder name ∈
        Template.Segment.ofPattern (fieldsTemplate.before '?')) ∧
      ∃ inferred configured,
        (infer (some fieldsTemplate) []).outcome = .ok (some inferred) ∧
          ofValue (configuration inferred.style inferred.rules fieldsTemplate) =
              .ok configured ∧
            (inferred.criteria "/pets?fields=x".toList).outcome =
                (configured.criteria "/pets?fields=x".toList).outcome ∧
              (inferred.criteria "/pets/7?fields=x".toList).outcome ≠
                (configured.criteria "/pets/7?fields=x".toList).outcome := by
  have within : fieldsTemplate.length ≤ Template.maximumLength := by decide
  have hasPlaceholder : ∃ name, .placeholder name ∈
      Template.Segment.ofPattern (fieldsTemplate.before '?') :=
    ⟨"id".toList, by decide⟩
  refine ⟨within, hasPlaceholder, ?_⟩
  obtain ⟨inferred, configured, isInferred, isConfigured, _, agrees⟩ :=
    configured_agrees_iff within hasPlaceholder
  have hasQuery : '?' ∈ fieldsTemplate := by decide
  refine ⟨inferred, configured, isInferred, isConfigured, ?_, ?_⟩
  · exact (agrees hasQuery _).mpr (by decide)
  · exact (agrees hasQuery _).not.mpr (by decide)

/-- The inferred dispatcher writes the name of a pet, and the configured one does
not. -/
theorem configured_omits_path :
    (infer (some fieldsTemplate) []).outcome =
        .ok (some ⟨.elements, "id ?? fields".toList, some "/pets/{id}".toList,
          none⟩) ∧
      ofValue (configuration .elements "id ?? fields".toList fieldsTemplate) =
        .ok ⟨.elements, "id ?? fields".toList, some fieldsTemplate, none⟩ ∧
      (criteria
          ⟨.elements, "id ?? fields".toList, some "/pets/{id}".toList, none⟩
          "/pets/7?fields=x".toList).outcome = .ok "/id=7?fields=x".toList ∧
      (criteria ⟨.elements, "id ?? fields".toList, some fieldsTemplate, none⟩
          "/pets/7?fields=x".toList).outcome = .ok "?fields=x".toList :=
  ⟨rfl, rfl, rfl, rfl⟩

end Dispatcher
end RequestKey
