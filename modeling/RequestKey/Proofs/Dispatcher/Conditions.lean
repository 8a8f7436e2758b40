import RequestKey.Dispatcher.Config
import RequestKey.Fault

/-!
# Conditions on a configuration

A configuration describes a dispatcher if it meets seven conditions.  They are
checked one after another, so of several broken ones the first gives the complaint.
A field that is absent is not the same as one that is null: only the template and the
base may be null.

The main statement says that reading a configuration is exactly this check, that what
is read has the given fields and depends on no other ones, and that the configuration
of a dispatcher describes that dispatcher.
-/

namespace RequestKey

/-- The faults of configurations. -/
def Fault.IsOfConfiguration : Fault -> Prop
  | .unknownStyle _ | .notAnObject _ | .missingStyle | .notText _ _ => True
  | .noExamples _ | .templateTooLong _ => False

namespace Config

/-! ## The conditions and their order -/

/-- The value of a field of a configuration.  Only objects have fields. -/
def Value.at? : Value -> Field -> Option Value
  | .object fields, field => field? fields field.name
  | _, _ => none

/-- Whether a field may be null. -/
def Field.isNullable : Field -> Bool
  | .dispatcher | .rules => false
  | .template | .base => true

/-- What is demanded of a configuration. -/
inductive Condition
  /-- It is an object. -/
  | isObject
  /-- It names a style. -/
  | namesStyle
  /-- A field is a text where it is given. -/
  | isText (field : Field)
  /-- The named style exists. -/
  | styleExists
  deriving DecidableEq, Repr

namespace Condition

/-- The conditions in the order in which they are checked. -/
def all : List Condition :=
  [.isObject, .namesStyle, .isText .dispatcher, .isText .rules, .isText .template,
    .isText .base, .styleExists]

/-- Whether a configuration meets a condition. -/
def Holds (data : Value) : Condition -> Prop
  | .isObject => data.kind = .object
  | .namesStyle => ∃ value, data.at? .dispatcher = some value ∧ value.kind ≠ .null
  | .isText field => ∀ value, data.at? field = some value ->
      value.kind = .text ∨ field.isNullable = true ∧ value.kind = .null
  | .styleExists => ∃ label ∈ ["URI_PARTS", "URI_PARAMS", "URI_ELEMENTS"],
      data.at? .dispatcher = some (.text label.toList)

end Condition

/-- The words about a configuration that breaks a condition. -/
inductive Complaint (data : Value) : Condition -> String -> Prop
  | notObject :
      Complaint data .isObject ("expected dict, got " ++ data.kind.label)
  | missingStyle :
      Complaint data .namesStyle "missing required field 'dispatcher'"
  | notText
      {field : Field} {value : Value}
      (given : data.at? field = some value) :
      Complaint data (.isText field)
        ("'" ++ field.label ++ "' must be a string, got " ++ value.kind.label)
  | unknownStyle
      {label : Text}
      (given : data.at? .dispatcher = some (.text label)) :
      Complaint data .styleExists
        ("unknown dispatcher " ++ Text.shown label ++ ", expected one of " ++
          "['URI_ELEMENTS', 'URI_PARAMS', 'URI_PARTS']")

/-- A step checks conditions in their order: it has a value if all of them hold, and
otherwise it ends with a fault of the configuration, which complains about the first
one that does not. -/
inductive Checks (data : Value) : List Condition -> Except Fault α -> Prop
  | passes (value : α) :
      Checks data [] (.ok value)
  | holds
      {condition : Condition} {conditions : List Condition}
      {outcome : Except Fault α}
      (held : condition.Holds data)
      (later : Checks data conditions outcome) :
      Checks data (condition :: conditions) outcome
  | fails
      {condition : Condition} {conditions : List Condition} {fault : Fault}
      (broken : ¬condition.Holds data)
      (ofConfiguration : fault.IsOfConfiguration)
      (complaint : Complaint data condition fault.message) :
      Checks data (condition :: conditions) (.error fault)

variable {data : Value}

/-- A step has a value exactly when the conditions that it checks hold. -/
theorem Checks.exists_eq_ok_iff
    {conditions : List Condition}
    {outcome : Except Fault α}
    (checks : Checks data conditions outcome) :
    (∃ value, outcome = .ok value) ↔
      ∀ condition ∈ conditions, condition.Holds data := by
  induction checks with
  | passes value => simp
  | holds held later inductionHypothesis =>
      rw [inductionHypothesis, List.forall_mem_cons]
      exact (and_iff_right held).symm
  | fails broken ofConfiguration complaint => simp [broken]

/-- A step after another checks its conditions after those of the other. -/
theorem Checks.bind
    {conditions others : List Condition}
    {step : Except Fault α}
    {next : α -> Except Fault β}
    (checks : Checks data conditions step)
    (nextChecks : ∀ value, step = .ok value -> Checks data others (next value)) :
    Checks data (conditions ++ others) (step >>= next) := by
  induction checks with
  | passes value => exact nextChecks value rfl
  | holds held later inductionHypothesis =>
      exact .holds held (inductionHypothesis nextChecks)
  | fails broken ofConfiguration complaint =>
      exact .fails broken ofConfiguration complaint

/-! ## Fields that meet their condition -/

/-- No style is named by a field that is absent or null. -/
theorem not_holds_namesStyle
    (nothing : ∀ value, data.at? .dispatcher = some value -> value.kind = .null) :
    ¬Condition.namesStyle.Holds data := by
  rintro ⟨value, given, notNull⟩
  exact notNull (nothing value given)

/-- A field that is absent meets its condition. -/
theorem holds_isText_of_absent
    {field : Field}
    (absent : data.at? field = none) :
    (Condition.isText field).Holds data := by
  intro value given
  rw [absent] at given
  cases given

/-- A field that is a text meets its condition. -/
theorem holds_isText_of_text
    {field : Field}
    {text : Text}
    (isText : data.at? field = some (.text text)) :
    (Condition.isText field).Holds data := by
  intro value given
  rw [isText] at given
  cases given
  exact Or.inl rfl

/-- A null field meets its condition if it may be null. -/
theorem holds_isText_of_null
    {field : Field}
    (nullable : field.isNullable = true)
    (isNull : data.at? field = some .null) :
    (Condition.isText field).Holds data := by
  intro value given
  rw [isNull] at given
  cases given
  exact Or.inr ⟨nullable, rfl⟩

/-- A field is refused if it is neither a text nor null where it may be. -/
theorem checks_notText
    {field : Field}
    {value : Value}
    (given : data.at? field = some value)
    (notText : value.kind ≠ .text)
    (notNull : field.isNullable = true -> value.kind ≠ .null) :
    Checks data [.isText field]
      (.error (.notText field value.kind) : Except Fault α) := by
  refine .fails (fun held => ?_) trivial (.notText given)
  rcases held value given with isText | ⟨nullable, isNull⟩
  · exact notText isText
  · exact notNull nullable isNull

end Config

namespace Dispatcher

open Config

/-! ## What each step reads -/

theorem bind_eq_ok_iff
    (step : Except Fault α)
    (next : α -> Except Fault β)
    (result : β) :
    step >>= next = .ok result ↔
      ∃ value, step = .ok value ∧ next value = .ok result := by
  cases step <;> simp [bind, Except.bind]

theorem styleField_eq_ok_iff (fields : List (Text × Value)) (label : Text) :
    styleField fields = .ok label ↔
      field? fields Field.dispatcher.name = some (.text label) := by
  unfold styleField
  cases field? fields Field.dispatcher.name with
  | none => simp
  | some value => cases value <;> simp

theorem rulesField_eq_ok_iff (fields : List (Text × Value)) (rules : Rule) :
    rulesField fields = .ok rules ↔
      (field? fields Field.rules.name).getD (.text []) = .text rules := by
  unfold rulesField
  cases field? fields Field.rules.name with
  | none => simp
  | some value => cases value <;> simp

theorem optionalField_eq_ok_iff
    (fields : List (Text × Value))
    (field : Field)
    (text? : Option Text) :
    optionalField fields field = .ok text? ↔
      (field? fields field.name).getD .null = valueOfText? text? := by
  unfold optionalField
  cases field? fields field.name with
  | none => cases text? <;> simp [valueOfText?]
  | some value => cases value <;> cases text? <;> simp [valueOfText?]

/-! ## What each step checks -/

theorem checks_styleField (fields : List (Text × Value)) :
    Checks (.object fields) [.namesStyle, .isText .dispatcher]
      (styleField fields) := by
  unfold styleField
  cases given : field? fields Field.dispatcher.name with
  | none =>
      refine .fails (not_holds_namesStyle fun value found => ?_) trivial .missingStyle
      rw [Value.at?, given] at found
      cases found
  | some value =>
      have named : value.kind ≠ .null ->
          Condition.namesStyle.Holds (.object fields) :=
        fun notNull => ⟨value, given, notNull⟩
      cases value with
      | null =>
          refine .fails (not_holds_namesStyle fun value found => ?_) trivial .missingStyle
          rw [Value.at?, given] at found
          cases found
          rfl
      | text label =>
          exact .holds (named (by simp [Value.kind]))
            (.holds (holds_isText_of_text given) (.passes label))
      | boolean _ | integer _ | fraction _ | list _ | object _ =>
          exact .holds (named (by simp [Value.kind]))
            (checks_notText given (by simp [Value.kind]) (by simp [Value.kind]))

theorem checks_rulesField (fields : List (Text × Value)) :
    Checks (.object fields) [.isText .rules] (rulesField fields) := by
  unfold rulesField
  cases given : field? fields Field.rules.name with
  | none => exact .holds (holds_isText_of_absent given) (.passes [])
  | some value =>
      cases value with
      | text rules => exact .holds (holds_isText_of_text given) (.passes rules)
      | null | boolean _ | integer _ | fraction _ | list _ | object _ =>
          exact checks_notText given (by simp [Value.kind])
            (by simp [Field.isNullable])

theorem checks_optionalField
    {field : Field}
    (nullable : field.isNullable = true)
    (fields : List (Text × Value)) :
    Checks (.object fields) [.isText field] (optionalField fields field) := by
  unfold optionalField
  cases given : field? fields field.name with
  | none => exact .holds (holds_isText_of_absent given) (.passes none)
  | some value =>
      cases value with
      | null => exact .holds (holds_isText_of_null nullable given) (.passes none)
      | text text =>
          exact .holds (holds_isText_of_text given) (.passes (some text))
      | boolean _ | integer _ | fraction _ | list _ | object _ =>
          exact checks_notText given (by simp [Value.kind]) (by simp [Value.kind])

/-- The styles are those of the three names. -/
theorem Style.exists_label_iff (holds : String -> Prop) :
    (∃ style : Style, holds style.label) ↔
      ∃ label ∈ ["URI_PARTS", "URI_PARAMS", "URI_ELEMENTS"], holds label := by
  constructor
  · rintro ⟨style, held⟩
    exact ⟨style.label, by cases style <;> simp [label], held⟩
  · rintro ⟨label, member, held⟩
    simp only [List.mem_cons, List.not_mem_nil, or_false] at member
    rcases member with rfl | rfl | rfl
    · exact ⟨.parts, held⟩
    · exact ⟨.params, held⟩
    · exact ⟨.elements, held⟩

/-- The dispatcher of given parts has them. -/
theorem ofParts_eq_ok_iff
    (styleLabel : Text)
    (rules : Rule)
    (template base : Option Text)
    (dispatcher : Dispatcher) :
    ofParts styleLabel rules template base = .ok dispatcher ↔
      styleLabel = dispatcher.style.label.toList ∧ rules = dispatcher.rules ∧
        template = dispatcher.template ∧ base = dispatcher.base := by
  rw [← Style.ofLabel?_eq_some_iff, ofParts]
  cases Style.ofLabel? styleLabel with
  | none => simp
  | some style =>
      obtain ⟨ownStyle, ownRules, ownTemplate, ownBase⟩ := dispatcher
      simp

theorem checks_ofParts
    {fields : List (Text × Value)}
    {styleLabel : Text}
    (given : field? fields Field.dispatcher.name = some (.text styleLabel))
    (rules : Rule)
    (template base : Option Text) :
    Checks (.object fields) [.styleExists]
      (ofParts styleLabel rules template base) := by
  have holdsIff : Condition.styleExists.Holds (.object fields) ↔
      ∃ style, Style.ofLabel? styleLabel = some style := by
    rw [Condition.Holds, ← Style.exists_label_iff, Value.at?, given]
    simp only [Option.some.injEq, Value.text.injEq, Style.ofLabel?_eq_some_iff]
  unfold ofParts
  cases found : Style.ofLabel? styleLabel with
  | some style => exact .holds (holdsIff.mpr ⟨style, found⟩) (.passes _)
  | none =>
      refine .fails (fun held => ?_) trivial (.unknownStyle given)
      obtain ⟨style, isStyle⟩ := holdsIff.mp held
      rw [found] at isStyle
      cases isStyle

/-- Reading a configuration checks all conditions. -/
theorem checks_ofValue (data : Value) :
    Checks data Condition.all (ofValue data) := by
  cases data with
  | object fields =>
      refine .holds rfl ?_
      exact (checks_styleField fields).bind fun label named =>
        (checks_rulesField fields).bind fun rules _ =>
          (checks_optionalField rfl fields).bind fun template _ =>
            (checks_optionalField rfl fields).bind fun base _ =>
              checks_ofParts ((styleField_eq_ok_iff ..).mp named) rules template base
  | null | boolean _ | integer _ | fraction _ | text _ | list _ =>
      exact .fails (by simp [Condition.Holds, Value.kind]) trivial .notObject

/-! ## What is read -/

/-- A dispatcher has what a configuration gives. -/
structure Describes (data : Value) (dispatcher : Dispatcher) : Prop where
  /-- The style has the given name. -/
  style : data.at? .dispatcher = some (.text dispatcher.style.label.toList)
  /-- The rules are the given ones, and empty where none are given. -/
  rules : (data.at? .rules).getD (.text []) = .text dispatcher.rules
  /-- The template is the given one, and none where it is absent or null. -/
  template : (data.at? .template).getD .null = valueOfText? dispatcher.template
  /-- The base is the given one, and none where it is absent or null. -/
  base : (data.at? .base).getD .null = valueOfText? dispatcher.base

/-- A dispatcher is read exactly from the configurations that describe it. -/
theorem ofValue_eq_ok_iff (data : Value) (dispatcher : Dispatcher) :
    ofValue data = .ok dispatcher ↔ Describes data dispatcher := by
  cases data with
  | object fields =>
      simp only [ofValue, ofFields, bind_eq_ok_iff, styleField_eq_ok_iff,
        rulesField_eq_ok_iff, optionalField_eq_ok_iff, ofParts_eq_ok_iff]
      constructor
      · rintro ⟨_, style, _, rules, _, template, _, base, rfl, rfl, rfl, rfl⟩
        exact ⟨style, rules, template, base⟩
      · rintro ⟨style, rules, template, base⟩
        exact ⟨_, style, _, rules, _, template, _, base, rfl, rfl, rfl, rfl⟩
  | null | boolean _ | integer _ | fraction _ | text _ | list _ =>
      exact iff_of_false (by simp [ofValue]) fun describes => by
        cases describes.style

/-- Only the four fields of a configuration matter. -/
theorem ofFields_congr
    {left right : List (Text × Value)}
    (same : ∀ field : Field, field? left field.name = field? right field.name) :
    ofFields left = ofFields right := by
  unfold ofFields styleField rulesField optionalField
  simp only [same]

/-- Reading a configuration checks the conditions in their order and gives the
dispatcher that the configuration describes.  It looks at no other field, and reads
the configuration of a dispatcher as that dispatcher. -/
theorem ofValue_checksConditions :
    (∀ data : Value,
      Checks data Condition.all (ofValue data) ∧
        ((∃ dispatcher, ofValue data = .ok dispatcher) ↔
          ∀ condition ∈ Condition.all, condition.Holds data) ∧
        ∀ dispatcher, ofValue data = .ok dispatcher ↔ Describes data dispatcher) ∧
      (∀ left right : List (Text × Value),
        (∀ field : Field, field? left field.name = field? right field.name) ->
          ofValue (.object left) = ofValue (.object right)) ∧
      ∀ dispatcher : Dispatcher, ofValue dispatcher.toValue = .ok dispatcher := by
  refine ⟨fun data => ⟨checks_ofValue data, ?_, ofValue_eq_ok_iff data⟩,
    fun left right => ofFields_congr, fun dispatcher => ?_⟩
  · exact (checks_ofValue data).exists_eq_ok_iff
  · exact (ofValue_eq_ok_iff _ _).mpr ⟨rfl, rfl, rfl, rfl⟩

/-- Fields with null rules, a base that is no text, a style that does not exist, and
one field more. -/
def faultyFields : List (Text × Value) :=
  [("note".toList, .list []), (Field.base.name, .integer 3),
    (Field.rules.name, .null), (Field.dispatcher.name, .text "URI".toList)]

theorem ofValue_checksConditions_faultyFields :
    (∀ field : Field, field? faultyFields field.name =
        field? faultyFields.tail field.name) ∧
      ofValue (.object faultyFields) = ofValue (.object faultyFields.tail) ∧
      ofValue (.object faultyFields) = .error (.notText .rules .null) ∧
      ¬∀ condition ∈ Condition.all, condition.Holds (.object faultyFields) := by
  have same : ∀ field : Field, field? faultyFields field.name =
      field? faultyFields.tail field.name := by
    intro field
    cases field <;> rfl
  obtain ⟨reads, onlyFields, _⟩ := ofValue_checksConditions
  refine ⟨same, onlyFields _ _ same, rfl, fun hold => ?_⟩
  obtain ⟨dispatcher, isRead⟩ := (reads (.object faultyFields)).2.1.mpr hold
  cases isRead

end Dispatcher
end RequestKey
