import RequestKey.Proofs.Query.FormEncoding
import RequestKey.Proofs.Query.Utf8

/-!
# Decoding as a whole

A component denotes octets: a plus sign those of a space, an escape the one that its
digits name, and every other character its own.  A component denotes octets exactly
when each percent sign is followed by two hexadecimal digits.

Decoding looks at each maximal stretch of octets alone.  The main statement says that
this decides the same as the octets of the whole component: a text is returned when
they are its code, and a component that is not decoded either has an incomplete
escape or denotes octets that are not valid UTF-8.
-/

namespace RequestKey
namespace Query
namespace Component

/-! ## Stretches and their octets -/

namespace Stretch

/-- The octets for which a stretch stands. -/
def code : Stretch -> List UInt8
  | .octets bytes => bytes
  | .plain char => String.utf8EncodeChar char

/-- The octets for which stretches stand. -/
def codes (stretches : List Stretch) : List UInt8 :=
  stretches.flatMap code

@[simp] theorem codes_nil : codes [] = [] := rfl

@[simp] theorem codes_octets (bytes : List UInt8) (stretches : List Stretch) :
    codes (.octets bytes :: stretches) = bytes ++ codes stretches :=
  List.flatMap_cons

@[simp] theorem codes_plain (char : Char) (stretches : List Stretch) :
    codes (.plain char :: stretches) =
      String.utf8EncodeChar char ++ codes stretches :=
  List.flatMap_cons

/-- No stretch of octets is followed by another one. -/
def AreMaximal : List Stretch -> Prop
  | [] => True
  | .octets _ :: stretches =>
      (∀ bytes rest, stretches ≠ .octets bytes :: rest) ∧ AreMaximal stretches
  | .plain _ :: stretches => AreMaximal stretches

theorem codes_prependOctet
    (octet : UInt8)
    (stretches : List Stretch) :
    codes (prependOctet octet stretches) = octet :: codes stretches := by
  cases stretches with
  | nil => rfl
  | cons stretch stretches => cases stretch <;> rfl

/-- An octet in front joins a first stretch of octets. -/
theorem AreMaximal.prependOctet
    {stretches : List Stretch}
    (maximal : AreMaximal stretches)
    (octet : UInt8) :
    AreMaximal (prependOctet octet stretches) := by
  cases stretches with
  | nil => exact ⟨by simp, trivial⟩
  | cons stretch stretches =>
      cases stretch with
      | octets bytes => exact maximal
      | plain char => exact ⟨by simp, maximal⟩

theorem codes_prependChar
    {char : Char}
    (notPlus : char ≠ '+')
    (stretches : List Stretch) :
    codes (prependChar char stretches) =
      String.utf8EncodeChar char ++ codes stretches := by
  unfold prependChar
  rw [if_neg notPlus]
  split
  · rename_i inAscii
    rw [codes_prependOctet, utf8EncodeChar_of_lt inAscii, List.singleton_append]
  · exact codes_plain char stretches

theorem AreMaximal.prependChar
    {stretches : List Stretch}
    (maximal : AreMaximal stretches)
    (char : Char) :
    AreMaximal (prependChar char stretches) := by
  unfold Stretch.prependChar
  split
  · exact maximal.prependOctet _
  · split
    · exact maximal.prependOctet _
    · exact maximal

/-- What follows a maximal stretch of octets begins with a character. -/
theorem beginsCharacter_codes
    {stretches : List Stretch}
    (notOctets : ∀ bytes rest, stretches ≠ .octets bytes :: rest) :
    BeginsCharacter (codes stretches) := by
  cases stretches with
  | nil =>
      intro octet isFirst
      simp at isFirst
  | cons stretch stretches =>
      cases stretch with
      | octets bytes => exact absurd rfl (notOctets bytes stretches)
      | plain char => exact beginsCharacter_utf8EncodeChar_append char _

/-- Maximal stretches stand for a text, each on its own, exactly when their octets
together are its code. -/
theorem joinedText?_eq_some_iff
    {stretches : List Stretch}
    (maximal : AreMaximal stretches)
    (text : Text) :
    joinedText? stretches = some text ↔ codes stretches = utf8Octets text := by
  induction stretches generalizing text with
  | nil => cases text <;> simp [joinedText?]
  | cons stretch stretches inductionHypothesis =>
      rw [joinedText?_cons_eq_some_iff]
      cases stretch with
      | plain char =>
          rw [codes_plain]
          constructor
          · rintro ⟨first, rest, ⟨⟩, restText, rfl⟩
            rw [(inductionHypothesis maximal rest).mp restText]
            rfl
          · intro code
            cases text with
            | nil => simp at code
            | cons other text =>
                rw [utf8Octets_cons] at code
                obtain ⟨rfl, restCode⟩ := utf8EncodeChar_append_inj code
                exact ⟨[char], text, rfl,
                  (inductionHypothesis maximal text).mpr restCode, rfl⟩
      | octets bytes =>
          obtain ⟨notOctets, laterMaximal⟩ := maximal
          rw [codes_octets]
          constructor
          · rintro ⟨first, rest, firstText, restText, rfl⟩
            rw [text?_octets_eq_some_iff] at firstText
            rw [firstText, (inductionHypothesis laterMaximal rest).mp restText,
              utf8Octets_append]
          · intro code
            obtain ⟨first, rest, rfl, firstCode, restCode⟩ :=
              exists_texts_of_append_eq (beginsCharacter_codes notOctets) code
            exact ⟨first, rest, (text?_octets_eq_some_iff _ _).mpr firstCode,
              (inductionHypothesis laterMaximal rest).mpr restCode, rfl⟩

end Stretch

/-! ## Escapes -/

/-- The hexadecimal digits that are read are those of numbers. -/
theorem isHexDigit_of_hexValue?
    {digit : Char}
    {value : Nat}
    (read : hexValue? digit = some value) :
    IsHexDigit digit value := by
  have below : digit.toNat < 0x67 := by
    unfold hexValue? at read
    split at read
    · have atMost : digit.toNat ≤ 0x39 := And.right ‹_›
      omega
    · split at read
      · have atMost : digit.toNat ≤ 0x66 := And.right ‹_›
        omega
      · split at read
        · have atMost : digit.toNat ≤ 0x46 := And.right ‹_›
          omega
        · cases read
  have everyCode : ∀ code < 0x67, ∀ value ∈ hexValue? (Char.ofNat code),
      IsHexDigit (Char.ofNat code) value := by
    decide
  have found := everyCode digit.toNat below value
  rw [Char.ofNat_toNat] at found
  exact found read

theorem isEscape_of_octet?
    {high low : Char}
    {octet : UInt8}
    (denoted : octet? high low = some octet) :
    IsEscape octet ['%', high, low] := by
  unfold octet? at denoted
  split at denoted
  · rename_i highValue lowValue highRead lowRead
    have highDigit := isHexDigit_of_hexValue? highRead
    have lowDigit := isHexDigit_of_hexValue? lowRead
    have highBelow := highDigit.1
    have lowBelow := lowDigit.1
    have number : octet.toNat = 16 * highValue + lowValue := by
      rw [← Option.some.inj denoted]
      exact Nat.mod_eq_of_lt (by omega)
    have highPart : octet.toNat / 16 = highValue := by omega
    have lowPart : octet.toNat % 16 = lowValue := by omega
    refine ⟨high, low, rfl, ?_, ?_⟩
    · rwa [highPart]
    · rwa [lowPart]
  · cases denoted

/-- A text begins with two hexadecimal digits. -/
def BeginsWithHexDigits (text : Text) : Prop :=
  ∃ high low later highValue lowValue, text = high :: low :: later ∧
    IsHexDigit high highValue ∧ IsHexDigit low lowValue

/-- Every percent sign is followed by two hexadecimal digits. -/
def EscapesComplete (component : Text) : Prop :=
  ∀ rest, '%' :: rest <:+ component -> BeginsWithHexDigits rest

/-- A percent sign is not a hexadecimal digit. -/
theorem IsHexDigit.ne_percent
    {digit : Char}
    {value : Nat}
    (isDigit : IsHexDigit digit value) :
    digit ≠ '%' := by
  rintro rfl
  have read := hexValue?_of_isHexDigit isDigit
  cases read

theorem escapesComplete_nil : EscapesComplete [] := by
  intro rest ends
  simp at ends

/-- A character other than the percent sign does not matter. -/
theorem escapesComplete_cons_iff
    {char : Char}
    (notPercent : char ≠ '%')
    (component : Text) :
    EscapesComplete (char :: component) ↔ EscapesComplete component := by
  constructor
  · intro complete rest ends
    exact complete rest (ends.trans (List.suffix_cons char component))
  · intro complete rest ends
    rcases List.suffix_cons_iff.mp ends with equal | inTail
    · cases equal
      exact absurd rfl notPercent
    · exact complete rest inTail

/-- A percent sign has to be followed by two digits, in front of which it does not
matter. -/
theorem escapesComplete_percent_iff (component : Text) :
    EscapesComplete ('%' :: component) ↔
      BeginsWithHexDigits component ∧ EscapesComplete component := by
  constructor
  · intro complete
    exact ⟨complete component (List.suffix_refl _), fun rest ends =>
      complete rest (ends.trans (List.suffix_cons '%' component))⟩
  · rintro ⟨begins, complete⟩ rest ends
    rcases List.suffix_cons_iff.mp ends with equal | inTail
    · cases equal
      exact begins
    · exact complete rest inTail

/-- An escape is complete, and does not matter for what follows it. -/
theorem escapesComplete_escape_iff
    {high low : Char}
    {highValue lowValue : Nat}
    (highDigit : IsHexDigit high highValue)
    (lowDigit : IsHexDigit low lowValue)
    (component : Text) :
    EscapesComplete ('%' :: high :: low :: component) ↔
      EscapesComplete component := by
  have begins : BeginsWithHexDigits (high :: low :: component) :=
    ⟨high, low, component, highValue, lowValue, rfl, highDigit, lowDigit⟩
  rw [escapesComplete_percent_iff, and_iff_right begins,
    escapesComplete_cons_iff highDigit.ne_percent,
    escapesComplete_cons_iff lowDigit.ne_percent]

/-! ## Octets of a component -/

/-- The octets that a component denotes. -/
inductive Denotes : Text -> List UInt8 -> Prop
  | nil : Denotes [] []
  /-- An escape denotes its octet. -/
  | escape
      {octet : UInt8} {octets : List UInt8} {escape component : Text}
      (head : IsEscape octet escape)
      (tail : Denotes component octets) :
      Denotes (escape ++ component) (octet :: octets)
  /-- A plus sign denotes a space. -/
  | plus
      {octets : List UInt8} {component : Text}
      (tail : Denotes component octets) :
      Denotes ('+' :: component) (String.utf8EncodeChar ' ' ++ octets)
  /-- Any other character denotes itself. -/
  | bare
      {char : Char} {octets : List UInt8} {component : Text}
      (notPercent : char ≠ '%')
      (notPlus : char ≠ '+')
      (tail : Denotes component octets) :
      Denotes (char :: component) (String.utf8EncodeChar char ++ octets)

/-- The octets that a component denotes are those of its stretches. -/
theorem Denotes.exists_stretches
    {component : Text}
    {octets : List UInt8}
    (denotes : Denotes component octets) :
    ∃ stretches, stretches? component = some stretches ∧
      Stretch.AreMaximal stretches ∧ Stretch.codes stretches = octets := by
  induction denotes with
  | nil => exact ⟨[], rfl, trivial, rfl⟩
  | @escape octet octets escape component head _ inductionHypothesis =>
      obtain ⟨stretches, read, maximal, rfl⟩ := inductionHypothesis
      obtain ⟨high, low, rfl, denoted⟩ := head.exists_octet?
      refine ⟨Stretch.prependOctet octet stretches, ?_, maximal.prependOctet octet,
        Stretch.codes_prependOctet octet stretches⟩
      exact (stretches?_escape denoted component).trans (by rw [read]; rfl)
  | @plus octets component _ inductionHypothesis =>
      obtain ⟨stretches, read, maximal, rfl⟩ := inductionHypothesis
      refine ⟨Stretch.prependChar '+' stretches, ?_, maximal.prependChar '+',
        Stretch.codes_prependOctet 0x20 stretches⟩
      rw [stretches?_cons (by decide), read]
      rfl
  | @bare char octets component notPercent notPlus _ inductionHypothesis =>
      obtain ⟨stretches, read, maximal, rfl⟩ := inductionHypothesis
      refine ⟨Stretch.prependChar char stretches, ?_, maximal.prependChar char,
        Stretch.codes_prependChar notPlus stretches⟩
      rw [stretches?_cons notPercent, read]
      rfl

/-- A component denotes one sequence of octets. -/
theorem Denotes.eq
    {component : Text}
    {left right : List UInt8}
    (leftDenotes : Denotes component left)
    (rightDenotes : Denotes component right) :
    left = right := by
  obtain ⟨stretches, read, _, rfl⟩ := leftDenotes.exists_stretches
  obtain ⟨others, otherRead, _, rfl⟩ := rightDenotes.exists_stretches
  rw [Option.some.inj (read.symm.trans otherRead)]

/-- A character other than the percent sign does not keep a component from denoting
octets. -/
theorem exists_denotes_cons
    {char : Char}
    (notPercent : char ≠ '%')
    {component : Text}
    (denotes : ∃ octets, Denotes component octets) :
    ∃ octets, Denotes (char :: component) octets := by
  obtain ⟨octets, tail⟩ := denotes
  by_cases isPlus : char = '+'
  · rw [isPlus]
    exact ⟨_, .plus tail⟩
  · exact ⟨_, .bare notPercent isPlus tail⟩

/-- A component that is read as stretches denotes octets. -/
theorem exists_denotes_of_stretches?
    {component : Text}
    {stretches : List Stretch}
    (read : stretches? component = some stretches) :
    ∃ octets, Denotes component octets := by
  induction component using stretches?.induct generalizing stretches with
  | case1 => exact ⟨[], .nil⟩
  | case2 high low text inductionHypothesis =>
      simp only [stretches?, Option.bind_eq_bind, Option.bind_eq_some_iff] at read
      obtain ⟨octet, denoted, later, readLater, _⟩ := read
      obtain ⟨octets, tail⟩ := inductionHypothesis readLater
      exact ⟨octet :: octets, .escape (isEscape_of_octet? denoted) tail⟩
  | case3 text tooShort =>
      rw [stretches?, if_pos rfl] at read
      · cases read
      · exact tooShort
  | case4 char text _ notPercent inductionHypothesis =>
      rw [stretches?_cons notPercent] at read
      obtain ⟨later, readLater, _⟩ := Option.map_eq_some_iff.mp read
      exact exists_denotes_cons notPercent (inductionHypothesis readLater)

/-- A component denotes octets exactly when its escapes are complete. -/
theorem exists_denotes_iff (component : Text) :
    (∃ octets, Denotes component octets) ↔ EscapesComplete component := by
  constructor
  · rintro ⟨octets, denotes⟩
    induction denotes with
    | nil => exact escapesComplete_nil
    | escape head _ inductionHypothesis =>
        obtain ⟨high, low, rfl, highDigit, lowDigit⟩ := head
        exact (escapesComplete_escape_iff highDigit lowDigit _).mpr
          inductionHypothesis
    | plus _ inductionHypothesis =>
        exact (escapesComplete_cons_iff (by decide) _).mpr inductionHypothesis
    | bare notPercent _ _ inductionHypothesis =>
        exact (escapesComplete_cons_iff notPercent _).mpr inductionHypothesis
  · intro complete
    induction component using stretches?.induct with
    | case1 => exact ⟨[], .nil⟩
    | case2 high low text inductionHypothesis =>
        obtain ⟨⟨_, _, _, highValue, lowValue, ⟨⟩, highDigit, lowDigit⟩, _⟩ :=
          (escapesComplete_percent_iff _).mp complete
        have isEscape := isEscape_of_octet? (octet?_of_isHexDigit highDigit lowDigit)
        obtain ⟨octets, tail⟩ := inductionHypothesis
          ((escapesComplete_escape_iff highDigit lowDigit text).mp complete)
        exact ⟨_, .escape isEscape tail⟩
    | case3 text tooShort =>
        obtain ⟨⟨high, low, later, _, _, begins, _⟩, _⟩ :=
          (escapesComplete_percent_iff text).mp complete
        exact absurd begins (tooShort high low later rfl)
    | case4 char text _ notPercent inductionHypothesis =>
        exact exists_denotes_cons notPercent (inductionHypothesis
          ((escapesComplete_cons_iff notPercent text).mp complete))

/-! ## Outcomes -/

/-- An incomplete escape is reported whatever else is wrong. -/
theorem decode_eq_malformedEscape_iff (component : Text) :
    decode component = .error .malformedEscape ↔ ¬EscapesComplete component := by
  rw [← exists_denotes_iff]
  unfold decode
  cases read : stretches? component with
  | none =>
      have denotesNothing : ¬∃ octets, Denotes component octets := by
        rintro ⟨octets, denotes⟩
        obtain ⟨stretches, found, _⟩ := denotes.exists_stretches
        rw [read] at found
        cases found
      simp [denotesNothing]
  | some stretches =>
      have denotes := exists_denotes_of_stretches? read
      cases joined : Stretch.joinedText? stretches <;> simp [joined, denotes]

/-- A component that denotes octets decodes to the text of which they are the
code. -/
theorem Denotes.decode_eq_ok_iff
    {component : Text}
    {octets : List UInt8}
    (denotes : Denotes component octets)
    (text : Text) :
    decode component = .ok text ↔ octets = utf8Octets text := by
  obtain ⟨stretches, read, maximal, rfl⟩ := denotes.exists_stretches
  rw [Component.decode_eq_ok_iff, read, ← Stretch.joinedText?_eq_some_iff maximal]
  simp

/-- A component that denotes octets fails to decode exactly when they are not
valid. -/
theorem Denotes.decode_eq_invalidUtf8_iff
    {component : Text}
    {octets : List UInt8}
    (denotes : Denotes component octets) :
    decode component = .error .invalidUtf8 ↔ ¬IsUtf8 octets := by
  have complete := (exists_denotes_iff component).mp ⟨octets, denotes⟩
  have notMalformed : decode component ≠ .error .malformedEscape :=
    (decode_eq_malformedEscape_iff component).not_left.mpr complete
  rw [isUtf8_iff_exists_text]
  simp only [← denotes.decode_eq_ok_iff]
  cases outcome : decode component with
  | ok text => simp
  | error reason =>
      cases reason with
      | malformedEscape => exact absurd outcome notMalformed
      | invalidUtf8 => simp

/-- The words tell the reasons apart. -/
theorem message_injective : Function.Injective Reason.message := by
  intro left right equal
  cases left with
  | malformedEscape =>
      cases right with
      | malformedEscape => rfl
      | invalidUtf8 => exact absurd equal (by decide)
  | invalidUtf8 =>
      cases right with
      | malformedEscape => exact absurd equal (by decide)
      | invalidUtf8 => rfl

theorem mapError_message_eq_error_iff
    (outcome : Except Reason Text)
    (reason : Reason) :
    outcome.mapError Reason.message = .error reason.message ↔
      outcome = .error reason := by
  cases outcome with
  | ok text => simp [Except.mapError]
  | error other => simp [Except.mapError, message_injective.eq_iff]

/-- A component denotes octets when its escapes are complete, and then one sequence
of them.  Decoding succeeds exactly when they are valid, with the text of which they
are the code.  Incomplete escapes are reported whatever else is wrong, and otherwise
octets that are not valid. -/
theorem decode_denotedOctets (component : Text) :
    ∃ octets,
      (∀ other, Denotes component other ↔
        EscapesComplete component ∧ other = octets) ∧
      (∀ text, decode component = .ok text ↔
        EscapesComplete component ∧ octets = utf8Octets text) ∧
      ((∃ text, decode component = .ok text) ↔
        EscapesComplete component ∧ IsUtf8 octets) ∧
      ((decode component).mapError Reason.message =
          .error "malformed percent-escape" ↔
        ¬EscapesComplete component) ∧
      ((decode component).mapError Reason.message =
          .error "escaped bytes are not valid UTF-8" ↔
        EscapesComplete component ∧ ¬IsUtf8 octets) := by
  have malformed := (mapError_message_eq_error_iff (decode component)
    .malformedEscape).trans (decode_eq_malformedEscape_iff component)
  have invalid : (decode component).mapError Reason.message =
        .error "escaped bytes are not valid UTF-8" ↔
      decode component = .error .invalidUtf8 :=
    mapError_message_eq_error_iff (decode component) .invalidUtf8
  by_cases complete : EscapesComplete component
  · obtain ⟨octets, denotes⟩ := (exists_denotes_iff component).mpr complete
    have onlyOctets : ∀ other, Denotes component other ↔ other = octets := by
      intro other
      constructor
      · intro otherDenotes
        exact otherDenotes.eq denotes
      · rintro rfl
        exact denotes
    have succeeds : (∃ text, decode component = .ok text) ↔ IsUtf8 octets := by
      rw [isUtf8_iff_exists_text]
      simp only [denotes.decode_eq_ok_iff]
    refine ⟨octets, ?_, ?_, ?_, malformed, ?_⟩
    · simpa only [complete, true_and] using onlyOctets
    · simpa only [complete, true_and] using denotes.decode_eq_ok_iff
    · simpa only [complete, true_and] using succeeds
    · simpa only [complete, true_and] using
        invalid.trans denotes.decode_eq_invalidUtf8_iff
  · have outcome := (decode_eq_malformedEscape_iff component).mpr complete
    have noOctets : ∀ other, ¬Denotes component other := fun other denotes =>
      complete ((exists_denotes_iff component).mp ⟨other, denotes⟩)
    refine ⟨[], ?_, ?_, ?_, malformed, invalid.trans ?_⟩
    · simp [complete, noOctets]
    · simp [complete, outcome]
    · simp [complete, outcome]
    · simp [complete, outcome]

end Component
end Query
end RequestKey
