import RequestKey.Query.Component

/-!
# Decoding character by character

A component that decodes keeps decoding when the octets of a whole character, or
a character outside ASCII, are put in front of it: the new octets join the first
stretch, and the code of a text in front of the code of another is the code of
both.  No knowledge of the stretches is needed to use this.
-/

namespace RequestKey
namespace Query
namespace Component

/-! ## Octets and texts -/

/-- The octets of the UTF-8 code of a text. -/
def utf8Octets (text : Text) : List UInt8 :=
  text.flatMap String.utf8EncodeChar

@[simp] theorem utf8Octets_nil : utf8Octets [] = [] := rfl

@[simp] theorem utf8Octets_cons (char : Char) (text : Text) :
    utf8Octets (char :: text) = String.utf8EncodeChar char ++ utf8Octets text :=
  List.flatMap_cons

/-- A character inside ASCII is its own octet. -/
theorem utf8EncodeChar_of_lt
    {char : Char}
    (inAscii : char.toNat < 0x80) :
    String.utf8EncodeChar char = [UInt8.ofNat char.toNat] := by
  have atMost : char.val.toNat ≤ 0x7f := Nat.le_of_lt_succ inAscii
  rw [String.utf8EncodeChar, if_pos atMost]
  rfl

theorem utf8Encode_eq_mk (text : Text) :
    List.utf8Encode text = ⟨⟨utf8Octets text⟩⟩ := by
  have octets : (utf8Octets text).toByteArray.data.toList = utf8Octets text :=
    List.toList_data_toByteArray
  apply ByteArray.ext
  apply Array.ext'
  exact octets

namespace Stretch

/-- Octets stand for a text exactly when they are its code. -/
theorem text?_octets_eq_some_iff
    (bytes : List UInt8)
    (text : Text) :
    text? (.octets bytes) = some text ↔ bytes = utf8Octets text := by
  have bytesInjective : ∀ left right : List UInt8,
      (⟨⟨left⟩⟩ : ByteArray) = ⟨⟨right⟩⟩ -> left = right := by
    rintro left right ⟨⟩
    rfl
  unfold text?
  rw [Option.map_eq_some_iff]
  constructor
  · rintro ⟨string, decoded, rfl⟩
    rw [String.fromUTF8?, Option.dite_none_right_eq_some] at decoded
    obtain ⟨valid, equal⟩ := decoded
    apply bytesInjective
    rw [← utf8Encode_eq_mk, String.utf8Encode_toList, ← Option.some.inj equal]
    rfl
  · rintro rfl
    have valid : ByteArray.IsValidUTF8 ⟨⟨utf8Octets text⟩⟩ :=
      ⟨text, (utf8Encode_eq_mk text).symm⟩
    refine ⟨String.ofList text, ?_, String.toList_ofList⟩
    rw [String.fromUTF8?, dif_pos valid, Option.some.injEq,
      ← String.toByteArray_inj, String.toByteArray_ofList, utf8Encode_eq_mk]
    rfl

/-- Put octets in front, one after another. -/
def prependOctets (octets : List UInt8) (stretches : List Stretch) :
    List Stretch :=
  octets.foldr prependOctet stretches

theorem prependOctets_octets
    (octets bytes : List UInt8)
    (stretches : List Stretch) :
    prependOctets octets (.octets bytes :: stretches) =
      .octets (octets ++ bytes) :: stretches := by
  induction octets with
  | nil => rfl
  | cons octet octets inductionHypothesis =>
      unfold prependOctets at inductionHypothesis ⊢
      rw [List.foldr_cons, inductionHypothesis]
      rfl

/-- Octets in front of anything but octets are a stretch of their own. -/
theorem prependOctets_apart
    {octets : List UInt8}
    (nonempty : octets ≠ [])
    {stretches : List Stretch}
    (apart : ∀ bytes rest, stretches ≠ .octets bytes :: rest) :
    prependOctets octets stretches = .octets octets :: stretches := by
  obtain ⟨start, octet, rfl⟩ :=
    (List.eq_nil_or_concat octets).resolve_left nonempty
  have first : prependOctet octet stretches = .octets [octet] :: stretches := by
    cases stretches with
    | nil => rfl
    | cons stretch stretches =>
        cases stretch with
        | octets bytes => exact absurd rfl (apart bytes stretches)
        | plain char => rfl
  have joined := prependOctets_octets start [octet] stretches
  unfold prependOctets at joined ⊢
  rw [List.concat_eq_append, List.foldr_append, List.foldr_cons,
    List.foldr_nil, first, joined]

theorem joinedText?_cons_eq_some_iff
    (stretch : Stretch)
    (stretches : List Stretch)
    (text : Text) :
    joinedText? (stretch :: stretches) = some text ↔
      ∃ first rest, stretch.text? = some first ∧
        joinedText? stretches = some rest ∧ first ++ rest = text := by
  simp [joinedText?, Option.bind_eq_some_iff]

/-- The octets of a character in front of stretches put the character in front
of their text. -/
theorem joinedText?_prependOctets
    {stretches : List Stretch}
    {text : Text}
    (joined : joinedText? stretches = some text)
    (char : Char) :
    joinedText? (prependOctets (String.utf8EncodeChar char) stretches) =
      some (char :: text) := by
  have single : text? (.octets (String.utf8EncodeChar char)) = some [char] := by
    rw [text?_octets_eq_some_iff, utf8Octets_cons, utf8Octets_nil,
      List.append_nil]
  have apartCase :
      (∀ bytes rest, stretches ≠ .octets bytes :: rest) ->
      joinedText? (prependOctets (String.utf8EncodeChar char) stretches) =
        some (char :: text) := by
    intro apart
    rw [prependOctets_apart String.utf8EncodeChar_ne_nil apart,
      joinedText?_cons_eq_some_iff]
    exact ⟨[char], text, single, joined, rfl⟩
  cases stretches with
  | nil => exact apartCase (by simp)
  | cons stretch stretches =>
      cases stretch with
      | plain other => exact apartCase (by simp)
      | octets bytes =>
          obtain ⟨first, rest, firstText, restText, rfl⟩ :=
            (joinedText?_cons_eq_some_iff _ _ _).mp joined
          rw [text?_octets_eq_some_iff] at firstText
          rw [prependOctets_octets, joinedText?_cons_eq_some_iff]
          refine ⟨char :: first, rest, ?_, restText, rfl⟩
          rw [text?_octets_eq_some_iff, utf8Octets_cons, firstText]

/-- A character that stands for itself is put in front of the text. -/
theorem joinedText?_prependChar
    {stretches : List Stretch}
    {text : Text}
    (joined : joinedText? stretches = some text)
    {char : Char}
    (notPlus : char ≠ '+') :
    joinedText? (prependChar char stretches) = some (char :: text) := by
  unfold prependChar
  rw [if_neg notPlus]
  by_cases inAscii : char.toNat < 0x80
  · have prepended := joinedText?_prependOctets joined char
    rw [utf8EncodeChar_of_lt inAscii] at prepended
    rw [if_pos inAscii]
    exact prepended
  · rw [if_neg inAscii, joinedText?_cons_eq_some_iff]
    exact ⟨[char], text, rfl, joined, rfl⟩

/-- An octet in front of stretches begins a first stretch of octets. -/
theorem exists_prependOctet_eq
    (octet : UInt8)
    (stretches : List Stretch) :
    ∃ bytes later,
      prependOctet octet stretches = .octets (octet :: bytes) :: later := by
  cases stretches with
  | nil => exact ⟨[], [], rfl⟩
  | cons stretch stretches =>
      cases stretch with
      | octets bytes => exact ⟨bytes, stretches, rfl⟩
      | plain char => exact ⟨[], .plain char :: stretches, rfl⟩

/-- Stretches that begin with an octet do not stand for the empty text. -/
theorem ne_nil_of_joinedText?_prependOctet
    {octet : UInt8}
    {stretches : List Stretch}
    {text : Text}
    (joined : joinedText? (prependOctet octet stretches) = some text) :
    text ≠ [] := by
  obtain ⟨bytes, later, begins⟩ := exists_prependOctet_eq octet stretches
  rw [begins, joinedText?_cons_eq_some_iff] at joined
  obtain ⟨first, rest, firstText, _, rfl⟩ := joined
  rw [text?_octets_eq_some_iff] at firstText
  have nonempty : first ≠ [] := by
    rintro rfl
    simp at firstText
  exact List.append_ne_nil_of_left_ne_nil nonempty rest

/-- Stretches that begin with a character do not stand for the empty text. -/
theorem ne_nil_of_joinedText?_prependChar
    {char : Char}
    {stretches : List Stretch}
    {text : Text}
    (joined : joinedText? (prependChar char stretches) = some text) :
    text ≠ [] := by
  unfold prependChar at joined
  split at joined
  · exact ne_nil_of_joinedText?_prependOctet joined
  · split at joined
    · exact ne_nil_of_joinedText?_prependOctet joined
    · rw [joinedText?_cons_eq_some_iff] at joined
      obtain ⟨first, rest, firstText, _, rfl⟩ := joined
      cases firstText
      exact List.cons_ne_nil char rest

end Stretch

/-! ## Components -/

/-- A component decodes to the text of its stretches. -/
theorem decode_eq_ok_iff (component text : Text) :
    decode component = .ok text ↔
      ∃ stretches, stretches? component = some stretches ∧
        Stretch.joinedText? stretches = some text := by
  unfold decode
  cases stretches? component with
  | none => simp
  | some stretches =>
      cases joined : Stretch.joinedText? stretches <;> simp [joined]

@[simp] theorem decode_nil : decode [] = .ok [] := rfl

theorem stretches?_cons
    {char : Char}
    (notPercent : char ≠ '%')
    (text : Text) :
    stretches? (char :: text) = (stretches? text).map (Stretch.prependChar char) := by
  rw [stretches?, if_neg notPercent]
  intro high low rest percent
  exact absurd percent notPercent

theorem stretches?_escape
    {high low : Char}
    {octet : UInt8}
    (denoted : octet? high low = some octet)
    (text : Text) :
    stretches? ('%' :: high :: low :: text) =
      (stretches? text).map (Stretch.prependOctet octet) := by
  rw [stretches?, denoted]
  cases stretches? text <;> rfl

/-- A character other than the plus and percent signs may stand for itself in
front of a component. -/
theorem decode_cons
    {component text : Text}
    (decoded : decode component = .ok text)
    {char : Char}
    (notPercent : char ≠ '%')
    (notPlus : char ≠ '+') :
    decode (char :: component) = .ok (char :: text) := by
  obtain ⟨stretches, read, joined⟩ := (decode_eq_ok_iff _ _).mp decoded
  rw [decode_eq_ok_iff, stretches?_cons notPercent, read]
  exact ⟨_, rfl, Stretch.joinedText?_prependChar joined notPlus⟩

/-- A plus sign in front of a component stands for a space. -/
theorem decode_plus
    {component text : Text}
    (decoded : decode component = .ok text) :
    decode ('+' :: component) = .ok (' ' :: text) := by
  obtain ⟨stretches, read, joined⟩ := (decode_eq_ok_iff _ _).mp decoded
  have notPercent : '+' ≠ '%' := by decide
  rw [decode_eq_ok_iff, stretches?_cons notPercent, read]
  exact ⟨_, rfl, Stretch.joinedText?_prependOctets joined ' '⟩

/-- A component that is not empty does not stand for the empty text. -/
theorem ne_nil_of_decode_eq_ok
    {component text : Text}
    (nonempty : component ≠ [])
    (decoded : decode component = .ok text) :
    text ≠ [] := by
  obtain ⟨stretches, read, joined⟩ := (decode_eq_ok_iff _ _).mp decoded
  rw [stretches?.eq_def] at read
  split at read
  · exact absurd rfl nonempty
  · simp only [Option.bind_eq_bind, Option.bind_eq_some_iff, Option.pure_def,
      Option.some.injEq] at read
    obtain ⟨octet, _, later, _, rfl⟩ := read
    exact Stretch.ne_nil_of_joinedText?_prependOctet joined
  · split at read
    · cases read
    · obtain ⟨later, _, rfl⟩ := Option.map_eq_some_iff.mp read
      exact Stretch.ne_nil_of_joinedText?_prependChar joined

end Component
end Query
end RequestKey
