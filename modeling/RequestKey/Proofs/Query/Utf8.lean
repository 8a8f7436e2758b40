import RequestKey.Proofs.Query.Decoding

/-!
# UTF-8 octet by octet

A number is written in one to four octets, of which the first shows how many there
are and the others continue it.  The octets are the code of a character when they
are no more than needed and their number is that of a character, which leaves out
the surrogates and everything above the last code point.

The main statements say that valid octets are exactly the codes of texts, and that
the first octet of a character, wherever it stands in the code of a text, separates
the codes of two texts.
-/

namespace RequestKey
namespace Query
namespace Component

/-! ## Valid octets -/

/-- Octets in one of the forms by which a number is written. -/
inductive WritesNumber : List UInt8 -> Nat -> Prop
  | one
      {number : Nat}
      (below : number < 0x80) :
      WritesNumber [UInt8.ofNat number] number
  | two
      {lead last : Nat}
      (leadBelow : lead < 0x20)
      (lastBelow : last < 0x40) :
      WritesNumber
        [UInt8.ofNat (lead + 0xC0), UInt8.ofNat (last + 0x80)]
        (lead * 0x40 + last)
  | three
      {lead second last : Nat}
      (leadBelow : lead < 0x10)
      (secondBelow : second < 0x40)
      (lastBelow : last < 0x40) :
      WritesNumber
        [UInt8.ofNat (lead + 0xE0), UInt8.ofNat (second + 0x80),
          UInt8.ofNat (last + 0x80)]
        (lead * 0x1000 + second * 0x40 + last)
  | four
      {lead second third last : Nat}
      (leadBelow : lead < 0x08)
      (secondBelow : second < 0x40)
      (thirdBelow : third < 0x40)
      (lastBelow : last < 0x40) :
      WritesNumber
        [UInt8.ofNat (lead + 0xF0), UInt8.ofNat (second + 0x80),
          UInt8.ofNat (third + 0x80), UInt8.ofNat (last + 0x80)]
        (lead * 0x40000 + second * 0x1000 + third * 0x40 + last)

/-- The least number that needs so many octets. -/
def leastNumber : Nat -> Nat
  | 2 => 0x80
  | 3 => 0x800
  | 4 => 0x10000
  | _ => 0

/-- Octets are the code of the character with a number. -/
structure IsCharCode (code : List UInt8) (number : Nat) : Prop where
  /-- The octets have a form that writes the number. -/
  written : WritesNumber code number
  /-- The form is not overlong: the number needs so many octets. -/
  shortest : leastNumber code.length ≤ number
  /-- The number is not a surrogate. -/
  notSurrogate : ¬(0xD800 ≤ number ∧ number ≤ 0xDFFF)
  /-- The number is not above the last code point. -/
  inRange : number ≤ 0x10FFFF

/-- Octets are valid UTF-8: the codes of characters, one after another. -/
inductive IsUtf8 : List UInt8 -> Prop
  | nil : IsUtf8 []
  | cons
      {code octets : List UInt8} {number : Nat}
      (head : IsCharCode code number)
      (tail : IsUtf8 octets) :
      IsUtf8 (code ++ octets)

/-- The octets of a character write its number. -/
theorem writesNumber_utf8EncodeChar (char : Char) :
    WritesNumber (String.utf8EncodeChar char) char.toNat := by
  have inRange : char.toNat < 0x110000 := by
    rcases char.valid with below | above
    · exact Nat.lt_trans below (by decide)
    · exact above.2
  change WritesNumber (String.utf8EncodeChar char) char.val.toNat
  change char.val.toNat < 0x110000 at inRange
  unfold String.utf8EncodeChar
  generalize char.val.toNat = number at inRange
  dsimp only
  split
  · exact .one (by omega)
  · split
    · have rejoined : number / 64 % 0x20 * 0x40 + number % 0x40 = number := by omega
      have written := @WritesNumber.two (number / 64 % 0x20) (number % 0x40)
        (by omega) (by omega)
      rwa [rejoined] at written
    · split
      · have rejoined : number / 4096 % 0x10 * 0x1000 + number / 64 % 0x40 * 0x40 +
            number % 0x40 = number := by omega
        have written := @WritesNumber.three (number / 4096 % 0x10)
          (number / 64 % 0x40) (number % 0x40) (by omega) (by omega) (by omega)
        rwa [rejoined] at written
      · have rejoined : number / 262144 % 0x08 * 0x40000 +
            number / 4096 % 0x40 * 0x1000 + number / 64 % 0x40 * 0x40 +
              number % 0x40 = number := by omega
        have written := @WritesNumber.four (number / 262144 % 0x08)
          (number / 4096 % 0x40) (number / 64 % 0x40) (number % 0x40)
          (by omega) (by omega) (by omega) (by omega)
        rwa [rejoined] at written

/-- Octets that write the number of a character, and are no more than needed, are
the octets of that character. -/
theorem WritesNumber.eq_utf8EncodeChar
    {code : List UInt8}
    {char : Char}
    (written : WritesNumber code char.toNat)
    (shortest : leastNumber code.length ≤ char.toNat) :
    code = String.utf8EncodeChar char := by
  change WritesNumber code char.val.toNat at written
  change leastNumber code.length ≤ char.val.toNat at shortest
  unfold String.utf8EncodeChar
  generalize char.val.toNat = number at written shortest
  dsimp only
  cases written with
  | one below => rw [if_pos (Nat.le_of_lt_succ below)]
  | @two lead last leadBelow lastBelow =>
      change 0x80 ≤ _ at shortest
      have leadPart : (lead * 0x40 + last) / 64 % 0x20 = lead := by omega
      have lastPart : (lead * 0x40 + last) % 0x40 = last := by omega
      rw [if_neg (by omega), if_pos (by omega), leadPart, lastPart]
  | @three lead second last leadBelow secondBelow lastBelow =>
      change 0x800 ≤ _ at shortest
      have leadPart : (lead * 0x1000 + second * 0x40 + last) / 4096 % 0x10 =
          lead := by omega
      have secondPart : (lead * 0x1000 + second * 0x40 + last) / 64 % 0x40 =
          second := by omega
      have lastPart : (lead * 0x1000 + second * 0x40 + last) % 0x40 = last := by
        omega
      rw [if_neg (by omega), if_neg (by omega), if_pos (by omega), leadPart,
        secondPart, lastPart]
  | @four lead second third last leadBelow secondBelow thirdBelow lastBelow =>
      change 0x10000 ≤ _ at shortest
      have leadPart : (lead * 0x40000 + second * 0x1000 + third * 0x40 + last) /
          262144 % 0x08 = lead := by omega
      have secondPart : (lead * 0x40000 + second * 0x1000 + third * 0x40 + last) /
          4096 % 0x40 = second := by omega
      have thirdPart : (lead * 0x40000 + second * 0x1000 + third * 0x40 + last) /
          64 % 0x40 = third := by omega
      have lastPart : (lead * 0x40000 + second * 0x1000 + third * 0x40 + last) %
          0x40 = last := by omega
      rw [if_neg (by omega), if_neg (by omega), if_neg (by omega), leadPart,
        secondPart, thirdPart, lastPart]

theorem leastNumber_utf8EncodeChar_le (char : Char) :
    leastNumber (String.utf8EncodeChar char).length ≤ char.toNat := by
  change _ ≤ char.val.toNat
  unfold String.utf8EncodeChar
  dsimp only
  split
  · exact Nat.zero_le _
  · split
    · exact Nat.lt_of_not_le ‹_›
    · split
      · exact Nat.lt_of_not_le ‹_›
      · exact Nat.lt_of_not_le ‹_›

/-- Octets are the code of a character exactly when they are the octets by which
the character is encoded. -/
theorem isCharCode_iff
    (code : List UInt8)
    (number : Nat) :
    IsCharCode code number ↔
      ∃ char : Char, char.toNat = number ∧ String.utf8EncodeChar char = code := by
  constructor
  · intro isCode
    have valid : number.isValidChar := by
      have notSurrogate := isCode.notSurrogate
      have inRange := isCode.inRange
      unfold Nat.isValidChar
      omega
    have numbered : (Char.ofNat number).toNat = number := by
      rw [Char.ofNat, dif_pos valid]
      rfl
    refine ⟨Char.ofNat number, numbered, ?_⟩
    symm
    apply WritesNumber.eq_utf8EncodeChar
    · rw [numbered]
      exact isCode.written
    · rw [numbered]
      exact isCode.shortest
  · rintro ⟨char, rfl, rfl⟩
    have valid : char.toNat < 0xD800 ∨ 0xDFFF < char.toNat ∧ char.toNat < 0x110000 :=
      char.valid
    exact {
      written := writesNumber_utf8EncodeChar char
      shortest := leastNumber_utf8EncodeChar_le char
      notSurrogate := by omega
      inRange := by omega }

/-- Octets are valid exactly when they are the code of a text. -/
theorem isUtf8_iff_exists_text (octets : List UInt8) :
    IsUtf8 octets ↔ ∃ text, octets = utf8Octets text := by
  constructor
  · intro valid
    induction valid with
    | nil => exact ⟨[], rfl⟩
    | cons head _ inductionHypothesis =>
        obtain ⟨char, _, rfl⟩ := (isCharCode_iff _ _).mp head
        obtain ⟨text, rfl⟩ := inductionHypothesis
        exact ⟨char :: text, (utf8Octets_cons char text).symm⟩
  · rintro ⟨text, rfl⟩
    induction text with
    | nil => exact .nil
    | cons char text inductionHypothesis =>
        rw [utf8Octets_cons]
        have head := (isCharCode_iff _ _).mpr ⟨char, rfl, rfl⟩
        exact .cons head inductionHypothesis

/-! ## Cutting the code of a text -/

theorem utf8Octets_append (left right : Text) :
    utf8Octets (left ++ right) = utf8Octets left ++ utf8Octets right :=
  List.flatMap_append

/-- The first character is read off its octets, whatever follows them. -/
theorem utf8EncodeChar_append_inj
    {left right : Char}
    {leftRest rightRest : List UInt8}
    (equal : String.utf8EncodeChar left ++ leftRest =
      String.utf8EncodeChar right ++ rightRest) :
    left = right ∧ leftRest = rightRest := by
  have read := congrArg (fun octets => octets.toByteArray.utf8DecodeChar? 0) equal
  simp only [List.toByteArray_append, ByteArray.utf8DecodeChar?_utf8EncodeChar_append,
    Option.some.injEq] at read
  subst read
  exact ⟨rfl, List.append_cancel_left equal⟩

/-- Octets begin with the first octet of a character, or there are none. -/
def BeginsCharacter (octets : List UInt8) : Prop :=
  ∀ octet ∈ octets.head?, octet.IsUTF8FirstByte

theorem beginsCharacter_utf8EncodeChar_append
    (char : Char)
    (octets : List UInt8) :
    BeginsCharacter (String.utf8EncodeChar char ++ octets) := by
  intro octet isFirst
  cases code : String.utf8EncodeChar char with
  | nil => exact absurd code String.utf8EncodeChar_ne_nil
  | cons first more =>
      have first := UInt8.isUTF8FirstByte_getElem_zero_utf8EncodeChar (c := char)
      simp_all

/-- Only the first octet of a character can begin one. -/
theorem not_beginsCharacter
    {char : Char}
    {left right : List UInt8}
    (leftSome : left ≠ [])
    (rightSome : right ≠ [])
    (split : String.utf8EncodeChar char = left ++ right)
    (later : List UInt8) :
    ¬BeginsCharacter (right ++ later) := by
  cases right with
  | nil => exact absurd rfl rightSome
  | cons octet right =>
      intro begins
      have within : left.length < (String.utf8EncodeChar char).length := by
        simp [split]
      have found : (String.utf8EncodeChar char)[left.length] = octet := by
        simp [split]
      have isFirst : octet.IsUTF8FirstByte := begins octet rfl
      rw [← found, UInt8.isUTF8FirstByte_getElem_utf8EncodeChar,
        List.length_eq_zero_iff] at isFirst
      exact leftSome isFirst

/-- The code of a text is cut into the codes of two texts wherever a character
begins. -/
theorem exists_texts_of_append_eq
    {left right : List UInt8}
    (begins : BeginsCharacter right)
    {text : Text}
    (code : left ++ right = utf8Octets text) :
    ∃ first later, text = first ++ later ∧
      left = utf8Octets first ∧ right = utf8Octets later := by
  induction text generalizing left with
  | nil =>
      obtain ⟨rfl, rfl⟩ := List.append_eq_nil_iff.mp code
      exact ⟨[], [], rfl, rfl, rfl⟩
  | cons char text inductionHypothesis =>
      rw [utf8Octets_cons] at code
      rcases List.append_eq_append_iff.mp code with
        ⟨rest, charCode, rightCode⟩ | ⟨rest, leftCode, restCode⟩
      · -- The cut lies in the octets of the character, so at one of their ends.
        by_cases leftEmpty : left = []
        · refine ⟨[], char :: text, rfl, leftEmpty, ?_⟩
          rw [rightCode, utf8Octets_cons, charCode, leftEmpty, List.nil_append]
        · by_cases restEmpty : rest = []
          · refine ⟨[char], text, rfl, ?_, ?_⟩
            · rw [utf8Octets_cons, utf8Octets_nil, charCode, restEmpty]
              simp
            · rw [rightCode, restEmpty, List.nil_append]
          · rw [rightCode] at begins
            exact absurd begins (not_beginsCharacter leftEmpty restEmpty charCode _)
      · obtain ⟨first, later, rfl, firstCode, laterCode⟩ :=
          inductionHypothesis restCode.symm
        refine ⟨char :: first, later, rfl, ?_, laterCode⟩
        rw [leftCode, utf8Octets_cons, firstCode]

end Component
end Query
end RequestKey
