import Mathlib.Data.List.Forall2
import RequestKey.Bindings.Lookup
import RequestKey.Proofs.Bindings.LastValue
import RequestKey.Proofs.Query.Decoding
import RequestKey.Query.Criteria

/-!
# Form encodings

A pair of texts has many form encodings: every character is written as itself
where that is allowed, as a plus sign if it is a space, or as the escapes of its
octets, and each character chooses for itself.  The marks that separate keys,
values and pairs are reserved where they would be read as separators.

The main statement says that the query of a URI gives back every list of pairs
from each of its encodings.
-/

namespace RequestKey
namespace Query
namespace Component

/-! ## Encodings of characters -/

/-- A digit of either case is the hexadecimal digit of a number. -/
def IsHexDigit (digit : Char) (value : Nat) : Prop :=
  value < 16 ∧
    (digit = Nat.digitChar value ∨ digit = (Nat.digitChar value).toUpper)

instance (digit : Char) (value : Nat) : Decidable (IsHexDigit digit value) :=
  inferInstanceAs (Decidable (_ ∧ _))

/-- A text is a percent sign and the two hexadecimal digits of an octet. -/
def IsEscape (octet : UInt8) (escape : Text) : Prop :=
  ∃ high low, escape = ['%', high, low] ∧
    IsHexDigit high (octet.toNat / 16) ∧ IsHexDigit low (octet.toNat % 16)

/-- Escapes of octets, one after another. -/
inductive EscapesForm : List UInt8 -> Text -> Prop
  | nil : EscapesForm [] []
  | cons
      {octet : UInt8} {octets : List UInt8} {escape escapes : Text}
      (head : IsEscape octet escape)
      (tail : EscapesForm octets escapes) :
      EscapesForm (octet :: octets) (escape ++ escapes)

/-- The forms in which a character may be written. -/
inductive CharForm (reserved : List Char) (char : Char) : Text -> Prop
  /-- A character that is not reserved stands for itself. -/
  | bare (allowed : char ∉ reserved) : CharForm reserved char [char]
  /-- A plus sign stands for a space. -/
  | plus (space : char = ' ') : CharForm reserved char ['+']
  /-- Escapes stand for the octets of the character. -/
  | escaped
      {escapes : Text}
      (octets : EscapesForm (String.utf8EncodeChar char) escapes) :
      CharForm reserved char escapes

/-- The forms of the characters of a text, one after another. -/
inductive TextForm (reserved : List Char) : Text -> Text -> Prop
  | nil : TextForm reserved [] []
  | cons
      {char : Char} {text form code : Text}
      (head : CharForm reserved char form)
      (tail : TextForm reserved text code) :
      TextForm reserved (char :: text) (form ++ code)

/-- Characters that a value does not hold as themselves. -/
def valueReserved : List Char := ['%', '+', '&']

/-- Characters that a key does not hold as themselves. -/
def keyReserved : List Char := '=' :: valueReserved

/-! ## Decoding the forms -/

theorem hexValue?_of_isHexDigit
    {digit : Char}
    {value : Nat}
    (isDigit : IsHexDigit digit value) :
    hexValue? digit = some value := by
  have bothCases : ∀ value, value < 16 ->
      hexValue? (Nat.digitChar value) = some value ∧
        hexValue? (Nat.digitChar value).toUpper = some value := by
    decide
  obtain ⟨small, rfl | rfl⟩ := isDigit
  · exact (bothCases value small).1
  · exact (bothCases value small).2

/-- Two hexadecimal digits denote the octet of their numbers. -/
theorem octet?_of_isHexDigit
    {high low : Char}
    {highValue lowValue : Nat}
    (highDigit : IsHexDigit high highValue)
    (lowDigit : IsHexDigit low lowValue) :
    octet? high low = some (UInt8.ofNat (16 * highValue + lowValue)) := by
  unfold octet?
  rw [hexValue?_of_isHexDigit highDigit, hexValue?_of_isHexDigit lowDigit]

theorem IsEscape.exists_octet?
    {octet : UInt8}
    {escape : Text}
    (isEscape : IsEscape octet escape) :
    ∃ high low, escape = ['%', high, low] ∧ octet? high low = some octet := by
  obtain ⟨high, low, rfl, highDigit, lowDigit⟩ := isEscape
  have joined : 16 * (octet.toNat / 16) + octet.toNat % 16 = octet.toNat := by
    omega
  refine ⟨high, low, rfl, ?_⟩
  rw [octet?_of_isHexDigit highDigit lowDigit, joined, UInt8.ofNat_toNat]

/-- Escapes in front of a component put their octets in front of its
stretches. -/
theorem EscapesForm.stretches?_append
    {octets : List UInt8}
    {escapes : Text}
    (isForm : EscapesForm octets escapes)
    (component : Text) :
    stretches? (escapes ++ component) =
      (stretches? component).map (Stretch.prependOctets octets) := by
  induction isForm with
  | nil =>
      change stretches? component = (stretches? component).map fun same => same
      rw [Option.map_id']
  | @cons octet octets escape escapes head tail inductionHypothesis =>
      obtain ⟨high, low, rfl, denoted⟩ := head.exists_octet?
      rw [List.append_assoc]
      change stretches? ('%' :: high :: low :: (escapes ++ component)) = _
      rw [stretches?_escape denoted, inductionHypothesis, Option.map_map]
      rfl

/-- Any form of a character in front of a component decodes to the character in
front of its text. -/
theorem CharForm.decode_append
    {reserved : List Char}
    {char : Char}
    {form : Text}
    (isForm : CharForm reserved char form)
    (covers : valueReserved ⊆ reserved)
    {component text : Text}
    (decoded : decode component = .ok text) :
    decode (form ++ component) = .ok (char :: text) := by
  cases isForm with
  | bare allowed =>
      have notPercent : char ≠ '%' := by
        rintro rfl
        exact allowed (covers (by simp [valueReserved]))
      have notPlus : char ≠ '+' := by
        rintro rfl
        exact allowed (covers (by simp [valueReserved]))
      exact decode_cons decoded notPercent notPlus
  | plus space =>
      rw [space]
      exact decode_plus decoded
  | escaped octets =>
      obtain ⟨stretches, read, joined⟩ := (decode_eq_ok_iff _ _).mp decoded
      rw [decode_eq_ok_iff, octets.stretches?_append, read]
      exact ⟨_, rfl, Stretch.joinedText?_prependOctets joined char⟩

/-- Every form of a text decodes to the text. -/
theorem TextForm.decode_eq_ok
    {reserved : List Char}
    {text code : Text}
    (isForm : TextForm reserved text code)
    (covers : valueReserved ⊆ reserved) :
    decode code = .ok text := by
  induction isForm with
  | nil => exact decode_nil
  | cons head tail inductionHypothesis =>
      exact head.decode_append covers inductionHypothesis

/-! ## Characters that do not occur in forms -/

/-- Whether a character separates the parts of a query and stands in no
escape. -/
def IsMark (mark : Char) : Prop :=
  mark ≠ '%' ∧ mark ≠ '+' ∧ hexValue? mark = none

theorem isMark_ampersand : IsMark '&' := by
  refine ⟨by decide, by decide, rfl⟩

theorem isMark_equals : IsMark '=' := by
  refine ⟨by decide, by decide, rfl⟩

theorem EscapesForm.not_mem
    {octets : List UInt8}
    {escapes : Text}
    (isForm : EscapesForm octets escapes)
    {mark : Char}
    (isMark : IsMark mark) :
    mark ∉ escapes := by
  obtain ⟨notPercent, -, notDigit⟩ := isMark
  have notHexDigit : ∀ {digit value}, IsHexDigit digit value ->
      mark ≠ digit := by
    rintro digit value isDigit rfl
    rw [hexValue?_of_isHexDigit isDigit] at notDigit
    cases notDigit
  induction isForm with
  | nil => simp
  | cons head tail inductionHypothesis =>
      obtain ⟨high, low, rfl, highDigit, lowDigit⟩ := head
      simp [notPercent, notHexDigit highDigit, notHexDigit lowDigit,
        inductionHypothesis]

/-- No form of a character holds a reserved mark. -/
theorem CharForm.not_mem
    {reserved : List Char}
    {char : Char}
    {form : Text}
    (isForm : CharForm reserved char form)
    {mark : Char}
    (isMark : IsMark mark)
    (isReserved : mark ∈ reserved) :
    mark ∉ form := by
  cases isForm with
  | bare allowed =>
      intro member
      rw [List.mem_singleton] at member
      exact allowed (member ▸ isReserved)
  | plus space => simpa using isMark.2.1
  | escaped octets => exact octets.not_mem isMark

theorem TextForm.not_mem
    {reserved : List Char}
    {text code : Text}
    (isForm : TextForm reserved text code)
    {mark : Char}
    (isMark : IsMark mark)
    (isReserved : mark ∈ reserved) :
    mark ∉ code := by
  induction isForm with
  | nil => simp
  | cons head tail inductionHypothesis =>
      rw [List.mem_append, not_or]
      exact ⟨head.not_mem isMark isReserved, inductionHypothesis⟩

theorem EscapesForm.ne_nil
    {octets : List UInt8}
    {escapes : Text}
    (isForm : EscapesForm octets escapes)
    (nonempty : octets ≠ []) :
    escapes ≠ [] := by
  cases isForm with
  | nil => exact absurd rfl nonempty
  | cons head tail =>
      obtain ⟨high, low, rfl, _⟩ := head
      simp

theorem CharForm.ne_nil
    {reserved : List Char}
    {char : Char}
    {form : Text}
    (isForm : CharForm reserved char form) :
    form ≠ [] := by
  cases isForm with
  | bare allowed => simp
  | plus space => simp
  | escaped octets => exact octets.ne_nil String.utf8EncodeChar_ne_nil

theorem TextForm.ne_nil
    {reserved : List Char}
    {text code : Text}
    (isForm : TextForm reserved text code)
    (nonempty : text ≠ []) :
    code ≠ [] := by
  cases isForm with
  | nil => exact absurd rfl nonempty
  | cons head tail => simp [head.ne_nil]

end Component

/-! ## Encodings of queries -/

open Component

/-- A piece of a query is a form of a key, an equals sign, and a form of a
value. -/
def PairForm (pair : Text × Text) (piece : Text) : Prop :=
  ∃ key value, piece = key ++ '=' :: value ∧
    TextForm keyReserved pair.1 key ∧ TextForm valueReserved pair.2 value

/-- A query consists of forms of the pairs between ampersands. -/
def QueryForm (pairs : List (Text × Text)) (query : Text) : Prop :=
  ∃ pieces, List.Forall₂ PairForm pairs pieces ∧
    query = ['&'].intercalate pieces

theorem PairForm.ampersand_not_mem
    {pair : Text × Text}
    {piece : Text}
    (isForm : PairForm pair piece) :
    '&' ∉ piece := by
  obtain ⟨key, value, rfl, keyForm, valueForm⟩ := isForm
  have notInKey : '&' ∉ key :=
    keyForm.not_mem isMark_ampersand (by simp [keyReserved, valueReserved])
  have notInValue : '&' ∉ value :=
    valueForm.not_mem isMark_ampersand (by simp [valueReserved])
  simp [notInKey, notInValue]

/-- A piece contributes the pair of which it is a form. -/
theorem PairForm.ofPiece?_eq_some
    {pair : Text × Text}
    {piece : Text}
    (isForm : PairForm pair piece)
    (nonempty : pair.1 ≠ []) :
    Item.ofPiece? piece = some (.parameter pair.1 pair.2) := by
  obtain ⟨key, value, rfl, keyForm, valueForm⟩ := isForm
  have notInKey : '=' ∉ key :=
    keyForm.not_mem isMark_equals (by simp [keyReserved])
  have keyDecoded : decode key = .ok pair.1 :=
    keyForm.decode_eq_ok (List.subset_cons_self _ _)
  have valueDecoded : decode value = .ok pair.2 :=
    valueForm.decode_eq_ok (List.Subset.refl _)
  unfold Item.ofPiece?
  rw [Text.before_append_mark notInKey, Text.after_append_mark notInKey,
    if_neg (keyForm.ne_nil nonempty), keyDecoded, valueDecoded]

/-- The query that contributes the given pairs and leaves nothing out. -/
def ofPairs (pairs : List (Text × Text)) : Query :=
  ⟨pairs.map fun pair => .parameter pair.1 pair.2⟩

@[simp] theorem pairs_ofPairs (pairs : List (Text × Text)) :
    (ofPairs pairs).pairs = pairs := by
  induction pairs with
  | nil => rfl
  | cons pair pairs inductionHypothesis =>
      exact congrArg (pair :: ·) inductionHypothesis

@[simp] theorem failures_ofPairs (pairs : List (Text × Text)) :
    (ofPairs pairs).failures = [] := by
  induction pairs with
  | nil => rfl
  | cons pair pairs inductionHypothesis => exact inductionHypothesis

/-- The pieces of an encoded query contribute its pairs in order. -/
theorem filterMap_ofPiece?_of_forall₂
    {pairs : List (Text × Text)}
    {pieces : List Text}
    (forms : List.Forall₂ PairForm pairs pieces)
    (keys : ∀ pair ∈ pairs, pair.1 ≠ []) :
    pieces.filterMap Item.ofPiece? = (ofPairs pairs).items := by
  induction forms with
  | nil => rfl
  | cons head tail inductionHypothesis =>
      obtain ⟨key, laterKeys⟩ := List.forall_mem_cons.mp keys
      rw [List.filterMap_cons_some (head.ofPiece?_eq_some key),
        inductionHypothesis laterKeys]
      rfl

theorem splitOn_of_forall₂
    {pairs : List (Text × Text)}
    {pieces : List Text}
    (forms : List.Forall₂ PairForm pairs pieces)
    (nonempty : pairs ≠ []) :
    (['&'].intercalate pieces).splitOn '&' = pieces := by
  apply List.splitOn_intercalate
  · clear nonempty
    induction forms with
    | nil => simp
    | cons head tail inductionHypothesis =>
        exact List.forall_mem_cons.mpr
          ⟨head.ampersand_not_mem, inductionHypothesis⟩
  · rintro rfl
    exact nonempty (List.forall₂_nil_right_iff.mp forms)

/-- An encoded query holds an equals sign. -/
theorem QueryForm.equals_mem
    {pairs : List (Text × Text)}
    {query : Text}
    (isForm : QueryForm pairs query)
    (nonempty : pairs ≠ []) :
    '=' ∈ query := by
  obtain ⟨pieces, forms, rfl⟩ := isForm
  cases forms with
  | nil => exact absurd rfl nonempty
  | @cons pair piece pairs pieces head tail =>
      obtain ⟨key, value, rfl, _⟩ := head
      cases pieces with
      | nil => simp
      | cons next pieces => simp [List.intercalate_cons_cons]

/-- The query of a URI gives back the pairs of which it is an encoding. -/
theorem ofUri_eq_ofPairs
    {pairs : List (Text × Text)}
    {query : Text}
    (isForm : QueryForm pairs query)
    (nonempty : pairs ≠ [])
    (keys : ∀ pair ∈ pairs, pair.1 ≠ [])
    {path : Text}
    (noMark : '?' ∉ path) :
    ofUri (path ++ '?' :: query) = ofPairs pairs := by
  have equals := isForm.equals_mem nonempty
  have guarded : '?' ∈ path ++ '?' :: query ∧ '=' ∈ path ++ '?' :: query := by
    simp [equals]
  obtain ⟨pieces, forms, rfl⟩ := isForm
  unfold ofUri ofText
  rw [if_pos guarded, Text.after_append_mark noMark,
    splitOn_of_forall₂ forms nonempty, filterMap_ofPiece?_of_forall₂ forms keys]

/-- Reading a URI undoes every form encoding of every list of pairs: the pairs
come back in order with their repeats, nothing is left out, and each key has the
value of its last pair. -/
theorem read_queryForm
    {path : Text}
    (noMark : '?' ∉ path)
    {pairs : List (Text × Text)}
    (nonempty : pairs ≠ [])
    (keys : ∀ pair ∈ pairs, pair.1 ≠ [])
    {query : Text}
    (isForm : QueryForm pairs query) :
    ∃ decoded, read (path ++ '?' :: query) = pure decoded ∧
      decoded.pairs = pairs ∧ decoded.failures = [] ∧
      ∀ key value, decoded.bindings.value? key = some value ↔
        Bindings.IsLastValue pairs key value := by
  refine ⟨ofPairs pairs, ?_, pairs_ofPairs pairs, failures_ofPairs pairs, ?_⟩
  · rw [read, ofUri_eq_ofPairs isForm nonempty keys noMark, warnings,
      failures_ofPairs]
    rfl
  · intro key value
    rw [bindings, pairs_ofPairs]
    exact Bindings.value?_ofPairs_eq_some_iff pairs key value

theorem read_queryForm_respelled :
    QueryForm
        [("a&".toList, "é 1".toList), ("a&".toList, "é=".toList)]
        "a%26=%C3%a9+1&%61%26=é=".toList ∧
      ∃ decoded, read ("/a".toList ++ '?' :: "a%26=%C3%a9+1&%61%26=é=".toList) =
          pure decoded ∧
        decoded.pairs =
          [("a&".toList, "é 1".toList), ("a&".toList, "é=".toList)] ∧
        decoded.failures = [] ∧
        ∀ key value, decoded.bindings.value? key = some value ↔
          Bindings.IsLastValue
            [("a&".toList, "é 1".toList), ("a&".toList, "é=".toList)]
            key value := by
  have ampersand : CharForm keyReserved '&' "%26".toList :=
    .escaped (.cons ⟨'2', '6', rfl, by decide, by decide⟩ .nil)
  have letter : CharForm keyReserved 'a' "%61".toList :=
    .escaped (.cons ⟨'6', '1', rfl, by decide, by decide⟩ .nil)
  have accented : CharForm valueReserved 'é' "%C3%a9".toList :=
    .escaped (.cons ⟨'C', '3', rfl, by decide, by decide⟩
      (.cons ⟨'a', '9', rfl, by decide, by decide⟩ .nil))
  have bare : ∀ {reserved} char, char ∉ reserved ->
      CharForm reserved char [char] := fun _ => .bare
  have firstPair : PairForm ("a&".toList, "é 1".toList)
      "a%26=%C3%a9+1".toList :=
    ⟨_, _, rfl, .cons (bare 'a' (by decide)) (.cons ampersand .nil),
      .cons accented (.cons (.plus rfl) (.cons (bare '1' (by decide)) .nil))⟩
  have secondPair : PairForm ("a&".toList, "é=".toList) "%61%26=é=".toList :=
    ⟨"%61%26".toList, "é=".toList, rfl, .cons letter (.cons ampersand .nil),
      .cons (bare 'é' (by decide)) (.cons (bare '=' (by decide)) .nil)⟩
  have isForm : QueryForm
      [("a&".toList, "é 1".toList), ("a&".toList, "é=".toList)]
      "a%26=%C3%a9+1&%61%26=é=".toList :=
    ⟨_, .cons firstPair (.cons secondPair .nil), rfl⟩
  exact ⟨isForm, read_queryForm (by decide) (by decide) (by decide) isForm⟩

end Query
end RequestKey
