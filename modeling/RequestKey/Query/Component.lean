import RequestKey.Text.Basic

/-!
# Form-encoded components

A key or a value of a query is form-encoded: a plus sign stands for a space, and
a percent sign with two hexadecimal digits stands for an octet of a UTF-8 code.
Every other character stands for itself.

A component is read as stretches.  Characters inside ASCII, among them the
escapes, form stretches of octets, and each maximal stretch has to be valid
UTF-8 by itself.  Characters outside ASCII need no decoding.
-/

namespace RequestKey
namespace Query

/-- Why a component cannot be decoded. -/
inductive Reason
  /-- Some percent sign is not followed by two hexadecimal digits. -/
  | malformedEscape
  /-- The octets that the component denotes are not the code of a text. -/
  | invalidUtf8
  deriving DecidableEq, Repr

/-- The words for a reason. -/
def Reason.message : Reason -> String
  | .malformedEscape => "malformed percent-escape"
  | .invalidUtf8 => "escaped bytes are not valid UTF-8"

namespace Component

/-- The value of a hexadecimal digit of either case. -/
def hexValue? (char : Char) : Option Nat :=
  if '0' ≤ char ∧ char ≤ '9' then some (char.toNat - '0'.toNat)
  else if 'a' ≤ char ∧ char ≤ 'f' then some (char.toNat - 'a'.toNat + 10)
  else if 'A' ≤ char ∧ char ≤ 'F' then some (char.toNat - 'A'.toNat + 10)
  else none

/-- The octet that two hexadecimal digits denote. -/
def octet? (high low : Char) : Option UInt8 :=
  match hexValue? high, hexValue? low with
  | some highValue, some lowValue => some (UInt8.ofNat (16 * highValue + lowValue))
  | _, _ => none

/-- A part of a component that is decoded by itself. -/
inductive Stretch
  /-- Octets denoted by characters inside ASCII. -/
  | octets (bytes : List UInt8)
  /-- A character outside ASCII. -/
  | plain (char : Char)
  deriving DecidableEq, Repr

namespace Stretch

/-- Put an octet in front, into the first stretch if that holds octets. -/
def prependOctet (octet : UInt8) : List Stretch -> List Stretch
  | .octets bytes :: stretches => .octets (octet :: bytes) :: stretches
  | stretches => .octets [octet] :: stretches

/-- Put a character that starts no escape in front. -/
def prependChar (char : Char) (stretches : List Stretch) : List Stretch :=
  if char = '+' then prependOctet 0x20 stretches
  else if char.toNat < 0x80 then prependOctet (UInt8.ofNat char.toNat) stretches
  else .plain char :: stretches

/-- The text of a stretch, if its octets are the code of one. -/
def text? : Stretch -> Option Text
  | .octets bytes => (String.fromUTF8? ⟨⟨bytes⟩⟩).map String.toList
  | .plain char => some [char]

/-- The text of stretches, if each has one. -/
def joinedText? : List Stretch -> Option Text
  | [] => some []
  | stretch :: stretches => do
      let first <- stretch.text?
      let rest <- joinedText? stretches
      return first ++ rest

end Stretch

/-- The maximal stretches of a component, if every percent sign starts an
escape. -/
def stretches? : Text -> Option (List Stretch)
  | [] => some []
  | '%' :: high :: low :: text => do
      let octet <- octet? high low
      let stretches <- stretches? text
      return Stretch.prependOctet octet stretches
  | char :: text =>
      if char = '%' then none
      else (stretches? text).map (Stretch.prependChar char)

/-- The text that a component stands for.  A malformed escape is reported
whatever else is wrong. -/
def decode (component : Text) : Except Reason Text :=
  match stretches? component with
  | none => .error .malformedEscape
  | some stretches =>
      match Stretch.joinedText? stretches with
      | none => .error .invalidUtf8
      | some text => .ok text

end Component
end Query
end RequestKey
