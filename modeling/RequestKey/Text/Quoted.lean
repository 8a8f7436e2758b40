import RequestKey.Text.Printable

/-!
# Quoted texts

A message shows a text in quotes.  Single quotes are used unless the text holds
a single quote and no double quote.  The backslash and the quote in use are
escaped by a backslash, tab, newline and carriage return have escapes of their
own, and every other unprintable character is written by its code point in
hexadecimal.
-/

namespace RequestKey
namespace Text

/-- The quote that encloses a text in a message. -/
def quoteMark (text : Text) : Char :=
  if '\'' ∈ text ∧ '"' ∉ text then '"' else '\''

/-- The digits of a code point in hexadecimal, with zeros in front up to the
given width. -/
def hexDigits (width code : Nat) : Text :=
  (Nat.toDigits 16 code).leftpad width '0'

/-- The escape of a character by its code point, in the shortest of three
widths that holds it. -/
def codeEscape (char : Char) : Text :=
  let code := char.toNat
  if code < 0x100 then '\\' :: 'x' :: hexDigits 2 code
  else if code < 0x10000 then '\\' :: 'u' :: hexDigits 4 code
  else '\\' :: 'U' :: hexDigits 8 code

/-- How a character is written between the given quotes. -/
def quotedChar (quote char : Char) : Text :=
  if char = quote ∨ char = '\\' then ['\\', char]
  else if char = '\t' then ['\\', 't']
  else if char = '\n' then ['\\', 'n']
  else if char = '\r' then ['\\', 'r']
  else if isPrintable char then [char]
  else codeEscape char

/-- A text as a message shows it. -/
def quoted (text : Text) : Text :=
  let quote := quoteMark text
  quote :: text.flatMap (quotedChar quote) ++ [quote]

/-- A text as a message shows it, ready to be joined to the message's words. -/
def shown (text : Text) : String :=
  String.ofList (quoted text)

end Text
end RequestKey
