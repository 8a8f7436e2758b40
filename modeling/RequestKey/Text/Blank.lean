import RequestKey.Text.CodeRange

/-!
# Blank characters

The blank characters are the twenty-nine that separate words or lines in
Unicode, with the four ASCII information separators among them.  Zero-width
characters are not blank.
-/

namespace RequestKey
namespace Text

/-- The code points of the blank characters. -/
def blankTable : CodeTable where
  ranges :=
    [⟨0x0009, 0x000D⟩, ⟨0x001C, 0x0020⟩, ⟨0x0085, 0x0085⟩, ⟨0x00A0, 0x00A0⟩,
      ⟨0x1680, 0x1680⟩, ⟨0x2000, 0x200A⟩, ⟨0x2028, 0x2029⟩, ⟨0x202F, 0x202F⟩,
      ⟨0x205F, 0x205F⟩, ⟨0x3000, 0x3000⟩]
  ascending := rfl

/-- Whether a character is blank. -/
def isBlank (char : Char) : Bool :=
  blankTable.contains char.toNat

/-- A text without the blanks at its start and at its end. -/
def trim (text : Text) : Text :=
  ((text.dropWhile isBlank).reverse.dropWhile isBlank).reverse

@[simp] theorem trim_nil : trim [] = [] := rfl

end Text
end RequestKey
