import RegisterAssembly.Text.CodeRange

/-!
# White space

The white space of Unicode, together with the four ASCII separators of records, groups, units and
files.
-/

namespace RegisterAssembly
namespace Text

/-- The code points that count as white space. -/
def whiteSpaceRanges : Array CodeRange := #[
  (0x9, 0xD), (0x1C, 0x20), (0x85, 0x85), (0xA0, 0xA0), (0x1680, 0x1680), (0x2000, 0x200A),
  (0x2028, 0x2029), (0x202F, 0x202F), (0x205F, 0x205F), (0x3000, 0x3000)
]

/-- Whether a character is white space in the widest sense. -/
def isWhiteSpace (c : Char) : Bool :=
  inRanges whiteSpaceRanges c

/-- Drop the characters of a class from both ends of a text. -/
def trim (isBlank : Char → Bool) (chars : List Char) : List Char :=
  ((chars.dropWhile isBlank).reverse.dropWhile isBlank).reverse

end Text
end RegisterAssembly
