/-!
# Ranges of code points

Character properties of Unicode are given as tables of ranges of code points.
-/

namespace RegisterAssembly
namespace Text

/-- The first and the last code point of a range. -/
abbrev CodeRange := Nat × Nat

/-- Whether some range of a table holds the character. -/
def inRanges (table : Array CodeRange) (c : Char) : Bool :=
  table.any fun range => range.1 ≤ c.toNat && c.toNat ≤ range.2

end Text
end RegisterAssembly
