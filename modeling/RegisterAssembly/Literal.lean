import RegisterAssembly.Decimal

/-!
# Integer literals

A literal is unsigned and its spelling decides its base: `0x` or `0X` before hexadecimal digits, a
leading `0` before octal digits, a nonzero decimal digit otherwise.  The whole text has to be
digits of that base, so `10abc`, `08` and a bare `0x` are no literals.
-/

namespace RegisterAssembly

/-- The largest value of a 32-bit word. -/
def wordMax : Nat := 0xFFFFFFFF

/-- The base in which the digits of a literal are read. -/
inductive Radix where
  | octal
  | decimal
  | hexadecimal
  deriving DecidableEq, Repr

namespace Radix

/-- The number of digits of the base. -/
def base : Radix → Nat
  | octal => 8
  | decimal => 10
  | hexadecimal => 16

/-- The ASCII characters that are digits of the base. -/
def isDigit : Radix → Char → Bool
  | octal, c => '0' ≤ c && c ≤ '7'
  | decimal, c => '0' ≤ c && c ≤ '9'
  | hexadecimal, c =>
      ('0' ≤ c && c ≤ '9') || ('a' ≤ c && c ≤ 'f') || ('A' ≤ c && c ≤ 'F')

end Radix

/-- The value of a hexadecimal digit; other characters have no meaning here. -/
def digitValue (c : Char) : Nat :=
  if c ≤ '9' then c.toNat - 0x30
  else if c ≤ 'F' then c.toNat - 0x41 + 10
  else c.toNat - 0x61 + 10

/-- A literal without the characters that only mark its base. -/
structure Literal where
  /-- The base that the spelling selects. -/
  radix : Radix
  /-- The digits, most significant first; an octal literal may have none beside its leading `0`. -/
  digits : List Char
  deriving DecidableEq, Repr

namespace Literal

/-- Recognise a literal that takes up the whole text. -/
def read? : List Char → Option Literal
  | [] => none
  | '0' :: mark :: digits =>
      if mark = 'x' ∨ mark = 'X' then
        if digits ≠ [] ∧ digits.all Radix.hexadecimal.isDigit then
          some ⟨.hexadecimal, digits⟩
        else
          none
      else if (mark :: digits).all Radix.octal.isDigit then
        some ⟨.octal, mark :: digits⟩
      else
        none
  | first :: digits =>
      if first = '0' then
        some ⟨.octal, []⟩
      else if (first :: digits).all Radix.decimal.isDigit then
        some ⟨.decimal, first :: digits⟩
      else
        none

/-- Positional value of digits in a base, continued from the value of the digits before them. -/
def positional (base : Nat) (digits : List Char) (value : Nat) : Nat :=
  digits.foldl (fun value digit => value * base + digitValue digit) value

/-- The number that the literal denotes. -/
def value (literal : Literal) : Nat :=
  positional literal.radix.base literal.digits 0

/-- Decimal literals of more than `Decimal.maxDigits` digits are not converted.  The other bases
have no limit, because their digits are those of the binary numeral. -/
def Convertible (literal : Literal) : Prop :=
  literal.radix = .decimal → literal.digits.length ≤ Decimal.maxDigits

instance (literal : Literal) : Decidable literal.Convertible :=
  inferInstanceAs (Decidable (_ → _))

/-- The value of a text that is a literal, and `none` for any other text. -/
def evaluate (text : List Char) : Except DigitLimit (Option Nat) :=
  match read? text with
  | none => .ok none
  | some literal =>
      if literal.Convertible then .ok (some literal.value)
      else .error (.reading literal.digits.length)

end Literal
end RegisterAssembly
