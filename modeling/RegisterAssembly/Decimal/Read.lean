import RegisterAssembly.Decimal
import RegisterAssembly.Text.DecimalDigit
import RegisterAssembly.Text.WhiteSpace

/-!
# Reading decimal integers

An integer may have blanks around it, a sign, and underscores between its digits, one at a time.
The digits may be those of any script, and there may be at most `Decimal.maxDigits` of them.
-/

namespace RegisterAssembly
namespace Decimal

/-- The blanks around a number: white space, without the ASCII separators. -/
def isBlank (c : Char) : Bool :=
  Text.isWhiteSpace c && !(0x1C ≤ c.toNat && c.toNat ≤ 0x1F)

/-- The values of digits with single underscores between them. -/
def digitValues? : List Char → Option (List Nat)
  | [] => none
  | [c] => (Text.decimalValue? c).map ([·])
  | c :: '_' :: chars =>
      match Text.decimalValue? c, digitValues? chars with
      | some value, some values => some (value :: values)
      | _, _ => none
  | c :: chars =>
      match Text.decimalValue? c, digitValues? chars with
      | some value, some values => some (value :: values)
      | _, _ => none

/-- The number that a text of digits denotes. -/
def readDigits? (chars : List Char) : Option Nat :=
  match digitValues? chars with
  | some values =>
      if values.length ≤ maxDigits then
        some (values.foldl (fun total value => total * 10 + value) 0)
      else
        none
  | none => none

/-- The integer that a text denotes. -/
def read? (text : String) : Option Int :=
  match Text.trim isBlank text.toList with
  | '-' :: chars => (readDigits? chars).map fun magnitude => -(magnitude : Int)
  | '+' :: chars => (readDigits? chars).map Int.ofNat
  | chars => (readDigits? chars).map Int.ofNat

end Decimal
end RegisterAssembly
