/-!
# Decimal numerals

Integers are written with the least number of decimal digits and a leading minus sign when they are
negative.  Reading and writing both stop at a fixed number of digits, so that no conversion takes
time quadratic in the size of an untrusted text.
-/

namespace RegisterAssembly

/-- A decimal conversion that was refused because the numeral is too long. -/
inductive DigitLimit where
  /-- A text of `count` digits was to be read. -/
  | reading (count : Nat)
  /-- An integer with too many digits was to be written. -/
  | writing
  deriving DecidableEq, Repr

namespace Decimal

/-- The largest number of digits that are read or written. -/
def maxDigits : Nat := 4300

/-- The digits of a natural number, most significant first. -/
def digits (n : Nat) : List Char :=
  Nat.toDigits 10 n

/-- The decimal text of an integer of any size. -/
def text : Int → String
  | .ofNat n => String.ofList (digits n)
  | .negSucc n => String.ofList ('-' :: digits (n + 1))

/-- The least number with more than `maxDigits` digits. -/
@[irreducible]
def writingLimit : Nat :=
  Nat.pow 10 maxDigits

/-- The integers with at most `maxDigits` digits. -/
def Writable (n : Int) : Prop :=
  n.natAbs < writingLimit

instance (n : Int) : Decidable (Writable n) :=
  inferInstanceAs (Decidable (_ < _))

/-- The decimal text of an integer, unless it has too many digits. -/
def text? (n : Int) : Except DigitLimit String :=
  if Writable n then .ok (text n) else .error .writing

theorem text?_of_writable {n : Int} (writable : Writable n) : text? n = .ok (text n) :=
  if_pos writable

end Decimal

namespace DigitLimit

/-- The sentence that reports the refused conversion. -/
def message : DigitLimit → String
  | reading count =>
      "Exceeds the limit (" ++ Decimal.text Decimal.maxDigits ++
        " digits) for integer string conversion: value has " ++ Decimal.text count ++
        " digits; use sys.set_int_max_str_digits() to increase the limit"
  | writing =>
      "Exceeds the limit (" ++ Decimal.text Decimal.maxDigits ++
        " digits) for integer string conversion; " ++
        "use sys.set_int_max_str_digits() to increase the limit"

end DigitLimit
end RegisterAssembly
