/-!
# Escaped text

A text is shown on one line of printable ASCII by escaping backslashes, line breaks, tabs and every
character outside printable ASCII.  Two hexadecimal digits follow `\x`, four follow `\u` and eight
follow `\U`; the shortest form that holds the code point is used.
-/

namespace RegisterAssembly
namespace Text

/-- The lower-case hexadecimal digit of a value below sixteen. -/
def hexDigit (value : Nat) : Char :=
  if value < 10 then Char.ofNat (0x30 + value) else Char.ofNat (0x61 + (value - 10))

/-- The `width` last hexadecimal digits of a number, most significant first. -/
def hexDigits : Nat → Nat → List Char
  | 0, _ => []
  | width + 1, n => hexDigits width (n / 16) ++ [hexDigit (n % 16)]

/-- The escape of a character by its code point. -/
def codeEscape (c : Char) : List Char :=
  if c.toNat < 0x100 then '\\' :: 'x' :: hexDigits 2 c.toNat
  else if c.toNat < 0x10000 then '\\' :: 'u' :: hexDigits 4 c.toNat
  else '\\' :: 'U' :: hexDigits 8 c.toNat

/-- The escape of a backslash, line break, carriage return or tab. -/
def namedEscape? (c : Char) : Option (List Char) :=
  if c = '\\' then some ['\\', '\\']
  else if c = '\n' then some ['\\', 'n']
  else if c = '\r' then some ['\\', 'r']
  else if c = '\t' then some ['\\', 't']
  else none

/-- How one character is shown. -/
def escapeChar (c : Char) : List Char :=
  match namedEscape? c with
  | some escape => escape
  | none => if 0x20 ≤ c.toNat ∧ c.toNat < 0x7F then [c] else codeEscape c

/-- How a text is shown on one line of printable ASCII. -/
def escaped (chars : List Char) : List Char :=
  chars.flatMap escapeChar

end Text
end RegisterAssembly
