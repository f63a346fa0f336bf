import RegisterAssembly.Text.Escaped
import RegisterAssembly.Text.Printable

/-!
# Quoted text

A text is quoted between single quotes, or between double quotes if it holds a single quote and no
double one.  The quote in use is escaped, and so is every character that cannot be shown as itself.
-/

namespace RegisterAssembly
namespace Text

/-- The quote that surrounds a text. -/
def quoteFor (chars : List Char) : Char :=
  if chars.contains '\x27' && !chars.contains '\x22' then '\x22' else '\x27'

/-- How one character is shown between two quotes. -/
def quoteChar (quote c : Char) : List Char :=
  if c = quote then ['\\', c]
  else
    match namedEscape? c with
    | some escape => escape
    | none => if isPrintable c then [c] else codeEscape c

/-- The quoted form of a text. -/
def quoted (text : String) : String :=
  let quote := quoteFor text.toList
  String.ofList (quote :: text.toList.flatMap (quoteChar quote) ++ [quote])

end Text
end RegisterAssembly
