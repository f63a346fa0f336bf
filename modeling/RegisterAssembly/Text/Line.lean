import RegisterAssembly.Text.Split

/-!
# Lines

A text is split at every newline.  Files are read with a carriage return, alone or before a newline,
standing for a newline.
-/

namespace RegisterAssembly
namespace Text

/-- The lines of a text, without their newlines. -/
def lines (chars : List Char) : List (List Char) :=
  splitOn '\n' chars

/-- Replace each carriage return, with the newline that may follow it, by one newline. -/
def unifyNewlines : List Char → List Char
  | '\r' :: '\n' :: chars => '\n' :: unifyNewlines chars
  | c :: chars => (if c = '\r' then '\n' else c) :: unifyNewlines chars
  | [] => []

theorem lines_ne_nil (chars : List Char) : lines chars ≠ [] :=
  splitOn_ne_nil '\n' chars

end Text
end RegisterAssembly
