/-!
# Edit distance

The number of single-character insertions, deletions and substitutions between two texts is found
row by row.  The row of a text holds its distances to every beginning of the other text, so only one
row is kept, and the shorter text is laid along it.  Where two characters agree the diagonal cell is
taken over.
-/

namespace RegisterAssembly
namespace Text

/-- The cells after `left` in the row below `above`, where `c` is the character that the row adds
and `word` is what remains of the text along the row. -/
def rowCells (c : Char) (left : Nat) : List Char → List Nat → List Nat
  | w :: word, diagonal :: up :: above =>
      let cell := if c = w then diagonal else 1 + min diagonal (min up left)
      cell :: rowCells c cell word (up :: above)
  | _, _ => []

/-- The row below `above`, one character further into the text that runs down. -/
def nextRow (word : List Char) (above : List Nat) (c : Char) : List Nat :=
  let first := above.headD 0 + 1
  first :: rowCells c first word above

/-- The distances of the text `down` to every beginning of `word`. -/
def lastRow (down word : List Char) : List Nat :=
  down.foldl (nextRow word) (List.range (word.length + 1))

/-- The edit distance of two texts. -/
def editDistance (a b : List Char) : Nat :=
  if a.length < b.length then
    (lastRow b a).getLastD 0
  else
    (lastRow a b).getLastD 0

end Text
end RegisterAssembly
