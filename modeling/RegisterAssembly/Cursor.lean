/-!
# Cursor positions

A cursor counts the characters that lie behind it, the line it stands on and its column in that
line.  Lines end at newlines only; every other character, a tab or a carriage return included, is
one column wide.
-/

namespace RegisterAssembly

/-- A position between two characters of a source. -/
structure Cursor where
  offset : Nat := 0
  line : Nat := 1
  column : Nat := 1
  deriving DecidableEq, Repr

namespace Cursor

/-- The position after one more character. -/
def step (cursor : Cursor) (c : Char) : Cursor :=
  if c = '\n' then
    ⟨cursor.offset + 1, cursor.line + 1, 1⟩
  else
    ⟨cursor.offset + 1, cursor.line, cursor.column + 1⟩

/-- The position after some more characters. -/
def past (cursor : Cursor) (chars : List Char) : Cursor :=
  chars.foldl step cursor

@[simp]
theorem past_nil (cursor : Cursor) : cursor.past [] = cursor := rfl

@[simp]
theorem past_cons (cursor : Cursor) (c : Char) (chars : List Char) :
    cursor.past (c :: chars) = (cursor.step c).past chars := rfl

theorem past_append (cursor : Cursor) (left right : List Char) :
    cursor.past (left ++ right) = (cursor.past left).past right :=
  List.foldl_append

@[simp]
theorem offset_step (cursor : Cursor) (c : Char) :
    (cursor.step c).offset = cursor.offset + 1 := by
  unfold step
  split <;> rfl

theorem offset_past (cursor : Cursor) (chars : List Char) :
    (cursor.past chars).offset = cursor.offset + chars.length := by
  induction chars generalizing cursor with
  | nil => rfl
  | cons c chars ih =>
      rw [past_cons, ih, offset_step, List.length_cons]
      omega

end Cursor
end RegisterAssembly
