/-!
# Splitting at a separator

A text is split at every occurrence of a separator, so that it has one part more than it has
separators.
-/

namespace RegisterAssembly
namespace Text

/-- The parts of a text between its separators, the empty ones included. -/
def splitOn (separator : Char) (chars : List Char) : List (List Char) :=
  chars.foldr
    (fun c parts => if c = separator then [] :: parts else parts.modifyHead (c :: ·))
    [[]]

@[simp]
theorem splitOn_nil (separator : Char) : splitOn separator [] = [[]] := rfl

theorem splitOn_cons (separator c : Char) (chars : List Char) :
    splitOn separator (c :: chars) =
      if c = separator then [] :: splitOn separator chars
      else (splitOn separator chars).modifyHead (c :: ·) := rfl

theorem length_splitOn (separator : Char) (chars : List Char) :
    (splitOn separator chars).length = chars.count separator + 1 := by
  induction chars with
  | nil => rfl
  | cons c chars ih =>
      rw [splitOn_cons]
      split
      · rename_i same
        rw [List.length_cons, ih, same, List.count_cons_self]
      · rename_i other
        rw [List.length_modifyHead, ih, List.count_cons_of_ne other]

theorem splitOn_ne_nil (separator : Char) (chars : List Char) :
    splitOn separator chars ≠ [] := by
  intro none
  have counted := length_splitOn separator chars
  rw [none, List.length_nil] at counted
  omega

/-- A text without separators is its only part. -/
theorem splitOn_of_not_mem {separator : Char} {chars : List Char} (absent : separator ∉ chars) :
    splitOn separator chars = [chars] := by
  induction chars with
  | nil => rfl
  | cons c chars ih =>
      rw [List.mem_cons, not_or] at absent
      rw [splitOn_cons, if_neg (Ne.symm absent.1), ih absent.2, List.modifyHead_cons]

end Text
end RegisterAssembly
