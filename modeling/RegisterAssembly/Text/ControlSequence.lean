import RegisterAssembly.Text.Split

/-!
# Control sequences

A control sequence tells a terminal how to show the text after it: an escape character, an opening
bracket, any parameters, any intermediate characters and a final one.  All of these are printable
ASCII.  A text that is not meant for a terminal is written plain, that is without its control
sequences.
-/

namespace RegisterAssembly
namespace Text

/-- The character that starts a control sequence. -/
def escape : Char := '\x1B'

/-- The characters that may follow the bracket: digits and the marks between and before them. -/
def isParameter (c : Char) : Bool :=
  '0' ≤ c && c ≤ '?'

/-- The characters that may stand between the parameters and the last character. -/
def isIntermediate (c : Char) : Bool :=
  ' ' ≤ c && c ≤ '/'

/-- The characters that end a control sequence: the letters and the marks among them. -/
def endsControl (c : Char) : Bool :=
  '@' ≤ c && c ≤ '~'

/-- What comes after a control sequence, given what comes after its escape character; `none` if that
does not go on as a control sequence. -/
def afterControl? : List Char → Option (List Char)
  | '[' :: chars =>
      match (chars.dropWhile isParameter).dropWhile isIntermediate with
      | c :: rest => if endsControl c then some rest else none
      | [] => none
  | _ => none

/-- What is left of an escape character and the characters up to the next one. -/
def keepPlain (chars : List Char) : List Char :=
  (afterControl? chars).getD (escape :: chars)

/-- A text without its control sequences. -/
def plain (chars : List Char) : List Char :=
  match splitOn escape chars with
  | [] => []
  | start :: parts => start ++ parts.flatMap keepPlain

theorem plain_cons_of_ne {c : Char} (visible : c ≠ escape) (chars : List Char) :
    plain (c :: chars) = c :: plain chars := by
  obtain ⟨start, parts, cut⟩ := List.exists_cons_of_ne_nil (splitOn_ne_nil escape chars)
  rw [plain, plain, splitOn_cons, if_neg visible, cut]
  rfl

theorem plain_append_of_not_mem {front : List Char} (free : escape ∉ front) (back : List Char) :
    plain (front ++ back) = front ++ plain back := by
  induction front with
  | nil => rfl
  | cons c front ih =>
      rw [List.mem_cons, not_or] at free
      rw [List.cons_append, plain_cons_of_ne (Ne.symm free.1), ih free.2, List.cons_append]

end Text
end RegisterAssembly
