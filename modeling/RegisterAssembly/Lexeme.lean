import RegisterAssembly.Token

/-!
# Lexemes

A source is cut into lexemes from left to right, each as long as possible, with the blanks before
it kept beside it.  Every character belongs to exactly one gap or lexeme.  The cut is total: a
character that starts no other lexeme is one by itself, of kind `Kind.invalid`, and the empty
lexeme of kind `Kind.endOfInput` closes the list.
-/

namespace RegisterAssembly

/-- A lexeme and the blanks before it. -/
structure Lexeme where
  /-- The blanks that were skipped. -/
  gap : List Char
  kind : Kind
  /-- The characters of the lexeme. -/
  chars : List Char
  deriving DecidableEq, Repr

namespace Lexeme

/-- The characters that separate lexemes and mean nothing: space, tab, carriage return, vertical tab
and form feed. -/
def isBlank (c : Char) : Bool :=
  c = ' ' || c = '\t' || c = '\r' || c = '\x0B' || c = '\x0C'

/-- The characters that start a word. -/
def isLetter (c : Char) : Bool :=
  ('a' ≤ c && c ≤ 'z') || ('A' ≤ c && c ≤ 'Z')

/-- The characters that start a number. -/
def isDigit (c : Char) : Bool :=
  '0' ≤ c && c ≤ '9'

/-- The characters that continue a word or a number. -/
def isWordChar (c : Char) : Bool :=
  isLetter c || isDigit c || c = '_'

/-- Whether a word names a register: the letter r in either case before one or more digits. -/
def isRegisterWord : List Char → Bool
  | first :: digits => (first = 'r' || first = 'R') && digits ≠ [] && digits.all isDigit
  | [] => false

/-- The kind of a word that no colon follows. -/
def wordKind (word : List Char) : Kind :=
  if isRegisterWord word then .register else .instruction

/-- The kind of a character that starts neither a word nor a number. -/
def singleKind (c : Char) : Kind :=
  if c = ',' then .comma else if c = '\n' then .newline else .invalid

/-- The kind and the characters of the lexeme that starts with `c`, and the characters after it. -/
def take (c : Char) (chars : List Char) : Kind × List Char × List Char :=
  if isLetter c then
    let word := c :: chars.takeWhile isWordChar
    match chars.dropWhile isWordChar with
    | ':' :: rest => (.labelDeclaration, word ++ [':'], rest)
    | rest => (wordKind word, word, rest)
  else if isDigit c then
    (.immediate, c :: chars.takeWhile isWordChar, chars.dropWhile isWordChar)
  else
    (singleKind c, [c], chars)

theorem length_dropWhile_le (p : Char → Bool) (chars : List Char) :
    (chars.dropWhile p).length ≤ chars.length :=
  (List.dropWhile_suffix p).length_le

theorem take_rest_length_le (c : Char) (chars : List Char) :
    (take c chars).2.2.length ≤ chars.length := by
  have dropped := length_dropWhile_le isWordChar chars
  unfold take
  split
  · split
    · rename_i rest found
      rw [found] at dropped
      simp only [List.length_cons] at dropped
      simp only
      omega
    · exact dropped
  · split
    · exact dropped
    · exact Nat.le_refl _

/-- A lexeme and the characters after it make up the text. -/
theorem take_chars_append_rest (c : Char) (chars : List Char) :
    (take c chars).2.1 ++ (take c chars).2.2 = c :: chars := by
  have parted := List.takeWhile_append_dropWhile (p := isWordChar) (l := chars)
  unfold take
  split
  · split
    · rename_i rest found
      rw [found] at parted
      simp [parted]
    · simp [parted]
  · split <;> simp [parted]

/-- Cut a text into lexemes. -/
def split (chars : List Char) : List Lexeme :=
  match _start : chars.dropWhile isBlank with
  | [] => [⟨chars.takeWhile isBlank, .endOfInput, []⟩]
  | c :: rest =>
      let lexeme := take c rest
      ⟨chars.takeWhile isBlank, lexeme.1, lexeme.2.1⟩ :: split lexeme.2.2
termination_by chars.length
decreasing_by
  have dropped := length_dropWhile_le isBlank chars
  rw [_start] at dropped
  simp only [List.length_cons] at dropped
  have shorter := take_rest_length_le c rest
  omega

theorem split_of_blank {chars : List Char} (blank : chars.dropWhile isBlank = []) :
    split chars = [⟨chars.takeWhile isBlank, .endOfInput, []⟩] := by
  rw [split]
  split
  · rfl
  · rename_i start
    rw [blank] at start
    contradiction

theorem split_of_start {chars rest : List Char} {c : Char}
    (start : chars.dropWhile isBlank = c :: rest) :
    split chars =
      ⟨chars.takeWhile isBlank, (take c rest).1, (take c rest).2.1⟩ ::
        split (take c rest).2.2 := by
  rw [split]
  split
  · rename_i blank
    rw [start] at blank
    contradiction
  · rename_i found
    rw [start] at found
    obtain ⟨rfl, rfl⟩ := List.cons.inj found
    rfl

/-- Gaps and lexemes make up the text. -/
theorem flatMap_split (chars : List Char) :
    ((split chars).flatMap fun lexeme => lexeme.gap ++ lexeme.chars) = chars := by
  have parted := List.takeWhile_append_dropWhile (p := isBlank) (l := chars)
  cases start : chars.dropWhile isBlank with
  | nil =>
      rw [start] at parted
      simpa [split_of_blank start] using parted
  | cons c rest =>
      have shorter : (take c rest).2.2.length < chars.length := by
        have dropped := length_dropWhile_le isBlank chars
        have kept := take_rest_length_le c rest
        rw [start] at dropped
        simp only [List.length_cons] at dropped
        omega
      rw [split_of_start start, List.flatMap_cons, flatMap_split (take c rest).2.2,
        List.append_assoc, take_chars_append_rest, ← start, parted]
termination_by chars.length

end Lexeme
end RegisterAssembly
