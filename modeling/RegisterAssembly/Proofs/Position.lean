import Mathlib.Data.List.Induction
import RegisterAssembly.Diagnostic.Layout
import RegisterAssembly.Proofs.Decomposition
import RegisterAssembly.Proofs.Splitting

/-!
# The places of tokens

The scanner counts lines and columns as it goes.  Here they are read off the text before a token:
its line is the number of newlines there, and its column is the length of the last line there, each
counted from one.  So the line that a diagnostic quotes reaches up to the token, a caret always
has room under it, and no two tokens of a source are at the same place.
-/

namespace RegisterAssembly

namespace Text

/-- The first line of a text. -/
def firstLine (chars : List Char) : List Char :=
  (lines chars).head (lines_ne_nil chars)

/-- The last line of a text. -/
def lastLine (chars : List Char) : List Char :=
  (lines chars).getLast (lines_ne_nil chars)

theorem lines_append (front back : List Char) :
    lines (front ++ back) =
      (lines front).dropLast ++ (lines back).modifyHead (lastLine front ++ ·) :=
  splitOn_append '\n' front back

theorem length_lines (chars : List Char) : (lines chars).length = chars.count '\n' + 1 :=
  length_splitOn '\n' chars

/-- The line on which one part of a text ends and the next one begins. -/
theorem getElem?_lines_append (front back : List Char) :
    (lines (front ++ back))[front.count '\n']? = some (lastLine front ++ firstLine back) := by
  have counted : (lines front).dropLast.length = front.count '\n' := by
    rw [List.length_dropLast, length_lines, Nat.add_sub_cancel]
  obtain ⟨part, parts, split⟩ := List.exists_cons_of_ne_nil (lines_ne_nil back)
  rw [lines_append, List.getElem?_append_right (Nat.le_of_eq counted), counted, Nat.sub_self]
  simp [firstLine, split]

theorem lastLine_append_singleton (chars : List Char) (c : Char) :
    lastLine (chars ++ [c]) = if c = '\n' then [] else lastLine chars ++ [c] := by
  simp only [lastLine, lines_append]
  by_cases newline : c = '\n'
  · simp [lines, splitOn_cons, newline]
  · simp [lines, splitOn_cons, newline]

end Text

/-! ## Cursors -/

namespace Cursor

/-- One cursor stands before another, by line and column. -/
def Precedes (left right : Cursor) : Prop :=
  left.line < right.line ∨ left.line = right.line ∧ left.column < right.column

theorem line_past (cursor : Cursor) (chars : List Char) :
    (cursor.past chars).line = cursor.line + chars.count '\n' := by
  induction chars generalizing cursor with
  | nil => rfl
  | cons c chars ih =>
      rw [past_cons, ih, step, List.count_cons]
      by_cases newline : c = '\n'
      · simp only [newline, beq_self_eq_true, if_true]
        omega
      · simp [newline]

/-- The column after a text is one more than the length of its last line. -/
theorem column_past (chars : List Char) :
    (({} : Cursor).past chars).column = (Text.lastLine chars).length + 1 := by
  induction chars using List.reverseRecOn with
  | nil => rfl
  | append_singleton chars c ih =>
      rw [past_append, past_cons, past_nil, step, Text.lastLine_append_singleton]
      split
      · rfl
      · rw [List.length_append, List.length_singleton, ih]

theorem Precedes.trans {left middle right : Cursor} (first : left.Precedes middle)
    (second : middle.Precedes right) : left.Precedes right := by
  unfold Precedes at *
  omega

theorem precedes_step (cursor : Cursor) (c : Char) : cursor.Precedes (cursor.step c) := by
  rw [Precedes, step]
  split
  · exact .inl (Nat.lt_succ_self _)
  · exact .inr ⟨rfl, Nat.lt_succ_self _⟩

/-- A cursor that has moved on stands further back. -/
theorem precedes_past (cursor : Cursor) {chars : List Char} (nonempty : chars ≠ []) :
    cursor.Precedes (cursor.past chars) := by
  induction chars generalizing cursor with
  | nil => exact absurd rfl nonempty
  | cons c chars ih =>
      rw [past_cons]
      cases chars with
      | nil => exact cursor.precedes_step c
      | cons next rest => exact (cursor.precedes_step c).trans (ih _ (by simp))

end Cursor

/-! ## Tokens of a source -/

namespace Token

/-- A token of a text whose place is that of its first character. -/
def StandsIn (chars : List Char) (token : Token) : Prop :=
  let cursor := ({} : Cursor).past (chars.take token.start)
  token.line = cursor.line ∧ token.column = cursor.column

theorem standsIn_iff (chars : List Char) (token : Token) :
    token.StandsIn chars ↔
      token.line = (chars.take token.start).count '\n' + 1 ∧
        token.column = (Text.lastLine (chars.take token.start)).length + 1 := by
  simp only [StandsIn, Cursor.line_past, Cursor.column_past, Int.natCast_add, Int.natCast_one]
  rw [Int.add_comm]

/-- One token is placed before another, by line and column. -/
def Precedes (earlier later : Token) : Prop :=
  earlier.line < later.line ∨ earlier.line = later.line ∧ earlier.column < later.column

theorem precedes_of_standsIn {chars : List Char} {earlier later : Token}
    (standsEarlier : earlier.StandsIn chars) (standsLater : later.StandsIn chars)
    (ordered : earlier.start < later.start) (inside : later.start ≤ chars.length) :
    earlier.Precedes later := by
  have between : (chars.take later.start).drop earlier.start ≠ [] := by
    rw [ne_eq, List.drop_eq_nil_iff, List.length_take]
    omega
  have front : (chars.take later.start).take earlier.start = chars.take earlier.start := by
    rw [List.take_take, Nat.min_eq_left (Nat.le_of_lt ordered)]
  have moved := Cursor.precedes_past (({} : Cursor).past (chars.take earlier.start)) between
  rw [← front, ← Cursor.past_append, List.take_append_drop, front] at moved
  obtain ⟨line, column⟩ := standsEarlier
  obtain ⟨line', column'⟩ := standsLater
  simp only [Precedes, line, line', column, column', Int.ofNat_lt, Int.natCast_inj]
  exact moved

end Token

namespace Lexeme

theorem standsIn_of_mem_place (file : String) (before : List Char) (lexemes : List Lexeme) :
    ∀ token ∈ place file (({} : Cursor).past before) lexemes,
      token.StandsIn (before ++ lexemes.flatMap fun lexeme => lexeme.gap ++ lexeme.chars) ∧
        token.file = file := by
  induction lexemes generalizing before with
  | nil => simp [place]
  | cons lexeme lexemes ih =>
      have later := ih (before ++ lexeme.gap ++ lexeme.chars)
      rw [Cursor.past_append, Cursor.past_append] at later
      rw [place, List.forall_mem_cons]
      constructor
      · have started : (toToken file ((({} : Cursor).past before).past lexeme.gap) lexeme).start =
            (before ++ lexeme.gap).length := by
          rw [← Cursor.past_append, Token.start, toToken, Int.toNat_natCast, Cursor.offset_past]
          exact Nat.zero_add _
        simp only [Token.StandsIn, started]
        rw [List.flatMap_cons, List.append_assoc, ← List.append_assoc, List.take_left',
          Cursor.past_append]
        · exact ⟨⟨rfl, rfl⟩, rfl⟩
        · rfl
      · simpa only [List.flatMap_cons, List.append_assoc] using later

end Lexeme

namespace Listing

variable {source file : String} {token : Token}

/-- Scanned tokens have the places of their first characters. -/
theorem standsIn_of_mem_scan (member : token ∈ (scan source file).tokens) :
    token.StandsIn (untilNul source) ∧ token.file = file := by
  have placed := Lexeme.standsIn_of_mem_place file [] (Lexeme.split (untilNul source)) token member
  rwa [List.nil_append, Lexeme.flatMap_split] at placed

theorem line?_scan (source file : String) (line : Int) :
    (scan source file).line? line =
      if untilNul source = [] then none
      else if 1 ≤ line then
        ((Text.lines (untilNul source))[(line - 1).toNat]?).map String.ofList
      else none := by
  by_cases empty : untilNul source = []
  · simp [line?, scan, empty]
  · simp [line?, scan, openLines, empty]

/-- The line of a scanned token is the one that its first character is on. -/
theorem line?_of_mem_scan (member : token ∈ (scan source file).tokens)
    (nonempty : untilNul source ≠ []) :
    (scan source file).line? token.line =
      some (String.ofList
        (Text.lastLine ((untilNul source).take token.start) ++
          Text.firstLine ((untilNul source).drop token.start))) := by
  obtain ⟨line, _⟩ := (Token.standsIn_iff _ _).mp (standsIn_of_mem_scan member).1
  have positive : 1 ≤ token.line := by omega
  have index : (token.line - 1).toNat = ((untilNul source).take token.start).count '\n' := by
    rw [line, Int.add_sub_cancel, Int.toNat_natCast]
  have found := Text.getElem?_lines_append ((untilNul source).take token.start)
    ((untilNul source).drop token.start)
  rw [List.take_append_drop] at found
  rw [line?_scan, if_neg nonempty, if_pos positive, index, found]
  rfl

/-- A diagnostic about a scanned token can be laid out if its place can be written. -/
theorem layoutFault?_of_mem_scan (member : token ∈ (scan source file).tokens) :
    Diagnostic.layoutFault? token.place ((scan source file).line? token.line) =
      if token.place.Writable then none else some (.digits .writing) := by
  rw [Diagnostic.layoutFault?]
  split
  · by_cases nonempty : untilNul source = []
    · rw [line?_scan, if_pos nonempty]
      rfl
    · rw [line?_of_mem_scan member nonempty, Option.bind_some]
      apply Diagnostic.caretFault?_of_le
      obtain ⟨_, column⟩ := (Token.standsIn_iff _ _).mp (standsIn_of_mem_scan member).1
      change token.column ≤ _
      rw [column, String.length_ofList, List.length_append]
      omega
  · rfl

/-- The places of scanned tokens, from one token to any later one, strictly increase. -/
theorem pairwise_precedes_scan (source file : String) :
    (scan source file).tokens.Pairwise Token.Precedes := by
  have whole := decomposition_of_cut (cut_scan source file)
  have precedes {earlier later : Token} (among : earlier ∈ (scan source file).tokens)
      (among' : later ∈ (scan source file).tokens) (nonempty : earlier.text ≠ "")
      (ordered : earlier.stop ≤ later.start) : earlier.Precedes later := by
    have stops := (whole.slices later among').2.1
    have forward : later.start ≤ later.stop := Nat.le_add_right _ _
    have positive : 0 < earlier.text.length := by
      rwa [← String.length_toList, List.length_pos_iff, ne_eq, String.toList_eq_nil_iff]
    have shifted : earlier.stop = earlier.start + earlier.text.length := rfl
    apply Token.precedes_of_standsIn (standsIn_of_mem_scan among).1
      (standsIn_of_mem_scan among').1 <;> omega
  obtain ⟨front, last, tokens, _, _, _, others⟩ := whole.ends
  have ordered := whole.ordered
  rw [tokens] at precedes ordered ⊢
  rw [List.pairwise_append] at ordered ⊢
  refine ⟨?_, List.pairwise_singleton _ _, ?_⟩
  · apply ordered.1.imp_of_mem
    intro earlier later member member'
    exact precedes (List.mem_append_left _ member) (List.mem_append_left _ member')
      (others earlier member).2
  · intro earlier member later member'
    exact precedes (List.mem_append_left _ member) (List.mem_append_right _ member')
      (others earlier member).2 (ordered.2.2 earlier member later member')

end Listing
end RegisterAssembly
