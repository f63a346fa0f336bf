import RegisterAssembly.Proofs.PayloadRange

/-!
# Lines and columns

A token stands on the line that is one more than the number of newlines before it in the text, and
its column is counted from the character after the last of them.  The same newlines are counted a
second time, as tokens, when the label declarations get their payloads.  Both counts agree: the
payload of a label is the number of lines above it.
-/

namespace RegisterAssembly

/-! ## Where a line begins -/

namespace Text

/-- The line of the character at an index begins at another index: directly after the last newline
that comes before, or at the beginning of the text. -/
structure LineBegins (chars : List Char) (index begin : Nat) : Prop where
  before : begin ≤ index
  opened : begin = 0 ∨ chars[begin - 1]? = some '\n'
  unbroken : '\n' ∉ (chars.take index).drop begin

/-- A text ends with its last line, which comes directly after a newline if anything comes before
it. -/
theorem exists_append_lastLine (chars : List Char) :
    ∃ front, chars = front ++ lastLine chars ∧ (front = [] ∨ front.getLast? = some '\n') ∧
      '\n' ∉ lastLine chars := by
  induction chars using List.reverseRecOn with
  | nil => exact ⟨[], rfl, .inl rfl, List.not_mem_nil⟩
  | append_singleton chars c ih =>
      rw [lastLine_append_singleton]
      split
      · rename_i newline
        subst newline
        exact ⟨chars ++ ['\n'], by simp, .inr (by simp), List.not_mem_nil⟩
      · rename_i other
        obtain ⟨front, parted, opened, unbroken⟩ := ih
        refine ⟨front, ?_, opened, ?_⟩
        · rw [← List.append_assoc, ← parted]
        · rw [List.mem_append, List.mem_singleton, not_or]
          exact ⟨unbroken, Ne.symm other⟩

theorem firstLine_eq_takeWhile (chars : List Char) :
    firstLine chars = chars.takeWhile (· ≠ '\n') := by
  induction chars with
  | nil => rfl
  | cons c chars ih =>
      obtain ⟨part, parts, split⟩ := List.exists_cons_of_ne_nil (lines_ne_nil chars)
      simp only [firstLine, lines, splitOn_cons] at ih split ⊢
      by_cases newline : c = '\n'
      · simp [newline]
      · simp only [newline, if_false, split, List.modifyHead_cons, List.head_cons] at ih ⊢
        simp [newline, ih]

/-- A line goes on over a part of the text without a newline. -/
theorem takeWhile_append_of_unbroken {front : List Char} (unbroken : '\n' ∉ front)
    (back : List Char) :
    (front ++ back).takeWhile (· ≠ '\n') = front ++ back.takeWhile (· ≠ '\n') := by
  apply List.takeWhile_append_of_pos
  intro c member
  rw [decide_eq_true_eq]
  rintro rfl
  exact unbroken member

/-- The line on which one part of a text ends and the next one begins, by its indices. -/
theorem exists_lineBegins (front back : List Char) :
    ∃ begin, LineBegins (front ++ back) front.length begin ∧
      front.length = begin + (lastLine front).length ∧
      ((front ++ back).drop begin).takeWhile (· ≠ '\n') = lastLine front ++ firstLine back := by
  obtain ⟨before, parted, opened, unbroken⟩ := exists_append_lastLine front
  have counted := congrArg List.length parted
  rw [List.length_append] at counted
  refine ⟨before.length, ⟨?_, ?_, ?_⟩, counted, ?_⟩
  · omega
  · rcases opened with rfl | newline
    · exact .inl rfl
    · right
      rw [List.getLast?_eq_getElem?] at newline
      have inside : before.length - 1 < before.length := (List.getElem?_eq_some_iff.mp newline).1
      rw [parted, List.append_assoc, List.getElem?_append_left inside]
      exact newline
  · rw [List.take_left' rfl, parted, List.drop_left' rfl]
    exact unbroken
  · have drop : (front ++ back).drop before.length = lastLine front ++ back := by
      conv_lhs => rw [parted]
      rw [List.append_assoc, List.drop_left' rfl]
    rw [drop, takeWhile_append_of_unbroken unbroken, firstLine_eq_takeWhile]

namespace LineBegins

variable {chars : List Char} {index begin : Nat}

/-- The text from the beginning of a line, parted at the index. -/
theorem drop_eq (begins : LineBegins chars index begin) :
    chars.drop begin = (chars.take index).drop begin ++ chars.drop index := by
  have inside := begins.before
  rw [List.drop_take]
  conv_lhs => rw [← List.take_append_drop (index - begin) (chars.drop begin)]
  rw [List.drop_drop, Nat.add_sub_cancel' inside]

/-- There are as many newlines before an index as before the line that it is on. -/
theorem count_take (begins : LineBegins chars index begin) :
    (chars.take begin).count '\n' = (chars.take index).count '\n' := by
  conv_rhs => rw [← List.take_append_drop begin (chars.take index)]
  rw [List.count_append, List.count_eq_zero_of_not_mem begins.unbroken, List.take_take,
    Nat.min_eq_left begins.before, Nat.add_zero]

/-- What is left of a line from an index on. -/
theorem drop_line (begins : LineBegins chars index begin) (inside : index ≤ chars.length) :
    ((chars.drop begin).takeWhile (· ≠ '\n')).drop (index - begin) =
      (chars.drop index).takeWhile (· ≠ '\n') := by
  have length : ((chars.take index).drop begin).length = index - begin := by
    rw [List.length_drop, List.length_take, Nat.min_eq_left inside]
  rw [begins.drop_eq, takeWhile_append_of_unbroken begins.unbroken, List.drop_left' length]

end LineBegins

end Text

/-! ## Scanned tokens -/

namespace Listing

variable {source file : String} {token : Token}

/-- The line of a scanned token begins where its column is counted from. -/
theorem exists_lineBegins_of_mem_scan (member : token ∈ (scan source file).tokens) :
    ∃ begin, Text.LineBegins (untilNul source) token.start begin ∧
      token.column = (token.start : Int) - begin + 1 ∧
      ((untilNul source).drop begin).takeWhile (· ≠ '\n') =
        Text.lastLine ((untilNul source).take token.start) ++
          Text.firstLine ((untilNul source).drop token.start) := by
  obtain ⟨_, column⟩ := (Token.standsIn_iff _ _).mp (standsIn_of_mem_scan member).1
  have stops := ((decomposition_of_cut (cut_scan source file)).slices token member).2.1
  have inside : ((untilNul source).take token.start).length = token.start := by
    rw [Token.stop] at stops
    rw [List.length_take]
    omega
  obtain ⟨begin, begins, counted, line⟩ :=
    Text.exists_lineBegins ((untilNul source).take token.start) ((untilNul source).drop token.start)
  rw [List.take_append_drop] at begins line
  rw [inside] at begins counted
  refine ⟨begin, begins, ?_, line⟩
  rw [column]
  omega

/-- A scanned token is on the line after as many newlines as there are before it in the text, and as
many line breaks among the tokens before it.  Its column is counted from the beginning of that line,
tokens further on have later places, and a run gives a label declaration the number of lines above
it. -/
theorem scan_places (source file : String) :
    (∀ (index : Nat) (token : Token), (scan source file).tokens[index]? = some token →
      token.offset = token.start ∧ token.start ≤ (untilNul source).length ∧
      token.line = 1 + ((untilNul source).take token.start).count '\n' ∧
      (∃ begin, Text.LineBegins (untilNul source) token.start begin ∧
        token.column = (token.start : Int) - begin + 1) ∧
      breaks ((scan source file).tokens.take index) = token.line - 1 ∧
      ∀ annotator : Annotator, token.kind = .labelDeclaration →
        (annotator.run (scan source file)).listing.tokens[index]? =
          some (token.resolve (token.line - 1))) ∧
    (scan source file).tokens.Pairwise Token.Precedes := by
  refine ⟨?_, pairwise_precedes_scan source file⟩
  intro index token found
  have member := List.mem_of_getElem? found
  obtain ⟨offset, stops, _⟩ := (decomposition_of_cut (cut_scan source file)).slices token member
  obtain ⟨line, _⟩ := (Token.standsIn_iff _ _).mp (standsIn_of_mem_scan member).1
  obtain ⟨begin, begins, column, _⟩ := exists_lineBegins_of_mem_scan member
  have counted : (breaks ((scan source file).tokens.take index) : Int) = token.line - 1 := by
    rw [breaks_take_scan found, line, Int.add_sub_cancel]
  refine ⟨offset, Nat.le_trans (Nat.le_add_right _ _) stops, ?_, ⟨begin, begins, column⟩, counted,
    ?_⟩
  · rw [line, Int.add_comm]
  · intro annotator declaration
    rw [Annotator.getElem?_run_of_declaration found declaration, counted]

/-- A label on the second line, after a tab and a form feed, before a NUL character. -/
theorem scan_places_sample :
    (scan "a: 1\r\n\t\x0Cb:\x00" unnamedFile).tokens[3]? =
        some ⟨.labelDeclaration, "b:", 8, 2, 3, unnamedFile, 0, false⟩ ∧
      (({ target := {} } : Annotator).run
        (scan "a: 1\r\n\t\x0Cb:\x00" unnamedFile)).listing.tokens[3]? =
          some ⟨.labelDeclaration, "b:", 8, 2, 3, unnamedFile, 1, true⟩ := by
  have found : (scan "a: 1\r\n\t\x0Cb:\x00" unnamedFile).tokens[3]? =
      some ⟨.labelDeclaration, "b:", 8, 2, 3, unnamedFile, 0, false⟩ := by
    decide +kernel
  obtain ⟨_, _, _, _, _, annotated⟩ := (scan_places _ _).1 3 _ found
  exact ⟨found, annotated _ rfl⟩

end Listing
end RegisterAssembly
