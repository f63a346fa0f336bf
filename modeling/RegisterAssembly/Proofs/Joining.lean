import RegisterAssembly.Proofs.Annotation
import RegisterAssembly.Proofs.Position

/-!
# Scanning joined texts

At a line break the scanner forgets all but its position.  So the tokens of two texts joined by a
line break are those of the first text, with a token for the line break where that text ended, and
those of the second text further down.  The line breaks of a text are as many as its newlines.
-/

namespace RegisterAssembly

namespace Cursor

/-- The position after `chars` more characters, on `lines` more lines. -/
def moved (chars lines : Nat) (cursor : Cursor) : Cursor :=
  { cursor with offset := cursor.offset + chars, line := cursor.line + lines }

theorem step_moved (chars lines : Nat) (cursor : Cursor) (c : Char) :
    (cursor.moved chars lines).step c = (cursor.step c).moved chars lines := by
  simp only [step, moved]
  split <;> simp only [mk.injEq, and_true] <;> omega

theorem past_moved (chars lines : Nat) (cursor : Cursor) (text : List Char) :
    (cursor.moved chars lines).past text = (cursor.past text).moved chars lines := by
  induction text generalizing cursor with
  | nil => rfl
  | cons c text ih => rw [past_cons, past_cons, step_moved, ih]

/-- After a line break a text continues as at its start, only further down. -/
theorem past_append_newline (text : List Char) :
    ({} : Cursor).past (text ++ ['\n']) =
      ({} : Cursor).moved (text.length + 1) (text.count '\n' + 1) := by
  have offset := offset_past {} text
  have line := line_past {} text
  rw [past_append, past_cons, past_nil, step, if_pos rfl, offset, line]
  simp only [moved, mk.injEq, and_true]
  omega

end Cursor

namespace Token

/-- The token after `chars` more characters, on `lines` more lines. -/
def moved (chars lines : Nat) (token : Token) : Token :=
  { token with offset := token.offset + chars, line := token.line + lines }

@[simp]
theorem kind_moved (chars lines : Nat) (token : Token) :
    (token.moved chars lines).kind = token.kind := rfl

@[simp]
theorem moved_zero (token : Token) : token.moved 0 0 = token := by
  simp [moved]

end Token

namespace Lexeme

theorem toToken_moved (file : String) (chars lines : Nat) (cursor : Cursor) (lexeme : Lexeme) :
    lexeme.toToken file (cursor.moved chars lines) =
      (lexeme.toToken file cursor).moved chars lines := by
  simp [toToken, Token.moved, Cursor.moved]

theorem place_moved (file : String) (chars lines : Nat) (cursor : Cursor) (lexemes : List Lexeme) :
    place file (cursor.moved chars lines) lexemes =
      (place file cursor lexemes).map (Token.moved chars lines) := by
  induction lexemes generalizing cursor with
  | nil => rfl
  | cons lexeme lexemes ih =>
      rw [place, place, List.map_cons, Cursor.past_moved, Cursor.past_moved, toToken_moved, ih]

theorem place_append (file : String) (cursor : Cursor) (front back : List Lexeme) :
    place file cursor (front ++ back) =
      place file cursor front ++
        place file (cursor.past (front.flatMap fun lexeme => lexeme.gap ++ lexeme.chars)) back := by
  induction front generalizing cursor with
  | nil => rfl
  | cons lexeme front ih =>
      rw [List.cons_append, place, place, ih, List.cons_append, List.flatMap_cons,
        Cursor.past_append, Cursor.past_append]

theorem takeWhile_append_cons {α : Type} {p : α → Bool} {a : α} (stops : p a = false)
    (front back : List α) : (front ++ a :: back).takeWhile p = front.takeWhile p := by
  induction front with
  | nil => simp [stops]
  | cons b front ih => by_cases holds : p b <;> simp [holds, ih]

theorem dropWhile_append_cons {α : Type} {p : α → Bool} {a : α} (stops : p a = false)
    (front back : List α) : (front ++ a :: back).dropWhile p = front.dropWhile p ++ a :: back := by
  induction front with
  | nil => simp [stops]
  | cons b front ih => by_cases holds : p b <;> simp [holds, ih]

/-- No lexeme goes past a line break. -/
theorem take_append_newline (c : Char) (chars back : List Char) :
    take c (chars ++ '\n' :: back) =
      ((take c chars).1, (take c chars).2.1, (take c chars).2.2 ++ '\n' :: back) := by
  have stops : isWordChar '\n' = false := by decide
  unfold take
  rw [takeWhile_append_cons stops, dropWhile_append_cons stops]
  split
  · cases rest : chars.dropWhile isWordChar with
    | nil => rfl
    | cons next rest =>
        by_cases colon : next = ':'
        · subst colon
          rfl
        · simp [colon]
  · split <;> rfl

/-- The lexemes before a line break are those of the text before it. -/
theorem exists_split_append_newline (front back : List Char) :
    ∃ lexemes gap, split front = lexemes ++ [⟨gap, .endOfInput, []⟩] ∧
      split (front ++ '\n' :: back) = lexemes ++ ⟨gap, .newline, ['\n']⟩ :: split back := by
  have stops : isBlank '\n' = false := by decide
  have skipped := takeWhile_append_cons stops front back
  have rest := dropWhile_append_cons stops front back
  cases start : front.dropWhile isBlank with
  | nil =>
      rw [start, List.nil_append] at rest
      refine ⟨[], front.takeWhile isBlank, split_of_blank start, ?_⟩
      rw [split_of_start rest, skipped]
      rfl
  | cons c chars =>
      have shorter : (take c chars).2.2.length < front.length := by
        have dropped := length_dropWhile_le isBlank front
        have kept := take_rest_length_le c chars
        rw [start] at dropped
        simp only [List.length_cons] at dropped
        omega
      -- The first lexeme is the same before a line break, and what comes after it is shorter.
      obtain ⟨lexemes, gap, before, whole⟩ :=
        exists_split_append_newline (take c chars).2.2 back
      rw [start, List.cons_append] at rest
      refine ⟨⟨front.takeWhile isBlank, (take c chars).1, (take c chars).2.1⟩ :: lexemes, gap,
        ?_, ?_⟩
      · rw [split_of_start start, before, List.cons_append]
      · rw [split_of_start rest, skipped, take_append_newline, whole, List.cons_append]
termination_by front.length

end Lexeme

/-! ## Tokens of joined texts -/

theorem untilNul_of_not_mem {source : String} (noNul : '\x00' ∉ source.toList) :
    untilNul source = source.toList := by
  rw [untilNul, List.takeWhile_eq_self_iff]
  intro c member
  rw [decide_eq_true_iff]
  rintro rfl
  exact noNul member

theorem untilNul_append_newline {first second : String} (noNul : '\x00' ∉ first.toList)
    (noNul' : '\x00' ∉ second.toList) :
    untilNul (first ++ "\n" ++ second) = first.toList ++ '\n' :: second.toList := by
  rw [untilNul_of_not_mem, String.toList_append, String.toList_append, List.append_assoc]
  · rfl
  · rw [String.toList_append, String.toList_append, List.mem_append, List.mem_append]
    rintro ((member | member) | member)
    · exact noNul member
    · exact absurd member (by decide)
    · exact noNul' member

namespace Listing

variable {first second : String} (file : String)

/-- The tokens of two texts joined by a line break. -/
theorem exists_tokens_scan_append_newline (noNul : '\x00' ∉ first.toList)
    (noNul' : '\x00' ∉ second.toList) :
    ∃ tokens last, (scan first file).tokens = tokens ++ [last] ∧ last.kind = .endOfInput ∧
      last.reset = last ∧
      (scan (first ++ "\n" ++ second) file).tokens =
        tokens ++ { last with kind := .newline, text := "\n" } ::
          (scan second file).tokens.map
            (Token.moved (first.length + 1) (first.toList.count '\n' + 1)) := by
  obtain ⟨lexemes, gap, front, whole⟩ :=
    Lexeme.exists_split_append_newline first.toList second.toList
  have before :
      (lexemes.flatMap fun lexeme => lexeme.gap ++ lexeme.chars) ++ gap = first.toList := by
    have parted := Lexeme.flatMap_split first.toList
    rw [front, List.flatMap_append] at parted
    simpa using parted
  have after : ((({} : Cursor).past (lexemes.flatMap fun lexeme => lexeme.gap ++ lexeme.chars)).past
      gap).past ['\n'] =
        ({} : Cursor).moved (first.length + 1) (first.toList.count '\n' + 1) := by
    rw [← Cursor.past_append, ← Cursor.past_append, ← List.append_assoc, before,
      Cursor.past_append_newline, String.length_toList]
  refine ⟨Lexeme.place file {} lexemes, Lexeme.toToken file
    ((({} : Cursor).past (lexemes.flatMap fun lexeme => lexeme.gap ++ lexeme.chars)).past gap)
      ⟨gap, .endOfInput, []⟩, ?_, rfl, rfl, ?_⟩
  · rw [scan, untilNul_of_not_mem noNul, front, Lexeme.place_append]
    rfl
  · rw [scan, untilNul_append_newline noNul noNul', whole, Lexeme.place_append]
    simp only [Lexeme.place]
    rw [after, Lexeme.place_moved, scan, untilNul_of_not_mem noNul']
    rfl

theorem length_scan_append_newline (noNul : '\x00' ∉ first.toList)
    (noNul' : '\x00' ∉ second.toList) :
    (scan (first ++ "\n" ++ second) file).tokens.length =
      (scan first file).tokens.length + (scan second file).tokens.length := by
  obtain ⟨tokens, last, front, _, _, whole⟩ :=
    exists_tokens_scan_append_newline file noNul noNul'
  rw [front, whole, List.length_append, List.length_append, List.length_cons, List.length_map,
    List.length_singleton]
  omega

end Listing

/-! ## Line breaks and quoted lines -/

theorem newline_not_mem_of_continues {chars : List Char}
    (continues : ∀ c ∈ chars, ContinuesWord c) : '\n' ∉ chars := by
  intro member
  rcases continues _ member with alphanum | underscore
  · cases alphanum
  · cases underscore

theorem newline_not_mem_of_isWord {word : List Char} (isWord : IsWord word) : '\n' ∉ word := by
  obtain ⟨first, rest, rfl, letter, continues⟩ := isWord
  apply newline_not_mem_of_continues
  rw [List.forall_mem_cons]
  exact ⟨.inl (by simp [Char.isAlphanum, letter]), continues⟩

/-- A lexeme holds a newline only if it is a line break. -/
theorem Spelling.count_newline {kind : Kind} {chars : List Char} (spelled : Spelling kind chars) :
    chars.count '\n' = if kind = .newline then 1 else 0 := by
  cases spelled with
  | labelDeclaration isWord =>
      rw [List.count_append, List.count_eq_zero_of_not_mem (newline_not_mem_of_isWord isWord)]
      rfl
  | register register =>
      exact List.count_eq_zero_of_not_mem
        (newline_not_mem_of_isWord (Lexeme.isWord_of_isRegisterName register))
  | instruction isWord _ => exact List.count_eq_zero_of_not_mem (newline_not_mem_of_isWord isWord)
  | @immediate first rest digit continues =>
      apply List.count_eq_zero_of_not_mem
      apply newline_not_mem_of_continues
      rw [List.forall_mem_cons]
      exact ⟨.inl (by simp [Char.isAlphanum, digit]), continues⟩
  | comma => rfl
  | newline => rfl
  | invalid _ _ _ _ noNewline => exact List.count_eq_zero_of_not_mem (by simpa using noNewline.symm)

theorem count_newline_of_blank {gap : List Char} (blank : ∀ c ∈ gap, c ∈ blanks) :
    gap.count '\n' = 0 := by
  apply List.count_eq_zero_of_not_mem
  intro member
  exact absurd (blank _ member) (by decide)

theorem breaks_cons (token : Token) (tokens : List Token) :
    breaks (token :: tokens) = (if token.kind = .newline then 1 else 0) + breaks tokens := by
  rw [breaks, List.countP_cons, Nat.add_comm, breaks]
  simp

/-- A text has as many tokens for line breaks as it has newlines. -/
theorem breaks_of_cut {start : Nat} {chars : List Char} {tokens : List Token}
    (cut : Cut start chars tokens) : breaks tokens = chars.count '\n' := by
  induction cut with
  | done blank kind _ _ =>
      rw [breaks_cons, kind, count_newline_of_blank blank]
      rfl
  | more blank spelled _ _ _ ih =>
      rw [breaks_cons, ih, List.count_append, List.count_append, count_newline_of_blank blank,
        spelled.count_newline, Nat.zero_add]

theorem Listing.breaks_scan (source file : String) :
    breaks (Listing.scan source file).tokens = (untilNul source).count '\n' :=
  breaks_of_cut (Listing.cut_scan source file)

/-- A line break between two texts separates their lines. -/
theorem Text.lines_append_newline (front back : List Char) :
    lines (front ++ '\n' :: back) = lines front ++ lines back := by
  have broken : lines ('\n' :: back) = [] :: lines back := by
    rw [lines, splitOn_cons, if_pos rfl, ← lines]
  rw [lines_append, broken, List.modifyHead_cons, List.append_nil, lastLine, List.append_cons,
    List.dropLast_concat_getLast]

namespace Listing

variable {source file : String} {token : Token}

theorem untilNul_ne_nil_of_mem_scan (member : token ∈ (scan source file).tokens)
    (other : token.kind ≠ .endOfInput) : untilNul source ≠ [] := by
  intro empty
  rw [scan, empty, Lexeme.split_of_blank rfl] at member
  cases List.mem_singleton.mp member
  exact other rfl

/-- Where the lines of a text stand among those of another, its tokens quote the same lines. -/
theorem line?_scan_of_lines {whole : String} (before after : List (List Char))
    (split : Text.lines (untilNul whole) = before ++ Text.lines (untilNul source) ++ after)
    (nonempty : untilNul whole ≠ []) (member : token ∈ (scan source file).tokens)
    (other : token.kind ≠ .endOfInput) :
    (scan whole file).line? (token.line + before.length) = (scan source file).line? token.line := by
  obtain ⟨line, _⟩ := (Token.standsIn_iff _ _).mp (standsIn_of_mem_scan member).1
  have first : 1 ≤ token.line := by omega
  have positive : 1 ≤ token.line + before.length := by omega
  have shifted : (token.line + before.length - 1).toNat =
      before.length + (token.line - 1).toNat := by omega
  have inside : (token.line - 1).toNat < (Text.lines (untilNul source)).length := by
    have counted := ((untilNul source).take_sublist token.start).count_le '\n'
    rw [Text.length_lines]
    omega
  rw [line?_scan, line?_scan, if_neg nonempty,
    if_neg (untilNul_ne_nil_of_mem_scan member other), if_pos positive, if_pos first, split,
    shifted, List.append_assoc, List.getElem?_append_right (Nat.le_add_right _ _),
    Nat.add_sub_cancel_left, List.getElem?_append_left inside]

end Listing
end RegisterAssembly
