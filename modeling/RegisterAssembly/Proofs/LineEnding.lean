import RegisterAssembly.Proofs.Correspondence
import RegisterAssembly.Proofs.Independence

/-!
# Carriage returns before newlines

Lines may end with a carriage return and a newline or with a newline alone.  The scanner takes the
carriage return for a blank at the end of the line, and a file is read without it.  Both come to the
same: the tokens differ in their offsets and, where they are line breaks themselves, in their
columns, and the diagnostics differ in the carriage return at the end of the line that they quote.
-/

namespace RegisterAssembly

namespace Text

/-- Texts in which a newline comes directly after every carriage return. -/
def Paired (chars : List Char) : Prop :=
  ∀ index, chars[index]? = some '\r' → chars[index + 1]? = some '\n'

/-- The text without the carriage returns that a newline comes after. -/
def dropReturns : List Char → List Char
  | [] => []
  | c :: chars =>
      if c = '\r' ∧ chars.head? = some '\n' then dropReturns chars else c :: dropReturns chars

/-- The line without a carriage return at its end. -/
def chomp (line : List Char) : List Char :=
  if line.getLast? = some '\r' then line.dropLast else line

/-- The text without any carriage returns. -/
def unreturned (chars : List Char) : List Char :=
  chars.filter (· ≠ '\r')

theorem paired_cons {c : Char} {chars : List Char} :
    Paired (c :: chars) ↔ (c = '\r' → chars.head? = some '\n') ∧ Paired chars := by
  constructor
  · intro paired
    refine ⟨?_, fun index => paired (index + 1)⟩
    rintro rfl
    rw [List.head?_eq_getElem?]
    exact paired 0 rfl
  · rintro ⟨first, rest⟩ index found
    cases index with
    | zero =>
        rw [List.head?_eq_getElem?] at first
        exact first (Option.some.inj found)
    | succ index => exact rest index found

instance : (chars : List Char) → Decidable (Paired chars)
  | [] => isTrue (by simp [Paired])
  | _ :: chars =>
      have : Decidable (Paired chars) := instDecidablePaired chars
      decidable_of_iff _ paired_cons.symm

theorem Paired.of_append {front back : List Char} (paired : Paired (front ++ back)) :
    Paired back := by
  induction front with
  | nil => exact paired
  | cons c front ih => exact ih (paired_cons.mp paired).2

theorem unreturned_cons (c : Char) (chars : List Char) :
    unreturned (c :: chars) = if c = '\r' then unreturned chars else c :: unreturned chars := by
  by_cases carriage : c = '\r' <;> simp [unreturned, carriage]

theorem unreturned_of_not_mem {chars : List Char} (unbroken : '\r' ∉ chars) :
    unreturned chars = chars := by
  rw [unreturned, List.filter_eq_self]
  intro c member
  rw [decide_eq_true_iff]
  rintro rfl
  exact unbroken member

theorem dropReturns_of_paired {chars : List Char} (paired : Paired chars) :
    dropReturns chars = unreturned chars := by
  induction chars with
  | nil => rfl
  | cons c chars ih =>
      obtain ⟨first, rest⟩ := paired_cons.mp paired
      rw [dropReturns, unreturned_cons, ih rest]
      by_cases carriage : c = '\r'
      · rw [if_pos ⟨carriage, first carriage⟩, if_pos carriage]
      · rw [if_neg fun both => carriage both.1, if_neg carriage]

/-- Reading a file drops the carriage returns, too. -/
theorem unifyNewlines_of_paired {chars : List Char} (paired : Paired chars) :
    unifyNewlines chars = unreturned chars := by
  induction chars using unifyNewlines.induct with
  | case1 chars ih =>
      rw [unifyNewlines, ih (paired_cons.mp (paired_cons.mp paired).2).2]
      rfl
  | case2 c chars alone ih =>
      obtain ⟨first, rest⟩ := paired_cons.mp paired
      have other : c ≠ '\r' := by
        intro carriage
        obtain ⟨chars', split⟩ := List.head?_eq_some_iff.mp (first carriage)
        exact alone chars' carriage split
      rw [unifyNewlines, ih rest, unreturned_cons, if_neg other, if_neg other]
      exact alone
  | case3 => rfl

/-- The carriage returns of a text end its lines. -/
theorem lines_unreturned {chars : List Char} (paired : Paired chars) :
    lines (unreturned chars) = (lines chars).map chomp := by
  induction chars with
  | nil => rfl
  | cons c chars ih =>
      obtain ⟨first, rest⟩ := paired_cons.mp paired
      rw [unreturned_cons]
      by_cases carriage : c = '\r'
      · subst carriage
        obtain ⟨chars', rfl⟩ := List.head?_eq_some_iff.mp (first rfl)
        rw [if_pos rfl, ih rest]
        rfl
      · rw [if_neg carriage]
        obtain ⟨part, parts, split⟩ := List.exists_cons_of_ne_nil (lines_ne_nil chars)
        have chomped : chomp (c :: part) = c :: chomp part := by
          cases part with
          | nil => simp [chomp, carriage]
          | cons next part =>
              simp only [chomp, List.getLast?_cons_cons]
              split <;> rfl
        have mapped := ih rest
        simp only [lines] at split mapped ⊢
        rw [split] at mapped
        rw [splitOn_cons, splitOn_cons, mapped, split]
        by_cases newline : c = '\n'
        · simp [newline, chomp]
        · simp [newline, chomped]

theorem head?_unreturned {chars : List Char} (paired : Paired chars) :
    (unreturned chars).head? = chars.head? ∨ (unreturned chars).head? = some '\n' := by
  cases chars with
  | nil => exact .inl rfl
  | cons c chars =>
      rw [unreturned_cons]
      by_cases carriage : c = '\r'
      · obtain ⟨chars', rfl⟩ := List.head?_eq_some_iff.mp ((paired_cons.mp paired).1 carriage)
        right
        rw [if_pos carriage]
        rfl
      · left
        rw [if_neg carriage]
        rfl

theorem unreturned_eq_nil_iff {chars : List Char} (paired : Paired chars) :
    unreturned chars = [] ↔ chars = [] := by
  constructor
  · intro empty
    rw [← List.head?_eq_none_iff]
    rcases head?_unreturned paired with same | newline
    · rw [← same, empty]
      rfl
    · rw [empty] at newline
      cases newline
  · rintro rfl
    rfl

/-- A carriage return among blanks is the last of them, and the line ends after it. -/
theorem head?_of_mem_blank {gap rest : List Char} (paired : Paired (gap ++ rest))
    (blank : ∀ c ∈ gap, c ∈ blanks) (member : '\r' ∈ gap) : rest.head? = some '\n' := by
  induction gap with
  | nil => cases member
  | cons c gap ih =>
      rw [List.forall_mem_cons] at blank
      obtain ⟨first, paired⟩ := paired_cons.mp paired
      rcases List.mem_cons.mp member with carriage | member
      · have next := first carriage.symm
        cases gap with
        | nil => exact next
        | cons other gap =>
            cases next
            exact absurd (blank.2 '\n' List.mem_cons_self) (by decide)
      · exact ih paired blank.2 member

theorem paired_takeWhile {chars : List Char} (paired : Paired chars) :
    Paired (chars.takeWhile (· ≠ '\x00')) := by
  induction chars with
  | nil => exact paired
  | cons c chars ih =>
      obtain ⟨first, rest⟩ := paired_cons.mp paired
      by_cases nul : c = '\x00'
      · simp [nul, Paired]
      · rw [List.takeWhile_cons_of_pos (by simpa using nul), paired_cons]
        refine ⟨?_, ih rest⟩
        intro carriage
        obtain ⟨chars', rfl⟩ := List.head?_eq_some_iff.mp (first carriage)
        rfl

end Text

/-! ## Lexemes and tokens -/

theorem Spelling.eq_newline {chars : List Char} (spelled : Spelling .newline chars) :
    chars = ['\n'] := by
  cases spelled
  rfl

namespace Lexeme

open Text

/-- The lexeme without the carriage returns in the gap before it. -/
def unreturned (lexeme : Lexeme) : Lexeme :=
  { lexeme with gap := Text.unreturned lexeme.gap }

theorem skip_unreturned (chars : List Char) :
    (Text.unreturned chars).takeWhile isBlank = Text.unreturned (chars.takeWhile isBlank) ∧
      (Text.unreturned chars).dropWhile isBlank = Text.unreturned (chars.dropWhile isBlank) := by
  have blank : (fun c => !decide (c ≠ '\r') || isBlank c) = isBlank := by
    funext c
    by_cases carriage : c = '\r'
    · simp [carriage, isBlank]
    · simp [carriage]
  constructor
  · rw [Text.unreturned, List.takeWhile_filter, blank, Text.unreturned]
  · rw [Text.unreturned, List.dropWhile_filter, blank, Text.unreturned]

/-- No lexeme goes past a carriage return at the end of a line. -/
theorem take_unreturned {c : Char} {chars : List Char} (visible : isBlank c = false)
    (paired : Paired chars) :
    take c (Text.unreturned chars) =
      ((take c chars).1, (take c chars).2.1, Text.unreturned (take c chars).2.2) := by
  obtain ⟨spelled, longest⟩ := spelling_take visible chars
  have parted := take_chars_append_rest c chars
  obtain ⟨first, body, text, _⟩ := exists_of_spelling spelled
  rw [text, List.cons_append] at parted
  obtain ⟨rfl, split⟩ := List.cons.inj parted
  have inside := spelled.not_blank
  rw [text, List.forall_mem_cons] at inside
  have kept : Text.unreturned chars = body ++ Text.unreturned (take first chars).2.2 := by
    conv_lhs => rw [← split]
    rw [Text.unreturned, List.filter_append, ← Text.unreturned, ← Text.unreturned,
      unreturned_of_not_mem fun member => inside.2 _ member (by decide)]
  rw [← split] at paired
  rw [kept, text]
  rw [text] at spelled
  apply take_of_spelling spelled
  intro next head
  rcases head?_unreturned paired.of_append with same | newline
  · exact longest next (same ▸ head)
  · cases newline.symm.trans head
    rintro (⟨_, alphanum | underscore⟩ | ⟨_, colon⟩)
    · cases alphanum
    · cases underscore
    · cases colon

/-- The blanks before the first lexeme of a text, and the rest. -/
theorem skipped_append {chars rest : List Char} (start : chars.dropWhile isBlank = rest) :
    chars.takeWhile isBlank ++ rest = chars := by
  rw [← start, List.takeWhile_append_dropWhile]

/-- What comes after the first character and after the first lexeme of a text. -/
theorem paired_after {chars remaining : List Char} {c : Char} (paired : Paired chars)
    (start : chars.dropWhile isBlank = c :: remaining) :
    Paired remaining ∧ Paired (take c remaining).2.2 := by
  rw [← skipped_append start] at paired
  have rest := paired.of_append
  refine ⟨(paired_cons.mp rest).2, ?_⟩
  rw [← take_chars_append_rest c remaining] at rest
  exact rest.of_append

/-- The lexemes of a text are the same without carriage returns. -/
theorem split_unreturned {chars : List Char} (paired : Paired chars) :
    split (Text.unreturned chars) = (split chars).map unreturned := by
  induction chars using split.induct with
  | case1 chars start =>
      obtain ⟨gap, rest⟩ := skip_unreturned chars
      rw [start] at rest
      rw [split_of_blank start, split_of_blank rest, gap]
      rfl
  | case2 chars c remaining start lexeme ih =>
      obtain ⟨gap, rest⟩ := skip_unreturned chars
      obtain ⟨pairedRest, pairedAfter⟩ := paired_after paired start
      have visible := isBlank_of_dropWhile start
      have other : c ≠ '\r' := by
        rintro rfl
        cases visible
      rw [start, unreturned_cons, if_neg other] at rest
      rw [split_of_start start, split_of_start rest, gap, take_unreturned visible pairedRest,
        ih pairedAfter]
      rfl

/-- A line break, or another lexeme without a carriage return in the gap before it. -/
def EndsLine (lexeme : Lexeme) : Prop :=
  (lexeme.kind = .newline ∧ lexeme.chars = ['\n']) ∨
    (lexeme.kind ≠ .newline ∧ '\r' ∉ lexeme.gap)

theorem endsLine_of_mem_split {chars : List Char} (paired : Paired chars) :
    ∀ lexeme ∈ split chars, lexeme.EndsLine := by
  -- A carriage return in a gap is followed by a newline, and this is then the lexeme.
  induction chars using split.induct with
  | case1 chars start =>
      rw [← skipped_append start] at paired
      rw [split_of_blank start, List.forall_mem_singleton]
      refine .inr ⟨by simp, ?_⟩
      intro member
      cases head?_of_mem_blank paired (mem_blanks_of_takeWhile chars) member
  | case2 chars c remaining start lexeme ih =>
      rw [split_of_start start, List.forall_mem_cons]
      refine ⟨?_, ih (paired_after paired start).2⟩
      by_cases newline : (take c remaining).1 = .newline
      · have spelled := (spelling_take (isBlank_of_dropWhile start) remaining).1
        rw [newline] at spelled
        exact .inl ⟨newline, spelled.eq_newline⟩
      · refine .inr ⟨newline, ?_⟩
        intro member
        rw [← skipped_append start] at paired
        cases head?_of_mem_blank paired (mem_blanks_of_takeWhile chars) member
        exact newline rfl

end Lexeme

namespace Cursor

/-- Positions on the same line and in the same column. -/
def Level (left right : Cursor) : Prop :=
  left.line = right.line ∧ left.column = right.column

variable {left right : Cursor}

theorem Level.past (level : left.Level right) (chars : List Char) :
    (left.past chars).Level (right.past chars) := by
  induction chars generalizing left right with
  | nil => exact level
  | cons c chars ih =>
      apply ih
      obtain ⟨line, column⟩ := level
      rw [step, step]
      split
      · exact ⟨congrArg (· + 1) line, rfl⟩
      · exact ⟨line, congrArg (· + 1) column⟩

/-- After a newline the columns are the same again. -/
theorem level_past_newline (line : left.line = right.line) :
    (left.past ['\n']).Level (right.past ['\n']) :=
  ⟨congrArg (· + 1) line, rfl⟩

end Cursor

/-- Tokens have the same lines without carriage returns, and but for line breaks the same
columns. -/
theorem Lexeme.outline_place_unreturned (file : String) {lexemes : List Lexeme}
    (ends : ∀ lexeme ∈ lexemes, lexeme.EndsLine) {left right : Cursor}
    (level : left.Level right) :
    (place file left lexemes).map (Token.outline (· ≠ .newline)) =
      (place file right (lexemes.map unreturned)).map (Token.outline (· ≠ .newline)) := by
  induction lexemes generalizing left right with
  | nil => rfl
  | cons lexeme lexemes ih =>
      rw [List.forall_mem_cons] at ends
      obtain ⟨first, rest⟩ := ends
      have lines : (left.past lexeme.gap).line =
          (right.past (Text.unreturned lexeme.gap)).line := by
        rw [Cursor.line_past, Cursor.line_past, level.1, Text.unreturned,
          List.count_filter (by decide)]
      rw [List.map_cons, place, place, List.map_cons, List.map_cons]
      rcases first with ⟨newline, chars⟩ | ⟨other, unbroken⟩
      · have same := ih rest (Cursor.level_past_newline lines)
        rw [unreturned, chars, same]
        simp [Token.outline, toToken, newline, lines, chars]
      · have kept := Text.unreturned_of_not_mem unbroken
        have begins := level.past lexeme.gap
        have same := ih rest (begins.past lexeme.chars)
        rw [unreturned, kept, same]
        simp [Token.outline, toToken, begins.1, begins.2, other]

/-! ## Listings and steps of a session -/

/-- The diagnostic without a carriage return at the end of the line that it quotes. -/
def Diagnostic.chomped (diagnostic : Diagnostic) : Diagnostic :=
  { diagnostic with
    quoted := diagnostic.quoted.map fun line => String.ofList (Text.chomp line.toList) }

namespace Listing

variable {source : String} (paired : Text.Paired source.toList) (file : String)

include paired

theorem untilNul_dropReturns :
    untilNul (String.ofList (Text.dropReturns source.toList)) =
      Text.unreturned (untilNul source) := by
  have cut : (fun c => !decide (c ≠ '\r') || decide (c ≠ '\x00')) = (· ≠ '\x00') := by
    funext c
    by_cases carriage : c = '\r' <;> simp [carriage]
  rw [untilNul, String.toList_ofList, Text.dropReturns_of_paired paired, Text.unreturned,
    List.takeWhile_filter, cut, untilNul, Text.unreturned]

theorem outline_scan_dropReturns :
    (scan source file).tokens.map (Token.outline (· ≠ .newline)) =
      (scan (String.ofList (Text.dropReturns source.toList)) file).tokens.map
        (Token.outline (· ≠ .newline)) := by
  have kept : Text.Paired (untilNul source) := Text.paired_takeWhile paired
  rw [scan, scan, untilNul_dropReturns paired, Lexeme.split_unreturned kept]
  exact Lexeme.outline_place_unreturned file (Lexeme.endsLine_of_mem_split kept) ⟨rfl, rfl⟩

/-- The lines of a source without carriage returns are its lines without those at their ends. -/
theorem line?_scan_dropReturns (line : Int) :
    (scan (String.ofList (Text.dropReturns source.toList)) file).line? line =
      ((scan source file).line? line).map fun line => String.ofList (Text.chomp line.toList) := by
  have kept : Text.Paired (untilNul source) := Text.paired_takeWhile paired
  rw [line?_scan, line?_scan, untilNul_dropReturns paired, Text.lines_unreturned kept,
    List.getElem?_map]
  simp only [Text.unreturned_eq_nil_iff kept]
  split
  · rfl
  · split
    · rw [Option.map_map, Option.map_map]
      congr 1
      funext line
      rw [Function.comp_apply, Function.comp_apply, String.toList_ofList]
    · rfl

theorem corresponds_dropReturns :
    Corresponds (· ≠ .newline) Diagnostic.chomped id (scan source file)
      (scan (String.ofList (Text.dropReturns source.toList)) file) where
  outline_eq := outline_scan_dropReturns paired file
  tell_eq token _ other _ same visible problem := by
    rw [Token.place_eq_of_outline same (by simpa using visible),
      ← Token.line_eq_of_outline same, line?_scan_dropReturns paired]
    rfl

end Listing

/-- Steps on a text with carriage returns before newlines and on the text without them: both end
with a fault or neither does, and then they leave the same tokens, up to offsets and the columns of
line breaks, and the same diagnostics, up to a carriage return at the end of a quoted line. -/
structure Step.AgreesWithPlain (left right : Step) : Prop where
  fault_iff : left.fault = none ↔ right.fault = none
  corresponds : left.fault = none →
    left.Corresponds (· ≠ .newline) Diagnostic.chomped id right

namespace Session

theorem agreesWithPlain_dropReturns (session : Session) {source : String}
    (paired : Text.Paired source.toList) (file : String) :
    (session.assemble source file).AgreesWithPlain
      (session.assemble (String.ofList (Text.dropReturns source.toList)) file) := by
  have outlined := Listing.outline_scan_dropReturns paired file
  have forward : (session.assemble source file).fault = none →
      (session.assemble (String.ofList (Text.dropReturns source.toList)) file).fault = none := by
    apply returned_of_outline_eq outlined
    intro token _ other _ same visible writable
    rwa [← Token.place_eq_of_outline same (by simpa using visible)]
  have backward :
      (session.assemble (String.ofList (Text.dropReturns source.toList)) file).fault = none →
        (session.assemble source file).fault = none := by
    apply returned_of_outline_eq outlined.symm
    intro token _ other _ same visible writable
    rwa [← Token.place_eq_of_outline same (by simpa using visible)]
  refine ⟨⟨forward, backward⟩, ?_⟩
  intro returned
  exact corresponds_assemble (Listing.corresponds_dropReturns paired file) returned
    (forward returned)

/-- It makes no difference whether the lines of a source end with a carriage return and a newline or
with a newline alone: the tokens have the same kinds, texts and lines and, except for line breaks,
the same columns; they get the same payloads; and the diagnostics have the same problems and places.
The source may also be read from a file. -/
theorem assemble_dropReturns (session : Session) (source file : String)
    (paired : Text.Paired source.toList) :
    (Listing.scan source file).tokens.map (Token.outline (· ≠ .newline)) =
      (Listing.scan (String.ofList (Text.dropReturns source.toList)) file).tokens.map
        (Token.outline (· ≠ .newline)) ∧
    (session.assemble source file).AgreesWithPlain
      (session.assemble (String.ofList (Text.dropReturns source.toList)) file) ∧
    ∀ (disk : Disk) (path : String),
      disk.find (FilePath.normal path) = .file (source.toList.flatMap String.utf8EncodeChar) →
      (session.assemble source (FilePath.normal path)).AgreesWithPlain
        (session.assembleFile disk path) := by
  refine ⟨Listing.outline_scan_dropReturns paired file,
    agreesWithPlain_dropReturns session paired file, ?_⟩
  intro disk path found
  obtain ⟨kept, fault⟩ := assembleFile_of_text session found
  obtain ⟨fault_iff, corresponds⟩ :=
    agreesWithPlain_dropReturns session paired (FilePath.normal path)
  have read : Text.unifyNewlines source.toList = Text.dropReturns source.toList := by
    rw [Text.unifyNewlines_of_paired paired, Text.dropReturns_of_paired paired]
  rw [read] at kept fault
  constructor
  · rw [fault]
    exact fault_iff
  · intro returned
    obtain ⟨tokens, diagnostics⟩ := corresponds returned
    constructor
    · rw [kept]
      exact tokens
    · rw [kept]
      exact diagnostics

/-- A source with a word, a label and an invalid character at the ends of its lines. -/
def carriageText : String := "r99\r\nend:\r\n  08 @\r\n"

/-- A disk that has the source in every place. -/
def carriageDisk : Disk where
  find _ := .file (carriageText.toList.flatMap String.utf8EncodeChar)

theorem assemble_dropReturns_sample :
    Text.Paired carriageText.toList ∧ (sample.assemble carriageText "a.asm").fault = none ∧
      (sample.assembleFile carriageDisk "a.asm").fault = none ∧
      (sample.assembleFile carriageDisk "a.asm").session.report.diagnostics.toList.map
          (fun diagnostic => (diagnostic.place, diagnostic.quoted)) =
        [(some ⟨"a.asm", 1, 1⟩, some "r99"), (some ⟨"a.asm", 3, 3⟩, some "  08 @"),
          (some ⟨"a.asm", 3, 6⟩, some "  08 @")] := by
  have paired : Text.Paired carriageText.toList := by decide +kernel
  have normal : FilePath.normal "a.asm" = "a.asm" := by decide +kernel
  have returned : (sample.assemble carriageText "a.asm").fault = none := by decide +kernel
  obtain ⟨fault_iff, corresponds⟩ :=
    (assemble_dropReturns sample carriageText unnamedFile paired).2.2 carriageDisk "a.asm" rfl
  rw [normal] at fault_iff corresponds
  refine ⟨paired, returned, fault_iff.mp returned, ?_⟩
  have same := (corresponds returned).diagnostics_eq
  rw [List.map_id] at same
  rw [← same]
  decide +kernel

end Session
end RegisterAssembly
