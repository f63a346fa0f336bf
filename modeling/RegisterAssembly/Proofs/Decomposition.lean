import Mathlib.Data.List.TakeWhile
import RegisterAssembly.Listing

/-!
# The decomposition of a source

A source has one decomposition into lexemes by longest match.  What a decomposition is, is stated
here by positions and apart from the scanner: every lexeme is a slice of the source, spelled as its
kind demands and not directly followed by what would continue it, and all between the lexemes is
blank.  Scanning a source gives its decomposition, and there is no other.
-/

namespace RegisterAssembly

/-- The characters that separate lexemes: space, tab, carriage return, vertical tab, form feed. -/
def blanks : List Char :=
  [' ', '\t', '\r', '\x0B', '\x0C']

/-- Letters, digits and the underscore. -/
def ContinuesWord (c : Char) : Prop :=
  c.isAlphanum ∨ c = '_'

/-- A letter, and characters that continue a word. -/
def IsWord (chars : List Char) : Prop :=
  ∃ first rest, chars = first :: rest ∧ first.isAlpha ∧ ∀ c ∈ rest, ContinuesWord c

/-- The letter r in either case, and one or more digits. -/
def IsRegisterName (chars : List Char) : Prop :=
  ∃ mark digits, chars = mark :: digits ∧ (mark = 'r' ∨ mark = 'R') ∧ digits ≠ [] ∧
    ∀ c ∈ digits, c.isDigit

/-- The lexemes of each kind. -/
inductive Spelling : Kind → List Char → Prop
  | labelDeclaration {word : List Char} (isWord : IsWord word) :
      Spelling .labelDeclaration (word ++ [':'])
  | register {word : List Char} (register : IsRegisterName word) : Spelling .register word
  | instruction {word : List Char} (isWord : IsWord word) (other : ¬ IsRegisterName word) :
      Spelling .instruction word
  | immediate {first : Char} {rest : List Char} (digit : first.isDigit)
      (continues : ∀ c ∈ rest, ContinuesWord c) : Spelling .immediate (first :: rest)
  | comma : Spelling .comma [',']
  | newline : Spelling .newline ['\n']
  /-- Any other character that is no blank. -/
  | invalid {c : Char} (visible : c ∉ blanks) (noLetter : ¬ c.isAlpha) (noDigit : ¬ c.isDigit)
      (noComma : c ≠ ',') (noNewline : c ≠ '\n') : Spelling .invalid [c]

/-- Whether a character would continue a lexeme of some kind if it came next: a word or a number by
the characters of a word, and a word also by a colon. -/
def Continues (kind : Kind) (next : Char) : Prop :=
  ((kind = .instruction ∨ kind = .register ∨ kind = .immediate) ∧ ContinuesWord next) ∨
    ((kind = .instruction ∨ kind = .register) ∧ next = ':')

namespace Token

/-- The number of characters before a token. -/
def start (token : Token) : Nat :=
  token.offset.toNat

/-- The number of characters up to the end of a token. -/
def stop (token : Token) : Nat :=
  token.start + token.text.length

end Token

/-- Tokens that are the decomposition of a text by longest match, from some position on. -/
structure DecompositionFrom (begin : Nat) (chars : List Char) (tokens : List Token) : Prop where
  /-- The last token and no other is of kind `endOfInput`; it alone is empty. -/
  ends : ∃ (front : List Token) (last : Token), tokens = front ++ [last] ∧
    last.kind = .endOfInput ∧ last.text = "" ∧ last.offset = chars.length ∧
    ∀ token ∈ front, token.kind ≠ .endOfInput ∧ token.text ≠ ""
  /-- Tokens are slices of the text. -/
  slices : ∀ token ∈ tokens, token.offset = token.start ∧ token.stop ≤ chars.length ∧
    token.text.toList = (chars.drop token.start).take token.text.length
  /-- Tokens stand in order and do not overlap. -/
  ordered : tokens.Pairwise fun earlier later => earlier.stop ≤ later.start
  after : ∀ token ∈ tokens, begin ≤ token.start
  /-- A character that is in no token is a blank. -/
  gaps : ∀ index c, begin ≤ index → chars[index]? = some c →
    c ∈ blanks ∨ ∃ token ∈ tokens, token.start ≤ index ∧ index < token.stop
  spelled : ∀ token ∈ tokens, token.kind ≠ .endOfInput → Spelling token.kind token.text.toList
  /-- No token could be longer. -/
  longest : ∀ token ∈ tokens, ∀ c, chars[token.stop]? = some c → ¬ Continues token.kind c

/-- Tokens that are the decomposition of a whole text by longest match. -/
def Decomposition (chars : List Char) (tokens : List Token) : Prop :=
  DecompositionFrom 0 chars tokens

/-- What a decomposition determines of a token. -/
def entries (tokens : List Token) : List (Kind × String × Int) :=
  tokens.map fun token => (token.kind, token.text, token.offset)

namespace Lexeme

theorem isBlank_iff (c : Char) : isBlank c ↔ c ∈ blanks := by
  simp [isBlank, blanks, or_assoc]

theorem isLetter_eq (c : Char) : isLetter c = c.isAlpha := by
  change _ = (decide ('A' ≤ c ∧ c ≤ 'Z') || (decide ('a' ≤ c) && decide (c ≤ 'z')))
  rw [Bool.decide_and, Bool.or_comm, isLetter]

theorem isDigit_eq (c : Char) : isDigit c = c.isDigit := rfl

theorem isWordChar_iff (c : Char) : isWordChar c ↔ ContinuesWord c := by
  simp [isWordChar, ContinuesWord, isLetter_eq, isDigit_eq, Char.isAlphanum]

theorem isRegisterWord_iff (word : List Char) : isRegisterWord word ↔ IsRegisterName word := by
  cases word with
  | nil => simp [isRegisterWord, IsRegisterName]
  | cons first digits =>
      simp [isRegisterWord, IsRegisterName, isDigit_eq, and_assoc]

theorem isLetter_of_isWord {first : Char} {rest : List Char} (isWord : IsWord (first :: rest)) :
    isLetter first ∧ ∀ c ∈ rest, isWordChar c := by
  obtain ⟨first', rest', equal, letter, continues⟩ := isWord
  obtain ⟨rfl, rfl⟩ := List.cons.inj equal
  refine ⟨(isLetter_eq first).trans letter, ?_⟩
  intro c member
  exact (isWordChar_iff c).mpr (continues c member)

theorem isWord_of_isRegisterName {word : List Char} (register : IsRegisterName word) :
    IsWord word := by
  obtain ⟨mark, digits, rfl, marked, _, all⟩ := register
  refine ⟨mark, digits, rfl, ?_, ?_⟩
  · rcases marked with rfl | rfl <;> rfl
  · intro c member
    left
    simp [Char.isAlphanum, all c member]

theorem not_isWordChar_colon : isWordChar ':' = false := by decide

theorem isLetter_of_isDigit {c : Char} (digit : c.isDigit) : isLetter c = false := by
  rw [← isDigit_eq] at digit
  simp only [isDigit, Bool.and_eq_true, decide_eq_true_eq, Char.le_def,
    UInt32.le_iff_toNat_le] at digit
  simp only [isLetter, Bool.or_eq_false_iff, Bool.and_eq_false_iff, decide_eq_false_iff_not,
    Char.le_def, UInt32.le_iff_toNat_le]
  simp at digit ⊢
  omega

/-! ## The lexeme at the start of a text -/

/-- A run of characters of a class that the next character leaves. -/
theorem takeWhile_append_of_boundary {p : Char → Bool} {body rest : List Char}
    (inside : ∀ c ∈ body, p c) (boundary : ∀ next, rest.head? = some next → p next = false) :
    (body ++ rest).takeWhile p = body ∧ (body ++ rest).dropWhile p = rest := by
  rw [List.takeWhile_append_of_pos inside, List.dropWhile_append_of_pos inside]
  cases rest with
  | nil => simp
  | cons next rest => simp [boundary next rfl]

theorem take_of_word {first : Char} {body rest : List Char} (letter : isLetter first)
    (inside : ∀ c ∈ body, isWordChar c)
    (boundary : ∀ next, rest.head? = some next → isWordChar next = false)
    (colon : rest.head? ≠ some ':') :
    take first (body ++ rest) = (wordKind (first :: body), first :: body, rest) := by
  obtain ⟨taken, dropped⟩ := takeWhile_append_of_boundary inside boundary
  rw [take, if_pos letter, taken, dropped]
  split
  · exact absurd rfl colon
  · rfl

theorem take_of_label {first : Char} {body : List Char} (rest : List Char)
    (letter : isLetter first) (inside : ∀ c ∈ body, isWordChar c) :
    take first (body ++ ':' :: rest) = (.labelDeclaration, first :: body ++ [':'], rest) := by
  have boundary : ∀ next, (':' :: rest).head? = some next → isWordChar next = false := by
    rintro next ⟨⟩
    exact not_isWordChar_colon
  obtain ⟨taken, dropped⟩ := takeWhile_append_of_boundary inside boundary
  rw [take, if_pos letter, taken, dropped]
  rfl

theorem take_of_number {first : Char} {body rest : List Char} (digit : first.isDigit)
    (inside : ∀ c ∈ body, isWordChar c)
    (boundary : ∀ next, rest.head? = some next → isWordChar next = false) :
    take first (body ++ rest) = (.immediate, first :: body, rest) := by
  obtain ⟨taken, dropped⟩ := takeWhile_append_of_boundary inside boundary
  rw [take, isLetter_of_isDigit digit, isDigit_eq, digit, taken, dropped]
  rfl

theorem take_of_single {c : Char} (rest : List Char) (noLetter : ¬ c.isAlpha)
    (noDigit : ¬ c.isDigit) : take c rest = (singleKind c, [c], rest) := by
  rw [take, isLetter_eq, if_neg noLetter, isDigit_eq, if_neg noDigit]

theorem boundary_of_longest {kind : Kind} {rest : List Char}
    (longest : ∀ next, rest.head? = some next → ¬ Continues kind next)
    (limited : kind = .instruction ∨ kind = .register ∨ kind = .immediate) :
    ∀ next, rest.head? = some next → isWordChar next = false := by
  intro next head
  rw [← Bool.not_eq_true, isWordChar_iff]
  intro continues
  exact longest next head (.inl ⟨limited, continues⟩)

theorem no_colon_of_longest {kind : Kind} {rest : List Char}
    (longest : ∀ next, rest.head? = some next → ¬ Continues kind next)
    (limited : kind = .instruction ∨ kind = .register) : rest.head? ≠ some ':' := by
  intro head
  exact longest ':' head (.inr ⟨limited, rfl⟩)

/-- A lexeme that nothing continues is the one that the scanner takes. -/
theorem take_of_spelling {kind : Kind} {first : Char} {body rest : List Char}
    (spelled : Spelling kind (first :: body))
    (longest : ∀ next, rest.head? = some next → ¬ Continues kind next) :
    take first (body ++ rest) = (kind, first :: body, rest) := by
  generalize text : first :: body = chars at spelled
  cases spelled with
  | labelDeclaration isWord =>
      obtain ⟨head, tail, rfl, -⟩ := id isWord
      obtain ⟨letter, inside⟩ := isLetter_of_isWord isWord
      rw [List.cons_append] at text
      obtain ⟨rfl, rfl⟩ := List.cons.inj text
      rw [List.append_assoc]
      exact take_of_label rest letter inside
  | register register =>
      subst text
      obtain ⟨letter, inside⟩ := isLetter_of_isWord (isWord_of_isRegisterName register)
      rw [take_of_word letter inside (boundary_of_longest longest (by simp))
        (no_colon_of_longest longest (by simp)), wordKind,
        if_pos ((isRegisterWord_iff _).mpr register)]
  | instruction isWord other =>
      subst text
      obtain ⟨letter, inside⟩ := isLetter_of_isWord isWord
      rw [take_of_word letter inside (boundary_of_longest longest (by simp))
        (no_colon_of_longest longest (by simp)), wordKind,
        if_neg (mt (isRegisterWord_iff _).mp other)]
  | immediate digit continues =>
      obtain ⟨rfl, rfl⟩ := List.cons.inj text
      apply take_of_number digit _ (boundary_of_longest longest (by simp))
      intro c member
      exact (isWordChar_iff c).mpr (continues c member)
  | comma =>
      obtain ⟨rfl, rfl⟩ := List.cons.inj text
      exact take_of_single rest (by decide) (by decide)
  | newline =>
      obtain ⟨rfl, rfl⟩ := List.cons.inj text
      exact take_of_single rest (by decide) (by decide)
  | invalid visible noLetter noDigit noComma noNewline =>
      obtain ⟨rfl, rfl⟩ := List.cons.inj text
      rw [List.nil_append, take_of_single rest noLetter noDigit, singleKind, if_neg noComma,
        if_neg noNewline]

theorem isWordChar_of_takeWhile {chars : List Char} :
    ∀ c ∈ chars.takeWhile isWordChar, ContinuesWord c := by
  intro c member
  exact (isWordChar_iff c).mp (List.mem_takeWhile_imp member)

theorem isWord_takeWhile {first : Char} (letter : isLetter first) (chars : List Char) :
    IsWord (first :: chars.takeWhile isWordChar) :=
  ⟨first, _, rfl, (isLetter_eq first).symm.trans letter, isWordChar_of_takeWhile⟩

theorem not_continuesWord_of_dropWhile {chars : List Char} {next : Char}
    (head : (chars.dropWhile isWordChar).head? = some next) : ¬ ContinuesWord next := by
  have stopped := List.head?_dropWhile_not isWordChar chars
  rw [head] at stopped
  rw [← isWordChar_iff]
  simpa using stopped

theorem spelling_wordKind {word : List Char} (isWord : IsWord word) :
    Spelling (wordKind word) word := by
  rw [wordKind]
  split
  · rename_i register
    exact .register ((isRegisterWord_iff _).mp register)
  · rename_i other
    exact .instruction isWord (mt (isRegisterWord_iff _).mpr other)

theorem spelling_single {c : Char} (visible : isBlank c = false) (noLetter : ¬ isLetter c)
    (noDigit : ¬ isDigit c) : Spelling (singleKind c) [c] := by
  rw [singleKind]
  split
  · rename_i comma
    exact comma ▸ .comma
  · split
    · rename_i newline
      exact newline ▸ .newline
    · rename_i noComma noNewline
      rw [isLetter_eq] at noLetter
      refine .invalid ?_ noLetter noDigit noComma noNewline
      rw [← isBlank_iff, visible]
      exact Bool.false_ne_true

theorem not_continues_singleKind (c next : Char) : ¬ Continues (singleKind c) next := by
  rw [singleKind]
  split
  · simp [Continues]
  · split <;> simp [Continues]

/-- What the scanner takes is a lexeme, and nothing that follows would continue it. -/
theorem spelling_take {c : Char} (visible : isBlank c = false) (chars : List Char) :
    Spelling (take c chars).1 (take c chars).2.1 ∧
      ∀ next, (take c chars).2.2.head? = some next → ¬ Continues (take c chars).1 next := by
  rw [take]
  split
  · rename_i letter
    have isWord := isWord_takeWhile letter chars
    split
    · exact ⟨.labelDeclaration isWord, fun next _ => by simp [Continues]⟩
    · rename_i noColon
      refine ⟨?_, ?_⟩
      · exact spelling_wordKind isWord
      · rintro next head (⟨_, continues⟩ | ⟨_, rfl⟩)
        · exact not_continuesWord_of_dropWhile head continues
        · obtain ⟨rest, found⟩ := List.head?_eq_some_iff.mp head
          exact noColon rest found
  · rename_i noLetter
    split
    · rename_i digit
      refine ⟨.immediate digit isWordChar_of_takeWhile, ?_⟩
      rintro next head (⟨_, continues⟩ | ⟨limited, _⟩)
      · exact not_continuesWord_of_dropWhile head continues
      · simp at limited
    · rename_i noDigit
      exact ⟨spelling_single visible noLetter noDigit, fun next _ =>
        not_continues_singleKind c next⟩

end Lexeme

/-! ## Cuts -/

/-- Tokens of a text that follows `start` characters, cut off one after the other. -/
inductive Cut : Nat → List Char → List Token → Prop
  | done {start : Nat} {gap : List Char} {token : Token} (blank : ∀ c ∈ gap, c ∈ blanks)
      (kind : token.kind = .endOfInput) (text : token.text = "")
      (offset : token.offset = ((start + gap.length : Nat) : Int)) : Cut start gap [token]
  | more {start : Nat} {gap rest : List Char} {token : Token} {tokens : List Token}
      (blank : ∀ c ∈ gap, c ∈ blanks) (spelled : Spelling token.kind token.text.toList)
      (longest : ∀ next, rest.head? = some next → ¬ Continues token.kind next)
      (offset : token.offset = ((start + gap.length : Nat) : Int))
      (cut : Cut (start + gap.length + token.text.length) rest tokens) :
      Cut start (gap ++ (token.text.toList ++ rest)) (token :: tokens)

namespace Lexeme

theorem mem_blanks_of_takeWhile (chars : List Char) :
    ∀ c ∈ chars.takeWhile isBlank, c ∈ blanks := by
  intro c member
  exact (isBlank_iff c).mp (List.mem_takeWhile_imp member)

theorem isBlank_of_dropWhile {chars rest : List Char} {c : Char}
    (start : chars.dropWhile isBlank = c :: rest) : isBlank c = false := by
  have stopped := List.head?_dropWhile_not isBlank chars
  rw [start] at stopped
  simpa using stopped

theorem cut_place_cons (file : String) (cursor : Cursor) {gap chars rest : List Char} {kind : Kind}
    {lexemes : List Lexeme} (blank : ∀ c ∈ gap, c ∈ blanks) (spelled : Spelling kind chars)
    (longest : ∀ next, rest.head? = some next → ¬ Continues kind next)
    (cut : Cut ((cursor.past gap).past chars).offset rest
      (place file ((cursor.past gap).past chars) lexemes)) :
    Cut cursor.offset (gap ++ (chars ++ rest))
      (place file cursor (⟨gap, kind, chars⟩ :: lexemes)) := by
  have token_chars : (toToken file (cursor.past gap) ⟨gap, kind, chars⟩).text.toList = chars :=
    String.toList_ofList
  have token_length : (toToken file (cursor.past gap) ⟨gap, kind, chars⟩).text.length =
      chars.length := by
    rw [← String.length_toList, token_chars]
  rw [Cursor.offset_past, Cursor.offset_past, ← token_length] at cut
  have whole := Cut.more blank (token_chars.symm ▸ spelled) longest
    (by simp [toToken, Cursor.offset_past]) cut
  rwa [token_chars] at whole

/-- The scanner cuts a text. -/
theorem cut_place (file : String) (cursor : Cursor) (chars : List Char) :
    Cut cursor.offset chars (place file cursor (split chars)) := by
  have parted := List.takeWhile_append_dropWhile (p := isBlank) (l := chars)
  have blank := mem_blanks_of_takeWhile chars
  cases start : chars.dropWhile isBlank with
  | nil =>
      rw [start, List.append_nil] at parted
      rw [split_of_blank start, parted]
      rw [parted] at blank
      exact .done blank rfl rfl (by simp [toToken, Cursor.offset_past])
  | cons c rest =>
      have shorter : (take c rest).2.2.length < chars.length := by
        have dropped := length_dropWhile_le isBlank chars
        have kept := take_rest_length_le c rest
        rw [start] at dropped
        simp only [List.length_cons] at dropped
        omega
      obtain ⟨spelled, longest⟩ := spelling_take (isBlank_of_dropWhile start) rest
      have cut := cut_place_cons file cursor blank spelled longest
        (cut_place file ((cursor.past (chars.takeWhile isBlank)).past (take c rest).2.1)
          (take c rest).2.2)
      rw [take_chars_append_rest, ← start, parted] at cut
      rwa [split_of_start start]
termination_by chars.length

theorem not_isBlank_of_isAlphanum {c : Char} (alphanum : c.isAlphanum) : isBlank c = false := by
  rw [← Bool.not_eq_true, isBlank_iff]
  intro blank
  simp only [blanks, List.mem_cons, List.not_mem_nil, or_false] at blank
  rcases blank with rfl | rfl | rfl | rfl | rfl <;> exact absurd alphanum (by decide)

theorem exists_of_isWord {word : List Char} (isWord : IsWord word) :
    ∃ first body, word = first :: body ∧ isBlank first = false := by
  obtain ⟨first, body, rfl, letter, _⟩ := isWord
  exact ⟨first, body, rfl, not_isBlank_of_isAlphanum (by simp [Char.isAlphanum, letter])⟩

/-- A lexeme has a first character, which is no blank. -/
theorem exists_of_spelling {kind : Kind} {chars : List Char} (spelled : Spelling kind chars) :
    ∃ first body, chars = first :: body ∧ isBlank first = false := by
  cases spelled with
  | labelDeclaration isWord =>
      obtain ⟨first, body, rfl, visible⟩ := exists_of_isWord isWord
      exact ⟨first, body ++ [':'], rfl, visible⟩
  | register register => exact exists_of_isWord (isWord_of_isRegisterName register)
  | instruction isWord _ => exact exists_of_isWord isWord
  | immediate digit _ =>
      exact ⟨_, _, rfl, not_isBlank_of_isAlphanum (by simp [Char.isAlphanum, digit])⟩
  | comma => exact ⟨',', [], rfl, by decide⟩
  | newline => exact ⟨'\n', [], rfl, by decide⟩
  | invalid visible _ _ _ _ =>
      refine ⟨_, [], rfl, ?_⟩
      rwa [← Bool.not_eq_true, isBlank_iff]

theorem skip_gap {gap rest : List Char} (blank : ∀ c ∈ gap, c ∈ blanks)
    (visible : ∀ next, rest.head? = some next → isBlank next = false) :
    (gap ++ rest).takeWhile isBlank = gap ∧ (gap ++ rest).dropWhile isBlank = rest := by
  apply takeWhile_append_of_boundary _ visible
  intro c member
  exact (isBlank_iff c).mpr (blank c member)

/-- The scanner finds every cut of a text. -/
theorem entries_of_cut (file : String) {start : Nat} {chars : List Char} {tokens : List Token}
    (cut : Cut start chars tokens) {cursor : Cursor} (offset : cursor.offset = start) :
    entries tokens = entries (place file cursor (split chars)) := by
  induction cut generalizing cursor with
  | @done start gap token blank kind text placed =>
      obtain ⟨taken, dropped⟩ := @skip_gap gap [] blank (by simp)
      rw [List.append_nil] at taken dropped
      rw [split_of_blank dropped, taken]
      simp [entries, place, toToken, Cursor.offset_past, kind, text, placed, offset]
  | @more start gap rest token tokens blank spelled longest placed cut ih =>
      obtain ⟨first, body, text, visible⟩ := exists_of_spelling spelled
      have starts : ∀ next, (token.text.toList ++ rest).head? = some next →
          isBlank next = false := by
        rw [text]
        rintro next ⟨⟩
        exact visible
      obtain ⟨taken, dropped⟩ := skip_gap blank starts
      have lexeme : take first (body ++ rest) = (token.kind, token.text.toList, rest) := by
        rw [text] at spelled ⊢
        exact take_of_spelling spelled longest
      have reached : ((cursor.past gap).past token.text.toList).offset =
          start + gap.length + token.text.length := by
        rw [Cursor.offset_past, Cursor.offset_past, offset, String.length_toList]
      have begins : token.text.toList ++ rest = first :: (body ++ rest) := by
        rw [text, List.cons_append]
      rw [split_of_start (dropped.trans begins), taken, lexeme]
      simp only [place, entries, List.map_cons]
      rw [← entries, ← entries, ih reached]
      simp [toToken, Cursor.offset_past, placed, offset]

end Lexeme

theorem not_continuesWord_of_blank {c : Char} (blank : c ∈ blanks) : ¬ ContinuesWord c := by
  simp only [blanks, List.mem_cons, List.not_mem_nil, or_false] at blank
  rw [ContinuesWord]
  rcases blank with rfl | rfl | rfl | rfl | rfl <;> decide

/-- A blank continues no lexeme. -/
theorem not_continues_of_blank {c : Char} (blank : c ∈ blanks) (kind : Kind) :
    ¬ Continues kind c := by
  rintro (⟨_, continues⟩ | ⟨_, rfl⟩)
  · exact not_continuesWord_of_blank blank continues
  · exact absurd blank (by decide)

theorem not_blank_of_isWord {word : List Char} (isWord : IsWord word) : ∀ c ∈ word, c ∉ blanks := by
  obtain ⟨first, rest, rfl, letter, continues⟩ := isWord
  rw [List.forall_mem_cons]
  constructor
  · intro blank
    exact not_continuesWord_of_blank blank (.inl (by simp [Char.isAlphanum, letter]))
  · intro c member blank
    exact not_continuesWord_of_blank blank (continues c member)

/-- There is no blank in a lexeme. -/
theorem Spelling.not_blank {kind : Kind} {chars : List Char} (spelled : Spelling kind chars) :
    ∀ c ∈ chars, c ∉ blanks := by
  cases spelled with
  | labelDeclaration isWord =>
      rw [List.forall_mem_append]
      exact ⟨not_blank_of_isWord isWord, by simp [blanks]⟩
  | register register => exact not_blank_of_isWord (Lexeme.isWord_of_isRegisterName register)
  | instruction isWord _ => exact not_blank_of_isWord isWord
  | immediate digit continues =>
      rw [List.forall_mem_cons]
      constructor
      · intro blank
        exact not_continuesWord_of_blank blank (.inl (by simp [Char.isAlphanum, digit]))
      · intro c member blank
        exact not_continuesWord_of_blank blank (continues c member)
  | comma => simp [blanks]
  | newline => simp [blanks]
  | invalid visible _ _ _ _ => simpa using visible

theorem Spelling.ne_endOfInput {kind : Kind} {chars : List Char} (spelled : Spelling kind chars) :
    kind ≠ .endOfInput := by
  cases spelled <;> simp

namespace Token

theorem start_of_offset {token : Token} {start : Nat} (offset : token.offset = (start : Int)) :
    token.start = start := by
  rw [Token.start, offset, Int.toNat_natCast]

theorem text_ne_of_spelling {token : Token} (spelled : Spelling token.kind token.text.toList) :
    token.text ≠ "" := by
  intro empty
  obtain ⟨first, body, text, _⟩ := Lexeme.exists_of_spelling spelled
  rw [empty] at text
  contradiction

end Token

namespace DecompositionFrom

variable {begin : Nat} {chars : List Char} {token : Token} {tokens : List Token}

theorem last (kind : token.kind = .endOfInput) (text : token.text = "")
    (offset : token.offset = chars.length) (inside : begin ≤ chars.length)
    (blank : ∀ index c, begin ≤ index → chars[index]? = some c → c ∈ blanks) :
    DecompositionFrom begin chars [token] := by
  have started : token.start = chars.length := Token.start_of_offset offset
  have stopped : token.stop = chars.length := by
    rw [Token.stop, started, text]
    rfl
  constructor
  · exact ⟨[], token, rfl, kind, text, offset, by simp⟩
  · intro other member
    cases List.mem_singleton.mp member
    refine ⟨by rw [started, offset], Nat.le_of_eq stopped, ?_⟩
    rw [text]
    rfl
  · simp
  · intro other member
    cases List.mem_singleton.mp member
    omega
  · intro index c first found
    exact .inl (blank index c first found)
  · intro other member unended
    cases List.mem_singleton.mp member
    exact absurd kind unended
  · intro other member c found
    cases List.mem_singleton.mp member
    rw [stopped, List.getElem?_eq_none (Nat.le_refl _)] at found
    contradiction

theorem cons (tail : DecompositionFrom token.stop chars tokens)
    (offset : token.offset = token.start) (begins : begin ≤ token.start)
    (stops : token.stop ≤ chars.length)
    (slice : token.text.toList = (chars.drop token.start).take token.text.length)
    (blank : ∀ index c, begin ≤ index → index < token.start → chars[index]? = some c → c ∈ blanks)
    (spelled : Spelling token.kind token.text.toList)
    (longest : ∀ c, chars[token.stop]? = some c → ¬ Continues token.kind c) :
    DecompositionFrom begin chars (token :: tokens) := by
  have forward : token.start ≤ token.stop := Nat.le_add_right _ _
  constructor
  · obtain ⟨front, last, rfl, kind, text, placed, others⟩ := tail.ends
    refine ⟨token :: front, last, rfl, kind, text, placed, ?_⟩
    rw [List.forall_mem_cons]
    exact ⟨⟨spelled.ne_endOfInput, Token.text_ne_of_spelling spelled⟩, others⟩
  · rw [List.forall_mem_cons]
    exact ⟨⟨offset, stops, slice⟩, tail.slices⟩
  · exact List.pairwise_cons.mpr ⟨tail.after, tail.ordered⟩
  · rw [List.forall_mem_cons]
    refine ⟨begins, ?_⟩
    intro later member
    have placed := tail.after later member
    omega
  · intro index c first found
    by_cases early : index < token.start
    · exact .inl (blank index c first early found)
    · by_cases late : token.stop ≤ index
      · rcases tail.gaps index c late found with blank | ⟨later, member, within⟩
        · exact .inl blank
        · exact .inr ⟨later, List.mem_cons_of_mem _ member, within⟩
      · exact .inr ⟨token, List.mem_cons_self, by omega, by omega⟩
  · rw [List.forall_mem_cons]
    exact ⟨fun _ => spelled, tail.spelled⟩
  · rw [List.forall_mem_cons]
    exact ⟨longest, tail.longest⟩

theorem ends_singleton (whole : DecompositionFrom begin chars [token]) :
    token.kind = .endOfInput ∧ token.text = "" ∧ token.offset = chars.length := by
  obtain ⟨front, last, equal, kind, text, offset, _⟩ := whole.ends
  cases front with
  | nil =>
      cases equal
      exact ⟨kind, text, offset⟩
  | cons first front => simp at equal

variable {next : Token}

theorem spelled_head (whole : DecompositionFrom begin chars (token :: next :: tokens)) :
    Spelling token.kind token.text.toList := by
  obtain ⟨front, last, equal, _, _, _, others⟩ := whole.ends
  cases front with
  | nil => simp at equal
  | cons first front =>
      cases (List.cons.inj equal).1
      exact whole.spelled token List.mem_cons_self (others token List.mem_cons_self).1

theorem tail (whole : DecompositionFrom begin chars (token :: next :: tokens)) :
    DecompositionFrom token.stop chars (next :: tokens) := by
  have forward : token.start ≤ token.stop := Nat.le_add_right _ _
  have begins := whole.after token List.mem_cons_self
  have ordered := List.pairwise_cons.mp whole.ordered
  constructor
  · obtain ⟨front, last, equal, kind, text, offset, others⟩ := whole.ends
    cases front with
    | nil => simp at equal
    | cons first front =>
        exact ⟨front, last, (List.cons.inj equal).2, kind, text, offset,
          (List.forall_mem_cons.mp others).2⟩
  · exact (List.forall_mem_cons.mp whole.slices).2
  · exact ordered.2
  · exact ordered.1
  · intro index c late found
    rcases whole.gaps index c (by omega) found with blank | ⟨other, member, within⟩
    · exact .inl blank
    · rcases List.mem_cons.mp member with rfl | member
      · omega
      · exact .inr ⟨other, member, within⟩
  · exact (List.forall_mem_cons.mp whole.spelled).2
  · exact (List.forall_mem_cons.mp whole.longest).2

/-- Before the first token of a decomposition there are only blanks. -/
theorem blank_before (whole : DecompositionFrom begin chars (token :: tokens)) :
    ∀ c ∈ (chars.drop begin).take (token.start - begin), c ∈ blanks := by
  intro c member
  obtain ⟨index, inside, found⟩ := List.getElem_of_mem member
  rw [List.length_take] at inside
  have found' : chars[begin + index]? = some c := by
    rw [List.getElem_take, List.getElem_drop] at found
    rw [← found]
    exact List.getElem?_eq_getElem _
  rcases whole.gaps _ c (Nat.le_add_right _ _) found' with blank | ⟨other, among, first, _⟩
  · exact blank
  · rcases List.mem_cons.mp among with rfl | among
    · omega
    · have placed := (List.pairwise_cons.mp whole.ordered).1 other among
      have forward : token.start ≤ token.stop := Nat.le_add_right _ _
      omega

/-- The tokens of a decomposition cut the text from where it begins. -/
theorem cut (whole : DecompositionFrom begin chars tokens) (inside : begin ≤ chars.length) :
    Cut begin (chars.drop begin) tokens := by
  induction tokens generalizing begin with
  | nil =>
      obtain ⟨front, last, equal, _⟩ := whole.ends
      simp at equal
  | cons token tokens ih =>
      obtain ⟨offset, stops, slice⟩ := whole.slices token List.mem_cons_self
      have begins := whole.after token List.mem_cons_self
      have blank := whole.blank_before
      cases tokens with
      | nil =>
          obtain ⟨kind, text, ended⟩ := whole.ends_singleton
          have started := Token.start_of_offset ended
          rw [started, List.take_of_length_le (by simp)] at blank
          refine .done blank kind text ?_
          rw [ended, List.length_drop, Nat.add_sub_cancel' inside]
      | cons next tokens =>
          have forward : token.start + token.text.length = token.stop := rfl
          have gap_length : ((chars.drop begin).take (token.start - begin)).length =
              token.start - begin := by
            rw [List.length_take, List.length_drop]
            omega
          have parted : chars.drop begin = (chars.drop begin).take (token.start - begin) ++
              (token.text.toList ++ chars.drop token.stop) := by
            have skipped : chars.drop token.start =
                (chars.drop begin).drop (token.start - begin) := by
              rw [List.drop_drop, Nat.add_sub_cancel' begins]
            rw [slice, ← forward, ← List.drop_drop, List.take_append_drop, skipped]
            exact (List.take_append_drop _ _).symm
          have remaining := ih whole.tail stops
          rw [parted]
          apply Cut.more blank whole.spelled_head
          · intro c head
            apply whole.longest token List.mem_cons_self
            rwa [List.head?_drop] at head
          · rw [offset, gap_length, Nat.add_sub_cancel' begins]
          · rwa [gap_length, Nat.add_sub_cancel' begins, forward]

end DecompositionFrom

/-- The tokens of a cut are the decomposition of what comes after the characters before them. -/
theorem decompositionFrom_of_cut {start : Nat} {chars : List Char} {tokens : List Token}
    (cut : Cut start chars tokens) {before : List Char} (length : before.length = start) :
    DecompositionFrom start (before ++ chars) tokens := by
  induction cut generalizing before with
  | @done start gap token blank kind text offset =>
      apply DecompositionFrom.last kind text
      · rw [offset, List.length_append, length]
      · rw [List.length_append]
        omega
      · intro index c inside found
        rw [List.getElem?_append_right (by omega)] at found
        exact blank c (List.mem_of_getElem? found)
  | @more start gap rest token tokens blank spelled longest offset cut ih =>
      have started := Token.start_of_offset offset
      have stopped : token.stop = start + gap.length + token.text.length := by
        rw [Token.stop, started]
      have tail := @ih (before ++ gap ++ token.text.toList) (by
        simp only [List.length_append, String.length_toList, length])
      have whole : before ++ (gap ++ (token.text.toList ++ rest)) =
          before ++ gap ++ token.text.toList ++ rest := by
        simp only [List.append_assoc]
      rw [← stopped] at tail
      rw [whole]
      apply tail.cons
      · rw [started, offset]
      · omega
      · simp only [List.length_append, String.length_toList]
        omega
      · rw [started, List.append_assoc, List.drop_left', List.take_left']
        · exact String.length_toList
        · rw [List.length_append, length]
      · intro index c first early found
        rw [List.append_assoc, List.append_assoc, List.getElem?_append_right (by omega),
          List.getElem?_append_left (by omega)] at found
        exact blank c (List.mem_of_getElem? found)
      · exact spelled
      · intro c found
        apply longest
        rw [List.getElem?_append_right (by
          simp only [List.length_append, String.length_toList]
          omega)] at found
        simp only [List.length_append, String.length_toList] at found
        rw [List.head?_eq_getElem?, ← found]
        congr 1
        omega

/-- A cut depends on nothing but the kinds, texts and offsets of its tokens. -/
theorem cut_of_entries_eq {start : Nat} {chars : List Char} {tokens others : List Token}
    (cut : Cut start chars tokens) (same : entries others = entries tokens) :
    Cut start chars others := by
  induction cut generalizing others with
  | done blank kind text offset =>
      obtain ⟨other, rfl, equal⟩ := List.map_eq_singleton_iff.mp same
      simp only [Prod.mk.injEq] at equal
      exact .done blank (equal.1.trans kind) (equal.2.1.trans text) (equal.2.2.trans offset)
  | @more start gap rest token tokens blank spelled longest offset _ ih =>
      obtain ⟨other, others, rfl, equal, same⟩ := List.map_eq_cons_iff.mp same
      simp only [Prod.mk.injEq] at equal
      obtain ⟨kind, text, placed⟩ := equal
      rw [← kind, ← text] at spelled
      rw [← kind] at longest
      rw [← text]
      refine .more blank spelled longest (placed.trans offset) ?_
      rw [text]
      exact ih same

theorem decomposition_of_cut {chars : List Char} {tokens : List Token} (cut : Cut 0 chars tokens) :
    Decomposition chars tokens :=
  @decompositionFrom_of_cut 0 _ _ cut [] rfl

namespace Listing

theorem cut_scan (source file : String) : Cut 0 (untilNul source) (scan source file).tokens :=
  Lexeme.cut_place file {} (untilNul source)

end Listing

/-- Scanning a source gives the one decomposition of its text up to the first NUL character. -/
theorem scan_decomposes (source file : String) :
    Decomposition (untilNul source) (Listing.scan source file).tokens ∧
      ∀ tokens, Decomposition (untilNul source) tokens ↔
        entries tokens = entries (Listing.scan source file).tokens := by
  have cut := Listing.cut_scan source file
  refine ⟨decomposition_of_cut cut, ?_⟩
  intro tokens
  constructor
  · intro whole
    exact Lexeme.entries_of_cut file (whole.cut (Nat.zero_le _)) rfl
  · intro same
    exact decomposition_of_cut (cut_of_entries_eq cut same)

end RegisterAssembly
