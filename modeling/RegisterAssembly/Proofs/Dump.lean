import Mathlib.Algebra.Group.Nat.Defs
import Mathlib.Logic.Function.Basic
import RegisterAssembly.Listing
import RegisterAssembly.Literal
import RegisterAssembly.Proofs.Splitting

/-!
# What a listing as text tells

The text of a listing has one line for each token, of printable ASCII only, whatever the texts of
the tokens.  Nothing that a line shows is lost: escapes can be read back one after the other, and
the fields of a line can be told apart from its two ends, although the escaped text between them may
look like any of them.
-/

namespace RegisterAssembly

/-- The characters from the space to the tilde. -/
def IsPrintableAscii (c : Char) : Prop :=
  0x20 ≤ c.toNat ∧ c.toNat < 0x7F

instance (c : Char) : Decidable (IsPrintableAscii c) :=
  inferInstanceAs (Decidable (_ ∧ _))

theorem isPrintableAscii_of_all {chars : List Char}
    (all : chars.all (fun c => decide (IsPrintableAscii c)) = true) :
    ∀ c ∈ chars, IsPrintableAscii c := by
  simpa using all

/-- What the line of a token shows: its kind, its text, the length of the text and its payload. -/
def Token.shown (token : Token) : Kind × String × Nat × Int :=
  (token.kind, token.text, token.byteLength, token.payload)

/-! ## Escapes and numerals -/

namespace Text

theorem digitValue_hexDigit : ∀ value < 16, digitValue (hexDigit value) = value := by decide

theorem isPrintableAscii_hexDigit : ∀ value < 16, IsPrintableAscii (hexDigit value) := by decide

theorem length_hexDigits (width n : Nat) : (hexDigits width n).length = width := by
  induction width generalizing n with
  | zero => rfl
  | succ width ih => rw [hexDigits, List.length_append, ih, List.length_singleton]

theorem isPrintableAscii_of_mem_hexDigits {width n : Nat} {c : Char}
    (member : c ∈ hexDigits width n) : IsPrintableAscii c := by
  induction width generalizing n with
  | zero => exact absurd member List.not_mem_nil
  | succ width ih =>
      rw [hexDigits, List.mem_append, List.mem_singleton] at member
      rcases member with member | rfl
      · exact ih member
      · exact isPrintableAscii_hexDigit _ (Nat.mod_lt _ (by decide))

/-- The digits of a number denote what is left of it at their width. -/
theorem positional_hexDigits (width n : Nat) :
    Literal.positional 16 (hexDigits width n) 0 = n % 16 ^ width := by
  induction width generalizing n with
  | zero =>
      rw [Nat.pow_zero, Nat.mod_one]
      rfl
  | succ width ih =>
      have last : Literal.positional 16 (hexDigits (width + 1) n) 0 =
          Literal.positional 16 (hexDigits width (n / 16)) 0 * 16 +
            digitValue (hexDigit (n % 16)) := by
        simp [Literal.positional, hexDigits]
      rw [last, ih, digitValue_hexDigit _ (Nat.mod_lt _ (by decide)), Nat.pow_succ',
        Nat.mod_mul]
      omega

/-- The character of a code point in `width` digits, and the text after them. -/
def readCode (width : Nat) (chars : List Char) : Char × List Char :=
  (Char.ofNat (Literal.positional 16 (chars.take width) 0), chars.drop width)

/-- The first character of an escaped text, and the rest of that text. -/
def readChar? : List Char → Option (Char × List Char)
  | '\\' :: '\\' :: rest => some ('\\', rest)
  | '\\' :: 'n' :: rest => some ('\n', rest)
  | '\\' :: 'r' :: rest => some ('\r', rest)
  | '\\' :: 't' :: rest => some ('\t', rest)
  | '\\' :: 'x' :: rest => some (readCode 2 rest)
  | '\\' :: 'u' :: rest => some (readCode 4 rest)
  | '\\' :: 'U' :: rest => some (readCode 8 rest)
  | c :: rest => some (c, rest)
  | [] => none

theorem readChar?_of_ne {c : Char} (plain : c ≠ '\\') (rest : List Char) :
    readChar? (c :: rest) = some (c, rest) := by
  simp [readChar?, plain]

theorem readCode_hexDigits {width : Nat} {c : Char} (fits : c.toNat < 16 ^ width)
    (rest : List Char) : readCode width (hexDigits width c.toNat ++ rest) = (c, rest) := by
  rw [readCode, List.take_left' (length_hexDigits width _),
    List.drop_left' (length_hexDigits width _), positional_hexDigits, Nat.mod_eq_of_lt fits,
    Char.ofNat_toNat]

theorem toNat_lt (c : Char) : c.toNat < 16 ^ 8 :=
  c.val.toNat_lt

/-- The escape of a character is read back as the character, whatever follows it. -/
theorem readChar?_codeEscape (c : Char) (rest : List Char) :
    readChar? (codeEscape c ++ rest) = some (c, rest) := by
  rw [codeEscape]
  split
  · rename_i small
    exact congrArg some (readCode_hexDigits small rest)
  · split
    · rename_i small
      exact congrArg some (readCode_hexDigits small rest)
    · exact congrArg some (readCode_hexDigits (toNat_lt c) rest)

theorem readChar?_escapeChar (c : Char) (rest : List Char) :
    readChar? (escapeChar c ++ rest) = some (c, rest) := by
  by_cases named : c = '\\' ∨ c = '\n' ∨ c = '\r' ∨ c = '\t'
  · rcases named with rfl | rfl | rfl | rfl <;> rfl
  · simp only [not_or] at named
    obtain ⟨backslash, newline, carriageReturn, tab⟩ := named
    have unnamed : namedEscape? c = none := by
      simp [namedEscape?, backslash, newline, carriageReturn, tab]
    simp only [escapeChar, unnamed]
    split
    · exact readChar?_of_ne backslash rest
    · exact readChar?_codeEscape c rest

theorem readChar?_escaped_cons (c : Char) (chars : List Char) :
    readChar? (escaped (c :: chars)) = some (c, escaped chars) :=
  readChar?_escapeChar c (escaped chars)

/-- Texts that are shown alike are the same. -/
theorem escaped_injective : Function.Injective escaped := by
  intro left right same
  -- The first characters are read off the same text, and so is what follows them.
  have read := congrArg readChar? same
  induction left generalizing right with
  | nil =>
      cases right with
      | nil => rfl
      | cons c right =>
          rw [readChar?_escaped_cons] at read
          cases read
  | cons c left ih =>
      cases right with
      | nil =>
          rw [readChar?_escaped_cons] at read
          cases read
      | cons d right =>
          rw [readChar?_escaped_cons, readChar?_escaped_cons, Option.some.injEq,
            Prod.mk.injEq] at read
          rw [read.1, ih read.2 (congrArg readChar? read.2)]

theorem isPrintableAscii_of_mem_escapeChar {c shown : Char} (member : shown ∈ escapeChar c) :
    IsPrintableAscii shown := by
  by_cases named : c = '\\' ∨ c = '\n' ∨ c = '\r' ∨ c = '\t'
  · rcases named with rfl | rfl | rfl | rfl <;> exact isPrintableAscii_of_all rfl _ member
  · simp only [not_or] at named
    have unnamed : namedEscape? c = none := by simp [namedEscape?, named]
    simp only [escapeChar, unnamed] at member
    split at member
    · rename_i printable
      rwa [List.mem_singleton.mp member]
    · -- The escapes by code point differ in their mark and width only.
      have marked {mark : Char} {width : Nat} (printable : IsPrintableAscii mark)
          (among : shown ∈ '\\' :: mark :: hexDigits width c.toNat) : IsPrintableAscii shown := by
        rcases List.mem_cons.mp among with rfl | among
        · decide
        · rcases List.mem_cons.mp among with rfl | among
          · exact printable
          · exact isPrintableAscii_of_mem_hexDigits among
      rw [codeEscape] at member
      split at member
      · exact marked (by decide) member
      · split at member <;> exact marked (by decide) member

theorem isPrintableAscii_of_mem_escaped {chars : List Char} {c : Char}
    (member : c ∈ escaped chars) : IsPrintableAscii c := by
  obtain ⟨_, _, among⟩ := List.mem_flatMap.mp member
  exact isPrintableAscii_of_mem_escapeChar among

end Text

namespace Decimal

/-- The characters of decimal numerals. -/
theorem mem_text {n : Int} {c : Char} (member : c ∈ (text n).toList) : c = '-' ∨ c.isDigit := by
  have digit {m : Nat} (among : c ∈ digits m) : c.isDigit :=
    Nat.isDigit_of_mem_toDigits (by decide) (by decide) among
  cases n with
  | ofNat m =>
      rw [text, String.toList_ofList] at member
      exact .inr (digit member)
  | negSucc m =>
      rw [text, String.toList_ofList] at member
      exact (List.mem_cons.mp member).imp_right digit

theorem isPrintableAscii_of_mem_text {n : Int} {c : Char} (member : c ∈ (text n).toList) :
    IsPrintableAscii c := by
  rcases mem_text member with rfl | digit
  · decide
  · have range := Char.isDigit_iff_toNat.mp digit
    simp only [Char.reduceToNat] at range
    rw [IsPrintableAscii]
    omega

theorem space_not_mem_text (n : Int) : ' ' ∉ (text n).toList := by
  intro member
  rcases mem_text member with dash | digit
  · cases dash
  · cases digit

theorem digits_injective : Function.Injective digits := by
  intro left right same
  have number := congrArg (Nat.ofDigitChars 10 · 0) same
  simpa only [digits, Nat.ofDigitChars_ten_toDigits] using number

/-- Integers that are written alike are the same. -/
theorem text_injective : Function.Injective text := by
  have unsigned (m n : Nat) : digits m ≠ '-' :: digits n := by
    intro same
    have digit : '-'.isDigit := by
      have member : '-' ∈ digits m := same ▸ List.mem_cons_self
      exact Nat.isDigit_of_mem_toDigits (by decide) (by decide) member
    cases digit
  intro left right same
  have chars := congrArg String.toList same
  cases left with
  | ofNat m =>
      cases right with
      | ofNat n =>
          rw [text, text, String.toList_ofList, String.toList_ofList] at chars
          rw [digits_injective chars]
      | negSucc n =>
          rw [text, text, String.toList_ofList, String.toList_ofList] at chars
          exact absurd chars (unsigned _ _)
  | negSucc m =>
      cases right with
      | ofNat n =>
          rw [text, text, String.toList_ofList, String.toList_ofList] at chars
          exact absurd chars.symm (unsigned _ _)
      | negSucc n =>
          rw [text, text, String.toList_ofList, String.toList_ofList] at chars
          rw [Nat.succ.inj (digits_injective (List.cons.inj chars).2)]

end Decimal

/-! ## Lines -/

/-- The word before the first separator, and what comes after it. -/
theorem append_cons_inj_of_not_mem {α : Type} {separator : α} {word other left right : List α}
    (clean : separator ∉ word) (clean' : separator ∉ other)
    (same : word ++ separator :: left = other ++ separator :: right) :
    word = other ∧ left = right := by
  induction word generalizing other with
  | nil =>
      cases other with
      | nil => exact ⟨rfl, (List.cons.inj same).2⟩
      | cons a other => exact absurd ((List.cons.inj same).1 ▸ List.mem_cons_self) clean'
  | cons a word ih =>
      cases other with
      | nil => exact absurd ((List.cons.inj same).1 ▸ List.mem_cons_self) clean
      | cons b other =>
          rw [List.mem_cons, not_or] at clean clean'
          obtain ⟨first, rest⟩ := List.cons.inj same
          obtain ⟨words, rest⟩ := ih clean.2 clean'.2 rest
          exact ⟨by rw [first, words], rest⟩

/-- The word after the last separator, and what comes before it. -/
theorem append_cons_inj_of_not_mem_right {α : Type} {separator : α} {word other left right : List α}
    (clean : separator ∉ word) (clean' : separator ∉ other)
    (same : left ++ separator :: word = right ++ separator :: other) :
    left = right ∧ word = other := by
  have reversed := congrArg List.reverse same
  rw [List.reverse_append, List.reverse_append, List.reverse_cons, List.reverse_cons,
    List.append_assoc, List.append_assoc] at reversed
  have parts := append_cons_inj_of_not_mem (by simpa using clean) (by simpa using clean') reversed
  exact ⟨List.reverse_injective parts.2, List.reverse_injective parts.1⟩

namespace Kind

theorem name_injective : Function.Injective name := by
  intro left right
  cases left <;> cases right <;> decide

theorem space_not_mem_name (kind : Kind) : ' ' ∉ kind.name.toList := by
  cases kind <;> decide

theorem isPrintableAscii_of_mem_name {kind : Kind} {c : Char} (member : c ∈ kind.name.toList) :
    IsPrintableAscii c := by
  cases kind <;> exact isPrintableAscii_of_all (by decide) _ member

end Kind

namespace Token

/-- The line of a token up to the length of its text. -/
def opening (token : Token) : List Char :=
  "TokType: ".toList ++ (token.kind.name.toList ++ ' ' ::
    ("- ".toList ++ (Text.escaped token.text.toList ++ " (l:".toList)))

theorem toList_row (token : Token) :
    token.row.toList =
      (token.opening ++ ' ' :: ((Decimal.text token.byteLength).toList ++ [')']) ++
        " (mem:".toList) ++ ' ' :: ((Decimal.text token.payload).toList ++ [')']) := by
  unfold row display opening
  generalize token.kind.name = name
  generalize Decimal.text token.byteLength = length
  generalize Decimal.text token.payload = payload
  simp

theorem space_not_mem_closed (n : Int) : ' ' ∉ (Decimal.text n).toList ++ [')'] := by
  simp [Decimal.space_not_mem_text]

theorem opening_inj {left right : Token} (same : left.opening = right.opening) :
    left.kind = right.kind ∧ left.text = right.text := by
  obtain ⟨name, rest⟩ := append_cons_inj_of_not_mem left.kind.space_not_mem_name
    right.kind.space_not_mem_name (List.append_cancel_left same)
  have shown := List.append_cancel_right (List.append_cancel_left rest)
  exact ⟨Kind.name_injective (String.toList_inj.mp name),
    String.toList_inj.mp (Text.escaped_injective shown)⟩

/-- Tokens with the same line have the same kind, text and payload. -/
theorem row_inj {left right : Token} (same : left.row = right.row) :
    left.kind = right.kind ∧ left.text = right.text ∧ left.payload = right.payload := by
  have chars := congrArg String.toList same
  rw [toList_row, toList_row] at chars
  -- The shown text may hold spaces, but the last two words of the line are the numbers in it.
  obtain ⟨front, payload⟩ := append_cons_inj_of_not_mem_right
    (space_not_mem_closed left.payload) (space_not_mem_closed right.payload) chars
  obtain ⟨opening, -⟩ := append_cons_inj_of_not_mem_right
    (space_not_mem_closed left.byteLength) (space_not_mem_closed right.byteLength)
    (List.append_cancel_right front)
  obtain ⟨kind, text⟩ := opening_inj opening
  have written := String.toList_inj.mp (List.append_cancel_right payload)
  exact ⟨kind, text, Decimal.text_injective written⟩

theorem shown_factorsThrough_row : Function.FactorsThrough shown row := by
  intro left right same
  obtain ⟨kind, text, payload⟩ := row_inj same
  simp only [shown, byteLength, kind, text, payload]

theorem isPrintableAscii_of_mem_opening (token : Token) :
    ∀ c ∈ token.opening, IsPrintableAscii c := by
  have name : ∀ c ∈ token.kind.name.toList, IsPrintableAscii c := fun c =>
    Kind.isPrintableAscii_of_mem_name
  have text : ∀ c ∈ Text.escaped token.text.toList ++ " (l:".toList, IsPrintableAscii c :=
    List.forall_mem_append.mpr
      ⟨fun c => Text.isPrintableAscii_of_mem_escaped,
        isPrintableAscii_of_all (by decide +kernel)⟩
  have dash : ∀ c ∈ "- ".toList, IsPrintableAscii c := isPrintableAscii_of_all (by decide +kernel)
  have rest := List.forall_mem_append.mpr ⟨dash, text⟩
  exact List.forall_mem_append.mpr ⟨isPrintableAscii_of_all (by decide +kernel),
    List.forall_mem_append.mpr ⟨name, List.forall_mem_cons.mpr ⟨by decide, rest⟩⟩⟩

theorem isPrintableAscii_of_mem_row {token : Token} :
    ∀ c ∈ token.row.toList, IsPrintableAscii c := by
  have closed (n : Int) : ∀ c ∈ ' ' :: ((Decimal.text n).toList ++ [')']), IsPrintableAscii c :=
    List.forall_mem_cons.mpr ⟨by decide, List.forall_mem_append.mpr
      ⟨fun c => Decimal.isPrintableAscii_of_mem_text, isPrintableAscii_of_all (by decide)⟩⟩
  rw [toList_row, List.forall_mem_append, List.forall_mem_append, List.forall_mem_append]
  exact ⟨⟨⟨token.isPrintableAscii_of_mem_opening, closed _⟩,
    isPrintableAscii_of_all (by decide +kernel)⟩, closed _⟩

theorem toList_row_ne_nil (token : Token) : token.row.toList ≠ [] := by
  rw [toList_row]
  simp

theorem newline_not_mem_row (token : Token) : '\n' ∉ token.row.toList := by
  intro member
  exact absurd (isPrintableAscii_of_mem_row _ member) (by decide)

end Token

namespace Listing

theorem mem_dump {listing : Listing} {c : Char} (member : c ∈ listing.dump.toList) :
    c = '\n' ∨ ∃ token ∈ listing.tokens, c ∈ token.row.toList := by
  rw [dump, String.toList_intercalate, List.map_map] at member
  rcases @Text.mem_intercalate '\n' c _ member with newline | ⟨line, among, found⟩
  · exact .inl newline
  · obtain ⟨token, known, rfl⟩ := List.mem_map.mp among
    exact .inr ⟨token, known, found⟩

theorem lines_dump {listing : Listing} (nonempty : listing.tokens ≠ []) :
    Text.lines listing.dump.toList = listing.tokens.map (·.row.toList) := by
  rw [dump, String.toList_intercalate, List.map_map, Text.lines]
  apply Text.splitOn_intercalate
  · simpa using nonempty
  · intro line member
    obtain ⟨token, _, rfl⟩ := List.mem_map.mp member
    exact token.newline_not_mem_row

/-- The lines of a listing are its text at the newlines; the text of an empty listing has none. -/
theorem rows_eq (listing : Listing) :
    listing.tokens.map (·.row) =
      ((Text.lines listing.dump.toList).filter (· ≠ [])).map String.ofList := by
  by_cases empty : listing.tokens = []
  · simp [dump, empty, Text.lines]
  · have kept : (listing.tokens.map (·.row.toList)).filter (· ≠ []) =
        listing.tokens.map (·.row.toList) := by
      rw [List.filter_eq_self]
      intro line member
      obtain ⟨token, _, rfl⟩ := List.mem_map.mp member
      exact decide_eq_true token.toList_row_ne_nil
    rw [lines_dump empty, kept, List.map_map]
    exact List.map_congr_left fun token _ => String.ofList_toList.symm

theorem shown_of_dump_eq {left right : Listing} (same : left.dump = right.dump) :
    left.tokens.map Token.shown = right.tokens.map Token.shown := by
  have rows : left.tokens.map (·.row) = right.tokens.map (·.row) := by
    rw [rows_eq, rows_eq, same]
  have : Nonempty Kind := ⟨.newline⟩
  obtain ⟨read, shown⟩ := (Function.factorsThrough_iff _).mp Token.shown_factorsThrough_row
  rw [shown, ← List.map_map, ← List.map_map, rows]

theorem dump_of_dump? {listing : Listing} {text : String} (written : listing.dump? = .ok text) :
    listing.dump = text := by
  rw [dump?] at written
  split at written
  · exact Except.ok.inj written
  · cases written

/-- The text of a listing whose payloads can be written has one line of printable ASCII for each
token, and determines the kind, text, length and payload of every token. -/
theorem dump_lossless (listing : Listing)
    (writable : ∀ token ∈ listing.tokens, Decimal.Writable token.payload) :
    listing.dump? = .ok listing.dump ∧
      (∀ c ∈ listing.dump.toList, IsPrintableAscii c ∨ c = '\n') ∧
      (listing.tokens ≠ [] →
        (Text.lines listing.dump.toList).length = listing.tokens.length ∧
          ∀ line ∈ Text.lines listing.dump.toList,
            line ≠ [] ∧ ∀ c ∈ line, IsPrintableAscii c) ∧
      ∀ other : Listing, other.dump? = .ok listing.dump →
        other.tokens.map Token.shown = listing.tokens.map Token.shown := by
  have printable : ∀ line ∈ listing.tokens.map (·.row.toList),
      line ≠ [] ∧ ∀ c ∈ line, IsPrintableAscii c := by
    intro line member
    obtain ⟨token, _, rfl⟩ := List.mem_map.mp member
    exact ⟨token.toList_row_ne_nil, Token.isPrintableAscii_of_mem_row⟩
  refine ⟨if_pos writable, ?_, ?_, ?_⟩
  · intro c member
    rcases mem_dump member with newline | ⟨token, _, among⟩
    · exact .inr newline
    · exact .inl (Token.isPrintableAscii_of_mem_row c among)
  · intro nonempty
    rw [lines_dump nonempty, List.length_map]
    exact ⟨rfl, printable⟩
  · intro other written
    exact shown_of_dump_eq (dump_of_dump? written)

/-- A token whose text holds what looks like the rest of a line and a line of its own. -/
def deceptiveListing : Listing where
  tokens :=
    [{ kind := .invalid, text := "@ (l: 1) (mem: 0)\nTokType: INVALID - @", payload := -7 },
      { kind := .labelUse, text := "\\n😀é" }]

theorem dump_lossless_deceptive :
    (∀ token ∈ deceptiveListing.tokens, Decimal.Writable token.payload) ∧
      (Text.lines deceptiveListing.dump.toList).length = 2 ∧
      { deceptiveListing with
        tokens := [{ kind := .invalid, text := "@" }, { kind := .labelUse, text := "é" }] }.dump? ≠
          .ok deceptiveListing.dump := by
  have writable : ∀ token ∈ deceptiveListing.tokens, Decimal.Writable token.payload := by
    decide +kernel
  obtain ⟨_, _, lines, determined⟩ := dump_lossless deceptiveListing writable
  refine ⟨writable, (lines (by decide)).1, ?_⟩
  intro same
  exact absurd (determined _ same) (by decide +kernel)

end Listing
end RegisterAssembly
