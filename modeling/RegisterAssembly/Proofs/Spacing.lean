import RegisterAssembly.Proofs.Correspondence
import RegisterAssembly.Proofs.Interruption
import RegisterAssembly.Proofs.PayloadRange

/-!
# Blanks between tokens

Blanks carry no meaning but that they tell tokens apart.  If the texts of the tokens of a source are
written down again with any blanks between them, and with any or none before and after them, the
new text has the same tokens on the same lines.  Only offsets and columns depend on the blanks, and
with them the places to which diagnostics point and the lines that they quote.
-/

namespace RegisterAssembly

/-- A text of words, each with the gap after it, that starts with another gap. -/
def spaced (first : List Char) (words : List (String × List Char)) : List Char :=
  first ++ words.flatMap fun word => word.1.toList ++ word.2

/-- Gaps that tell words apart: they are blank, and no gap between two words is empty. -/
structure Spaces (first : List Char) (words : List (String × List Char)) : Prop where
  first_blank : ∀ c ∈ first, c ∈ blanks
  blank : ∀ word ∈ words, ∀ c ∈ word.2, c ∈ blanks
  apart : ∀ word ∈ words.dropLast, word.2 ≠ []

theorem spaced_cons (first : List Char) (word : String × List Char)
    (words : List (String × List Char)) :
    spaced first (word :: words) = first ++ (word.1.toList ++ spaced word.2 words) := by
  simp only [spaced, List.flatMap_cons, List.append_assoc]

namespace Spaces

variable {first : List Char} {word : String × List Char} {words : List (String × List Char)}

theorem tail (spaces : Spaces first (word :: words)) : Spaces word.2 words where
  first_blank := spaces.blank word List.mem_cons_self
  blank other member := spaces.blank other (List.mem_cons_of_mem _ member)
  apart other member := by
    cases words with
    | nil => cases member
    | cons next words => exact spaces.apart other (List.mem_cons_of_mem _ member)

/-- What comes next after a word is a blank. -/
theorem blank_of_head? (spaces : Spaces first (word :: words)) {next : Char}
    (head : (spaced word.2 words).head? = some next) : next ∈ blanks := by
  obtain ⟨text, gap⟩ := word
  cases gap with
  | nil =>
      cases words with
      | nil => cases head
      | cons other words => exact absurd rfl (spaces.apart (text, []) List.mem_cons_self)
  | cons c gap =>
      cases head
      exact spaces.blank (text, next :: gap) List.mem_cons_self next List.mem_cons_self

end Spaces

namespace Lexeme

/-- The kind and the text of a lexeme. -/
def entry (lexeme : Lexeme) : Kind × String :=
  (lexeme.kind, String.ofList lexeme.chars)

theorem shape_place (file : String) (cursor : Cursor) (lexemes : List Lexeme) :
    Annotator.shape (place file cursor lexemes) = lexemes.map entry := by
  induction lexemes generalizing cursor with
  | nil => rfl
  | cons lexeme lexemes ih =>
      rw [place, Annotator.shape, List.map_cons, ← Annotator.shape, ih]
      rfl

/-- The scanner finds the words of a text again if they are lexemes. -/
theorem map_entry_split_spaced {first : List Char} {words : List (String × List Char)}
    {entries : List (Kind × String)} (spaces : Spaces first words)
    (spelled : ∀ entry ∈ entries, Spelling entry.1 entry.2.toList)
    (texts : words.map Prod.fst = entries.map Prod.snd) :
    (split (spaced first words)).map entry = entries ++ [(.endOfInput, "")] := by
  induction entries generalizing first words with
  | nil =>
      cases List.map_eq_nil_iff.mp texts
      obtain ⟨_, dropped⟩ := @skip_gap first [] spaces.first_blank (by simp)
      rw [spaced, List.flatMap_nil, split_of_blank dropped]
      rfl
  | cons entry entries ih =>
      obtain ⟨word, words, rfl, text, remaining⟩ := List.map_eq_cons_iff.mp texts
      rw [List.forall_mem_cons] at spelled
      obtain ⟨kind, lexeme⟩ := entry
      obtain ⟨spelled, spelled'⟩ := spelled
      simp only at text spelled
      obtain ⟨c, body, chars, visible⟩ := exists_of_spelling spelled
      have starts : ∀ next, (lexeme.toList ++ spaced word.2 words).head? = some next →
          isBlank next = false := by
        rw [chars]
        rintro next ⟨⟩
        exact visible
      have taken : take c (body ++ spaced word.2 words) =
          (kind, lexeme.toList, spaced word.2 words) := by
        rw [chars] at spelled ⊢
        apply take_of_spelling spelled
        intro next head
        exact not_continues_of_blank (spaces.blank_of_head? head) kind
      obtain ⟨_, dropped⟩ := skip_gap spaces.first_blank starts
      rw [← text, ← spaced_cons] at dropped
      rw [split_of_start (dropped.trans (by rw [text, chars, List.cons_append])), taken,
        List.map_cons, ih spaces.tail spelled' remaining, Lexeme.entry, String.ofList_toList,
        List.cons_append]

end Lexeme

/-! ## Tokens by kind and text -/

namespace Listing

variable {source file : String} {index : Nat} {token : Token}

theorem nul_not_mem_of_mem_scan (member : token ∈ (scan source file).tokens) :
    '\x00' ∉ token.text.toList := by
  intro among
  have slice := ((decomposition_of_cut (cut_scan source file)).slices token member).2.2
  rw [slice] at among
  have kept := List.mem_takeWhile_imp (List.mem_of_mem_drop (List.mem_of_mem_take among))
  exact absurd kept (by decide)

/-- A scanned token stands one line below the line breaks before it. -/
theorem line_eq_breaks (found : (scan source file).tokens[index]? = some token) :
    token.line = breaks ((scan source file).tokens.take index) + 1 := by
  rw [breaks_take_scan found]
  exact ((Token.standsIn_iff _ _).mp (standsIn_of_mem_scan (List.mem_of_getElem? found)).1).1

/-- The kinds and texts of scanned tokens determine all but their offsets and columns. -/
theorem outline_eq_of_shape_eq {source' : String}
    (same : Annotator.shape (scan source file).tokens =
      Annotator.shape (scan source' file).tokens) :
    (scan source file).tokens.map (Token.outline fun _ => false) =
      (scan source' file).tokens.map (Token.outline fun _ => false) := by
  have outline {source : String} {index : Nat} {token : Token}
      (found : (scan source file).tokens[index]? = some token) :
      token.outline (fun _ => false) =
        { kind := token.kind, text := token.text, column := 0, file := file,
          line := breaks ((scan source file).tokens.take index) + 1 } := by
    have member := List.mem_of_getElem? found
    obtain ⟨payload, resolved⟩ := Session.blank_of_mem_scan member
    rw [Token.outline, ← line_eq_breaks found, (standsIn_of_mem_scan member).2, payload, resolved]
    rfl
  apply List.ext_getElem?
  intro index
  rw [List.getElem?_map, List.getElem?_map]
  cases found : (scan source file).tokens[index]? with
  | none =>
      have past : (scan source' file).tokens[index]? = none := by
        rw [List.getElem?_eq_none_iff, ← Annotator.length_shape, ← same, Annotator.length_shape]
        exact List.getElem?_eq_none_iff.mp found
      rw [past]
  | some token =>
      obtain ⟨other, found', kind, text⟩ := Annotator.exists_of_shape_eq same found
      have counted : breaks ((scan source' file).tokens.take index) =
          breaks ((scan source file).tokens.take index) := by
        rw [Annotator.breaks_eq_shape, Annotator.shape_take, ← same, ← Annotator.shape_take,
          ← Annotator.breaks_eq_shape]
      rw [found', Option.map_some, Option.map_some, outline found, outline found', kind, text,
        counted]

/-- A text of the texts of scanned tokens has the same tokens. -/
theorem shape_scan_spaced {first : List Char} {words : List (String × List Char)}
    {tokens : List Token} (spaces : Spaces first words)
    (among : ∀ token ∈ tokens, token ∈ (scan source file).tokens ∧ token.kind ≠ .endOfInput)
    (texts : words.map Prod.fst = tokens.map (·.text)) :
    Annotator.shape (scan (String.ofList (spaced first words)) file).tokens =
      Annotator.shape tokens ++ [(.endOfInput, "")] := by
  have noNul : '\x00' ∉ (String.ofList (spaced first words)).toList := by
    rw [String.toList_ofList, spaced, List.mem_append, List.mem_flatMap]
    rintro (inside | ⟨word, member, inside⟩)
    · exact absurd (spaces.first_blank _ inside) (by decide)
    · rcases List.mem_append.mp inside with inside | inside
      · obtain ⟨token, member', text⟩ : ∃ token ∈ tokens, token.text = word.1 := by
          rw [← List.mem_map, ← texts]
          exact List.mem_map_of_mem member
        exact nul_not_mem_of_mem_scan (among token member').1 (text ▸ inside)
      · exact absurd (spaces.blank word member _ inside) (by decide)
  have spelled : ∀ entry ∈ Annotator.shape tokens, Spelling entry.1 entry.2.toList := by
    intro entry member
    obtain ⟨token, member', rfl⟩ := List.mem_map.mp member
    obtain ⟨scanned, other⟩ := among token member'
    exact (decomposition_of_cut (cut_scan source file)).spelled token scanned other
  rw [scan, untilNul_of_not_mem noNul, String.toList_ofList, Lexeme.shape_place]
  apply Lexeme.map_entry_split_spaced spaces spelled
  rw [texts, Annotator.shape, List.map_map]
  rfl

/-- Written down again with other blanks, a source has the same tokens. -/
theorem shape_scan_again {first : List Char} {words : List (String × List Char)}
    (spaces : Spaces first words)
    (texts : words.map Prod.fst =
      ((scan source file).tokens.filter (·.kind ≠ .endOfInput)).map (·.text)) :
    Annotator.shape (scan (String.ofList (spaced first words)) file).tokens =
      Annotator.shape (scan source file).tokens := by
  have among : ∀ token ∈ (scan source file).tokens.filter (·.kind ≠ .endOfInput),
      token ∈ (scan source file).tokens ∧ token.kind ≠ .endOfInput := by
    simp
  obtain ⟨front, last, tokens, kind, text, _, others⟩ :=
    (decomposition_of_cut (cut_scan source file)).ends
  have visible : front.filter (·.kind ≠ .endOfInput) = front := by
    rw [List.filter_eq_self]
    intro token member
    simpa using (others token member).1
  have kept : (scan source file).tokens.filter (·.kind ≠ .endOfInput) = front := by
    rw [tokens, List.filter_append, visible]
    simp [kind]
  rw [shape_scan_spaced spaces among texts, kept, tokens]
  simp [Annotator.shape, kind, text]

/-- The text of a token is that token again. -/
theorem shape_scan_text (member : token ∈ (scan source file).tokens)
    (other : token.kind ≠ .endOfInput) :
    Annotator.shape (scan token.text file).tokens =
      [(token.kind, token.text), (.endOfInput, "")] := by
  have spaces : Spaces [] [(token.text, [])] := ⟨by simp, by simp, by simp⟩
  have among : ∀ single ∈ [token],
      single ∈ (scan source file).tokens ∧ single.kind ≠ .endOfInput := by
    simp [member, other]
  have alone := shape_scan_spaced spaces among rfl
  rwa [show spaced [] [(token.text, [])] = token.text.toList by simp [spaced],
    String.ofList_toList] at alone

end Listing

/-! ## Blanks between the tokens of a source -/

/-- The diagnostic without its column and the line that it quotes. -/
def Diagnostic.outline (diagnostic : Diagnostic) : Diagnostic where
  problem := diagnostic.problem
  place := diagnostic.place.map fun place => { place with column := 0 }

namespace Session

/-- Blanks between tokens carry no meaning.  A text that has the texts of the tokens of a source in
order, with blanks between them and around them, has tokens of the same kinds and texts on the same
lines.  Where the tokens of both get payloads, these are the same, and so are the diagnostics but
for their columns and the lines that they quote.  All tokens get theirs in both or in neither,
unless one text is so long that its columns cannot be written.  In particular the text of a single
token is that token again. -/
theorem assemble_spaced (session : Session) (source file : String) {first : List Char}
    {words : List (String × List Char)} (spaces : Spaces first words)
    (texts : words.map Prod.fst =
      ((Listing.scan source file).tokens.filter (·.kind ≠ .endOfInput)).map (·.text)) :
    let again := String.ofList (spaced first words)
    let step := session.assemble source file
    let step' := session.assemble again file
    (Listing.scan source file).tokens.map (Token.outline fun _ => false) =
      (Listing.scan again file).tokens.map (Token.outline fun _ => false) ∧
    (step.fault = none → step'.fault = none →
      step.Corresponds (fun _ => false) Diagnostic.outline Diagnostic.outline step') ∧
    (source.length + 1 < Decimal.writingLimit → again.length + 1 < Decimal.writingLimit →
      (step.fault = none ↔ step'.fault = none)) ∧
    ∀ token ∈ (Listing.scan source file).tokens, token.kind ≠ .endOfInput →
      Annotator.shape (Listing.scan token.text file).tokens =
        [(token.kind, token.text), (.endOfInput, "")] := by
  intro again step step'
  have outlined := Listing.outline_eq_of_shape_eq (Listing.shape_scan_again spaces texts).symm
  refine ⟨outlined, ?_, ?_, ?_⟩
  · apply corresponds_assemble
    refine ⟨outlined, ?_⟩
    intro token _ other _ same _ problem
    simp only [Diagnostic.outline, Option.map_some, Token.place, Token.line_eq_of_outline same,
      Token.file_eq_of_outline same]
  · intro short short'
    constructor
    · apply returned_of_outline_eq outlined
      intro _ _ other member _ _ _
      exact Listing.writable_of_mem_scan short' member
    · apply returned_of_outline_eq outlined.symm
      intro _ _ token member _ _ _
      exact Listing.writable_of_mem_scan short member
  · intro token
    exact Listing.shape_scan_text

/-- The words of a source in which each token stands directly against the next one. -/
def denseWords : List (String × List Char) :=
  [("1", [' ']), (":", ['\t']), ("a:", [' ', '\x0B']), (":", ['\r']), (",", [' ']), ("r1", [])]

theorem assemble_spaced_dense :
    Spaces ['\t'] denseWords ∧
      denseWords.map Prod.fst =
        ((Listing.scan "1:a::,r1" unnamedFile).tokens.filter (·.kind ≠ .endOfInput)).map (·.text) ∧
      (sample.assemble "1:a::,r1" unnamedFile).fault = none ∧
      (sample.assemble "\t1 :\ta: \x0B:\r, r1" unnamedFile).fault = none ∧
      (sample.assemble "1:a::,r1" unnamedFile).Corresponds (fun _ => false) Diagnostic.outline
        Diagnostic.outline (sample.assemble "\t1 :\ta: \x0B:\r, r1" unnamedFile) := by
  have spaces : Spaces ['\t'] denseWords :=
    ⟨by simp [blanks], by simp [denseWords, blanks], by simp [denseWords]⟩
  have texts : denseWords.map Prod.fst = ((Listing.scan "1:a::,r1" unnamedFile).tokens.filter
      (·.kind ≠ .endOfInput)).map (·.text) := by decide +kernel
  have returned : (sample.assemble "1:a::,r1" unnamedFile).fault = none := by decide +kernel
  have returned' : (sample.assemble "\t1 :\ta: \x0B:\r, r1" unnamedFile).fault = none := by
    decide +kernel
  obtain ⟨_, corresponds, _, _⟩ := assemble_spaced sample "1:a::,r1" unnamedFile spaces texts
  exact ⟨spaces, texts, returned, returned', corresponds returned returned'⟩

end Session
end RegisterAssembly
