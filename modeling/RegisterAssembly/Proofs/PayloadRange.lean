import RegisterAssembly.Proofs.Collection
import RegisterAssembly.Proofs.Joining

/-!
# The range of payloads

A payload is meant to be a 32-bit word.  Opcodes are words by their type, immediates and register
indices are compared with a bound before they are given to a token, and a token without a number
has payload zero.  The line of a label is the one payload that is not compared with anything: it is
the number of newlines before the label, so that the payloads of a source fit just if no label
comes after more newlines than there are words.
-/

namespace RegisterAssembly

namespace Token

/-- Tokens whose payload is a 32-bit word. -/
def Fits (token : Token) : Prop :=
  0 ≤ token.payload ∧ token.payload ≤ wordMax

theorem fits_reset (token : Token) : token.reset.Fits :=
  ⟨Int.le_refl 0, Int.natCast_nonneg wordMax⟩

theorem fits_resolve_iff (token : Token) (value : Nat) :
    (token.resolve value).Fits ↔ value ≤ wordMax := by
  simp only [Fits, resolve]
  omega

/-- A valid target has no number that is not a word. -/
theorem le_wordMax_of_denotes {target : Target} {token : Token} {value : Nat}
    (valid : target.Valid) (denoted : token.Denotes target value) : value ≤ wordMax := by
  cases kind : token.kind with
  | instruction =>
      obtain ⟨opcode, _, rfl⟩ := (denotes_instruction_iff kind).mp denoted
      have word := opcode.toNat_lt
      rw [wordMax]
      omega
  | immediate => exact ((denotes_immediate_iff kind).mp denoted).2
  | register =>
      have bounded := ((denotes_register_iff kind).mp denoted).2
      have largest := valid.2
      omega
  | _ => simp [Denotes, kind] at denoted

end Token

/-- The newlines before a token that comes after a gap stand before the gap. -/
theorem count_take_start {start : Nat} {before gap : List Char} {token : Token}
    (blank : ∀ c ∈ gap, c ∈ blanks) (length : before.length = start)
    (offset : token.offset = ((start + gap.length : Nat) : Int)) (rest : List Char) :
    ((before ++ (gap ++ rest)).take token.start).count '\n' = before.count '\n' := by
  have reached : (before ++ gap).length = token.start := by
    rw [Token.start_of_offset offset, List.length_append, length]
  rw [← List.append_assoc, List.take_left' reached, List.count_append,
    count_newline_of_blank blank, Nat.add_zero]

/-- The line breaks before a token of a cut are the newlines before it in the text. -/
theorem breaks_take_of_cut {start index : Nat} (before : List Char) {chars : List Char}
    {token : Token} {tokens : List Token} (cut : Cut start chars tokens)
    (length : before.length = start) (found : tokens[index]? = some token) :
    before.count '\n' + breaks (tokens.take index) =
      ((before ++ chars).take token.start).count '\n' := by
  induction cut generalizing before index with
  | @done start gap last blank _ _ offset =>
      cases index with
      | zero =>
          cases found
          have counted := count_take_start blank length offset []
          rw [List.append_nil] at counted
          exact counted.symm
      | succ index => simp at found
  | @more start gap rest head tokens blank spelled _ offset _ ih =>
      cases index with
      | zero =>
          cases found
          exact (count_take_start blank length offset _).symm
      | succ index =>
          have passed : (before ++ gap ++ head.text.toList).length =
              start + gap.length + head.text.length := by
            rw [List.length_append, List.length_append, length, String.length_toList]
          have counted := ih _ passed found
          rw [List.count_append, List.count_append, count_newline_of_blank blank,
            spelled.count_newline, Nat.add_zero] at counted
          rw [List.take_succ_cons, breaks_cons, ← Nat.add_assoc, counted]
          simp only [List.append_assoc]

theorem Listing.breaks_take_scan {source file : String} {index : Nat} {token : Token}
    (found : (Listing.scan source file).tokens[index]? = some token) :
    breaks ((Listing.scan source file).tokens.take index) =
      ((untilNul source).take token.start).count '\n' := by
  have counted := breaks_take_of_cut [] (Listing.cut_scan source file) rfl found
  simpa using counted

/-! ## Payloads of a run -/

namespace Annotator

variable {annotator : Annotator} {listing : Listing} {index : Nat} {token : Token}

/-- A run gives every token but a label declaration a word, if only zero. -/
theorem fits_of_getElem?_run (valid : annotator.target.Valid)
    (found : listing.tokens[index]? = some token) (other : token.kind ≠ .labelDeclaration) :
    ∃ annotated, (annotator.run listing).listing.tokens[index]? = some annotated ∧
      annotated.kind = token.kind ∧ annotated.Fits := by
  by_cases denoted : annotator.passes listing (index + 1) ∧
      ∃ value, token.Denotes annotator.target value
  · obtain ⟨passed, value, denoted⟩ := denoted
    refine ⟨_, getElem?_run_of_denotes found denoted passed, rfl, ?_⟩
    rw [Token.fits_resolve_iff]
    exact Token.le_wordMax_of_denotes valid denoted
  · refine ⟨token.reset, ?_, rfl, token.fits_reset⟩
    apply getElem?_run_of_blank found other
    intro passed denotes
    exact denoted ⟨passed, denotes⟩

end Annotator

namespace Session

variable {session : Session} {source file : String}

/-- The tokens of an assembled source are the scanned ones with payloads: words, or the number of
newlines before a label. -/
theorem payload_of_mem_run (annotator : Annotator) (valid : annotator.target.Valid)
    {token : Token} (member : token ∈ (annotator.run (.scan source file)).listing.tokens) :
    (token.kind = .labelDeclaration ∧
      token.payload = ((untilNul source).take token.start).count '\n') ∨
    (token.kind ≠ .labelDeclaration ∧ token.Fits) := by
  obtain ⟨index, found⟩ := List.mem_iff_getElem?.mp member
  cases scanned : (Listing.scan source file).tokens[index]? with
  | none =>
      rw [List.getElem?_eq_none_iff, ← Annotator.length_run annotator,
        ← List.getElem?_eq_none_iff, found] at scanned
      cases scanned
  | some original =>
      by_cases declaration : original.kind = .labelDeclaration
      · rw [Annotator.getElem?_run_of_declaration scanned declaration] at found
        have counted := congrArg Int.ofNat (Listing.breaks_take_scan scanned)
        cases found
        exact .inl ⟨declaration, counted⟩
      · obtain ⟨annotated, found', kind, fits⟩ :=
          Annotator.fits_of_getElem?_run valid scanned declaration
        cases found.symm.trans found'
        exact .inr ⟨kind ▸ declaration, fits⟩

/-- In a source that has been assembled, the payload of a label is the number of newlines before
it and every other payload is a 32-bit word.  So all payloads are words just if no label comes after
more newlines than fit in a word, as in every source that has no more newlines than that. -/
theorem assemble_payloads (session : Session) (source file : String)
    (returned : (session.assemble source file).fault = none) :
    ∃ listing, (session.assemble source file).session.current = some listing ∧
      (∀ token ∈ listing.tokens, token.kind = .labelDeclaration →
        token.payload = ((untilNul source).take token.start).count '\n') ∧
      (∀ token ∈ listing.tokens, token.kind ≠ .labelDeclaration → token.Fits) ∧
      ((∀ token ∈ listing.tokens, token.Fits) ↔
        ∀ token ∈ listing.tokens, token.kind = .labelDeclaration →
          ((untilNul source).take token.start).count '\n' ≤ wordMax) ∧
      (source.toList.count '\n' ≤ wordMax → ∀ token ∈ listing.tokens, token.Fits) := by
  have valid := valid_of_returned source file returned
  have payload {token : Token}
      (member : token ∈ (session.annotator.run (.scan source file)).listing.tokens) :=
    payload_of_mem_run session.annotator valid member
  have fits_iff : (∀ token ∈ (session.annotator.run (.scan source file)).listing.tokens,
      token.Fits) ↔
        ∀ token ∈ (session.annotator.run (.scan source file)).listing.tokens,
          token.kind = .labelDeclaration →
            ((untilNul source).take token.start).count '\n' ≤ wordMax := by
    apply forall₂_congr
    intro token member
    rcases payload member with ⟨declaration, counted⟩ | ⟨other, fits⟩
    · simp only [Token.Fits, counted, declaration, forall_const]
      omega
    · simp [other, fits]
  refine ⟨_, (assemble_of_valid source file valid).2.1, ?_, ?_, fits_iff, ?_⟩
  · intro token member declaration
    rcases payload member with ⟨_, counted⟩ | ⟨other, _⟩
    · exact counted
    · exact absurd declaration other
  · intro token member other
    rcases payload member with ⟨declaration, _⟩ | ⟨_, fits⟩
    · exact absurd declaration other
    · exact fits
  · intro few
    rw [fits_iff]
    intro token _ _
    have taken := ((List.take_sublist token.start (untilNul source)).trans
      (List.takeWhile_sublist _)).count_le '\n'
    exact Nat.le_trans taken few

theorem assemble_payloads_sample :
    (sample.assemble "\n0xFFFFFFFF\nlast: r31 jmp" unnamedFile).fault = none ∧
      ∃ listing, (sample.assemble "\n0xFFFFFFFF\nlast: r31 jmp" unnamedFile).session.current =
          some listing ∧
        ∀ token ∈ listing.tokens, token.Fits := by
  have returned : (sample.assemble "\n0xFFFFFFFF\nlast: r31 jmp" unnamedFile).fault = none := by
    decide +kernel
  obtain ⟨listing, current, _, _, _, fits⟩ := assemble_payloads _ _ _ returned
  exact ⟨returned, listing, current, fits (by decide +kernel)⟩

/-! ## A label that is too far down -/

/-- A label after a number of newlines, and nothing else. -/
def labelAfter (count : Nat) : String :=
  String.ofList (List.replicate count '\n') ++ "a:"

theorem labelAfter_succ (count : Nat) :
    labelAfter (count + 1) = "" ++ "\n" ++ labelAfter count := by
  rw [← String.toList_inj]
  simp [labelAfter, List.replicate_succ]

theorem kinds_scan_labelAfter (count : Nat) :
    (Listing.scan (labelAfter count) unnamedFile).kinds =
      List.replicate count .newline ++ [.labelDeclaration, .endOfInput] := by
  induction count with
  | zero => decide +kernel
  | succ count ih =>
      have noNul : '\x00' ∉ (labelAfter count).toList := by
        simp [labelAfter, List.mem_replicate]
      obtain ⟨tokens, last, front, _, _, whole⟩ :=
        Listing.exists_tokens_scan_append_newline unnamedFile
          (show '\x00' ∉ "".toList by simp) noNul
      -- The text before the first newline is empty, so that no token stands there.
      have single : (Listing.scan "" unnamedFile).tokens.length = 1 := by decide +kernel
      rw [front, List.length_append, List.length_singleton, Nat.add_eq_right,
        List.length_eq_zero_iff] at single
      rw [Listing.kinds] at ih ⊢
      rw [labelAfter_succ, whole, single, List.nil_append, List.map_cons, List.map_map,
        List.replicate_succ, List.cons_append, ← ih]
      rfl

theorem breaks_eq_count_kinds (tokens : List Token) :
    breaks tokens = (tokens.map (·.kind)).count .newline := by
  rw [breaks, List.count, List.countP_map]
  apply List.countP_congr
  simp

/-- Nothing but the length of the source keeps the line of a label within a word. -/
theorem payload_labelAfter (reachable : session.Reachable) (valid : session.target.Valid)
    (count : Nat) :
    (session.assemble (labelAfter count) unnamedFile).fault = none ∧
      ∃ listing, (session.assemble (labelAfter count) unnamedFile).session.current = some listing ∧
        ∃ token ∈ listing.tokens, token.payload = count := by
  have kinds := kinds_scan_labelAfter count
  rw [Listing.kinds] at kinds
  constructor
  · rw [fault_assemble_iff valid (writable_limit reachable)]
    rintro index token ⟨found, _⟩
    have kind : token.kind ∈ (Listing.scan (labelAfter count) unnamedFile).tokens.map (·.kind) :=
      List.mem_map_of_mem (List.mem_of_getElem? found)
    rw [kinds, List.mem_append, List.mem_replicate, List.mem_pair] at kind
    rcases kind with ⟨_, kind⟩ | kind | kind <;>
      simp [Token.ExceedsDigits, Token.Overlong, Token.Rejected, Token.Malformed, Token.Unknown,
        kind]
  · have kind := congrArg (·[count]?) kinds
    simp only [List.getElem?_map, List.getElem?_append_right, List.length_replicate, Nat.le_refl,
      Nat.sub_self, List.getElem?_cons_zero, Option.map_eq_some_iff] at kind
    obtain ⟨token, found, declaration⟩ := kind
    have counted : breaks
        ((Listing.scan (labelAfter count) unnamedFile).tokens.take count) = count := by
      rw [breaks_eq_count_kinds, List.map_take, kinds, List.take_left' List.length_replicate,
        List.count_replicate_self]
    have annotated := @Annotator.getElem?_run_of_declaration session.annotator _ _ _ found
      declaration
    rw [counted] at annotated
    exact ⟨_, (assemble_of_valid _ unnamedFile valid).2.1, _, List.mem_of_getElem? annotated, rfl⟩

/-- Not every payload fits: there is a source with a label after too many newlines. -/
theorem exists_payload_gt :
    ∃ source : String, source = String.ofList (List.replicate 4294967296 '\n') ++ "a:" ∧
      sample.Reachable ∧ sample.target.Valid ∧
      (sample.assemble source unnamedFile).fault = none ∧
      ∃ listing, (sample.assemble source unnamedFile).session.current = some listing ∧
        ∃ token ∈ listing.tokens, wordMax < token.payload := by
  have valid : sample.target.Valid := by decide
  obtain ⟨returned, listing, current, token, member, payload⟩ :=
    payload_labelAfter reachable_sample valid 4294967296
  refine ⟨labelAfter 4294967296, by rw [labelAfter], reachable_sample, valid, returned, listing,
    current, token, member, ?_⟩
  rw [payload, wordMax]
  decide

end Session
end RegisterAssembly
