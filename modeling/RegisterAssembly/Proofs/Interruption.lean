import RegisterAssembly.Proofs.Joining
import RegisterAssembly.Proofs.Reporting

/-!
# What an interrupted run leaves

A number with too many digits ends a run in the middle of its last pass.  By then every label
declaration has its line, and the tokens before the number have all that they get in a run that goes
through.  The number itself and what comes after it is left without payloads, and the report holds
the diagnostics of the tokens before the number.  A target that is not valid is refused earlier: the
source has been scanned, the report has been emptied, and no token has been looked at.
-/

namespace RegisterAssembly

namespace Token

/-- The characters that are read as a number, if the token is one. -/
def numeral (token : Token) : List Char :=
  if token.kind = .register then token.text.toList.drop 1 else token.text.toList

/-- What is refused at a token that takes too many digits: to read its number or, failing that, to
write its place. -/
def refusal (token : Token) : DigitLimit :=
  if token.Overlong then .reading token.numeral.length else .writing

end Token

/-- Tokens after a pass that was interrupted at an index. -/
structure InterruptedAt (target : Target) (before : List Token) (index : Nat)
    (after : List Token) : Prop where
  length_eq : after.length = before.length
  /-- A label declaration has its line, wherever it stands. -/
  declared : ∀ (position : Nat) (token : Token), before[position]? = some token →
    token.kind = .labelDeclaration →
    after[position]? = some (token.resolve (breaks (before.take position)))
  /-- The tokens before the index have the reference annotation. -/
  annotated : ∀ (position : Nat) (token : Token), position < index →
    before[position]? = some token →
    (∀ value, Annotates target before position value →
      after[position]? = some (token.resolve value)) ∧
    ((¬ ∃ value, Annotates target before position value) → after[position]? = some token.reset)
  /-- From the index on no other token has a payload. -/
  blank : ∀ (position : Nat) (token : Token), index ≤ position →
    before[position]? = some token →
    token.kind ≠ .labelDeclaration → after[position]? = some token.reset

theorem Text.length_lastLine_le (chars : List Char) :
    (lastLine chars).length ≤ chars.length := by
  induction chars using List.reverseRecOn with
  | nil => exact Nat.le_refl 0
  | append_singleton chars c ih =>
      rw [lastLine_append_singleton, List.length_append, List.length_singleton]
      split
      · exact Nat.zero_le _
      · rw [List.length_append, List.length_singleton]
        omega

namespace Listing

variable {source file : String} {token : Token}

/-- No line and no column of a source is beyond its number of characters by more than one, so that
the places in a source can be written if that number is small enough. -/
theorem writable_of_mem_scan (short : source.length + 1 < Decimal.writingLimit)
    (member : token ∈ (scan source file).tokens) : token.place.Writable := by
  obtain ⟨line, column⟩ := (Token.standsIn_iff _ _).mp (standsIn_of_mem_scan member).1
  have kept : (untilNul source).length ≤ source.length := by
    rw [← String.length_toList]
    exact (List.takeWhile_sublist _).length_le
  have taken : ((untilNul source).take token.start).length ≤ (untilNul source).length :=
    (List.take_sublist _ _).length_le
  have newlines := List.count_le_length (l := (untilNul source).take token.start) (a := '\n')
  have column_le := Text.length_lastLine_le ((untilNul source).take token.start)
  constructor
  · change token.line.natAbs < _
    omega
  · change token.column.natAbs < _
    omega

/-- In such a source a token takes too many digits only if its number has too many. -/
theorem exceedsDigits_iff_of_mem_scan (short : source.length + 1 < Decimal.writingLimit)
    (member : token ∈ (scan source file).tokens) (target : Target) (tokens : List Token) :
    token.ExceedsDigits target tokens ↔ token.Overlong := by
  constructor
  · rintro (long | ⟨_, unwritable⟩)
    · exact long
    · exact absurd (writable_of_mem_scan short member) unwritable
  · exact .inl

end Listing

/-! ## Interrupted runs -/

namespace Annotator

variable {annotator : Annotator} {listing : Listing} {index : Nat} {token : Token}

/-- A run that goes on after some tokens goes on after fewer. -/
theorem passes_of_le {count limit : Nat} (le : count ≤ limit)
    (passed : annotator.passes listing limit) : annotator.passes listing count := by
  rw [passes, ← List.take_append_drop count ((annotator.judged listing).take limit),
    List.take_take, Nat.min_eq_left le] at passed
  exact Recorder.clears_of_append passed

theorem getElem?_run_of_annotates_of_passes {value : Nat}
    (found : listing.tokens[index]? = some token) (passed : annotator.passes listing (index + 1))
    (annotated : Annotates annotator.target listing.tokens index value) :
    (annotator.run listing).listing.tokens[index]? = some (token.resolve value) := by
  cases annotated with
  | line found' declaration =>
      cases found.symm.trans found'
      exact getElem?_run_of_declaration found declaration
  | number found' _ denoted =>
      cases found.symm.trans found'
      exact getElem?_run_of_denotes found denoted passed

/-- A token at which the verdicts end a run interrupts it. -/
theorem interruptedAt_of_stop (limited : Decimal.Writable annotator.report.limit)
    (found : listing.tokens[index]? = some token)
    (going : ∀ earlier ∈ listing.tokens.take index, (annotator.verdict listing earlier).proceeds)
    (stopped : (annotator.verdict listing token).proceeds = false) :
    InterruptedAt annotator.target listing.tokens index
      (annotator.run listing).listing.tokens where
  length_eq := length_run annotator listing
  declared _ _ := getElem?_run_of_declaration
  annotated position other early found' := by
    have passed : annotator.passes listing index :=
      passes_of_proceeds (Recorder.fault_recordAll_of_writable limited _) going
    constructor
    · intro value annotated
      exact getElem?_run_of_annotates_of_passes found' (passes_of_le early passed) annotated
    · intro blank
      exact getElem?_run_of_not_annotates found' blank
  blank position other late found' undeclared := by
    apply getElem?_run_of_blank found' undeclared
    intro passed
    have beyond := passes_of_le (Nat.succ_le_succ late) passed
    have proceeding := proceeds_of_passes_succ found beyond
    rw [stopped] at proceeding
    cases proceeding

theorem source_run (annotator : Annotator) (listing : Listing) :
    (annotator.run listing).listing.source = listing.source ∧
      (annotator.run listing).listing.file = listing.file := by
  have kept (opened : Listing) :
      opened.openLines.source = opened.source ∧ opened.openLines.file = opened.file := by
    rw [Listing.openLines]
    split <;> exact ⟨rfl, rfl⟩
  simp only [run]
  split
  · exact kept _
  · exact ⟨rfl, rfl⟩

/-- The complaints of a run about the tokens before the one that ends it. -/
theorem complaints_of_stop (found : listing.tokens[index]? = some token)
    (going : ∀ earlier ∈ listing.tokens.take index, (annotator.verdict listing earlier).proceeds)
    (stopped : (annotator.verdict listing token).proceeds = false) :
    complaints (annotator.judged listing) =
      (listing.tokens.take index).filterMap
        fun token => (annotator.verdict listing token).complaint? := by
  obtain ⟨inside, equal⟩ := List.getElem?_eq_some_iff.mp found
  have parted : listing.tokens =
      listing.tokens.take index ++ token :: listing.tokens.drop (index + 1) := by
    rw [← equal, List.getElem_cons_drop, List.take_append_drop]
  have taken : (listing.tokens.takeWhile fun token =>
      (annotator.verdict listing token).proceeds) = listing.tokens.take index := by
    conv_lhs => rw [parted]
    rw [List.takeWhile_append_of_pos going, List.takeWhile_cons_of_neg (by simp [stopped]),
      List.append_nil]
  rw [complaints_judged, taken]

section Room

variable (bound : Decimal.Writable annotator.target.registerBound)
  (room : ∀ token ∈ listing.tokens, listing.HasRoom token)

include bound room

/-- The verdict on a token that takes too many digits is to refuse them. -/
theorem fault?_of_exceeds (member : token ∈ listing.tokens)
    (exceeds : token.ExceedsDigits annotator.target listing.tokens) :
    (annotator.verdict listing token).fault? = some (.digits token.refusal) := by
  rw [Token.refusal]
  by_cases long : token.Overlong
  · rw [if_pos long]
    rcases long with ⟨immediate, long⟩ | ⟨register, long⟩
    · simp [verdict, Verdict.judge, Finding.ofToken, Finding.ofImmediate, Verdict.ofFinding,
        Verdict.fault?, Token.numeral, immediate, Literal.evaluate_of_overlong long]
    · simp only [verdict, Verdict.judge, Finding.ofToken, Finding.ofRegister, Verdict.ofFinding,
        Verdict.fault?, Token.numeral, register, Literal.evaluate_of_overlong long, if_true]
  · rw [if_neg long]
    obtain ⟨rejected, unwritable⟩ := exceeds.resolve_left long
    have problem : ∃ problem, Finding.ofToken annotator.target
        (labelsFrom 0 (listing.tokens.map Token.reset)) token = .problem problem := by
      rcases rejected with rejected | invalid
      · obtain ⟨problem, _, found⟩ :=
          Finding.ofToken_of_rejected bound (known_labels listing) rejected long
        exact ⟨problem, found⟩
      · exact ⟨_, Finding.ofToken_of_invalid _ _ invalid⟩
    obtain ⟨problem, found⟩ := problem
    rw [verdict_problem (room token member) found, if_neg unwritable]
    rfl

/-- A run that ends with a fault is interrupted at the first token that takes too many digits. -/
theorem run_interrupted (limited : Decimal.Writable annotator.report.limit) {fault : Fault}
    (failed : (annotator.run listing).fault = some fault) :
    ∃ index token complaints, Reached listing.tokens index token ∧
      token.ExceedsDigits annotator.target listing.tokens ∧
      (∀ earlier ∈ listing.tokens.take index,
        ¬ earlier.ExceedsDigits annotator.target listing.tokens) ∧
      fault = .digits token.refusal ∧
      InterruptedAt annotator.target listing.tokens index
        (annotator.run listing).listing.tokens ∧
      List.Forall₂ (Diagnoses annotator.target listing)
        ((listing.tokens.take index).filter (·.Rejected annotator.target listing.tokens))
        complaints ∧
      (annotator.run listing).annotator.report =
        annotator.report.addAll (complaints.take annotator.report.room) := by
  rw [run_fault_eq_of_writable limited, failure?, Option.bind_eq_some_iff] at failed
  obtain ⟨token, stop, failing⟩ := failed
  obtain ⟨index, found, going, stopped⟩ := exists_of_stop? stop
  have member := List.mem_of_getElem? found
  have exceeds : token.ExceedsDigits annotator.target listing.tokens := by
    have apt := apt_of_mem bound room member
    generalize annotator.verdict listing token = verdict at apt failing
    cases apt with
    | fail exceeds => exact exceeds
    | _ => cases failing
  have refused := fault?_of_exceeds bound room member exceeds
  refine ⟨index, token, complaints (annotator.judged listing), ⟨found, valid_of_going going⟩,
    exceeds, ?_, ?_, interruptedAt_of_stop limited found going stopped, ?_, ?_⟩
  · intro earlier early exceeds
    have proceeding := going earlier early
    have failing := fault?_of_exceeds bound room (List.mem_of_mem_take early) exceeds
    generalize annotator.verdict listing earlier = verdict at proceeding failing
    cases verdict with
    | fail => cases proceeding
    | _ => cases failing
  · exact Option.some.inj (failing.symm.trans refused)
  · rw [complaints_of_stop found going stopped]
    apply forall₂_filter_filterMap
    intro earlier early
    exact complaint?_of_reached bound (going earlier early)
  · -- A refusal is not reported, so that nothing is added after the complaints.
    have silent : (annotator.verdict listing token).final? = none := by
      generalize annotator.verdict listing token = verdict at failing
      cases verdict with
      | fail => rfl
      | _ => cases failing
    rw [run_report, recorded_of_writable limited, alarm?, stop, Option.bind_some, silent,
      Option.toList_none, List.append_nil]

end Room

end Annotator

/-! ## Interrupted steps of a session -/

/-- A step of a session that was interrupted at a token of the scanned listing. -/
structure Step.InterruptedAt (target : Target) (scanned : Listing) (step : Step) (index : Nat)
    (token : Token) : Prop where
  reached : Annotator.Reached scanned.tokens index token
  exceeds : token.ExceedsDigits target scanned.tokens
  /-- No token before it takes too many digits. -/
  first : ∀ earlier ∈ scanned.tokens.take index, ¬ earlier.ExceedsDigits target scanned.tokens
  fault_eq : step.fault = some (.digits token.refusal)
  /-- The new listing has come in the place of the last one, annotated up to the token. -/
  listed : ∃ listing, step.session.current = some listing ∧ listing.source = scanned.source ∧
    listing.file = scanned.file ∧
    RegisterAssembly.InterruptedAt target scanned.tokens index listing.tokens
  /-- The report holds the diagnostics of the tokens before it, at most a hundred. -/
  reported : ∃ complaints, List.Forall₂ (Diagnoses target scanned)
      ((scanned.tokens.take index).filter (·.Rejected target scanned.tokens)) complaints ∧
    step.session.report.diagnostics.toList = complaints.take 100

namespace Session

variable {session : Session}

theorem blank_of_mem_scan {source file : String} {token : Token}
    (member : token ∈ (Listing.scan source file).tokens) :
    token.payload = 0 ∧ token.resolved = false := by
  have blank (cursor : Cursor) (lexemes : List Lexeme) :
      ∀ token ∈ Lexeme.place file cursor lexemes, token.payload = 0 ∧ token.resolved = false := by
    induction lexemes generalizing cursor with
    | nil => simp [Lexeme.place]
    | cons lexeme lexemes ih =>
        rw [Lexeme.place, List.forall_mem_cons]
        exact ⟨⟨rfl, rfl⟩, ih _⟩
  exact blank _ _ token member

theorem interrupted_of_fault (reachable : session.Reachable) (valid : session.target.Valid)
    {source file : String} (failed : (session.assemble source file).fault ≠ none) :
    ∃ index token, (session.assemble source file).InterruptedAt session.target
      (Listing.scan source file) index token := by
  have bound : Decimal.Writable session.annotator.target.registerBound :=
    Target.writable_of_valid valid
  obtain ⟨faults, current, reports⟩ := assemble_of_valid source file valid
  obtain ⟨fault, failed⟩ := Option.ne_none_iff_exists'.mp (faults ▸ failed)
  obtain ⟨index, token, complaints, reached, exceeds, first, refused, interrupted, about,
    report⟩ := Annotator.run_interrupted bound (fun _ => Listing.hasRoom_of_mem_scan)
      (writable_limit reachable) failed
  obtain ⟨kept, kept'⟩ := Annotator.source_run session.annotator (Listing.scan source file)
  refine ⟨index, token, reached, exceeds, first, ?_, ⟨_, current, kept, kept', interrupted⟩,
    complaints, about, ?_⟩
  · rw [faults, failed, refused]
  · rw [reports, report, Report.toList_addAll, room_annotator reachable]
    rfl

/-- What a step of a session leaves that ends with a fault.  If the target is not valid, that is the
fault, the report is empty and the tokens have only been scanned.  If it is valid, there is a fault
just if a token takes too many digits that no invalid one precedes, and the step is interrupted at
the first such token.  All places can be written unless a source has about `Decimal.writingLimit`
characters, which leaves the overlong numbers.  In no case are labels kept for the next run. -/
theorem assemble_interrupted {session : Session} (reachable : session.Reachable)
    (source file : String) :
    let scanned := Listing.scan source file
    let step := session.assemble source file
    (¬ session.target.Valid →
      step.fault = some (.ofSetting (.boundRange session.target.registerBound)) ∧
      step.session.report.diagnostics = #[] ∧ step.session.current = some scanned ∧
      ∀ token ∈ scanned.tokens, token.payload = 0 ∧ token.resolved = false) ∧
    (session.target.Valid →
      (step.fault ≠ none ↔ ∃ index token, Annotator.Reached scanned.tokens index token ∧
        token.ExceedsDigits session.target scanned.tokens) ∧
      (step.fault ≠ none →
        ∃ index token, step.InterruptedAt session.target scanned index token)) ∧
    (source.length + 1 < Decimal.writingLimit → ∀ token ∈ scanned.tokens,
      (token.ExceedsDigits session.target scanned.tokens ↔ token.Overlong)) ∧
    (session.annotator.run scanned).annotator.labels = [] := by
  refine ⟨?_, ?_, ?_, rfl⟩
  · intro invalid
    obtain ⟨fault, current, report⟩ := assemble_of_not_valid source file invalid
    refine ⟨fault, ?_, current, fun token => blank_of_mem_scan⟩
    rw [report]
    rfl
  · intro valid
    refine ⟨?_, interrupted_of_fault reachable valid⟩
    rw [ne_eq, fault_assemble_iff valid (writable_limit reachable)]
    push Not
    rfl
  · intro short token member
    exact Listing.exceedsDigits_iff_of_mem_scan short member _ _

/-- An overlong number on a line of its own is reached after lines without an invalid token. -/
theorem exists_reached_of_overlong_line {first second : String} {digits : List Char}
    (file : String) (noNul : '\x00' ∉ first.toList) (noNul' : '\x00' ∉ second.toList)
    (valid : ∀ token ∈ (Listing.scan first file).tokens, token.kind ≠ .invalid)
    (long : Literal.Overlong digits) :
    ∃ index token, Annotator.Reached
      (Listing.scan (first ++ "\n" ++ (String.ofList digits ++ "\n" ++ second)) file).tokens
        index token ∧ token.Overlong := by
  have noNul_digits : '\x00' ∉ digits := by
    intro member
    have digit := List.all_eq_true.mp long.2.1 _ member
    cases digit
  have noNul_line : '\x00' ∉ (String.ofList digits).toList := by
    rwa [String.toList_ofList]
  have noNul_rest : '\x00' ∉ (String.ofList digits ++ "\n" ++ second).toList := by
    simp [noNul_digits, noNul']
  obtain ⟨before, last, scanned, _, _, whole⟩ :=
    Listing.exists_tokens_scan_append_newline file noNul noNul_rest
  obtain ⟨line, ending, scanned', ends, _, rest⟩ :=
    Listing.exists_tokens_scan_append_newline file noNul_line noNul'
  obtain ⟨number, others, alone, immediate, text⟩ := exists_token_of_overlong file long
  have found : (Listing.scan (String.ofList digits ++ "\n" ++ second) file).tokens[0]? =
      some number := by
    rw [alone] at scanned'
    cases line with
    | nil =>
        cases scanned'
        rw [ends] at immediate
        cases immediate
    | cons token line =>
        cases scanned'
        rw [rest]
        rfl
  have overlong : number.Overlong := .inl ⟨immediate, by rwa [text, String.toList_ofList]⟩
  refine ⟨before.length + 1, number.moved (first.length + 1) (first.toList.count '\n' + 1),
    ⟨?_, ?_⟩, overlong⟩
  · rw [whole, List.getElem?_append_right (Nat.le_add_right _ 1), Nat.add_sub_cancel_left,
      List.getElem?_cons_succ, List.getElem?_map, found]
    rfl
  · intro earlier early
    rw [whole, List.take_append, List.take_of_length_le (Nat.le_add_right _ 1),
      Nat.add_sub_cancel_left, List.take_succ_cons, List.take_zero, List.mem_append,
      List.mem_singleton] at early
    rcases early with early | rfl
    · exact valid earlier (scanned ▸ List.mem_append_left _ early)
    · simp

/-- A session for eight registers that has assembled a source with errors. -/
def narrowed : Session :=
  (sample.assemble "wat r99 @" unnamedFile).session.setBound 7

theorem reachable_narrowed : narrowed.Reachable :=
  .step (.step reachable_sample (.assemble _ _ _)) (.setBound _ _)

theorem overlong_replicate {count : Nat} (many : Decimal.maxDigits < count) :
    Literal.Overlong (List.replicate count '9') := by
  have nonempty : count ≠ 0 := by omega
  refine ⟨?_, ?_, ?_⟩
  · simp [List.head?_replicate, nonempty]
  · simp [List.all_replicate, Char.isDigit]
  · rwa [List.length_replicate]

/-- A source with an overlong number after a resolved and a rejected token and between labels. -/
def interruptedSource : String :=
  "end: mov bogus" ++ "\n" ++ (String.ofList (List.replicate 4301 '9') ++ "\n" ++ "later:")

theorem assemble_interrupted_narrowed :
    narrowed.Reachable ∧ narrowed.report.count = 3 ∧
      (∃ index token, (narrowed.assemble interruptedSource unnamedFile).InterruptedAt
        narrowed.target (.scan interruptedSource unnamedFile) index token) ∧
      (narrowed.setBound (-1)).Reachable ∧
      ((narrowed.setBound (-1)).assemble "halt" unnamedFile).session.report.diagnostics = #[] ∧
      ((narrowed.setBound (-1)).assemble "halt" unnamedFile).session.current =
        some (.scan "halt" unnamedFile) := by
  have valid : narrowed.target.Valid := by decide +kernel
  obtain ⟨raises, leaves⟩ :=
    (assemble_interrupted reachable_narrowed interruptedSource unnamedFile).2.1 valid
  obtain ⟨index, token, reached, long⟩ := exists_reached_of_overlong_line unnamedFile
    (by decide +kernel : '\x00' ∉ "end: mov bogus".toList)
    (by decide +kernel : '\x00' ∉ "later:".toList) (by decide +kernel)
    (overlong_replicate (by decide : Decimal.maxDigits < 4301))
  have failed : (narrowed.assemble interruptedSource unnamedFile).fault ≠ none :=
    raises.mpr ⟨index, token, reached, .inl long⟩
  have refused : ¬ (narrowed.setBound (-1)).target.Valid := by decide +kernel
  have reachable : (narrowed.setBound (-1)).Reachable := .step reachable_narrowed (.setBound _ _)
  obtain ⟨_, report, current, _⟩ := (assemble_interrupted reachable "halt" unnamedFile).1 refused
  exact ⟨reachable_narrowed, by decide +kernel, leaves failed, reachable, report, current⟩

end Session
end RegisterAssembly
