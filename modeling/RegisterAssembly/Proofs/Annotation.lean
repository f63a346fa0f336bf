import RegisterAssembly.Proofs.Denotation

/-!
# The annotation of a listing

A run of an annotator gives every token the payload that its kind and its text call for.  This
reference annotation is stated by position: a label declaration gets the number of line breaks
before it, and a token that no invalid token precedes gets the number that it denotes.  Neither the
payloads nor the report from before the run leave a trace in it.
-/

namespace RegisterAssembly

/-- The number of line breaks among tokens. -/
def breaks (tokens : List Token) : Nat :=
  tokens.countP (·.kind = .newline)

/-- The payload that the token at an index gets from its kind and text and those before it. -/
inductive Annotates (target : Target) (tokens : List Token) (index : Nat) : Nat → Prop
  /-- A label declaration gets the number of line breaks before it. -/
  | line {token : Token} (found : tokens[index]? = some token)
      (declaration : token.kind = .labelDeclaration) :
      Annotates target tokens index (breaks (tokens.take index))
  /-- A token without an invalid one before it gets the number that it denotes. -/
  | number {token : Token} {value : Nat} (found : tokens[index]? = some token)
      (reached : ∀ earlier ∈ tokens.take index, earlier.kind ≠ .invalid)
      (denoted : token.Denotes target value) :
      Annotates target tokens index value

namespace Token

@[simp]
theorem kind_reset (token : Token) : token.reset.kind = token.kind := rfl

@[simp]
theorem text_reset (token : Token) : token.reset.text = token.text := rfl

@[simp]
theorem place_reset (token : Token) : token.reset.place = token.place := rfl

@[simp]
theorem resolve_reset (token : Token) (payload : Int) :
    token.reset.resolve payload = token.resolve payload := rfl

theorem denotes_congr {left right : Token} (kinds : left.kind = right.kind)
    (texts : left.text = right.text) (target : Target) (value : Nat) :
    left.Denotes target value ↔ right.Denotes target value := by
  simp only [Denotes, kinds, texts]

end Token

/-- A label declaration with its line, and any other token as it is. -/
def Token.withLine (line : Nat) (token : Token) : Token :=
  if token.kind = .labelDeclaration then token.resolve line else token

namespace Token

@[simp]
theorem kind_withLine (line : Nat) (token : Token) : (token.withLine line).kind = token.kind := by
  rw [withLine]
  split <;> rfl

@[simp]
theorem text_withLine (line : Nat) (token : Token) : (token.withLine line).text = token.text := by
  rw [withLine]
  split <;> rfl

@[simp]
theorem place_withLine (line : Nat) (token : Token) :
    (token.withLine line).place = token.place := by
  rw [withLine]
  split <;> rfl

end Token

theorem assignLines_cons (line : Nat) (token : Token) (tokens : List Token) :
    assignLines line (token :: tokens) =
      token.withLine line :: assignLines (line + breaks [token]) tokens := by
  cases kind : token.kind <;> simp [assignLines, Token.withLine, breaks, kind]

theorem getElem?_assignLines (line : Nat) (tokens : List Token) (index : Nat) :
    (assignLines line tokens)[index]? =
      tokens[index]?.map (Token.withLine (line + breaks (tokens.take index))) := by
  induction tokens generalizing line index with
  | nil => simp [assignLines]
  | cons token tokens ih =>
      rw [assignLines_cons]
      cases index with
      | zero => simp [breaks]
      | succ index =>
          have counted : line + breaks [token] + breaks (tokens.take index) =
              line + breaks (token :: tokens.take index) := by
            simp only [breaks, List.countP_cons, List.countP_nil]
            omega
          rw [List.getElem?_cons_succ, List.getElem?_cons_succ, ih, List.take_succ_cons, counted]

theorem length_assignLines (line : Nat) (tokens : List Token) :
    (assignLines line tokens).length = tokens.length := by
  induction tokens generalizing line with
  | nil => rfl
  | cons token tokens ih => rw [assignLines_cons, List.length_cons, ih, List.length_cons]

namespace Finding

variable {target : Target} {labels : List Label} {token : Token}

/-- The problem with a number is that it is malformed. -/
theorem malformedNumber_of_ofToken {problem : Problem}
    (number : token.kind = .immediate ∨ token.kind = .register)
    (found : ofToken target labels token = .problem problem) :
    ∃ role hint, problem = .malformedNumber token.text role hint := by
  have no_register : ∀ bound lexeme, ofNoRegister bound lexeme = .problem problem →
      ∃ role hint, problem = .malformedNumber lexeme role hint := by
    intro bound lexeme found
    rw [ofNoRegister] at found
    split at found
    · contradiction
    · cases found
      exact ⟨_, _, rfl⟩
  rcases number with immediate | register
  · simp only [ofToken, immediate, ofImmediate] at found
    split at found
    · contradiction
    · cases found
      exact ⟨_, _, rfl⟩
    · split at found
      · contradiction
      · cases found
        exact ⟨_, _, rfl⟩
  · simp only [ofToken, register, ofRegister] at found
    split at found
    · contradiction
    · exact no_register _ _ found
    · split at found
      · contradiction
      · exact no_register _ _ found

/-- Only an invalid token raises a fatal problem. -/
theorem fatal_iff_of_ofToken {problem : Problem}
    (found : ofToken target labels token = .problem problem) :
    problem.fatal ↔ token.kind = .invalid := by
  cases kind : token.kind with
  | instruction =>
      simp only [ofToken, kind, ofWord] at found
      split at found
      · contradiction
      · split at found
        · contradiction
        · cases found
          simp [Problem.fatal]
  | immediate =>
      obtain ⟨role, hint, rfl⟩ := malformedNumber_of_ofToken (.inl kind) found
      simp [Problem.fatal]
  | register =>
      obtain ⟨role, hint, rfl⟩ := malformedNumber_of_ofToken (.inr kind) found
      simp [Problem.fatal]
  | invalid =>
      rw [ofToken_of_invalid target labels kind] at found
      cases found
      simp [Problem.fatal]
  | _ => simp [ofToken, kind] at found

end Finding

namespace Verdict

/-- Why a verdict ends the pass without a report, if it does. -/
def fault? : Verdict → Option Fault
  | fail fault _ => some fault
  | _ => none

/-- The verdict on a token in a pass over a listing. -/
def judge (target : Target) (labels : List Label) (listing : Listing) (token : Token) : Verdict :=
  ofFinding listing token (.ofToken target labels token)

variable {target : Target} {labels : List Label} {listing : Listing} {token : Token}

@[simp]
theorem kind_settle (verdict : Verdict) (token : Token) :
    (verdict.settle token).kind = token.kind := by
  cases verdict <;> rfl

@[simp]
theorem text_settle (verdict : Verdict) (token : Token) :
    (verdict.settle token).text = token.text := by
  cases verdict <;> rfl

/-- A pass never goes on after an invalid token. -/
theorem not_proceeds_of_invalid (invalid : token.kind = .invalid) :
    (judge target labels listing token).proceeds = false := by
  simp only [judge, Finding.ofToken_of_invalid target labels invalid, ofFinding]
  split <;> rfl

/-- A pass that ends without a fault ends at an invalid token. -/
theorem invalid_of_not_proceeds (stopped : (judge target labels listing token).proceeds = false)
    (reported : (judge target labels listing token).fault? = none) : token.kind = .invalid := by
  cases finding : Finding.ofToken target labels token with
  | problem problem =>
      simp only [judge, finding, ofFinding] at stopped reported
      split at stopped
      · rename_i refused
        simp [refused, fault?] at reported
      · split at stopped
        · rename_i fatal
          exact (Finding.fatal_iff_of_ofToken finding).mp fatal
        · contradiction
  | tooLong limit => simp [judge, finding, ofFinding, fault?] at reported
  | _ => simp [judge, finding, ofFinding, proceeds] at stopped

theorem settle_of_denotes {value : Nat} (denoted : token.Denotes target value)
    (proceeding : (judge target labels listing token).proceeds) (other : Token) :
    (judge target labels listing token).settle other = other.resolve value := by
  have short : ¬ token.Overlong := by
    intro long
    obtain ⟨limit, found⟩ := Finding.ofToken_of_overlong target labels long
    simp [judge, found, ofFinding, proceeds] at proceeding
  simp only [judge, Finding.ofToken_of_denotes labels denoted short, ofFinding, settle]

theorem settle_of_not_denotes (blank : ¬ ∃ value, token.Denotes target value) (other : Token) :
    (judge target labels listing token).settle other = other := by
  cases finding : Finding.ofToken target labels token with
  | payload value => exact absurd finding (Finding.ofToken_ne_payload labels blank value)
  | problem problem =>
      simp only [judge, finding, ofFinding]
      split
      · rfl
      · split <;> rfl
  | _ => simp only [judge, finding, ofFinding, settle]

/-- A verdict depends on the kind, the text and the place of a token only. -/
theorem judge_congr {left right : Token} (kinds : left.kind = right.kind)
    (texts : left.text = right.text) (places : left.place = right.place) (target : Target)
    (labels : List Label) (listing : Listing) :
    judge target labels listing left = judge target labels listing right := by
  have lines : left.line = right.line := congrArg Place.line places
  have found : Finding.ofToken target labels left = Finding.ofToken target labels right := by
    simp only [Finding.ofToken, kinds, texts]
  cases finding : Finding.ofToken target labels right <;>
    simp only [judge, found, finding, ofFinding, places, lines]

end Verdict

/-! ## The last pass -/

namespace Verdict

/-- The diagnostic of a verdict after which the pass goes on. -/
def complaint? : Verdict → Option Diagnostic
  | complain diagnostic => some diagnostic
  | _ => none

/-- The diagnostic of a verdict that ends the pass, if there is one. -/
def final? : Verdict → Option Diagnostic
  | abort diagnostic => some diagnostic
  | _ => none

end Verdict

namespace Annotator

/-- The complaints of verdicts, up to the one that ends the pass. -/
def complaints (judged : List (Token × Verdict)) : List Diagnostic :=
  (judged.takeWhile (·.2.proceeds)).filterMap (·.2.complaint?)

/-- The diagnostics of verdicts: the complaints, and what is said where the pass ends. -/
def diagnostics (judged : List (Token × Verdict)) : List Diagnostic :=
  complaints judged ++ ((judged.find? fun entry => !entry.2.proceeds).bind (·.2.final?)).toList

theorem diagnostics_cons (token : Token) (verdict : Verdict) (judged : List (Token × Verdict)) :
    diagnostics ((token, verdict) :: judged) =
      if verdict.proceeds then verdict.complaint?.toList ++ diagnostics judged
      else verdict.final?.toList := by
  cases verdict <;> rfl

theorem diagnostics_append {front : List (Token × Verdict)}
    (going : front.all (·.2.proceeds)) (back : List (Token × Verdict)) :
    diagnostics (front ++ back) = front.filterMap (·.2.complaint?) ++ diagnostics back := by
  induction front with
  | nil => rfl
  | cons entry front ih =>
      obtain ⟨token, verdict⟩ := entry
      rw [List.all_cons, Bool.and_eq_true] at going
      rw [List.cons_append, diagnostics_cons, if_pos going.1, ih going.2, List.filterMap_cons]
      cases verdict.complaint? <;> rfl

end Annotator

namespace Recorder

variable {recorder : Recorder}

/-- Record diagnostics one after the other. -/
def recordAll (recorder : Recorder) (diagnostics : List Diagnostic) : Recorder :=
  diagnostics.foldl record recorder

@[simp]
theorem recordAll_nil (recorder : Recorder) : recorder.recordAll [] = recorder := rfl

@[simp]
theorem recordAll_cons (recorder : Recorder) (diagnostic : Diagnostic)
    (diagnostics : List Diagnostic) :
    recorder.recordAll (diagnostic :: diagnostics) =
      (recorder.record diagnostic).recordAll diagnostics := rfl

theorem recordAll_append (recorder : Recorder) (front back : List Diagnostic) :
    recorder.recordAll (front ++ back) = (recorder.recordAll front).recordAll back :=
  List.foldl_append

/-- After a fault nothing is recorded. -/
theorem recordAll_of_fault (failed : recorder.fault.isSome) (diagnostics : List Diagnostic) :
    recorder.recordAll diagnostics = recorder := by
  induction diagnostics with
  | nil => rfl
  | cons diagnostic diagnostics ih =>
      have unchanged : recorder.record diagnostic = recorder := by simp [record, failed]
      rw [recordAll_cons, unchanged, ih]

theorem unfailing_of_recordAll {diagnostics : List Diagnostic}
    (unfailing : (recorder.recordAll diagnostics).fault = none) : recorder.fault = none := by
  by_contra failed
  rw [recordAll_of_fault (Option.isSome_iff_ne_none.mpr failed)] at unfailing
  exact failed unfailing

theorem follow_of_proceeds (file : String) (recorder : Recorder) (token : Token) {verdict : Verdict}
    (proceeding : verdict.proceeds) :
    recorder.follow file token verdict = recorder.recordAll verdict.complaint?.toList := by
  cases verdict with
  | abort | fail => cases proceeding
  | _ => rfl

/-- Whether a pass goes on after all of these verdicts. -/
def clears (recorder : Recorder) (judged : List (Token × Verdict)) : Bool :=
  judged.all (·.2.proceeds) &&
    (recorder.recordAll (judged.filterMap (·.2.complaint?))).fault.isNone

theorem clears_cons (file : String) (recorder : Recorder) (token : Token) (verdict : Verdict)
    (judged : List (Token × Verdict)) :
    recorder.clears ((token, verdict) :: judged) =
      (verdict.proceeds && (recorder.follow file token verdict).clears judged) := by
  cases verdict <;> rfl

theorem not_clears_of_fault (failed : recorder.fault.isSome) (judged : List (Token × Verdict)) :
    recorder.clears judged = false := by
  obtain ⟨fault, failed'⟩ := Option.isSome_iff_exists.mp failed
  rw [clears, recordAll_of_fault failed, failed', Option.isNone_some, Bool.and_false]

theorem clears_of_append {front back : List (Token × Verdict)}
    (clear : recorder.clears (front ++ back)) : recorder.clears front := by
  simp only [clears, List.all_append, List.filterMap_append, recordAll_append, Bool.and_eq_true,
    Option.isNone_iff_eq_none] at clear ⊢
  exact ⟨clear.1.1, unfailing_of_recordAll clear.2⟩

/-- Tokens are settled as long as the pass goes on, and left alone from there on. -/
theorem getElem?_pass (file : String) (recorder : Recorder) (judged : List (Token × Verdict))
    (index : Nat) :
    (recorder.pass file judged).2[index]? =
      judged[index]?.map fun entry =>
        if recorder.clears (judged.take (index + 1)) then entry.2.settle entry.1
        else entry.1 := by
  induction judged generalizing recorder index with
  | nil => rfl
  | cons entry judged ih =>
      obtain ⟨token, verdict⟩ := entry
      rw [pass, List.take_succ_cons, clears_cons file]
      by_cases going : verdict.proceeds && (recorder.follow file token verdict).fault.isNone
      · rw [if_pos going]
        rw [Bool.and_eq_true] at going
        rw [going.1, Bool.true_and]
        cases index with
        | zero =>
            have clear : (recorder.follow file token verdict).clears (judged.take 0) := going.2
            rw [clear]
            rfl
        | succ index => exact ih _ index
      · rw [if_neg going]
        have stopped : (verdict.proceeds &&
            (recorder.follow file token verdict).clears (judged.take index)) = false := by
          cases proceeding : verdict.proceeds with
          | false => rfl
          | true =>
              apply not_clears_of_fault
              simpa [proceeding, Option.isSome_iff_ne_none] using going
        rw [stopped]
        cases index <;> simp

theorem length_pass (file : String) (recorder : Recorder) (judged : List (Token × Verdict)) :
    (recorder.pass file judged).2.length = judged.length := by
  induction judged generalizing recorder with
  | nil => rfl
  | cons entry judged ih =>
      rw [pass]
      split <;> simp [ih]

/-- A pass records the complaints and then follows the verdict at which it ends, unless there has
been a fault before. -/
theorem fst_pass (file : String) (unfailing : recorder.fault = none)
    (judged : List (Token × Verdict)) :
    (recorder.pass file judged).1 =
      let complained := recorder.recordAll (Annotator.complaints judged)
      match judged.find? fun entry => !entry.2.proceeds with
      | some entry =>
          if complained.fault.isSome then complained else complained.follow file entry.1 entry.2
      | none => complained := by
  induction judged generalizing recorder with
  | nil => rfl
  | cons entry judged ih =>
      obtain ⟨token, verdict⟩ := entry
      rw [pass, Annotator.complaints, List.find?_cons, List.takeWhile_cons]
      cases proceeding : verdict.proceeds with
      | true =>
          have complaining : ((token, verdict) :: judged.takeWhile (·.2.proceeds)).filterMap
              (·.2.complaint?) = verdict.complaint?.toList ++ Annotator.complaints judged := by
            rw [List.filterMap_cons, Annotator.complaints]
            cases verdict.complaint? <;> rfl
          rw [follow_of_proceeds file recorder token proceeding, Bool.true_and, if_pos rfl,
            complaining, recordAll_append]
          split
          · rename_i going
            exact ih (Option.isNone_iff_eq_none.mp going)
          · rename_i failed
            have failed' : (recorder.recordAll verdict.complaint?.toList).fault.isSome := by
              simpa [Option.isSome_iff_ne_none] using failed
            simp only [recordAll_of_fault failed', Bool.not_true]
            split
            · rw [if_pos failed']
            · rfl
      | false => simp [unfailing]

/-- Following a verdict that ends the pass reports its diagnostic. -/
theorem report_follow_of_not_proceeds (file : String) (recorder : Recorder) (token : Token)
    {verdict : Verdict} (stopped : verdict.proceeds = false) :
    (recorder.follow file token verdict).report =
      (recorder.recordAll verdict.final?.toList).report := by
  cases verdict with
  | abort diagnostic =>
      simp only [follow]
      split <;> rfl
  | fail => rfl
  | _ => cases stopped

theorem fault_follow_of_not_proceeds (file : String) (unfailing : recorder.fault = none)
    (token : Token) {verdict : Verdict} (stopped : verdict.proceeds = false) :
    (recorder.follow file token verdict).fault =
      (recorder.recordAll verdict.final?.toList).fault.or verdict.fault? := by
  cases verdict with
  | abort diagnostic =>
      simp only [follow, Verdict.final?, Verdict.fault?]
      split <;> simp
  | fail => simp [follow, Verdict.final?, Verdict.fault?, unfailing]
  | _ => cases stopped

/-- What a pass reports are its diagnostics. -/
theorem report_pass (file : String) (unfailing : recorder.fault = none)
    (judged : List (Token × Verdict)) :
    (recorder.pass file judged).1.report =
      (recorder.recordAll (Annotator.diagnostics judged)).report := by
  rw [fst_pass file unfailing, Annotator.diagnostics, recordAll_append]
  cases stop : judged.find? fun entry => !entry.2.proceeds with
  | none => rfl
  | some entry =>
      have stopped : entry.2.proceeds = false := by simpa using List.find?_some stop
      rw [Option.bind_some]
      generalize recorder.recordAll (Annotator.complaints judged) = complained
      change (if complained.fault.isSome then complained
        else complained.follow file entry.1 entry.2).report = _
      split
      · rename_i failed
        rw [recordAll_of_fault failed]
      · exact report_follow_of_not_proceeds file complained entry.1 stopped

/-- A pass has the fault of reporting its diagnostics or else of the verdict at which it ends. -/
theorem fault_pass (file : String) (unfailing : recorder.fault = none)
    (judged : List (Token × Verdict)) :
    (recorder.pass file judged).1.fault =
      (recorder.recordAll (Annotator.diagnostics judged)).fault.or
        ((judged.find? fun entry => !entry.2.proceeds).bind (·.2.fault?)) := by
  rw [fst_pass file unfailing, Annotator.diagnostics, recordAll_append]
  cases stop : judged.find? fun entry => !entry.2.proceeds with
  | none => exact Option.or_none.symm
  | some entry =>
      have stopped : entry.2.proceeds = false := by simpa using List.find?_some stop
      rw [Option.bind_some, Option.bind_some]
      generalize recorder.recordAll (Annotator.complaints judged) = complained
      change (if complained.fault.isSome then complained
        else complained.follow file entry.1 entry.2).fault = _
      split
      · rename_i failed
        rw [recordAll_of_fault failed, Option.or_of_isSome failed]
      · rename_i going
        exact fault_follow_of_not_proceeds file (by simpa using going) entry.1 stopped

end Recorder

namespace Annotator

/-- The verdicts of the last pass of a run. -/
def judged (annotator : Annotator) (listing : Listing) : List (Token × Verdict) :=
  let blank := { listing with tokens := listing.tokens.map Token.reset }
  ({ annotator with labels := blank.labels } : Annotator).verdicts blank.assignLabels

/-- The recorder that the last pass of a run starts with. -/
def opening (annotator : Annotator) (listing : Listing) : Recorder where
  report := annotator.report
  events := #[.labelled listing.file (labelsFrom 0 (listing.tokens.map Token.reset))]

theorem run_tokens (annotator : Annotator) (listing : Listing) :
    (annotator.run listing).listing.tokens =
      ((annotator.opening listing).pass listing.file (annotator.judged listing)).2 := rfl

/-- The tokens that the last pass of a run starts from. -/
def lined (tokens : List Token) : List Token :=
  assignLines 0 (tokens.map Token.reset)

/-- The listing whose lines the last pass of a run quotes. -/
def opened (listing : Listing) : Listing :=
  { listing with tokens := lined listing.tokens }.openLines

/-- The verdict of a run on a token. -/
def verdict (annotator : Annotator) (listing : Listing) (token : Token) : Verdict :=
  .judge annotator.target (labelsFrom 0 (listing.tokens.map Token.reset)) (opened listing) token

theorem judged_eq (annotator : Annotator) (listing : Listing) :
    annotator.judged listing =
      (lined listing.tokens).map fun token => (token, annotator.verdict listing token) := rfl

theorem getElem?_lined (tokens : List Token) (index : Nat) :
    (lined tokens)[index]? =
      tokens[index]?.map fun token =>
        token.reset.withLine (breaks (tokens.take index)) := by
  rw [lined, getElem?_assignLines, List.getElem?_map, Option.map_map, ← List.map_take, breaks,
    List.countP_map, Nat.zero_add]
  rfl

section ByToken

variable (annotator : Annotator) (listing : Listing)

theorem verdict_lined (token : Token) (line : Nat) :
    annotator.verdict listing (token.reset.withLine line) = annotator.verdict listing token :=
  Verdict.judge_congr (by simp) (by simp) (by simp) _ _ _

theorem map_snd_judged :
    (annotator.judged listing).map Prod.snd = listing.tokens.map (annotator.verdict listing) := by
  apply List.ext_getElem?
  intro index
  rw [judged_eq, List.map_map, List.getElem?_map, List.getElem?_map, getElem?_lined,
    Option.map_map]
  congr 1
  funext token
  exact verdict_lined annotator listing token _

/-- Whether a run goes on after the first tokens of a listing. -/
def passes (count : Nat) : Bool :=
  (annotator.opening listing).clears ((annotator.judged listing).take count)

/-- The token at which the last pass of a run ends early. -/
def stop? : Option Token :=
  listing.tokens.find? fun token => !(annotator.verdict listing token).proceeds

theorem find?_judged {result : Type} (f : Verdict → Option result) :
    ((annotator.judged listing).find? fun entry => !entry.2.proceeds).bind
        (fun entry => f entry.2) =
      (annotator.stop? listing).bind fun token => f (annotator.verdict listing token) := by
  have mapped := congrArg (fun verdicts => (verdicts.find? fun verdict => !verdict.proceeds).bind f)
    (map_snd_judged annotator listing)
  simp only [List.find?_map, Option.bind_map] at mapped
  exact mapped

/-- The fault of the verdict at which the last pass of a run ends early, if it has one. -/
def failure? : Option Fault :=
  (annotator.stop? listing).bind fun token => (annotator.verdict listing token).fault?

/-- A run has the fault of reporting its diagnostics or else of a verdict. -/
theorem run_fault :
    (annotator.run listing).fault =
      ((annotator.opening listing).recordAll (diagnostics (annotator.judged listing))).fault.or
        (annotator.failure? listing) := by
  rw [failure?, ← find?_judged]
  exact Recorder.fault_pass _ rfl _

variable {annotator listing} {index : Nat} {token : Token}

theorem failure?_of_returned (returned : (annotator.run listing).fault = none) :
    annotator.failure? listing = none := by
  rw [run_fault, Option.or_eq_none_iff] at returned
  exact returned.2

theorem all_take_judged_iff (count : Nat) :
    ((annotator.judged listing).take count).all (·.2.proceeds) ↔
      ∀ token ∈ listing.tokens.take count, (annotator.verdict listing token).proceeds := by
  have mapped := congrArg (fun verdicts => (verdicts.take count).all Verdict.proceeds)
    (map_snd_judged annotator listing)
  simp only [← List.map_take, List.all_map] at mapped
  change (List.all _ (Verdict.proceeds ∘ Prod.snd)) = true ↔ _
  rw [mapped, List.all_eq_true]
  rfl

theorem proceeds_of_passes {count : Nat} (passed : annotator.passes listing count) :
    ∀ token ∈ listing.tokens.take count, (annotator.verdict listing token).proceeds := by
  rw [passes, Recorder.clears, Bool.and_eq_true] at passed
  exact (all_take_judged_iff count).mp passed.1

/-- A run that can report its diagnostics goes on as long as the verdicts do. -/
theorem passes_of_proceeds {count : Nat}
    (unfailing : ((annotator.opening listing).recordAll
      (diagnostics (annotator.judged listing))).fault = none)
    (going : ∀ token ∈ listing.tokens.take count, (annotator.verdict listing token).proceeds) :
    annotator.passes listing count := by
  rw [← all_take_judged_iff] at going
  rw [← List.take_append_drop count (annotator.judged listing), diagnostics_append going,
    Recorder.recordAll_append] at unfailing
  rw [passes, Recorder.clears, going, Bool.true_and, Option.isNone_iff_eq_none]
  exact Recorder.unfailing_of_recordAll unfailing

theorem stop?_eq_some (found : listing.tokens[index]? = some token)
    (going : ∀ earlier ∈ listing.tokens.take index, (annotator.verdict listing earlier).proceeds)
    (stopped : (annotator.verdict listing token).proceeds = false) :
    annotator.stop? listing = some token := by
  have before : listing.tokens = listing.tokens.take index ++ listing.tokens.drop index :=
    (List.take_append_drop _ _).symm
  have none_before : (listing.tokens.take index).find?
      (fun token => !(annotator.verdict listing token).proceeds) = none := by
    rw [List.find?_eq_none]
    intro earlier member
    simp [going earlier member]
  obtain ⟨inside, equal⟩ := List.getElem?_eq_some_iff.mp found
  rw [stop?, before, List.find?_append, none_before, List.drop_eq_getElem_cons inside, equal]
  simp [stopped]

/-- The tokens after which the verdicts go on, and the one at which they end. -/
theorem exists_append_of_stop? (stop : annotator.stop? listing = some token) :
    ∃ front back, listing.tokens = front ++ token :: back ∧
      (annotator.verdict listing token).proceeds = false ∧
      ∀ earlier ∈ front, (annotator.verdict listing earlier).proceeds := by
  obtain ⟨stopped, front, back, tokens, going⟩ := List.find?_eq_some_iff_append.mp stop
  exact ⟨front, back, tokens, by simpa using stopped, by simpa using going⟩

theorem exists_of_stop? (stop : annotator.stop? listing = some token) :
    ∃ index, listing.tokens[index]? = some token ∧
      (∀ earlier ∈ listing.tokens.take index, (annotator.verdict listing earlier).proceeds) ∧
      (annotator.verdict listing token).proceeds = false := by
  obtain ⟨front, back, tokens, stopped, going⟩ := exists_append_of_stop? stop
  refine ⟨front.length, ?_, ?_, stopped⟩
  · simp [tokens]
  · rwa [tokens, List.take_left]

theorem proceeds_of_stop?_eq_none (unstopped : annotator.stop? listing = none) :
    ∀ token ∈ listing.tokens, (annotator.verdict listing token).proceeds := by
  simpa [stop?] using unstopped

theorem valid_of_proceeds (proceeding : (annotator.verdict listing token).proceeds) :
    token.kind ≠ .invalid := by
  intro invalid
  have stopped : (annotator.verdict listing token).proceeds = false :=
    Verdict.not_proceeds_of_invalid invalid
  rw [proceeding] at stopped
  cases stopped

theorem valid_of_going {count : Nat}
    (going : ∀ earlier ∈ listing.tokens.take count,
      (annotator.verdict listing earlier).proceeds) :
    ∀ earlier ∈ listing.tokens.take count, earlier.kind ≠ .invalid :=
  fun earlier member => valid_of_proceeds (going earlier member)

/-- If no verdict is a failure, the verdicts go on up to the first invalid token. -/
theorem proceeds_of_valid (unfailing : annotator.failure? listing = none) {count : Nat}
    (valid : ∀ earlier ∈ listing.tokens.take count, earlier.kind ≠ .invalid) :
    ∀ earlier ∈ listing.tokens.take count, (annotator.verdict listing earlier).proceeds := by
  cases stop : annotator.stop? listing with
  | none =>
      intro earlier member
      exact proceeds_of_stop?_eq_none stop earlier (List.mem_of_mem_take member)
  | some token =>
      obtain ⟨index, found, going, stopped⟩ := exists_of_stop? stop
      rw [failure?, stop, Option.bind_some] at unfailing
      have invalid : token.kind = .invalid := Verdict.invalid_of_not_proceeds stopped unfailing
      have late : count ≤ index := by
        by_contra early
        have among : token ∈ listing.tokens.take count := by
          apply List.mem_of_getElem? (i := index)
          rwa [List.getElem?_take_of_lt (Nat.lt_of_not_le early)]
        exact valid token among invalid
      intro earlier member
      exact going earlier ((List.take_prefix_take_left late).subset member)

/-- A run that ends without a fault goes on up to the first invalid token. -/
theorem passes_of_returned (returned : (annotator.run listing).fault = none) {count : Nat}
    (valid : ∀ earlier ∈ listing.tokens.take count, earlier.kind ≠ .invalid) :
    annotator.passes listing count := by
  rw [run_fault, Option.or_eq_none_iff] at returned
  exact passes_of_proceeds returned.1 (proceeds_of_valid returned.2 valid)

/-- The token at an index of a listing, with its line if it declares a label, and the verdict. -/
theorem getElem?_judged (found : listing.tokens[index]? = some token) :
    (annotator.judged listing)[index]? =
      some (token.reset.withLine (breaks (listing.tokens.take index)),
        annotator.verdict listing token) := by
  rw [judged_eq, List.getElem?_map, getElem?_lined, found, Option.map_some, Option.map_some,
    verdict_lined]

theorem proceeds_of_passes_succ (found : listing.tokens[index]? = some token)
    (passed : annotator.passes listing (index + 1)) :
    (annotator.verdict listing token).proceeds := by
  apply proceeds_of_passes passed
  rw [List.take_add_one, found]
  simp

/-- A run settles the tokens after which it goes on, once they have their lines. -/
theorem getElem?_run (found : listing.tokens[index]? = some token) :
    (annotator.run listing).listing.tokens[index]? =
      some (if annotator.passes listing (index + 1) then
        (annotator.verdict listing token).settle
          (token.reset.withLine (breaks (listing.tokens.take index)))
      else token.reset.withLine (breaks (listing.tokens.take index))) := by
  rw [run_tokens, Recorder.getElem?_pass, getElem?_judged found]
  rfl

theorem getElem?_run_of_declaration (found : listing.tokens[index]? = some token)
    (declaration : token.kind = .labelDeclaration) :
    (annotator.run listing).listing.tokens[index]? =
      some (token.resolve (breaks (listing.tokens.take index))) := by
  have lined (line : Nat) : token.reset.withLine line = token.resolve line := by
    simp [Token.withLine, declaration]
  have kept (other : Token) : (annotator.verdict listing token).settle other = other := by
    apply Verdict.settle_of_not_denotes
    simp [Token.Denotes, declaration]
  rw [getElem?_run found, lined, kept, ite_self]

theorem withLine_reset_of_ne (other : token.kind ≠ .labelDeclaration) (line : Nat) :
    token.reset.withLine line = token.reset := by
  simp [Token.withLine, other]

theorem getElem?_run_of_denotes {value : Nat} (found : listing.tokens[index]? = some token)
    (denoted : token.Denotes annotator.target value)
    (passed : annotator.passes listing (index + 1)) :
    (annotator.run listing).listing.tokens[index]? = some (token.resolve value) := by
  have other : token.kind ≠ .labelDeclaration := by
    intro declaration
    simp [Token.Denotes, declaration] at denoted
  rw [getElem?_run found, if_pos passed, withLine_reset_of_ne other, verdict,
    Verdict.settle_of_denotes denoted (proceeds_of_passes_succ found passed), Token.resolve_reset]

theorem getElem?_run_of_blank (found : listing.tokens[index]? = some token)
    (other : token.kind ≠ .labelDeclaration)
    (blank : annotator.passes listing (index + 1) →
      ¬ ∃ value, token.Denotes annotator.target value) :
    (annotator.run listing).listing.tokens[index]? = some token.reset := by
  rw [getElem?_run found, withLine_reset_of_ne other]
  by_cases passed : annotator.passes listing (index + 1)
  · rw [if_pos passed, verdict, Verdict.settle_of_not_denotes (blank passed)]
  · rw [if_neg passed]

end ByToken

/-! ## The reference annotation -/

variable {annotator : Annotator} {listing : Listing} {index : Nat} {token : Token}

theorem getElem?_run_of_annotates {value : Nat}
    (returned : (annotator.run listing).fault = none)
    (found : listing.tokens[index]? = some token)
    (annotated : Annotates annotator.target listing.tokens index value) :
    (annotator.run listing).listing.tokens[index]? = some (token.resolve value) := by
  cases annotated with
  | line found' declaration =>
      cases found.symm.trans found'
      exact getElem?_run_of_declaration found declaration
  | number found' reached denoted =>
      cases found.symm.trans found'
      apply getElem?_run_of_denotes found denoted
      apply passes_of_returned returned
      intro earlier member
      rw [List.take_add_one, found, List.mem_append] at member
      rcases member with member | member
      · exact reached earlier member
      · cases List.mem_singleton.mp member
        intro invalid
        simp [Token.Denotes, invalid] at denoted

theorem getElem?_run_of_not_annotates (found : listing.tokens[index]? = some token)
    (blank : ¬ ∃ value, Annotates annotator.target listing.tokens index value) :
    (annotator.run listing).listing.tokens[index]? = some token.reset := by
  apply getElem?_run_of_blank found
  · intro declaration
    exact blank ⟨_, .line found declaration⟩
  · rintro passed ⟨value, denoted⟩
    refine blank ⟨value, .number found ?_ denoted⟩
    intro earlier member
    apply valid_of_proceeds
    exact proceeds_of_passes passed earlier
      ((List.take_prefix_take_left (Nat.le_succ index)).subset member)

theorem length_run (annotator : Annotator) (listing : Listing) :
    (annotator.run listing).listing.tokens.length = listing.tokens.length := by
  rw [run_tokens, Recorder.length_pass, judged_eq, List.length_map, lined, length_assignLines,
    List.length_map]

/-- The kinds and texts of tokens, on which alone their annotation depends. -/
def shape (tokens : List Token) : List (Kind × String) :=
  tokens.map fun token => (token.kind, token.text)

theorem length_shape (tokens : List Token) : (shape tokens).length = tokens.length :=
  List.length_map _

theorem exists_of_shape_eq {left right : List Token} (same : shape left = shape right)
    (found : left[index]? = some token) :
    ∃ other, right[index]? = some other ∧ other.kind = token.kind ∧ other.text = token.text := by
  have shaped : (shape right)[index]? = some (token.kind, token.text) := by
    rw [← same, shape, List.getElem?_map, found]
    rfl
  rw [shape, List.getElem?_map, Option.map_eq_some_iff] at shaped
  obtain ⟨other, found, equal⟩ := shaped
  exact ⟨other, found, (Prod.mk.inj equal).1, (Prod.mk.inj equal).2⟩

/-- A run keeps the kinds and texts of all tokens. -/
theorem shape_run (annotator : Annotator) (listing : Listing) :
    shape (annotator.run listing).listing.tokens = shape listing.tokens := by
  apply List.ext_getElem?
  intro index
  rw [shape, shape, List.getElem?_map, List.getElem?_map]
  cases found : listing.tokens[index]? with
  | none =>
      have past : (annotator.run listing).listing.tokens[index]? = none := by
        rw [List.getElem?_eq_none_iff, length_run]
        exact List.getElem?_eq_none_iff.mp found
      rw [past]
  | some token =>
      rw [getElem?_run found]
      split <;> simp

theorem breaks_eq_shape (tokens : List Token) :
    breaks tokens = (shape tokens).countP (·.1 = .newline) := by
  rw [shape, List.countP_map]
  rfl

theorem valid_iff_shape (tokens : List Token) :
    (∀ token ∈ tokens, token.kind ≠ .invalid) ↔ ∀ entry ∈ shape tokens, entry.1 ≠ .invalid := by
  simp [shape]

theorem shape_take (tokens : List Token) (count : Nat) :
    shape (tokens.take count) = (shape tokens).take count :=
  List.map_take

theorem labelsFrom_of_shape_eq {left right : List Token} (same : shape left = shape right)
    (line : Nat) : labelsFrom line left = labelsFrom line right := by
  induction left generalizing right line with
  | nil => rw [List.map_eq_nil_iff.mp same.symm]
  | cons token left ih =>
      cases right with
      | nil => cases same
      | cons other right =>
          obtain ⟨first, rest⟩ := List.cons.inj same
          obtain ⟨kinds, texts⟩ := Prod.mk.inj first
          simp only [labelsFrom, kinds, texts, ih rest]

theorem declares_of_shape_eq {left right : List Token} (same : shape left = shape right)
    (name : String) : Declares left name ↔ Declares right name := by
  rw [← mem_labelsFrom_iff 0, labelsFrom_of_shape_eq same, mem_labelsFrom_iff]

theorem shape_map_reset (tokens : List Token) : shape (tokens.map Token.reset) = shape tokens :=
  List.map_map

theorem annotates_of_shape_eq {target : Target} {left right : List Token} {value : Nat}
    (same : shape left = shape right) (annotated : Annotates target left index value) :
    Annotates target right index value := by
  have same_take : shape (left.take index) = shape (right.take index) := by
    rw [shape_take, shape_take, same]
  cases annotated with
  | line found declaration =>
      obtain ⟨other, found, kinds, _⟩ := exists_of_shape_eq same found
      rw [breaks_eq_shape, same_take, ← breaks_eq_shape]
      exact .line found (kinds.trans declaration)
  | number found reached denoted =>
      obtain ⟨other, found, kinds, texts⟩ := exists_of_shape_eq same found
      rw [valid_iff_shape, same_take, ← valid_iff_shape] at reached
      exact .number found reached ((Token.denotes_congr kinds texts target value).mpr denoted)

theorem payloads_of_shape_eq {other : Annotator} {again : Listing}
    (target : other.target = annotator.target) (same : shape again.tokens = shape listing.tokens)
    (returned : (annotator.run listing).fault = none) (returned' : (other.run again).fault = none) :
    (other.run again).listing.tokens.map (fun token => (token.payload, token.resolved)) =
      (annotator.run listing).listing.tokens.map fun token => (token.payload, token.resolved) := by
  apply List.ext_getElem?
  intro index
  rw [List.getElem?_map, List.getElem?_map]
  cases found : again.tokens[index]? with
  | none =>
      have past : (other.run again).listing.tokens.length ≤ index := by
        rw [length_run]
        exact List.getElem?_eq_none_iff.mp found
      have past' : (annotator.run listing).listing.tokens.length ≤ index := by
        rwa [length_run, ← length_shape, ← same, length_shape, ← length_run other]
      rw [List.getElem?_eq_none past, List.getElem?_eq_none past']
  | some token =>
      obtain ⟨token', found', _, _⟩ := exists_of_shape_eq same found
      by_cases annotated : ∃ value, Annotates other.target again.tokens index value
      · obtain ⟨value, annotated⟩ := annotated
        have annotated' : Annotates annotator.target listing.tokens index value :=
          target ▸ annotates_of_shape_eq same annotated
        rw [getElem?_run_of_annotates returned' found annotated,
          getElem?_run_of_annotates returned found' annotated']
        rfl
      · have annotated' : ¬ ∃ value, Annotates annotator.target listing.tokens index value := by
          rintro ⟨value, annotates⟩
          exact annotated ⟨value, target ▸ annotates_of_shape_eq same.symm annotates⟩
        rw [getElem?_run_of_not_annotates found annotated,
          getElem?_run_of_not_annotates found' annotated']
        rfl

/-- A run that ends without a fault leaves the reference annotation: the tokens keep all but their
payloads, a token gets the payload that its kind and text and those before it call for, and a token
for which there is none is unresolved.  So runs for one target, with whatever reports, agree on all
listings of the same kinds and texts, with whatever payloads before. -/
theorem run_annotates (annotator : Annotator) (listing : Listing)
    (returned : (annotator.run listing).fault = none) :
    (annotator.run listing).listing.tokens.length = listing.tokens.length ∧
      (∀ index token, listing.tokens[index]? = some token →
        (∀ value, Annotates annotator.target listing.tokens index value →
          (annotator.run listing).listing.tokens[index]? = some (token.resolve value)) ∧
        ((¬ ∃ value, Annotates annotator.target listing.tokens index value) →
          (annotator.run listing).listing.tokens[index]? = some token.reset)) ∧
      ∀ (other : Annotator) (again : Listing), other.target = annotator.target →
        shape again.tokens = shape listing.tokens → (other.run again).fault = none →
        (other.run again).listing.tokens.map (fun token => (token.payload, token.resolved)) =
          (annotator.run listing).listing.tokens.map
            fun token => (token.payload, token.resolved) := by
  refine ⟨length_run annotator listing, ?_, ?_⟩
  · intro index token found
    constructor
    · intro value annotated
      exact getElem?_run_of_annotates returned found annotated
    · intro blank
      exact getElem?_run_of_not_annotates found blank
  · intro other again target same returned'
    exact payloads_of_shape_eq target same returned returned'

/-- A listing made by hand, with payloads from before, for which the report has no room. -/
def sampleListing : Listing where
  tokens :=
    [{ kind := .labelDeclaration, text := "r7:", payload := 99 },
      { kind := .instruction, text := "mov" },
      { kind := .register, text := "r010", payload := 5, resolved := true },
      { kind := .newline, text := "\n" },
      { kind := .immediate, text := "0x1F" },
      { kind := .invalid, text := "@", payload := 1, resolved := true },
      { kind := .labelDeclaration, text := "end:" },
      { kind := .instruction, text := "mov", payload := 2, resolved := true }]

theorem run_annotates_sample :
    (Annotator.run { target := {}, report := { limit := -1 } } sampleListing).fault = none ∧
      (Annotator.run { target := {}, report := { limit := -1 } } sampleListing).listing.tokens[2]? =
        some { kind := .register, text := "r010", payload := 8, resolved := true } ∧
      (Annotator.run { target := {}, report := { limit := -1 } } sampleListing).listing.tokens[7]? =
        some { kind := .instruction, text := "mov" } := by
  have returned :
      (Annotator.run { target := {}, report := { limit := -1 } } sampleListing).fault = none := by
    decide +kernel
  have annotated := (run_annotates { target := {}, report := { limit := -1 } } sampleListing
    returned).2.1
  refine ⟨returned, (annotated 2 _ rfl).1 8 ?_, (annotated 7 _ rfl).2 ?_⟩
  · refine .number rfl (by decide) ?_
    rw [← Token.denoted?_eq_some_iff]
    decide +kernel
  · rintro ⟨value, annotated⟩
    cases annotated with
    | line found declaration =>
        cases found
        cases declaration
    | number found reached denoted => exact reached _ (by decide : sampleListing.tokens[5] ∈ _) rfl

end Annotator
end RegisterAssembly
