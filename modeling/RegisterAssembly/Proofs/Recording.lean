import Mathlib.Data.List.TakeWhile
import RegisterAssembly.Proofs.Annotation

/-!
# What a run records

A run adds to its report the complaints of its last pass, in the order of the tokens and as far as
there is room, and then the diagnostic of the invalid token that ends the pass, for which there is
always room.  One token gives rise to at most one diagnostic.  If the limit of the report is too
long to be written, the diagnostic that fills the report ends the run with a fault instead.  Where a
caret has room under every token, a run has no other faults than numbers with too many digits, and
apart from such a limit these come from the tokens that it reaches.
-/

namespace RegisterAssembly

namespace Report

/-- Collect and echo diagnostics, one after the other. -/
def addAll (report : Report) (diagnostics : List Diagnostic) : Report :=
  diagnostics.foldl add report

@[simp]
theorem addAll_nil (report : Report) : report.addAll [] = report := rfl

@[simp]
theorem addAll_cons (report : Report) (diagnostic : Diagnostic) (diagnostics : List Diagnostic) :
    report.addAll (diagnostic :: diagnostics) = (report.add diagnostic).addAll diagnostics := rfl

theorem addAll_append (report : Report) (front back : List Diagnostic) :
    report.addAll (front ++ back) = (report.addAll front).addAll back :=
  List.foldl_append

@[simp]
theorem limit_add (report : Report) (diagnostic : Diagnostic) :
    (report.add diagnostic).limit = report.limit := rfl

@[simp]
theorem limit_addAll (report : Report) (diagnostics : List Diagnostic) :
    (report.addAll diagnostics).limit = report.limit := by
  induction diagnostics generalizing report with
  | nil => rfl
  | cons diagnostic diagnostics ih => rw [addAll_cons, ih, limit_add]

@[simp]
theorem toList_addAll (report : Report) (diagnostics : List Diagnostic) :
    (report.addAll diagnostics).diagnostics.toList =
      report.diagnostics.toList ++ diagnostics := by
  induction diagnostics generalizing report with
  | nil => simp
  | cons diagnostic diagnostics ih => simp [ih]

/-- How many diagnostics that are not fatal a run can add to a report: one even if it is full. -/
def room (report : Report) : Nat :=
  (max 1 (report.limit - report.count)).toNat

/-- A report takes so many diagnostics without a fault: it can say that it is full or does not come
to that. -/
def Takes (report : Report) (count : Nat) : Prop :=
  Decimal.Writable report.limit ∨ count < report.room

instance (report : Report) (count : Nat) : Decidable (report.Takes count) :=
  inferInstanceAs (Decidable (_ ∨ _))

theorem Takes.mono {report : Report} {few many : Nat} (takes : report.Takes many)
    (le : few ≤ many) : report.Takes few :=
  takes.imp_right (Nat.lt_of_le_of_lt le)

theorem room_of_isFull_add {report : Report} {diagnostic : Diagnostic}
    (full : (report.add diagnostic).isFull) : report.room = 1 := by
  simp only [isFull, limit_add, count_add, decide_eq_true_eq] at full
  simp only [room]
  omega

theorem room_of_not_isFull_add {report : Report} {diagnostic : Diagnostic}
    (spare : ¬ (report.add diagnostic).isFull) :
    report.room = (report.add diagnostic).room + 1 := by
  simp only [isFull, limit_add, count_add, decide_eq_true_eq] at spare
  simp only [room, limit_add, count_add]
  omega

end Report

namespace Recorder

variable {recorder : Recorder} {diagnostics : List Diagnostic}

theorem limit_record (recorder : Recorder) (diagnostic : Diagnostic) :
    (recorder.record diagnostic).report.limit = recorder.report.limit := by
  rw [record]
  split
  · rfl
  · rw [report_heed]
    rfl

/-- A diagnostic is added unless there has been a fault or the report was found full. -/
theorem record_of_added (unfailing : recorder.fault = none) {diagnostic : Diagnostic}
    (taken : recorder.capped = false ∨ diagnostic.fatal) :
    recorder.record diagnostic =
      (recorder.add diagnostic).heed (recorder.report.add diagnostic).overflow? := by
  rw [record, unfailing, if_neg]
  rcases taken with uncapped | fatal <;> simp [*]

theorem report_record_of_added (unfailing : recorder.fault = none) {diagnostic : Diagnostic}
    (taken : recorder.capped = false ∨ diagnostic.fatal) :
    (recorder.record diagnostic).report = recorder.report.add diagnostic := by
  rw [record_of_added unfailing taken, report_heed]
  rfl

/-- As long as the report is not full, a diagnostic is added and nothing else happens. -/
theorem record_of_spare (unfailing : recorder.fault = none) (uncapped : recorder.capped = false)
    {diagnostic : Diagnostic} (spare : (recorder.report.add diagnostic).isFull = false) :
    recorder.record diagnostic = recorder.add diagnostic := by
  rw [record_of_added unfailing (.inl uncapped), Report.overflow?, spare]
  rfl

section Writable

variable (writable : Decimal.Writable recorder.report.limit)

include writable

theorem fault_record_of_writable (diagnostic : Diagnostic) :
    (recorder.record diagnostic).fault = recorder.fault := by
  have writable' : Decimal.Writable (recorder.report.add diagnostic).limit := writable
  rw [record]
  split
  · rfl
  · rw [Report.overflow?, if_pos writable']
    split
    · simp only [heed]
      split <;> rfl
    · rfl

theorem fault_recordAll_of_writable (diagnostics : List Diagnostic) :
    (recorder.recordAll diagnostics).fault = recorder.fault := by
  induction diagnostics generalizing recorder with
  | nil => rfl
  | cons diagnostic diagnostics ih =>
      have writable' := writable
      rw [← limit_record recorder diagnostic] at writable'
      rw [recordAll_cons, ih writable', fault_record_of_writable writable]

theorem capped_record_of_isFull (unfailing : recorder.fault = none) {diagnostic : Diagnostic}
    (full : (recorder.report.add diagnostic).isFull) : (recorder.record diagnostic).capped := by
  have writable' : Decimal.Writable (recorder.report.add diagnostic).limit := writable
  rw [record]
  split
  · rename_i skipped
    simp only [unfailing, Option.isSome_none, Bool.false_or, Bool.and_eq_true] at skipped
    exact skipped.1
  · rw [Report.overflow?, if_pos full, if_pos writable']
    simp only [heed]
    split
    · assumption
    · rfl

end Writable

theorem recordAll_of_capped (capped : recorder.capped)
    (mild : ∀ diagnostic ∈ diagnostics, diagnostic.fatal = false) :
    recorder.recordAll diagnostics = recorder := by
  induction diagnostics with
  | nil => rfl
  | cons diagnostic diagnostics ih =>
      rw [List.forall_mem_cons] at mild
      have unchanged : recorder.record diagnostic = recorder := by simp [record, capped, mild.1]
      rw [recordAll_cons, unchanged, ih mild.2]

/-- Of diagnostics that are not fatal a recorder takes the first ones, as far as there is room. -/
theorem report_recordAll_of_writable (writable : Decimal.Writable recorder.report.limit)
    (unfailing : recorder.fault = none) (uncapped : recorder.capped = false)
    (mild : ∀ diagnostic ∈ diagnostics, diagnostic.fatal = false) :
    (recorder.recordAll diagnostics).report =
      recorder.report.addAll (diagnostics.take recorder.report.room) := by
  induction diagnostics generalizing recorder with
  | nil => simp
  | cons diagnostic diagnostics ih =>
      rw [List.forall_mem_cons] at mild
      rw [recordAll_cons]
      cases full : (recorder.report.add diagnostic).isFull with
      | true =>
          rw [recordAll_of_capped (capped_record_of_isFull writable unfailing full) mild.2,
            report_record_of_added unfailing (.inl uncapped), Report.room_of_isFull_add full]
          rfl
      | false =>
          rw [record_of_spare unfailing uncapped full,
            Report.room_of_not_isFull_add (Bool.eq_false_iff.mp full), List.take_succ_cons,
            Report.addAll_cons]
          exact @ih (recorder.add diagnostic) writable unfailing uncapped mild.2

/-- If a full report cannot say so, the diagnostic that fills it is the last one, whether those
after it are fatal or not, and there is a fault. -/
theorem recordAll_of_not_writable (unwritable : ¬ Decimal.Writable recorder.report.limit)
    (unfailing : recorder.fault = none) (uncapped : recorder.capped = false)
    (diagnostics : List Diagnostic) :
    (recorder.recordAll diagnostics).report =
        recorder.report.addAll (diagnostics.take recorder.report.room) ∧
      (recorder.recordAll diagnostics).fault =
        if recorder.report.room ≤ diagnostics.length then some (.digits .writing) else none := by
  induction diagnostics generalizing recorder with
  | nil =>
      have roomy : ¬ recorder.report.room ≤ 0 := by
        rw [Report.room]
        omega
      simp [roomy, unfailing]
  | cons diagnostic diagnostics ih =>
      rw [recordAll_cons]
      cases full : (recorder.report.add diagnostic).isFull with
      | true =>
          have unwritable' : ¬ Decimal.Writable (recorder.report.add diagnostic).limit := unwritable
          have recorded : recorder.record diagnostic =
              { recorder.add diagnostic with fault := some (.digits .writing) } := by
            rw [record_of_added unfailing (.inl uncapped), Report.overflow?, if_pos full,
              if_neg unwritable']
            rfl
          have failed : (recorder.record diagnostic).fault.isSome := by
            rw [recorded]
            rfl
          rw [recordAll_of_fault failed, recorded, Report.room_of_isFull_add full,
            List.length_cons, if_pos (Nat.le_add_left 1 _)]
          exact ⟨rfl, rfl⟩
      | false =>
          rw [record_of_spare unfailing uncapped full,
            Report.room_of_not_isFull_add (Bool.eq_false_iff.mp full), List.take_succ_cons,
            Report.addAll_cons]
          simp only [List.length_cons, Nat.add_le_add_iff_right]
          exact @ih (recorder.add diagnostic) unwritable unfailing uncapped

end Recorder

namespace Verdict

variable {target : Target} {labels : List Label} {listing : Listing} {token : Token}

/-- A diagnostic about a token has the place of the token; it is fatal if it ends the pass. -/
theorem judge_problem {problem : Problem} (found : Finding.ofToken target labels token =
    .problem problem) :
    judge target labels listing token =
      match Diagnostic.layoutFault? token.place (listing.line? token.line) with
      | some fault => .fail fault true
      | none =>
          if token.kind = .invalid then
            .abort ⟨problem, some token.place, listing.line? token.line⟩
          else .complain ⟨problem, some token.place, listing.line? token.line⟩ := by
  simp only [judge, found, ofFinding, Diagnostic.located?, Option.bind_some]
  cases Diagnostic.layoutFault? token.place (listing.line? token.line) with
  | some fault => rfl
  | none => simp only [Finding.fatal_iff_of_ofToken found]

/-- The diagnostic of a token that ends the pass is fatal. -/
theorem final?_judge {diagnostic : Diagnostic}
    (final : (judge target labels listing token).final? = some diagnostic) :
    diagnostic.place = some token.place ∧ diagnostic.fatal := by
  cases found : Finding.ofToken target labels token with
  | problem problem =>
      rw [judge_problem found] at final
      split at final
      · cases final
      · split at final
        · rename_i invalid
          cases final
          exact ⟨rfl, (Finding.fatal_iff_of_ofToken found).mpr invalid⟩
        · cases final
  | _ =>
      simp only [judge, found, ofFinding] at final
      cases final

/-- The diagnostic of a token that does not end the pass is not fatal. -/
theorem complaint?_judge {diagnostic : Diagnostic}
    (complaint : (judge target labels listing token).complaint? = some diagnostic) :
    diagnostic.place = some token.place ∧ diagnostic.fatal = false := by
  cases found : Finding.ofToken target labels token with
  | problem problem =>
      rw [judge_problem found] at complaint
      split at complaint
      · cases complaint
      · split at complaint
        · cases complaint
        · rename_i valid
          cases complaint
          exact ⟨rfl, Bool.eq_false_iff.mpr (mt (Finding.fatal_iff_of_ofToken found).mp valid)⟩
  | _ =>
      simp only [judge, found, ofFinding] at complaint
      cases complaint

end Verdict

instance (tokens : List Token) (name : String) : Decidable (Declares tokens name) :=
  inferInstanceAs (Decidable (∃ _ ∈ _, _ ∧ _))

namespace Token

instance (target : Target) (tokens : List Token) (token : Token) :
    Decidable (token.Rejected target tokens) :=
  inferInstanceAs (Decidable ((_ ∧ _) ∨ (_ ∧ _ ∧ _)))

/-- Tokens that take a number with too many digits: one that is to be read, or one that is to be
written in a diagnostic about the place of the token. -/
def ExceedsDigits (target : Target) (tokens : List Token) (token : Token) : Prop :=
  token.Overlong ∨
    ((token.Rejected target tokens ∨ token.kind = .invalid) ∧ ¬ token.place.Writable)

instance (target : Target) (tokens : List Token) (token : Token) :
    Decidable (token.ExceedsDigits target tokens) :=
  inferInstanceAs (Decidable (_ ∨ (_ ∧ ¬ _)))

theorem not_rejected_of_denotes {target : Target} {token : Token} {value : Nat}
    (denoted : token.Denotes target value) (tokens : List Token) :
    ¬ token.Rejected target tokens := by
  rintro (⟨_, blank⟩ | ⟨_, blank, _⟩) <;> exact blank ⟨value, denoted⟩

theorem valid_of_rejected {target : Target} {tokens : List Token} {token : Token}
    (rejected : token.Rejected target tokens) : token.kind ≠ .invalid := by
  rcases rejected with ⟨immediate | register, _⟩ | ⟨instruction, _⟩ <;> simp [*]

end Token

namespace Listing

/-- A caret has room under a token of a listing, so that a diagnostic about it can be laid out if
its place can be written. -/
def HasRoom (listing : Listing) (token : Token) : Prop :=
  Diagnostic.layoutFault? token.place (listing.line? token.line) =
    if token.place.Writable then none else some (.digits .writing)

end Listing

/-- The verdict that the meaning of a token calls for. -/
inductive Verdict.Apt (target : Target) (listing : Listing) (token : Token) : Verdict → Prop
  | assign {value : Nat} (within : ¬ token.ExceedsDigits target listing.tokens)
      (denoted : token.Denotes target value) : Apt target listing token (.assign value)
  | keep (within : ¬ token.ExceedsDigits target listing.tokens)
      (blank : ¬ ∃ value, token.Denotes target value)
      (accepted : ¬ token.Rejected target listing.tokens) (valid : token.kind ≠ .invalid) :
      Apt target listing token .keep
  | complain {problem : Problem} (within : ¬ token.ExceedsDigits target listing.tokens)
      (rejected : token.Rejected target listing.tokens)
      (objection : token.Objection target problem) :
      Apt target listing token
        (.complain ⟨problem, some token.place, listing.line? token.line⟩)
  | abort (within : ¬ token.ExceedsDigits target listing.tokens) (invalid : token.kind = .invalid) :
      Apt target listing token
        (.abort ⟨.unknownToken token.text, some token.place, listing.line? token.line⟩)
  | fail {limit : DigitLimit} {quoted : Bool}
      (exceeds : token.ExceedsDigits target listing.tokens) :
      Apt target listing token (.fail (.digits limit) quoted)

namespace Annotator

variable {annotator : Annotator} {listing : Listing} {token : Token}

theorem known_labels (listing : Listing) (name : String) :
    (∃ label ∈ labelsFrom 0 (listing.tokens.map Token.reset), label.name = name) ↔
      Declares listing.tokens name :=
  (mem_labelsFrom_iff 0 _ name).trans (declares_of_shape_eq (shape_map_reset _) name)

theorem line?_opened (listing : Listing) (line : Int) :
    (opened listing).line? line = listing.line? line := by
  by_cases empty : listing.source.isEmpty = true <;>
    simp [opened, Listing.line?, Listing.openLines, empty]

theorem verdict_problem {problem : Problem} (room : listing.HasRoom token)
    (found : Finding.ofToken annotator.target
      (labelsFrom 0 (listing.tokens.map Token.reset)) token = .problem problem) :
    annotator.verdict listing token =
      if token.place.Writable then
        if token.kind = .invalid then
          .abort ⟨problem, some token.place, listing.line? token.line⟩
        else .complain ⟨problem, some token.place, listing.line? token.line⟩
      else .fail (.digits .writing) true := by
  rw [verdict, Verdict.judge_problem found, line?_opened, room]
  by_cases writable : token.place.Writable <;> simp [writable]

/-- The verdict of a run on a token is the one that its meaning calls for. -/
theorem apt_verdict (bound : Decimal.Writable annotator.target.registerBound)
    (room : ∀ problem, Finding.ofToken annotator.target
      (labelsFrom 0 (listing.tokens.map Token.reset)) token = .problem problem →
        listing.HasRoom token) :
    Verdict.Apt annotator.target listing token (annotator.verdict listing token) := by
  by_cases long : token.Overlong
  · obtain ⟨limit, found⟩ := Finding.ofToken_of_overlong annotator.target
      (labelsFrom 0 (listing.tokens.map Token.reset)) long
    simp only [verdict, Verdict.judge, found, Verdict.ofFinding]
    exact .fail (.inl long)
  by_cases invalid : token.kind = .invalid
  · have found := Finding.ofToken_of_invalid annotator.target
      (labelsFrom 0 (listing.tokens.map Token.reset)) invalid
    rw [verdict_problem (room _ found) found]
    by_cases writable : token.place.Writable
    · rw [if_pos writable, if_pos invalid]
      refine .abort ?_ invalid
      rintro (long' | ⟨_, unwritable⟩)
      · exact long long'
      · exact unwritable writable
    · rw [if_neg writable]
      exact .fail (.inr ⟨.inr invalid, writable⟩)
  by_cases rejected : token.Rejected annotator.target listing.tokens
  · obtain ⟨problem, objection, found⟩ :=
      Finding.ofToken_of_rejected bound (known_labels listing) rejected long
    rw [verdict_problem (room _ found) found]
    by_cases writable : token.place.Writable
    · rw [if_pos writable, if_neg invalid]
      refine .complain ?_ rejected objection
      rintro (long' | ⟨_, unwritable⟩)
      · exact long long'
      · exact unwritable writable
    · rw [if_neg writable]
      exact .fail (.inr ⟨.inl rejected, writable⟩)
  have within : ¬ token.ExceedsDigits annotator.target listing.tokens := by
    rintro (long' | ⟨rejected' | invalid', _⟩)
    · exact long long'
    · exact rejected rejected'
    · exact invalid invalid'
  by_cases denoted : ∃ value, token.Denotes annotator.target value
  · obtain ⟨value, denoted⟩ := denoted
    simp only [verdict, Verdict.judge, Finding.ofToken_of_denotes _ denoted long,
      Verdict.ofFinding]
    exact .assign within denoted
  · simp only [verdict, Verdict.judge,
      Finding.ofToken_of_idle (known_labels listing) denoted rejected invalid, Verdict.ofFinding]
    exact .keep within denoted rejected invalid

variable (annotator listing)

/-- The complaints of a run come from the tokens that its last pass goes past. -/
theorem complaints_judged :
    complaints (annotator.judged listing) =
      (listing.tokens.takeWhile fun token => (annotator.verdict listing token).proceeds).filterMap
        fun token => (annotator.verdict listing token).complaint? := by
  have mapped := congrArg (fun verdicts => (verdicts.takeWhile Verdict.proceeds).filterMap
    Verdict.complaint?) (map_snd_judged annotator listing)
  simp only [List.takeWhile_map, List.filterMap_map] at mapped
  exact mapped

/-- The diagnostic of the token at which the last pass of a run ends early, if it has one. -/
def alarm? : Option Diagnostic :=
  (annotator.stop? listing).bind fun token => (annotator.verdict listing token).final?

theorem diagnostics_judged :
    diagnostics (annotator.judged listing) =
      complaints (annotator.judged listing) ++ (annotator.alarm? listing).toList := by
  rw [diagnostics, alarm?, ← find?_judged]

/-- The diagnostics that a run adds to its report. -/
def recorded : List Diagnostic :=
  if Decimal.Writable annotator.report.limit then
    (complaints (annotator.judged listing)).take annotator.report.room ++
      (annotator.alarm? listing).toList
  else (diagnostics (annotator.judged listing)).take annotator.report.room

/-- A run has at most one diagnostic for each token. -/
theorem length_diagnostics_le : (diagnostics (annotator.judged listing)).length ≤
    listing.tokens.length := by
  have all (judged : List (Token × Verdict)) : (diagnostics judged).length ≤ judged.length := by
    induction judged with
    | nil => exact Nat.zero_le _
    | cons entry judged ih =>
        rw [diagnostics_cons]
        split
        · have one : entry.2.complaint?.toList.length ≤ 1 := Option.length_toList_le
          rw [List.length_append, List.length_cons]
          omega
        · have one : entry.2.final?.toList.length ≤ 1 := Option.length_toList_le
          rw [List.length_cons]
          omega
  have judged := congrArg List.length (map_snd_judged annotator listing)
  rw [List.length_map, List.length_map] at judged
  exact judged ▸ all _

variable {annotator listing}

theorem mild_of_mem_complaints :
    ∀ diagnostic ∈ complaints (annotator.judged listing), diagnostic.fatal = false := by
  intro diagnostic member
  rw [complaints_judged, List.mem_filterMap] at member
  obtain ⟨token, _, complaint⟩ := member
  exact (Verdict.complaint?_judge complaint).2

theorem exists_of_alarm? {diagnostic : Diagnostic}
    (alarm : annotator.alarm? listing = some diagnostic) :
    ∃ token, annotator.stop? listing = some token ∧
      (annotator.verdict listing token).final? = some diagnostic :=
  Option.bind_eq_some_iff.mp alarm

theorem fatal_of_alarm? {diagnostic : Diagnostic}
    (alarm : annotator.alarm? listing = some diagnostic) : diagnostic.fatal := by
  obtain ⟨token, _, final⟩ := exists_of_alarm? alarm
  exact (Verdict.final?_judge final).2

/-- A run adds its diagnostics to the report, and nothing else. -/
theorem run_report (annotator : Annotator) (listing : Listing) :
    (annotator.run listing).annotator.report =
      annotator.report.addAll (annotator.recorded listing) := by
  have unfailing : (annotator.opening listing).fault = none := rfl
  refine (Recorder.report_pass listing.file unfailing (annotator.judged listing)).trans ?_
  rw [recorded]
  split
  · rename_i writable
    have writable' : Decimal.Writable (annotator.opening listing).report.limit := writable
    have mild : ∀ diagnostic ∈ complaints (annotator.judged listing), diagnostic.fatal = false :=
      mild_of_mem_complaints
    have complaining := Recorder.report_recordAll_of_writable writable' rfl rfl mild
    rw [diagnostics_judged, Recorder.recordAll_append, Report.addAll_append]
    cases alarm : annotator.alarm? listing with
    | none => exact complaining
    | some diagnostic =>
        have complained := Recorder.fault_recordAll_of_writable writable'
          (complaints (annotator.judged listing))
        rw [Option.toList_some, Recorder.recordAll_cons, Recorder.recordAll_nil,
          Recorder.report_record_of_added complained (.inr (fatal_of_alarm? alarm)), complaining]
        rfl
  · rename_i unwritable
    exact (Recorder.recordAll_of_not_writable unwritable rfl rfl _).1

/-- A run has the fault of a verdict, unless its report is filled and cannot say so. -/
theorem run_fault_eq (annotator : Annotator) (listing : Listing) :
    (annotator.run listing).fault =
      if annotator.report.Takes (diagnostics (annotator.judged listing)).length then
        annotator.failure? listing
      else some (.digits .writing) := by
  rw [run_fault]
  by_cases writable : Decimal.Writable annotator.report.limit
  · have writable' : Decimal.Writable (annotator.opening listing).report.limit := writable
    rw [Recorder.fault_recordAll_of_writable writable', if_pos (.inl writable)]
    rfl
  · have unwritable : ¬ Decimal.Writable (annotator.opening listing).report.limit := writable
    have room : (annotator.opening listing).report.room = annotator.report.room := rfl
    rw [(Recorder.recordAll_of_not_writable unwritable rfl rfl _).2, room]
    simp only [Report.Takes, writable, false_or, ← Nat.not_le]
    split <;> rfl

theorem run_fault_eq_of_writable (writable : Decimal.Writable annotator.report.limit) :
    (annotator.run listing).fault = annotator.failure? listing := by
  rw [run_fault_eq, if_pos (.inl writable)]

theorem recorded_of_writable (writable : Decimal.Writable annotator.report.limit) :
    annotator.recorded listing =
      (complaints (annotator.judged listing)).take annotator.report.room ++
        (annotator.alarm? listing).toList :=
  if_pos writable

/-- A run without a fault adds the first complaints, and then its alarm. -/
theorem recorded_of_returned (returned : (annotator.run listing).fault = none) :
    annotator.recorded listing =
      (complaints (annotator.judged listing)).take annotator.report.room ++
        (annotator.alarm? listing).toList := by
  rw [run_fault_eq] at returned
  split at returned
  · rename_i takes
    rcases takes with writable | spare
    · exact recorded_of_writable writable
    · have few : (complaints (annotator.judged listing)).length ≤ annotator.report.room := by
        rw [diagnostics_judged, List.length_append] at spare
        omega
      rw [recorded, List.take_of_length_le few, List.take_of_length_le (Nat.le_of_lt spare),
        diagnostics_judged, ite_self]
  · cases returned

/-- A token of a list that no invalid one precedes. -/
def Reached (tokens : List Token) (index : Nat) (token : Token) : Prop :=
  tokens[index]? = some token ∧ ∀ earlier ∈ tokens.take index, earlier.kind ≠ .invalid

section Room

variable (bound : Decimal.Writable annotator.target.registerBound)
  (room : ∀ token ∈ listing.tokens, listing.HasRoom token)

include bound room

theorem apt_of_mem (member : token ∈ listing.tokens) :
    Verdict.Apt annotator.target listing token (annotator.verdict listing token) :=
  apt_verdict bound fun _ _ => room token member

/-- A verdict is a failure just if a token that takes too many digits is reached. -/
theorem failure?_eq_none_iff :
    annotator.failure? listing = none ↔
      ∀ index token, Reached listing.tokens index token →
        ¬ token.ExceedsDigits annotator.target listing.tokens := by
  constructor
  · rintro unfailing index token ⟨found, valid⟩ exceeds
    have going := proceeds_of_valid unfailing valid
    have apt := apt_of_mem bound room (List.mem_of_getElem? found)
    have failing : (annotator.verdict listing token).proceeds = false ∧
        (annotator.verdict listing token).fault? ≠ none := by
      generalize annotator.verdict listing token = verdict at apt
      cases apt with
      | fail _ => exact ⟨rfl, by simp [Verdict.fault?]⟩
      | assign within _ | keep within _ _ _ | complain within _ _ | abort within _ =>
          exact absurd exceeds within
    rw [failure?, stop?_eq_some found going failing.1] at unfailing
    exact failing.2 unfailing
  · intro within
    rw [failure?]
    cases stop : annotator.stop? listing with
    | none => rfl
    | some token =>
        obtain ⟨index, found, going, stopped⟩ := exists_of_stop? stop
        have apt := apt_of_mem bound room (List.mem_of_getElem? found)
        rw [Option.bind_some]
        generalize annotator.verdict listing token = verdict at apt
        cases apt with
        | fail exceeds => exact absurd exceeds (within index token ⟨found, valid_of_going going⟩)
        | _ => rfl

theorem digits_of_failure? {fault : Fault} (failing : annotator.failure? listing = some fault) :
    ∃ limit, fault = .digits limit := by
  rw [failure?, Option.bind_eq_some_iff] at failing
  obtain ⟨token, stop, failing⟩ := failing
  obtain ⟨index, found, _⟩ := exists_of_stop? stop
  have apt := apt_of_mem bound room (List.mem_of_getElem? found)
  generalize annotator.verdict listing token = verdict at apt failing
  cases apt with
  | @fail limit _ _ =>
      cases failing
      exact ⟨limit, rfl⟩
  | _ => cases failing

/-- A run ends with a fault just if it reaches a token that takes too many digits or fills a report
that cannot say so. -/
theorem run_fault_eq_none_iff :
    (annotator.run listing).fault = none ↔
      (∀ index token, Reached listing.tokens index token →
        ¬ token.ExceedsDigits annotator.target listing.tokens) ∧
      annotator.report.Takes (diagnostics (annotator.judged listing)).length := by
  rw [run_fault_eq, ← failure?_eq_none_iff bound room]
  split
  · rename_i takes
    exact (and_iff_left takes).symm
  · rename_i filled
    simp [filled]

theorem digits_of_run_fault {fault : Fault} (failed : (annotator.run listing).fault = some fault) :
    ∃ limit, fault = .digits limit := by
  rw [run_fault_eq] at failed
  split at failed
  · exact digits_of_failure? bound room failed
  · cases failed
    exact ⟨_, rfl⟩

theorem isSome_complaint?_iff (member : token ∈ listing.tokens)
    (proceeding : (annotator.verdict listing token).proceeds) :
    (annotator.verdict listing token).complaint?.isSome ↔
      token.Rejected annotator.target listing.tokens := by
  have apt := apt_of_mem bound room member
  generalize annotator.verdict listing token = verdict at apt proceeding
  cases apt with
  | assign _ denoted =>
      simp [Verdict.complaint?, Token.not_rejected_of_denotes denoted listing.tokens]
  | keep _ _ accepted _ => simp [Verdict.complaint?, accepted]
  | complain _ rejected _ => simp [Verdict.complaint?, rejected]
  | abort | fail => cases proceeding

theorem proceeds_of_within (member : token ∈ listing.tokens) (valid : token.kind ≠ .invalid)
    (within : ¬ token.ExceedsDigits annotator.target listing.tokens) :
    (annotator.verdict listing token).proceeds := by
  have apt := apt_of_mem bound room member
  generalize annotator.verdict listing token = verdict at apt
  cases apt with
  | abort _ invalid => exact absurd invalid valid
  | fail exceeds => exact absurd exceeds within
  | _ => rfl

theorem exists_complaint_of_rejected (member : token ∈ listing.tokens)
    (rejected : token.Rejected annotator.target listing.tokens)
    (within : ¬ token.ExceedsDigits annotator.target listing.tokens) :
    ∃ problem, token.Objection annotator.target problem ∧
      (annotator.verdict listing token).complaint? =
        some ⟨problem, some token.place, listing.line? token.line⟩ := by
  have apt := apt_of_mem bound room member
  generalize annotator.verdict listing token = verdict at apt
  cases apt with
  | assign _ denoted => exact absurd rejected (Token.not_rejected_of_denotes denoted _)
  | keep _ _ accepted _ => exact absurd rejected accepted
  | complain _ _ objection => exact ⟨_, objection, rfl⟩
  | abort _ invalid => exact absurd invalid (Token.valid_of_rejected rejected)
  | fail exceeds => exact absurd exceeds within

end Room

/-! ## The diagnostic of one token -/

theorem filter_take_append_cons {α : Type} {p : α → Bool} {front back : List α} {a : α}
    (silent_before : front.filter p = []) (silent_after : back.filter p = []) (holds : p a)
    (count : Nat) :
    ((front ++ a :: back).take count).filter p = if front.length < count then [a] else [] := by
  have silent_take (count : Nat) {list : List α} (silent : list.filter p = []) :
      (list.take count).filter p = [] :=
    List.sublist_nil.mp (silent ▸ (List.take_sublist count list).filter p)
  rw [List.take_append, List.filter_append, silent_take count silent_before, List.nil_append]
  split
  · rename_i roomy
    obtain ⟨spare, counted⟩ := Nat.exists_eq_add_of_lt roomy
    rw [counted, Nat.add_assoc, Nat.add_sub_cancel_left, List.take_succ_cons,
      List.filter_cons_of_pos holds, silent_take spare silent_after]
  · rename_i full
    rw [Nat.sub_eq_zero_of_le (Nat.le_of_not_lt full)]
    rfl

theorem place_of_complaint? {diagnostic : Diagnostic}
    (complaint : (annotator.verdict listing token).complaint? = some diagnostic) :
    diagnostic.place = some token.place :=
  (Verdict.complaint?_judge complaint).1

theorem filter_place_filterMap {place : Place} {tokens : List Token}
    (distinct : ∀ token ∈ tokens, token.place ≠ place) :
    (tokens.filterMap fun token => (annotator.verdict listing token).complaint?).filter
      (·.place = some place) = [] := by
  rw [List.filter_eq_nil_iff]
  intro diagnostic member
  obtain ⟨token, among, complaint⟩ := List.mem_filterMap.mp member
  simp [place_of_complaint? complaint, distinct token among]

variable {front back : List Token} {diagnostic : Diagnostic}

/-- The diagnostic that ends a run is not about a token that the run goes past. -/
theorem filter_place_final (tokens : listing.tokens = front ++ token :: back)
    (passed : ∀ earlier ∈ front ++ [token], (annotator.verdict listing earlier).proceeds)
    (distinct : ∀ later ∈ back, later.place ≠ token.place) :
    (annotator.alarm? listing).toList.filter (·.place = some token.place) = [] := by
  rw [List.filter_eq_nil_iff]
  intro final member
  obtain ⟨stop, stopped, final⟩ := exists_of_alarm? (Option.mem_toList.mp member)
  have later : stop ∈ back := by
    have none_before : (front ++ [token]).find?
        (fun token => !(annotator.verdict listing token).proceeds) = none := by
      rw [List.find?_eq_none]
      intro earlier member
      simp [passed earlier member]
    rw [stop?, tokens, List.append_cons, List.find?_append, none_before, Option.none_or] at stopped
    exact List.mem_of_find?_eq_some stopped
  simp [(Verdict.final?_judge final).1, distinct stop later]

theorem complaints_of_append (tokens : listing.tokens = front ++ token :: back)
    (passed : ∀ earlier ∈ front ++ [token], (annotator.verdict listing earlier).proceeds)
    (complaint : (annotator.verdict listing token).complaint? = some diagnostic) :
    complaints (annotator.judged listing) =
      (front.filterMap fun token => (annotator.verdict listing token).complaint?) ++
        diagnostic :: (back.takeWhile fun token =>
          (annotator.verdict listing token).proceeds).filterMap
            fun token => (annotator.verdict listing token).complaint? := by
  rw [complaints_judged, tokens, List.append_cons, List.takeWhile_append_of_pos passed,
    List.filterMap_append, List.filterMap_append]
  simp [complaint]

/-- A run records one diagnostic about a token that it complains about, if there is still room. -/
theorem filter_place_recorded (limited : Decimal.Writable annotator.report.limit)
    (tokens : listing.tokens = front ++ token :: back)
    (passed : ∀ earlier ∈ front ++ [token], (annotator.verdict listing earlier).proceeds)
    (complaint : (annotator.verdict listing token).complaint? = some diagnostic)
    (distinct : listing.tokens.Pairwise fun earlier later => earlier.place ≠ later.place) :
    (annotator.recorded listing).filter (·.place = some token.place) =
      if (front.countP fun earlier => (annotator.verdict listing earlier).complaint?.isSome) <
          annotator.report.room then [diagnostic]
      else [] := by
  rw [tokens, List.pairwise_append, List.pairwise_cons] at distinct
  obtain ⟨_, ⟨after, _⟩, before⟩ := distinct
  have silent_before : (front.filterMap fun token =>
      (annotator.verdict listing token).complaint?).filter (·.place = some token.place) = [] := by
    apply filter_place_filterMap
    intro earlier member
    exact before earlier member token List.mem_cons_self
  have silent_after : ((back.takeWhile fun token =>
      (annotator.verdict listing token).proceeds).filterMap fun token =>
        (annotator.verdict listing token).complaint?).filter (·.place = some token.place) = [] := by
    apply filter_place_filterMap
    intro later member
    exact (after later ((List.takeWhile_sublist _).subset member)).symm
  have silent_final := filter_place_final tokens passed fun later member =>
    (after later member).symm
  rw [recorded_of_writable limited, List.filter_append, silent_final, List.append_nil,
    complaints_of_append tokens passed complaint,
    filter_take_append_cons silent_before silent_after (by simp [place_of_complaint? complaint]),
    List.length_filterMap_eq_countP]

/-- A run records one diagnostic about a rejected token that it reaches, if there is still room. -/
theorem filter_place_recorded_of_rejected {index : Nat}
    (limited : Decimal.Writable annotator.report.limit)
    (bound : Decimal.Writable annotator.target.registerBound)
    (room : ∀ token ∈ listing.tokens, listing.HasRoom token)
    (distinct : listing.tokens.Pairwise fun earlier later => earlier.place ≠ later.place)
    (found : listing.tokens[index]? = some token)
    (rejected : token.Rejected annotator.target listing.tokens)
    (within : ∀ reached ∈ listing.tokens.take (index + 1),
      reached.kind ≠ .invalid ∧ ¬ reached.ExceedsDigits annotator.target listing.tokens) :
    ∃ problem, token.Objection annotator.target problem ∧
      (annotator.recorded listing).filter (·.place = some token.place) =
        if (listing.tokens.take index).countP (·.Rejected annotator.target listing.tokens) <
            annotator.report.room then
          [⟨problem, some token.place, listing.line? token.line⟩]
        else [] := by
  have front : listing.tokens.take (index + 1) = listing.tokens.take index ++ [token] := by
    rw [List.take_add_one, found]
    rfl
  have parted : listing.tokens =
      listing.tokens.take index ++ token :: listing.tokens.drop (index + 1) := by
    rw [List.append_cons, ← front, List.take_append_drop]
  rw [front] at within
  have passed : ∀ earlier ∈ listing.tokens.take index ++ [token],
      (annotator.verdict listing earlier).proceeds := by
    intro earlier member
    obtain ⟨valid, within⟩ := within earlier member
    rw [← front] at member
    exact proceeds_of_within bound room (List.mem_of_mem_take member) valid within
  have counted : (listing.tokens.take index).countP
        (fun earlier => (annotator.verdict listing earlier).complaint?.isSome) =
      (listing.tokens.take index).countP (·.Rejected annotator.target listing.tokens) := by
    apply List.countP_congr
    intro earlier member
    rw [decide_eq_true_iff]
    exact isSome_complaint?_iff bound room (List.mem_of_mem_take member)
      (passed earlier (List.mem_append_left _ member))
  obtain ⟨problem, objection, complaint⟩ := exists_complaint_of_rejected bound room
    (List.mem_of_getElem? found) rejected (within token (List.mem_append_right _ (by simp))).2
  refine ⟨problem, objection, ?_⟩
  rw [filter_place_recorded limited parted passed complaint distinct, counted]

end Annotator
end RegisterAssembly
