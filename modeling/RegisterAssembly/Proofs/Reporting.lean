import RegisterAssembly.Proofs.Collection

/-!
# What a report holds

A run that starts with an empty report and ends without a fault leaves in it the diagnostics of the
rejected tokens that no invalid token precedes, as far as there is room, and then the diagnostic of
the first invalid token, for which there is always room.  The echo of the report gets their texts.

A report takes one diagnostic more than it has room for from every run that finds it full: a run
starts out without knowing that the report is full, and learns it only by adding to it.
-/

namespace RegisterAssembly

/-- A diagnostic about a token of a listing: what is wrong with it, its place, and its line. -/
def Diagnoses (target : Target) (listing : Listing) (token : Token) (diagnostic : Diagnostic) :
    Prop :=
  ∃ problem, token.Objection target problem ∧
    diagnostic = ⟨problem, some token.place, listing.line? token.line⟩

/-- The diagnostic about an invalid token of a listing. -/
def Listing.alarm (listing : Listing) (token : Token) : Diagnostic :=
  ⟨.unknownToken token.text, some token.place, listing.line? token.line⟩

namespace Annotator

variable {annotator : Annotator} {listing : Listing} {token : Token}

theorem unfailing_of_proceeds (proceeding : (annotator.verdict listing token).proceeds) :
    (annotator.verdict listing token).fault? = none := by
  generalize annotator.verdict listing token = verdict at proceeding ⊢
  cases verdict with
  | fail => cases proceeding
  | _ => rfl

/-- A verdict without a fault is the one that the meaning of the token calls for, even where a caret
might have no room. -/
theorem apt_of_unfailing (bound : Decimal.Writable annotator.target.registerBound)
    (unfailing : (annotator.verdict listing token).fault? = none) :
    Verdict.Apt annotator.target listing token (annotator.verdict listing token) := by
  apply apt_verdict bound
  -- Without room for a caret the verdict on a problem would be a failure.
  intro problem found
  rw [verdict, Verdict.judge_problem found, line?_opened] at unfailing
  rw [Listing.HasRoom]
  cases layout : Diagnostic.layoutFault? token.place (listing.line? token.line) with
  | some fault => simp [layout, Verdict.fault?] at unfailing
  | none =>
      have writable : token.place.Writable := by
        by_contra unwritable
        simp [Diagnostic.layoutFault?, unwritable] at layout
      rw [if_pos writable]

theorem unfailing_of_stop? (unfailing : annotator.failure? listing = none)
    (stop : annotator.stop? listing = some token) :
    (annotator.verdict listing token).fault? = none := by
  rwa [failure?, stop, Option.bind_some] at unfailing

/-- If no verdict is a failure, a run ends at the first invalid token. -/
theorem stop?_eq_find? (unfailing : annotator.failure? listing = none) :
    annotator.stop? listing = listing.tokens.find? (·.kind = .invalid) := by
  cases stop : annotator.stop? listing with
  | none =>
      symm
      rw [List.find?_eq_none]
      intro token member
      simpa using valid_of_proceeds (proceeds_of_stop?_eq_none stop token member)
  | some token =>
      obtain ⟨front, back, tokens, stopped, passed⟩ := exists_append_of_stop? stop
      have invalid := Verdict.invalid_of_not_proceeds stopped (unfailing_of_stop? unfailing stop)
      symm
      rw [List.find?_eq_some_iff_append]
      refine ⟨decide_eq_true invalid, front, back, tokens, ?_⟩
      intro earlier member
      simpa using valid_of_proceeds (passed earlier member)

/-- If no verdict is a failure, the verdicts go on after all tokens before the first invalid one. -/
theorem takeWhile_proceeds (unfailing : annotator.failure? listing = none) :
    (listing.tokens.takeWhile fun token => (annotator.verdict listing token).proceeds) =
      listing.tokens.takeWhile (·.kind ≠ .invalid) := by
  cases stop : annotator.stop? listing with
  | none =>
      have passed := proceeds_of_stop?_eq_none stop
      rw [List.takeWhile_eq_self_iff.mpr passed, List.takeWhile_eq_self_iff.mpr]
      intro token member
      simpa using valid_of_proceeds (passed token member)
  | some token =>
      obtain ⟨front, back, tokens, stopped, passed⟩ := exists_append_of_stop? stop
      have invalid := Verdict.invalid_of_not_proceeds stopped (unfailing_of_stop? unfailing stop)
      have valid : ∀ earlier ∈ front, decide (earlier.kind ≠ .invalid) = true := by
        intro earlier member
        simpa using valid_of_proceeds (passed earlier member)
      rw [tokens, List.takeWhile_append_of_pos passed, List.takeWhile_append_of_pos valid,
        List.takeWhile_cons_of_neg (by simp [stopped]),
        List.takeWhile_cons_of_neg (by simp [invalid])]

theorem proceeds_of_reached (unfailing : annotator.failure? listing = none)
    (reached : token ∈ listing.tokens.takeWhile (·.kind ≠ .invalid)) :
    (annotator.verdict listing token).proceeds := by
  rw [← takeWhile_proceeds unfailing] at reached
  have passed := List.mem_takeWhile_imp reached
  exact passed

/-! ## The diagnostics of a run -/

/-- A token that a run goes past is complained about just if it is rejected. -/
theorem complaint?_of_reached (bound : Decimal.Writable annotator.target.registerBound)
    (proceeding : (annotator.verdict listing token).proceeds) :
    if token.Rejected annotator.target listing.tokens then
      ∃ diagnostic, (annotator.verdict listing token).complaint? = some diagnostic ∧
        Diagnoses annotator.target listing token diagnostic
    else (annotator.verdict listing token).complaint? = none := by
  have apt := apt_of_unfailing bound (unfailing_of_proceeds proceeding)
  generalize annotator.verdict listing token = verdict at apt proceeding
  cases apt with
  | assign _ denoted =>
      rw [if_neg (Token.not_rejected_of_denotes denoted _)]
      rfl
  | keep _ _ accepted _ =>
      rw [if_neg accepted]
      rfl
  | complain _ rejected objection =>
      rw [if_pos rejected]
      exact ⟨_, rfl, _, objection, rfl⟩
  | abort => cases proceeding
  | fail => cases proceeding

/-- If no verdict is a failure, the alarm of a run is about the first invalid token. -/
theorem alarm?_eq (bound : Decimal.Writable annotator.target.registerBound)
    (unfailing : annotator.failure? listing = none) :
    annotator.alarm? listing =
      (listing.tokens.find? (·.kind = .invalid)).map listing.alarm := by
  rw [alarm?, ← stop?_eq_find? unfailing]
  cases stop : annotator.stop? listing with
  | none => rfl
  | some token =>
      obtain ⟨_, _, _, stopped, _⟩ := exists_append_of_stop? stop
      have unfailing' := unfailing_of_stop? unfailing stop
      have apt := apt_of_unfailing bound unfailing'
      rw [Option.bind_some, Option.map_some]
      generalize annotator.verdict listing token = verdict at apt stopped unfailing'
      cases apt with
      | abort => rfl
      | fail => cases unfailing'
      | assign | keep | complain => cases stopped

/-- If no verdict is a failure, the complaints of a run are about the tokens before the first
invalid one. -/
theorem complaints_eq (unfailing : annotator.failure? listing = none) :
    complaints (annotator.judged listing) =
      (listing.tokens.takeWhile (·.kind ≠ .invalid)).filterMap fun token =>
        (annotator.verdict listing token).complaint? := by
  rw [complaints_judged, takeWhile_proceeds unfailing]

/-- A run that ends without a fault records complaints about the tokens before the first invalid
one, and an alarm about that one. -/
theorem recorded_eq (bound : Decimal.Writable annotator.target.registerBound)
    (returned : (annotator.run listing).fault = none) :
    annotator.recorded listing =
      ((listing.tokens.takeWhile (·.kind ≠ .invalid)).filterMap fun token =>
        (annotator.verdict listing token).complaint?).take annotator.report.room ++
      ((listing.tokens.find? (·.kind = .invalid)).map listing.alarm).toList := by
  have unfailing := failure?_of_returned returned
  rw [recorded_of_returned returned, complaints_eq unfailing, alarm?_eq bound unfailing]

/-- A run without a fault records nothing just if no token is invalid or rejected. -/
theorem recorded_eq_nil_iff (bound : Decimal.Writable annotator.target.registerBound)
    (returned : (annotator.run listing).fault = none) :
    annotator.recorded listing = [] ↔
      ∀ token ∈ listing.tokens, token.kind ≠ .invalid ∧
        ¬ token.Rejected annotator.target listing.tokens := by
  have roomy : annotator.report.room ≠ 0 := by
    rw [Report.room]
    omega
  have silent {token : Token} (reached : token ∈ listing.tokens.takeWhile (·.kind ≠ .invalid)) :
      (annotator.verdict listing token).complaint? = none ↔
        ¬ token.Rejected annotator.target listing.tokens := by
    have complaint := complaint?_of_reached bound
      (proceeds_of_reached (failure?_of_returned returned) reached)
    split at complaint
    · rename_i rejected
      obtain ⟨diagnostic, found, _⟩ := complaint
      simp [found, rejected]
    · rename_i accepted
      simp [complaint, accepted]
  rw [recorded_eq bound returned, List.append_eq_nil_iff, List.take_eq_nil_iff,
    or_iff_right roomy, List.filterMap_eq_nil_iff, Option.toList_eq_nil_iff,
    Option.map_eq_none_iff, List.find?_eq_none]
  constructor
  · rintro ⟨quiet, valid⟩ token member
    have all_valid : listing.tokens.takeWhile (·.kind ≠ .invalid) = listing.tokens := by
      rw [List.takeWhile_eq_self_iff]
      simpa using valid
    rw [← all_valid] at member
    exact ⟨by simpa using List.mem_takeWhile_imp member, (silent member).mp (quiet token member)⟩
  · intro accepted
    constructor
    · intro token reached
      exact (silent reached).mpr (accepted token ((List.takeWhile_sublist _).subset reached)).2
    · intro token member
      simpa using (accepted token member).1

end Annotator

theorem forall₂_filter_filterMap {α β : Type} {p : α → Prop} [DecidablePred p]
    {f : α → Option β} {relation : α → β → Prop} {list : List α}
    (related : ∀ a ∈ list, if p a then ∃ b, f a = some b ∧ relation a b else f a = none) :
    List.Forall₂ relation (list.filter p) (list.filterMap f) := by
  induction list with
  | nil => exact .nil
  | cons a list ih =>
      rw [List.forall_mem_cons] at related
      obtain ⟨first, rest⟩ := related
      split at first
      · rename_i holds
        obtain ⟨b, found, related⟩ := first
        rw [List.filter_cons, if_pos (decide_eq_true holds), List.filterMap_cons_some found]
        exact .cons related (ih rest)
      · rename_i fails
        rw [List.filter_cons, if_neg (by simpa using fails), List.filterMap_cons_none first]
        exact ih rest

namespace Report

theorem echo_addAll (report : Report) (diagnostics : List Diagnostic) :
    (report.addAll diagnostics).echo =
      report.echo.map (· ++ String.join (diagnostics.map (·.text ++ "\n"))) := by
  induction diagnostics generalizing report with
  | nil => simp [String.join]
  | cons diagnostic diagnostics ih =>
      rw [addAll_cons, ih, add, Option.map_map]
      congr 1
      funext written
      simp [String.join_cons, String.append_assoc]

theorem room_of_empty {report : Report} (empty : report.diagnostics = #[]) :
    report.room = (max 1 report.limit).toNat := by
  simp [room, count, empty]

end Report

namespace Annotator

/-- What a run leaves in a report that was empty: the diagnostics of the rejected tokens before the
first invalid one, in order, as many as there is room for, and then the diagnostic of the invalid
one.  The echo is continued by the texts of these diagnostics. -/
theorem run_reports (annotator : Annotator) (listing : Listing) (valid : annotator.target.Valid)
    (empty : annotator.report.diagnostics = #[])
    (returned : (annotator.run listing).fault = none) :
    let report := (annotator.run listing).annotator.report
    ∃ complaints : List Diagnostic,
      List.Forall₂ (Diagnoses annotator.target listing)
        ((listing.tokens.takeWhile (·.kind ≠ .invalid)).filter
          (·.Rejected annotator.target listing.tokens)) complaints ∧
      report.diagnostics.toList =
        complaints.take (max 1 annotator.report.limit).toNat ++
          ((listing.tokens.find? (·.kind = .invalid)).map listing.alarm).toList ∧
      report.echo = annotator.report.echo.map
        (· ++ String.join (report.diagnostics.toList.map (·.text ++ "\n"))) := by
  have bound := Target.writable_of_valid valid
  have stored : (annotator.run listing).annotator.report.diagnostics.toList =
      annotator.recorded listing := by
    rw [run_report, Report.toList_addAll, empty]
    rfl
  refine ⟨(listing.tokens.takeWhile (·.kind ≠ .invalid)).filterMap fun token =>
    (annotator.verdict listing token).complaint?, ?_, ?_, ?_⟩
  · apply forall₂_filter_filterMap
    intro token reached
    exact complaint?_of_reached bound
      (proceeds_of_reached (failure?_of_returned returned) reached)
  · rw [stored, recorded_eq bound returned, Report.room_of_empty empty]
  · rw [stored, run_report, Report.echo_addAll]

/-- A run for a report that has no room and an echo with something in it. -/
def crampedAnnotator : Annotator :=
  { target := {}, report := { limit := 0, echo := some "before\n" } }

/-- A source that uses a label before its declaration, with two rejected tokens before an invalid
one and another after it. -/
def crampedListing : Listing :=
  .scan "jmp end bogus\n 08 @ wat\nend:" unnamedFile

theorem run_reports_cramped :
    crampedAnnotator.target.Valid ∧ crampedAnnotator.report.diagnostics = #[] ∧
      (crampedAnnotator.run crampedListing).fault = none ∧
      ∃ complaints : List Diagnostic, complaints.length = 2 ∧
        (crampedAnnotator.run crampedListing).annotator.report.diagnostics.toList =
          complaints.take 1 ++
            [⟨.unknownToken "@", some ⟨unnamedFile, 2, 5⟩, some " 08 @ wat"⟩] := by
  have valid : crampedAnnotator.target.Valid := by decide
  have returned : (crampedAnnotator.run crampedListing).fault = none := by decide +kernel
  obtain ⟨complaints, about, recorded, _⟩ :=
    run_reports crampedAnnotator crampedListing valid rfl returned
  have count : ((crampedListing.tokens.takeWhile (·.kind ≠ .invalid)).filter
      (·.Rejected crampedAnnotator.target crampedListing.tokens)).length = 2 := by decide +kernel
  have alarm : ((crampedListing.tokens.find? (·.kind = .invalid)).map
      crampedListing.alarm).toList =
        [⟨.unknownToken "@", some ⟨unnamedFile, 2, 5⟩, some " 08 @ wat"⟩] := by decide +kernel
  refine ⟨valid, rfl, returned, complaints, about.length_eq.symm.trans count, ?_⟩
  rw [recorded, alarm]
  rfl

end Annotator

/-! ## Runs one after the other -/

namespace Report

/-- The number of diagnostics that are not fatal. -/
def mild (report : Report) : Nat :=
  report.diagnostics.toList.countP fun diagnostic => !diagnostic.fatal

theorem mild_le_count (report : Report) : report.mild ≤ report.count :=
  List.countP_le_length

theorem mild_addAll (report : Report) (diagnostics : List Diagnostic) :
    (report.addAll diagnostics).mild =
      report.mild + diagnostics.countP fun diagnostic => !diagnostic.fatal := by
  rw [mild, toList_addAll, List.countP_append]
  rfl

theorem room_of_isFull {report : Report} (full : report.isFull) : report.room = 1 := by
  simp only [isFull, decide_eq_true_eq] at full
  simp only [room]
  omega

end Report

namespace Annotator

variable {annotator : Annotator} {listing : Listing}

/-- A run adds as many diagnostics that are not fatal as it has complaints and room for. -/
theorem mild_run (annotator : Annotator) (listing : Listing) :
    (annotator.run listing).annotator.report.mild =
      annotator.report.mild +
        min annotator.report.room (complaints (annotator.judged listing)).length := by
  have taken : ((complaints (annotator.judged listing)).take annotator.report.room).countP
      (fun diagnostic => !diagnostic.fatal) =
        min annotator.report.room (complaints (annotator.judged listing)).length := by
    rw [← List.length_take, List.countP_eq_length]
    intro diagnostic member
    simp [mild_of_mem_complaints diagnostic (List.mem_of_mem_take member)]
  have alarmed {alarms : List Diagnostic}
      (among : alarms.Sublist (annotator.alarm? listing).toList) :
      alarms.countP (fun diagnostic => !diagnostic.fatal) = 0 := by
    rw [List.countP_eq_zero]
    intro diagnostic member
    simp [fatal_of_alarm? (Option.mem_toList.mp (among.subset member))]
  rw [run_report, Report.mild_addAll, recorded, diagnostics_judged, List.take_append]
  split <;> rw [List.countP_append, taken]
  · rw [alarmed (List.Sublist.refl _), Nat.add_zero]
  · rw [alarmed (List.take_sublist _ _), Nat.add_zero]

/-- The annotator after runs over listings, one after the other. -/
def runAll (annotator : Annotator) (listings : List Listing) : Annotator :=
  listings.foldl (fun annotator listing => (annotator.run listing).annotator) annotator

theorem runAll_append_singleton (annotator : Annotator) (listings : List Listing)
    (listing : Listing) :
    annotator.runAll (listings ++ [listing]) =
      ((annotator.runAll listings).run listing).annotator := by
  rw [runAll, List.foldl_append]
  rfl

/-- The number of runs that find the report full. -/
def overruns (annotator : Annotator) (listings : List Listing) : Nat :=
  (List.range listings.length).countP fun count =>
    (annotator.runAll (listings.take count)).report.isFull

theorem overruns_append_singleton (annotator : Annotator) (listings : List Listing)
    (listing : Listing) :
    annotator.overruns (listings ++ [listing]) =
      annotator.overruns listings +
        if (annotator.runAll listings).report.isFull then 1 else 0 := by
  have before : (List.range listings.length).countP
      (fun count => (annotator.runAll ((listings ++ [listing]).take count)).report.isFull) =
        annotator.overruns listings := by
    apply List.countP_congr
    intro count member
    rw [List.take_append_of_le_length (Nat.le_of_lt (List.mem_range.mp member))]
  rw [overruns, List.length_append, List.length_singleton, List.range_succ, List.countP_append,
    before, List.countP_singleton, List.take_left]

theorem limit_runAll (annotator : Annotator) (listings : List Listing) :
    (annotator.runAll listings).report.limit = annotator.report.limit := by
  induction listings generalizing annotator with
  | nil => rfl
  | cons listing listings ih =>
      rw [runAll, List.foldl_cons, ← runAll, ih, run_report, Report.limit_addAll]

/-- One run exceeds the limit by no more than it was exceeded before, and by one more if it finds
the report full. -/
theorem mild_run_le {spare : Int} (annotator : Annotator) (listing : Listing)
    (nonnegative : 0 ≤ spare)
    (bounded : annotator.report.mild ≤ annotator.report.limit + spare) :
    (annotator.run listing).annotator.report.mild ≤
      annotator.report.limit + spare + if annotator.report.isFull then 1 else 0 := by
  have counted := annotator.report.mild_le_count
  rw [mild_run]
  -- A full report takes one more; any other one takes no more than it has room for.
  by_cases full : annotator.report.isFull
  · rw [Report.room_of_isFull full, if_pos full]
    omega
  · rw [if_neg full]
    simp only [Report.isFull, decide_eq_true_eq] at full
    simp only [Report.room]
    omega

/-- However many runs add to a report, its diagnostics that are not fatal exceed its limit by no
more than the number of runs that find it full.  Each of these adds one if it has a complaint. -/
theorem mild_runAll_le (annotator : Annotator) (limited : 1 ≤ annotator.report.limit)
    (empty : annotator.report.diagnostics = #[]) (listings : List Listing) :
    ((annotator.runAll listings).report.mild : Int) ≤
        annotator.report.limit + annotator.overruns listings ∧
      ∀ listing, (annotator.runAll listings).report.isFull →
        (annotator.runAll (listings ++ [listing])).report.mild =
          (annotator.runAll listings).report.mild +
            min 1 (complaints ((annotator.runAll listings).judged listing)).length := by
  constructor
  · induction listings using List.reverseRecOn with
    | nil =>
        have none : (annotator.runAll []).report.mild = 0 := by
          simp [runAll, Report.mild, empty]
        omega
    | append_singleton listings listing ih =>
        have step := mild_run_le (annotator.runAll listings) listing
          (Int.natCast_nonneg (annotator.overruns listings))
        rw [limit_runAll] at step
        have bounded := step ih
        rw [runAll_append_singleton, overruns_append_singleton]
        by_cases full : (annotator.runAll listings).report.isFull
        · rw [if_pos full] at bounded ⊢
          omega
        · rw [if_neg full] at bounded ⊢
          omega
  · intro listing full
    rw [runAll_append_singleton, mild_run, Report.room_of_isFull full]

/-- An annotator whose report has room for one diagnostic. -/
def narrowAnnotator : Annotator :=
  { target := {}, report := { limit := 1 } }

theorem mild_runAll_le_narrow :
    1 ≤ narrowAnnotator.report.limit ∧ narrowAnnotator.report.diagnostics = #[] ∧
      ((narrowAnnotator.runAll [.scan "1x 2x" unnamedFile, .scan "mov r1, 7" unnamedFile,
        .scan "3x" unnamedFile]).report.mild : Int) ≤ 1 + 2 := by
  have limited : 1 ≤ narrowAnnotator.report.limit := by decide
  have bounded := (mild_runAll_le narrowAnnotator limited rfl [.scan "1x 2x" unnamedFile,
    .scan "mov r1, 7" unnamedFile, .scan "3x" unnamedFile]).1
  have overrun : narrowAnnotator.overruns [.scan "1x 2x" unnamedFile,
    .scan "mov r1, 7" unnamedFile, .scan "3x" unnamedFile] = 2 := by decide +kernel
  rw [overrun] at bounded
  exact ⟨limited, rfl, bounded⟩

/-- A second run exceeds the limit of the report. -/
theorem limit_lt_mild_runAll :
    narrowAnnotator.report.diagnostics = #[] ∧ 1 ≤ narrowAnnotator.report.limit ∧
      narrowAnnotator.report.limit <
        (narrowAnnotator.runAll [.scan "1x" unnamedFile, .scan "2x" unnamedFile]).report.mild := by
  decide +kernel

end Annotator
end RegisterAssembly
