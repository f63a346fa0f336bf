import RegisterAssembly.Proofs.Encoding
import RegisterAssembly.Proofs.Reporting

/-!
# Independence of earlier runs

What a session or an annotator does to a source does not depend on what it has done before.  Of the
state that it carries along, a run reads the target and the limit of the report, and it only writes
to the echo.  So a run can be followed with the echo taken away, and then a session that has been
used cannot be told from a new one.  A file that cannot be read or is not UTF-8 is found out before
anything is forgotten, and leaves everything as it was.
-/

namespace RegisterAssembly

/-! ## Without the echo -/

/-- The report without its echo. -/
def Report.muted (report : Report) : Report :=
  { report with echo := none }

/-- The recorder without the echo of its report. -/
def Recorder.muted (recorder : Recorder) : Recorder :=
  { recorder with report := recorder.report.muted }

/-- The annotator without the echo of its report. -/
def Annotator.muted (annotator : Annotator) : Annotator :=
  { annotator with report := annotator.report.muted }

/-- The run without the echo of its report. -/
def Run.muted (run : Run) : Run :=
  { run with annotator := run.annotator.muted }

/-- The session without the echo of its report. -/
def Session.muted (session : Session) : Session :=
  { session with report := session.report.muted }

/-- The step without the echo of its report. -/
def Step.muted (step : Step) : Step :=
  { step with session := step.session.muted }

namespace Recorder

theorem muted_heed (recorder : Recorder) (raised : Option Fault) :
    (recorder.heed raised).muted = recorder.muted.heed raised := by
  cases raised with
  | none => rfl
  | some fault =>
      cases fault with
      | diagnostic =>
          have capped : recorder.muted.capped = recorder.capped := rfl
          simp only [heed, capped]
          split <;> rfl
      | _ => rfl

theorem muted_record (recorder : Recorder) (diagnostic : Diagnostic) :
    (recorder.record diagnostic).muted = recorder.muted.record diagnostic := by
  have fault : recorder.muted.fault = recorder.fault := rfl
  have capped : recorder.muted.capped = recorder.capped := rfl
  simp only [record, fault, capped]
  split
  · rfl
  · exact muted_heed _ _

theorem muted_follow (file : String) (recorder : Recorder) (token : Token) (verdict : Verdict) :
    (recorder.follow file token verdict).muted = recorder.muted.follow file token verdict := by
  cases verdict with
  | abort diagnostic =>
      have fault :
          (recorder.muted.record diagnostic).fault = (recorder.record diagnostic).fault := by
        rw [← muted_record]
        rfl
      simp only [follow, fault]
      split
      · exact muted_record _ _
      · rw [← muted_record]
        rfl
  | complain diagnostic => exact muted_record _ _
  | _ => rfl

theorem muted_pass (file : String) (recorder : Recorder) (judged : List (Token × Verdict)) :
    recorder.muted.pass file judged =
      ((recorder.pass file judged).1.muted, (recorder.pass file judged).2) := by
  induction judged generalizing recorder with
  | nil => rfl
  | cons entry judged ih =>
      obtain ⟨token, verdict⟩ := entry
      have fault (followed : Recorder) : followed.muted.fault = followed.fault := rfl
      simp only [pass, ← muted_follow, fault, ih]
      split <;> rfl

end Recorder

namespace Annotator

/-- What a run leaves, by what its last pass leaves. -/
def leave (annotator : Annotator) (listing : Listing) (passed : Recorder × List Token) : Run :=
  let quoted :=
    if passed.1.quoted then opened listing
    else { listing with tokens := lined listing.tokens }
  { annotator := { annotator with report := passed.1.report, labels := [] }
    listing := { quoted with tokens := passed.2 }
    events := passed.1.events.toList
    fault := passed.1.fault }

theorem run_eq_leave (annotator : Annotator) (listing : Listing) :
    annotator.run listing = annotator.leave listing
      ((annotator.opening listing).pass listing.file (annotator.judged listing)) := rfl

/-- A run without its echo is the run without an echo. -/
theorem muted_run (annotator : Annotator) (listing : Listing) :
    (annotator.run listing).muted = annotator.muted.run listing := by
  have passed : (annotator.muted.opening listing).pass listing.file
      (annotator.muted.judged listing) = _ :=
    Recorder.muted_pass listing.file (annotator.opening listing) (annotator.judged listing)
  rw [run_eq_leave, run_eq_leave, passed]
  rfl

end Annotator

namespace Session

/-- All of a session that a step on a source can depend on: its target and the limit of its
report. -/
def renewed (session : Session) : Session :=
  { target := session.target, report := session.report.clear.muted }

/-- A step on a source without its echo is that of a session which remembers nothing. -/
theorem muted_assemble (session : Session) (source file : String) :
    (session.assemble source file).muted = session.renewed.assemble source file := by
  by_cases valid : session.target.Valid
  · have made : Annotator.make session.renewed.target session.renewed.report.clear =
        .ok session.renewed.annotator := make_annotator valid
    have same : session.renewed.annotator.run (.scan source file) =
        (session.annotator.run (.scan source file)).muted :=
      (Annotator.muted_run session.annotator (.scan source file)).symm
    simp only [assemble, made, make_annotator valid, same]
    rfl
  · have refused : ¬ session.renewed.target.Valid := valid
    simp only [assemble, Annotator.make, Target.check, if_neg valid, if_neg refused, Except.map]
    rfl

theorem renewed_of_reachable {session : Session} (reachable : session.Reachable) :
    session.renewed = { target := session.target } := by
  simp only [renewed, Report.muted, Report.clear, limit_of_reachable reachable]

end Session

/-- Two steps on a source that differ in nothing but what stands in the echo. -/
structure Step.Agrees (left right : Step) : Prop where
  fault_eq : left.fault = right.fault
  events_eq : left.events = right.events
  current_eq : left.session.current = right.session.current
  dump_eq : left.session.dump? = right.session.dump?
  diagnostics_eq : left.session.report.diagnostics = right.session.report.diagnostics
  hasErrors_eq : left.session.report.hasErrors = right.session.report.hasErrors
  hasFatal_eq : left.session.report.hasFatal = right.session.report.hasFatal
  text_eq : left.session.report.text = right.session.report.text

/-- Two runs on a listing that differ in nothing but what stands in the echo. -/
structure Run.Agrees (left right : Run) : Prop where
  fault_eq : left.fault = right.fault
  events_eq : left.events = right.events
  listing_eq : left.listing = right.listing
  diagnostics_eq : left.annotator.report.diagnostics = right.annotator.report.diagnostics
  hasErrors_eq : left.annotator.report.hasErrors = right.annotator.report.hasErrors
  hasFatal_eq : left.annotator.report.hasFatal = right.annotator.report.hasFatal
  text_eq : left.annotator.report.text = right.annotator.report.text
  labels_eq : left.annotator.labels = right.annotator.labels

theorem Step.agrees_of_muted {left right : Step} (same : left.muted = right.muted) :
    left.Agrees right where
  fault_eq := congrArg (fun step => step.fault) same
  events_eq := congrArg (fun step => step.events) same
  current_eq := congrArg (fun step => step.session.current) same
  dump_eq := congrArg (fun step => step.session.dump?) same
  diagnostics_eq := congrArg (fun step => step.session.report.diagnostics) same
  hasErrors_eq := congrArg (fun step => step.session.report.hasErrors) same
  hasFatal_eq := congrArg (fun step => step.session.report.hasFatal) same
  text_eq := congrArg (fun step => step.session.report.text) same

theorem Run.agrees_of_muted {left right : Run} (same : left.muted = right.muted) :
    left.Agrees right where
  fault_eq := congrArg (fun run => run.fault) same
  events_eq := congrArg (fun run => run.events) same
  listing_eq := congrArg (fun run => run.listing) same
  diagnostics_eq := congrArg (fun run => run.annotator.report.diagnostics) same
  hasErrors_eq := congrArg (fun run => run.annotator.report.hasErrors) same
  hasFatal_eq := congrArg (fun run => run.annotator.report.hasFatal) same
  text_eq := congrArg (fun run => run.annotator.report.text) same
  labels_eq := congrArg (fun run => run.annotator.labels) same

/-! ## Used sessions and new ones -/

/-- A run on an empty report writes the texts of the diagnostics that it leaves there. -/
theorem Annotator.echo_run_of_empty {annotator : Annotator}
    (empty : annotator.report.diagnostics = #[]) (listing : Listing) :
    (annotator.run listing).annotator.report.echo = annotator.report.echo.map
      (· ++ String.join ((annotator.run listing).annotator.report.diagnostics.toList.map
        (·.text ++ "\n"))) := by
  rw [run_report, Report.echo_addAll, Report.toList_addAll, empty]
  rfl

namespace Session

variable {session : Session}

theorem echo_assemble (source file : String) :
    (session.assemble source file).session.report.echo = session.report.echo.map
      (· ++ String.join ((session.assemble source file).session.report.diagnostics.toList.map
        (·.text ++ "\n"))) := by
  by_cases valid : session.target.Valid
  · rw [(assemble_of_valid source file valid).2.2]
    exact Annotator.echo_run_of_empty rfl _
  · rw [(assemble_of_not_valid source file valid).2.2]
    change session.report.echo = session.report.echo.map (· ++ String.join [])
    cases session.report.echo with
    | none => rfl
    | some written => simp [String.join]

/-- A session that has been used does to a source what a new one does. -/
theorem exists_fresh (reachable : session.Reachable) (valid : session.target.Valid)
    (echo : Bool) :
    ∃ fresh, Session.make session.target echo = .ok fresh ∧
      ∀ source file, (session.assemble source file).Agrees (fresh.assemble source file) := by
  have made : Session.make session.target echo = .ok
      { target := session.target, report := { echo := if echo then some "" else none } } := by
    simp only [Session.make, Target.check, if_pos valid, Except.map]
  refine ⟨_, made, ?_⟩
  intro source file
  apply Step.agrees_of_muted
  rw [muted_assemble, muted_assemble, renewed_of_reachable reachable,
    renewed_of_reachable (.make made)]

/-- A file that does not encode a text leaves the session as it is. -/
theorem assembleFile_of_unreadable (session : Session) {disk : Disk} {path : String}
    (unreadable : ¬ ∃ text : List Char,
      disk.find (FilePath.normal path) = .file (text.flatMap String.utf8EncodeChar)) :
    (session.assembleFile disk path).fault ≠ none ∧
      (session.assembleFile disk path).session = session := by
  cases read : disk.read (FilePath.normal path) with
  | error fault => simp [assembleFile, read]
  | ok chars =>
      obtain ⟨text, found, _⟩ := (Disk.read_eq_ok_iff _ _ _).mp read
      exact absurd ⟨text, found⟩ unreadable

/-- A file that encodes a text is assembled as that text. -/
theorem assembleFile_of_text (session : Session) {disk : Disk} {path : String} {text : List Char}
    (found : disk.find (FilePath.normal path) = .file (text.flatMap String.utf8EncodeChar)) :
    let step :=
      session.assemble (String.ofList (Text.unifyNewlines text)) (FilePath.normal path)
    (session.assembleFile disk path).session = step.session ∧
      (session.assembleFile disk path).fault = step.fault := by
  have read := (Disk.read_eq_ok_iff disk (FilePath.normal path) _).mpr ⟨text, found, rfl⟩
  simp only [assembleFile, read, and_self]

end Session

/-- An annotator whose report has been cleared does to a listing what a new one does, whatever it
was left with. -/
theorem Annotator.agrees_of_make {annotator fresh : Annotator} {echo : Option String}
    (made : Annotator.make annotator.target { limit := annotator.report.limit, echo := echo } =
      .ok fresh) (listing : Listing) :
    Run.Agrees (({ annotator with report := annotator.report.clear } : Annotator).run listing)
      (fresh.run listing) := by
  have fresh_eq : fresh =
      { target := annotator.target,
        report := { limit := annotator.report.limit, echo := echo } } := by
    by_cases valid : annotator.target.Valid
    · simp only [Annotator.make, Target.check, if_pos valid, Except.map, Except.ok.injEq] at made
      exact made.symm
    · simp only [Annotator.make, Target.check, if_neg valid, Except.map] at made
      cases made
  apply Run.agrees_of_muted
  rw [muted_run, muted_run, fresh_eq]
  rfl

namespace Session

/-- A session keeps no memory of the steps before, whether they failed or not.  A source for which
it returns is left as a new session for the same target leaves it, and the texts of its diagnostics
are what is written.  A file that cannot be read or does not encode a text is not assembled and
leaves the session as it was; any other file is assembled as its text.  An annotator does not
depend on its earlier runs either, once its report is cleared. -/
theorem assemble_independent {session : Session} (reachable : session.Reachable) :
    (∀ source file, (session.assemble source file).fault = none → session.target.Valid) ∧
    (session.target.Valid → ∀ echo, ∃ fresh, Session.make session.target echo = .ok fresh ∧
      ∀ source file, (session.assemble source file).Agrees (fresh.assemble source file)) ∧
    (∀ source file, (session.assemble source file).session.report.echo =
      session.report.echo.map (· ++ String.join
        ((session.assemble source file).session.report.diagnostics.toList.map (·.text ++ "\n")))) ∧
    (∀ disk path, (¬ ∃ text : List Char,
        Disk.find disk (FilePath.normal path) = .file (text.flatMap String.utf8EncodeChar)) →
      (session.assembleFile disk path).fault ≠ none ∧
        (session.assembleFile disk path).session = session) ∧
    (∀ disk path, ∀ text : List Char,
      Disk.find disk (FilePath.normal path) = .file (text.flatMap String.utf8EncodeChar) →
        let step :=
          session.assemble (String.ofList (Text.unifyNewlines text)) (FilePath.normal path)
        (session.assembleFile disk path).session = step.session ∧
          (session.assembleFile disk path).fault = step.fault) ∧
    ∀ (annotator fresh : Annotator) (echo : Option String),
      Annotator.make annotator.target { limit := annotator.report.limit, echo := echo } =
        .ok fresh →
      ∀ listing,
        let run := ({ annotator with report := annotator.report.clear } : Annotator).run listing
        run.Agrees (fresh.run listing) ∧
          run.annotator.report.echo = annotator.report.echo.map
            (· ++ String.join (run.annotator.report.diagnostics.toList.map (·.text ++ "\n"))) := by
  refine ⟨valid_of_returned, exists_fresh reachable, echo_assemble, ?_, ?_, ?_⟩
  · intro disk path unreadable
    exact assembleFile_of_unreadable session unreadable
  · intro disk path text found
    exact assembleFile_of_text session found
  · intro annotator fresh echo made listing
    exact ⟨Annotator.agrees_of_make made listing, Annotator.echo_run_of_empty rfl listing⟩

/-- A session that has assembled a source with errors, has been refused and has recovered. -/
def seasoned : Session :=
  (((sample.assemble "1x @" unnamedFile).session.setBound (-1)).assemble "nop"
    unnamedFile).session.setBound 7

/-- A disk with one file all over, which breaks off in a sequence of bytes. -/
def brokenDisk : Disk where
  find _ := .file [0x6E, 0xE2, 0x82]

theorem assemble_independent_seasoned :
    seasoned.Reachable ∧ seasoned.target.Valid ∧
      (∃ fresh, Session.make seasoned.target true = .ok fresh ∧
        (seasoned.assemble "r8 halt" unnamedFile).Agrees
          (fresh.assemble "r8 halt" unnamedFile)) ∧
      (seasoned.assembleFile brokenDisk "a.s").session = seasoned := by
  have reachable : seasoned.Reachable :=
    .step (.step (.step (.step reachable_sample (.assemble _ _ _)) (.setBound _ _))
      (.assemble _ _ _)) (.setBound _ _)
  have valid : seasoned.target.Valid := by decide +kernel
  have unreadable : ¬ ∃ text : List Char,
      brokenDisk.find (FilePath.normal "a.s") = .file (text.flatMap String.utf8EncodeChar) := by
    rintro ⟨text, found⟩
    have decoded := (Text.decodeUtf8_eq_ok_iff [0x6E, 0xE2, 0x82] text).mpr (Found.file.inj found)
    simp [Text.decodeUtf8, Text.decodeFrom, Text.sequenceHead?, Text.continueSequence,
      Except.map] at decoded
  obtain ⟨_, fresh, _, unread, _⟩ := assemble_independent reachable
  obtain ⟨new, made, agrees⟩ := fresh valid true
  exact ⟨reachable, valid, ⟨new, made, agrees "r8 halt" unnamedFile⟩,
    (unread brokenDisk "a.s" unreadable).2⟩

end Session
end RegisterAssembly
