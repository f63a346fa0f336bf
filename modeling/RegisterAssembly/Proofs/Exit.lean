import RegisterAssembly.Command.Run
import RegisterAssembly.Proofs.Reporting
import RegisterAssembly.Proofs.Disk

/-!
# The exit code of the command

The command succeeds on a file just if every token of its annotated listing is accounted for, and
otherwise reports diagnostics, however many there are.  What it prints is the listing, unless it is
asked to be quiet.  How much it tells about its progress changes neither.
-/

namespace RegisterAssembly

/-- Tokens that are all accounted for: none is invalid, every number is resolved, and every word is
resolved or is the name of a label that one of the tokens declares. -/
def Accounted (tokens : List Token) : Prop :=
  ∀ token ∈ tokens, token.kind ≠ .invalid ∧
    (token.kind = .immediate ∨ token.kind = .register → token.resolved) ∧
    (token.kind = .instruction → token.resolved ∨ Declares tokens token.text)

instance (tokens : List Token) : Decidable (Accounted tokens) :=
  inferInstanceAs (Decidable (∀ _ ∈ _, _ ∧ _ ∧ _))

/-! ## Accounted listings -/

namespace Annotator

variable {annotator : Annotator} {listing : Listing} {index : Nat} {token : Token}

theorem declares_run (name : String) :
    Declares (annotator.run listing).listing.tokens name ↔ Declares listing.tokens name :=
  declares_of_shape_eq (shape_run annotator listing) name

theorem exists_getElem?_run (annotator : Annotator) (found : listing.tokens[index]? = some token) :
    ∃ annotated, (annotator.run listing).listing.tokens[index]? = some annotated ∧
      annotated.kind = token.kind ∧ annotated.text = token.text :=
  exists_of_shape_eq (shape_run annotator listing).symm found

theorem accepted_of_accounted (accounted : Accounted (annotator.run listing).listing.tokens)
    (member : token ∈ listing.tokens) :
    token.kind ≠ .invalid ∧ ¬ token.Rejected annotator.target listing.tokens := by
  obtain ⟨index, found⟩ := List.mem_iff_getElem?.mp member
  obtain ⟨annotated, found', kind, text⟩ := exists_getElem?_run annotator found
  obtain ⟨valid, number, word⟩ := accounted annotated (List.mem_of_getElem? found')
  rw [kind] at valid number word
  rw [text, declares_run] at word
  have unresolved (other : token.kind ≠ .labelDeclaration)
      (blank : ¬ ∃ value, token.Denotes annotator.target value) : ¬ annotated.resolved := by
    rw [getElem?_run_of_blank found other fun _ => blank, Option.some.injEq] at found'
    rw [← found']
    exact Bool.false_ne_true
  refine ⟨valid, ?_⟩
  rintro (⟨kinds, blank⟩ | ⟨instruction, blank, undeclared⟩)
  · refine unresolved ?_ blank (number kinds)
    rcases kinds with immediate | register <;> simp [*]
  · rcases word instruction with resolved | declared
    · exact unresolved (by simp [instruction]) blank resolved
    · exact undeclared declared

/-- A run without a fault accounts for all tokens if none of them is invalid or rejected. -/
theorem accounted_of_accepted (returned : (annotator.run listing).fault = none)
    (accepted : ∀ token ∈ listing.tokens,
      token.kind ≠ .invalid ∧ ¬ token.Rejected annotator.target listing.tokens) :
    Accounted (annotator.run listing).listing.tokens := by
  intro annotated member
  obtain ⟨index, found'⟩ := List.mem_iff_getElem?.mp member
  obtain ⟨token, found, kind, text⟩ := exists_of_shape_eq (shape_run annotator listing) found'
  obtain ⟨valid, allowed⟩ := accepted token (List.mem_of_getElem? found)
  have passed : annotator.passes listing (index + 1) := by
    apply passes_of_returned returned
    intro earlier member
    exact (accepted earlier (List.mem_of_mem_take member)).1
  have resolved (denoted : ∃ value, token.Denotes annotator.target value) :
      annotated.resolved := by
    obtain ⟨value, denoted⟩ := denoted
    rw [getElem?_run_of_denotes found denoted passed, Option.some.injEq] at found'
    rw [← found']
    rfl
  rw [← kind, ← text, declares_run]
  refine ⟨valid, ?_, ?_⟩
  · intro kinds
    by_contra unresolved
    exact allowed (.inl ⟨kinds, mt resolved unresolved⟩)
  · intro instruction
    by_contra neither
    rw [not_or] at neither
    exact allowed (.inr ⟨instruction, mt resolved neither.1, neither.2⟩)

theorem accounted_run_iff (returned : (annotator.run listing).fault = none) :
    Accounted (annotator.run listing).listing.tokens ↔
      ∀ token ∈ listing.tokens,
        token.kind ≠ .invalid ∧ ¬ token.Rejected annotator.target listing.tokens := by
  constructor
  · intro accounted token member
    exact accepted_of_accounted accounted member
  · exact accounted_of_accepted returned

end Annotator

namespace Session

/-- A step without a fault has diagnostics just if some token is not accounted for. -/
theorem hasErrors_assemble_iff {session : Session} (valid : session.target.Valid)
    (source file : String) (returned : (session.assemble source file).fault = none) :
    (session.assemble source file).session.report.hasErrors = false ↔
      Accounted (session.annotator.run (Listing.scan source file)).listing.tokens := by
  have bound : Decimal.Writable session.annotator.target.registerBound :=
    Target.writable_of_valid valid
  have returned' := returned
  rw [(assemble_of_valid source file valid).1] at returned'
  have empty : (session.assemble source file).session.report.hasErrors = false ↔
      (session.assemble source file).session.report.diagnostics.toList = [] := by
    rw [Report.hasErrors, Report.count, decide_eq_false_iff_not, Nat.pos_iff_ne_zero, not_not,
      Array.size_eq_zero_iff, Array.toList_eq_nil_iff]
  rw [empty, diagnostics_assemble valid, Annotator.accounted_run_iff returned']
  exact Annotator.recorded_eq_nil_iff bound returned'

end Session

/-! ## Settings -/

namespace Target

theorem valid_of_check {target checked : Target} (accepted : target.check = .ok checked) :
    checked.Valid := by
  rw [check] at accepted
  split at accepted
  · rename_i valid
    cases accepted
    exact valid
  · cases accepted

theorem valid_of_ofEnvironment {environment : Option String} {target : Target}
    (accepted : ofEnvironment environment = .ok target) : target.Valid := by
  cases environment with
  | none =>
      cases accepted
      decide
  | some text =>
      simp only [ofEnvironment] at accepted
      split at accepted
      · cases accepted
        decide
      · split at accepted
        · cases accepted
        · cases accepted
        · exact valid_of_check accepted

end Target

namespace Command

/-- The target for some settings: their register bound, if they have one, goes before the one of
the target that the environment gives. -/
def Settings.targetFrom (settings : Settings) (fallback : Target) : Target :=
  { fallback with registerBound := settings.bound.getD fallback.registerBound }

/-- The source that the settings name, in a file of the given characters. -/
def Settings.source (settings : Settings) (chars : List Char) : Listing :=
  .scan (String.ofList (Text.unifyNewlines chars)) (FilePath.normal settings.path)

variable {host : Host} {disk : Disk} {environment : Option String} {fallback : Target}
  {arguments : List String} {settings : Settings} {bytes : List UInt8} {chars : List Char}

theorem target_eq (accepted : Target.ofEnvironment environment = .ok fallback) :
    target settings environment = .ok (settings.targetFrom fallback) := by
  rw [target, accepted, Settings.targetFrom]
  cases settings.bound <;> rfl

theorem valid_targetFrom (request : host.readRequest disk arguments = .ok (.assemble settings))
    (accepted : Target.ofEnvironment environment = .ok fallback) :
    (settings.targetFrom fallback).Valid := by
  cases given : settings.bound with
  | none =>
      have valid := Target.valid_of_ofEnvironment accepted
      simpa only [Target.Valid, Settings.targetFrom, given, Option.getD_none] using valid
  | some value =>
      have range := host.range_of_bound request given
      simpa only [Target.Valid, Settings.targetFrom, given, Option.getD_some] using range

theorem make_session {target : Target} (valid : target.Valid) :
    Session.make target false = .ok { target := target } := by
  simp only [Session.make, Target.check, if_pos valid, Except.map]
  rfl

theorem read_of_file {path : String} (found : disk.find path = .file bytes)
    (decoded : Text.decodeUtf8 bytes = .ok chars) :
    disk.read path = .ok (Text.unifyNewlines chars) := by
  simp only [Disk.read, found, decoded]

/-- No token of a source takes too many digits, neither when it is annotated nor when it is
printed. -/
structure DigitsSuffice (target : Target) (listing : Listing) : Prop where
  annotated : ∀ index token, Annotator.Reached listing.tokens index token →
    ¬ token.ExceedsDigits target listing.tokens
  printed : ∀ token ∈ (Annotator.run { target := target } listing).listing.tokens,
    Decimal.Writable token.payload

theorem assembleFile_of_read {session : Session} {path : String}
    (read : disk.read (FilePath.normal path) = .ok chars) :
    session.assembleFile disk path =
      { session.assemble (String.ofList chars) (FilePath.normal path) with
        events := .reading (FilePath.normal path) ::
          (session.assemble (String.ofList chars) (FilePath.normal path)).events } := by
  simp only [Session.assembleFile, read]

theorem assemble_of_step {target : Target} {stdout : String}
    (given : Command.target settings environment = .ok target) (valid : target.Valid)
    (returned : (Session.assembleFile { target := target } disk settings.path).fault = none)
    (printing : printed settings
      (Session.assembleFile { target := target } disk settings.path).session = .ok stdout) :
    assemble host disk environment settings = .ok
      (report host settings (Session.assembleFile { target := target } disk settings.path)
        stdout) := by
  simp only [assemble, given, make_session valid, returned, printing]

theorem report_of_accounted {step : Step} {accounted : Prop} [Decidable accounted]
    (errors : step.session.report.hasErrors = false ↔ accounted) (stdout : String) :
    (report host settings step stdout).exit = (if accounted then .success else .rejected) ∧
      (report host settings step stdout).stdout = stdout := by
  rw [report]
  split
  · rename_i reported
    have missing : ¬ accounted := by
      intro all
      rw [errors.mpr all] at reported
      cases reported
    exact ⟨(if_neg missing).symm, rfl⟩
  · rename_i silent
    rw [Bool.not_eq_true] at silent
    exact ⟨(if_pos (errors.mp silent)).symm, rfl⟩

/-- What the command leaves when it assembles a file. -/
theorem exists_outcome (keeps : disk.KeepsFiles)
    (accepted : Target.ofEnvironment environment = .ok fallback)
    (request : host.readRequest disk arguments = .ok (.assemble settings))
    (found : disk.find settings.path = .file bytes) (decoded : Text.decodeUtf8 bytes = .ok chars)
    (suffice : DigitsSuffice (settings.targetFrom fallback) (settings.source chars)) :
    let annotated := (Annotator.run { target := settings.targetFrom fallback }
      (settings.source chars)).listing
    ∃ outcome, run host disk environment arguments = .ok outcome ∧
      outcome.exit = (if Accounted annotated.tokens then .success else .rejected) ∧
      outcome.stdout = if settings.quiet then "" else annotated.dump ++ "\n" := by
  intro annotated
  have valid := valid_targetFrom request accepted
  let session : Session := { target := settings.targetFrom fallback }
  let text := String.ofList (Text.unifyNewlines chars)
  let file := FilePath.normal settings.path
  have reachable : session.Reachable := .make (make_session valid)
  have valid' : session.target.Valid := valid
  have returned : (session.assemble text file).fault = none :=
    (Session.fault_assemble_iff valid' (Session.writable_limit reachable)).mpr suffice.annotated
  have current : (session.assemble text file).session.current = some annotated :=
    (Session.assemble_of_valid text file valid).2.1
  have errors : (session.assemble text file).session.report.hasErrors = false ↔
      Accounted annotated.tokens := Session.hasErrors_assemble_iff valid text file returned
  have printing : printed settings (session.assemble text file).session =
      .ok (if settings.quiet then "" else annotated.dump ++ "\n") := by
    have dumped : annotated.dump? = .ok annotated.dump := if_pos suffice.printed
    simp only [printed, Session.dump?, current, dumped, Except.map]
    split <;> rfl
  have step := @assembleFile_of_read disk _ session _
    (read_of_file (keeps settings.path bytes found) decoded)
  have assembled := @assemble_of_step host disk environment settings _
    (if settings.quiet then "" else annotated.dump ++ "\n") (target_eq accepted) valid
    (step ▸ returned) (step ▸ printing)
  exact ⟨_, (run_of_request request).trans assembled, report_of_accounted (step ▸ errors) _⟩

/-- The exit code is faithful to the source: it is zero just if all tokens of the annotated listing
are accounted for, and one otherwise.  The listing is printed unless the command is to be quiet.
Whether it is to be quiet or verbose does not matter for the exit code, nor does the latter for
what is printed. -/
theorem run_exit (keeps : disk.KeepsFiles)
    (accepted : Target.ofEnvironment environment = .ok fallback)
    (request : host.readRequest disk arguments = .ok (.assemble settings))
    (found : disk.find settings.path = .file bytes) (decoded : Text.decodeUtf8 bytes = .ok chars)
    (suffice : DigitsSuffice (settings.targetFrom fallback) (settings.source chars)) :
    let annotated := (Annotator.run { target := settings.targetFrom fallback }
      (settings.source chars)).listing
    ∃ outcome, run host disk environment arguments = .ok outcome ∧
      (outcome.exit.number = 0 ↔ Accounted annotated.tokens) ∧
      (outcome.exit.number = 1 ↔ ¬ Accounted annotated.tokens) ∧
      outcome.stdout = (if settings.quiet then "" else annotated.dump ++ "\n") ∧
      ∀ others quiet verbose, host.readRequest disk others =
          .ok (.assemble { settings with quiet := quiet, verbose := verbose }) →
        ∃ other, run host disk environment others = .ok other ∧ other.exit = outcome.exit ∧
          (quiet = settings.quiet → other.stdout = outcome.stdout) := by
  intro annotated
  obtain ⟨outcome, ran, exit, stdout⟩ :=
    exists_outcome keeps accepted request found decoded suffice
  have code : outcome.exit = if Accounted annotated.tokens then .success else .rejected := exit
  refine ⟨outcome, ran, ?_, ?_, stdout, ?_⟩
  · rw [code]
    by_cases accounted : Accounted annotated.tokens <;> simp [accounted, ExitCode.number]
  · rw [code]
    by_cases accounted : Accounted annotated.tokens <;> simp [accounted, ExitCode.number]
  · intro others quiet verbose request'
    obtain ⟨other, ran', exit', stdout'⟩ :=
      exists_outcome keeps accepted request' found decoded suffice
    refine ⟨other, ran', exit'.trans exit.symm, ?_⟩
    rintro rfl
    exact stdout'.trans stdout.symm

/-- A source that uses a label before its declaration, with a carriage return. -/
def sampleText : List Char :=
  "jmp end\r\nend: mov r7, 0x1F".toList

/-- A directory that holds the source. -/
def sampleDirectory : Directory :=
  .ofPaths [("prog.s", sampleText.map fun c => UInt8.ofNat c.toNat)]

/-- Settings that name the source by another path. -/
def sampleSettings : Settings where
  bound := some 7
  quiet := false
  verbose := false
  path := "./prog.s"

theorem run_exit_sample :
    ∃ outcome, run .standard sampleDirectory.toDisk (some "0x10") ["--max-register=7", "./prog.s"] =
        .ok outcome ∧
      outcome.exit.number = 0 ∧
      ∃ other, run .standard sampleDirectory.toDisk (some "0x10")
          ["-qv", "--max-register", "7", "./prog.s"] = .ok other ∧
        other.exit = outcome.exit := by
  have accepted : Target.ofEnvironment (some "0x10") = .ok { registerBound := 16 } := by
    decide +kernel
  have request : Host.standard.readRequest sampleDirectory.toDisk
      ["--max-register=7", "./prog.s"] = .ok (.assemble sampleSettings) := by decide +kernel
  have request' : Host.standard.readRequest sampleDirectory.toDisk
      ["-qv", "--max-register", "7", "./prog.s"] =
      .ok (.assemble { sampleSettings with quiet := true, verbose := true }) := by decide +kernel
  have found : sampleDirectory.toDisk.find "./prog.s" =
      .file (sampleText.map fun c => UInt8.ofNat c.toNat) := by decide +kernel
  have decoded : Text.decodeUtf8 (sampleText.map fun c => UInt8.ofNat c.toNat) =
      .ok sampleText := by decide +kernel
  have within : ∀ token ∈ (sampleSettings.source sampleText).tokens,
      ¬ token.ExceedsDigits (sampleSettings.targetFrom { registerBound := 16 })
        (sampleSettings.source sampleText).tokens := by decide +kernel
  have suffice : DigitsSuffice (sampleSettings.targetFrom { registerBound := 16 })
      (sampleSettings.source sampleText) := by
    constructor
    · rintro index token ⟨reached, _⟩
      exact within token (List.mem_of_getElem? reached)
    · decide +kernel
  obtain ⟨outcome, ran, succeeds, _, _, same⟩ :=
    run_exit (Directory.keepsFiles_toDisk sampleDirectory) accepted request found decoded suffice
  obtain ⟨other, ran', exit, _⟩ := same _ true true request'
  exact ⟨outcome, ran, succeeds.mpr (by decide +kernel), other, ran', exit⟩

end Command
end RegisterAssembly
