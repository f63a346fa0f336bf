import RegisterAssembly.Command.Host
import RegisterAssembly.Session

/-!
# The command

The command assembles one file and prints its listing.  Diagnostics of the source go to the error
output and make it fail, and so do a file that cannot be read, unusable settings and unusable
arguments; the exit code tells these apart.  Messages are written as the host writes them, the
listing and the lines for events as they are.  The outcome of a run is a value: what is written to
either output and the exit code.
-/

namespace RegisterAssembly
namespace Command

/-- The name of the command. -/
def commandName : String := "rasm"

/-- The version of the command. -/
def versionNumber : String := "0.1.0"

/-- How a run ends. -/
inductive ExitCode where
  | success
  /-- The source has diagnostics. -/
  | rejected
  /-- Arguments, settings or the file cannot be used. -/
  | misused
  | internal
  deriving DecidableEq, Repr

namespace ExitCode

/-- The number that the system is given. -/
def number : ExitCode → Nat
  | success => 0
  | rejected => 1
  | misused => 2
  | internal => 3

end ExitCode

/-- What a run of the command leaves. -/
structure Outcome where
  exit : ExitCode
  stdout : String := ""
  stderr : String := ""
  deriving DecidableEq, Repr

/-- The first line of every text about the usage. -/
def usageLine : String :=
  "Usage: " ++ commandName ++ " [OPTIONS] " ++ UsageError.operandName ++ "\n"

/-- The text that describes the command. -/
def helpText : String :=
  usageLine ++
    "\n" ++
    "  Tokenize and resolve register-machine assembly source.\n" ++
    "\n" ++
    "  INPUT_FILE is the assembly source file to process.\n" ++
    "\n" ++
    "  Every token is printed with its kind, text, length and resolved value (opcode,\n" ++
    "  register index, immediate or label line).\n" ++
    "\n" ++
    "  Examples:\n" ++
    "      rasm prog.s                    # Print the annotated tokens\n" ++
    "      rasm --max-register 15 prog.s  # Allow only r0..r15\n" ++
    "      rasm -q prog.s                 # Diagnostics only\n" ++
    "\n" ++
    "Options:\n" ++
    "  --max-register INTEGER RANGE  Highest valid register index (default: 31, or\n" ++
    "                                REGASM_MAX_REGISTER)  [0<=x<=4294967295]\n" ++
    "  -q, --quiet                   Do not print the token stream, only diagnostics\n" ++
    "  -v, --verbose                 Verbose output\n" ++
    "  --version                     Show the version and exit.\n" ++
    "  --help                        Show this message and exit.\n"

/-- The text that names the version. -/
def versionText : String :=
  commandName ++ ", version " ++ versionNumber ++ "\n"

/-- How a message is written, with a newline after it. -/
def messageText (host : Host) (message : String) : String :=
  String.ofList (host.plain message.toList) ++ "\n"

/-- What is written about arguments that cannot be used. -/
def usageText (host : Host) (error : UsageError) : String :=
  (if error.showsUsage then
    usageLine ++ "Try '" ++ commandName ++ " --help' for help.\n\n"
  else "") ++ messageText host ("Error: " ++ error.message)

/-- The line for an event: all of them with their severity if `verbose`, else bare warnings. -/
def eventText (verbose : Bool) (event : Event) : String :=
  if verbose then event.severity.name ++ ": " ++ event.message ++ "\n"
  else if event.severity = .warning then event.message ++ "\n"
  else ""

/-- The lines for consecutive events. -/
def eventsText (verbose : Bool) (events : List Event) : String :=
  String.join (events.map (eventText verbose))

/-- The exit code for a fault and what is written about it.  `activity` names what failed; the trace
of a fault of the command itself follows it if `verbose`. -/
def explain (host : Host) (trace : String) (fault : Fault) (verbose : Bool)
    (activity : Option String) : ExitCode × String :=
  let introduction :=
    match activity with
    | some activity => if activity.isEmpty then "Error: " else activity ++ " error: "
    | none => "Error: "
  match fault with
  | .diagnostic ⟨.setting error _, _, _⟩ =>
      (.misused, messageText host ("Error: " ++ error.message))
  | .diagnostic _ => (.rejected, messageText host (introduction ++ fault.message))
  | .plain _ => (.rejected, messageText host (introduction ++ fault.message))
  | .notFound _ => (.misused, messageText host ("Error: " ++ fault.message))
  | .denied _ => (.misused, messageText host ("Error: " ++ fault.message))
  | .encoding _ => (.misused, messageText host ("Error: " ++ fault.message))
  | _ =>
      (.internal,
        messageText host ("Internal error: " ++ fault.message) ++ if verbose then trace else "")

/-- The outcome of a fault in an attempt, after some events. -/
def failure (host : Host) (attempt : Attempt) (verbose : Bool) (events : List Event)
    (fault : Fault) : Outcome :=
  let explained := explain host (host.trace attempt) fault verbose (some "Tokenize")
  { exit := explained.1, stderr := eventsText verbose events ++ explained.2 }

/-- The target of a run: the bound among the settings replaces the one in the environment, which has
to be usable all the same. -/
def target (settings : Settings) (environment : Option String) : Except Fault Target :=
  (Target.ofEnvironment environment).map fun target =>
    match settings.bound with
    | some bound => { target with registerBound := bound }
    | none => target

/-- What is printed of the last listing of a session. -/
def printed (settings : Settings) (session : Session) : Except DigitLimit String :=
  if settings.quiet then .ok "" else session.dump?.map (· ++ "\n")

/-- The outcome of a step that assembled the file, of which `stdout` is printed. -/
def report (host : Host) (settings : Settings) (step : Step) (stdout : String) : Outcome :=
  if step.session.report.hasErrors then
    { exit := .rejected
      stdout := stdout
      stderr := eventsText settings.verbose step.events ++
        messageText host step.session.report.text }
  else
    { exit := .success
      stdout := stdout
      stderr := eventsText settings.verbose
        (step.events ++ [.clean (FilePath.normal settings.path)]) }

/-- Assemble the file that the settings name.  There is no outcome if its listing cannot be printed,
which is no longer part of the attempt. -/
def assemble (host : Host) (disk : Disk) (environment : Option String) (settings : Settings) :
    Except Fault Outcome :=
  match target settings environment with
  | .error fault => .ok (failure host (.configure environment) settings.verbose [] fault)
  | .ok target =>
      let attempt : Attempt := .assemble target disk settings.path
      match Session.make target false with
      | .error fault => .ok (failure host attempt settings.verbose [] fault)
      | .ok session =>
          let step := session.assembleFile disk settings.path
          match step.fault with
          | some fault => .ok (failure host attempt settings.verbose step.events fault)
          | none =>
              match printed settings step.session with
              | .error limit => .error (.digits limit)
              | .ok stdout => .ok (report host settings step stdout)

/-- What cannot be used in the environment ends the run before the file is read. -/
theorem assemble_of_refused {host : Host} {disk : Disk} {environment : Option String}
    {settings : Settings} {fault : Fault}
    (refused : Target.ofEnvironment environment = .error fault) :
    assemble host disk environment settings =
      .ok (failure host (.configure environment) settings.verbose [] fault) := by
  have given : target settings environment = .error fault := by
    rw [target, refused]
    rfl
  simp only [assemble, given]

/-- Run the command on a disk, with the register bound that the environment holds.  There is no
outcome if the path of the file cannot be looked up at all. -/
def run (host : Host) (disk : Disk) (environment : Option String) (arguments : List String) :
    Except Fault Outcome :=
  match host.readRequest disk arguments with
  | .error .unnameable => .error .nulCharacter
  | .error error => .ok { exit := .misused, stderr := usageText host error }
  | .ok .help => .ok { exit := .success, stdout := helpText }
  | .ok .version => .ok { exit := .success, stdout := versionText }
  | .ok (.assemble settings) => assemble host disk environment settings

theorem run_of_request {host : Host} {disk : Disk} {environment : Option String}
    {arguments : List String} {settings : Settings}
    (request : host.readRequest disk arguments = .ok (.assemble settings)) :
    run host disk environment arguments = assemble host disk environment settings := by
  simp only [run, request]

end Command
end RegisterAssembly
