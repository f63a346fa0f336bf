import RegisterAssembly.Decimal.Read
import RegisterAssembly.Disk
import RegisterAssembly.Literal

/-!
# Command-line arguments

Arguments are read from left to right.  One that starts with a dash and has more characters is an
option; all others are operands, and so is everything after a lone `--`.  A long option may carry
its value after an equals sign.  One-letter options may share a dash.  Help and version go before
all checks of values; then the register bound is checked, then the input file, then the number of
operands.
-/

namespace RegisterAssembly
namespace Command

/-- An option without a value. -/
inductive Switch where
  | quiet
  | verbose
  | version
  | help
  deriving DecidableEq, Repr

/-- An option as it was given. -/
inductive GivenOption where
  | maxRegister (value : String)
  | switch (switch : Switch)
  deriving DecidableEq, Repr

/-- Arguments, sorted into options and operands. -/
structure Arguments where
  options : List GivenOption := []
  operands : List String := []
  deriving DecidableEq, Repr

/-- Why the arguments cannot be used. -/
inductive UsageError where
  | noSuchOption (name : String)
  | takesNoValue (name : String)
  | requiresValue (name : String)
  /-- The register bound is no decimal integer. -/
  | notAnInteger (value : String)
  /-- The register bound is no 32-bit word. -/
  | outOfRange (value : Int)
  | missingOperand
  | noSuchFile (path : String)
  | isADirectory (path : String)
  | notReadable (path : String)
  /-- The path holds a NUL character, so that it cannot be looked up. -/
  | unnameable
  | extraOperands (operands : List String)
  deriving DecidableEq, Repr

namespace UsageError

/-- The name of the operand in messages. -/
def operandName : String := "INPUT_FILE"

/-- The sentence that reports the error. -/
def message : UsageError → String
  | noSuchOption name => "No such option " ++ Text.quoted name ++ "."
  | takesNoValue name => "Option " ++ Text.quoted name ++ " does not take a value."
  | requiresValue name => "Option " ++ Text.quoted name ++ " requires an argument."
  | notAnInteger value =>
      "Invalid value for '--max-register': " ++ Text.quoted value ++
        " is not a valid integer range."
  | outOfRange value =>
      "Invalid value for '--max-register': " ++ Decimal.text value ++
        " is not in the range 0<=x<=" ++ Decimal.text wordMax ++ "."
  | missingOperand => "Missing argument '" ++ operandName ++ "'."
  | noSuchFile path =>
      "Invalid value for '" ++ operandName ++ "': File " ++ Text.quoted path ++
        " does not exist."
  | isADirectory path =>
      "Invalid value for '" ++ operandName ++ "': File " ++ Text.quoted path ++
        " is a directory."
  | notReadable path =>
      "Invalid value for '" ++ operandName ++ "': File " ++ Text.quoted path ++
        " is not readable."
  | unnameable => Fault.nulCharacter.message
  | extraOperands operands =>
      "Got unexpected extra argument" ++ (if operands.length = 1 then "" else "s") ++ " (" ++
        " ".intercalate operands ++ ")"

/-- Whether the message goes with a reminder of the usage.  A missing or surplus value of an option
does not. -/
def showsUsage : UsageError → Bool
  | takesNoValue _ => false
  | requiresValue _ => false
  | _ => true

end UsageError

/-- What one option argument says. -/
inductive OptionReading where
  /-- The argument gives these options. -/
  | complete (options : List GivenOption)
  /-- The next argument is the register bound. -/
  | awaitsBound
  deriving DecidableEq, Repr

/-- The name of the option that takes a value. -/
def boundOption : String := "--max-register"

/-- The switch with a long name. -/
def longSwitch? (name : String) : Option Switch :=
  if name = "--quiet" then some .quiet
  else if name = "--verbose" then some .verbose
  else if name = "--version" then some .version
  else if name = "--help" then some .help
  else none

/-- The switch with a one-letter name. -/
def letterSwitch? (letter : Char) : Option Switch :=
  if letter = 'q' then some .quiet
  else if letter = 'v' then some .verbose
  else none

/-- Read the letters after a single dash. -/
def readLetters : List Char → Except UsageError (List GivenOption)
  | [] => .ok []
  | letter :: letters =>
      match letterSwitch? letter with
      | none => .error (.noSuchOption (String.ofList ['-', letter]))
      | some switch => (readLetters letters).map (.switch switch :: ·)

/-- Read an option argument: as a long option, or letter by letter after a single dash. -/
def readOption (argument : String) : Except UsageError OptionReading :=
  let chars := argument.toList
  let name := String.ofList (chars.takeWhile (· ≠ '='))
  let value :=
    match chars.dropWhile (· ≠ '=') with
    | [] => none
    | _ :: value => some (String.ofList value)
  if name = boundOption then
    match value with
    | none => .ok .awaitsBound
    | some value => .ok (.complete [.maxRegister value])
  else
    match longSwitch? name with
    | some switch =>
        if value.isSome then .error (.takesNoValue name)
        else .ok (.complete [.switch switch])
    | none =>
        if chars.take 2 = ['-', '-'] then .error (.noSuchOption name)
        else (readLetters (chars.drop 1)).map .complete

/-- Whether an argument is an option. -/
def isOption (argument : String) : Bool :=
  match argument.toList with
  | '-' :: _ :: _ => true
  | _ => false

/-- Sort arguments into options and operands; if `awaiting`, the first one is the register bound. -/
def sortArguments (awaiting : Bool) : List String → Except UsageError Arguments
  | [] => if awaiting then .error (.requiresValue boundOption) else .ok {}
  | argument :: rest =>
      if awaiting then
        (sortArguments false rest).map fun sorted =>
          { sorted with options := .maxRegister argument :: sorted.options }
      else if argument = "--" then
        .ok { operands := rest }
      else if isOption argument then
        match readOption argument with
        | .error error => .error error
        | .ok .awaitsBound => sortArguments true rest
        | .ok (.complete options) =>
            (sortArguments false rest).map fun sorted =>
              { sorted with options := options ++ sorted.options }
      else
        (sortArguments false rest).map fun sorted =>
          { sorted with operands := argument :: sorted.operands }

/-- How a file is to be assembled. -/
structure Settings where
  /-- The register bound, if one was given. -/
  bound : Option Int
  quiet : Bool
  verbose : Bool
  /-- The path of the source, as given. -/
  path : String
  deriving DecidableEq, Repr

/-- What the arguments ask for. -/
inductive Request where
  | help
  | version
  | assemble (settings : Settings)
  deriving DecidableEq, Repr

namespace Arguments

/-- The first request for help or for the version. -/
def early? (arguments : Arguments) : Option Request :=
  arguments.options.findSome? fun
    | .switch .help => some .help
    | .switch .version => some .version
    | _ => none

/-- The register bound; of several ones the last counts. -/
def bound (arguments : Arguments) : Except UsageError (Option Int) :=
  let values := arguments.options.filterMap fun
    | .maxRegister value => some value
    | _ => none
  match values.getLast? with
  | none => .ok none
  | some text =>
      match Decimal.read? text with
      | none => .error (.notAnInteger text)
      | some value =>
          if 0 ≤ value ∧ value ≤ wordMax then .ok (some value) else .error (.outOfRange value)

/-- The path of the source, which has to name a file. -/
def path (arguments : Arguments) (disk : Disk) : Except UsageError String :=
  match arguments.operands with
  | [] => .error .missingOperand
  | path :: _ =>
      match disk.find path with
      | .file _ => .ok path
      | .directory => .error (.isADirectory path)
      | .locked => .error (.notReadable path)
      | .unnameable => .error .unnameable
      | _ => .error (.noSuchFile path)

/-- What the arguments ask for. -/
def request (arguments : Arguments) (disk : Disk) : Except UsageError Request :=
  match arguments.early? with
  | some request => .ok request
  | none =>
      match arguments.bound with
      | .error error => .error error
      | .ok bound =>
          match arguments.path disk with
          | .error error => .error error
          | .ok path =>
              match arguments.operands.drop 1 with
              | [] =>
                  .ok (.assemble
                    { bound := bound
                      quiet := arguments.options.contains (.switch .quiet)
                      verbose := arguments.options.contains (.switch .verbose)
                      path := path })
              | extra => .error (.extraOperands extra)

end Arguments

/-- What the arguments of a command ask for. -/
def readRequest (disk : Disk) (arguments : List String) : Except UsageError Request :=
  match sortArguments false arguments with
  | .error error => .error error
  | .ok sorted => sorted.request disk

theorem early?_ne_assemble (arguments : Arguments) (settings : Settings) :
    arguments.early? ≠ some (.assemble settings) := by
  intro early
  obtain ⟨option, _, found⟩ := List.exists_of_findSome?_eq_some early
  split at found <;> cases found

theorem range_of_bound {arguments : Arguments} {value : Int}
    (bound : arguments.bound = .ok (some value)) : 0 ≤ value ∧ value ≤ wordMax := by
  simp only [Arguments.bound] at bound
  split at bound
  · cases bound
  · split at bound
    · cases bound
    · split at bound
      · rename_i range
        cases bound
        exact range
      · cases bound

/-- A register bound that is accepted is a 32-bit word. -/
theorem range_of_readRequest {disk : Disk} {arguments : List String} {settings : Settings}
    (request : readRequest disk arguments = .ok (.assemble settings)) {value : Int}
    (bound : settings.bound = some value) : 0 ≤ value ∧ value ≤ wordMax := by
  rw [readRequest] at request
  split at request
  · cases request
  · rename_i sorted _
    rw [Arguments.request] at request
    split at request
    · rename_i early
      rw [Except.ok.injEq] at request
      exact absurd (request ▸ early) (early?_ne_assemble sorted settings)
    · split at request
      · cases request
      · rename_i given
        split at request
        · cases request
        · split at request
          · cases request
            cases bound
            exact range_of_bound given
          · cases request

end Command
end RegisterAssembly
