import RegisterAssembly.Token

/-!
# Events

What the stages of an assembly tell about their progress.  Every event has a severity, the stage
that it comes from and a message.
-/

namespace RegisterAssembly

/-- A label and the number of line breaks before its declaration. -/
structure Label where
  name : String
  line : Nat
  deriving DecidableEq, Repr

/-- How much attention an event asks for. -/
inductive Severity where
  | debug
  | info
  | warning
  deriving DecidableEq, Repr

namespace Severity

/-- The word for a severity. -/
def name : Severity → String
  | debug => "DEBUG"
  | info => "INFO"
  | warning => "WARNING"

end Severity

/-- The stage that an event comes from. -/
inductive Stage where
  | scanning
  | annotating
  | reporting
  | assembling
  | commanding
  deriving DecidableEq, Repr

/-- One step of progress. -/
inductive Event where
  /-- A source was cut at a NUL character. -/
  | truncated (file : String) (offset : Nat)
  /-- A source was scanned. -/
  | scanned (file : String) (tokens : Nat)
  /-- The labels of a listing were collected. -/
  | labelled (file : String) (labels : List Label)
  /-- A diagnostic went into a report. -/
  | recorded (message : String)
  /-- A report became full, so that later diagnostics are dropped. -/
  | limited (limit : Int)
  /-- A token ended the pass over a listing. -/
  | aborted (file : String) (token : Token)
  /-- A file is about to be read. -/
  | reading (path : String)
  /-- A source was assembled. -/
  | assembled (file : String) (tokens diagnostics : Nat)
  /-- A file was assembled without diagnostics. -/
  | clean (path : String)
  deriving DecidableEq, Repr

namespace Event

/-- The severity of an event. -/
def severity : Event → Severity
  | limited _ => .warning
  | reading _ => .info
  | assembled _ _ _ => .info
  | _ => .debug

/-- The stage that an event comes from. -/
def stage : Event → Stage
  | truncated _ _ => .scanning
  | scanned _ _ => .scanning
  | labelled _ _ => .annotating
  | recorded _ => .reporting
  | limited _ => .annotating
  | aborted _ _ => .annotating
  | reading _ => .assembling
  | assembled _ _ _ => .assembling
  | clean _ => .commanding

/-- The message of an event. -/
def message : Event → String
  | truncated file offset =>
      file ++ ": source truncated at NUL (offset " ++ Decimal.text offset ++ ")"
  | scanned file tokens => file ++ ": scanned " ++ Decimal.text tokens ++ " tokens"
  | labelled file labels =>
      file ++ ": " ++ Decimal.text labels.length ++ " labels: " ++
        ", ".intercalate (labels.map fun label => label.name ++ "=" ++ Decimal.text label.line)
  | recorded message => "diagnostic recorded: " ++ message
  | limited limit =>
      "diagnostic limit (" ++ Decimal.text limit ++ ") reached, further errors suppressed"
  | aborted file token => file ++ ": resolution aborted at " ++ token.summary
  | reading path => "Reading " ++ path
  | assembled file tokens diagnostics =>
      file ++ ": " ++ Decimal.text tokens ++ " tokens, " ++ Decimal.text diagnostics ++
        " diagnostics"
  | clean path => path ++ ": no diagnostics"

end Event
end RegisterAssembly
