import RegisterAssembly.Event
import RegisterAssembly.Fault

/-!
# Reports

A report collects diagnostics.  It always takes the next one, and then is full once it holds
`limit` of them; it says so, and whoever adds to it decides what that means.  With an echo, the text
of each diagnostic is written as soon as it is added.
-/

namespace RegisterAssembly

/-- Collected diagnostics. -/
structure Report where
  /-- The number of diagnostics from which on the report is full; it may be zero or negative. -/
  limit : Int := 100
  diagnostics : Array Diagnostic := #[]
  /-- The text written so far, if the report has an echo. -/
  echo : Option String := none
  deriving DecidableEq, Repr

namespace Event

/-- The event of adding a diagnostic to a report. -/
def ofDiagnostic (diagnostic : Diagnostic) : Event :=
  .recorded diagnostic.problem.message

end Event

namespace Report

/-- The number of collected diagnostics. -/
def count (report : Report) : Nat :=
  report.diagnostics.size

/-- Collect and echo a diagnostic. -/
def add (report : Report) (diagnostic : Diagnostic) : Report :=
  { report with
    diagnostics := report.diagnostics.push diagnostic
    echo := report.echo.map (· ++ (diagnostic.text ++ "\n")) }

/-- Whether the report has reached its limit. -/
def isFull (report : Report) : Bool :=
  report.limit ≤ report.count

/-- What is raised by an addition that leaves the report full: the diagnostic that says so, unless
the limit in it is too long to be written. -/
def overflow? (report : Report) : Option Fault :=
  if report.isFull then
    if Decimal.Writable report.limit then
      some (.diagnostic { problem := .limitReached report.limit })
    else some (.digits .writing)
  else none

/-- Whether anything has been collected. -/
def hasErrors (report : Report) : Bool :=
  0 < report.count

/-- Whether a fatal diagnostic has been collected. -/
def hasFatal (report : Report) : Bool :=
  report.diagnostics.any (·.fatal)

/-- Forget the diagnostics; what was echoed stays written. -/
def clear (report : Report) : Report :=
  { report with diagnostics := #[] }

/-- The texts of all diagnostics, each followed by an empty line, and their number. -/
def text (report : Report) : String :=
  let paragraphs := report.diagnostics.toList.flatMap fun diagnostic => [diagnostic.text, ""]
  let noun := if report.count = 1 then " error" else " errors"
  "\n".intercalate (paragraphs ++ [Decimal.text report.count ++ noun])

@[simp]
theorem toList_add (report : Report) (diagnostic : Diagnostic) :
    (report.add diagnostic).diagnostics.toList = report.diagnostics.toList ++ [diagnostic] := by
  simp [add]

@[simp]
theorem count_add (report : Report) (diagnostic : Diagnostic) :
    (report.add diagnostic).count = report.count + 1 := by
  simp [add, count]

end Report
end RegisterAssembly
