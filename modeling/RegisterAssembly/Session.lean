import RegisterAssembly.Annotation
import RegisterAssembly.Disk

/-!
# Sessions

A session assembles one source after the other for one target.  It keeps the listing and the
report of the last source; the report of the source before is forgotten when a new one has been
read.
-/

namespace RegisterAssembly

/-- What is kept between the sources of a session. -/
structure Session where
  target : Target
  report : Report := {}
  /-- The listing of the last source. -/
  current : Option Listing := none

/-- What a step of a session leaves. -/
structure Step where
  session : Session
  events : List Event
  /-- Why the step ended early, if it did. -/
  fault : Option Fault

namespace Session

/-- A session for a target, which has to be valid, with or without an echo of its diagnostics. -/
def make (target : Target) (echo : Bool) : Except Fault Session :=
  (Target.check target).map fun checked =>
    { target := checked, report := { echo := if echo then some "" else none } }

/-- Scan and annotate a source. -/
def assemble (session : Session) (source : String) (file : String) : Step :=
  let scanned := Listing.scan source file
  let scanEvents := Listing.scanEvents source file
  match Annotator.make session.target session.report.clear with
  | .error fault =>
      { session :=
          { session with report := session.report.clear, current := some scanned }
        events := scanEvents
        fault := some fault }
  | .ok annotator =>
      let run := annotator.run scanned
      let report := run.annotator.report
      let summary :=
        if run.fault.isNone then [.assembled file run.listing.tokens.length report.count] else []
      { session := { session with report := report, current := some run.listing }
        events := scanEvents ++ run.events ++ summary
        fault := run.fault }

/-- Read, scan and annotate a file.  A file that cannot be read leaves the session as it is. -/
def assembleFile (session : Session) (disk : Disk) (path : String) : Step :=
  let file := FilePath.normal path
  match disk.read file with
  | .error fault => { session := session, events := [.reading file], fault := some fault }
  | .ok source =>
      let step := session.assemble (String.ofList source) file
      { step with events := .reading file :: step.events }

/-- Change the register bound for the sources to come. -/
def setBound (session : Session) (bound : Int) : Session :=
  { session with target := { session.target with registerBound := bound } }

/-- The last listing as text; empty before the first source. -/
def dump? (session : Session) : Except DigitLimit String :=
  match session.current with
  | none => .ok ""
  | some listing => listing.dump?

end Session
end RegisterAssembly
