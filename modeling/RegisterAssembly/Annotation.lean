import RegisterAssembly.Diagnostic.Layout
import RegisterAssembly.Listing
import RegisterAssembly.Report
import RegisterAssembly.Target

/-!
# Annotation

Annotating a listing gives its tokens their payloads.  All payloads are first taken back.  Then
every label declaration gets the number of line breaks before it.  A last pass, from left to
right, gives the other tokens theirs: the opcode of a mnemonic, the value of an immediate, the
index of a register.  What it cannot make sense of goes into a report and stays unresolved, and
the pass goes on; only an invalid token ends it.  The use of a declared label is left unresolved
without a report.

What is found about a token depends on nothing but the token, the target and the declared labels.  A
full report does not end the pass: later diagnostics are dropped, except a fatal one.  Only if the
report cannot even say that it is full, since its limit is too long to be written, is that a fault.
-/

namespace RegisterAssembly

/-- The hint on an immediate that does not fit in a word. -/
def wordHint : String :=
  "immediates must fit in 32 bits (at most " ++ Decimal.text wordMax ++ ")"

/-- The hint on an immediate that is no literal. -/
def spellingHint : String :=
  "use decimal, 0x hexadecimal or 0 octal digits only"

/-- What there is to say about one token. -/
inductive Finding where
  /-- The token is left as it is. -/
  | nothing
  /-- The token has a payload. -/
  | payload (value : Nat)
  | problem (problem : Problem)
  /-- A number is too long to be read or written. -/
  | tooLong (limit : DigitLimit)
  deriving DecidableEq, Repr

namespace Finding

/-- What there is to say about a word: a mnemonic, the use of a label, or neither. -/
def ofWord (instructions : InstructionSet) (labels : List Label) (word : String) : Finding :=
  match instructions.opcode? word with
  | some opcode => .payload opcode.toNat
  | none =>
      if labels.any (·.name = word) then .nothing
      else .problem (.unknownMnemonic word (instructions.suggestions word))

/-- What there is to say about an immediate. -/
def ofImmediate (lexeme : String) : Finding :=
  match Literal.evaluate lexeme.toList with
  | .error limit => .tooLong limit
  | .ok none => .problem (.malformedNumber lexeme "immediate" (some spellingHint))
  | .ok (some value) =>
      if value ≤ wordMax then .payload value
      else .problem (.malformedNumber lexeme "immediate" (some wordHint))

/-- What there is to say about a register lexeme that names no register. -/
def ofNoRegister (bound : Int) (lexeme : String) : Finding :=
  match Decimal.text? bound with
  | .error limit => .tooLong limit
  | .ok text =>
      .problem (.malformedNumber lexeme "register"
        (some ("register indices range from 0 to " ++ text)))

/-- What there is to say about a register: its index is what follows the first character. -/
def ofRegister (bound : Int) (lexeme : String) : Finding :=
  match Literal.evaluate (lexeme.toList.drop 1) with
  | .error limit => .tooLong limit
  | .ok none => ofNoRegister bound lexeme
  | .ok (some index) => if index ≤ bound then .payload index else ofNoRegister bound lexeme

/-- What there is to say about a token, once the label declarations have been seen to. -/
def ofToken (target : Target) (labels : List Label) (token : Token) : Finding :=
  match token.kind with
  | .instruction => ofWord target.instructions labels token.text
  | .immediate => ofImmediate token.text
  | .register => ofRegister target.registerBound token.text
  | .invalid => .problem (.unknownToken token.text)
  | _ => .nothing

end Finding

/-- What the last pass does at one token. -/
inductive Verdict where
  /-- Leave the token as it is. -/
  | keep
  /-- Give the token a payload. -/
  | assign (value : Nat)
  /-- Report the token and leave it unresolved. -/
  | complain (diagnostic : Diagnostic)
  /-- Report the token and end the pass. -/
  | abort (diagnostic : Diagnostic)
  /-- End the pass without a report; `quoted` tells whether the source line was looked up before. -/
  | fail (fault : Fault) (quoted : Bool)
  deriving DecidableEq, Repr

namespace Verdict

/-- The verdict on a token of a listing; a diagnostic quotes the line of the token. -/
def ofFinding (listing : Listing) (token : Token) : Finding → Verdict
  | .nothing => .keep
  | .payload value => .assign value
  | .tooLong limit => .fail (.digits limit) false
  | .problem problem =>
      match Diagnostic.located? problem (some token.place) (listing.line? token.line) with
      | .error fault => .fail fault true
      | .ok diagnostic => if problem.fatal then .abort diagnostic else .complain diagnostic

/-- Whether the pass goes on after the token. -/
def proceeds : Verdict → Bool
  | abort _ => false
  | fail _ _ => false
  | _ => true

/-- The token after the verdict. -/
def settle (token : Token) : Verdict → Token
  | assign value => token.resolve value
  | _ => token

end Verdict

/-- Give every label declaration the number of line breaks before it, of which `line` have been
seen. -/
def assignLines (line : Nat) : List Token → List Token
  | [] => []
  | token :: tokens =>
      match token.kind with
      | .newline => token :: assignLines (line + 1) tokens
      | .labelDeclaration => token.resolve line :: assignLines line tokens
      | _ => token :: assignLines line tokens

/-- The labels that tokens declare, by the declaration without its colon. -/
def labelsFrom (line : Nat) : List Token → List Label
  | [] => []
  | token :: tokens =>
      match token.kind with
      | .newline => labelsFrom (line + 1) tokens
      | .labelDeclaration =>
          ⟨String.ofList token.text.toList.dropLast, line⟩ :: labelsFrom line tokens
      | _ => labelsFrom line tokens

namespace Listing

/-- The labels that a listing declares. -/
def labels (listing : Listing) : List Label :=
  labelsFrom 0 listing.tokens

/-- Give the label declarations of a listing their lines. -/
def assignLabels (listing : Listing) : Listing :=
  { listing with tokens := assignLines 0 listing.tokens }

end Listing

/-- A report that is being filled in a pass, and what has come of it. -/
structure Recorder where
  report : Report
  /-- Whether the report was found full in this run. -/
  capped : Bool := false
  events : Array Event := #[]
  /-- Whether a source line has been looked up. -/
  quoted : Bool := false
  /-- Why the pass ends without a report, if it does. -/
  fault : Option Fault := none
  deriving DecidableEq, Repr

namespace Recorder

/-- Add a diagnostic to the report. -/
def add (recorder : Recorder) (diagnostic : Diagnostic) : Recorder :=
  { recorder with
    report := recorder.report.add diagnostic
    events := recorder.events.push (.ofDiagnostic diagnostic)
    quoted := true }

/-- Heed what an addition to the report has raised: that the report is full is noted once, anything
else is a fault. -/
def heed (recorder : Recorder) : Option Fault → Recorder
  | none => recorder
  | some (.diagnostic _) =>
      if recorder.capped then recorder
      else
        { recorder with
          capped := true
          events := recorder.events.push (.limited recorder.report.limit) }
  | some fault => { recorder with fault := some fault }

/-- Add a diagnostic, unless the report was found full before; a fatal one is always added.  After a
fault nothing is added. -/
def record (recorder : Recorder) (diagnostic : Diagnostic) : Recorder :=
  if recorder.fault.isSome || recorder.capped && !diagnostic.fatal then recorder
  else (recorder.add diagnostic).heed (recorder.report.add diagnostic).overflow?

@[simp]
theorem report_heed (recorder : Recorder) (raised : Option Fault) :
    (recorder.heed raised).report = recorder.report := by
  cases raised with
  | none => rfl
  | some fault =>
      cases fault with
      | diagnostic =>
          simp only [heed]
          split <;> rfl
      | _ => rfl

/-- Report what a verdict on a token says. -/
def follow (file : String) (recorder : Recorder) (token : Token) : Verdict → Recorder
  | .complain diagnostic => recorder.record diagnostic
  | .abort diagnostic =>
      let ended := recorder.record diagnostic
      if ended.fault.isSome then ended
      else { ended with events := ended.events.push (.aborted file token) }
  | .fail fault quoted =>
      { recorder with quoted := recorder.quoted || quoted, fault := some fault }
  | _ => recorder

/-- The last pass: follow the verdicts on the tokens and settle them, up to the verdict or the fault
that ends the pass. -/
def pass (file : String) (recorder : Recorder) : List (Token × Verdict) → Recorder × List Token
  | [] => (recorder, [])
  | (token, verdict) :: judged =>
      let next := recorder.follow file token verdict
      if verdict.proceeds && next.fault.isNone then
        let rest := pass file next judged
        (rest.1, verdict.settle token :: rest.2)
      else
        (next, token :: judged.map Prod.fst)

end Recorder

/-- An annotator has a target and a report that all its runs add to. -/
structure Annotator where
  target : Target
  report : Report := {}
  /-- The labels of the listing that is being annotated; none between runs. -/
  labels : List Label := []

/-- What a run of an annotator leaves. -/
structure Run where
  annotator : Annotator
  listing : Listing
  events : List Event
  /-- Why the run ended early without a report, if it did. -/
  fault : Option Fault

namespace Annotator

/-- An annotator for a target, which has to be valid. -/
def make (target : Target) (report : Report) : Except Fault Annotator :=
  (Target.check target).map fun checked => { target := checked, report := report }

/-- The tokens of a listing, each with the verdict on it. -/
def verdicts (annotator : Annotator) (listing : Listing) : List (Token × Verdict) :=
  let opened := listing.openLines
  listing.tokens.map fun token =>
    (token, .ofFinding opened token (.ofToken annotator.target annotator.labels token))

/-- Annotate a listing. -/
def run (annotator : Annotator) (listing : Listing) : Run :=
  let blank := { listing with tokens := listing.tokens.map Token.reset }
  let lined := blank.assignLabels
  let labelled := { annotator with labels := blank.labels }
  let start : Recorder :=
    { report := annotator.report, events := #[.labelled listing.file labelled.labels] }
  let passed := start.pass listing.file (labelled.verdicts lined)
  let opened := if passed.1.quoted then lined.openLines else lined
  { annotator := { labelled with report := passed.1.report, labels := [] }
    listing := { opened with tokens := passed.2 }
    events := passed.1.events.toList
    fault := passed.1.fault }

end Annotator
end RegisterAssembly
