import RegisterAssembly.Proofs.Position
import RegisterAssembly.Proofs.Recording
import RegisterAssembly.Session

/-!
# Collecting the problems of a source

Whatever a session has done before, it collects the problems of a source instead of failing: a
number that denotes nothing is left unresolved and gets one diagnostic, as long as the report has
room.  The one exception is a number with too many decimal digits.  Its digits are refused before
its value is looked at, and that ends the whole step with a fault.
-/

namespace RegisterAssembly

/-- A word is not too long to be written. -/
theorem Decimal.writable_of_le_wordMax {n : Int} (nonnegative : 0 ≤ n) (bounded : n ≤ wordMax) :
    Writable n := by
  have large {count : Nat} (many : 10 ≤ count) : wordMax < Nat.pow 10 count :=
    Nat.lt_of_lt_of_le (by decide) (Nat.pow_le_pow_right (by decide) many)
  have small : wordMax < writingLimit := by
    unfold writingLimit
    exact large (by decide)
  rw [Writable]
  omega

theorem Target.writable_of_valid {target : Target} (valid : target.Valid) :
    Decimal.Writable target.registerBound :=
  Decimal.writable_of_le_wordMax valid.1 valid.2

namespace Listing

variable {source file : String} {token : Token}

theorem hasRoom_of_mem_scan (member : token ∈ (scan source file).tokens) :
    (scan source file).HasRoom token :=
  layoutFault?_of_mem_scan member

/-- No two tokens of a source are at the same place. -/
theorem pairwise_place_ne_scan (source file : String) :
    (scan source file).tokens.Pairwise fun earlier later => earlier.place ≠ later.place := by
  apply (pairwise_precedes_scan source file).imp
  intro earlier later precedes same
  have line : earlier.line = later.line := congrArg Place.line same
  have column : earlier.column = later.column := congrArg Place.column same
  rw [Token.Precedes] at precedes
  omega

end Listing

/-- A source that is a number has that number as its first token. -/
theorem exists_token_of_number (file : String) {first : Char} {body : List Char}
    (digit : first.isDigit) (continues : ∀ c ∈ body, ContinuesWord c) :
    ∃ token tokens, (Listing.scan (String.ofList (first :: body)) file).tokens = token :: tokens ∧
      token.kind = .immediate ∧ token.text = String.ofList (first :: body) := by
  have noNul : ∀ c ∈ first :: body, decide (c ≠ '\x00') = true := by
    rw [List.forall_mem_cons]
    constructor
    · rw [decide_eq_true_iff]
      rintro rfl
      cases digit
    · intro c member
      rw [decide_eq_true_iff]
      rintro rfl
      rcases continues _ member with alphanum | underscore
      · cases alphanum
      · cases underscore
  have kept : untilNul (String.ofList (first :: body)) = first :: body := by
    rw [untilNul, String.toList_ofList]
    exact List.takeWhile_eq_self_iff.mpr noNul
  have visible := Lexeme.not_isBlank_of_isAlphanum (c := first) (by simp [Char.isAlphanum, digit])
  have start : (first :: body).dropWhile Lexeme.isBlank = first :: body := by
    simp [visible]
  have taken : Lexeme.take first body = (.immediate, first :: body, []) := by
    have whole := @Lexeme.take_of_number first body [] digit
      (fun c member => (Lexeme.isWordChar_iff c).mpr (continues c member)) (by simp)
    rwa [List.append_nil] at whole
  rw [Listing.scan, kept, Lexeme.split_of_start start, taken]
  exact ⟨_, _, rfl, rfl, rfl⟩

theorem exists_token_of_overlong (file : String) {digits : List Char}
    (long : Literal.Overlong digits) :
    ∃ token tokens, (Listing.scan (String.ofList digits) file).tokens = token :: tokens ∧
      token.kind = .immediate ∧ token.text = String.ofList digits := by
  obtain ⟨_, all, many⟩ := long
  cases digits with
  | nil => simp at many
  | cons first body =>
      rw [List.all_cons, Bool.and_eq_true] at all
      apply exists_token_of_number file all.1
      intro c member
      left
      simp [Char.isAlphanum, List.all_eq_true.mp all.2 c member]

/-! ## Sessions -/

namespace Session

/-- The session after one more step of a session, which may have failed. -/
inductive Leads : Session → Session → Prop
  | assemble (session : Session) (source file : String) :
      Leads session (session.assemble source file).session
  | assembleFile (session : Session) (disk : Disk) (path : String) :
      Leads session (session.assembleFile disk path).session
  | setBound (session : Session) (bound : Int) : Leads session (session.setBound bound)

/-- The sessions that come about. -/
inductive Reachable : Session → Prop
  | make {target : Target} {echo : Bool} {session : Session}
      (made : Session.make target echo = .ok session) : Reachable session
  | step {before after : Session} (reached : Reachable before) (leads : Leads before after) :
      Reachable after

/-- The annotator for the next source of a session. -/
def annotator (session : Session) : Annotator :=
  { target := session.target, report := session.report.clear }

theorem make_annotator {session : Session} (valid : session.target.Valid) :
    Annotator.make session.target session.report.clear = .ok session.annotator := by
  simp only [Annotator.make, Target.check, if_pos valid, Except.map, annotator]

variable {session : Session} (source file : String)

/-- A step of a session with a valid target is a run of its annotator. -/
theorem assemble_of_valid (valid : session.target.Valid) :
    let run := session.annotator.run (Listing.scan source file)
    (session.assemble source file).fault = run.fault ∧
      (session.assemble source file).session.current = some run.listing ∧
      (session.assemble source file).session.report = run.annotator.report := by
  simp only [assemble, make_annotator valid, and_self]

/-- A step of a session whose target is not valid refuses the target after scanning the source. -/
theorem assemble_of_not_valid (invalid : ¬ session.target.Valid) :
    (session.assemble source file).fault =
        some (.ofSetting (.boundRange session.target.registerBound)) ∧
      (session.assemble source file).session.current = some (Listing.scan source file) ∧
      (session.assemble source file).session.report = session.report.clear := by
  simp only [assemble, Annotator.make, Target.check, if_neg invalid, Except.map, and_self]

theorem valid_of_returned (returned : (session.assemble source file).fault = none) :
    session.target.Valid := by
  by_contra invalid
  rw [(assemble_of_not_valid source file invalid).1] at returned
  cases returned

theorem limit_assemble (session : Session) :
    (session.assemble source file).session.report.limit = session.report.limit := by
  by_cases valid : session.target.Valid
  · rw [(assemble_of_valid source file valid).2.2, Annotator.run_report, Report.limit_addAll]
    rfl
  · simp only [assemble, Annotator.make, Target.check, if_neg valid, Except.map]
    rfl

theorem limit_of_leads {before after : Session} (leads : Leads before after) :
    after.report.limit = before.report.limit := by
  cases leads with
  | assemble source file => exact limit_assemble source file before
  | assembleFile disk path =>
      rw [assembleFile]
      simp only
      split
      · rfl
      · exact limit_assemble _ _ before
  | setBound bound => rfl

/-- The report of a session is full once it holds a hundred diagnostics. -/
theorem limit_of_reachable {session : Session} (reachable : session.Reachable) :
    session.report.limit = 100 := by
  induction reachable with
  | @make target echo session made =>
      by_cases valid : target.Valid
      · simp only [Session.make, Target.check, if_pos valid, Except.map] at made
        cases made
        rfl
      · simp only [Session.make, Target.check, if_neg valid, Except.map] at made
        cases made
  | step _ leads ih => exact (limit_of_leads leads).trans ih

theorem writable_limit {session : Session} (reachable : session.Reachable) :
    Decimal.Writable session.report.limit := by
  rw [limit_of_reachable reachable]
  exact Decimal.writable_of_le_wordMax (by decide) (by decide)

theorem room_annotator {session : Session} (reachable : session.Reachable) :
    session.annotator.report.room = 100 := by
  have limit : session.annotator.report.limit = 100 := limit_of_reachable reachable
  have count : session.annotator.report.count = 0 := rfl
  simp [Report.room, limit, count]

/-! ## Steps on a source -/

section Valid

variable {source file} (valid : session.target.Valid)

include valid

theorem fault_assemble_iff (limited : Decimal.Writable session.report.limit) :
    (session.assemble source file).fault = none ↔
      ∀ index token, Annotator.Reached (Listing.scan source file).tokens index token →
        ¬ token.ExceedsDigits session.target (Listing.scan source file).tokens := by
  have bound : Decimal.Writable session.annotator.target.registerBound :=
    Target.writable_of_valid valid
  rw [(assemble_of_valid source file valid).1,
    Annotator.run_fault_eq_none_iff bound fun token => Listing.hasRoom_of_mem_scan]
  exact and_iff_left (.inl limited)

theorem digits_of_fault_assemble {fault : Fault}
    (failed : (session.assemble source file).fault = some fault) :
    ∃ limit, fault = .digits limit := by
  have bound : Decimal.Writable session.annotator.target.registerBound :=
    Target.writable_of_valid valid
  rw [(assemble_of_valid source file valid).1] at failed
  exact Annotator.digits_of_run_fault bound (fun token => Listing.hasRoom_of_mem_scan) failed

theorem diagnostics_assemble :
    (session.assemble source file).session.report.diagnostics.toList =
      session.annotator.recorded (Listing.scan source file) := by
  rw [(assemble_of_valid source file valid).2.2, Annotator.run_report, Report.toList_addAll]
  rfl

theorem malformed_of_overlong {token : Token} (long : token.Overlong) :
    token.Malformed session.target := by
  have bounded := valid.2
  rcases long with ⟨immediate, long⟩ | ⟨register, long⟩
  · refine ⟨.inl immediate, ?_⟩
    rintro ⟨value, denoted⟩
    obtain ⟨spelled, small⟩ := (Token.denotes_immediate_iff immediate).mp denoted
    have large := Literal.wordMax_lt_of_overlong long spelled
    omega
  · refine ⟨.inr register, ?_⟩
    rintro ⟨value, denoted⟩
    obtain ⟨spelled, small⟩ := (Token.denotes_register_iff register).mp denoted
    have large := Literal.wordMax_lt_of_overlong long spelled
    omega

/-- A source that is an overlong number is not collected but ends the step. -/
theorem fault_assemble_of_overlong (reachable : session.Reachable) (file : String)
    {digits : List Char} (long : Literal.Overlong digits) :
    (session.assemble (String.ofList digits) file).fault =
      some (.digits (.reading digits.length)) := by
  obtain ⟨token, tokens, scanned, immediate, text⟩ := exists_token_of_overlong file long
  have found : (Listing.scan (String.ofList digits) file).tokens[0]? = some token := by
    rw [scanned]
    rfl
  have verdict : session.annotator.verdict (Listing.scan (String.ofList digits) file) token =
      .fail (.digits (.reading digits.length)) false := by
    simp only [Annotator.verdict, Verdict.judge, Finding.ofToken, immediate, text,
      Finding.ofImmediate, String.toList_ofList, Literal.evaluate_of_overlong long,
      Verdict.ofFinding]
  have stopped : (session.annotator.verdict (Listing.scan (String.ofList digits) file)
      token).proceeds = false := by
    rw [verdict]
    rfl
  have stop := Annotator.stop?_eq_some found (by simp) stopped
  rw [(assemble_of_valid _ file valid).1,
    Annotator.run_fault_eq_of_writable (writable_limit reachable), Annotator.failure?, stop,
    Option.bind_some, verdict]
  rfl

variable {index : Nat} {token : Token}

theorem current_of_malformed (found : (Listing.scan source file).tokens[index]? = some token)
    (malformed : token.Malformed session.target) :
    ((session.assemble source file).session.current.bind fun listing => listing.tokens[index]?) =
      some token.reset := by
  rw [(assemble_of_valid source file valid).2.1, Option.bind_some]
  apply Annotator.getElem?_run_of_blank found
  · rcases malformed with ⟨immediate | register, _⟩ <;> simp [*]
  · exact fun _ => malformed.2

theorem filter_place_diagnostics (reachable : session.Reachable)
    (found : (Listing.scan source file).tokens[index]? = some token)
    (rejected : token.Rejected session.target (Listing.scan source file).tokens)
    (within : ∀ reached ∈ (Listing.scan source file).tokens.take (index + 1),
      reached.kind ≠ .invalid ∧
        ¬ reached.ExceedsDigits session.target (Listing.scan source file).tokens) :
    ∃ problem, token.Objection session.target problem ∧
      (session.assemble source file).session.report.diagnostics.toList.filter
          (·.place = some token.place) =
        if ((Listing.scan source file).tokens.take index).countP
            (·.Rejected session.target (Listing.scan source file).tokens) < 100 then
          [⟨problem, some token.place, (Listing.scan source file).line? token.line⟩]
        else [] := by
  have bound : Decimal.Writable session.annotator.target.registerBound :=
    Target.writable_of_valid valid
  have recorded := Annotator.filter_place_recorded_of_rejected (writable_limit reachable) bound
    (fun token => Listing.hasRoom_of_mem_scan) (Listing.pairwise_place_ne_scan source file)
    found rejected within
  rwa [← diagnostics_assemble valid, room_annotator reachable] at recorded

end Valid

/-- A session with a valid target collects the problems of a source: it has a fault just if it
reaches a token that takes too many digits, and every number before that which denotes nothing is
left unresolved and gets one diagnostic, unless a hundred tokens before it have got theirs. -/
theorem assemble_collects {session : Session} (reachable : session.Reachable)
    (valid : session.target.Valid) (source file : String) :
    let tokens := (Listing.scan source file).tokens
    let step := session.assemble source file
    (step.fault = none ↔ ∀ index token, Annotator.Reached tokens index token →
      ¬ token.ExceedsDigits session.target tokens) ∧
    (∀ fault, step.fault = some fault → ∃ limit, fault = .digits limit) ∧
    (∀ token : Token, token.Overlong → token.Malformed session.target) ∧
    ∀ index token, tokens[index]? = some token → token.Malformed session.target →
      (∀ reached ∈ tokens.take (index + 1),
        reached.kind ≠ .invalid ∧ ¬ reached.ExceedsDigits session.target tokens) →
      (step.session.current.bind fun listing => listing.tokens[index]?) = some token.reset ∧
      ∃ problem, token.Objection session.target problem ∧
        step.session.report.diagnostics.toList.filter (·.place = some token.place) =
          if (tokens.take index).countP (·.Rejected session.target tokens) < 100 then
            [⟨problem, some token.place, (Listing.scan source file).line? token.line⟩]
          else [] := by
  refine ⟨fault_assemble_iff valid (writable_limit reachable),
    fun fault => digits_of_fault_assemble valid, fun token => malformed_of_overlong valid, ?_⟩
  intro index token found malformed within
  exact ⟨current_of_malformed valid found malformed,
    filter_place_diagnostics valid reachable found (.inl malformed) within⟩

/-- A session for the standard machine before its first source. -/
def sample : Session :=
  { target := {} }

theorem reachable_sample : sample.Reachable :=
  .make (show Session.make {} false = .ok sample by
    simp only [Session.make, Target.check, if_pos (show Target.Valid {} by decide), Except.map]
    rfl)

/-- The register of a source that holds a register beyond the bound. -/
def sampleRegister : Token :=
  { kind := .register, text := "r99", offset := 4, column := 5 }

theorem assemble_collects_sample :
    sample.Reachable ∧ sample.target.Valid ∧
      (Listing.scan "mov r99" unnamedFile).tokens[1]? = some sampleRegister ∧
      ((sample.assemble "mov r99" unnamedFile).session.current.bind
        fun listing => listing.tokens[1]?) = some sampleRegister ∧
      ∃ problem, sampleRegister.Objection {} problem ∧
        (sample.assemble "mov r99" unnamedFile).session.report.diagnostics.toList.filter
          (·.place = some ⟨unnamedFile, 1, 5⟩) =
            [⟨problem, some ⟨unnamedFile, 1, 5⟩, some "mov r99"⟩] := by
  have valid : sample.target.Valid := by decide
  have found : (Listing.scan "mov r99" unnamedFile).tokens[1]? = some sampleRegister := by
    decide +kernel
  have malformed : sampleRegister.Malformed sample.target := ⟨.inr rfl, by decide +kernel⟩
  obtain ⟨unresolved, problem, objection, recorded⟩ :=
    (assemble_collects reachable_sample valid "mov r99" unnamedFile).2.2.2 1 sampleRegister found
      malformed (by decide +kernel)
  refine ⟨reachable_sample, valid, found, unresolved, problem, objection, recorded.trans ?_⟩
  have first : ((Listing.scan "mov r99" unnamedFile).tokens.take 1).countP
      (·.Rejected sample.target (Listing.scan "mov r99" unnamedFile).tokens) = 0 := by
    decide +kernel
  have line : (Listing.scan "mov r99" unnamedFile).line? 1 = some "mov r99" := by decide +kernel
  rw [first, if_pos (by decide)]
  exact congrArg (fun quoted => [Diagnostic.mk problem _ quoted]) line

/-- Not every source is collected: there is a number with too many digits. -/
theorem exists_fault_assemble :
    ∃ digits : List Char, digits = List.replicate 4301 '1' ∧ sample.Reachable ∧
      sample.target.Valid ∧
      (sample.assemble (String.ofList digits) unnamedFile).fault =
        some (.digits (.reading 4301)) := by
  have valid : sample.target.Valid := by decide
  have overlong {count : Nat} (many : Decimal.maxDigits < count) :
      Literal.Overlong (List.replicate count '1') := by
    refine ⟨?_, ?_, ?_⟩
    · rw [List.head?_replicate]
      split <;> decide
    · rw [List.all_replicate]
      split <;> rfl
    · rwa [List.length_replicate]
  refine ⟨_, rfl, reachable_sample, valid, ?_⟩
  rw [fault_assemble_of_overlong valid reachable_sample unnamedFile (overlong (by decide)),
    List.length_replicate]

end Session
end RegisterAssembly
