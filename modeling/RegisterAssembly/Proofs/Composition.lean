import RegisterAssembly.Proofs.Joining
import RegisterAssembly.Proofs.Reporting

/-!
# Annotating joined texts

A text of two parts can be annotated part by part.  What a token gets depends on the tokens before
it through their number of line breaks and through whether one of them is invalid, and on all tokens
through the labels that they declare.  So the second part counts its lines on from the first, loses
its payloads and diagnostics but not its labels to an invalid token in the first, and each part is
no longer rebuked for words that are labels of the other.
-/

namespace RegisterAssembly

/-- Whether no token is invalid. -/
def sound (tokens : List Token) : Bool :=
  tokens.all (·.kind ≠ .invalid)

theorem sound_cons (token : Token) (tokens : List Token) :
    sound (token :: tokens) = (decide (token.kind ≠ .invalid) && sound tokens) := rfl

theorem sound_eq_true_iff (tokens : List Token) :
    sound tokens = true ↔ ∀ token ∈ tokens, token.kind ≠ .invalid := by
  simp [sound]

theorem sound_append_singleton {token : Token} (valid : token.kind ≠ .invalid)
    (tokens : List Token) : sound (tokens ++ [token]) = sound tokens := by
  simp [sound, valid]

theorem breaks_append (front back : List Token) :
    breaks (front ++ back) = breaks front + breaks back :=
  List.countP_append

theorem breaks_cons_eq_add (token : Token) (tokens : List Token) :
    breaks (token :: tokens) = breaks [token] + breaks tokens :=
  breaks_append [token] tokens

/-! ## From left to right -/

namespace Token

/-- The token with its payload: a label declaration gets the number of line breaks before it, and
any other token the number that it denotes, if the last pass reaches it. -/
def annotated (target : Target) (line : Nat) (reached : Bool) (token : Token) : Token :=
  if token.kind = .labelDeclaration then token.resolve line
  else
    match token.denoted? target with
    | some value => if reached then token.resolve value else token.reset
    | none => token.reset

/-- A token of an annotated text, after `chars` characters and `lines` lines of another text.  If
that has an invalid token, only label declarations are annotated. -/
def continued (chars lines : Nat) (reached : Bool) (token : Token) : Token :=
  if token.kind = .labelDeclaration then
    { token.moved chars lines with payload := token.payload + lines }
  else if reached then token.moved chars lines
  else (token.moved chars lines).reset

@[simp]
theorem kind_annotated (target : Target) (line : Nat) (reached : Bool) (token : Token) :
    (token.annotated target line reached).kind = token.kind := by
  rw [annotated]
  split
  · rfl
  · split
    · split <;> rfl
    · rfl

theorem denoted?_moved (target : Target) (chars lines : Nat) (token : Token) :
    (token.moved chars lines).denoted? target = token.denoted? target := rfl

/-- Annotation goes on in a second text as it does in that text alone. -/
theorem annotated_moved (target : Target) (chars lines line : Nat) (reached spared : Bool)
    (token : Token) :
    (token.moved chars lines).annotated target (lines + line) (reached && spared) =
      (token.annotated target line spared).continued chars lines reached := by
  rw [continued, kind_annotated, annotated, annotated, kind_moved, denoted?_moved]
  by_cases declaration : token.kind = .labelDeclaration
  · simp [declaration, resolve, moved, Int.add_comm]
  · simp only [if_neg declaration]
    cases token.denoted? target <;> cases reached <;> cases spared <;> rfl

end Token

/-- The annotation of tokens after `line` line breaks and, unless they are reached, an invalid
token. -/
def annotateFrom (target : Target) (line : Nat) (reached : Bool) : List Token → List Token
  | [] => []
  | token :: tokens =>
      token.annotated target line reached ::
        annotateFrom target (line + breaks [token]) (reached && token.kind ≠ .invalid) tokens

theorem getElem?_annotateFrom (target : Target) (line : Nat) (reached : Bool) (tokens : List Token)
    (index : Nat) :
    (annotateFrom target line reached tokens)[index]? =
      tokens[index]?.map (Token.annotated target (line + breaks (tokens.take index))
        (reached && sound (tokens.take index))) := by
  induction tokens generalizing line reached index with
  | nil => simp [annotateFrom]
  | cons token tokens ih =>
      rw [annotateFrom]
      cases index with
      | zero => simp [breaks, sound]
      | succ index =>
          rw [List.getElem?_cons_succ, List.getElem?_cons_succ, ih, List.take_succ_cons,
            breaks_cons_eq_add token (tokens.take index), sound_cons, Nat.add_assoc, Bool.and_assoc]

theorem annotateFrom_append (target : Target) (line : Nat) (reached : Bool)
    (front back : List Token) :
    annotateFrom target line reached (front ++ back) =
      annotateFrom target line reached front ++
        annotateFrom target (line + breaks front) (reached && sound front) back := by
  induction front generalizing line reached with
  | nil => simp [annotateFrom, breaks, sound]
  | cons token front ih =>
      rw [List.cons_append, annotateFrom, annotateFrom, ih, List.cons_append, sound_cons,
        breaks_cons_eq_add token front, Nat.add_assoc, Bool.and_assoc]

theorem annotateFrom_moved (target : Target) (chars lines line : Nat) (reached spared : Bool)
    (tokens : List Token) :
    annotateFrom target (lines + line) (reached && spared)
        (tokens.map (Token.moved chars lines)) =
      (annotateFrom target line spared tokens).map (Token.continued chars lines reached) := by
  induction tokens generalizing line spared with
  | nil => rfl
  | cons token tokens ih =>
      have counted : breaks [token.moved chars lines] = breaks [token] := rfl
      rw [List.map_cons, annotateFrom, annotateFrom, List.map_cons, Token.annotated_moved, counted,
        Nat.add_assoc, Bool.and_assoc, Token.kind_moved, ih]

namespace Annotator

variable {annotator : Annotator} {listing : Listing}

theorem getElem?_run_eq_annotated {index : Nat} {token : Token}
    (returned : (annotator.run listing).fault = none)
    (found : listing.tokens[index]? = some token) :
    (annotator.run listing).listing.tokens[index]? =
      some (token.annotated annotator.target (breaks (listing.tokens.take index))
        (sound (listing.tokens.take index))) := by
  rw [Token.annotated]
  by_cases declaration : token.kind = .labelDeclaration
  · rw [if_pos declaration]
    exact getElem?_run_of_annotates returned found (.line found declaration)
  rw [if_neg declaration]
  -- A token has no payload for either of two reasons: it denotes nothing, or is not reached.
  have blank (unreached : ¬ (sound (listing.tokens.take index) ∧
      ∃ value, token.Denotes annotator.target value)) :
      (annotator.run listing).listing.tokens[index]? = some token.reset := by
    apply getElem?_run_of_not_annotates found
    rintro ⟨value, annotated⟩
    cases annotated with
    | line found' declaration' =>
        cases found.symm.trans found'
        exact declaration declaration'
    | number found' reached denoted =>
        cases found.symm.trans found'
        exact unreached ⟨(sound_eq_true_iff _).mpr reached, value, denoted⟩
  cases denoted : token.denoted? annotator.target with
  | none =>
      apply blank
      rintro ⟨_, value, denotes⟩
      rw [(Token.denoted?_eq_some_iff _ _ _).mpr denotes] at denoted
      cases denoted
  | some value =>
      have denotes := (Token.denoted?_eq_some_iff _ _ _).mp denoted
      by_cases reached : sound (listing.tokens.take index)
      · simp only [if_pos reached]
        exact getElem?_run_of_annotates returned found
          (.number found ((sound_eq_true_iff _).mp reached) denotes)
      · simp only [if_neg reached]
        exact blank fun both => reached both.1

/-- A run that ends without a fault annotates its tokens from left to right. -/
theorem run_tokens_eq_annotateFrom (returned : (annotator.run listing).fault = none) :
    (annotator.run listing).listing.tokens =
      annotateFrom annotator.target 0 true listing.tokens := by
  apply List.ext_getElem?
  intro index
  rw [getElem?_annotateFrom, Nat.zero_add, Bool.true_and]
  cases found : listing.tokens[index]? with
  | none =>
      rw [Option.map_none, List.getElem?_eq_none_iff, length_run]
      exact List.getElem?_eq_none_iff.mp found
  | some token => exact getElem?_run_eq_annotated returned found

end Annotator

namespace Finding

/-- The problem with a token, if one was found. -/
def problem? : Finding → Option Problem
  | .problem found => some found
  | _ => none

end Finding

/-- The diagnostic about a token of a listing, if it gives rise to one. -/
def Listing.diagnose? (target : Target) (listing : Listing) (token : Token) : Option Diagnostic :=
  (Finding.ofToken target listing.labels token).problem?.map fun problem =>
    ⟨problem, some token.place, listing.line? token.line⟩

/-- The diagnostics about tokens up to the first invalid one. -/
def raised (diagnose? : Token → Option Diagnostic) : List Token → List Diagnostic
  | [] => []
  | token :: tokens =>
      (diagnose? token).toList ++ if token.kind = .invalid then [] else raised diagnose? tokens

theorem raised_append (diagnose? : Token → Option Diagnostic) (front back : List Token) :
    raised diagnose? (front ++ back) =
      raised diagnose? front ++ if sound front then raised diagnose? back else [] := by
  induction front with
  | nil => simp [raised, sound]
  | cons token front ih =>
      rw [List.cons_append, raised, raised, ih, List.append_assoc, sound_cons]
      by_cases invalid : token.kind = .invalid <;> simp [invalid]

theorem raised_eq (diagnose? : Token → Option Diagnostic) (tokens : List Token) :
    raised diagnose? tokens =
      (tokens.takeWhile (·.kind ≠ .invalid)).filterMap diagnose? ++
        ((tokens.find? (·.kind = .invalid)).bind diagnose?).toList := by
  induction tokens with
  | nil => rfl
  | cons token tokens ih =>
      rw [raised, ih]
      by_cases invalid : token.kind = .invalid
      · simp [invalid]
      · cases found : diagnose? token <;> simp [invalid, found]

/-- Diagnostics of tokens that were moved, some of which are no longer given. -/
theorem raised_map_moved {diagnose? diagnoseMoved? : Token → Option Diagnostic} {chars lines : Nat}
    {kept : Diagnostic → Bool} {move : Diagnostic → Diagnostic} {tokens : List Token}
    (each : ∀ token ∈ tokens, diagnoseMoved? (token.moved chars lines) =
      ((diagnose? token).filter kept).map move) :
    raised diagnoseMoved? (tokens.map (Token.moved chars lines)) =
      ((raised diagnose? tokens).filter kept).map move := by
  induction tokens with
  | nil => rfl
  | cons token tokens ih =>
      rw [List.forall_mem_cons] at each
      have first : (((diagnose? token).filter kept).map move).toList =
          ((diagnose? token).toList.filter kept).map move := by
        cases diagnose? token with
        | none => rfl
        | some diagnostic => cases holds : kept diagnostic <;> simp [holds]
      rw [List.map_cons, raised, raised, each.1, ih each.2, first, Token.kind_moved,
        List.filter_append, List.map_append]
      by_cases invalid : token.kind = .invalid <;> simp [invalid]

namespace Annotator

variable {annotator : Annotator} {listing : Listing} {token : Token}

/-- The complaint about a token that a run goes past. -/
theorem complaint?_eq_diagnose? (proceeding : (annotator.verdict listing token).proceeds) :
    (annotator.verdict listing token).complaint? = listing.diagnose? annotator.target token := by
  rw [verdict, labelsFrom_of_shape_eq (shape_map_reset _), ← Listing.labels] at proceeding ⊢
  rw [Listing.diagnose?]
  cases found : Finding.ofToken annotator.target listing.labels token with
  | problem problem =>
      rw [Verdict.judge_problem found, line?_opened] at proceeding ⊢
      cases layout : Diagnostic.layoutFault? token.place (listing.line? token.line) with
      | some fault => simp [layout, Verdict.proceeds] at proceeding
      | none =>
          by_cases invalid : token.kind = .invalid
          · simp [layout, invalid, Verdict.proceeds] at proceeding
          · simp [invalid, Verdict.complaint?, Finding.problem?]
  | tooLong limit => simp [Verdict.judge, found, Verdict.ofFinding, Verdict.proceeds] at proceeding
  | nothing | payload =>
      simp [Verdict.judge, found, Verdict.ofFinding, Verdict.complaint?, Finding.problem?]

theorem diagnose?_of_invalid (target : Target) (listing : Listing)
    (invalid : token.kind = .invalid) :
    listing.diagnose? target token = some (listing.alarm token) := by
  rw [Listing.diagnose?, Finding.ofToken_of_invalid target _ invalid]
  rfl

/-- If no verdict is a failure, the complaints of a run are the diagnostics of the tokens before the
first invalid one. -/
theorem complaints_eq_filterMap (unfailing : annotator.failure? listing = none) :
    complaints (annotator.judged listing) =
      (listing.tokens.takeWhile (·.kind ≠ .invalid)).filterMap
        (listing.diagnose? annotator.target) := by
  rw [complaints_eq unfailing]
  apply List.filterMap_congr
  intro token reached
  exact complaint?_eq_diagnose? (proceeds_of_reached unfailing reached)

theorem alarm?_eq_bind (bound : Decimal.Writable annotator.target.registerBound)
    (unfailing : annotator.failure? listing = none) :
    annotator.alarm? listing =
      (listing.tokens.find? (·.kind = .invalid)).bind (listing.diagnose? annotator.target) := by
  rw [alarm?_eq bound unfailing]
  cases found : listing.tokens.find? (·.kind = .invalid) with
  | none => rfl
  | some token =>
      have invalid := List.find?_some found
      rw [decide_eq_true_iff] at invalid
      rw [Option.map_some, Option.bind_some, diagnose?_of_invalid _ _ invalid]

/-- A run without a fault records the diagnostics of the tokens before the first invalid one, as far
as there is room, and that of the invalid one. -/
theorem recorded_eq_filterMap (bound : Decimal.Writable annotator.target.registerBound)
    (returned : (annotator.run listing).fault = none) :
    annotator.recorded listing =
      ((listing.tokens.takeWhile (·.kind ≠ .invalid)).filterMap
        (listing.diagnose? annotator.target)).take annotator.report.room ++
      ((listing.tokens.find? (·.kind = .invalid)).bind
        (listing.diagnose? annotator.target)).toList := by
  have unfailing := failure?_of_returned returned
  rw [recorded_of_returned returned, complaints_eq_filterMap unfailing,
    alarm?_eq_bind bound unfailing]

/-- A run without a fault leaves the diagnostics of its tokens in an empty report that has room for
them all. -/
theorem diagnostics_run (bound : Decimal.Writable annotator.target.registerBound)
    (empty : annotator.report.diagnostics = #[])
    (roomy : listing.tokens.length ≤ annotator.report.limit)
    (returned : (annotator.run listing).fault = none) :
    (annotator.run listing).annotator.report.diagnostics.toList =
      raised (listing.diagnose? annotator.target) listing.tokens := by
  have spare : ((listing.tokens.takeWhile (·.kind ≠ .invalid)).filterMap
      (listing.diagnose? annotator.target)).length ≤ (max 1 annotator.report.limit).toNat := by
    have counted := List.length_filterMap_le (listing.diagnose? annotator.target)
      (listing.tokens.takeWhile (·.kind ≠ .invalid))
    have taken := (List.takeWhile_sublist (l := listing.tokens) (·.kind ≠ .invalid)).length_le
    omega
  rw [run_report, Report.toList_addAll, empty, recorded_eq_filterMap bound returned,
    Report.room_of_empty empty, List.take_of_length_le spare, raised_eq]
  rfl

end Annotator

/-! ## Two texts joined by a line break -/

/-- Problems with one part of a text that the other part solves: words that are unknown to the one
and labels of the other. -/
def Problem.Settled (own other : List Token) : Problem → Prop
  | .unknownMnemonic word _ => Declares other word ∧ ¬ Declares own word
  | _ => False

instance (own other : List Token) (problem : Problem) : Decidable (problem.Settled own other) :=
  match problem with
  | .unknownMnemonic _ _ => inferInstanceAs (Decidable (_ ∧ ¬ _))
  | .unknownToken _ => inferInstanceAs (Decidable False)
  | .malformedNumber _ _ _ => inferInstanceAs (Decidable False)
  | .setting _ _ => inferInstanceAs (Decidable False)
  | .tooMany _ => inferInstanceAs (Decidable False)
  | .stated _ _ => inferInstanceAs (Decidable False)

namespace Diagnostic

/-- The diagnostic on `lines` more lines. -/
def moved (lines : Nat) (diagnostic : Diagnostic) : Diagnostic :=
  { diagnostic with
    place := diagnostic.place.map fun place => { place with line := place.line + lines } }

@[simp]
theorem moved_zero (diagnostic : Diagnostic) : diagnostic.moved 0 = diagnostic := by
  obtain ⟨problem, place, quoted⟩ := diagnostic
  cases place <;> simp [moved]

end Diagnostic

/-- A problem that is found beside some labels is found beside more of them, unless the others
settle it. -/
theorem Finding.problem?_ofToken_of_labels {target : Target} {labels more : List Label}
    {own other whole : List Token} (token : Token)
    (known : ∀ name, (∃ label ∈ labels, label.name = name) ↔ Declares own name)
    (known' : ∀ name, (∃ label ∈ more, label.name = name) ↔ Declares whole name)
    (joined : ∀ name, Declares whole name ↔ Declares own name ∨ Declares other name) :
    (ofToken target more token).problem? =
      (ofToken target labels token).problem?.filter fun problem => ¬ problem.Settled own other := by
  cases kind : token.kind with
  | instruction =>
      simp only [ofToken, kind, ofWord]
      cases target.instructions.opcode? token.text with
      | some opcode => rfl
      | none =>
          simp only [any_name_iff known, any_name_iff known', joined]
          by_cases here : Declares own token.text
          · simp [here, problem?]
          · by_cases there : Declares other token.text <;>
              simp [here, there, problem?, Option.filter_some, Problem.Settled]
  | immediate | register =>
      have same : ofToken target more token = ofToken target labels token := by
        simp only [ofToken, kind]
      rw [same]
      cases found : ofToken target labels token with
      | problem problem =>
          obtain ⟨role, hint, rfl⟩ := malformedNumber_of_ofToken (by simp [kind]) found
          simp [problem?, Option.filter_some, Problem.Settled]
      | _ => rfl
  | invalid =>
      simp only [ofToken_of_invalid target _ kind]
      simp [problem?, Option.filter_some, Problem.Settled]
  | _ => simp only [ofToken, kind, problem?, Option.filter_none]

/-- A listing of a part of a text, `lines` lines below its start, beside the tokens of the other
part. -/
structure Listing.Embeds (lines : Nat) (part : Listing) (other : List Token) (whole : Listing) :
    Prop where
  /-- The labels of the whole are those of its parts. -/
  declares_iff (name : String) :
    Declares whole.tokens name ↔ Declares part.tokens name ∨ Declares other name
  /-- Tokens quote the same lines in the whole. -/
  line?_eq : ∀ token ∈ part.tokens, token.kind ≠ .endOfInput →
    whole.line? (token.line + lines) = part.line? token.line

namespace Listing.Embeds

variable {lines : Nat} {part whole : Listing} {other : List Token}

theorem diagnose?_moved (embeds : Embeds lines part other whole) (target : Target) (chars : Nat)
    {token : Token} (member : token ∈ part.tokens) :
    whole.diagnose? target (token.moved chars lines) =
      ((part.diagnose? target token).filter
        fun diagnostic => ¬ diagnostic.problem.Settled part.tokens other).map
          (Diagnostic.moved lines) := by
  have found : (Finding.ofToken target whole.labels (token.moved chars lines)).problem? =
      (Finding.ofToken target part.labels token).problem?.filter
        fun problem => ¬ problem.Settled part.tokens other :=
    Finding.problem?_ofToken_of_labels token (mem_labelsFrom_iff 0 part.tokens)
      (mem_labelsFrom_iff 0 whole.tokens) embeds.declares_iff
  rw [diagnose?, diagnose?, found]
  cases raised : (Finding.ofToken target part.labels token).problem? with
  | none => rfl
  | some problem =>
      have visible : token.kind ≠ .endOfInput := by
        intro ended
        simp [Finding.ofToken, ended, Finding.problem?] at raised
      have quoted : whole.line? (token.moved chars lines).line = part.line? token.line :=
        embeds.line?_eq token member visible
      rw [Option.map_some, Option.filter_some, Option.filter_some, quoted]
      by_cases settled : problem.Settled part.tokens other
      · simp only [settled, not_true_eq_false, decide_false, Bool.false_eq_true, if_false,
          Option.map_none]
      · simp only [settled, not_false_eq_true, decide_true, if_true]
        rfl

/-- The whole raises the diagnostics of a part further down, except the settled ones. -/
theorem raised_moved (embeds : Embeds lines part other whole) (target : Target) (chars : Nat)
    {tokens : List Token} (among : tokens ⊆ part.tokens) :
    raised (whole.diagnose? target) (tokens.map (Token.moved chars lines)) =
      ((raised (part.diagnose? target) tokens).filter
        fun diagnostic => ¬ diagnostic.problem.Settled part.tokens other).map
          (Diagnostic.moved lines) :=
  raised_map_moved fun _ member => embeds.diagnose?_moved target chars (among member)

end Listing.Embeds

theorem declares_append (front back : List Token) (name : String) :
    Declares (front ++ back) name ↔ Declares front name ∨ Declares back name := by
  simp [Declares, or_and_right, exists_or]

theorem declares_map_moved (chars lines : Nat) (tokens : List Token) (name : String) :
    Declares (tokens.map (Token.moved chars lines)) name ↔ Declares tokens name := by
  have same : Annotator.shape (tokens.map (Token.moved chars lines)) = Annotator.shape tokens :=
    List.map_map
  exact Annotator.declares_of_shape_eq same name

theorem Place.writable_of_moved {place : Place} {lines : Nat} (positive : 1 ≤ place.line)
    (writable : Place.Writable { place with line := place.line + lines }) : place.Writable := by
  obtain ⟨line, column⟩ := writable
  refine ⟨?_, column⟩
  simp only [Decimal.Writable] at line ⊢
  omega

namespace Listing

variable {first second : String} (file : String) (noNul : '\x00' ∉ first.toList)
  (noNul' : '\x00' ∉ second.toList)

include noNul noNul'

theorem declares_scan_append_newline (name : String) :
    Declares (scan (first ++ "\n" ++ second) file).tokens name ↔
      Declares (scan first file).tokens name ∨ Declares (scan second file).tokens name := by
  obtain ⟨tokens, last, front, ended, _, whole⟩ :=
    exists_tokens_scan_append_newline file noNul noNul'
  have unlabelled : ¬ Declares [] name := by simp [Declares]
  rw [front, whole, declares_append, declares_append, declares_cons_of_ne (by simp),
    declares_cons_of_ne (by simp [ended]), declares_map_moved, or_iff_left unlabelled]

theorem lines_append_newline :
    Text.lines (untilNul (first ++ "\n" ++ second)) =
      Text.lines (untilNul first) ++ Text.lines (untilNul second) := by
  rw [untilNul_append_newline noNul noNul', Text.lines_append_newline, untilNul_of_not_mem noNul,
    untilNul_of_not_mem noNul']

theorem untilNul_append_newline_ne_nil : untilNul (first ++ "\n" ++ second) ≠ [] := by
  simp [untilNul_append_newline noNul noNul']

theorem embeds_first :
    Embeds 0 (scan first file) (scan second file).tokens (scan (first ++ "\n" ++ second) file) where
  declares_iff := declares_scan_append_newline file noNul noNul'
  line?_eq _ member visible :=
    line?_scan_of_lines [] _ (by rw [List.nil_append, lines_append_newline noNul noNul'])
      (untilNul_append_newline_ne_nil noNul noNul') member visible

theorem embeds_second :
    Embeds (first.toList.count '\n' + 1) (scan second file) (scan first file).tokens
      (scan (first ++ "\n" ++ second) file) where
  declares_iff name :=
    (declares_scan_append_newline file noNul noNul' name).trans or_comm
  line?_eq _ member visible := by
    have found := line?_scan_of_lines (Text.lines (untilNul first)) []
      (by rw [List.append_nil, lines_append_newline noNul noNul'])
      (untilNul_append_newline_ne_nil noNul noNul') member visible
    rwa [Text.length_lines, untilNul_of_not_mem noNul] at found

end Listing

namespace Annotator

/-- A source whose numbers and places do not have too many digits is annotated without a fault. -/
theorem run_scan_fault_eq_none {annotator : Annotator} (valid : annotator.target.Valid)
    {source file : String}
    (takes : annotator.report.Takes (Listing.scan source file).tokens.length)
    (within : ∀ token ∈ (Listing.scan source file).tokens,
      ¬ token.Overlong ∧ token.place.Writable) :
    (annotator.run (.scan source file)).fault = none := by
  rw [run_fault_eq_none_iff (Target.writable_of_valid valid)
    fun token => Listing.hasRoom_of_mem_scan]
  refine ⟨?_, takes.mono (length_diagnostics_le annotator _)⟩
  rintro index token ⟨found, _⟩ exceeds
  obtain ⟨short, writable⟩ := within token (List.mem_of_getElem? found)
  rcases exceeds with long | ⟨_, unwritable⟩
  · exact short long
  · exact unwritable writable

theorem annotated_of_idle {target : Target} {token : Token} (line : Nat) (reached : Bool)
    (idle : token.kind = .newline ∨ token.kind = .endOfInput) :
    token.annotated target line reached = token.reset := by
  rcases idle with newline | ended
  · simp [Token.annotated, Token.denoted?, newline]
  · simp [Token.annotated, Token.denoted?, ended]

theorem diagnose?_of_idle {token : Token} (target : Target) (listing : Listing)
    (idle : token.kind = .newline ∨ token.kind = .endOfInput) :
    listing.diagnose? target token = none := by
  rcases idle with newline | ended
  · simp [Listing.diagnose?, Finding.ofToken, Finding.problem?, newline]
  · simp [Listing.diagnose?, Finding.ofToken, Finding.problem?, ended]

theorem raised_cons_of_idle {token : Token} (target : Target) (listing : Listing)
    (tokens : List Token) (idle : token.kind = .newline ∨ token.kind = .endOfInput) :
    raised (listing.diagnose? target) (token :: tokens) =
      raised (listing.diagnose? target) tokens := by
  rw [raised, diagnose?_of_idle target listing idle]
  rcases idle with newline | ended
  · simp [newline]
  · simp [ended]

section Joined

variable {annotator : Annotator} {first second file : String}
  (noNul : '\x00' ∉ first.toList) (noNul' : '\x00' ∉ second.toList)

include noNul noNul'

/-- Numbers and places have no more digits in the two texts than in the joined one. -/
theorem within_of_append_newline
    (within : ∀ token ∈ (Listing.scan (first ++ "\n" ++ second) file).tokens,
      ¬ token.Overlong ∧ token.place.Writable) :
    (∀ token ∈ (Listing.scan first file).tokens, ¬ token.Overlong ∧ token.place.Writable) ∧
      ∀ token ∈ (Listing.scan second file).tokens, ¬ token.Overlong ∧ token.place.Writable := by
  obtain ⟨tokens, last, front, ended, _, whole⟩ :=
    Listing.exists_tokens_scan_append_newline file noNul noNul'
  rw [whole, List.forall_mem_append, List.forall_mem_cons, List.forall_mem_map] at within
  obtain ⟨before, ⟨_, writable⟩, after⟩ := within
  constructor
  · rw [front, List.forall_mem_append]
    refine ⟨before, ?_⟩
    intro token member
    cases List.mem_singleton.mp member
    exact ⟨by simp [Token.Overlong, ended], writable⟩
  · intro token member
    obtain ⟨short, writable⟩ := after token member
    obtain ⟨line, _⟩ := (Token.standsIn_iff _ _).mp (Listing.standsIn_of_mem_scan member).1
    have positive : 1 ≤ token.place.line := by
      change 1 ≤ token.line
      omega
    exact ⟨short, Place.writable_of_moved positive writable⟩

/-- The annotation of a text continues that of another. -/
theorem tokens_run_append_newline
    (returned : (annotator.run (.scan first file)).fault = none)
    (returned' : (annotator.run (.scan second file)).fault = none)
    (returned'' : (annotator.run (.scan (first ++ "\n" ++ second) file)).fault = none) :
    ∃ tokens last, (annotator.run (.scan first file)).listing.tokens = tokens ++ [last] ∧
      last.kind = .endOfInput ∧
      (annotator.run (.scan (first ++ "\n" ++ second) file)).listing.tokens =
        tokens ++ { last with kind := .newline, text := "\n", payload := 0, resolved := false } ::
          (annotator.run (.scan second file)).listing.tokens.map
            (Token.continued (first.length + 1) (first.toList.count '\n' + 1)
              (sound (Listing.scan first file).tokens)) := by
  obtain ⟨tokens, last, front, ended, unresolved, whole⟩ :=
    Listing.exists_tokens_scan_append_newline file noNul noNul'
  have unbroken : breaks [last] = 0 := by simp [breaks, ended]
  have counted : breaks tokens = first.toList.count '\n' := by
    rw [← untilNul_of_not_mem noNul, ← Listing.breaks_scan first file, front, breaks_append,
      unbroken]
    rfl
  have spared : sound (Listing.scan first file).tokens = sound tokens := by
    rw [front, sound_append_singleton (by simp [ended])]
  refine ⟨annotateFrom annotator.target 0 true tokens, last, ?_, ended, ?_⟩
  · rw [run_tokens_eq_annotateFrom returned, front, annotateFrom_append, annotateFrom,
      annotated_of_idle _ _ (.inr ended), unresolved]
    rfl
  · -- Behind the line break the count of lines is that of `moved`, and no invalid token is new.
    have continued := annotateFrom_moved annotator.target (first.length + 1)
      (first.toList.count '\n' + 1) 0 (sound tokens) true (Listing.scan second file).tokens
    rw [Nat.add_zero, Bool.and_true] at continued
    rw [run_tokens_eq_annotateFrom returned', run_tokens_eq_annotateFrom returned'', whole,
      annotateFrom_append, annotateFrom, annotated_of_idle _ _ (.inl rfl), counted, spared,
      ← continued]
    simp [Token.reset, breaks]

/-- The diagnostics of a text come after those of another, without the settled ones of both. -/
theorem raised_append_newline (target : Target) :
    raised ((Listing.scan (first ++ "\n" ++ second) file).diagnose? target)
        (Listing.scan (first ++ "\n" ++ second) file).tokens =
      (raised ((Listing.scan first file).diagnose? target) (Listing.scan first file).tokens).filter
          (fun diagnostic => ¬ diagnostic.problem.Settled (Listing.scan first file).tokens
            (Listing.scan second file).tokens) ++
        if sound (Listing.scan first file).tokens then
          ((raised ((Listing.scan second file).diagnose? target)
            (Listing.scan second file).tokens).filter
              fun diagnostic => ¬ diagnostic.problem.Settled (Listing.scan second file).tokens
                (Listing.scan first file).tokens).map
            (Diagnostic.moved (first.toList.count '\n' + 1))
        else [] := by
  obtain ⟨tokens, last, front, ended, _, whole⟩ :=
    Listing.exists_tokens_scan_append_newline file noNul noNul'
  have spared : sound (Listing.scan first file).tokens = sound tokens := by
    rw [front, sound_append_singleton (by simp [ended])]
  -- The first part stands in the whole as it is, the second one is moved.
  have among : tokens ⊆ (Listing.scan first file).tokens := by
    rw [front]
    exact List.subset_append_left _ _
  have before := (Listing.embeds_first file noNul noNul').raised_moved target 0 among
  have after := (Listing.embeds_second file noNul noNul').raised_moved target (first.length + 1)
    (List.Subset.refl _)
  have kept : raised ((Listing.scan first file).diagnose? target) (Listing.scan first file).tokens =
      raised ((Listing.scan first file).diagnose? target) tokens := by
    rw [front, raised_append, raised_cons_of_idle _ _ _ (.inr ended)]
    simp [raised]
  have unmoved : Token.moved 0 0 = id := funext Token.moved_zero
  have unmoved' : Diagnostic.moved 0 = id := funext Diagnostic.moved_zero
  rw [unmoved, unmoved', List.map_id, List.map_id] at before
  rw [whole, raised_append, raised_cons_of_idle _ _ _ (.inl rfl), before, after, kept, spared]

end Joined

/-- A text can be annotated in two parts, joined by a token for the line break where the first part
ended.  The tokens of the second part are further down, and if the first part is not sound, only
label declarations among them have payloads.  In a report that has room for them all, the
diagnostics of the second part, if there are any, come after those of the first, without the ones
that either part settles for the other.  All this is so if no literal is too long, the report takes
a diagnostic about every token without a fault, and the places can be written, as those of every
text of fewer than `Decimal.writingLimit` characters can. -/
theorem run_append_newline (annotator : Annotator) (first second file : String)
    (valid : annotator.target.Valid) (noNul : '\x00' ∉ first.toList)
    (noNul' : '\x00' ∉ second.toList)
    (takes : annotator.report.Takes
      (Listing.scan (first ++ "\n" ++ second) file).tokens.length)
    (within : ∀ token ∈ (Listing.scan (first ++ "\n" ++ second) file).tokens,
      ¬ token.Overlong ∧ token.place.Writable) :
    let front := Listing.scan first file
    let back := Listing.scan second file
    let whole := Listing.scan (first ++ "\n" ++ second) file
    let lines := first.toList.count '\n' + 1
    ((annotator.run front).fault = none ∧ (annotator.run back).fault = none ∧
      (annotator.run whole).fault = none) ∧
    (∃ tokens last, (annotator.run front).listing.tokens = tokens ++ [last] ∧
      last.kind = .endOfInput ∧
      (annotator.run whole).listing.tokens =
        tokens ++ { last with kind := .newline, text := "\n", payload := 0, resolved := false } ::
          (annotator.run back).listing.tokens.map
            (Token.continued (first.length + 1) lines (sound front.tokens))) ∧
    (annotator.report.diagnostics = #[] → whole.tokens.length ≤ annotator.report.limit →
      (annotator.run whole).annotator.report.diagnostics.toList =
        (annotator.run front).annotator.report.diagnostics.toList.filter
            (fun diagnostic => ¬ diagnostic.problem.Settled front.tokens back.tokens) ++
          if sound front.tokens then
            ((annotator.run back).annotator.report.diagnostics.toList.filter
              fun diagnostic => ¬ diagnostic.problem.Settled back.tokens front.tokens).map
                (Diagnostic.moved lines)
          else []) := by
  intro front back whole lines
  obtain ⟨withinFirst, withinSecond⟩ := within_of_append_newline noNul noNul' within
  have lengths := Listing.length_scan_append_newline file noNul noNul'
  have returned := run_scan_fault_eq_none valid (takes.mono (by omega)) withinFirst
  have returned' := run_scan_fault_eq_none valid (takes.mono (by omega)) withinSecond
  have returned'' := run_scan_fault_eq_none valid takes within
  refine ⟨⟨returned, returned', returned''⟩,
    tokens_run_append_newline noNul noNul' returned returned' returned'', ?_⟩
  intro empty roomyWhole
  have roomy := roomyWhole
  have bound := Target.writable_of_valid valid
  rw [lengths, Int.natCast_add] at roomy
  have roomyFirst : (Listing.scan first file).tokens.length ≤ annotator.report.limit := by omega
  have roomySecond : (Listing.scan second file).tokens.length ≤ annotator.report.limit := by omega
  rw [diagnostics_run bound empty roomyWhole returned'',
    diagnostics_run bound empty roomyFirst returned,
    diagnostics_run bound empty roomySecond returned']
  exact raised_append_newline noNul noNul' annotator.target

/-- A text that uses a label of the text after it. -/
def frontText : String := "loop: jmp end wat\nadd r1, 08"

/-- A text that uses a label of the text before it. -/
def backText : String := "end: jmp loop\nr99"

theorem run_append_newline_sample :
    Target.Valid {} ∧ '\x00' ∉ frontText.toList ∧ '\x00' ∉ backText.toList ∧
      Report.Takes {} (Listing.scan (frontText ++ "\n" ++ backText) unnamedFile).tokens.length ∧
      (∀ token ∈ (Listing.scan (frontText ++ "\n" ++ backText) unnamedFile).tokens,
        ¬ token.Overlong ∧ token.place.Writable) ∧
      (Annotator.run { target := {} }
        (.scan (frontText ++ "\n" ++ backText) unnamedFile)).fault = none ∧
      (Annotator.run { target := {} } (.scan (frontText ++ "\n" ++ backText)
          unnamedFile)).annotator.report.diagnostics.toList.map (·.place) =
        [some ⟨unnamedFile, 1, 15⟩, some ⟨unnamedFile, 2, 9⟩, some ⟨unnamedFile, 4, 1⟩] := by
  have valid : Target.Valid {} := by decide
  have takes : Report.Takes {}
      (Listing.scan (frontText ++ "\n" ++ backText) unnamedFile).tokens.length :=
    .inl (Decimal.writable_of_le_wordMax (by decide) (by decide))
  have noNul : '\x00' ∉ frontText.toList := by decide +kernel
  have noNul' : '\x00' ∉ backText.toList := by decide +kernel
  have within : ∀ token ∈ (Listing.scan (frontText ++ "\n" ++ backText) unnamedFile).tokens,
      ¬ token.Overlong ∧ token.place.Writable := by decide +kernel
  obtain ⟨⟨_, _, returned⟩, _, diagnostics⟩ :=
    run_append_newline { target := {} } frontText backText unnamedFile valid noNul noNul' takes
      within
  refine ⟨valid, noNul, noNul', takes, within, returned, ?_⟩
  rw [diagnostics rfl (by decide +kernel)]
  decide +kernel

end Annotator
end RegisterAssembly
