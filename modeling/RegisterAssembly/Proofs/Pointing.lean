import RegisterAssembly.Proofs.LineCount

/-!
# Where diagnostics point

A diagnostic about a token of a source quotes the line that the token is on, and its column is where
the lexeme stands in that line.  So in the text of the diagnostic, where the line comes after a
margin, the caret on the line below stands under the first character of the lexeme.  The scanner
counts lines and columns character by character, while quoted lines come from a split of the text at
its newlines: both agree on every source, whatever other control characters it contains.

The diagnostics of a run are in the order of their places, and no two are at the same place.
-/

namespace RegisterAssembly

/-- The lexeme that a problem is about. -/
def Problem.lexeme? : Problem → Option String
  | unknownToken lexeme => some lexeme
  | malformedNumber lexeme _ _ => some lexeme
  | unknownMnemonic mnemonic _ => some mnemonic
  | _ => none

namespace Diagnostic

/-- In the text of a diagnostic the lines of the header are followed by a quoted line after four
blanks, and by a caret below the character at an index of that line. -/
def Shows (diagnostic : Diagnostic) (line : List Char) (index : Nat) : Prop :=
  ∃ rest,
    Text.lines diagnostic.text.toList =
      Text.lines diagnostic.header.toList ++
        (List.replicate 4 ' ' ++ line) :: (List.replicate (4 + index) ' ' ++ ['^']) :: rest

/-- A diagnostic points at a token that stands at an index of a line, where the line goes from a
character of the text to the next newline: the diagnostic has the place and the lexeme of the token,
it quotes the line, and it shows where in the line the token begins. -/
structure PointsInto (chars : List Char) (diagnostic : Diagnostic) (token : Token)
    (begin index : Nat) (line : List Char) : Prop where
  place : diagnostic.place = some token.place
  lexeme : diagnostic.problem.lexeme? = some token.text
  begins : Text.LineBegins chars token.start begin
  whole : line = (chars.drop begin).takeWhile (· ≠ '\n')
  start : token.start = begin + index
  row : token.line = 1 + (chars.take begin).count '\n'
  column : token.column = 1 + index
  spelled : (line.drop index).take token.text.length = token.text.toList
  quoted : diagnostic.quoted = some (String.ofList line)
  shown : diagnostic.Shows line index

/-- A diagnostic points at a token in the line that the token is on. -/
def PointsAt (chars : List Char) (diagnostic : Diagnostic) (token : Token) : Prop :=
  ∃ begin index line, diagnostic.PointsInto chars token begin index line

/-- One diagnostic has its place before the place of another, by line and column. -/
def Precedes (earlier later : Diagnostic) : Prop :=
  ∃ place place', earlier.place = some place ∧ later.place = some place' ∧
    (place.line < place'.line ∨ place.line = place'.line ∧ place.column < place'.column)

end Diagnostic

namespace Finding

variable {target : Target} {labels : List Label} {token : Token} {problem : Problem}

/-- A problem with a token is about its lexeme, which is no line break. -/
theorem lexeme?_of_ofToken (found : ofToken target labels token = .problem problem) :
    problem.lexeme? = some token.text ∧ token.kind ≠ .newline ∧ token.kind ≠ .endOfInput := by
  cases kind : token.kind with
  | instruction =>
      simp only [ofToken, kind, ofWord] at found
      split at found
      · contradiction
      · split at found
        · contradiction
        · cases found
          exact ⟨rfl, by simp⟩
  | immediate =>
      obtain ⟨role, hint, rfl⟩ := malformedNumber_of_ofToken (.inl kind) found
      exact ⟨rfl, by simp⟩
  | register =>
      obtain ⟨role, hint, rfl⟩ := malformedNumber_of_ofToken (.inr kind) found
      exact ⟨rfl, by simp⟩
  | invalid =>
      rw [ofToken_of_invalid target labels kind] at found
      cases found
      exact ⟨rfl, by simp⟩
  | _ => simp [ofToken, kind] at found

end Finding

namespace Verdict

/-- The diagnostic of a verdict, whether the pass goes on after it or not. -/
def diagnostic? : Verdict → Option Diagnostic
  | complain diagnostic => some diagnostic
  | abort diagnostic => some diagnostic
  | _ => none

theorem complaint?_of_proceeds {verdict : Verdict} (proceeding : verdict.proceeds) :
    verdict.complaint? = verdict.diagnostic? := by
  cases verdict with
  | abort => cases proceeding
  | _ => rfl

theorem final?_of_not_proceeds {verdict : Verdict} (stopped : verdict.proceeds = false) :
    verdict.final? = verdict.diagnostic? := by
  cases verdict with
  | complain => cases stopped
  | _ => rfl

variable {target : Target} {labels : List Label} {listing : Listing} {token : Token}
  {diagnostic : Diagnostic}

/-- The diagnostic about a token is about a problem with it, and quotes its line. -/
theorem exists_of_diagnostic?_judge
    (diagnosed : (judge target labels listing token).diagnostic? = some diagnostic) :
    ∃ problem, Finding.ofToken target labels token = .problem problem ∧
      diagnostic = ⟨problem, some token.place, listing.line? token.line⟩ := by
  cases found : Finding.ofToken target labels token with
  | problem problem =>
      rw [judge_problem found] at diagnosed
      split at diagnosed
      · cases diagnosed
      · split at diagnosed <;>
          · cases diagnosed
            exact ⟨problem, rfl, rfl⟩
  | _ =>
      simp only [judge, found, ofFinding] at diagnosed
      cases diagnosed

end Verdict

/-! ## The text of a diagnostic -/

/-- The lines of texts that are joined by newlines are the lines of each. -/
theorem Text.lines_intercalate {parts : List (List Char)} (nonempty : parts ≠ []) :
    lines (['\n'].intercalate parts) = parts.flatMap lines := by
  induction parts with
  | nil => exact absurd rfl nonempty
  | cons part parts ih =>
      cases parts with
      | nil => simp
      | cons next parts =>
          rw [List.intercalate_cons_cons, List.append_assoc, List.singleton_append,
            lines_append_newline, ih (List.cons_ne_nil _ _)]
          exact List.flatMap_cons.symm

theorem Text.lines_of_not_mem {chars : List Char} (unbroken : '\n' ∉ chars) :
    lines chars = [chars] :=
  splitOn_of_not_mem unbroken

namespace Diagnostic

/-- A diagnostic shows the line that it quotes and where its column is in it. -/
theorem shows_of_quoted {diagnostic : Diagnostic} {place : Place} {line : List Char} {index : Nat}
    (located : diagnostic.place = some place) (column : place.column = 1 + index)
    (quoted : diagnostic.quoted = some (String.ofList line)) (unbroken : '\n' ∉ line) :
    diagnostic.Shows line index := by
  have positive : 0 < place.column := by omega
  have spaces : (place.column - 1).toNat = index := by omega
  have pointer : margin ++ List.replicate index ' ' = List.replicate (4 + index) ' ' :=
    List.replicate_append_replicate
  have excerpt : diagnostic.excerpt = [String.ofList margin ++ String.ofList line,
      String.ofList (List.replicate (4 + index) ' ' ++ ['^'])] := by
    simp only [Diagnostic.excerpt, quoted, located, caretLine, if_pos positive, spaces, pointer]
  have quotedLine : Text.lines (margin ++ line) = [margin ++ line] :=
    Text.lines_of_not_mem (by simp [margin, unbroken])
  have caretLine : Text.lines (List.replicate (4 + index) ' ' ++ ['^']) =
      [List.replicate (4 + index) ' ' ++ ['^']] :=
    Text.lines_of_not_mem (by simp [List.mem_replicate])
  refine ⟨diagnostic.hintLine.flatMap fun hint => Text.lines hint.toList, ?_⟩
  rw [text, String.toList_intercalate]
  change Text.lines (['\n'].intercalate _) = _
  rw [Text.lines_intercalate (by simp), excerpt]
  simp only [List.cons_append, List.nil_append, List.map_cons, List.flatMap_cons,
    List.flatMap_map, String.toList_append, String.toList_ofList, quotedLine, caretLine]
  rfl

end Diagnostic

namespace Listing

variable {source file : String} {token : Token}

/-- A diagnostic about a problem with a scanned token points at the token. -/
theorem pointsAt_of_mem_scan {target : Target} {labels : List Label} {problem : Problem}
    (member : token ∈ (scan source file).tokens)
    (found : Finding.ofToken target labels token = .problem problem) :
    Diagnostic.PointsAt (untilNul source)
      ⟨problem, some token.place, (scan source file).line? token.line⟩ token := by
  obtain ⟨lexeme, noBreak, noEnd⟩ := Finding.lexeme?_of_ofToken found
  have decomposed := decomposition_of_cut (cut_scan source file)
  obtain ⟨_, stops, text⟩ := decomposed.slices token member
  obtain ⟨row, _⟩ := (Token.standsIn_iff _ _).mp (standsIn_of_mem_scan member).1
  obtain ⟨begin, begins, column, parted⟩ := exists_lineBegins_of_mem_scan member
  obtain ⟨line, whole⟩ :
      ∃ line, line = ((untilNul source).drop begin).takeWhile (· ≠ '\n') := ⟨_, rfl⟩
  have quoted := line?_of_mem_scan member (untilNul_ne_nil_of_mem_scan member noEnd)
  rw [← parted, ← whole] at quoted
  obtain ⟨index, reached⟩ := Nat.exists_eq_add_of_le begins.before
  have column' : token.column = 1 + index := by omega
  -- The lexeme is no line break, so that its line does not end before it does.
  have unbroken : '\n' ∉ token.text.toList := by
    have counted := (decomposed.spelled token member noEnd).count_newline
    rw [if_neg noBreak] at counted
    exact List.count_eq_zero.mp counted
  have spelled : (line.drop index).take token.text.length = token.text.toList := by
    have rest := begins.drop_line (Nat.le_trans (Nat.le_add_right _ _) stops)
    rw [← whole, reached, Nat.add_sub_cancel_left, ← reached] at rest
    rw [rest, List.take_takeWhile, ← text]
    simpa using Text.takeWhile_append_of_unbroken unbroken []
  have unbrokenLine : '\n' ∉ line := by
    intro among
    rw [whole] at among
    exact absurd (List.mem_takeWhile_imp among) (by simp)
  rw [quoted]
  refine ⟨begin, index, line, ?_⟩
  exact {
    place := rfl
    lexeme := lexeme
    begins := begins
    whole := whole
    start := reached
    row := by rw [row, begins.count_take, Int.add_comm]
    column := column'
    spelled := spelled
    quoted := rfl
    shown := Diagnostic.shows_of_quoted rfl column' rfl unbrokenLine }

end Listing

/-! ## The diagnostics of a run -/

namespace Annotator

variable {annotator : Annotator} {listing : Listing}

theorem recorded_sublist_diagnostics (annotator : Annotator) (listing : Listing) :
    (annotator.recorded listing).Sublist (diagnostics (annotator.judged listing)) := by
  rw [recorded]
  split
  · rw [diagnostics_judged]
    exact (List.take_sublist _ _).append (List.Sublist.refl _)
  · exact List.take_sublist _ _

/-- The diagnostics of a run are those of the tokens that it reaches, in their order. -/
theorem diagnostics_sublist (annotator : Annotator) (listing : Listing) :
    (diagnostics (annotator.judged listing)).Sublist
      (listing.tokens.filterMap fun token => (annotator.verdict listing token).diagnostic?) := by
  have going_eq {front : List Token}
      (going : ∀ token ∈ front, (annotator.verdict listing token).proceeds) :
      (front.filterMap fun token => (annotator.verdict listing token).complaint?) =
        front.filterMap fun token => (annotator.verdict listing token).diagnostic? := by
    apply List.filterMap_congr
    intro token member
    exact Verdict.complaint?_of_proceeds (going token member)
  rw [diagnostics_judged, complaints_judged, alarm?]
  cases stop : annotator.stop? listing with
  | none =>
      have going := proceeds_of_stop?_eq_none stop
      rw [List.takeWhile_eq_self_iff.mpr going, going_eq going, Option.bind_none,
        Option.toList_none, List.append_nil]
  | some token =>
      obtain ⟨front, back, tokens, stopped, going⟩ := exists_append_of_stop? stop
      rw [tokens, List.takeWhile_append_of_pos going,
        List.takeWhile_cons_of_neg (by simp [stopped]), List.append_nil, going_eq going,
        Option.bind_some, Verdict.final?_of_not_proceeds stopped, List.filterMap_append]
      apply (List.Sublist.refl _).append
      rw [List.filterMap_cons]
      cases (annotator.verdict listing token).diagnostic? <;> simp

/-- Each diagnostic that a run on a source records points at the token that it is about, and they
stand in the order of their places, no two at the same place. -/
theorem run_points (annotator : Annotator) (source file : String) :
    ∃ recorded : List Diagnostic,
      (annotator.run (.scan source file)).annotator.report.diagnostics.toList =
        annotator.report.diagnostics.toList ++ recorded ∧
      (∀ diagnostic ∈ recorded, ∃ token ∈ (Listing.scan source file).tokens,
        (annotator.verdict (.scan source file) token).diagnostic? = some diagnostic ∧
        diagnostic.PointsAt (untilNul source) token) ∧
      recorded.Pairwise Diagnostic.Precedes := by
  have sublist := (annotator.recorded_sublist_diagnostics (.scan source file)).trans
    (annotator.diagnostics_sublist (.scan source file))
  have points {token : Token} {diagnostic : Diagnostic}
      (member : token ∈ (Listing.scan source file).tokens)
      (diagnosed : (annotator.verdict (.scan source file) token).diagnostic? = some diagnostic) :
      diagnostic.PointsAt (untilNul source) token := by
    obtain ⟨problem, found, rfl⟩ := Verdict.exists_of_diagnostic?_judge diagnosed
    rw [line?_opened]
    exact Listing.pointsAt_of_mem_scan member found
  refine ⟨annotator.recorded (.scan source file), ?_, ?_, ?_⟩
  · rw [run_report, Report.toList_addAll]
  · intro diagnostic member
    obtain ⟨token, among, diagnosed⟩ := List.mem_filterMap.mp (sublist.subset member)
    exact ⟨token, among, diagnosed, points among diagnosed⟩
  · apply List.Pairwise.sublist sublist
    rw [List.pairwise_filterMap]
    apply (Listing.pairwise_precedes_scan source file).imp_of_mem
    intro earlier later among among' precedes diagnostic diagnosed diagnostic' diagnosed'
    obtain ⟨_, _, _, pointing⟩ := points among diagnosed
    obtain ⟨_, _, _, pointing'⟩ := points among' diagnosed'
    exact ⟨earlier.place, later.place, pointing.place, pointing'.place, precedes⟩

/-- A malformed register after a carriage return and a tab, and an unknown character further on. -/
theorem run_points_sample :
    (({ target := {} } : Annotator).run
        (.scan "a:\r\n\tr99 @\x00!" unnamedFile)).annotator.report.diagnostics.toList.map
          (·.place) = [some ⟨unnamedFile, 2, 2⟩, some ⟨unnamedFile, 2, 6⟩] ∧
      ∀ diagnostic ∈ (({ target := {} } : Annotator).run
        (.scan "a:\r\n\tr99 @\x00!" unnamedFile)).annotator.report.diagnostics.toList,
        ∃ token ∈ (Listing.scan "a:\r\n\tr99 @\x00!" unnamedFile).tokens,
          diagnostic.PointsAt (untilNul "a:\r\n\tr99 @\x00!") token := by
  refine ⟨by decide +kernel, ?_⟩
  intro diagnostic member
  obtain ⟨recorded, report, points, _⟩ :=
    run_points { target := {} } "a:\r\n\tr99 @\x00!" unnamedFile
  rw [report] at member
  obtain ⟨token, among, _, pointing⟩ := points diagnostic (by simpa using member)
  exact ⟨token, among, pointing⟩

end Annotator
end RegisterAssembly
