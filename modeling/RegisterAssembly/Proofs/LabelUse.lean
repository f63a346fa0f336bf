import RegisterAssembly.Proofs.Composition

/-!
# Uses of labels

The scanner does not tell uses of labels from other words.  A word that is the name of a declared
label is left alone by the last pass, wherever the label is declared.  This holds of the words that
the scanner takes for mnemonics.  A name that is spelled like a register is taken for one: where the
label is used, it is rejected like any register that the target does not have, although the scanner
has accepted it as the name of a label.
-/

namespace RegisterAssembly

/-! ## Tokens that nothing is wrong with -/

namespace Listing

variable {target : Target} {listing : Listing} {token : Token} {diagnostic : Diagnostic}

/-- No diagnostic is about a token that is neither invalid nor rejected. -/
theorem diagnose?_of_accepted (valid : token.kind ≠ .invalid)
    (accepted : ¬ token.Rejected target listing.tokens) :
    listing.diagnose? target token = none := by
  rw [diagnose?, Option.map_eq_none_iff]
  by_cases denoted : ∃ value, token.Denotes target value
  · obtain ⟨value, denoted⟩ := denoted
    by_cases long : token.Overlong
    · obtain ⟨limit, found⟩ := Finding.ofToken_of_overlong target listing.labels long
      rw [found]
      rfl
    · rw [Finding.ofToken_of_denotes listing.labels denoted long]
      rfl
  · rw [labels, Finding.ofToken_of_idle (mem_labelsFrom_iff 0 listing.tokens) denoted accepted
      valid]
    rfl

theorem place_of_diagnose? (raised : listing.diagnose? target token = some diagnostic) :
    diagnostic.place = some token.place := by
  obtain ⟨problem, _, rfl⟩ := Option.map_eq_some_iff.mp raised
  rfl

end Listing

namespace Annotator

variable {annotator : Annotator} {listing : Listing} {index : Nat} {token : Token}
  {diagnostic : Diagnostic}

theorem reached_of_append {tokens front back : List Token}
    (parted : tokens = front ++ token :: back)
    (valid : ∀ earlier ∈ front, earlier.kind ≠ .invalid) : Reached tokens front.length token := by
  subst parted
  refine ⟨by simp, ?_⟩
  rwa [List.take_left]

/-- Every diagnostic of a run without a fault is about a token that the run reaches. -/
theorem exists_reached_of_mem_recorded (bound : Decimal.Writable annotator.target.registerBound)
    (returned : (annotator.run listing).fault = none)
    (member : diagnostic ∈ annotator.recorded listing) :
    ∃ index token, Reached listing.tokens index token ∧
      listing.diagnose? annotator.target token = some diagnostic := by
  rw [recorded_eq_filterMap bound returned, List.mem_append] at member
  rcases member with complaint | alarm
  · obtain ⟨token, before, raised⟩ := List.mem_filterMap.mp (List.mem_of_mem_take complaint)
    obtain ⟨front, back, parted⟩ := List.append_of_mem before
    have all := List.takeWhile_append_dropWhile (p := (·.kind ≠ .invalid)) (l := listing.tokens)
    rw [parted, List.append_assoc, List.cons_append] at all
    refine ⟨front.length, token, reached_of_append all.symm ?_, raised⟩
    intro earlier member
    have passed : earlier ∈ listing.tokens.takeWhile (·.kind ≠ .invalid) := by
      rw [parted]
      exact List.mem_append_left _ member
    simpa using List.mem_takeWhile_imp passed
  · obtain ⟨token, found, raised⟩ := Option.bind_eq_some_iff.mp (Option.mem_toList.mp alarm)
    obtain ⟨_, front, back, parted, passed⟩ := List.find?_eq_some_iff_append.mp found
    refine ⟨front.length, token, reached_of_append parted ?_, raised⟩
    simpa using passed

/-- Where places are distinct, no diagnostic of a run has the place of a token that is accepted or
not reached. -/
theorem filter_place_recorded_of_spared
    (bound : Decimal.Writable annotator.target.registerBound)
    (returned : (annotator.run listing).fault = none)
    (distinct : listing.tokens.Pairwise fun earlier later => earlier.place ≠ later.place)
    (found : listing.tokens[index]? = some token) (valid : token.kind ≠ .invalid)
    (spared : Reached listing.tokens index token →
      ¬ token.Rejected annotator.target listing.tokens) :
    (annotator.recorded listing).filter (·.place = some token.place) = [] := by
  rw [List.filter_eq_nil_iff]
  intro diagnostic among
  obtain ⟨position, other, reached, raised⟩ := exists_reached_of_mem_recorded bound returned among
  rw [decide_eq_true_iff, Listing.place_of_diagnose? raised, Option.some.injEq]
  intro same
  have places : (listing.tokens.map (·.place))[position]? =
      (listing.tokens.map (·.place))[index]? := by
    rw [List.getElem?_map, List.getElem?_map, reached.1, found, Option.map_some, Option.map_some,
      same]
  have inside : position < (listing.tokens.map (·.place)).length := by
    rw [List.length_map]
    exact (List.getElem?_eq_some_iff.mp reached.1).1
  cases (List.getElem?_inj inside (List.pairwise_map.mpr distinct)).mp places
  cases found.symm.trans reached.1
  rw [Listing.diagnose?_of_accepted valid (spared reached)] at raised
  cases raised

end Annotator

/-! ## Uses of labels -/

instance (target : Target) (token : Token) : Decidable (token.Malformed target) :=
  inferInstanceAs (Decidable (_ ∧ _))

/-- A token whose text is the name of a label is no unknown mnemonic. -/
theorem Token.malformed_of_declared {target : Target} {tokens : List Token} {token : Token}
    (declared : Declares tokens token.text) (rejected : token.Rejected target tokens) :
    token.Malformed target := by
  rcases rejected with malformed | ⟨_, _, undeclared⟩
  · exact malformed
  · exact absurd declared undeclared

/-- What is wrong with a register that the target does not have. -/
theorem Token.Objection.eq_of_register {target : Target} {token : Token} {problem : Problem}
    (objection : token.Objection target problem) (register : token.kind = .register) :
    problem = .malformedNumber token.text "register"
      (some ("register indices range from 0 to " ++ Decimal.text target.registerBound)) := by
  cases objection with
  | register => rfl
  | spelling other | range other | mnemonic other => cases register.symm.trans other

namespace Session

variable {session : Session} {source file : String} {index : Nat} {token : Token}

/-- A step without a fault takes no number with too many digits up to a token that it reaches. -/
theorem within_of_reached (reachable : session.Reachable) (valid : session.target.Valid)
    (returned : (session.assemble source file).fault = none)
    (reached : ∀ earlier ∈ (Listing.scan source file).tokens.take (index + 1),
      earlier.kind ≠ .invalid) :
    ∀ earlier ∈ (Listing.scan source file).tokens.take (index + 1),
      earlier.kind ≠ .invalid ∧
        ¬ earlier.ExceedsDigits session.target (Listing.scan source file).tokens := by
  intro earlier member
  refine ⟨reached earlier member, ?_⟩
  obtain ⟨position, found⟩ := List.mem_iff_getElem?.mp member
  rw [List.getElem?_take, Option.ite_none_right_eq_some] at found
  have within := (fault_assemble_iff valid (writable_limit reachable)).mp returned
  apply within position earlier ⟨found.2, ?_⟩
  intro before among
  exact reached before ((List.take_prefix_take_left (Nat.le_of_lt found.1)).subset among)

/-- A word that is the name of a label, declared before it or after it, gets no diagnostic, unless
it is spelled like a register that the target does not have.  Such a word gets the diagnostic of any
such register, if it is reached and fewer than a hundred tokens have got theirs. -/
theorem assemble_spares_labels (reachable : session.Reachable)
    (returned : (session.assemble source file).fault = none)
    (found : (Listing.scan source file).tokens[index]? = some token)
    (word : token.kind = .instruction ∨ token.kind = .register)
    (declared : Declares (Listing.scan source file).tokens token.text) :
    let scanned := Listing.scan source file
    let diagnostics := (session.assemble source file).session.report.diagnostics.toList
    (token.Malformed session.target → token.kind = .register) ∧
    diagnostics.filter (·.place = some token.place) =
      if token.Malformed session.target ∧
          (∀ earlier ∈ scanned.tokens.take index, earlier.kind ≠ .invalid) ∧
          (scanned.tokens.take index).countP (·.Rejected session.target scanned.tokens) < 100 then
        [⟨.malformedNumber token.text "register"
            (some ("register indices range from 0 to " ++
              Decimal.text session.target.registerBound)),
          some token.place, scanned.line? token.line⟩]
      else [] := by
  intro scanned diagnostics
  have valid := valid_of_returned source file returned
  have visible : token.kind ≠ .invalid := by
    rcases word with instruction | register <;> simp [*]
  have register (malformed : token.Malformed session.target) : token.kind = .register := by
    rcases word with instruction | register
    · rcases malformed.1 with immediate | register <;> simp_all
    · exact register
  refine ⟨register, ?_⟩
  by_cases spoiled : token.Malformed session.target ∧
      ∀ earlier ∈ scanned.tokens.take index, earlier.kind ≠ .invalid
  · obtain ⟨malformed, reached⟩ := spoiled
    have valid_so_far : ∀ earlier ∈ scanned.tokens.take (index + 1), earlier.kind ≠ .invalid := by
      rw [List.take_add_one, found, List.forall_mem_append]
      exact ⟨reached, by simpa using visible⟩
    obtain ⟨problem, objection, about⟩ := filter_place_diagnostics valid reachable found
      (.inl malformed) (within_of_reached reachable valid returned valid_so_far)
    rw [objection.eq_of_register (register malformed)] at about
    exact about.trans
      (if_congr ⟨fun room => ⟨malformed, reached, room⟩, fun all => all.2.2⟩ rfl rfl)
  · have bound : Decimal.Writable session.annotator.target.registerBound :=
      Target.writable_of_valid valid
    rw [(assemble_of_valid source file valid).1] at returned
    have silent := Annotator.filter_place_recorded_of_spared bound returned
      (Listing.pairwise_place_ne_scan source file) found visible fun reached rejected =>
        spoiled ⟨Token.malformed_of_declared declared rejected, reached.2⟩
    rw [← diagnostics_assemble valid] at silent
    rw [if_neg fun both => spoiled ⟨both.1, both.2.1⟩]
    exact silent

/-- A source that uses two labels, one of which is spelled like a register beyond the bound. -/
def useText : String := "r99: jmp r99 r3\nr3:"

/-- The use of the label that could name a register. -/
def soundUse : Token :=
  { kind := .register, text := "r3", offset := 13, column := 14 }

/-- The use of the other label. -/
def malformedUse : Token :=
  { kind := .register, text := "r99", offset := 9, column := 10 }

theorem assemble_spares_labels_sample :
    sample.Reachable ∧ (sample.assemble useText unnamedFile).fault = none ∧
      (Listing.scan useText unnamedFile).tokens[3]? = some soundUse ∧
      Declares (Listing.scan useText unnamedFile).tokens soundUse.text ∧
      (sample.assemble useText unnamedFile).session.report.diagnostics.toList.filter
        (·.place = some soundUse.place) = [] ∧
      (Listing.scan useText unnamedFile).tokens[2]? = some malformedUse ∧
      Declares (Listing.scan useText unnamedFile).tokens malformedUse.text ∧
      (sample.assemble useText unnamedFile).session.report.diagnostics.toList.filter
        (·.place = some malformedUse.place) =
          [⟨.malformedNumber "r99" "register" (some "register indices range from 0 to 31"),
            some ⟨unnamedFile, 1, 10⟩, some "r99: jmp r99 r3"⟩] := by
  have returned : (sample.assemble useText unnamedFile).fault = none := by decide +kernel
  have found : (Listing.scan useText unnamedFile).tokens[3]? = some soundUse := by decide +kernel
  have found' : (Listing.scan useText unnamedFile).tokens[2]? = some malformedUse := by
    decide +kernel
  have declared : Declares (Listing.scan useText unnamedFile).tokens soundUse.text := by
    decide +kernel
  have declared' : Declares (Listing.scan useText unnamedFile).tokens malformedUse.text := by
    decide +kernel
  have silent := (assemble_spares_labels reachable_sample returned found (.inr rfl) declared).2
  have about := (assemble_spares_labels reachable_sample returned found' (.inr rfl) declared').2
  refine ⟨reachable_sample, returned, found, declared, silent.trans ?_, found', declared',
    about.trans ?_⟩ <;> decide +kernel

/-- The use of a declared label can be an error. -/
theorem exists_diagnostic_of_declared :
    ∃ token ∈ (Listing.scan "r99:\njmp r99" unnamedFile).tokens, token.kind = .register ∧
      Declares (Listing.scan "r99:\njmp r99" unnamedFile).tokens token.text ∧
      sample.Reachable ∧ (sample.assemble "r99:\njmp r99" unnamedFile).fault = none ∧
      (sample.assemble "r99:\njmp r99" unnamedFile).session.report.diagnostics.toList.filter
        (·.place = some token.place) ≠ [] := by
  refine ⟨{ kind := .register, text := "r99", offset := 9, line := 2, column := 5 }, ?_, rfl, ?_,
    reachable_sample, ?_, ?_⟩ <;> decide +kernel

end Session
end RegisterAssembly
