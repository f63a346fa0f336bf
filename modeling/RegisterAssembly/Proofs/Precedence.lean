import RegisterAssembly.Proofs.Environment
import RegisterAssembly.Proofs.Exit

/-!
# The precedence of the given register bound

A register bound among the arguments goes before the one in the environment: all that the
environment may hold, or nothing, comes to the same, as long as a target can be made of it.  But the
environment is read first, and what cannot be used there ends the run before the given bound is
looked at.  That outcome is not the one without the environment.  Only if a number with too many
digits is refused, in the environment and in the source alike, may the two be the same.
-/

namespace RegisterAssembly

namespace Text

theorem head?_toList_append {front : String} {c : Char} (begins : front.toList.head? = some c)
    (back : String) : (front ++ back).toList.head? = some c := by
  rw [String.toList_append, List.head?_append, begins, Option.some_or]

end Text

namespace Target

/-- What the environment may hold for a target to be made of it. -/
def Usable (environment : Option String) : Prop :=
  ∃ target, ofEnvironment environment = .ok target

theorem eq_of_check {target checked : Target} (accepted : target.check = .ok checked) :
    checked = target := by
  rw [check] at accepted
  split at accepted <;> cases accepted
  rfl

/-- The environment has no say in anything but the register bound. -/
theorem instructions_of_ofEnvironment {environment : Option String} {target : Target}
    (accepted : ofEnvironment environment = .ok target) : target.instructions = .standard := by
  cases environment with
  | none =>
      cases accepted
      dsimp only
  | some text =>
      simp only [ofEnvironment] at accepted
      split at accepted
      · cases accepted
        dsimp only
      · split at accepted
        · cases accepted
        · cases accepted
        · rw [eq_of_check accepted]

theorem head?_message_boundText (text : String) :
    (SettingError.boundText text).message.toList.head? = some 'R' :=
  Text.head?_toList_append (Text.head?_toList_append (Text.head?_toList_append (by decide) _) _) _

theorem head?_message_boundRange (bound : Int) :
    (SettingError.boundRange bound).message.toList.head? = some 'm' :=
  Text.head?_toList_append (Text.head?_toList_append (Text.head?_toList_append (by decide) _) _) _

theorem fault_of_ofSetting {error : SettingError} {fault : Fault}
    (raised : Fault.ofSetting error = fault) :
    (∃ limit, fault = .digits limit) ∨ fault = .diagnostic { problem := .setting error none } := by
  rw [Fault.ofSetting] at raised
  split at raised
  · exact .inr raised.symm
  · exact .inl ⟨_, raised.symm⟩

/-- The environment is refused because of a number with too many digits or of a setting, and the
message about the latter begins with a letter. -/
theorem fault_of_ofEnvironment {environment : Option String} {fault : Fault}
    (refused : ofEnvironment environment = .error fault) :
    (∃ limit, fault = .digits limit) ∨
      ∃ error, fault = .diagnostic { problem := .setting error none } ∧
        ∃ c, c.isAlpha ∧ error.message.toList.head? = some c := by
  cases environment with
  | none => cases refused
  | some text =>
      simp only [ofEnvironment] at refused
      split at refused
      · cases refused
      · split at refused
        · cases refused
          exact .inl ⟨_, rfl⟩
        · refine (fault_of_ofSetting (Except.error.inj refused)).imp_right fun raised => ?_
          exact ⟨_, raised, 'R', by decide, head?_message_boundText text⟩
        · rw [check] at refused
          split at refused
          · cases refused
          · refine (fault_of_ofSetting (Except.error.inj refused)).imp_right fun raised => ?_
            exact ⟨_, raised, 'm', by decide, head?_message_boundRange _⟩

end Target

namespace Command

variable {host : Host} {disk : Disk} {environment : Option String} {arguments : List String}
  {settings : Settings} {request : Request} {verbose : Bool}

/-! ## Faults of the settings and faults of the file -/

theorem exists_toList_messageText (host : Host) {text : String} {c : Char}
    (visible : c ≠ Text.escape) (begins : text.toList.head? = some c) :
    ∃ rest, (messageText host ("Error: " ++ text)).toList = "Error: ".toList ++ c :: rest := by
  obtain ⟨rest, spelled⟩ := List.head?_eq_some_iff.mp begins
  have free : Text.escape ∉ "Error: ".toList ++ [c] := by
    rw [List.mem_append, List.mem_singleton, not_or]
    exact ⟨by decide, visible.symm⟩
  refine ⟨host.plain rest ++ ['\n'], ?_⟩
  rw [messageText, String.toList_append, String.toList_ofList, String.toList_append, spelled,
    List.append_cons, host.plain_append free, List.append_assoc, List.append_assoc]
  rfl

theorem head_eq_of_messageText_eq {left right : String} {c c' : Char} (visible : c ≠ Text.escape)
    (visible' : c' ≠ Text.escape) (begins : left.toList.head? = some c)
    (begins' : right.toList.head? = some c')
    (same : messageText host ("Error: " ++ left) = messageText host ("Error: " ++ right)) :
    c = c' := by
  obtain ⟨rest, shown⟩ := exists_toList_messageText host visible begins
  obtain ⟨rest', shown'⟩ := exists_toList_messageText host visible' begins'
  rw [same, shown', List.append_cancel_left_eq] at shown
  exact (List.cons.inj shown).1.symm

theorem head?_message_file (fault : FileFault) : fault.message.toList.head? = some '[' :=
  Text.head?_toList_append (Text.head?_toList_append (Text.head?_toList_append
    (Text.head?_toList_append (Text.head?_toList_append (by decide) _) _) _) _) _

theorem head?_message_encoding (defect : Text.EncodingDefect) :
    defect.message.toList.head? = some '\'' :=
  Text.head?_toList_append (Text.head?_toList_append (Text.head?_toList_append (by decide) _) _) _

/-- A message about a file for which the command was misused begins with a bracket or a quote. -/
theorem explain_of_read {path trace : String} {fault : Fault} {activity : Option String}
    (unreadable : disk.read path = .error fault)
    (misused : (explain host trace fault verbose activity).1 = .misused) :
    (explain host trace fault verbose activity).2 =
        messageText host ("Error: " ++ fault.message) ∧
      ∃ c, c.isAlpha = false ∧ c ≠ Text.escape ∧ fault.message.toList.head? = some c := by
  rw [Disk.read] at unreadable
  cases found : disk.find path with
  | nothing | locked =>
      rw [found] at unreadable
      cases unreadable
      exact ⟨rfl, '[', by decide, by decide, head?_message_file _⟩
  | file bytes =>
      simp only [found] at unreadable
      split at unreadable
      · cases unreadable
        exact ⟨rfl, '\'', by decide, by decide, head?_message_encoding _⟩
      · cases unreadable
  | _ =>
      rw [found] at unreadable
      cases unreadable
      cases misused

theorem eventsText_reading (path : String) :
    eventsText verbose [.reading path] =
      if verbose then eventText true (.reading path) else "" := by
  change "" ++ eventText verbose (.reading path) = _
  rw [String.empty_append]
  cases verbose <;> rfl

/-- A file that cannot be read is not reported like a setting that cannot be used. -/
theorem failure_reading_ne (attempt before : Attempt) {path : String} {fault : Fault}
    {error : SettingError} {c : Char}
    (unreadable : disk.read path = .error fault) (letter : c.isAlpha)
    (begins : error.message.toList.head? = some c) :
    failure host attempt verbose [.reading path] fault ≠
      failure host before verbose [] (.diagnostic { problem := .setting error none }) := by
  intro same
  obtain ⟨told, c', mark, visible', begins'⟩ :=
    explain_of_read unreadable (congrArg Outcome.exit same)
  have visible : c ≠ Text.escape := by
    rintro rfl
    exact absurd letter (by decide)
  have written : eventsText verbose [.reading path] ++
        messageText host ("Error: " ++ fault.message) =
      "" ++ messageText host ("Error: " ++ error.message) := by
    rw [← told]
    exact congrArg Outcome.stderr same
  rw [eventsText_reading, String.empty_append] at written
  split at written
  · -- the first event is told before the file is found to be unreadable
    have severity : "INFO".toList.head? = some 'I' := by decide
    have first : (eventText true (.reading path)).toList.head? = some 'I' :=
      Text.head?_toList_append (Text.head?_toList_append (Text.head?_toList_append severity _) _) _
    have started := Text.head?_toList_append first
      (messageText host ("Error: " ++ fault.message))
    obtain ⟨rest, shown⟩ := exists_toList_messageText host visible begins
    rw [written, shown] at started
    cases started
  · rw [String.empty_append] at written
    obtain rfl := head_eq_of_messageText_eq visible' visible begins' begins written
    rw [mark] at letter
    cases letter

/-- A file is not assembled for a valid target because it cannot be read, which is all that was
told until then, or because of a number with too many digits. -/
theorem fault_assembleFile {session : Session} {path : String} {fault : Fault}
    (valid : session.target.Valid) (failed : (session.assembleFile disk path).fault = some fault) :
    (disk.read (FilePath.normal path) = .error fault ∧
      (session.assembleFile disk path).events = [.reading (FilePath.normal path)]) ∨
      ∃ limit, fault = .digits limit := by
  cases read : disk.read (FilePath.normal path) with
  | error unread =>
      simp only [Session.assembleFile, read, Option.some.injEq] at failed ⊢
      exact .inl ⟨congrArg Except.error failed, trivial⟩
  | ok chars =>
      rw [assembleFile_of_read read] at failed
      exact .inr (Session.digits_of_fault_assemble valid failed)

/-- With a target, the command never ends as it does without one because of a setting. -/
theorem assemble_ne_failure {target : Target} {error : SettingError} {c : Char}
    (given : Command.target settings environment = .ok target) (valid : target.Valid)
    (letter : c.isAlpha) (begins : error.message.toList.head? = some c) (before : Attempt) :
    assemble host disk environment settings ≠
      .ok (failure host before settings.verbose []
        (.diagnostic { problem := .setting error none })) := by
  intro same
  let session : Session := { target := target }
  have valid' : session.target.Valid := valid
  simp only [assemble, given, make_session valid] at same
  split at same
  · rename_i fault failed
    rw [Except.ok.injEq] at same
    rcases fault_assembleFile valid' failed with ⟨unreadable, events⟩ | ⟨limit, rfl⟩
    · rw [events] at same
      exact failure_reading_ne _ before unreadable letter begins same
    · cases congrArg Outcome.exit same
  · split at same
    · cases same
    · rw [Except.ok.injEq, report] at same
      split at same <;> cases congrArg Outcome.exit same

/-! ## The given bound and the environment -/

/-- Arguments with a register bound among them. -/
def GivesBound (arguments : List String) : Prop :=
  ∃ sorted value, sortArguments false arguments = .ok sorted ∧
    .maxRegister value ∈ sorted.options

theorem Arguments.bound_ne_none {sorted : Arguments} {value : String}
    (member : .maxRegister value ∈ sorted.options) : sorted.bound ≠ .ok none := by
  intro unbound
  simp only [Arguments.bound] at unbound
  split at unbound
  · rename_i last
    rw [List.getLast?_eq_none_iff, List.filterMap_eq_nil_iff] at last
    cases last _ member
  · split at unbound
    · cases unbound
    · split at unbound <;> cases unbound

theorem exists_bound_of_readRequest (gives : GivesBound arguments)
    (request : Host.standard.readRequest disk arguments = .ok (.assemble settings)) :
    ∃ bound, settings.bound = some bound := by
  obtain ⟨sorted, value, read, member⟩ := gives
  simp only [Host.standard, readRequest, read, Arguments.request] at request
  split at request
  · rename_i early
    rw [Except.ok.injEq] at request
    exact absurd (request ▸ early) (early?_ne_assemble sorted settings)
  · split at request
    · cases request
    · rename_i found given
      split at request
      · cases request
      · split at request
        · cases request
          cases found with
          | none => exact absurd given (Arguments.bound_ne_none member)
          | some bound => exact ⟨bound, rfl⟩
        · cases request

theorem target_of_bound {bound : Int} (given : settings.bound = some bound)
    (usable : Target.Usable environment) :
    target settings environment = .ok { registerBound := bound } := by
  obtain ⟨fallback, accepted⟩ := usable
  rw [target_eq accepted, Settings.targetFrom, given, Option.getD_some,
    Target.instructions_of_ofEnvironment accepted]

/-- With a bound among the settings, the command makes the same of all that a target can be made of
in the environment. -/
theorem run_eq_of_usable (accepted : host.readRequest disk arguments = .ok (.assemble settings))
    {bound : Int} (given : settings.bound = some bound) {first second : Option String}
    (usable : Target.Usable first) (usable' : Target.Usable second) :
    run host disk first arguments = run host disk second arguments := by
  rw [run_of_request accepted, run_of_request accepted, assemble, assemble,
    target_of_bound given usable, target_of_bound given usable']

/-- A given register bound goes before the environment, which still has to be usable.  If the
arguments ask for a text about the command, the environment is not read.  Otherwise, with a bound
among the settings, all usable environments lead to the same outcome, whatever file is assembled,
and one that cannot be used ends the run with the fault that it has and without a listing.  That is
not the outcome for a usable environment, unless a number with too many digits is refused in
both. -/
theorem run_bounded (accepted : host.readRequest disk arguments = .ok request) :
    ((∀ settings, request ≠ .assemble settings) →
      ∀ first second, run host disk first arguments = run host disk second arguments) ∧
    ∀ settings bound, request = .assemble settings → settings.bound = some bound →
      (∀ first second, Target.Usable first → Target.Usable second →
        run host disk first arguments = run host disk second arguments) ∧
      ∀ refused fault, Target.ofEnvironment refused = .error fault →
        run host disk refused arguments =
          .ok (failure host (.configure refused) settings.verbose [] fault) ∧
        ∀ usable, Target.Usable usable →
          run host disk refused arguments = run host disk usable arguments →
            ∃ limit, fault = .digits limit := by
  constructor
  · intro text first second
    cases request with
    | help | version => simp only [run, accepted]
    | assemble settings => exact absurd rfl (text settings)
  rintro settings bound rfl given
  refine ⟨fun first second => run_eq_of_usable accepted given, ?_⟩
  intro environment fault refused
  rw [run_of_request accepted, assemble_of_refused refused]
  refine ⟨rfl, ?_⟩
  intro usable good same
  rw [run_of_request accepted] at same
  rcases Target.fault_of_ofEnvironment refused with digits | ⟨error, rfl, c, letter, begins⟩
  · exact digits
  · have valid : Target.Valid { registerBound := bound } := host.range_of_bound accepted given
    exact absurd same.symm
      (assemble_ne_failure (target_of_bound given good) valid letter begins _)

theorem run_bounded_sample :
    GivesBound ["--max-register=7", "./prog.s"] ∧
      run .standard sampleDirectory.toDisk (some "0x10") ["--max-register=7", "./prog.s"] =
        run .standard sampleDirectory.toDisk none ["--max-register=7", "./prog.s"] ∧
      run .standard sampleDirectory.toDisk (some "4294967296") ["--max-register=7", "./prog.s"] ≠
        run .standard sampleDirectory.toDisk none ["--max-register=7", "./prog.s"] := by
  have accepted : Host.standard.readRequest sampleDirectory.toDisk
      ["--max-register=7", "./prog.s"] = .ok (.assemble sampleSettings) := by decide +kernel
  have gives : GivesBound ["--max-register=7", "./prog.s"] :=
    ⟨{ options := [.maxRegister "7"], operands := ["./prog.s"] }, "7", by decide +kernel, by decide⟩
  obtain ⟨bound, given⟩ := exists_bound_of_readRequest gives accepted
  have usable : Target.Usable (some "0x10") := ⟨{ registerBound := 16 }, by decide +kernel⟩
  have unset : Target.Usable none := ⟨{}, rfl⟩
  have refused : Target.ofEnvironment (some "4294967296") =
      .error (.diagnostic { problem := .setting (.boundRange 4294967296) none }) := by
    decide +kernel
  obtain ⟨same, ends⟩ := (run_bounded accepted).2 _ bound rfl given
  refine ⟨gives, same (some "0x10") none usable unset, ?_⟩
  intro alike
  obtain ⟨limit, digits⟩ := (ends _ _ refused).2 none unset alike
  cases digits

/-- A given register bound does not go before everything in the environment: with one that is no
literal there, the run ends before the given bound counts. -/
theorem exists_overridden_refused :
    ∃ arguments, GivesBound arguments ∧
      run .standard Target.emptyFileDisk none arguments =
        .ok { exit := .success, stdout := "TokType: END_OF_INPUT -  (l: 0) (mem: 0)\n" } ∧
      run .standard Target.emptyFileDisk (some "lots") arguments =
        .ok
          { exit := .misused
            stderr := "Error: REGASM_MAX_REGISTER must be an integer, got 'lots'\n" } :=
  ⟨["--max-register", "7", "a.asm"],
    ⟨{ options := [.maxRegister "7"], operands := ["a.asm"] }, "7", by decide +kernel, by decide⟩,
    by decide +kernel, by decide +kernel⟩

end Command
end RegisterAssembly
