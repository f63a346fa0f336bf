import RegisterAssembly.Command.Run
import RegisterAssembly.Proofs.Interruption

/-!
# The register bound in the environment

The environment may hold a register bound: a literal, with white space around it or not.  A text
that is no literal and a number that is no word are reported as errors of the settings, and the
command says that it was misused.  A number with more decimal digits than are converted is not
reported so.  It is refused while it is read or, if it is no decimal literal, while the message
about it is written, and the command takes that for a failure of its own.
-/

namespace RegisterAssembly

namespace Text

/-- A text without the characters of a class at its ends. -/
structure Strips (isBlank : Char → Bool) (text core : List Char) : Prop where
  parts : ∃ before after, text = before ++ (core ++ after) ∧ (∀ c ∈ before, isBlank c) ∧
    ∀ c ∈ after, isBlank c
  head_visible : ∀ c, core.head? = some c → isBlank c = false
  last_visible : ∀ c, core.getLast? = some c → isBlank c = false

variable {isBlank : Char → Bool} {text core : List Char}

theorem dropWhile_of_head? {chars : List Char}
    (visible : ∀ c, chars.head? = some c → isBlank c = false) :
    chars.dropWhile isBlank = chars := by
  cases chars with
  | nil => rfl
  | cons c chars => rw [List.dropWhile_cons_of_neg (by simp [visible c rfl])]

theorem visible_of_head?_dropWhile {chars : List Char} {c : Char}
    (head : (chars.dropWhile isBlank).head? = some c) : isBlank c = false := by
  have stopped := List.head?_dropWhile_not isBlank chars
  rw [head] at stopped
  simpa using stopped

theorem trim_of_strips (strips : Strips isBlank text core) : trim isBlank text = core := by
  obtain ⟨⟨before, after, rfl, blank, blank'⟩, head, last⟩ := strips
  have dropped : (before ++ (core ++ after)).dropWhile isBlank =
      if core = [] then [] else core ++ after := by
    rw [List.dropWhile_append_of_pos blank]
    cases core with
    | nil => simpa using blank'
    | cons c core =>
        rw [if_neg (by simp)]
        exact dropWhile_of_head? fun next found => head next found
  rw [trim, dropped]
  split
  · rename_i empty
    rw [empty]
    rfl
  · rw [List.reverse_append, List.dropWhile_append_of_pos (by simpa using blank'),
      dropWhile_of_head? (by simpa using last), List.reverse_reverse]

theorem strips_trim (isBlank : Char → Bool) (text : List Char) :
    Strips isBlank text (trim isBlank text) := by
  have parted := List.takeWhile_append_dropWhile (p := isBlank) (l := text)
  have parted' := congrArg List.reverse
    (List.takeWhile_append_dropWhile (p := isBlank) (l := (text.dropWhile isBlank).reverse))
  rw [List.reverse_append, List.reverse_reverse, ← trim] at parted'
  refine ⟨⟨text.takeWhile isBlank, ((text.dropWhile isBlank).reverse.takeWhile isBlank).reverse,
    ?_, ?_, ?_⟩, ?_, ?_⟩
  · rw [parted', parted]
  · exact fun c member => List.mem_takeWhile_imp member
  · intro c member
    exact List.mem_takeWhile_imp (List.mem_reverse.mp member)
  · intro c head
    have first : (text.dropWhile isBlank).head? = some c := by
      obtain ⟨rest, begins⟩ := List.head?_eq_some_iff.mp head
      rw [← parted', begins]
      rfl
    exact visible_of_head?_dropWhile first
  · intro c last
    rw [trim, List.getLast?_reverse] at last
    exact visible_of_head?_dropWhile last

theorem strips_self (visible : ∀ c ∈ text, isBlank c = false) : Strips isBlank text text where
  parts := ⟨[], [], by simp⟩
  head_visible c head := visible c (List.mem_of_head? head)
  last_visible c last := visible c (List.mem_of_getLast? last)

end Text

/-- A spelling that is too long to be read denotes a number that is too long to be written. -/
theorem Literal.not_writable_of_overlong {text : List Char} {value : Nat} (long : Overlong text)
    (spelled : Spells text value) : ¬ Decimal.Writable value := by
  obtain ⟨literal, read, rfl⟩ := exists_read_of_spells spelled
  rw [read?_of_overlong long] at read
  cases read
  obtain ⟨nonzero, all, count⟩ := long
  cases text with
  | nil => simp at count
  | cons first digits =>
      rw [List.head?_cons, ne_eq, Option.some.injEq] at nonzero
      have large {count : Nat} (many : count ≤ digits.length) :
          Nat.pow 10 count ≤ positional 10 (first :: digits) 0 :=
        Nat.le_trans (Nat.pow_le_pow_right (by decide) many) (pow_le_positional nonzero all)
      rw [Decimal.Writable, Nat.not_lt]
      unfold Decimal.writingLimit
      exact large (Nat.le_of_lt_succ count)

namespace Target

variable {text : String} {core : List Char} {value : Nat}

/-! ## Targets from the environment -/

section Strips

variable (nonempty : text ≠ "") (strips : Text.Strips Text.isWhiteSpace text.toList core)

include nonempty strips

theorem ofEnvironment_eq :
    ofEnvironment (some text) =
      match Literal.evaluate core with
      | .error limit => .error (.digits limit)
      | .ok none => .error (.ofSetting (.boundText text))
      | .ok (some bound) => check { registerBound := bound } := by
  have filled : ¬ text.isEmpty := by simpa using nonempty
  obtain rfl := Text.trim_of_strips strips
  exact if_neg filled

theorem ofEnvironment_of_word (spelled : Literal.Spells core value) (small : value ≤ wordMax) :
    ofEnvironment (some text) = .ok { registerBound := value } := by
  have short : ¬ Literal.Overlong core := by
    intro long
    exact Nat.not_lt_of_le small (Literal.wordMax_lt_of_overlong long spelled)
  have valid : Valid { registerBound := value } := ⟨Int.natCast_nonneg _, Int.ofNat_le.mpr small⟩
  rw [ofEnvironment_eq nonempty strips, Literal.evaluate_of_spells spelled short]
  exact if_pos valid

theorem ofEnvironment_of_not_spells (unspelled : ¬ ∃ value, Literal.Spells core value) :
    ofEnvironment (some text) =
      .error (.diagnostic { problem := .setting (.boundText text) none }) := by
  rw [ofEnvironment_eq nonempty strips, Literal.evaluate_of_not_spells unspelled]
  rfl

theorem ofEnvironment_of_large (spelled : Literal.Spells core value) (large : wordMax < value)
    (writable : Decimal.Writable value) :
    ofEnvironment (some text) =
      .error (.diagnostic { problem := .setting (.boundRange value) none }) := by
  have short : ¬ Literal.Overlong core := by
    intro long
    exact Literal.not_writable_of_overlong long spelled writable
  have invalid : ¬ Valid { registerBound := value } := by
    intro valid
    exact Nat.not_le_of_lt large (Int.ofNat_le.mp valid.2)
  rw [ofEnvironment_eq nonempty strips, Literal.evaluate_of_spells spelled short]
  exact (if_neg invalid).trans (congrArg Except.error (if_pos writable))

theorem ofEnvironment_of_not_writable (spelled : Literal.Spells core value)
    (unwritable : ¬ Decimal.Writable value) :
    ofEnvironment (some text) =
      .error (.digits (if Literal.Overlong core then .reading core.length else .writing)) := by
  rw [ofEnvironment_eq nonempty strips]
  by_cases long : Literal.Overlong core
  · rw [Literal.evaluate_of_overlong long, if_pos long]
  · have invalid : ¬ Valid { registerBound := value } := by
      intro valid
      exact unwritable (writable_of_valid valid)
    rw [Literal.evaluate_of_spells spelled long, if_neg long]
    exact (if_neg invalid).trans (congrArg Except.error (if_neg unwritable))

end Strips

end Target

/-! ## The command -/

namespace Command

/-- With what the environment holds, the command ends with an exit code and prints no listing,
whatever file it is to assemble and whatever its host. -/
def Ends (environment : Option String) (code : ExitCode) : Prop :=
  ∀ (host : Host) (disk : Disk) (arguments : List String) (settings : Settings),
    host.readRequest disk arguments = .ok (.assemble settings) →
      ∃ outcome, run host disk environment arguments = .ok outcome ∧ outcome.exit = code ∧
        outcome.stdout = ""

/-- The environment is read before the file. -/
theorem ends_of_error {environment : Option String} {fault : Fault} {code : ExitCode}
    (refused : Target.ofEnvironment environment = .error fault)
    (explained : ∀ (host : Host) (trace : String) (verbose : Bool),
      (explain host trace fault verbose (some "Tokenize")).1 = code) :
    Ends environment code := by
  intro host disk arguments settings request
  refine ⟨failure host (.configure environment) settings.verbose [] fault, ?_,
    explained host _ settings.verbose, rfl⟩
  rw [run_of_request request, assemble_of_refused refused]

theorem ends_of_setting {environment : Option String} {error : SettingError}
    (refused : Target.ofEnvironment environment =
      .error (.diagnostic { problem := .setting error none })) : Ends environment .misused :=
  ends_of_error refused fun _ _ _ => rfl

theorem ends_of_digits {environment : Option String} {limit : DigitLimit}
    (refused : Target.ofEnvironment environment = .error (.digits limit)) :
    Ends environment .internal :=
  ends_of_error refused fun _ _ _ => rfl

end Command

namespace Target

/-- What comes of the register bound in the environment.  Without one, or with an empty one, the
target is the standard machine.  Of any other text all but the white space around it counts.  If
that is a literal for a word, this is the bound.  If it is no literal or denotes a larger number,
the error is one of the settings, and the command was misused, unless the number has too many
decimal digits: then that is the error, and the command has failed. -/
theorem ofEnvironment_decides (environment : Option String) :
    (environment = none ∨ environment = some "" → ofEnvironment environment = .ok {}) ∧
    ∀ text : String, environment = some text → text ≠ "" →
      ∃ core, Text.Strips Text.isWhiteSpace text.toList core ∧
        (∀ value, Literal.Spells core value → value ≤ wordMax →
          ofEnvironment environment = .ok { registerBound := value }) ∧
        ((¬ ∃ value, Literal.Spells core value) →
          ofEnvironment environment =
            .error (.diagnostic { problem := .setting (.boundText text) none }) ∧
          Command.Ends environment .misused) ∧
        (∀ value, Literal.Spells core value → wordMax < value → Decimal.Writable value →
          ofEnvironment environment =
            .error (.diagnostic { problem := .setting (.boundRange value) none }) ∧
          Command.Ends environment .misused) ∧
        ∀ value, Literal.Spells core value → ¬ Decimal.Writable value →
          ofEnvironment environment =
            .error (.digits (if Literal.Overlong core then .reading core.length else .writing)) ∧
          Command.Ends environment .internal := by
  constructor
  · rintro (rfl | rfl) <;> rfl
  rintro text rfl nonempty
  have strips := Text.strips_trim Text.isWhiteSpace text.toList
  refine ⟨_, strips, ?_, ?_, ?_, ?_⟩
  · intro value spelled small
    exact ofEnvironment_of_word nonempty strips spelled small
  · intro unspelled
    have refused := ofEnvironment_of_not_spells nonempty strips unspelled
    exact ⟨refused, Command.ends_of_setting refused⟩
  · intro value spelled large writable
    have refused := ofEnvironment_of_large nonempty strips spelled large writable
    exact ⟨refused, Command.ends_of_setting refused⟩
  · intro value spelled unwritable
    have refused := ofEnvironment_of_not_writable nonempty strips spelled unwritable
    exact ⟨refused, Command.ends_of_digits refused⟩

/-- A disk that has an empty file in every place. -/
def emptyFileDisk : Disk where
  find _ := .file []

theorem ofEnvironment_decides_padded :
    ofEnvironment (some "\t0x1F\n") = .ok { registerBound := 31 } ∧
      Command.Host.standard.readRequest emptyFileDisk ["a.asm"] =
        .ok (.assemble ⟨none, false, false, "a.asm"⟩) ∧
      ∃ outcome, Command.run .standard emptyFileDisk (some " 4294967296 ") ["a.asm"] = .ok outcome ∧
        outcome.exit = .misused := by
  obtain ⟨core, strips, accepted, _⟩ :=
    (ofEnvironment_decides (some "\t0x1F\n")).2 _ rfl (by decide)
  obtain ⟨core', strips', _, _, refused, _⟩ :=
    (ofEnvironment_decides (some " 4294967296 ")).2 _ rfl (by decide)
  have spelled : Literal.Spells core 31 := by
    rw [← Text.trim_of_strips strips]
    exact (Literal.evaluate_eq_some_iff.mp (by decide +kernel)).1
  have spelled' : Literal.Spells core' (wordMax + 1) := by
    rw [← Text.trim_of_strips strips']
    exact (Literal.evaluate_eq_some_iff.mp (by decide +kernel)).1
  have request : Command.Host.standard.readRequest emptyFileDisk ["a.asm"] =
      .ok (.assemble ⟨none, false, false, "a.asm"⟩) := by decide +kernel
  obtain ⟨outcome, ran, exit, _⟩ :=
    (refused _ spelled' (Nat.lt_succ_self _) (by decide +kernel)).2 _ _ _ _ request
  exact ⟨accepted 31 spelled (by decide), request, outcome, ran, exit⟩

/-- Not every unusable text is an error of the settings: there is a number with too many digits. -/
theorem exists_digits_ofEnvironment :
    ∃ digits : List Char, digits = List.replicate 4301 '9' ∧
      (¬ ∃ error, ofEnvironment (some (String.ofList digits)) =
        .error (.diagnostic { problem := .setting error none })) ∧
      ofEnvironment (some (String.ofList digits)) = .error (.digits (.reading 4301)) ∧
      Command.Ends (some (String.ofList digits)) .internal := by
  have long : Literal.Overlong (List.replicate 4301 '9') := Session.overlong_replicate (by decide)
  obtain ⟨value, spelled⟩ := Literal.exists_spells_of_overlong long
  have nonempty : String.ofList (List.replicate 4301 '9') ≠ "" := by
    rw [ne_eq, ← String.toList_eq_nil_iff, String.toList_ofList]
    simp
  have strips : Text.Strips Text.isWhiteSpace
      (String.ofList (List.replicate 4301 '9')).toList (List.replicate 4301 '9') := by
    rw [String.toList_ofList]
    apply Text.strips_self
    intro c member
    rw [List.eq_of_mem_replicate member]
    decide +kernel
  have refused := ofEnvironment_of_not_writable nonempty strips spelled
    (Literal.not_writable_of_overlong long spelled)
  rw [if_pos long, List.length_replicate] at refused
  refine ⟨_, rfl, ?_, refused, Command.ends_of_digits refused⟩
  rintro ⟨error, reported⟩
  rw [refused] at reported
  cases reported

end Target
end RegisterAssembly
