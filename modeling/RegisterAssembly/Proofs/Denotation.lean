import RegisterAssembly.Annotation
import RegisterAssembly.Proofs.Numeral

/-!
# What tokens denote

The meaning of the tokens of a listing is stated here apart from the pass that finds it: the number
that a token denotes for a target, the labels that tokens declare, and the tokens that are rejected
because they have no meaning.  What the pass finds about a token is then read off this meaning.
-/

namespace RegisterAssembly
namespace Token

/-- The number that a mnemonic, an immediate or a register denotes for a target. -/
def Denotes (target : Target) (token : Token) (value : Nat) : Prop :=
  match token.kind with
  | .instruction =>
      ∃ opcode, (token.text, opcode) ∈ target.instructions.entries ∧ opcode.toNat = value
  | .immediate => Literal.Spells token.text.toList value ∧ value ≤ wordMax
  | .register => Literal.Spells (token.text.toList.drop 1) value ∧ value ≤ target.registerBound
  | _ => False

/-- Numbers with more decimal digits than are converted. -/
def Overlong (token : Token) : Prop :=
  (token.kind = .immediate ∧ Literal.Overlong token.text.toList) ∨
    (token.kind = .register ∧ Literal.Overlong (token.text.toList.drop 1))

instance (token : Token) : Decidable token.Overlong :=
  inferInstanceAs (Decidable (_ ∨ _))

/-- Immediates and registers that denote no usable number. -/
def Malformed (target : Target) (token : Token) : Prop :=
  (token.kind = .immediate ∨ token.kind = .register) ∧ ¬ ∃ value, token.Denotes target value

end Token

/-- Whether a label of the given name is declared among tokens: the name is the text of the
declaration without its last character. -/
def Declares (tokens : List Token) (name : String) : Prop :=
  ∃ token ∈ tokens, token.kind = .labelDeclaration ∧ token.text.toList.dropLast = name.toList

namespace Token

/-- Words that are neither mnemonics nor labels declared among the tokens. -/
def Unknown (target : Target) (tokens : List Token) (token : Token) : Prop :=
  token.kind = .instruction ∧ (¬ ∃ value, token.Denotes target value) ∧
    ¬ Declares tokens token.text

/-- Tokens without a meaning. -/
def Rejected (target : Target) (tokens : List Token) (token : Token) : Prop :=
  token.Malformed target ∨ token.Unknown target tokens

end Token

/-- What is wrong with a rejected token. -/
inductive Token.Objection (target : Target) (token : Token) : Problem → Prop
  /-- An immediate that is no literal. -/
  | spelling (immediate : token.kind = .immediate)
      (unspelled : ¬ ∃ value, Literal.Spells token.text.toList value) :
      Objection target token (.malformedNumber token.text "immediate" (some spellingHint))
  /-- An immediate that does not fit in a word. -/
  | range {value : Nat} (immediate : token.kind = .immediate)
      (spelled : Literal.Spells token.text.toList value) (large : wordMax < value) :
      Objection target token (.malformedNumber token.text "immediate" (some wordHint))
  | register (register : token.kind = .register) :
      Objection target token
        (.malformedNumber token.text "register"
          (some ("register indices range from 0 to " ++ Decimal.text target.registerBound)))
  | mnemonic (instruction : token.kind = .instruction) :
      Objection target token
        (.unknownMnemonic token.text (target.instructions.suggestions token.text))

/-! ## Mnemonics and labels -/

namespace InstructionSet

/-- Looking up a mnemonic finds the one opcode that it is entered with. -/
theorem opcode?_eq_some_iff (set : InstructionSet) (mnemonic : String) (opcode : UInt32) :
    set.opcode? mnemonic = some opcode ↔ (mnemonic, opcode) ∈ set.entries := by
  obtain ⟨entries, distinct⟩ := set
  change entries.lookup mnemonic = some opcode ↔ (mnemonic, opcode) ∈ entries
  induction entries with
  | nil => simp
  | cons entry entries ih =>
      obtain ⟨name, number⟩ := entry
      rw [List.map_cons, List.nodup_cons] at distinct
      rw [List.lookup_cons, List.mem_cons, Prod.mk.injEq]
      by_cases same : mnemonic = name
      · subst same
        have absent : (mnemonic, opcode) ∉ entries := by
          intro member
          exact distinct.1 (List.mem_map.mpr ⟨_, member, rfl⟩)
        simp [absent, eq_comm]
      · rw [beq_false_of_ne same]
        simp [same, ih distinct.2]

end InstructionSet

theorem declares_cons (token : Token) (tokens : List Token) (name : String) :
    Declares (token :: tokens) name ↔
      (token.kind = .labelDeclaration ∧ token.text.toList.dropLast = name.toList) ∨
        Declares tokens name := by
  simp [Declares, or_and_right, exists_or]

theorem declares_cons_of_ne {token : Token} (other : token.kind ≠ .labelDeclaration)
    (tokens : List Token) (name : String) :
    Declares (token :: tokens) name ↔ Declares tokens name := by
  simp [declares_cons, other]

/-- The labels of a listing are those that its tokens declare. -/
theorem mem_labelsFrom_iff (line : Nat) (tokens : List Token) (name : String) :
    (∃ label ∈ labelsFrom line tokens, label.name = name) ↔ Declares tokens name := by
  induction tokens generalizing line with
  | nil => simp [labelsFrom, Declares]
  | cons token tokens ih =>
      simp only [labelsFrom]
      split
      · rename_i newline
        rw [ih, declares_cons_of_ne (by simp [newline])]
      · rename_i declaration
        have spelled : String.ofList token.text.toList.dropLast = name ↔
            token.text.toList.dropLast = name.toList := by
          constructor
          · rintro rfl
            rw [String.toList_ofList]
          · intro same
            rw [same, String.ofList_toList]
        simp [declares_cons, declaration, ih, spelled]
      · rename_i other
        rw [ih, declares_cons_of_ne other]

/-! ## What is found about a token -/

namespace Token

/-- The number that a token denotes, if it denotes one. -/
def denoted? (target : Target) (token : Token) : Option Nat :=
  match token.kind with
  | .instruction => (target.instructions.opcode? token.text).map UInt32.toNat
  | .immediate =>
      ((Literal.read? token.text.toList).map Literal.value).filter (· ≤ wordMax)
  | .register =>
      ((Literal.read? (token.text.toList.drop 1)).map Literal.value).filter
        fun value => (value : Int) ≤ target.registerBound
  | _ => none

theorem denoted?_eq_some_iff (target : Target) (token : Token) (value : Nat) :
    token.denoted? target = some value ↔ token.Denotes target value := by
  unfold denoted? Denotes
  split
  · simp [InstructionSet.opcode?_eq_some_iff]
  · simp [Option.filter_eq_some_iff, Literal.spells_iff]
  · simp [Option.filter_eq_some_iff, Literal.spells_iff]
  · simp

theorem denotes_unique {target : Target} {token : Token} {left right : Nat}
    (denotesLeft : token.Denotes target left) (denotesRight : token.Denotes target right) :
    left = right := by
  rw [← denoted?_eq_some_iff] at denotesLeft denotesRight
  exact Option.some.inj (denotesLeft.symm.trans denotesRight)

instance (target : Target) (token : Token) : Decidable (∃ value, token.Denotes target value) :=
  decidable_of_iff ((token.denoted? target).isSome = true) (by
    simp only [Option.isSome_iff_exists, denoted?_eq_some_iff])

theorem denotes_instruction_iff {target : Target} {token : Token} {value : Nat}
    (instruction : token.kind = .instruction) :
    token.Denotes target value ↔
      ∃ opcode, target.instructions.opcode? token.text = some opcode ∧ opcode.toNat = value := by
  simp [Denotes, instruction, InstructionSet.opcode?_eq_some_iff]

theorem denotes_immediate_iff {target : Target} {token : Token} {value : Nat}
    (immediate : token.kind = .immediate) :
    token.Denotes target value ↔ Literal.Spells token.text.toList value ∧ value ≤ wordMax := by
  simp [Denotes, immediate]

theorem denotes_register_iff {target : Target} {token : Token} {value : Nat}
    (register : token.kind = .register) :
    token.Denotes target value ↔
      Literal.Spells (token.text.toList.drop 1) value ∧ value ≤ target.registerBound := by
  simp [Denotes, register]

end Token

namespace Finding

theorem ofToken_of_overlong {token : Token} (target : Target) (labels : List Label)
    (long : token.Overlong) : ∃ limit, ofToken target labels token = .tooLong limit := by
  rcases long with ⟨immediate, long⟩ | ⟨register, long⟩
  · refine ⟨.reading token.text.toList.length, ?_⟩
    simp only [ofToken, immediate, ofImmediate, Literal.evaluate_of_overlong long]
  · refine ⟨.reading (token.text.toList.drop 1).length, ?_⟩
    simp only [ofToken, register, ofRegister, Literal.evaluate_of_overlong long]

theorem ofToken_of_denotes {target : Target} {token : Token} {value : Nat} (labels : List Label)
    (denoted : token.Denotes target value) (short : ¬ token.Overlong) :
    ofToken target labels token = .payload value := by
  cases kind : token.kind with
  | instruction =>
      obtain ⟨opcode, found, rfl⟩ := (Token.denotes_instruction_iff kind).mp denoted
      simp only [ofToken, kind, ofWord, found]
  | immediate =>
      obtain ⟨spelled, small⟩ := (Token.denotes_immediate_iff kind).mp denoted
      have read := Literal.evaluate_of_spells spelled fun long => short (.inl ⟨kind, long⟩)
      simp only [ofToken, kind, ofImmediate, read, if_pos small]
  | register =>
      obtain ⟨spelled, small⟩ := (Token.denotes_register_iff kind).mp denoted
      have read := Literal.evaluate_of_spells spelled fun long => short (.inr ⟨kind, long⟩)
      simp only [ofToken, kind, ofRegister, read, if_pos small]
  | _ => simp [Token.Denotes, kind] at denoted

theorem ofNoRegister_of_text {bound : Int} {text : String} (lexeme : String)
    (written : Decimal.text? bound = .ok text) :
    ofNoRegister bound lexeme =
      .problem (.malformedNumber lexeme "register"
        (some ("register indices range from 0 to " ++ text))) := by
  simp only [ofNoRegister, written]

theorem ofNoRegister_ne_payload (bound : Int) (lexeme : String) (value : Nat) :
    ofNoRegister bound lexeme ≠ .payload value := by
  rw [ofNoRegister]
  split <;> simp

theorem opcode?_of_not_denotes {target : Target} {token : Token}
    (instruction : token.kind = .instruction) (blank : ¬ ∃ value, token.Denotes target value) :
    target.instructions.opcode? token.text = none := by
  rw [Option.eq_none_iff_forall_ne_some]
  intro opcode found
  exact blank ⟨opcode.toNat, (Token.denotes_instruction_iff instruction).mpr ⟨opcode, found, rfl⟩⟩

/-- What the number reader makes of an immediate that denotes no word. -/
theorem ofImmediate_of_not_denotes {target : Target} {token : Token}
    (immediate : token.kind = .immediate) (blank : ¬ ∃ value, token.Denotes target value)
    (short : ¬ token.Overlong) :
    ∃ problem, token.Objection target problem ∧ ofImmediate token.text = .problem problem := by
  have short' : ¬ Literal.Overlong token.text.toList := fun long => short (.inl ⟨immediate, long⟩)
  by_cases spelled : ∃ value, Literal.Spells token.text.toList value
  · obtain ⟨value, spelled⟩ := spelled
    have large : ¬ value ≤ wordMax := by
      intro small
      exact blank ⟨value, (Token.denotes_immediate_iff immediate).mpr ⟨spelled, small⟩⟩
    refine ⟨_, .range immediate spelled (Nat.lt_of_not_le large), ?_⟩
    simp only [ofImmediate, Literal.evaluate_of_spells spelled short', if_neg large]
  · refine ⟨_, .spelling immediate spelled, ?_⟩
    simp only [ofImmediate, Literal.evaluate_of_not_spells spelled]

/-- What the number reader makes of a register lexeme that names no register of the target. -/
theorem ofRegister_of_not_denotes {target : Target} {token : Token}
    (register : token.kind = .register) (blank : ¬ ∃ value, token.Denotes target value)
    (short : ¬ token.Overlong) :
    ofRegister target.registerBound token.text = ofNoRegister target.registerBound token.text := by
  have short' : ¬ Literal.Overlong (token.text.toList.drop 1) :=
    fun long => short (.inr ⟨register, long⟩)
  by_cases spelled : ∃ value, Literal.Spells (token.text.toList.drop 1) value
  · obtain ⟨value, spelled⟩ := spelled
    have large : ¬ (value : Int) ≤ target.registerBound := by
      intro small
      exact blank ⟨value, (Token.denotes_register_iff register).mpr ⟨spelled, small⟩⟩
    simp only [ofRegister, Literal.evaluate_of_spells spelled short', if_neg large]
  · simp only [ofRegister, Literal.evaluate_of_not_spells spelled]

/-- No payload is found for a token that denotes no number. -/
theorem ofToken_ne_payload {target : Target} {token : Token} (labels : List Label)
    (blank : ¬ ∃ value, token.Denotes target value) (value : Nat) :
    ofToken target labels token ≠ .payload value := by
  by_cases long : token.Overlong
  · obtain ⟨limit, found⟩ := ofToken_of_overlong target labels long
    simp [found]
  cases kind : token.kind with
  | instruction =>
      simp only [ofToken, kind, ofWord, opcode?_of_not_denotes kind blank]
      split <;> simp
  | immediate =>
      obtain ⟨problem, _, found⟩ := ofImmediate_of_not_denotes kind blank long
      simp [ofToken, kind, found]
  | register =>
      simp only [ofToken, kind, ofRegister_of_not_denotes kind blank long]
      exact ofNoRegister_ne_payload _ _ _
  | _ => simp [ofToken, kind]

variable {target : Target} {tokens : List Token} {labels : List Label} {token : Token}

theorem any_name_iff (known : ∀ name, (∃ label ∈ labels, label.name = name) ↔ Declares tokens name)
    (word : String) : labels.any (·.name = word) ↔ Declares tokens word := by
  simp [← known]

/-- A problem is found with a rejected token, unless its number is too long to be read. -/
theorem ofToken_of_rejected (writable : Decimal.Writable target.registerBound)
    (known : ∀ name, (∃ label ∈ labels, label.name = name) ↔ Declares tokens name)
    (rejected : token.Rejected target tokens) (short : ¬ token.Overlong) :
    ∃ problem, token.Objection target problem ∧ ofToken target labels token = .problem problem := by
  rcases rejected with ⟨immediate | register, blank⟩ | ⟨instruction, blank, undeclared⟩
  · simp only [ofToken, immediate]
    exact ofImmediate_of_not_denotes immediate blank short
  · refine ⟨_, .register register, ?_⟩
    simp only [ofToken, register, ofRegister_of_not_denotes register blank short]
    exact ofNoRegister_of_text _ (Decimal.text?_of_writable writable)
  · refine ⟨_, .mnemonic instruction, ?_⟩
    rw [← any_name_iff known] at undeclared
    simp only [ofToken, instruction, ofWord, opcode?_of_not_denotes instruction blank,
      if_neg undeclared]

theorem ofToken_of_invalid (target : Target) (labels : List Label)
    (invalid : token.kind = .invalid) :
    ofToken target labels token = .problem (.unknownToken token.text) := by
  simp only [ofToken, invalid]

/-- Nothing is found about any other token. -/
theorem ofToken_of_idle
    (known : ∀ name, (∃ label ∈ labels, label.name = name) ↔ Declares tokens name)
    (blank : ¬ ∃ value, token.Denotes target value) (accepted : ¬ token.Rejected target tokens)
    (valid : token.kind ≠ .invalid) : ofToken target labels token = .nothing := by
  cases kind : token.kind with
  | instruction =>
      have declared : Declares tokens token.text := by
        by_contra undeclared
        exact accepted (.inr ⟨kind, blank, undeclared⟩)
      rw [← any_name_iff known] at declared
      simp only [ofToken, kind, ofWord, opcode?_of_not_denotes kind blank, if_pos declared]
  | immediate => exact absurd (.inl ⟨.inl kind, blank⟩) accepted
  | register => exact absurd (.inl ⟨.inr kind, blank⟩) accepted
  | invalid => exact absurd kind valid
  | _ => simp only [ofToken, kind]

end Finding
end RegisterAssembly
