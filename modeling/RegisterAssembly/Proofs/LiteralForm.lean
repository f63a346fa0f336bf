import RegisterAssembly.Proofs.Numeral

/-!
# The forms of literals

A literal has one of three forms: a mark and hexadecimal digits, a zero and octal digits, or decimal
digits that do not start with a zero.  No text has two of them, although each form but the last
starts with a zero.  The reader gives a text of some form the number that its digits denote, and
nothing to any other text.  So whatever is written for a number in one of the three bases is read as
that number, with leading zeros where the form allows them and with hexadecimal letters of either
case.
-/

namespace RegisterAssembly

/-- The characters that the digits of a base are written with. -/
def Radix.alphabet : Radix → List Char
  | octal => ['0', '1', '2', '3', '4', '5', '6', '7']
  | decimal => ['0', '1', '2', '3', '4', '5', '6', '7', '8', '9']
  | hexadecimal =>
      ['0', '1', '2', '3', '4', '5', '6', '7', '8', '9', 'a', 'b', 'c', 'd', 'e', 'f',
        'A', 'B', 'C', 'D', 'E', 'F']

/-- A character in either case. -/
def IsCaseOf (c small : Char) : Prop :=
  c = small ∨ c = small.toUpper

namespace Literal

/-- The texts that are literals of a base, each with its digits. -/
inductive Form : Radix → List Char → List Char → Prop
  | hexadecimal {mark : Char} {digits : List Char} (marked : mark = 'x' ∨ mark = 'X')
      (nonempty : digits ≠ []) (all : ∀ c ∈ digits, c ∈ Radix.hexadecimal.alphabet) :
      Form .hexadecimal ('0' :: mark :: digits) digits
  | octal {digits : List Char} (all : ∀ c ∈ digits, c ∈ Radix.octal.alphabet) :
      Form .octal ('0' :: digits) digits
  | decimal {first : Char} {digits : List Char} (nonzero : first ≠ '0')
      (all : ∀ c ∈ first :: digits, c ∈ Radix.decimal.alphabet) :
      Form .decimal (first :: digits) (first :: digits)

end Literal

/-! ## Forms and spellings -/

namespace Radix

theorem isDigit_iff (radix : Radix) (c : Char) : radix.isDigit c ↔ c ∈ radix.alphabet := by
  constructor
  · intro digit
    have listed : ∀ c : Char, c.toNat < 0x80 → radix.isDigit c → c ∈ radix.alphabet := by
      refine forall_ascii ?_
      cases radix <;> decide
    exact listed c (toNat_lt_of_isDigit digit) digit
  · intro member
    have all : radix.alphabet.all radix.isDigit := by cases radix <;> decide
    exact List.all_eq_true.mp all c member

theorem all_isDigit_iff (radix : Radix) (digits : List Char) :
    digits.all radix.isDigit ↔ ∀ c ∈ digits, c ∈ radix.alphabet := by
  simp only [List.all_eq_true, isDigit_iff]

end Radix

namespace Literal

variable {radix : Radix} {text digits : List Char} {number : Nat}

theorem mem_alphabet_of_isNumeral (numeral : IsNumeral radix.base digits number) :
    ∀ c ∈ digits, c ∈ radix.alphabet :=
  (radix.all_isDigit_iff digits).mp ((isNumeral_iff radix digits number).mp numeral).1

namespace Form

theorem mem_alphabet (form : Form radix text digits) : ∀ c ∈ digits, c ∈ radix.alphabet := by
  cases form with
  | hexadecimal _ _ all | octal all | decimal _ all => exact all

/-- The digits of a form denote a number. -/
theorem exists_isNumeral (form : Form radix text digits) :
    ∃ number, IsNumeral radix.base digits number := by
  have all := (radix.all_isDigit_iff digits).mpr form.mem_alphabet
  exact ⟨_, (isNumeral_iff radix digits _).mpr ⟨all, rfl⟩⟩

/-- A text has at most one form. -/
theorem unique {radix' : Radix} {digits' : List Char} (form : Form radix text digits)
    (form' : Form radix' text digits') : radix = radix' ∧ digits = digits' := by
  have unmarked {mark : Char} (marked : mark = 'x' ∨ mark = 'X') :
      mark ∉ Radix.octal.alphabet := by
    rcases marked with rfl | rfl <;> decide
  cases form with
  | hexadecimal marked =>
      cases form' with
      | hexadecimal => exact ⟨rfl, rfl⟩
      | octal all => exact absurd (all _ List.mem_cons_self) (unmarked marked)
      | decimal nonzero => exact absurd rfl nonzero
  | octal all =>
      cases form' with
      | hexadecimal marked => exact absurd (all _ List.mem_cons_self) (unmarked marked)
      | octal => exact ⟨rfl, rfl⟩
      | decimal nonzero => exact absurd rfl nonzero
  | decimal nonzero =>
      cases form' with
      | hexadecimal | octal => exact absurd rfl nonzero
      | decimal => exact ⟨rfl, rfl⟩

end Form

/-- A text spells the number that the digits of its form denote. -/
theorem spells_iff_form :
    Spells text number ↔
      ∃ radix digits, Form radix text digits ∧ IsNumeral radix.base digits number := by
  constructor
  · intro spelled
    cases spelled with
    | hexadecimal marked nonempty numeral =>
        exact ⟨.hexadecimal, _,
          .hexadecimal marked nonempty (mem_alphabet_of_isNumeral numeral), numeral⟩
    | octal numeral => exact ⟨.octal, _, .octal (mem_alphabet_of_isNumeral numeral), numeral⟩
    | decimal nonzero numeral =>
        exact ⟨.decimal, _, .decimal nonzero (mem_alphabet_of_isNumeral numeral), numeral⟩
  · rintro ⟨radix, digits, form, numeral⟩
    cases form with
    | hexadecimal marked nonempty => exact .hexadecimal marked nonempty numeral
    | octal => exact .octal numeral
    | decimal nonzero => exact .decimal nonzero numeral

theorem exists_spells_iff :
    (∃ number, Spells text number) ↔ ∃ radix digits, Form radix text digits := by
  simp only [spells_iff_form]
  constructor
  · rintro ⟨number, radix, digits, form, _⟩
    exact ⟨radix, digits, form⟩
  · rintro ⟨radix, digits, form⟩
    obtain ⟨number, numeral⟩ := form.exists_isNumeral
    exact ⟨number, radix, digits, form, numeral⟩

/-- The reader gives nothing just to the texts without a form. -/
theorem evaluate_eq_none_iff :
    evaluate text = .ok none ↔ ¬ ∃ radix digits, Form radix text digits := by
  rw [← exists_spells_iff]
  constructor
  · rintro unread ⟨number, spelled⟩
    by_cases long : Overlong text
    · rw [evaluate_of_overlong long] at unread
      contradiction
    · rw [evaluate_of_spells spelled long, Except.ok.injEq] at unread
      contradiction
  · exact evaluate_of_not_spells

theorem evaluate_eq_error_iff {limit : DigitLimit} :
    evaluate text = .error limit ↔ Overlong text ∧ limit = .reading text.length := by
  constructor
  · intro refused
    have long : Overlong text := by
      by_contra short
      by_cases spelled : ∃ number, Spells text number
      · obtain ⟨number, spelled⟩ := spelled
        rw [evaluate_of_spells spelled short] at refused
        contradiction
      · rw [evaluate_of_not_spells spelled] at refused
        contradiction
    rw [evaluate_of_overlong long, Except.error.injEq] at refused
    exact ⟨long, refused.symm⟩
  · rintro ⟨long, rfl⟩
    exact evaluate_of_overlong long

end Literal

/-! ## What is written for a number -/

/-- The digits that are written for a number in a base, by their values. -/
theorem exists_values_toDigits {base : Nat} (large : 1 < base) (number : Nat) :
    ∃ values : List Nat, Nat.toDigits base number = values.map Nat.digitChar ∧
      (∀ value ∈ values, value < base) ∧ Nat.ofDigits base values.reverse = number := by
  induction number using Nat.strongRecOn with
  | ind number ih =>
      rw [Nat.toDigits_eq_if large]
      split
      · rename_i single
        exact ⟨[number], rfl, by simpa using single, by simp⟩
      · rename_i several
        have positive : 0 < number := by omega
        obtain ⟨values, written, bounded, denoted⟩ := ih (number / base)
          (Nat.div_lt_self positive large)
        refine ⟨values ++ [number % base], ?_, ?_, ?_⟩
        · rw [written, List.map_append]
          rfl
        · intro value member
          rcases List.mem_append.mp member with member | member
          · exact bounded value member
          · rw [List.mem_singleton.mp member]
            exact Nat.mod_lt _ (by omega)
        · rw [List.reverse_append, List.reverse_singleton, List.singleton_append,
            Nat.ofDigits_cons, denoted]
          exact Nat.mod_add_div number base

/-- Digits in either case are the digits of the same values. -/
theorem forall₂_isDigitOf {base : Nat} {digits : List Char} {values : List Nat}
    (written : List.Forall₂ IsCaseOf digits (values.map Nat.digitChar))
    (bounded : ∀ value ∈ values, value < base) : List.Forall₂ (IsDigitOf base) digits values := by
  induction values generalizing digits with
  | nil =>
      cases written
      exact .nil
  | cons value values ih =>
      rw [List.forall_mem_cons] at bounded
      cases written with
      | cons digit rest => exact .cons ⟨bounded.1, digit⟩ (ih rest bounded.2)

/-- What is written for a number is a numeral of it, after any zeros and with letters of either
case. -/
theorem isNumeral_of_toDigits {base : Nat} (large : 1 < base) {zeros number : Nat}
    {digits : List Char} (written : List.Forall₂ IsCaseOf digits
      (List.replicate zeros '0' ++ Nat.toDigits base number)) :
    IsNumeral base digits number := by
  obtain ⟨values, values_eq, bounded, denoted⟩ := exists_values_toDigits large number
  have padded : List.replicate zeros '0' ++ Nat.toDigits base number =
      (List.replicate zeros 0 ++ values).map Nat.digitChar := by
    rw [values_eq, List.map_append, List.map_replicate]
    rfl
  have bounded' : ∀ value ∈ List.replicate zeros 0 ++ values, value < base := by
    intro value member
    rcases List.mem_append.mp member with zero | member
    · rw [List.eq_of_mem_replicate zero]
      omega
    · exact bounded value member
  rw [padded] at written
  refine ⟨List.replicate zeros 0 ++ values, forall₂_isDigitOf written bounded', ?_⟩
  rw [List.reverse_append, List.reverse_replicate, Nat.ofDigits_append_replicate_zero, denoted]

/-- Nothing but zero is written with a zero in front. -/
theorem head?_toDigits_ne {base number : Nat} (large : 1 < base) (positive : 0 < number) :
    (Nat.toDigits base number).head? ≠ some '0' := by
  induction number using Nat.strongRecOn with
  | ind number ih =>
      rw [Nat.toDigits_eq_if large]
      split
      · rw [List.head?_cons, ne_eq, Option.some.injEq, Nat.digitChar_eq_zero]
        omega
      · rename_i several
        rw [List.head?_append_of_ne_nil _ Nat.toDigits_ne_nil]
        exact ih (number / base) (Nat.div_lt_self positive large)
          (Nat.div_pos (Nat.le_of_not_lt several) (by omega))

namespace Literal

variable {zeros number : Nat}

theorem spells_of_hexadecimal {mark : Char} {digits : List Char} (marked : mark = 'x' ∨ mark = 'X')
    (written : List.Forall₂ IsCaseOf digits
      (List.replicate zeros '0' ++ Nat.toDigits 16 number)) :
    Spells ('0' :: mark :: digits) number := by
  have nonempty : digits ≠ [] := by
    rintro rfl
    have counted := written.length_eq
    have positive := @Nat.length_toDigits_pos 16 number
    rw [List.length_nil, List.length_append] at counted
    omega
  exact .hexadecimal marked nonempty (isNumeral_of_toDigits (by decide) written)

theorem spells_of_octal (zeros number : Nat) :
    Spells ('0' :: (List.replicate zeros '0' ++ Nat.toDigits 8 number)) number :=
  .octal (isNumeral_of_toDigits (by decide) (List.forall₂_same.mpr fun _ _ => .inl rfl))

theorem spells_digits (number : Nat) : Spells (Decimal.digits number) number := by
  by_cases zero : number = 0
  · subst zero
    exact .octal ⟨[], .nil, rfl⟩
  · have written : List.Forall₂ IsCaseOf (Nat.toDigits 10 number)
        (List.replicate 0 '0' ++ Nat.toDigits 10 number) :=
      List.forall₂_same.mpr fun _ _ => .inl rfl
    have numeral := isNumeral_of_toDigits (by decide) written
    have nonzero : (Nat.toDigits 10 number).head? ≠ some '0' :=
      head?_toDigits_ne (by decide) (Nat.pos_of_ne_zero zero)
    obtain ⟨first, digits, parted⟩ :=
      List.exists_cons_of_ne_nil (Nat.toDigits_ne_nil : Nat.toDigits 10 number ≠ [])
    rw [parted, List.head?_cons, ne_eq, Option.some.injEq] at nonzero
    rw [parted] at numeral
    rw [Decimal.digits, parted]
    exact .decimal nonzero numeral

theorem not_overlong_of_zero (digits : List Char) : ¬ Overlong ('0' :: digits) :=
  fun long => long.1 rfl

/-- A text is read as a number just if it has a form and is not too long, and the number is then the
one that its digits denote.  No text has two forms.  So what is written for a number is read as that
number: hexadecimal and octal spellings with any number of leading zeros, hexadecimal ones with a
mark and letters of either case, and the decimal one if it is not too long. -/
theorem evaluate_forms :
    (∀ text number, evaluate text = .ok (some number) ↔ ¬ Overlong text ∧
      ∃ radix digits, Form radix text digits ∧ IsNumeral radix.base digits number) ∧
    (∀ text, evaluate text = .ok none ↔ ¬ ∃ radix digits, Form radix text digits) ∧
    (∀ text limit, evaluate text = .error limit ↔
      Overlong text ∧ limit = .reading text.length) ∧
    (∀ text radix radix' digits digits', Form radix text digits → Form radix' text digits' →
      radix = radix' ∧ digits = digits') ∧
    (∀ number zeros mark digits, (mark = 'x' ∨ mark = 'X') →
      List.Forall₂ IsCaseOf digits (List.replicate zeros '0' ++ Nat.toDigits 16 number) →
        evaluate ('0' :: mark :: digits) = .ok (some number)) ∧
    (∀ number zeros,
      evaluate ('0' :: (List.replicate zeros '0' ++ Nat.toDigits 8 number)) =
        .ok (some number)) ∧
    ∀ number, (Decimal.digits number).length ≤ Decimal.maxDigits →
      evaluate (Decimal.digits number) = .ok (some number) := by
  refine ⟨?_, fun _ => evaluate_eq_none_iff, fun _ _ => evaluate_eq_error_iff,
    fun _ _ _ _ _ form form' => form.unique form', ?_, ?_, ?_⟩
  · intro text number
    rw [evaluate_eq_some_iff, spells_iff_form, and_comm]
  · intro number zeros mark digits marked written
    exact evaluate_of_spells (spells_of_hexadecimal marked written) (not_overlong_of_zero _)
  · intro number zeros
    exact evaluate_of_spells (spells_of_octal zeros number) (not_overlong_of_zero _)
  · intro number short
    apply evaluate_of_spells (spells_digits number)
    exact fun long => Nat.not_lt_of_le short long.2.2

theorem evaluate_forms_sample :
    Form .octal ['0', '0'] ['0'] ∧ ¬ Form .decimal ['0', '0'] ['0', '0'] ∧
      evaluate ['0', 'X', '0', 'b', 'E', 'e', 'F'] = .ok (some 0xBEEF) ∧
      (Decimal.digits 4294967296).length ≤ Decimal.maxDigits ∧
      evaluate (Decimal.digits 4294967296) = .ok (some 4294967296) := by
  obtain ⟨_, _, _, unique, hexadecimal, _, decimal⟩ := evaluate_forms
  have octal : Form .octal ['0', '0'] ['0'] := .octal (by simp [Radix.alphabet])
  have short : (Decimal.digits 4294967296).length ≤ Decimal.maxDigits := by decide
  refine ⟨octal, ?_, ?_, short, decimal 4294967296 short⟩
  · intro form
    exact absurd (unique _ _ _ _ _ octal form).1 (by decide)
  · exact hexadecimal 0xBEEF 1 'X' _ (.inr rfl)
      (.cons (.inl rfl) (.cons (.inl rfl) (.cons (.inr rfl) (.cons (.inl rfl)
        (.cons (.inr rfl) .nil)))))

end Literal
end RegisterAssembly
