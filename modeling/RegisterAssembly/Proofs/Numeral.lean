import Mathlib.Data.List.Forall2
import Mathlib.Data.Nat.Digits.Defs
import Mathlib.Tactic.IntervalCases
import Mathlib.Tactic.Ring
import RegisterAssembly.Literal

/-!
# Spellings of numbers

The grammar of integer literals is stated here apart from the reader: what the digits of a base are,
which number a row of digits denotes, and which texts spell a number at all.  The reader accepts
exactly these texts and finds the number of each, except that a decimal spelling may be too long to
be converted.
-/

namespace RegisterAssembly

/-- A character is the digit of a value in a base; letters may have either case. -/
def IsDigitOf (base : Nat) (c : Char) (value : Nat) : Prop :=
  value < base ∧ (c = Nat.digitChar value ∨ c = (Nat.digitChar value).toUpper)

/-- Characters are the digits of a number in a base, most significant first. -/
def IsNumeral (base : Nat) (digits : List Char) (number : Nat) : Prop :=
  ∃ values, List.Forall₂ (IsDigitOf base) digits values ∧ number = Nat.ofDigits base values.reverse

namespace Literal

/-- The spellings of integers, each with the number that it denotes. -/
inductive Spells : List Char → Nat → Prop
  | hexadecimal {mark : Char} {digits : List Char} {number : Nat} (marked : mark = 'x' ∨ mark = 'X')
      (nonempty : digits ≠ []) (numeral : IsNumeral 16 digits number) :
      Spells ('0' :: mark :: digits) number
  | octal {digits : List Char} {number : Nat} (numeral : IsNumeral 8 digits number) :
      Spells ('0' :: digits) number
  | decimal {first : Char} {digits : List Char} {number : Nat} (nonzero : first ≠ '0')
      (numeral : IsNumeral 10 (first :: digits) number) :
      Spells (first :: digits) number

/-- Decimal spellings with more digits than are converted. -/
def Overlong (text : List Char) : Prop :=
  text.head? ≠ some '0' ∧ text.all Char.isDigit ∧ Decimal.maxDigits < text.length

instance (text : List Char) : Decidable (Overlong text) :=
  inferInstanceAs (Decidable (_ ∧ _))

end Literal

/-- What holds for all codes of ASCII holds for the characters with these codes. -/
theorem forall_ascii {p : Char → Prop} (all : ∀ code < 0x80, p (Char.ofNat code)) (c : Char)
    (ascii : c.toNat < 0x80) : p c := by
  have coded := all c.toNat ascii
  rwa [Char.ofNat_toNat] at coded

namespace Radix

theorem base_le (radix : Radix) : radix.base ≤ 16 := by
  cases radix <;> decide

theorem toNat_lt_of_isDigit {radix : Radix} {c : Char} (digit : radix.isDigit c) :
    c.toNat < 128 := by
  cases radix <;>
    simp only [isDigit, Bool.and_eq_true, Bool.or_eq_true, decide_eq_true_eq, Char.le_def,
      UInt32.le_iff_toNat_le, Char.toNat_val, Char.reduceToNat] at digit <;> omega

theorem exists_isDigitOf {radix : Radix} {c : Char} (digit : radix.isDigit c) :
    ∃ value, IsDigitOf radix.base c value := by
  have denoting : ∀ c : Char, c.toNat < 0x80 → radix.isDigit c →
      IsDigitOf radix.base c (digitValue c) := by
    refine forall_ascii ?_
    unfold IsDigitOf
    cases radix <;> decide
  exact ⟨_, denoting c (toNat_lt_of_isDigit digit) digit⟩

theorem isDigit_of_isDigitOf {radix : Radix} {c : Char} {value : Nat}
    (digit : IsDigitOf radix.base c value) : radix.isDigit c := by
  obtain ⟨bounded, spelled⟩ := digit
  cases radix <;> simp only [base] at bounded <;> interval_cases value <;>
    rcases spelled with rfl | rfl <;> decide

end Radix

theorem digitValue_of_isDigitOf {base value : Nat} {c : Char} (small : base ≤ 16)
    (digit : IsDigitOf base c value) : digitValue c = value := by
  obtain ⟨bounded, spelled⟩ := digit
  have bounded' : value < 16 := by omega
  interval_cases value <;> rcases spelled with rfl | rfl <;> decide

namespace Literal

/-- Reading digits by position, after digits whose value is `start`. -/
theorem positional_eq {base : Nat} (small : base ≤ 16) {digits : List Char} {values : List Nat}
    (spelled : List.Forall₂ (IsDigitOf base) digits values) (start : Nat) :
    positional base digits start =
      start * base ^ digits.length + Nat.ofDigits base values.reverse := by
  induction spelled generalizing start with
  | nil => simp [positional]
  | @cons c value digits values digit rest ih =>
      have step : positional base (c :: digits) start =
          positional base digits (start * base + value) := by
        rw [← digitValue_of_isDigitOf small digit]
        rfl
      rw [step, ih, List.reverse_cons, Nat.ofDigits_append, Nat.ofDigits_singleton,
        List.length_reverse, ← rest.length_eq, List.length_cons, pow_succ]
      ring

theorem exists_values {radix : Radix} {digits : List Char} (all : digits.all radix.isDigit) :
    ∃ values, List.Forall₂ (IsDigitOf radix.base) digits values := by
  induction digits with
  | nil => exact ⟨[], .nil⟩
  | cons c digits ih =>
      rw [List.all_cons, Bool.and_eq_true] at all
      obtain ⟨value, digit⟩ := Radix.exists_isDigitOf all.1
      obtain ⟨values, rest⟩ := ih all.2
      exact ⟨value :: values, .cons digit rest⟩

theorem all_isDigit {radix : Radix} {digits : List Char} {values : List Nat}
    (spelled : List.Forall₂ (IsDigitOf radix.base) digits values) :
    digits.all radix.isDigit := by
  induction spelled with
  | nil => rfl
  | cons digit _ ih => rw [List.all_cons, Radix.isDigit_of_isDigitOf digit, ih, Bool.and_self]

/-- A row of digits denotes the number that the reader finds for it, and no other. -/
theorem isNumeral_iff (radix : Radix) (digits : List Char) (number : Nat) :
    IsNumeral radix.base digits number ↔
      digits.all radix.isDigit ∧ positional radix.base digits 0 = number := by
  constructor
  · rintro ⟨values, spelled, rfl⟩
    refine ⟨all_isDigit spelled, ?_⟩
    rw [positional_eq radix.base_le spelled, Nat.zero_mul, Nat.zero_add]
  · rintro ⟨all, rfl⟩
    obtain ⟨values, spelled⟩ := exists_values all
    refine ⟨values, spelled, ?_⟩
    rw [positional_eq radix.base_le spelled, Nat.zero_mul, Nat.zero_add]

/-! ## Reading -/

theorem read?_zero_mark {mark : Char} {digits : List Char} (marked : mark = 'x' ∨ mark = 'X') :
    read? ('0' :: mark :: digits) =
      if digits ≠ [] ∧ digits.all Radix.hexadecimal.isDigit then some ⟨.hexadecimal, digits⟩
      else none := by
  simp [read?, marked]

theorem not_octal_of_mark {mark : Char} (marked : mark = 'x' ∨ mark = 'X') :
    Radix.octal.isDigit mark = false := by
  rcases marked with rfl | rfl <;> decide

theorem read?_zero {digits : List Char} (unmarked : digits.head? ≠ some 'x')
    (unmarked' : digits.head? ≠ some 'X') :
    read? ('0' :: digits) =
      if digits.all Radix.octal.isDigit then some ⟨.octal, digits⟩ else none := by
  cases digits with
  | nil => rfl
  | cons mark digits =>
      simp only [List.head?_cons, ne_eq, Option.some.injEq] at unmarked unmarked'
      simp [read?, unmarked, unmarked']

theorem read?_nonzero {first : Char} {digits : List Char} (nonzero : first ≠ '0') :
    read? (first :: digits) =
      if (first :: digits).all Radix.decimal.isDigit then some ⟨.decimal, first :: digits⟩
      else none := by
  unfold read?
  split
  · contradiction
  · rename_i equal
    exact absurd (List.cons.inj equal).1 nonzero
  · rename_i equal
    obtain ⟨rfl, rfl⟩ := List.cons.inj equal
    rw [if_neg nonzero]

theorem exists_read_of_spells {text : List Char} {number : Nat} (spelled : Spells text number) :
    ∃ literal, read? text = some literal ∧ literal.value = number := by
  cases spelled with
  | hexadecimal marked nonempty numeral =>
      obtain ⟨all, found⟩ := (isNumeral_iff .hexadecimal _ _).mp numeral
      exact ⟨⟨.hexadecimal, _⟩, by rw [read?_zero_mark marked, if_pos ⟨nonempty, all⟩], found⟩
  | @octal digits _ numeral =>
      obtain ⟨all, found⟩ := (isNumeral_iff .octal _ _).mp numeral
      have unmarked : ∀ mark, mark = 'x' ∨ mark = 'X' → digits.head? ≠ some mark := by
        intro mark marked head
        have digit := List.all_eq_true.mp all mark (List.mem_of_head? head)
        rw [not_octal_of_mark marked] at digit
        contradiction
      refine ⟨⟨.octal, digits⟩, ?_, found⟩
      rw [read?_zero (unmarked _ (.inl rfl)) (unmarked _ (.inr rfl)), if_pos all]
  | decimal nonzero numeral =>
      obtain ⟨all, found⟩ := (isNumeral_iff .decimal _ _).mp numeral
      exact ⟨⟨.decimal, _⟩, by rw [read?_nonzero nonzero, if_pos all], found⟩

theorem spells_of_read_zero {digits : List Char} {literal : Literal}
    (read : read? ('0' :: digits) = some literal) : Spells ('0' :: digits) literal.value := by
  by_cases marked : digits.head? = some 'x' ∨ digits.head? = some 'X'
  · obtain ⟨mark, tail, rfl, mark_eq⟩ :
        ∃ mark tail, digits = mark :: tail ∧ (mark = 'x' ∨ mark = 'X') := by
      cases digits with
      | nil => simp at marked
      | cons mark tail => exact ⟨mark, tail, rfl, by simpa using marked⟩
    rw [read?_zero_mark mark_eq, Option.ite_none_right_eq_some] at read
    obtain ⟨⟨nonempty, all⟩, equal⟩ := read
    cases equal
    exact .hexadecimal mark_eq nonempty ((isNumeral_iff .hexadecimal _ _).mpr ⟨all, rfl⟩)
  · rw [not_or] at marked
    rw [read?_zero marked.1 marked.2, Option.ite_none_right_eq_some] at read
    obtain ⟨all, equal⟩ := read
    cases equal
    exact .octal ((isNumeral_iff .octal _ _).mpr ⟨all, rfl⟩)

theorem spells_of_read {text : List Char} {literal : Literal} (read : read? text = some literal) :
    Spells text literal.value := by
  cases text with
  | nil => simp [read?] at read
  | cons first digits =>
      by_cases zero : first = '0'
      · subst zero
        exact spells_of_read_zero read
      · rw [read?_nonzero zero, Option.ite_none_right_eq_some] at read
        obtain ⟨all, equal⟩ := read
        cases equal
        exact .decimal zero ((isNumeral_iff .decimal _ _).mpr ⟨all, rfl⟩)

/-- The reader recognises exactly the spellings of numbers, and finds the number of each. -/
theorem spells_iff (text : List Char) (number : Nat) :
    Spells text number ↔ ∃ literal, read? text = some literal ∧ literal.value = number := by
  constructor
  · exact exists_read_of_spells
  · rintro ⟨literal, read, rfl⟩
    exact spells_of_read read

theorem spells_unique {text : List Char} {left right : Nat} (spellsLeft : Spells text left)
    (spellsRight : Spells text right) : left = right := by
  obtain ⟨literal, read, rfl⟩ := exists_read_of_spells spellsLeft
  obtain ⟨other, read', rfl⟩ := exists_read_of_spells spellsRight
  rw [read] at read'
  cases read'
  rfl

/-! ## Spellings that are too long -/

theorem isDigit_decimal : Radix.decimal.isDigit = Char.isDigit := rfl

/-- An overlong text is a decimal spelling. -/
theorem read?_of_overlong {text : List Char} (long : Overlong text) :
    read? text = some ⟨.decimal, text⟩ := by
  obtain ⟨nonzero, all, count⟩ := long
  cases text with
  | nil => simp at count
  | cons first digits =>
      rw [List.head?_cons, ne_eq, Option.some.injEq] at nonzero
      rw [read?_nonzero nonzero, isDigit_decimal, if_pos all]

theorem exists_spells_of_overlong {text : List Char} (long : Overlong text) :
    ∃ number, Spells text number :=
  ⟨_, spells_of_read (read?_of_overlong long)⟩

theorem radix_ne_decimal_of_zero {digits : List Char} {literal : Literal}
    (read : read? ('0' :: digits) = some literal) : literal.radix ≠ .decimal := by
  cases digits with
  | nil =>
      cases read
      decide
  | cons mark digits =>
      simp only [read?] at read
      split at read
      · obtain ⟨_, equal⟩ := Option.ite_none_right_eq_some.mp read
        cases equal
        simp
      · obtain ⟨_, equal⟩ := Option.ite_none_right_eq_some.mp read
        cases equal
        simp

theorem overlong_of_not_convertible {text : List Char} {literal : Literal}
    (read : read? text = some literal) (refused : ¬ literal.Convertible) :
    Overlong text ∧ literal.digits.length = text.length := by
  obtain ⟨decimal, count⟩ := Classical.not_imp.mp refused
  cases text with
  | nil => simp [read?] at read
  | cons first digits =>
      by_cases zero : first = '0'
      · subst zero
        exact absurd decimal (radix_ne_decimal_of_zero read)
      · rw [read?_nonzero zero, Option.ite_none_right_eq_some] at read
        obtain ⟨all, equal⟩ := read
        cases equal
        exact ⟨⟨by simpa using zero, all, Nat.lt_of_not_le count⟩, rfl⟩

theorem not_convertible_of_overlong {text : List Char} {literal : Literal}
    (read : read? text = some literal) (long : Overlong text) : ¬ literal.Convertible := by
  rw [read?_of_overlong long] at read
  cases read
  intro convertible
  exact absurd long.2.2 (Nat.not_lt_of_le (convertible rfl))

theorem evaluate_of_overlong {text : List Char} (long : Overlong text) :
    evaluate text = .error (.reading text.length) := by
  have read := read?_of_overlong long
  simp only [evaluate, read, if_neg (not_convertible_of_overlong read long)]

theorem evaluate_of_spells {text : List Char} {number : Nat} (spelled : Spells text number)
    (short : ¬ Overlong text) : evaluate text = .ok (some number) := by
  obtain ⟨literal, read, rfl⟩ := exists_read_of_spells spelled
  have convertible : literal.Convertible := by
    by_contra refused
    exact short (overlong_of_not_convertible read refused).1
  simp only [evaluate, read, if_pos convertible]

theorem evaluate_of_not_spells {text : List Char} (unspelled : ¬ ∃ number, Spells text number) :
    evaluate text = .ok none := by
  have unread : read? text = none := by
    rw [Option.eq_none_iff_forall_ne_some]
    intro literal read
    exact unspelled ⟨literal.value, spells_of_read read⟩
  simp only [evaluate, unread]

/-- The reader gives the number of every spelling that is not too long. -/
theorem evaluate_eq_some_iff {text : List Char} {number : Nat} :
    evaluate text = .ok (some number) ↔ Spells text number ∧ ¬ Overlong text := by
  constructor
  · intro read
    have short : ¬ Overlong text := by
      intro long
      rw [evaluate_of_overlong long] at read
      contradiction
    by_cases spelled : ∃ other, Spells text other
    · obtain ⟨other, spelled⟩ := spelled
      rw [evaluate_of_spells spelled short, Except.ok.injEq, Option.some.injEq] at read
      exact ⟨read ▸ spelled, short⟩
    · rw [evaluate_of_not_spells spelled, Except.ok.injEq] at read
      contradiction
  · rintro ⟨spelled, short⟩
    exact evaluate_of_spells spelled short

theorem pow_le_positional {first : Char} {digits : List Char} (nonzero : first ≠ '0')
    (all : (first :: digits).all Radix.decimal.isDigit) :
    10 ^ digits.length ≤ positional 10 (first :: digits) 0 := by
  obtain ⟨values, spelled⟩ := exists_values all
  rcases spelled with _ | ⟨digit, rest⟩
  rename_i value values
  have positive : 0 < value := by
    rw [Nat.pos_iff_ne_zero]
    rintro rfl
    rcases digit with ⟨_, zero | zero⟩ <;> exact nonzero zero
  have value_eq := positional_eq (Radix.base_le .decimal) (.cons digit rest) 0
  rw [Radix.base] at value_eq
  rw [value_eq, List.reverse_cons, Nat.ofDigits_append, Nat.ofDigits_singleton,
    List.length_reverse, ← rest.length_eq]
  have leading : 10 ^ digits.length * 1 ≤ 10 ^ digits.length * value :=
    Nat.mul_le_mul_left _ positive
  omega

/-- An overlong spelling denotes a number that is no 32-bit word. -/
theorem wordMax_lt_of_overlong {text : List Char} {number : Nat} (long : Overlong text)
    (spelled : Spells text number) : wordMax < number := by
  obtain ⟨literal, read, rfl⟩ := exists_read_of_spells spelled
  rw [read?_of_overlong long] at read
  cases read
  obtain ⟨nonzero, all, count⟩ := long
  cases text with
  | nil => simp at count
  | cons first digits =>
      rw [List.head?_cons, ne_eq, Option.some.injEq] at nonzero
      have enough : 10 ≤ digits.length := by
        rw [List.length_cons, Decimal.maxDigits] at count
        omega
      calc
        wordMax < 10 ^ 10 := by decide
        _ ≤ 10 ^ digits.length := Nat.pow_le_pow_right (by decide) enough
        _ ≤ positional 10 (first :: digits) 0 := pow_le_positional nonzero all

end Literal
end RegisterAssembly
