import RegisterAssembly.InstructionSet
import RegisterAssembly.Proofs.Decomposition
import RegisterAssembly.Proofs.EditDistance
import RegisterAssembly.Proofs.Numeral

/-!
# Suggestions for a mistyped word

The suggestions for a word are the first mnemonics within one edit of it after lowering the case of
both.  Edits are looked for only between words of about the same length, and the lengths that are
compared are those before the case is lowered.  Nothing is lost by that.  Lowering a mnemonic may
make it longer, but only by combining dots, of which there are none in a scanned word: each of them
takes an edit, and so does each character by which the rest of the mnemonic differs in length.
-/

namespace RegisterAssembly
namespace Text

/-! ## Edits and the number of characters -/

theorem Edit.countP_le {a b : List Char} (edit : Edit a b) (p : Char → Bool) :
    a.countP p ≤ b.countP p + 1 ∧ b.countP p ≤ a.countP p + 1 := by
  induction edit with
  | insert c a | delete c a =>
      rw [List.countP_cons]
      split <;> omega
  | substitute c d a =>
      rw [List.countP_cons, List.countP_cons]
      split <;> split <;> omega
  | later c _ ih =>
      rw [List.countP_cons, List.countP_cons]
      omega

/-- A number of edits changes the number of characters of any class by no more than itself. -/
theorem Edits.countP_le {n : Nat} {a b : List Char} (edits : Edits n a b) (p : Char → Bool) :
    a.countP p ≤ b.countP p + n ∧ b.countP p ≤ a.countP p + n := by
  induction edits with
  | refl a => exact ⟨Nat.le_refl _, Nat.le_refl _⟩
  | step edit _ ih =>
      have first := edit.countP_le p
      omega

theorem Edits.length_le {n : Nat} {a b : List Char} (edits : Edits n a b) :
    b.length ≤ a.length + n := by
  simpa using (edits.countP_le fun _ => true).2

/-- One text can be turned into another by some number of edits that is at most `n`. -/
def Within (n : Nat) (a b : List Char) : Prop :=
  ∃ k ≤ n, Edits k a b

theorem within_iff (n : Nat) (a b : List Char) : Within n a b ↔ editDistance a b ≤ n := by
  have least := (isDistance_editDistance a b).isLeast_edits
  constructor
  · rintro ⟨k, bounded, edits⟩
    exact (least.2 edits).trans bounded
  · intro bounded
    exact ⟨_, bounded, least.1⟩

instance (n : Nat) (a b : List Char) : Decidable (Within n a b) :=
  decidable_of_iff _ (within_iff n a b).symm

/-! ## Lower case -/

/-- The dot that is written above a character. -/
def dotAbove : Char := '\u0307'

/-- Each character is lowered to one character, or to one character and a dot above it. -/
theorem exists_lowerAfter_cons (before : List Char) (c : Char) (chars : List Char) :
    ∃ small dots, lowerAfter before (c :: chars) =
        small :: (dots ++ lowerAfter (c :: before) chars) ∧
      (dots = [] ∨ dots = [dotAbove]) := by
  rw [lowerAfter]
  split
  · exact ⟨'i', [dotAbove], rfl, .inr rfl⟩
  · split
    · split
      · exact ⟨'\u03C2', [], rfl, .inl rfl⟩
      · exact ⟨'\u03C3', [], rfl, .inl rfl⟩
    · exact ⟨lowerChar c, [], rfl, .inl rfl⟩

theorem length_le_lowerAfter (before chars : List Char) :
    chars.length ≤ (lowerAfter before chars).length := by
  induction chars generalizing before with
  | nil => exact Nat.zero_le _
  | cons c chars ih =>
      obtain ⟨small, dots, lowered, _⟩ := exists_lowerAfter_cons before c chars
      have rest := ih (c :: before)
      rw [lowered, List.length_cons, List.length_cons, List.length_append]
      omega

/-- Apart from dots, lowering the case adds no characters. -/
theorem countP_lowerAfter_le (before chars : List Char) :
    (lowerAfter before chars).countP (· ≠ dotAbove) ≤ chars.length := by
  induction chars generalizing before with
  | nil => exact Nat.le_refl _
  | cons c chars ih =>
      obtain ⟨small, dots, lowered, dotted⟩ := exists_lowerAfter_cons before c chars
      have rest := ih (c :: before)
      have plain : dots.countP (· ≠ dotAbove) = 0 := by
        rcases dotted with rfl | rfl <;> decide
      rw [lowered, List.countP_cons, List.countP_append, plain, List.length_cons]
      split <;> omega

theorem lowerChar_of_ascii : ∀ c : Char, c.toNat < 0x80 → (lowerChar c).toNat < 0x80 := by
  refine forall_ascii ?_
  decide

/-- A text in ASCII is lowered character by character. -/
theorem lowerAfter_of_ascii (before : List Char) {chars : List Char}
    (ascii : ∀ c ∈ chars, c.toNat < 0x80) : lowerAfter before chars = chars.map lowerChar := by
  induction chars generalizing before with
  | nil => rfl
  | cons c chars ih =>
      rw [List.forall_mem_cons] at ascii
      have undotted : c ≠ '\u0130' := by
        rintro rfl
        exact absurd ascii.1 (by decide)
      have noSigma : c ≠ '\u03A3' := by
        rintro rfl
        exact absurd ascii.1 (by decide)
      rw [lowerAfter, if_neg undotted, if_neg noSigma, ih _ ascii.2]
      rfl

theorem length_lower_of_ascii {chars : List Char} (ascii : ∀ c ∈ chars, c.toNat < 0x80) :
    (lower chars).length = chars.length := by
  rw [lower, lowerAfter_of_ascii [] ascii, List.length_map]

/-- A text in ASCII has no dots when it is lowered. -/
theorem countP_lower_of_ascii {chars : List Char} (ascii : ∀ c ∈ chars, c.toNat < 0x80) :
    (lower chars).countP (· ≠ dotAbove) = chars.length := by
  rw [← length_lower_of_ascii ascii, List.countP_eq_length, lower, lowerAfter_of_ascii [] ascii]
  intro small member
  obtain ⟨c, among, rfl⟩ := List.mem_map.mp member
  have small_ascii := lowerChar_of_ascii c (ascii c among)
  rw [decide_eq_true_eq]
  intro dotted
  rw [dotted] at small_ascii
  exact absurd small_ascii (by decide)

end Text

theorem Lexeme.toNat_lt_of_isWordChar {c : Char} (continues : isWordChar c) : c.toNat < 0x80 := by
  simp only [isWordChar, isLetter, isDigit, Bool.or_eq_true, Bool.and_eq_true, decide_eq_true_eq,
    Char.le_def, UInt32.le_iff_toNat_le] at continues
  rcases continues with bounded | rfl
  · simp at bounded
    omega
  · decide

theorem ascii_of_isWord {word : List Char} (isWord : IsWord word) : ∀ c ∈ word, c.toNat < 0x80 := by
  obtain ⟨first, rest, rfl, letter, continues⟩ := isWord
  intro c member
  apply Lexeme.toNat_lt_of_isWordChar
  rw [Lexeme.isWordChar_iff]
  rcases List.mem_cons.mp member with rfl | member
  · exact .inl (by simp [Char.isAlphanum, letter])
  · exact continues c member

namespace InstructionSet

/-- The filter by length keeps every mnemonic that is within one edit of a word in ASCII. -/
theorem isSimilar_iff {word : List Char} (ascii : ∀ c ∈ word, c.toNat < 0x80)
    (mnemonic : List Char) :
    isSimilar word mnemonic ↔ Text.Within 1 (Text.lower word) (Text.lower mnemonic) := by
  simp only [isSimilar, Bool.or_eq_true, Bool.and_eq_true, decide_eq_true_eq]
  constructor
  · rintro (same | ⟨_, near⟩)
    · exact ⟨0, Nat.zero_le _, same ▸ .refl _⟩
    · exact (Text.within_iff _ _ _).mpr near
  · rintro ⟨k, bounded, edits⟩
    have near := (Text.within_iff _ _ _).mp ⟨k, bounded, edits⟩
    have longer : mnemonic.length ≤ word.length + 1 := by
      have grown := Text.length_le_lowerAfter [] mnemonic
      have edited := edits.length_le
      rw [Text.length_lower_of_ascii ascii] at edited
      rw [← Text.lower] at grown
      omega
    have shorter : word.length ≤ mnemonic.length + 1 := by
      have plain := Text.countP_lowerAfter_le [] mnemonic
      have edited := (edits.countP_le (· ≠ Text.dotAbove)).1
      rw [Text.countP_lower_of_ascii ascii] at edited
      rw [← Text.lower] at plain
      omega
    exact .inr ⟨⟨longer, shorter⟩, near⟩

/-- The suggestions for a word are the first three mnemonics, in the order of the instruction set,
that one edit at most turns into the word once both are in lower case. -/
theorem suggestions_eq_take (set : InstructionSet) (word : String) (isWord : IsWord word.toList) :
    set.suggestions word =
      (set.mnemonics.filter fun mnemonic =>
        Text.Within 1 (Text.lower word.toList) (Text.lower mnemonic.toList)).take 3 := by
  apply congrArg (List.take 3)
  apply List.filter_congr
  intro mnemonic _
  rw [Bool.eq_iff_iff, decide_eq_true_iff]
  exact isSimilar_iff (ascii_of_isWord isWord) mnemonic.toList

/-- The second mnemonic is shorter than the word, and as long as it in lower case. -/
theorem suggestions_eq_take_dotted :
    IsWord "Ixt".toList ∧
      InstructionSet.suggestions ⟨[("mov", 0), ("İt", 1), ("it", 2), ("ixtt", 3), ("IXT", 4)],
        by decide⟩ "Ixt" = ["İt", "it", "ixtt"] := by
  have isWord : IsWord "Ixt".toList := by
    refine ⟨'I', ['x', 't'], rfl, rfl, ?_⟩
    simp only [← Lexeme.isWordChar_iff, ← List.all_eq_true]
    rfl
  refine ⟨isWord, ?_⟩
  rw [suggestions_eq_take _ _ isWord]
  decide +kernel

end InstructionSet
end RegisterAssembly
