import Mathlib.Data.List.Forall2
import Mathlib.Order.Bounds.Basic
import Mathlib.Order.MinMax
import RegisterAssembly.Text.EditDistance

/-!
# The edit distance as a least number of edits

A text is turned into another by edits of single characters, anywhere and in any order.  Every
such sequence gives way to an alignment, which goes through both texts once and has no more edits.
So the least number of edits for two texts follows from those for texts that are shorter by a
character, and the cells of a row are these least numbers.  In particular it is no loss to take over
the diagonal cell where two characters agree, and it makes no difference which text runs down.
-/

namespace RegisterAssembly
namespace Text

/-- One character is inserted, deleted or replaced, at the front or after characters that stay. -/
inductive Edit : List Char → List Char → Prop
  | insert (c : Char) (a : List Char) : Edit a (c :: a)
  | delete (c : Char) (a : List Char) : Edit (c :: a) a
  | substitute (c d : Char) (a : List Char) : Edit (c :: a) (d :: a)
  | later (c : Char) {a b : List Char} (edit : Edit a b) : Edit (c :: a) (c :: b)

/-- A number of edits, one after the other. -/
inductive Edits : Nat → List Char → List Char → Prop
  | refl (a : List Char) : Edits 0 a a
  | step {n : Nat} {a b c : List Char} (edit : Edit a b) (edits : Edits n b c) : Edits (n + 1) a c

/-- A way through two texts from their fronts, with a number of edits on it. -/
inductive Aligned : Nat → List Char → List Char → Prop
  | nil : Aligned 0 [] []
  | keep (c : Char) {n : Nat} {a b : List Char} (rest : Aligned n a b) : Aligned n (c :: a) (c :: b)
  | substitute (c d : Char) {n : Nat} {a b : List Char} (rest : Aligned n a b) :
      Aligned (n + 1) (c :: a) (d :: b)
  | delete (c : Char) {n : Nat} {a b : List Char} (rest : Aligned n a b) :
      Aligned (n + 1) (c :: a) b
  | insert (d : Char) {n : Nat} {a b : List Char} (rest : Aligned n a b) :
      Aligned (n + 1) a (d :: b)

theorem Edits.later (c : Char) {n : Nat} {a b : List Char} (edits : Edits n a b) :
    Edits n (c :: a) (c :: b) := by
  induction edits with
  | refl a => exact .refl _
  | step edit _ ih => exact .step (.later c edit) ih

namespace Aligned

variable {m n : Nat} {a b : List Char}

theorem edits (aligned : Aligned n a b) : Edits n a b := by
  induction aligned with
  | nil => exact .refl []
  | keep c _ ih => exact ih.later c
  | substitute c d _ ih => exact .step (.substitute c d _) (ih.later d)
  | delete c _ ih => exact .step (.delete c _) ih
  | insert d _ ih => exact .step (.insert d _) (ih.later d)

theorem refl (a : List Char) : Aligned 0 a a := by
  induction a with
  | nil => exact .nil
  | cons c a ih => exact .keep c ih

theorem symm (aligned : Aligned n a b) : Aligned n b a := by
  induction aligned with
  | nil => exact .nil
  | keep c _ ih => exact .keep c ih
  | substitute c d _ ih => exact .substitute d c ih
  | delete c _ ih => exact .insert c ih
  | insert d _ ih => exact .delete d ih

/-- One more edit at the beginning of an alignment costs no more than one. -/
theorem of_edit {b' : List Char} (aligned : Aligned n b b') (edit : Edit a b) :
    ∃ k ≤ n + 1, Aligned k a b' := by
  -- What becomes of the edited character is read off the alignment, so the induction is on that.
  induction aligned generalizing a with
  | nil =>
      cases edit with
      | delete c => exact ⟨1, Nat.le_refl _, .delete c .nil⟩
  | @keep y n _ _ rest ih =>
      cases edit with
      | insert => exact ⟨n + 1, Nat.le_refl _, .insert y rest⟩
      | delete x => exact ⟨n + 1, Nat.le_refl _, .delete x (.keep y rest)⟩
      | substitute x => exact ⟨n + 1, Nat.le_refl _, .substitute x y rest⟩
      | later _ edit =>
          obtain ⟨k, bounded, aligned⟩ := ih edit
          exact ⟨k, bounded, .keep y aligned⟩
  | @substitute y z n _ _ rest ih =>
      cases edit with
      | insert => exact ⟨n + 1, Nat.le_succ _, .insert z rest⟩
      | delete x => exact ⟨n + 2, Nat.le_refl _, .delete x (.substitute y z rest)⟩
      | substitute x => exact ⟨n + 1, Nat.le_succ _, .substitute x z rest⟩
      | later _ edit =>
          obtain ⟨k, bounded, aligned⟩ := ih edit
          exact ⟨k + 1, Nat.succ_le_succ bounded, .substitute y z aligned⟩
  | @delete y n _ _ rest ih =>
      cases edit with
      | insert => exact ⟨n, by omega, rest⟩
      | delete x => exact ⟨n + 2, Nat.le_refl _, .delete x (.delete y rest)⟩
      | substitute x => exact ⟨n + 1, Nat.le_succ _, .delete x rest⟩
      | later _ edit =>
          obtain ⟨k, bounded, aligned⟩ := ih edit
          exact ⟨k + 1, Nat.succ_le_succ bounded, .delete y aligned⟩
  | insert z _ ih =>
      obtain ⟨k, bounded, aligned⟩ := ih edit
      exact ⟨k + 1, Nat.succ_le_succ bounded, .insert z aligned⟩

theorem append {a' b' : List Char} (front : Aligned m a b) (back : Aligned n a' b') :
    Aligned (m + n) (a ++ a') (b ++ b') := by
  induction front with
  | nil => rwa [Nat.zero_add]
  | keep c _ ih => exact .keep c ih
  | substitute c d _ ih =>
      rw [Nat.succ_add]
      exact .substitute c d ih
  | delete c _ ih =>
      rw [Nat.succ_add]
      exact .delete c ih
  | insert d _ ih =>
      rw [Nat.succ_add]
      exact .insert d ih

theorem reverse (aligned : Aligned n a b) : Aligned n a.reverse b.reverse := by
  induction aligned with
  | nil => exact .nil
  | keep c _ ih =>
      rw [List.reverse_cons, List.reverse_cons]
      exact ih.append (refl [c])
  | substitute c d _ ih =>
      rw [List.reverse_cons, List.reverse_cons]
      exact ih.append (.substitute c d .nil)
  | @delete c _ _ b _ ih =>
      rw [List.reverse_cons, ← List.append_nil b.reverse]
      exact ih.append (.delete c .nil)
  | @insert d _ a _ _ ih =>
      rw [List.reverse_cons, ← List.append_nil a.reverse]
      exact ih.append (.insert d .nil)

end Aligned

/-- An alignment has the place of any sequence of edits. -/
theorem Edits.exists_aligned {n : Nat} {a b : List Char} (edits : Edits n a b) :
    ∃ k ≤ n, Aligned k a b := by
  induction edits with
  | refl a => exact ⟨0, Nat.le_refl _, .refl a⟩
  | step edit _ ih =>
      obtain ⟨k, bounded, aligned⟩ := ih
      obtain ⟨k', bounded', aligned'⟩ := aligned.of_edit edit
      exact ⟨k', by omega, aligned'⟩

/-! ## Least numbers of edits -/

/-- The least number of edits in an alignment of two texts. -/
def IsDistance (a b : List Char) (n : Nat) : Prop :=
  IsLeast {n | Aligned n a b} n

namespace IsDistance

variable {a b : List Char} {n : Nat}

theorem isLeast_edits (least : IsDistance a b n) : IsLeast {n | Edits n a b} n := by
  refine ⟨least.1.edits, ?_⟩
  intro m edits
  obtain ⟨k, bounded, aligned⟩ := edits.exists_aligned
  exact (least.2 aligned).trans bounded

theorem symm (least : IsDistance a b n) : IsDistance b a n :=
  ⟨least.1.symm, fun _ aligned => least.2 aligned.symm⟩

theorem of_reverse (least : IsDistance a.reverse b.reverse n) : IsDistance a b n := by
  constructor
  · have aligned := least.1.reverse
    rwa [List.reverse_reverse, List.reverse_reverse] at aligned
  · exact fun _ aligned => least.2 aligned.reverse

theorem unique {m : Nat} (left : IsDistance a b m) (right : IsDistance a b n) : m = n :=
  IsLeast.unique left right

theorem nil_left (b : List Char) : IsDistance [] b b.length := by
  constructor
  · induction b with
    | nil => exact .nil
    | cons d b ih => exact .insert d ih
  · intro n aligned
    induction b generalizing n with
    | nil => exact Nat.zero_le n
    | cons d b ih =>
        cases aligned with
        | insert _ rest => exact Nat.succ_le_succ (ih rest)

theorem nil_right (a : List Char) : IsDistance a [] a.length :=
  (nil_left a).symm

/-- The distances of texts that differ by a character at the front of the second one. -/
theorem le_succ_cons {d : Char} {m : Nat} (least : IsDistance a b n)
    (longer : IsDistance a (d :: b) m) : n ≤ m + 1 := by
  obtain ⟨k, bounded, aligned⟩ := longer.1.symm.of_edit (.insert d b)
  exact (least.2 aligned.symm).trans bounded

variable {c d : Char} {diagonal up left : Nat}

/-- The last step of a best alignment leaves a best alignment of what comes before it. -/
theorem cons_cons (least : IsDistance a b diagonal) (leastUp : IsDistance a (d :: b) up)
    (leastLeft : IsDistance (c :: a) b left) :
    IsDistance (c :: a) (d :: b)
      (min (diagonal + if c = d then 0 else 1) (min (up + 1) (left + 1))) := by
  constructor
  · rcases min_choice (diagonal + if c = d then 0 else 1) (min (up + 1) (left + 1)) with eq | eq
    · rw [eq]
      split
      · rename_i same
        exact same ▸ .keep c least.1
      · exact .substitute c d least.1
    · rw [eq]
      rcases min_choice (up + 1) (left + 1) with eq | eq
      · rw [eq]
        exact .delete c leastUp.1
      · rw [eq]
        exact .insert d leastLeft.1
  · intro n aligned
    cases aligned with
    | keep _ rest =>
        have := least.2 rest
        simp only [if_true]
        omega
    | substitute _ _ rest =>
        have := least.2 rest
        split <;> omega
    | delete _ rest =>
        have := leastUp.2 rest
        omega
    | insert _ rest =>
        have := leastLeft.2 rest
        omega

/-- Where two characters agree, the diagonal cell is as good as any other way. -/
theorem cell (least : IsDistance a b diagonal) (leastUp : IsDistance a (d :: b) up)
    (leastLeft : IsDistance (c :: a) b left) :
    IsDistance (c :: a) (d :: b)
      (if c = d then diagonal else 1 + min diagonal (min up left)) := by
  have shorter := least.le_succ_cons leastUp
  have shorter' := least.symm.le_succ_cons leastLeft.symm
  have shortcut : (if c = d then diagonal else 1 + min diagonal (min up left)) =
      min (diagonal + if c = d then 0 else 1) (min (up + 1) (left + 1)) := by
    split <;> omega
  rw [shortcut]
  exact least.cons_cons leastUp leastLeft

end IsDistance

/-! ## Rows -/

/-- The beginnings of a text, each read backwards, after characters that were read before. -/
def beginnings (read : List Char) : List Char → List (List Char)
  | [] => [read]
  | w :: word => read :: beginnings (w :: read) word

/-- A row holds the distances of a text to the beginnings of the text along it. -/
def IsRow (down read word : List Char) (row : List Nat) : Prop :=
  List.Forall₂ (IsDistance down) (beginnings read word) row

theorem isRow_range' (read word : List Char) :
    IsRow [] read word (List.range' read.length (word.length + 1)) := by
  induction word generalizing read with
  | nil => exact .cons (.nil_left read) .nil
  | cons w word ih => exact .cons (.nil_left read) (ih (w :: read))

namespace IsRow

variable {down read word : List Char} {w : Char} {corner : Nat} {row : List Nat}

theorem exists_cons (isRow : IsRow down read word row) :
    ∃ corner cells, row = corner :: cells ∧ IsDistance down read corner := by
  cases word <;>
    · rcases isRow with _ | ⟨first, _⟩
      exact ⟨_, _, rfl, first⟩

theorem tail (isRow : IsRow down read (w :: word) (corner :: row)) :
    IsRow down (w :: read) word row := by
  cases isRow with
  | cons _ rest => exact rest

/-- From left to right each cell is found from its neighbours. -/
theorem rowCells {c : Char} {left : Nat} (above : IsRow down read word row)
    (least : IsDistance (c :: down) read left) :
    IsRow (c :: down) read word (left :: Text.rowCells c left word row) := by
  induction word generalizing read left row with
  | nil => exact .cons least .nil
  | cons w word ih =>
      obtain ⟨diagonal, row, rfl, corner⟩ := above.exists_cons
      obtain ⟨up, row, rfl, next⟩ := above.tail.exists_cons
      exact .cons least (ih above.tail (corner.cell next least))

theorem nextRow (above : IsRow down [] word row) (c : Char) :
    IsRow (c :: down) [] word (Text.nextRow word row c) := by
  obtain ⟨first, cells, rfl, corner⟩ := above.exists_cons
  apply above.rowCells
  rw [List.headD_cons, corner.unique (.nil_right down)]
  exact .nil_right (c :: down)

theorem foldl_nextRow (start : IsRow down [] word row) (chars : List Char) :
    IsRow (chars.reverse ++ down) [] word (chars.foldl (Text.nextRow word) row) := by
  induction chars generalizing down row with
  | nil => exact start
  | cons c chars ih =>
      rw [List.reverse_cons, List.append_assoc]
      exact ih (start.nextRow c)

theorem getLastD (isRow : IsRow down read word row) :
    IsDistance down (word.reverse ++ read) (row.getLastD 0) := by
  induction word generalizing read row with
  | nil =>
      rcases isRow with _ | ⟨last, rest⟩
      cases rest
      exact last
  | cons w word ih =>
      obtain ⟨first, row, rfl, _⟩ := isRow.exists_cons
      obtain ⟨next, row, rfl, _⟩ := isRow.tail.exists_cons
      have last := ih isRow.tail
      rw [List.reverse_cons, List.append_assoc]
      exact last

end IsRow

/-- The last cell of the last row is the distance of the two texts, whichever runs down. -/
theorem isDistance_lastRow (down word : List Char) :
    IsDistance down word ((lastRow down word).getLastD 0) := by
  have start : IsRow [] [] word (List.range (word.length + 1)) := by
    rw [List.range_eq_range']
    exact isRow_range' [] word
  have last := (start.foldl_nextRow down).getLastD
  rw [List.append_nil, List.append_nil] at last
  exact last.of_reverse

theorem isDistance_editDistance (a b : List Char) : IsDistance a b (editDistance a b) := by
  rw [editDistance]
  split
  · exact (isDistance_lastRow b a).symm
  · exact isDistance_lastRow a b

/-- The edit distance of two texts is the least number of edits that turn one into the other.  Which
of the texts runs down makes no difference, and neither does it to look at all three ways to a cell
where two characters agree. -/
theorem editDistance_isLeast (a b : List Char) :
    IsLeast {n | Edits n a b} (editDistance a b) ∧
      (lastRow a b).getLastD 0 = editDistance a b ∧
      (lastRow b a).getLastD 0 = editDistance a b ∧
      ∀ c d, editDistance (c :: a) (d :: b) =
        min (editDistance a b + if c = d then 0 else 1)
          (min (editDistance a (d :: b) + 1) (editDistance (c :: a) b + 1)) := by
  have least := isDistance_editDistance a b
  refine ⟨least.isLeast_edits, (isDistance_lastRow a b).unique least,
    (isDistance_lastRow b a).symm.unique least, ?_⟩
  intro c d
  have plain := least.cons_cons (isDistance_editDistance a (d :: b))
    (isDistance_editDistance (c :: a) b)
  exact (isDistance_editDistance (c :: a) (d :: b)).unique plain

end Text
end RegisterAssembly
