import Mathlib.Data.List.Basic
import RegisterAssembly.Text.Split

/-!
# Splitting and joining

Splitting a text at a separator and joining parts by it undo each other, for parts that the
separator does not occur in.  A text that goes on after its last separator is split further on in
its last part.
-/

namespace RegisterAssembly
namespace Text

theorem splitOn_eq (separator : Char) (chars : List Char) :
    splitOn separator chars = chars.splitOn separator := by
  induction chars with
  | nil => rfl
  | cons c chars ih =>
      rw [splitOn_cons, List.splitOn_cons_eq_if_modifyHead, ih]
      simp

theorem intercalate_splitOn (separator : Char) (chars : List Char) :
    [separator].intercalate (splitOn separator chars) = chars := by
  rw [splitOn_eq, List.intercalate_splitOn]

theorem splitOn_intercalate {separator : Char} {parts : List (List Char)} (nonempty : parts ≠ [])
    (clean : ∀ part ∈ parts, separator ∉ part) :
    splitOn separator ([separator].intercalate parts) = parts := by
  rw [splitOn_eq, List.splitOn_intercalate separator clean nonempty]

theorem not_mem_of_mem_splitOn {separator : Char} {chars part : List Char}
    (member : part ∈ splitOn separator chars) : separator ∉ part := by
  induction chars generalizing part with
  | nil =>
      cases List.mem_singleton.mp member
      exact List.not_mem_nil
  | cons c chars ih =>
      obtain ⟨first, parts, split⟩ := List.exists_cons_of_ne_nil (splitOn_ne_nil separator chars)
      rw [splitOn_cons, split] at member
      rw [split] at ih
      split at member
      · rcases List.mem_cons.mp member with rfl | member
        · exact List.not_mem_nil
        · exact ih member
      · rename_i other
        rw [List.modifyHead_cons] at member
        rcases List.mem_cons.mp member with rfl | member
        · rw [List.mem_cons, not_or]
          exact ⟨Ne.symm other, ih List.mem_cons_self⟩
        · exact ih (List.mem_cons_of_mem _ member)

theorem splitOn_append (separator : Char) (front back : List Char) :
    splitOn separator (front ++ back) =
      (splitOn separator front).dropLast ++
        (splitOn separator back).modifyHead
          ((splitOn separator front).getLast (splitOn_ne_nil separator front) ++ ·) := by
  induction front with
  | nil =>
      obtain ⟨part, parts, split⟩ := List.exists_cons_of_ne_nil (splitOn_ne_nil separator back)
      simp [split]
  | cons c front ih =>
      obtain ⟨part, parts, split⟩ := List.exists_cons_of_ne_nil (splitOn_ne_nil separator front)
      by_cases same : c = separator
      · simp [splitOn_cons, same, ih, split]
      · cases parts with
        | nil =>
            obtain ⟨next, rest, split'⟩ :=
              List.exists_cons_of_ne_nil (splitOn_ne_nil separator back)
            simp [splitOn_cons, same, ih, split, split']
        | cons next rest => simp [splitOn_cons, same, ih, split]

theorem prefix_intercalate (separator part : List Char) (parts : List (List Char)) :
    part.IsPrefix (separator.intercalate (part :: parts)) := by
  cases parts with
  | nil => exact ⟨[], by rw [List.append_nil, List.intercalate_singleton]⟩
  | cons next parts =>
      rw [List.intercalate_cons_cons, List.append_assoc]
      exact List.prefix_append _ _

theorem intercalate_sublist {separator : List Char} {left right : List (List Char)}
    (sublist : left.Sublist right) :
    (separator.intercalate left).Sublist (separator.intercalate right) := by
  induction sublist with
  | slnil => exact .refl _
  | @cons left right part sublist ih =>
      by_cases last : right = []
      · subst last
        cases sublist
        exact List.nil_sublist _
      · rw [List.intercalate_cons_of_ne_nil last]
        exact ih.trans (List.sublist_append_right _ _)
  | @cons_cons left right part sublist ih =>
      by_cases last : left = []
      · subst last
        rw [List.intercalate_singleton]
        exact (prefix_intercalate separator part right).sublist
      · have more : right ≠ [] := by
          rintro rfl
          exact last (List.sublist_nil.mp sublist)
        rw [List.intercalate_cons_of_ne_nil last, List.intercalate_cons_of_ne_nil more]
        exact (List.Sublist.refl _).append ih

theorem mem_intercalate {separator c : Char} {parts : List (List Char)}
    (member : c ∈ [separator].intercalate parts) : c = separator ∨ ∃ part ∈ parts, c ∈ part := by
  induction parts with
  | nil => exact absurd member List.not_mem_nil
  | cons part parts ih =>
      rw [List.exists_mem_cons_iff]
      cases parts with
      | nil =>
          rw [List.intercalate_singleton] at member
          exact .inr (.inl member)
      | cons next parts =>
          rw [List.intercalate_cons_cons, List.append_assoc, List.mem_append, List.mem_append,
            List.mem_singleton] at member
          rcases member with among | same | among
          · exact .inr (.inl among)
          · exact .inl same
          · exact (ih among).imp_right .inr

end Text
end RegisterAssembly
