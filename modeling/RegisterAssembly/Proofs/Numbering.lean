import Mathlib.Data.List.Induction
import RegisterAssembly.Proofs.Annotation

/-!
# Numbering mnemonics

An instruction set can be made from a list of mnemonics, which may repeat some of them.  The order
in which it keeps them is that of their first occurrences, but the opcode of each is the position of
its last one.  Both are invariants of entering one mnemonic after the other.  No two mnemonics occur
last at one position, so that an opcode tells which mnemonic it stands for, and the words that are
resolved in a listing have the same payload just if they are the same.
-/

namespace RegisterAssembly
namespace InstructionSet

/-- The last occurrence of a name in a list is at a position. -/
def LastAt (names : List String) (name : String) (position : Nat) : Prop :=
  names[position]? = some name ∧ name ∉ names.drop (position + 1)

namespace LastAt

variable {names : List String} {name other : String} {position later : Nat}

theorem append_self (names : List String) (name : String) :
    LastAt (names ++ [name]) name names.length := by
  constructor
  · exact List.getElem?_concat_length
  · rw [List.drop_of_length_le (by simp)]
    exact List.not_mem_nil

theorem append_of_ne (last : LastAt names name position) (different : name ≠ other) :
    LastAt (names ++ [other]) name position := by
  obtain ⟨found, absent⟩ := last
  have within : position < names.length := (List.getElem?_eq_some_iff.mp found).1
  constructor
  · rw [List.getElem?_append_left within, found]
  · rw [List.drop_append_of_le_length within, List.mem_append, List.mem_singleton, not_or]
    exact ⟨absent, different⟩

theorem le (last : LastAt names name position) (found : names[later]? = some name) :
    later ≤ position := by
  by_contra after
  apply last.2
  apply List.mem_of_getElem? (i := later - (position + 1))
  rw [List.getElem?_drop, Nat.add_sub_cancel' (Nat.lt_of_not_le after), found]

theorem position_unique (left : LastAt names name position) (right : LastAt names name later) :
    position = later :=
  Nat.le_antisymm (right.le left.1) (left.le right.1)

theorem name_unique (left : LastAt names name position) (right : LastAt names other position) :
    name = other :=
  Option.some.inj (left.1.symm.trans right.1)

end LastAt

/-! ## Numbering a list -/

variable {set : InstructionSet} {names : List String}

theorem mem_mnemonics_iff (set : InstructionSet) (name : String) :
    name ∈ set.mnemonics ↔ ∃ opcode, set.opcode? name = some opcode := by
  simp [mnemonics, opcode?_eq_some_iff]

theorem entries_insert_of_mem {name : String} (known : name ∈ set.mnemonics) (opcode : UInt32) :
    (set.insert name opcode).entries = renumber name opcode set.entries :=
  congrArg entries (dif_pos known)

theorem entries_insert_of_not_mem {name : String} (new : name ∉ set.mnemonics) (opcode : UInt32) :
    (set.insert name opcode).entries = set.entries ++ [(name, opcode)] :=
  congrArg entries (dif_neg new)

theorem mnemonics_insert (set : InstructionSet) (name : String) (opcode : UInt32) :
    (set.insert name opcode).mnemonics =
      if name ∈ set.mnemonics then set.mnemonics else set.mnemonics ++ [name] := by
  by_cases known : name ∈ set.mnemonics
  · rw [if_pos known, mnemonics, entries_insert_of_mem known, map_fst_renumber, mnemonics]
  · rw [if_neg known, mnemonics, entries_insert_of_not_mem known, List.map_append, mnemonics]
    rfl

theorem mem_renumber_iff {name : String} {opcode : UInt32} {entries : List (String × UInt32)}
    (known : name ∈ entries.map Prod.fst) (word : String) (found : UInt32) :
    (word, found) ∈ renumber name opcode entries ↔
      if word = name then found = opcode else (word, found) ∈ entries := by
  obtain ⟨entry, member, rfl⟩ := List.mem_map.mp known
  rw [renumber, List.mem_map]
  split
  · rename_i same
    constructor
    · rintro ⟨other, _, renumbered⟩
      split at renumbered
      · exact (congrArg Prod.snd renumbered).symm
      · rename_i different
        cases renumbered
        exact absurd same different
    · rintro rfl
      exact ⟨entry, member, by rw [if_pos rfl, same]⟩
  · rename_i different
    constructor
    · rintro ⟨other, member', renumbered⟩
      split at renumbered
      · rename_i same
        cases renumbered
        exact absurd same different
      · exact renumbered ▸ member'
    · intro member'
      exact ⟨_, member', if_neg different⟩

/-- Entering a mnemonic gives it its opcode and leaves the others theirs. -/
theorem opcode?_insert (set : InstructionSet) (name : String) (opcode : UInt32) (word : String) :
    (set.insert name opcode).opcode? word =
      if word = name then some opcode else set.opcode? word := by
  apply Option.ext
  intro found
  have entered : (word, found) ∈ (set.insert name opcode).entries ↔
      if word = name then found = opcode else (word, found) ∈ set.entries := by
    by_cases known : name ∈ set.mnemonics
    · rw [entries_insert_of_mem known]
      exact mem_renumber_iff known word found
    · have absent : (name, found) ∉ set.entries := by
        intro member
        exact known (List.mem_map.mpr ⟨_, member, rfl⟩)
      rw [entries_insert_of_not_mem known, List.mem_append, List.mem_singleton, Prod.mk.injEq]
      split
      · rename_i same
        simp [same, absent]
      · rename_i different
        simp [different]
  rw [opcode?_eq_some_iff, entered]
  split
  · rw [Option.some.injEq, eq_comm]
  · exact (opcode?_eq_some_iff set word found).symm

/-- An instruction set numbers a list: it has the mnemonics of the list, in the order of their first
occurrences, and the opcode of each is the position of its last one. -/
structure Numbers (set : InstructionSet) (names : List String) : Prop where
  mem_iff : ∀ name, name ∈ set.mnemonics ↔ name ∈ names
  ordered : set.mnemonics.Pairwise fun earlier later => names.idxOf earlier < names.idxOf later
  last : ∀ name opcode, set.opcode? name = some opcode → LastAt names name opcode.toNat

theorem toNat_ofNat_of_le {position : Nat} (small : position ≤ wordMax) :
    (UInt32.ofNat position).toNat = position :=
  UInt32.toNat_ofNat_of_lt' (Nat.lt_succ_of_le small)

theorem numbers_nil : Numbers {} [] where
  mem_iff name := Iff.rfl
  ordered := .nil
  last name opcode found := by cases found

/-- Entering one more mnemonic, with its position, numbers the list that is one longer. -/
theorem Numbers.insert (numbers : set.Numbers names) (room : names.length ≤ wordMax)
    (name : String) :
    (set.insert name (UInt32.ofNat names.length)).Numbers (names ++ [name]) where
  mem_iff word := by
    rw [mnemonics_insert, List.mem_append, List.mem_singleton, ← numbers.mem_iff]
    split
    · rename_i known
      constructor
      · exact .inl
      · rintro (member | rfl)
        · exact member
        · exact known
    · rw [List.mem_append, List.mem_singleton]
  ordered := by
    have first {word : String} (member : word ∈ set.mnemonics) :
        (names ++ [name]).idxOf word = names.idxOf word :=
      List.idxOf_append_of_mem ((numbers.mem_iff word).mp member)
    have kept : set.mnemonics.Pairwise fun earlier later =>
        (names ++ [name]).idxOf earlier < (names ++ [name]).idxOf later := by
      refine numbers.ordered.imp_of_mem ?_
      intro earlier later member member' before
      rw [first member, first member']
      exact before
    rw [mnemonics_insert]
    split
    · exact kept
    · rename_i new
      -- a new mnemonic occurs first at the end, after all that are known
      rw [List.pairwise_append]
      refine ⟨kept, List.pairwise_singleton _ _, ?_⟩
      intro earlier member later singleton
      rw [List.mem_singleton] at singleton
      rw [singleton, first member, List.idxOf_append_of_notMem (mt (numbers.mem_iff name).mpr new)]
      exact Nat.lt_add_right _ (List.idxOf_lt_length_of_mem ((numbers.mem_iff earlier).mp member))
  last word opcode found := by
    rw [opcode?_insert] at found
    split at found
    · rename_i same
      cases found
      rw [toNat_ofNat_of_le room, same]
      exact .append_self names name
    · rename_i different
      exact (numbers.last word opcode found).append_of_ne different

namespace Numbers

theorem opcode?_eq_none_iff (numbers : set.Numbers names) (name : String) :
    set.opcode? name = none ↔ name ∉ names := by
  rw [← numbers.mem_iff, mem_mnemonics_iff, not_exists, Option.eq_none_iff_forall_ne_some]

theorem opcode?_eq_iff (numbers : set.Numbers names) (name : String) (position : Nat) :
    (set.opcode? name).map UInt32.toNat = some position ↔ LastAt names name position := by
  rw [Option.map_eq_some_iff]
  constructor
  · rintro ⟨opcode, found, rfl⟩
    exact numbers.last name opcode found
  · intro last
    have known := (numbers.mem_iff name).mpr (List.mem_of_getElem? last.1)
    obtain ⟨opcode, found⟩ := (mem_mnemonics_iff set name).mp known
    exact ⟨opcode, found, (numbers.last name opcode found).position_unique last⟩

/-- An opcode tells the mnemonic that it stands for. -/
theorem name_unique (numbers : set.Numbers names) {left right : String} {opcode opcode' : UInt32}
    (found : set.opcode? left = some opcode) (found' : set.opcode? right = some opcode')
    (same : opcode.toNat = opcode'.toNat) : left = right :=
  (numbers.last left opcode found).name_unique (same ▸ numbers.last right opcode' found')

end Numbers

theorem insert?_position (set : InstructionSet) (name : String) (position : Nat) :
    set.insert? (name, (position : Int)) =
      if position ≤ wordMax then .ok (set.insert name (UInt32.ofNat position))
      else .error (.opcodeRange name position) := by
  simp [insert?]

theorem ofMnemonics_append_singleton (names : List String) (name : String) :
    ofMnemonics (names ++ [name]) =
      (ofMnemonics names).bind fun set => set.insert? (name, (names.length : Int)) := by
  rw [ofMnemonics, ofEntries, List.zipIdx_append, List.map_append, List.foldlM_append,
    List.zipIdx_singleton, Nat.zero_add, List.map_singleton]
  simp only [List.foldlM_cons, List.foldlM_nil, bind_pure]
  rfl

/-- A list that leaves all positions words is numbered. -/
theorem exists_numbers (names : List String) (short : names.length ≤ wordMax + 1) :
    ∃ set, ofMnemonics names = .ok set ∧ set.Numbers names := by
  induction names using List.reverseRecOn with
  | nil => exact ⟨{}, rfl, numbers_nil⟩
  | append_singleton names name ih =>
      rw [List.length_append, List.length_singleton] at short
      have room := Nat.le_of_succ_le_succ short
      obtain ⟨set, made, numbers⟩ := ih (Nat.le_of_succ_le short)
      refine ⟨_, ?_, numbers.insert room name⟩
      rw [ofMnemonics_append_singleton, made]
      exact (insert?_position set name names.length).trans (if_pos room)

/-- A longer list has a position that is no word, and is refused. -/
theorem exists_error_of_long (names : List String) (long : wordMax + 1 < names.length) :
    ∃ error, ofMnemonics names = .error error := by
  induction names using List.reverseRecOn with
  | nil => cases long
  | append_singleton names name ih =>
      rw [ofMnemonics_append_singleton]
      rw [List.length_append, List.length_singleton] at long
      rcases Nat.lt_or_eq_of_le (Nat.le_of_lt_succ long) with longer | full
      · obtain ⟨error, refused⟩ := ih longer
        rw [refused]
        exact ⟨error, rfl⟩
      · obtain ⟨set, made, _⟩ := exists_numbers names full.ge
        rw [made]
        have outside : ¬ names.length ≤ wordMax := by omega
        exact ⟨_, (insert?_position set name names.length).trans (if_neg outside)⟩

theorem exists_ofMnemonics_iff (names : List String) :
    (∃ set, ofMnemonics names = .ok set) ↔ names.length ≤ wordMax + 1 := by
  constructor
  · rintro ⟨set, made⟩
    by_contra long
    obtain ⟨error, refused⟩ := exists_error_of_long names (Nat.lt_of_not_le long)
    cases made.symm.trans refused
  · intro short
    obtain ⟨set, made, _⟩ := exists_numbers names short
    exact ⟨set, made⟩

theorem numbers_of_ofMnemonics (made : ofMnemonics names = .ok set) : set.Numbers names := by
  have short := (exists_ofMnemonics_iff names).mp ⟨_, made⟩
  obtain ⟨set', made', numbers⟩ := exists_numbers names short
  cases made.symm.trans made'
  exact numbers

end InstructionSet

/-! ## Words of a listing -/

namespace Annotator

variable {annotator : Annotator} {listing : Listing} {token : Token}

/-- The payload of a resolved word is its opcode. -/
theorem payload_of_resolved_word (member : token ∈ (annotator.run listing).listing.tokens)
    (instruction : token.kind = .instruction) (resolved : token.resolved) :
    ∃ opcode, annotator.target.instructions.opcode? token.text = some opcode ∧
      token.payload = opcode.toNat := by
  obtain ⟨index, found⟩ := List.mem_iff_getElem?.mp member
  obtain ⟨original, scanned, kind, text⟩ := exists_of_shape_eq (shape_run annotator listing) found
  rw [instruction] at kind
  by_cases denoted : annotator.passes listing (index + 1) ∧
      ∃ value, original.Denotes annotator.target value
  · obtain ⟨passed, value, denoted⟩ := denoted
    rw [getElem?_run_of_denotes scanned denoted passed] at found
    cases found
    obtain ⟨opcode, entered, rfl⟩ := (Token.denotes_instruction_iff kind).mp denoted
    exact ⟨opcode, entered, rfl⟩
  · have blank := getElem?_run_of_blank scanned (by simp [kind]) fun passed denotes =>
      denoted ⟨passed, denotes⟩
    cases found.symm.trans blank
    cases resolved

/-- Resolved words have the same payload just if they are the same. -/
theorem payload_eq_iff_text_eq {names : List String}
    (numbers : annotator.target.instructions.Numbers names) {left right : Token}
    (member : left ∈ (annotator.run listing).listing.tokens)
    (member' : right ∈ (annotator.run listing).listing.tokens)
    (instruction : left.kind = .instruction) (instruction' : right.kind = .instruction)
    (resolved : left.resolved) (resolved' : right.resolved) :
    left.payload = right.payload ↔ left.text = right.text := by
  obtain ⟨opcode, found, payload⟩ := payload_of_resolved_word member instruction resolved
  obtain ⟨opcode', found', payload'⟩ := payload_of_resolved_word member' instruction' resolved'
  rw [payload, payload']
  constructor
  · intro same
    exact numbers.name_unique found found' (Int.ofNat_inj.mp same)
  · intro same
    rw [same, found'] at found
    cases found
    rfl

end Annotator

namespace InstructionSet

/-- Numbering is unambiguous.  An instruction set can be made from a list of mnemonics just if all
positions in the list are words.  A mnemonic then has the position of its last occurrence as its
opcode, no other word has one, no two mnemonics share one, and the mnemonics are kept in the order
of their first occurrences, each once.  So the resolved words of any listing that is annotated with
the instruction set have the same payload just if they are the same. -/
theorem ofMnemonics_numbers (names : List String) :
    ((∃ set, ofMnemonics names = .ok set) ↔ names.length ≤ wordMax + 1) ∧
    ∀ set, ofMnemonics names = .ok set →
      (∀ name position,
        (set.opcode? name).map UInt32.toNat = some position ↔ LastAt names name position) ∧
      (∀ name, set.opcode? name = none ↔ name ∉ names) ∧
      (∀ left right, left ∈ names → set.opcode? left = set.opcode? right → left = right) ∧
      (set.mnemonics.Nodup ∧ (∀ name, name ∈ set.mnemonics ↔ name ∈ names) ∧
        set.mnemonics.Pairwise fun earlier later => names.idxOf earlier < names.idxOf later) ∧
      ∀ (annotator : Annotator) (listing : Listing), annotator.target.instructions = set →
        ∀ left ∈ (annotator.run listing).listing.tokens,
          ∀ right ∈ (annotator.run listing).listing.tokens,
            left.kind = .instruction → right.kind = .instruction →
              left.resolved → right.resolved →
                (left.payload = right.payload ↔ left.text = right.text) := by
  refine ⟨exists_ofMnemonics_iff names, ?_⟩
  intro set made
  have numbers := numbers_of_ofMnemonics made
  refine ⟨numbers.opcode?_eq_iff, numbers.opcode?_eq_none_iff, ?_,
    ⟨set.distinct, numbers.mem_iff, numbers.ordered⟩, ?_⟩
  · intro left right member same
    obtain ⟨opcode, found⟩ := (mem_mnemonics_iff set left).mp ((numbers.mem_iff left).mpr member)
    exact numbers.name_unique found (same ▸ found) rfl
  · rintro annotator listing rfl left member right member' instruction instruction'
    exact Annotator.payload_eq_iff_text_eq numbers member member' instruction instruction'

/-- The instruction set of the list `b a b`. -/
def repeatedSet : InstructionSet where
  entries := [("b", 2), ("a", 1)]
  distinct := by decide

/-- The words of that list, and one more, annotated for a machine with that instruction set. -/
def repeatedWords : Listing :=
  (Annotator.run { target := { instructions := repeatedSet } } (.scan "b a b B" "words")).listing

theorem ofMnemonics_numbers_repeated :
    ofMnemonics ["b", "a", "b"] = .ok repeatedSet ∧
      (repeatedSet.opcode? "b").map UInt32.toNat = some 2 ∧ repeatedSet.opcode? "B" = none ∧
      (repeatedWords.tokens.take 3).map (·.text) = ["b", "a", "b"] ∧
      ∀ left ∈ repeatedWords.tokens.take 3, ∀ right ∈ repeatedWords.tokens.take 3,
        (left.payload = right.payload ↔ left.text = right.text) := by
  have made : ofMnemonics ["b", "a", "b"] = .ok repeatedSet := by decide +kernel
  have resolved : ∀ token ∈ repeatedWords.tokens.take 3,
      token.kind = .instruction ∧ token.resolved := by decide +kernel
  obtain ⟨last, unknown, _, _, words⟩ := (ofMnemonics_numbers ["b", "a", "b"]).2 repeatedSet made
  refine ⟨made, (last "b" 2).mpr ⟨rfl, by decide⟩, (unknown "B").mpr (by decide),
    by decide +kernel, ?_⟩
  intro left member right member'
  obtain ⟨instruction, complete⟩ := resolved left member
  obtain ⟨instruction', complete'⟩ := resolved right member'
  exact words _ _ rfl left (List.mem_of_mem_take member) right (List.mem_of_mem_take member')
    instruction instruction' complete complete'

end InstructionSet
end RegisterAssembly
