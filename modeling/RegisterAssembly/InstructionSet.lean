import RegisterAssembly.Diagnostic
import RegisterAssembly.Text.EditDistance
import RegisterAssembly.Text.LowerCase

/-!
# Instruction sets

An instruction set numbers the mnemonics of a machine.  Mnemonics keep the order in which they were
first entered, a mnemonic that is entered again takes its new opcode, and spelling is exact: case
matters.  A word that is no mnemonic has no opcode, which differs from opcode zero.
-/

namespace RegisterAssembly

/-- Mnemonics with their opcodes, no mnemonic twice. -/
structure InstructionSet where
  entries : List (String × UInt32) := []
  distinct : (entries.map Prod.fst).Nodup := by simp
  deriving DecidableEq

namespace InstructionSet

/-- The mnemonics, in the order in which they were first entered. -/
def mnemonics (set : InstructionSet) : List String :=
  set.entries.map Prod.fst

/-- The opcodes, in the order of the mnemonics. -/
def opcodes (set : InstructionSet) : List UInt32 :=
  set.entries.map Prod.snd

/-- The number of mnemonics. -/
def size (set : InstructionSet) : Nat :=
  set.entries.length

/-- The opcode of a mnemonic. -/
def opcode? (set : InstructionSet) (mnemonic : String) : Option UInt32 :=
  set.entries.lookup mnemonic

/-- Whether a word is a mnemonic. -/
def contains (set : InstructionSet) (mnemonic : String) : Bool :=
  (set.opcode? mnemonic).isSome

/-- Give `mnemonic` the opcode `opcode` in a list of entries that has it. -/
def renumber (mnemonic : String) (opcode : UInt32) (entries : List (String × UInt32)) :
    List (String × UInt32) :=
  entries.map fun entry => if entry.1 = mnemonic then (entry.1, opcode) else entry

theorem map_fst_renumber (mnemonic : String) (opcode : UInt32)
    (entries : List (String × UInt32)) :
    (renumber mnemonic opcode entries).map Prod.fst = entries.map Prod.fst := by
  rw [renumber, List.map_map]
  apply List.map_congr_left
  intro entry _
  simp only [Function.comp_apply]
  split <;> rfl

/-- Enter a mnemonic: a new one goes to the end, a known one is renumbered in its place. -/
def insert (set : InstructionSet) (mnemonic : String) (opcode : UInt32) : InstructionSet :=
  if known : mnemonic ∈ set.entries.map Prod.fst then
    { entries := renumber mnemonic opcode set.entries
      distinct := by rw [map_fst_renumber]; exact set.distinct }
  else
    { entries := set.entries ++ [(mnemonic, opcode)]
      distinct := by
        rw [List.map_append, List.nodup_append]
        refine ⟨set.distinct, by simp, ?_⟩
        intro name member other singleton equal
        simp only [List.map_cons, List.map_nil, List.mem_singleton] at singleton
        exact known (singleton ▸ equal ▸ member) }

/-- Enter a mnemonic whose opcode may be any integer. -/
def insert? (set : InstructionSet) (entry : String × Int) : Except SettingError InstructionSet :=
  if 0 ≤ entry.2 ∧ entry.2 ≤ wordMax then
    .ok (set.insert entry.1 (UInt32.ofNat entry.2.toNat))
  else
    .error (.opcodeRange entry.1 entry.2)

/-- The instruction set with the given opcodes. -/
def ofEntries (entries : List (String × Int)) : Except SettingError InstructionSet :=
  entries.foldlM insert? {}

/-- The instruction set that numbers mnemonics by their positions, counted from zero. -/
def ofMnemonics (mnemonics : List String) : Except SettingError InstructionSet :=
  ofEntries (mnemonics.zipIdx.map fun entry => (entry.1, (entry.2 : Int)))

/-- Two instruction sets agree if they give the same opcodes, in whatever order. -/
def agrees (left right : InstructionSet) : Bool :=
  left.size = right.size &&
    left.entries.all fun entry => right.opcode? entry.1 = some entry.2

/-- A short text that identifies the instruction set. -/
def summary (set : InstructionSet) : String :=
  "InstructionTable(" ++ Decimal.text set.size ++ " mnemonics)"

/-- Whether two words are alike but for case, or for one edit after lowering their case.  An edit is
looked for only between words whose lengths differ by at most one. -/
def isSimilar (word mnemonic : List Char) : Bool :=
  let lowered := Text.lower mnemonic
  let wanted := Text.lower word
  lowered = wanted ||
    ((mnemonic.length ≤ word.length + 1 && word.length ≤ mnemonic.length + 1) &&
      Text.editDistance wanted lowered ≤ 1)

/-- At most three mnemonics that a mistyped word may stand for. -/
def suggestions (set : InstructionSet) (word : String) : List String :=
  (set.mnemonics.filter fun mnemonic => isSimilar word.toList mnemonic.toList).take 3

/-- The mnemonics of the standard machine, in the order of their opcodes. -/
def standardMnemonics : List String :=
  ["nop", "halt",
    "mov", "load", "store",
    "add", "sub", "mul", "div",
    "and", "or", "xor", "not", "shl", "shr",
    "cmp",
    "jmp", "jz", "jnz", "jeq", "jne", "jlt", "jgt", "call", "ret",
    "push", "pop",
    "in", "out"]

/-- The standard machine.  Its few opcodes are words, so that numbering them succeeds. -/
def standard : InstructionSet :=
  (ofMnemonics standardMnemonics).toOption.getD {}

end InstructionSet
end RegisterAssembly
