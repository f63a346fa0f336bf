import RegisterAssembly.Fault
import RegisterAssembly.InstructionSet
import RegisterAssembly.Text.WhiteSpace

/-!
# Target machines

A target is what the payloads depend on: the highest register and the instruction set.  The highest
register has to be a 32-bit word; it can be taken from the environment, spelled like an immediate.
-/

namespace RegisterAssembly

/-- The machine that a source is assembled for. -/
structure Target where
  /-- The highest register index. -/
  registerBound : Int := 31
  instructions : InstructionSet := .standard
  deriving DecidableEq

namespace Target

/-- Targets whose highest register is a 32-bit word. -/
def Valid (target : Target) : Prop :=
  0 ≤ target.registerBound ∧ target.registerBound ≤ wordMax

instance (target : Target) : Decidable target.Valid :=
  inferInstanceAs (Decidable (_ ∧ _))

/-- Refuse a target that is not valid. -/
def check (target : Target) : Except Fault Target :=
  if target.Valid then .ok target else .error (.ofSetting (.boundRange target.registerBound))

/-- The standard machine with the register bound that the environment holds, if it holds one. -/
def ofEnvironment (value : Option String) : Except Fault Target :=
  match value with
  | none => .ok {}
  | some text =>
      if text.isEmpty then .ok {}
      else
        match Literal.evaluate (Text.trim Text.isWhiteSpace text.toList) with
        | .error limit => .error (.digits limit)
        | .ok none => .error (.ofSetting (.boundText text))
        | .ok (some bound) => check { registerBound := bound }

end Target
end RegisterAssembly
