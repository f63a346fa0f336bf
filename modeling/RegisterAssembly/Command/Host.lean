import RegisterAssembly.Command.Arguments
import RegisterAssembly.Target
import RegisterAssembly.Text.ControlSequence

/-!
# The host of the command

The command leaves it to its host to read the arguments, to write a message and to trace a fault
of the command itself.  It relies on little of that: a register bound that is accepted is a 32-bit
word, and a message is written as it is up to the first escape character.
-/

namespace RegisterAssembly
namespace Command

/-- What a run of the command attempts when a fault ends it. -/
inductive Attempt where
  /-- To make a target of what the environment holds. -/
  | configure (environment : Option String)
  /-- To assemble the file at a path. -/
  | assemble (target : Target) (disk : Disk) (path : String)

/-- What the command leaves to its host. -/
structure Host where
  /-- What the arguments of the command ask for. -/
  readRequest : Disk → List String → Except UsageError Request
  /-- A message as it is written. -/
  plain : List Char → List Char
  /-- The trace of the fault that ends an attempt. -/
  trace : Attempt → String
  range_of_bound : ∀ {disk arguments settings value},
    readRequest disk arguments = .ok (.assemble settings) → settings.bound = some value →
      0 ≤ value ∧ value ≤ wordMax
  plain_append : ∀ {front}, Text.escape ∉ front → ∀ back,
    plain (front ++ back) = front ++ plain back

/-- A host that keeps no traces and leaves the control sequences out of a message. -/
def Host.standard : Host where
  readRequest := Command.readRequest
  plain := Text.plain
  trace _ := ""
  range_of_bound request bound := range_of_readRequest request bound
  plain_append := Text.plain_append_of_not_mem

end Command
end RegisterAssembly
