import RegisterAssembly.Fault

/-!
# Laying out diagnostics

A diagnostic is made with its text, so it cannot be made if its text cannot be laid out: if its
place is too long to be written, or if a caret would stand too far to the right.  There is always
room for a caret under a character of the quoted line or directly after it, since such a line of
blanks is no longer than the quoted one.
-/

namespace RegisterAssembly
namespace Diagnostic

/-- The columns that have room for a caret whatever the quoted line. -/
def caretRoom : Nat := 0x1000000000

/-- What keeps a caret from being put at a column below a quoted line. -/
def caretFault? (line : String) (column : Int) : Option Fault :=
  if column ≤ caretRoom || column ≤ line.length + 1 then none
  else if margin.length + column - 1 ≤ positionMax then some .noRoom
  else some .columnOverflow

/-- What keeps a diagnostic from being laid out. -/
def layoutFault? (place : Place) (quoted : Option String) : Option Fault :=
  if place.Writable then quoted.bind fun line => caretFault? line place.column
  else some (.digits .writing)

/-- A diagnostic about a problem, unless it cannot be laid out. -/
def located? (problem : Problem) (place : Option Place) (quoted : Option String) :
    Except Fault Diagnostic :=
  match place.bind fun known => layoutFault? known quoted with
  | some fault => .error fault
  | none => .ok ⟨problem, place, quoted⟩

theorem caretFault?_of_le {line : String} {column : Int} (inside : column ≤ line.length + 1) :
    caretFault? line column = none := by
  simp [caretFault?, inside]

end Diagnostic
end RegisterAssembly
