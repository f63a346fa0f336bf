import RegisterAssembly.Command.Run

/-!
# The program

Looks up in the file system and the environment what the command may ask for, runs it, and writes
what it leaves.
-/

namespace RegisterAssembly

/-- What the file system has at a path. -/
def lookUp (path : String) : IO Found := do
  try
    return .file (← IO.FS.readBinFile path).toList
  catch error =>
    match error with
    | .inappropriateType _ 21 _ => return .directory
    | .inappropriateType _ _ _ => return .blocked
    | .permissionDenied _ _ _ => return .locked
    | .invalidArgument _ 36 _ => return .tooLong
    | _ => return .nothing

/-- The paths that a command with these arguments may look at. -/
def pathsToLookUp (arguments : List String) : List String :=
  match Command.sortArguments false arguments with
  | .error _ => []
  | .ok sorted =>
      sorted.operands.take 1 ++ (sorted.operands.take 1).map FilePath.normal

end RegisterAssembly

open RegisterAssembly in
/-- Run the command with the arguments that the program was given. -/
def main (arguments : List String) : IO UInt32 := do
  let environment ← IO.getEnv boundVariable
  let found ← (pathsToLookUp arguments).mapM fun path => return (path, ← lookUp path)
  let disk : Disk := { find := fun path => (found.lookup path).getD .nothing }
  match Command.run .standard disk environment arguments with
  | .error fault =>
      IO.eprintln fault.message
      return 1
  | .ok outcome =>
      IO.print outcome.stdout
      IO.eprint outcome.stderr
      return outcome.exit.number.toUInt32
