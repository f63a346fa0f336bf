import RegisterAssembly.Fault
import RegisterAssembly.FilePath
import RegisterAssembly.Text.Line

/-!
# Disks

A disk tells what is found at a path.  A directory in memory is a disk: a path is followed name by
name from the working directory, which holds the files of the directory and the directories on
their paths.  Nothing is known of what lies outside the working directory.
-/

namespace RegisterAssembly

/-- What is found at a path. -/
inductive Found where
  | nothing
  /-- The path goes on after a file. -/
  | blocked
  | directory
  /-- A file that may not be read. -/
  | locked
  /-- The path, or a name that was looked up on it, has too many bytes. -/
  | tooLong
  /-- The path holds a NUL character, so that it cannot be looked up. -/
  | unnameable
  | file (bytes : List UInt8)
  deriving DecidableEq, Repr

/-- What is found at every path. -/
structure Disk where
  find : String → Found

namespace Disk

/-- Read the text of a file: UTF-8, with every kind of line break as a newline. -/
def read (disk : Disk) (path : String) : Except Fault (List Char) :=
  match disk.find path with
  | .nothing => .error (.notFound (.notFound path))
  | .blocked => .error (.unusablePath (.notADirectory path))
  | .directory => .error (.unusablePath (.isADirectory path))
  | .locked => .error (.denied (.denied path))
  | .tooLong => .error (.unusablePath (.tooLong path))
  | .unnameable => .error .nulCharacter
  | .file bytes =>
      match Text.decodeUtf8 bytes with
      | .error defect => .error (.encoding defect)
      | .ok chars => .ok (Text.unifyNewlines chars)

end Disk

/-- Everything below a working directory, by the names on the way to it. -/
structure Directory where
  folders : List (List String) := []
  files : List (List String × List UInt8) := []
  deriving DecidableEq, Repr

/-- How far a path has been followed. -/
inductive Standing where
  /-- At a directory below the working directory, or at that itself. -/
  | inside (folder : List String)
  /-- At a directory that is not below the working directory. -/
  | outside
  | atFile (bytes : List UInt8)
  | lost (found : Found)
  deriving DecidableEq, Repr

namespace Directory

/-- The largest number of bytes in a name. -/
def nameMax : Nat := 255

/-- The largest number of bytes in a path. -/
def pathMax : Nat := 4095

/-- Go from a folder to the one that a name means there. -/
def enter (folder : List String) (name : String) : List String :=
  if name = "" ∨ name = "." then folder
  else if name = ".." then folder.dropLast
  else folder ++ [name]

/-- The folders on a way from a folder, that one left out. -/
def foldersAlong (folder : List String) : List String → List (List String)
  | [] => []
  | name :: names => enter folder name :: foldersAlong (enter folder name) names

/-- Add a file at a relative path, and the folders on the way to it. -/
def addFile (directory : Directory) (path : String) (bytes : List UInt8) : Directory :=
  let names := FilePath.names path
  { folders := directory.folders ++ foldersAlong [] names.dropLast
    files := directory.files ++ [(names.foldl enter [], bytes)] }

/-- The directory that holds files given by relative paths. -/
def ofPaths (files : List (String × List UInt8)) : Directory :=
  files.foldl (fun directory file => directory.addFile file.1 file.2) {}

/-- Follow one more name of a path. -/
def follow (directory : Directory) (standing : Standing) (name : String) : Standing :=
  match standing with
  | .lost found => .lost found
  | .atFile _ => .lost .blocked
  | .outside =>
      if name = "" ∨ name = "." ∨ name = ".." then .outside
      else if nameMax < name.utf8ByteSize then .lost .tooLong
      else .lost .nothing
  | .inside folder =>
      if name = ".." ∧ folder = [] then .outside
      else if name = "" ∨ name = "." ∨ name = ".." then .inside (enter folder name)
      else if nameMax < name.utf8ByteSize then .lost .tooLong
      else
        match directory.files.lookup (enter folder name) with
        | some bytes => .atFile bytes
        | none =>
            if enter folder name ∈ directory.folders then .inside (enter folder name)
            else .lost .nothing

/-- What is found where a path ends. -/
def found : Standing → Found
  | .inside _ => .directory
  | .outside => .directory
  | .atFile bytes => .file bytes
  | .lost found => found

/-- The disk that has the directory as its working directory. -/
def toDisk (directory : Directory) : Disk where
  find path :=
    if '\x00' ∈ path.toList then .unnameable
    else if path = "" then .nothing
    else if pathMax < path.utf8ByteSize then .tooLong
    else
      let start := if FilePath.isAbsolute path then .outside else .inside []
      found ((FilePath.names path).foldl directory.follow start)

end Directory
end RegisterAssembly
