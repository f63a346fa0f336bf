import RegisterAssembly.Text.Split

/-!
# File paths

A path is a sequence of names between slashes.  Its normal form has no empty names and no name
`.`, so no doubled or trailing slash; names `..` stay.  A path of no names is `.`, and exactly two
leading slashes are kept apart from one.
-/

namespace RegisterAssembly
namespace FilePath

/-- The names of a path, empty ones included. -/
def names (path : String) : List String :=
  (Text.splitOn '/' path.toList).map String.ofList

/-- The slashes that make a path absolute, in their normal form. -/
def root (path : String) : String :=
  match path.toList.takeWhile (· = '/') with
  | [] => ""
  | [_, _] => "//"
  | _ => "/"

/-- The normal form of a path. -/
def normal (path : String) : String :=
  let kept := (names path).filter fun name => name ≠ "" && name ≠ "."
  let text := root path ++ "/".intercalate kept
  if text = "" then "." else text

/-- Whether a path starts at the root. -/
def isAbsolute (path : String) : Bool :=
  root path ≠ ""

end FilePath
end RegisterAssembly
