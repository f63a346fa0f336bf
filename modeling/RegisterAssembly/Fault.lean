import RegisterAssembly.Diagnostic
import RegisterAssembly.Text.Utf8

/-!
# Faults

A fault is why an operation has no result.  Problems of a source are no faults: they go into a
report.  Every fault has a sentence that reports it.
-/

namespace RegisterAssembly

/-- Why a file could not be read, by the number and the words that the system gives for it. -/
structure FileFault where
  /-- Number of the system error. -/
  code : Int
  reason : String
  path : String
  deriving DecidableEq, Repr

namespace FileFault

/-- Nothing is at the path. -/
def notFound (path : String) : FileFault :=
  ⟨2, "No such file or directory", path⟩

/-- The file at the path may not be read. -/
def denied (path : String) : FileFault :=
  ⟨13, "Permission denied", path⟩

/-- The path, or a name in it, has too many bytes. -/
def tooLong (path : String) : FileFault :=
  ⟨36, "File name too long", path⟩

/-- The path goes through a file. -/
def notADirectory (path : String) : FileFault :=
  ⟨20, "Not a directory", path⟩

/-- A directory is at the path. -/
def isADirectory (path : String) : FileFault :=
  ⟨21, "Is a directory", path⟩

/-- The sentence that reports the fault. -/
def message (fault : FileFault) : String :=
  "[Errno " ++ Decimal.text fault.code ++ "] " ++ fault.reason ++ ": " ++
    Text.quoted fault.path

end FileFault

/-- The largest position in a sequence. -/
def positionMax : Nat := 0x7FFFFFFFFFFFFFFF

/-- Why an operation has no result. -/
inductive Fault where
  /-- The diagnostic is raised instead of reported. -/
  | diagnostic (raised : Diagnostic)
  /-- A complaint that is no diagnostic. -/
  | plain (message : String)
  /-- An integer is too long to be read or written. -/
  | digits (limit : DigitLimit)
  /-- Nothing is at the path. -/
  | notFound (fault : FileFault)
  /-- The file may not be read. -/
  | denied (fault : FileFault)
  /-- The path names a directory, goes through a file or is too long. -/
  | unusablePath (fault : FileFault)
  /-- A text that the system is to be given holds a NUL character. -/
  | nulCharacter
  /-- The file is not UTF-8. -/
  | encoding (defect : Text.EncodingDefect)
  /-- The word has no entry. -/
  | noEntry (word : String)
  /-- The position lies outside the sequence. -/
  | outside
  /-- The position is further off than any sequence is long. -/
  | positionOverflow
  /-- A caret would stand further to the right than any line is long. -/
  | columnOverflow
  /-- There is no room for a line with a caret so far to the right. -/
  | noRoom
  /-- A stretch was asked for in steps of zero. -/
  | zeroStep
  /-- Anything else, in the words given. -/
  | other (message : String)
  deriving DecidableEq, Repr

namespace Fault

/-- The sentence that reports the fault. -/
def message : Fault → String
  | diagnostic raised => raised.text
  | plain message => message
  | digits limit => limit.message
  | notFound fault => fault.message
  | denied fault => fault.message
  | unusablePath fault => fault.message
  | nulCharacter => "embedded null byte"
  | encoding defect => defect.message
  | noEntry word => Text.quoted word
  | outside => "list index out of range"
  | positionOverflow => "cannot fit 'int' into an index-sized integer"
  | columnOverflow => "cannot fit 'int' into an index-sized integer"
  | noRoom => ""
  | zeroStep => "slice step cannot be zero"
  | other message => message

/-- The fault of an unusable setting. -/
def ofSetting (error : SettingError) : Fault :=
  if error.Writable then .diagnostic { problem := .setting error none } else .digits .writing

end Fault
end RegisterAssembly
