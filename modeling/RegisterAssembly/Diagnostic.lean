import RegisterAssembly.Literal
import RegisterAssembly.Token

/-!
# Diagnostics

A diagnostic states a problem and, where it is known, the place in the source and the line there.
Its text has a header line, the quoted line with a caret under the place, and a hint.  Only an
unknown token is fatal.
-/

namespace RegisterAssembly

/-- An unusable setting. -/
inductive SettingError where
  /-- The opcode of a mnemonic is no 32-bit word. -/
  | opcodeRange (mnemonic : String) (opcode : Int)
  /-- The register bound is no 32-bit word. -/
  | boundRange (bound : Int)
  /-- The register bound in the environment is no literal. -/
  | boundText (text : String)
  /-- Any other complaint, in the words given. -/
  | stated (message : String)
  deriving DecidableEq, Repr

/-- The environment variable that holds the register bound. -/
def boundVariable : String := "REGASM_MAX_REGISTER"

namespace SettingError

/-- The sentence that reports the error. -/
def message : SettingError → String
  | opcodeRange mnemonic opcode =>
      "opcode " ++ Decimal.text opcode ++ " for '" ++ mnemonic ++ "' does not fit in 32 bits"
  | boundRange bound =>
      "max_register must be between 0 and " ++ Decimal.text wordMax ++ ", got " ++
        Decimal.text bound
  | boundText text => boundVariable ++ " must be an integer, got '" ++ text ++ "'"
  | stated message => message

/-- Errors whose sentence holds no integer that is too long to be written. -/
def Writable : SettingError → Prop
  | opcodeRange _ opcode => Decimal.Writable opcode
  | boundRange bound => Decimal.Writable bound
  | boundText _ => True
  | stated _ => True

instance : (error : SettingError) → Decidable error.Writable
  | opcodeRange _ opcode => inferInstanceAs (Decidable (Decimal.Writable opcode))
  | boundRange bound => inferInstanceAs (Decidable (Decimal.Writable bound))
  | boundText _ => inferInstanceAs (Decidable True)
  | stated _ => inferInstanceAs (Decidable True)

end SettingError

/-- What is wrong with a source or with the settings. -/
inductive Problem where
  /-- A character that belongs to no lexeme. -/
  | unknownToken (lexeme : String)
  /-- An immediate or register lexeme that denotes no usable number. -/
  | malformedNumber (lexeme : String) (role : String) (hint : Option String)
  /-- A word that is neither a mnemonic nor a declared label. -/
  | unknownMnemonic (mnemonic : String) (similar : List String)
  | setting (error : SettingError) (hint : Option String)
  /-- The report holds as many diagnostics as it may. -/
  | tooMany (message : String)
  /-- Any other complaint about a source, in the words given. -/
  | stated (message : String) (hint : Option String)
  deriving DecidableEq, Repr

namespace Problem

/-- The sentence that states the problem. -/
def message : Problem → String
  | unknownToken lexeme => "unknown token '" ++ lexeme ++ "'"
  | malformedNumber lexeme role _ => "invalid " ++ role ++ " value '" ++ lexeme ++ "'"
  | unknownMnemonic mnemonic _ => "unknown instruction '" ++ mnemonic ++ "'"
  | setting error _ => error.message
  | tooMany message => message
  | stated message _ => message

/-- The advice that goes with the problem. -/
def hint : Problem → Option String
  | unknownToken _ => none
  | malformedNumber _ _ hint => hint
  | unknownMnemonic _ [] => none
  | unknownMnemonic _ similar =>
      some ("did you mean " ++
        ", ".intercalate ((similar.take 3).map fun name => "'" ++ name ++ "'") ++ "?")
  | setting _ hint => hint
  | tooMany _ => none
  | stated _ hint => hint

/-- Whether the problem ends the pass over the tokens. -/
def fatal : Problem → Bool
  | unknownToken _ => true
  | _ => false

/-- The problem that a report with a limit is full. -/
def limitReached (limit : Int) : Problem :=
  .tooMany ("Too many errors (" ++ Decimal.text limit ++ "), stopping")

end Problem

/-- A problem, where it is, and the source line there. -/
structure Diagnostic where
  problem : Problem
  place : Option Place := none
  /-- The text of the line that holds the place. -/
  quoted : Option String := none
  deriving DecidableEq, Repr

namespace Diagnostic

/-- The blanks before a quoted line. -/
def margin : List Char :=
  List.replicate 4 ' '

/-- The line that points at a column of the quoted line, if the column lies in it or after it. -/
def caretLine (column : Int) : List String :=
  if 0 < column then
    [String.ofList (margin ++ List.replicate (column - 1).toNat ' ' ++ ['^'])]
  else
    []

/-- The first line of the text. -/
def header (diagnostic : Diagnostic) : String :=
  match diagnostic.place with
  | some place => place.text ++ ": error: " ++ diagnostic.problem.message
  | none => "error: " ++ diagnostic.problem.message

/-- The quoted line and its caret line. -/
def excerpt (diagnostic : Diagnostic) : List String :=
  match diagnostic.quoted, diagnostic.place with
  | some line, some place => (String.ofList margin ++ line) :: caretLine place.column
  | _, _ => []

/-- The line with the hint; an empty hint is left out. -/
def hintLine (diagnostic : Diagnostic) : List String :=
  match diagnostic.problem.hint with
  | some hint => if hint.isEmpty then [] else ["hint: " ++ hint]
  | none => []

/-- The whole text of the diagnostic. -/
def text (diagnostic : Diagnostic) : String :=
  "\n".intercalate (diagnostic.header :: diagnostic.excerpt ++ diagnostic.hintLine)

/-- Whether the diagnostic ends the pass over the tokens. -/
def fatal (diagnostic : Diagnostic) : Bool :=
  diagnostic.problem.fatal

end Diagnostic
end RegisterAssembly
