import RegisterAssembly.Decimal
import RegisterAssembly.Text.Quoted

/-!
# Tokens

A token is a lexeme of the source with its kind, its place and a payload.  The payload is the number
that stands for the lexeme in later stages: an opcode, a value, a register index or the line of a
label.  Until the payload has been found it is zero and the token is unresolved.
-/

namespace RegisterAssembly

/-- The closed set of token kinds. -/
inductive Kind where
  /-- A word directly before a colon. -/
  | labelDeclaration
  /-- The use of a label; reserved, the scanner leaves such words to `instruction`. -/
  | labelUse
  /-- Any other word. -/
  | instruction
  /-- The letter r in either case before decimal digits. -/
  | register
  /-- A word that starts with a decimal digit. -/
  | immediate
  | comma
  /-- A line break; each one is a token. -/
  | newline
  | endOfInput
  /-- A single character that belongs to no lexeme. -/
  | invalid
  deriving DecidableEq, Repr

namespace Kind

/-- All kinds, in the order of their numbers. -/
def all : List Kind :=
  [labelDeclaration, labelUse, instruction, register, immediate, comma, newline, endOfInput,
    invalid]

/-- The name of a kind in a listing. -/
def name : Kind → String
  | labelDeclaration => "LABEL_DECLARE"
  | labelUse => "LABEL_INITIALIZE"
  | instruction => "INSTRUCTION"
  | register => "REGISTER"
  | immediate => "IMMEDIATE"
  | comma => "COMMA"
  | newline => "NEWLINE"
  | endOfInput => "END_OF_INPUT"
  | invalid => "INVALID"

/-- The number of a kind, counted from one. -/
def number : Kind → Nat
  | labelDeclaration => 1
  | labelUse => 2
  | instruction => 3
  | register => 4
  | immediate => 5
  | comma => 6
  | newline => 7
  | endOfInput => 8
  | invalid => 9

/-- The kind with a given name. -/
def ofName? (name : String) : Option Kind :=
  all.find? (·.name = name)

end Kind

/-- The file name of a source that was not read from a file. -/
def unnamedFile : String := "<input>"

/-- A place in a source, by line and column counted from one. -/
structure Place where
  file : String
  line : Int
  column : Int
  deriving DecidableEq, Repr

namespace Place

/-- A place as it is written before a message. -/
def text (place : Place) : String :=
  place.file ++ ":" ++ Decimal.text place.line ++ ":" ++ Decimal.text place.column

/-- Places whose line and column are not too long to be written. -/
def Writable (place : Place) : Prop :=
  Decimal.Writable place.line ∧ Decimal.Writable place.column

instance (place : Place) : Decidable place.Writable :=
  inferInstanceAs (Decidable (_ ∧ _))

/-- The text of a place, unless its line or column is too long to be written. -/
def text? (place : Place) : Except DigitLimit String :=
  if place.Writable then .ok place.text else .error .writing

end Place

/-- A lexeme with its place and payload.  A token made by hand may have any integers in it. -/
structure Token where
  kind : Kind
  /-- The text of the lexeme. -/
  text : String
  /-- Number of characters before the lexeme. -/
  offset : Int := 0
  line : Int := 1
  column : Int := 1
  file : String := unnamedFile
  /-- The number that stands for the lexeme, zero while it is unknown. -/
  payload : Int := 0
  /-- Whether the payload has been found. -/
  resolved : Bool := false
  deriving DecidableEq, Repr

namespace Token

/-- The place of the first character of the lexeme. -/
def place (token : Token) : Place :=
  ⟨token.file, token.line, token.column⟩

/-- The length of the lexeme in UTF-8. -/
def byteLength (token : Token) : Nat :=
  token.text.utf8ByteSize

/-- The lexeme on one line of printable ASCII. -/
def display (token : Token) : String :=
  String.ofList (Text.escaped token.text.toList)

/-- The line of the token in a listing. -/
def row (token : Token) : String :=
  "TokType: " ++ token.kind.name ++ " - " ++ token.display ++
    " (l: " ++ Decimal.text token.byteLength ++ ") (mem: " ++ Decimal.text token.payload ++ ")"

/-- The line of the token in a listing, unless its payload is too long to be written. -/
def row? (token : Token) : Except DigitLimit String :=
  if Decimal.Writable token.payload then .ok token.row else .error .writing

/-- A short text that identifies the token in a trace. -/
def summary (token : Token) : String :=
  "Token(" ++ token.kind.name ++ ", " ++ Text.quoted token.text ++ ", " ++
    Decimal.text token.line ++ ":" ++ Decimal.text token.column ++ ")"

/-- The summary of the token, unless its place is too long to be written. -/
def summary? (token : Token) : Except DigitLimit String :=
  if token.place.Writable then .ok token.summary else .error .writing

/-- Give the token its payload. -/
def resolve (token : Token) (payload : Int) : Token :=
  { token with payload := payload, resolved := true }

/-- Take the payload back. -/
def reset (token : Token) : Token :=
  { token with payload := 0, resolved := false }

end Token
end RegisterAssembly
