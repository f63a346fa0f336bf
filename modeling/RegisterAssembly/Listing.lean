import RegisterAssembly.Cursor
import RegisterAssembly.Event
import RegisterAssembly.Lexeme
import RegisterAssembly.Text.Line

/-!
# Listings

A listing holds the tokens of a source together with the source itself, so that a message about a
token can quote its line.  Scanning cuts the source at its first NUL character, places every lexeme
and always succeeds; the last token then is the only one of kind `Kind.endOfInput`.
-/

namespace RegisterAssembly

/-- Tokens with the source that they were scanned from. -/
structure Listing where
  tokens : List Token := []
  source : String := ""
  file : String := unnamedFile
  /-- The lines of the source, once one of them has been asked for.  They are not split again when
  another source is assigned. -/
  lines : Option (Array String) := none
  deriving DecidableEq, Repr

/-- A source up to its first NUL character. -/
def untilNul (source : String) : List Char :=
  source.toList.takeWhile (· ≠ '\x00')

namespace Lexeme

/-- The token of a lexeme whose first character stands at the cursor. -/
def toToken (file : String) (cursor : Cursor) (lexeme : Lexeme) : Token where
  kind := lexeme.kind
  text := String.ofList lexeme.chars
  offset := cursor.offset
  line := cursor.line
  column := cursor.column
  file := file

/-- The tokens of consecutive lexemes, the gap of the first of which starts at the cursor. -/
def place (file : String) (cursor : Cursor) : List Lexeme → List Token
  | [] => []
  | lexeme :: lexemes =>
      let start := cursor.past lexeme.gap
      lexeme.toToken file start :: place file (start.past lexeme.chars) lexemes

end Lexeme

namespace Listing

/-- Scan a source. -/
def scan (source : String) (file : String) : Listing where
  tokens := Lexeme.place file {} (Lexeme.split (untilNul source))
  source := String.ofList (untilNul source)
  file := file

/-- What scanning a source tells about its progress. -/
def scanEvents (source : String) (file : String) : List Event :=
  let kept := (untilNul source).length
  (if kept < source.length then [.truncated file kept] else []) ++
    [.scanned file (scan source file).tokens.length]

/-- Look up the lines of the source for the first time, unless there is no source. -/
def openLines (listing : Listing) : Listing :=
  if listing.source.isEmpty then
    listing
  else
    { listing with
      lines := some (listing.lines.getD
        ((Text.lines listing.source.toList).map String.ofList).toArray) }

/-- The text of a line, counted from one, if there is a source and it has that line. -/
def line? (listing : Listing) (line : Int) : Option String :=
  if listing.source.isEmpty then none
  else if 1 ≤ line then (listing.openLines.lines.getD #[])[(line - 1).toNat]?
  else none

/-- Add a token at the end. -/
def append (listing : Listing) (token : Token) : Listing :=
  { listing with tokens := listing.tokens ++ [token] }

/-- Drop every token. -/
def release (listing : Listing) : Listing :=
  { listing with tokens := [] }

/-- The kinds of the tokens, in order. -/
def kinds (listing : Listing) : List Kind :=
  listing.tokens.map (·.kind)

/-- The listing as text, one token on each line. -/
def dump (listing : Listing) : String :=
  "\n".intercalate (listing.tokens.map (·.row))

/-- The listing as text, unless some payload is too long to be written. -/
def dump? (listing : Listing) : Except DigitLimit String :=
  if ∀ token ∈ listing.tokens, Decimal.Writable token.payload then .ok listing.dump
  else .error .writing

/-- A short text that identifies the listing. -/
def summary (listing : Listing) : String :=
  "TokenStream(" ++ Decimal.text listing.tokens.length ++ " tokens, " ++
    Text.quoted listing.file ++ ")"

end Listing
end RegisterAssembly
