import RegisterAssembly.Decimal
import RegisterAssembly.Text.Escaped

/-!
# Reading UTF-8

Bytes are read strictly: no overlong forms, no surrogates, nothing above the last code point.  A
defect names the longest beginning of a sequence that could still have been completed, and says
whether the data ended there, the next byte does not continue it, or no sequence starts so.
-/

namespace RegisterAssembly
namespace Text

/-- Why a byte sequence is not UTF-8. -/
inductive EncodingFlaw where
  | startByte
  | continuationByte
  | endOfData
  deriving DecidableEq, Repr

/-- The first place at which bytes are not UTF-8. -/
structure EncodingDefect where
  /-- Offset of the first byte that could not be read. -/
  start : Nat
  /-- Number of bytes that belong together. -/
  span : Nat
  /-- The byte at `start`. -/
  byte : UInt8
  flaw : EncodingFlaw
  deriving DecidableEq, Repr

namespace EncodingFlaw

/-- The words for the flaw. -/
def reason : EncodingFlaw → String
  | startByte => "invalid start byte"
  | continuationByte => "invalid continuation byte"
  | endOfData => "unexpected end of data"

end EncodingFlaw

namespace EncodingDefect

/-- The sentence that reports the defect. -/
def message (defect : EncodingDefect) : String :=
  let place :=
    if defect.span = 1 then
      "byte 0x" ++ String.ofList (hexDigits 2 defect.byte.toNat) ++ " in position " ++
        Decimal.text defect.start
    else
      "bytes in position " ++ Decimal.text defect.start ++ "-" ++
        Decimal.text (defect.start + defect.span - 1 : Nat)
  "'utf-8' codec can't decode " ++ place ++ ": " ++ defect.flaw.reason

end EncodingDefect

/-- What the first byte of a sequence of several bytes announces. -/
structure SequenceHead where
  /-- Number of continuation bytes. -/
  more : Nat
  /-- The bits of the code point that the first byte carries. -/
  bits : Nat
  /-- Bounds of the first continuation byte, which shut out overlong forms and surrogates. -/
  low : UInt8
  high : UInt8

/-- The sequences of several bytes by their first byte. -/
def sequenceHead? (byte : UInt8) : Option SequenceHead :=
  let bits := byte.toNat
  if byte < 0xC2 then none
  else if byte < 0xE0 then some ⟨1, bits - 0xC0, 0x80, 0xBF⟩
  else if byte = 0xE0 then some ⟨2, 0, 0xA0, 0xBF⟩
  else if byte = 0xED then some ⟨2, bits - 0xE0, 0x80, 0x9F⟩
  else if byte < 0xF0 then some ⟨2, bits - 0xE0, 0x80, 0xBF⟩
  else if byte = 0xF0 then some ⟨3, 0, 0x90, 0xBF⟩
  else if byte < 0xF4 then some ⟨3, bits - 0xF0, 0x80, 0xBF⟩
  else if byte = 0xF4 then some ⟨3, 4, 0x80, 0x8F⟩
  else none

/-- Read `more` continuation bytes, the first of them between `low` and `high`, after `used` bytes
of the sequence that carried the number `value`.  A failure gives the number of bytes that belong
together. -/
def continueSequence (low high : UInt8) (used value : Nat) :
    Nat → List UInt8 → Except (Nat × EncodingFlaw) (Nat × List UInt8)
  | 0, bytes => .ok (value, bytes)
  | _ + 1, [] => .error (used, .endOfData)
  | more + 1, byte :: bytes =>
      if low ≤ byte ∧ byte ≤ high then
        continueSequence 0x80 0xBF (used + 1) (value * 64 + (byte.toNat - 0x80)) more bytes
      else
        .error (used, .continuationByte)

theorem length_of_continueSequence {low high : UInt8} {used value more : Nat}
    {bytes rest : List UInt8} {code : Nat}
    (read : continueSequence low high used value more bytes = .ok (code, rest)) :
    rest.length + more = bytes.length := by
  induction more generalizing low high used value bytes with
  | zero =>
      simp only [continueSequence, Except.ok.injEq, Prod.mk.injEq] at read
      simp [read.2]
  | succ more ih =>
      cases bytes with
      | nil => simp [continueSequence] at read
      | cons byte bytes =>
          rw [continueSequence] at read
          split at read
          · have shorter := ih read
            simp only [List.length_cons]
            omega
          · simp at read

/-- Read bytes that start at an offset of the whole data. -/
def decodeFrom (offset : Nat) : List UInt8 → Except EncodingDefect (List Char)
  | [] => .ok []
  | byte :: bytes =>
      if byte < 0x80 then
        (decodeFrom (offset + 1) bytes).map (Char.ofNat byte.toNat :: ·)
      else
        match sequenceHead? byte with
        | none => .error ⟨offset, 1, byte, .startByte⟩
        | some head =>
            match _read : continueSequence head.low head.high 1 head.bits head.more bytes with
            | .error (span, flaw) => .error ⟨offset, span, byte, flaw⟩
            | .ok (code, rest) =>
                (decodeFrom (offset + 1 + head.more) rest).map (Char.ofNat code :: ·)
termination_by bytes => bytes.length
decreasing_by
  · simp
  · have shorter := length_of_continueSequence _read
    simp only [List.length_cons]
    omega

/-- The text that bytes encode. -/
def decodeUtf8 (bytes : List UInt8) : Except EncodingDefect (List Char) :=
  decodeFrom 0 bytes

end Text
end RegisterAssembly
