import Mathlib.Tactic.SplitIfs
import RegisterAssembly.Disk

/-!
# What is UTF-8

The decoder goes by a table: the first byte of a sequence tells how many bytes follow and between
which bounds the second one has to be.  The sequences of this table are the encodings of the
characters, so that bytes are read just if they encode a text, and that text is what is read.
-/

namespace RegisterAssembly
namespace Text

/-- A byte that continues a sequence. -/
def Continuation (byte : UInt8) : Prop :=
  0x80 ≤ byte.toNat ∧ byte.toNat ≤ 0xBF

/-- The sequences of one to four bytes with the code points that they stand for.  The bounds of the
second byte shut out overlong forms, surrogates and what lies above the last code point. -/
inductive Sequence : List UInt8 → Nat → Prop
  | one {a : UInt8} (first : a.toNat < 0x80) : Sequence [a] a.toNat
  | two {a b : UInt8} (first : 0xC2 ≤ a.toNat ∧ a.toNat ≤ 0xDF) (second : Continuation b) :
      Sequence [a, b] ((a.toNat - 0xC0) * 64 + (b.toNat - 0x80))
  | three {a b c : UInt8} (first : 0xE0 ≤ a.toNat ∧ a.toNat ≤ 0xEF) (second : Continuation b)
      (third : Continuation c) (long : a.toNat = 0xE0 → 0xA0 ≤ b.toNat)
      (scalar : a.toNat = 0xED → b.toNat ≤ 0x9F) :
      Sequence [a, b, c] (((a.toNat - 0xE0) * 64 + (b.toNat - 0x80)) * 64 + (c.toNat - 0x80))
  | four {a b c d : UInt8} (first : 0xF0 ≤ a.toNat ∧ a.toNat ≤ 0xF4) (second : Continuation b)
      (third : Continuation c) (fourth : Continuation d) (long : a.toNat = 0xF0 → 0x90 ≤ b.toNat)
      (scalar : a.toNat = 0xF4 → b.toNat ≤ 0x8F) :
      Sequence [a, b, c, d]
        ((((a.toNat - 0xF0) * 64 + (b.toNat - 0x80)) * 64 + (c.toNat - 0x80)) * 64 +
          (d.toNat - 0x80))

/-! ## Encodings of characters -/

theorem toNat_ofNat_of_valid {code : Nat} (valid : code.isValidChar) :
    (Char.ofNat code).val.toNat = code := by
  rw [Char.ofNat, dif_pos valid]
  rfl

/-- A sequence is the encoding of its code point. -/
theorem utf8EncodeChar_of_sequence {bytes : List UInt8} {code : Nat}
    (sequence : Sequence bytes code) : String.utf8EncodeChar (Char.ofNat code) = bytes := by
  cases sequence with
  | @one a first =>
      have valid : a.toNat.isValidChar := .inl (by omega)
      simp only [String.utf8EncodeChar, toNat_ofNat_of_valid valid]
      rw [if_pos (by omega), UInt8.ofNat_toNat]
  | @two a b first second =>
      rw [Continuation] at second
      have valid : ((a.toNat - 0xC0) * 64 + (b.toNat - 0x80)).isValidChar := .inl (by omega)
      simp only [String.utf8EncodeChar, toNat_ofNat_of_valid valid]
      rw [if_neg (by omega), if_pos (by omega)]
      simp only [List.cons.injEq, ← UInt8.toNat_inj, UInt8.toNat_ofNat', and_true]
      omega
  | @three a b c first second third long scalar =>
      rw [Continuation] at second third
      have valid : (((a.toNat - 0xE0) * 64 + (b.toNat - 0x80)) * 64 +
          (c.toNat - 0x80)).isValidChar := by
        rw [Nat.isValidChar]
        omega
      simp only [String.utf8EncodeChar, toNat_ofNat_of_valid valid]
      rw [if_neg (by omega), if_neg (by omega), if_pos (by omega)]
      simp only [List.cons.injEq, ← UInt8.toNat_inj, UInt8.toNat_ofNat', and_true]
      omega
  | @four a b c d first second third fourth long scalar =>
      rw [Continuation] at second third fourth
      have valid : ((((a.toNat - 0xF0) * 64 + (b.toNat - 0x80)) * 64 + (c.toNat - 0x80)) * 64 +
          (d.toNat - 0x80)).isValidChar := by
        rw [Nat.isValidChar]
        omega
      simp only [String.utf8EncodeChar, toNat_ofNat_of_valid valid]
      rw [if_neg (by omega), if_neg (by omega), if_neg (by omega)]
      simp only [List.cons.injEq, ← UInt8.toNat_inj, UInt8.toNat_ofNat', and_true]
      omega

/-- Every character is encoded by a sequence. -/
theorem sequence_utf8EncodeChar (c : Char) : Sequence (String.utf8EncodeChar c) c.toNat := by
  have valid : c.toNat.isValidChar := c.valid
  rw [Nat.isValidChar] at valid
  simp only [String.utf8EncodeChar, Char.toNat_val]
  have continuation (n : Nat) : (UInt8.ofNat (n % 64 + 128)).toNat = n % 64 + 128 :=
    UInt8.toNat_ofNat_of_lt' (show n % 64 + 128 < 256 by omega)
  have continues (n : Nat) : Continuation (UInt8.ofNat (n % 64 + 128)) := by
    rw [Continuation, continuation]
    omega
  split_ifs with short middle long
  · have first := UInt8.toNat_ofNat_of_lt' (show c.toNat < 256 by omega)
    have sequence := Sequence.one (a := UInt8.ofNat c.toNat) (by omega)
    rwa [first] at sequence
  · have first := UInt8.toNat_ofNat_of_lt' (show c.toNat / 64 % 32 + 192 < 256 by omega)
    have sequence := Sequence.two (a := UInt8.ofNat (c.toNat / 64 % 32 + 192)) (by omega)
      (continues c.toNat)
    rwa [first, continuation, show (c.toNat / 64 % 32 + 192 - 0xC0) * 64 +
      (c.toNat % 64 + 128 - 0x80) = c.toNat by omega] at sequence
  · have first := UInt8.toNat_ofNat_of_lt' (show c.toNat / 4096 % 16 + 224 < 256 by omega)
    have second := continuation (c.toNat / 64)
    have sequence := Sequence.three (a := UInt8.ofNat (c.toNat / 4096 % 16 + 224)) (by omega)
      (continues (c.toNat / 64)) (continues c.toNat) (by omega) (by omega)
    rwa [first, second, continuation, show ((c.toNat / 4096 % 16 + 224 - 0xE0) * 64 +
      (c.toNat / 64 % 64 + 128 - 0x80)) * 64 + (c.toNat % 64 + 128 - 0x80) = c.toNat by omega]
      at sequence
  · have first := UInt8.toNat_ofNat_of_lt' (show c.toNat / 262144 % 8 + 240 < 256 by omega)
    have second := continuation (c.toNat / 4096)
    have third := continuation (c.toNat / 64)
    have sequence := Sequence.four (a := UInt8.ofNat (c.toNat / 262144 % 8 + 240)) (by omega)
      (continues (c.toNat / 4096)) (continues (c.toNat / 64)) (continues c.toNat) (by omega)
      (by omega)
    rwa [first, second, third, continuation, show (((c.toNat / 262144 % 8 + 240 - 0xF0) * 64 +
      (c.toNat / 4096 % 64 + 128 - 0x80)) * 64 + (c.toNat / 64 % 64 + 128 - 0x80)) * 64 +
      (c.toNat % 64 + 128 - 0x80) = c.toNat by omega] at sequence

/-- What the table says about the first byte of a sequence of several bytes. -/
inductive Announces (first : Nat) (head : SequenceHead) : Prop
  | two (range : 0xC2 ≤ first ∧ first ≤ 0xDF) (more : head.more = 1)
      (bits : head.bits = first - 0xC0) (low : head.low.toNat = 0x80)
      (high : head.high.toNat = 0xBF)
  | three (range : 0xE0 ≤ first ∧ first ≤ 0xEF) (more : head.more = 2)
      (bits : head.bits = first - 0xE0) (low : head.low.toNat = if first = 0xE0 then 0xA0 else 0x80)
      (high : head.high.toNat = if first = 0xED then 0x9F else 0xBF)
  | four (range : 0xF0 ≤ first ∧ first ≤ 0xF4) (more : head.more = 3)
      (bits : head.bits = first - 0xF0) (low : head.low.toNat = if first = 0xF0 then 0x90 else 0x80)
      (high : head.high.toNat = if first = 0xF4 then 0x8F else 0xBF)

theorem announces_of_sequenceHead? {byte : UInt8} {head : SequenceHead}
    (found : sequenceHead? byte = some head) : Announces byte.toNat head := by
  simp only [sequenceHead?, UInt8.lt_iff_toNat_lt, ← UInt8.toNat_inj, UInt8.reduceToNat] at found
  split_ifs at found <;> cases found
  · exact .two (by omega) rfl rfl rfl rfl
  · exact .three (by omega) rfl (by simp [*]) (by simp [*]) (by simp [*])
  · exact .three (by omega) rfl (by simp [*]) (by simp [*]) (by simp [*])
  · exact .three (by omega) rfl (by simp [*]) (by simp [*]) (by simp [*])
  · exact .four (by omega) rfl (by simp [*]) (by simp [*]) (by simp [*])
  · exact .four (by omega) rfl (by simp [*]) (by simp [*]) (by simp; omega)
  · exact .four (by omega) rfl (by simp [*]) (by simp [*]) (by simp [*])

theorem exists_sequenceHead? {byte : UInt8} (range : 0xC2 ≤ byte.toNat ∧ byte.toNat ≤ 0xF4) :
    ∃ head, sequenceHead? byte = some head := by
  rw [← Option.ne_none_iff_exists']
  simp only [sequenceHead?, UInt8.lt_iff_toNat_lt, ← UInt8.toNat_inj, UInt8.reduceToNat]
  split_ifs <;> first | exact Option.some_ne_none _ | omega

/-! ## Decoding -/

theorem continueSequence_succ {low high byte : UInt8} {used value more : Nat} {bytes : List UInt8}
    (range : low.toNat ≤ byte.toNat ∧ byte.toNat ≤ high.toNat) :
    continueSequence low high used value (more + 1) (byte :: bytes) =
      continueSequence 0x80 0xBF (used + 1) (value * 64 + (byte.toNat - 0x80)) more bytes := by
  rw [continueSequence, if_pos]
  simpa only [UInt8.le_iff_toNat_le] using range

theorem continueSequence_of_continuation {byte : UInt8} {used value more : Nat}
    {bytes : List UInt8} (range : Continuation byte) :
    continueSequence 0x80 0xBF used value (more + 1) (byte :: bytes) =
      continueSequence 0x80 0xBF (used + 1) (value * 64 + (byte.toNat - 0x80)) more bytes :=
  continueSequence_succ range

theorem exists_of_continueSequence_succ {low high : UInt8} {used value more code : Nat}
    {bytes rest : List UInt8}
    (read : continueSequence low high used value (more + 1) bytes = .ok (code, rest)) :
    ∃ byte others, bytes = byte :: others ∧ (low.toNat ≤ byte.toNat ∧ byte.toNat ≤ high.toNat) ∧
      continueSequence 0x80 0xBF (used + 1) (value * 64 + (byte.toNat - 0x80)) more others =
        .ok (code, rest) := by
  cases bytes with
  | nil => cases read
  | cons byte others =>
      rw [continueSequence] at read
      split at read
      · rename_i range
        simp only [UInt8.le_iff_toNat_le] at range
        exact ⟨byte, others, rfl, range, read⟩
      · cases read

/-- The decoder takes a sequence for its code point. -/
theorem continueSequence_of_sequence {byte : UInt8} {others : List UInt8} {code : Nat}
    (sequence : Sequence (byte :: others) code) (several : 0x80 ≤ byte.toNat)
    (rest : List UInt8) :
    ∃ head, sequenceHead? byte = some head ∧ head.more = others.length ∧
      continueSequence head.low head.high 1 head.bits head.more (others ++ rest) =
        .ok (code, rest) := by
  cases sequence with
  | one first => omega
  | two first second =>
      obtain ⟨head, found⟩ := exists_sequenceHead?
        (show 0xC2 ≤ byte.toNat ∧ byte.toNat ≤ 0xF4 by omega)
      refine ⟨head, found, ?_⟩
      cases announces_of_sequenceHead? found with
      | two range more bits low high =>
          rw [more, bits]
          refine ⟨rfl, ?_⟩
          rw [List.cons_append, continueSequence_succ (by rw [low, high]; exact second)]
          rfl
      | three range | four range => omega
  | three first second third long scalar =>
      rw [Continuation] at second
      obtain ⟨head, found⟩ := exists_sequenceHead?
        (show 0xC2 ≤ byte.toNat ∧ byte.toNat ≤ 0xF4 by omega)
      refine ⟨head, found, ?_⟩
      cases announces_of_sequenceHead? found with
      | three range more bits low high =>
          rw [more, bits]
          refine ⟨rfl, ?_⟩
          rw [List.cons_append, continueSequence_succ (by rw [low, high]; split_ifs <;> omega),
            List.cons_append, continueSequence_of_continuation third]
          rfl
      | two range | four range => omega
  | four first second third fourth long scalar =>
      rw [Continuation] at second
      obtain ⟨head, found⟩ := exists_sequenceHead?
        (show 0xC2 ≤ byte.toNat ∧ byte.toNat ≤ 0xF4 by omega)
      refine ⟨head, found, ?_⟩
      cases announces_of_sequenceHead? found with
      | four range more bits low high =>
          rw [more, bits]
          refine ⟨rfl, ?_⟩
          rw [List.cons_append, continueSequence_succ (by rw [low, high]; split_ifs <;> omega),
            List.cons_append, continueSequence_of_continuation third, List.cons_append,
            continueSequence_of_continuation fourth]
          rfl
      | two range | three range => omega

/-- What the decoder takes for a code point is a sequence. -/
theorem sequence_of_continueSequence {byte : UInt8} {bytes rest : List UInt8} {code : Nat}
    {head : SequenceHead} (found : sequenceHead? byte = some head)
    (read : continueSequence head.low head.high 1 head.bits head.more bytes = .ok (code, rest)) :
    ∃ others, bytes = others ++ rest ∧ Sequence (byte :: others) code := by
  cases announces_of_sequenceHead? found with
  | two range more bits low high =>
      rw [more, bits] at read
      obtain ⟨b, others, rfl, second, read⟩ := exists_of_continueSequence_succ read
      rw [low, high] at second
      rw [continueSequence, Except.ok.injEq, Prod.mk.injEq] at read
      obtain ⟨rfl, rfl⟩ := read
      exact ⟨[b], rfl, .two range second⟩
  | three range more bits low high =>
      rw [more, bits] at read
      obtain ⟨b, others, rfl, second, read⟩ := exists_of_continueSequence_succ read
      obtain ⟨c, others, rfl, third, read⟩ := exists_of_continueSequence_succ read
      rw [low, high] at second
      rw [continueSequence, Except.ok.injEq, Prod.mk.injEq] at read
      obtain ⟨rfl, rfl⟩ := read
      refine ⟨[b, c], rfl, .three range ?_ third ?_ ?_⟩
      · rw [Continuation]
        split_ifs at second <;> omega
      · intro first
        rw [if_pos first] at second
        exact second.1
      · intro first
        rw [if_pos first] at second
        exact second.2
  | four range more bits low high =>
      rw [more, bits] at read
      obtain ⟨b, others, rfl, second, read⟩ := exists_of_continueSequence_succ read
      obtain ⟨c, others, rfl, third, read⟩ := exists_of_continueSequence_succ read
      obtain ⟨d, others, rfl, fourth, read⟩ := exists_of_continueSequence_succ read
      rw [low, high] at second
      rw [continueSequence, Except.ok.injEq, Prod.mk.injEq] at read
      obtain ⟨rfl, rfl⟩ := read
      refine ⟨[b, c, d], rfl, .four range ?_ third fourth ?_ ?_⟩
      · rw [Continuation]
        split_ifs at second <;> omega
      · intro first
        rw [if_pos first] at second
        exact second.1
      · intro first
        rw [if_pos first] at second
        exact second.2

theorem decodeFrom_of_head {offset code : Nat} {byte : UInt8} {bytes rest : List UInt8}
    {head : SequenceHead} (several : 0x80 ≤ byte.toNat) (found : sequenceHead? byte = some head)
    (read : continueSequence head.low head.high 1 head.bits head.more bytes = .ok (code, rest)) :
    decodeFrom offset (byte :: bytes) =
      (decodeFrom (offset + 1 + head.more) rest).map (Char.ofNat code :: ·) := by
  have high : ¬ byte < 0x80 := by
    rw [UInt8.lt_iff_toNat_lt]
    exact Nat.not_lt.mpr several
  rw [decodeFrom, if_neg high, found]
  dsimp only
  split
  · rename_i failed
    rw [read] at failed
    cases failed
  · rename_i read'
    rw [read] at read'
    cases read'
    rfl

theorem decodeFrom_of_sequence {offset code : Nat} {bytes : List UInt8}
    (sequence : Sequence bytes code) (rest : List UInt8) :
    decodeFrom offset (bytes ++ rest) =
      (decodeFrom (offset + bytes.length) rest).map (Char.ofNat code :: ·) := by
  cases bytes with
  | nil => cases sequence
  | cons byte others =>
      by_cases several : 0x80 ≤ byte.toNat
      · obtain ⟨head, found, more, read⟩ := continueSequence_of_sequence sequence several rest
        rw [List.cons_append, decodeFrom_of_head several found read, more, List.length_cons,
          Nat.add_assoc, Nat.add_comm 1]
      · cases sequence with
        | one first =>
            rw [List.singleton_append, decodeFrom, if_pos]
            · rfl
            · rw [UInt8.lt_iff_toNat_lt]
              exact first
        | two | three | four => omega

/-- The first character that is read comes from a sequence, the others from the bytes after it. -/
theorem exists_of_decodeFrom_cons {offset : Nat} {byte : UInt8} {bytes : List UInt8}
    {chars : List Char} (decoded : decodeFrom offset (byte :: bytes) = .ok chars) :
    ∃ others rest code later chars', bytes = others ++ rest ∧ Sequence (byte :: others) code ∧
      decodeFrom later rest = .ok chars' ∧ chars = Char.ofNat code :: chars' := by
  have exists_of_map {result : Except EncodingDefect (List Char)} {c : Char}
      (mapped : result.map (c :: ·) = .ok chars) : ∃ chars', result = .ok chars' ∧
        chars = c :: chars' := by
    cases result with
    | error => cases mapped
    | ok chars' =>
        cases mapped
        exact ⟨chars', rfl, rfl⟩
  by_cases several : 0x80 ≤ byte.toNat
  · have high : ¬ byte < 0x80 := by
      rw [UInt8.lt_iff_toNat_lt]
      exact Nat.not_lt.mpr several
    cases found : sequenceHead? byte with
    | none =>
        rw [decodeFrom, if_neg high, found] at decoded
        cases decoded
    | some head =>
        cases read : continueSequence head.low head.high 1 head.bits head.more bytes with
        | error =>
            rw [decodeFrom, if_neg high, found] at decoded
            dsimp only at decoded
            split at decoded
            · cases decoded
            · rename_i read'
              rw [read] at read'
              cases read'
        | ok result =>
            obtain ⟨code, rest⟩ := result
            rw [decodeFrom_of_head several found read] at decoded
            obtain ⟨others, parted, sequence⟩ := sequence_of_continueSequence found read
            obtain ⟨chars', later, equal⟩ := exists_of_map decoded
            exact ⟨others, rest, code, _, chars', parted, sequence, later, equal⟩
  · have sequence : Sequence [byte] byte.toNat := .one (Nat.not_le.mp several)
    rw [← List.singleton_append, decodeFrom_of_sequence sequence] at decoded
    obtain ⟨chars', later, equal⟩ := exists_of_map decoded
    exact ⟨[], bytes, _, _, chars', rfl, sequence, later, equal⟩

theorem eq_flatMap_of_decodeFrom {offset : Nat} {bytes : List UInt8} {chars : List Char}
    (decoded : decodeFrom offset bytes = .ok chars) :
    bytes = chars.flatMap String.utf8EncodeChar := by
  match bytes with
  | [] =>
      rw [decodeFrom] at decoded
      cases decoded
      rfl
  | byte :: bytes =>
      obtain ⟨others, rest, code, later, chars', rfl, sequence, decoded', rfl⟩ :=
        exists_of_decodeFrom_cons decoded
      have shorter : rest.length < (byte :: (others ++ rest)).length := by
        rw [List.length_cons, List.length_append]
        omega
      rw [List.flatMap_cons, utf8EncodeChar_of_sequence sequence,
        ← eq_flatMap_of_decodeFrom decoded']
      rfl
termination_by bytes.length

/-- The encoding of a text is read as that text. -/
theorem decodeFrom_flatMap (offset : Nat) (chars : List Char) :
    decodeFrom offset (chars.flatMap String.utf8EncodeChar) = .ok chars := by
  induction chars generalizing offset with
  | nil => rw [List.flatMap_nil, decodeFrom]
  | cons c chars ih =>
      rw [List.flatMap_cons, decodeFrom_of_sequence (sequence_utf8EncodeChar c), ih,
        Char.ofNat_toNat]
      rfl

/-- Bytes are read just if they encode a text, and that text is what is read. -/
theorem decodeUtf8_eq_ok_iff (bytes : List UInt8) (chars : List Char) :
    decodeUtf8 bytes = .ok chars ↔ bytes = chars.flatMap String.utf8EncodeChar := by
  constructor
  · exact eq_flatMap_of_decodeFrom
  · rintro rfl
    exact decodeFrom_flatMap 0 chars

end Text

/-- A file is read just if its bytes encode a text; what is read has unified newlines. -/
theorem Disk.read_eq_ok_iff (disk : Disk) (path : String) (chars : List Char) :
    disk.read path = .ok chars ↔
      ∃ text : List Char, disk.find path = .file (text.flatMap String.utf8EncodeChar) ∧
        chars = Text.unifyNewlines text := by
  constructor
  · intro read
    unfold Disk.read at read
    split at read <;> try cases read
    rename_i bytes found
    split at read
    · cases read
    · rename_i text decoded
      rw [Text.decodeUtf8_eq_ok_iff] at decoded
      cases read
      exact ⟨text, decoded ▸ found, rfl⟩
  · rintro ⟨text, found, rfl⟩
    have decoded := (Text.decodeUtf8_eq_ok_iff _ text).mpr rfl
    simp only [Disk.read, found, decoded]

end RegisterAssembly
