/-!
UTF-8: encoding, strict decoding and decoding with replacement.

Decoding reads a byte sequence as characters and broken pieces. A broken piece is the longest start
of a well-formed sequence that is not continued as it has to be, or a byte that can start no
sequence. `Utf8.decode` shows each broken piece as one replacement character; `Utf8.decode?` accepts
only text without broken pieces.
-/

namespace ClassAtlas

/-- Raw file content. -/
abbrev Bytes : Type := List UInt8

namespace Utf8

/-- The bytes of a text. -/
def encode (text : String) : Bytes := text.toList.flatMap String.utf8EncodeChar

/-- What the first byte of a multi-byte sequence announces. -/
structure Lead where
  /-- Bits of the code point held by the first byte. -/
  bits : Nat
  /-- Number of bytes that follow. -/
  more : Nat
  /-- Least value of the second byte. -/
  low : Nat
  /-- Greatest value of the second byte. -/
  high : Nat

/-- The sequence a byte above ASCII starts, if it can start one. Overlong forms, surrogates and code
points past the last plane are excluded by the bounds on the second byte. -/
def lead? (byte : Nat) : Option Lead :=
  if 0xc2 ≤ byte ∧ byte ≤ 0xdf then some ⟨byte - 0xc0, 1, 0x80, 0xbf⟩
  else if byte = 0xe0 then some ⟨0, 2, 0xa0, 0xbf⟩
  else if byte = 0xed then some ⟨0xd, 2, 0x80, 0x9f⟩
  else if 0xe1 ≤ byte ∧ byte ≤ 0xef then some ⟨byte - 0xe0, 2, 0x80, 0xbf⟩
  else if byte = 0xf0 then some ⟨0, 3, 0x90, 0xbf⟩
  else if 0xf1 ≤ byte ∧ byte ≤ 0xf3 then some ⟨byte - 0xf0, 3, 0x80, 0xbf⟩
  else if byte = 0xf4 then some ⟨4, 3, 0x80, 0x8f⟩
  else none

/-- Reads the remaining bytes of a sequence. The code point is absent when a byte is out of its
bounds or missing; that byte then belongs to the rest. -/
def continuation : Nat → Nat → Nat → Nat → Bytes → Option Nat × Bytes
  | 0, _, _, code, rest => (some code, rest)
  | _ + 1, _, _, _, [] => (none, [])
  | more + 1, low, high, code, byte :: rest =>
    if low ≤ byte.toNat ∧ byte.toNat ≤ high then
      continuation more 0x80 0xbf (code * 64 + (byte.toNat - 0x80)) rest
    else (none, byte :: rest)

/-- Reads one character or broken piece that starts with the given byte. -/
def step (byte : UInt8) (rest : Bytes) : Option Nat × Bytes :=
  if byte.toNat < 0x80 then (some byte.toNat, rest)
  else match lead? byte.toNat with
    | none => (none, rest)
    | some lead => continuation lead.more lead.low lead.high lead.bits rest

theorem length_continuation_le (more low high code : Nat) (bytes : Bytes) :
    (continuation more low high code bytes).2.length ≤ bytes.length := by
  induction more generalizing low high code bytes with
  | zero => simp [continuation]
  | succ more inductionHypothesis =>
    cases bytes with
    | nil => simp [continuation]
    | cons byte rest =>
      simp only [continuation]
      split
      · exact Nat.le_succ_of_le (inductionHypothesis _ _ _ rest)
      · exact Nat.le_refl _

theorem length_step_le (byte : UInt8) (rest : Bytes) : (step byte rest).2.length ≤ rest.length := by
  simp only [step]
  split
  · exact Nat.le_refl _
  · split
    · exact Nat.le_refl _
    · exact length_continuation_le _ _ _ _ rest

/-- The code points of a byte sequence in order; an absent one marks a broken piece. -/
def units : Bytes → List (Option Nat)
  | [] => []
  | byte :: rest => (step byte rest).1 :: units (step byte rest).2
termination_by bytes => bytes.length
decreasing_by
  have bound := length_step_le byte rest
  simp only [List.length_cons]
  omega

/-- The character shown for a broken piece. -/
def replacement : Char := Char.ofNat 0xfffd

/-- The text of a byte sequence, with a replacement character for every broken piece. -/
def decode (bytes : Bytes) : String :=
  String.ofList ((units bytes).map fun code => (code.map Char.ofNat).getD replacement)

/-- The text of a byte sequence without broken pieces. -/
def decode? (bytes : Bytes) : Option String :=
  ((units bytes).mapM fun (code : Option Nat) => code.map Char.ofNat).map String.ofList

/-- Why decoding stops at a broken piece. -/
inductive BreakCause where
  | invalidStart
  | invalidContinuation
  | unexpectedEnd
deriving DecidableEq, Repr

/-- The first broken piece of a byte sequence: its offset, its bytes and the cause. -/
structure Break where
  offset : Nat
  piece : Bytes
  cause : BreakCause
deriving DecidableEq, Repr

/-- Finds the first broken piece of the bytes that are left of a sequence of some length. -/
def firstBreakFrom? (total : Nat) : Bytes → Option Break
  | [] => none
  | byte :: rest =>
    match (step byte rest).1 with
    | some _ => firstBreakFrom? total (step byte rest).2
    | none =>
      let after := (step byte rest).2
      let cause :=
        if (lead? byte.toNat).isNone then .invalidStart
        else if after.isEmpty then .unexpectedEnd
        else .invalidContinuation
      let left := rest.length + 1
      some ⟨total - left, (byte :: rest).take (left - after.length), cause⟩
termination_by bytes => bytes.length
decreasing_by
  have bound := length_step_le byte rest
  simp only [List.length_cons]
  omega

/-- Finds the first broken piece of a byte sequence. -/
def firstBreak? (bytes : Bytes) : Option Break := firstBreakFrom? bytes.length bytes

end Utf8

end ClassAtlas
