import ClassAtlas.Text.Utf8
import ClassAtlas.Text.Quoted

/-!
The SHA-256 digest of a byte sequence.
-/

namespace ClassAtlas.Sha256

/-- Round constants. -/
def roundConstants : List UInt32 := [
   0x428a2f98, 0x71374491, 0xb5c0fbcf, 0xe9b5dba5, 0x3956c25b, 0x59f111f1, 0x923f82a4, 0xab1c5ed5,
   0xd807aa98, 0x12835b01, 0x243185be, 0x550c7dc3, 0x72be5d74, 0x80deb1fe, 0x9bdc06a7, 0xc19bf174,
   0xe49b69c1, 0xefbe4786, 0x0fc19dc6, 0x240ca1cc, 0x2de92c6f, 0x4a7484aa, 0x5cb0a9dc, 0x76f988da,
   0x983e5152, 0xa831c66d, 0xb00327c8, 0xbf597fc7, 0xc6e00bf3, 0xd5a79147, 0x06ca6351, 0x14292967,
   0x27b70a85, 0x2e1b2138, 0x4d2c6dfc, 0x53380d13, 0x650a7354, 0x766a0abb, 0x81c2c92e, 0x92722c85,
   0xa2bfe8a1, 0xa81a664b, 0xc24b8b70, 0xc76c51a3, 0xd192e819, 0xd6990624, 0xf40e3585, 0x106aa070,
   0x19a4c116, 0x1e376c08, 0x2748774c, 0x34b0bcb5, 0x391c0cb3, 0x4ed8aa4a, 0x5b9cca4f, 0x682e6ff3,
   0x748f82ee, 0x78a5636f, 0x84c87814, 0x8cc70208, 0x90befffa, 0xa4506ceb, 0xbef9a3f7, 0xc67178f2]

/-- The eight words of the chaining value. -/
structure State where
  a : UInt32
  b : UInt32
  c : UInt32
  d : UInt32
  e : UInt32
  f : UInt32
  g : UInt32
  h : UInt32

/-- The chaining value before the first block. -/
def State.initial : State :=
  ⟨0x6a09e667, 0xbb67ae85, 0x3c6ef372, 0xa54ff53a, 0x510e527f, 0x9b05688c, 0x1f83d9ab, 0x5be0cd19⟩

/-- Rotates a word to the right. -/
def rotate (word : UInt32) (count : UInt32) : UInt32 :=
  (word >>> count) ||| (word <<< (32 - count))

/-- Extends a message schedule, kept with its latest word first, by a number of words. -/
def extend : Nat → List UInt32 → List UInt32
  | 0, words => words
  | count + 1, words =>
    let w2 := words.getD 1 0
    let w7 := words.getD 6 0
    let w15 := words.getD 14 0
    let w16 := words.getD 15 0
    let s0 := rotate w15 7 ^^^ rotate w15 18 ^^^ (w15 >>> 3)
    let s1 := rotate w2 17 ^^^ rotate w2 19 ^^^ (w2 >>> 10)
    extend count ((w16 + s0 + w7 + s1) :: words)

/-- One round of the compression function. -/
def round (state : State) (input : UInt32 × UInt32) : State :=
  let s1 := rotate state.e 6 ^^^ rotate state.e 11 ^^^ rotate state.e 25
  let choice := (state.e &&& state.f) ^^^ ((~~~ state.e) &&& state.g)
  let first := state.h + s1 + choice + input.1 + input.2
  let s0 := rotate state.a 2 ^^^ rotate state.a 13 ^^^ rotate state.a 22
  let majority := (state.a &&& state.b) ^^^ (state.a &&& state.c) ^^^ (state.b &&& state.c)
  ⟨first + (s0 + majority), state.a, state.b, state.c, state.d + first, state.e, state.f, state.g⟩

/-- Absorbs one block of sixteen words. -/
def compress (state : State) (block : List UInt32) : State :=
  let schedule := (extend 48 block.reverse).reverse
  let result := (roundConstants.zip schedule).foldl round state
  ⟨state.a + result.a, state.b + result.b, state.c + result.c, state.d + result.d,
    state.e + result.e, state.f + result.f, state.g + result.g, state.h + result.h⟩

/-- A number as eight bytes, most significant first. -/
def lengthBytes (value : Nat) : Bytes :=
  (List.range 8).map fun index => UInt8.ofNat (value >>> (8 * (7 - index)))

/-- The message followed by a set bit, zeros and its length in bits. -/
def padded (message : Bytes) : Bytes :=
  let zeros := (119 - message.length % 64) % 64
  message ++ [0x80] ++ List.replicate zeros 0 ++ lengthBytes (message.length * 8)

/-- Groups bytes into words, most significant byte first. -/
def words : Bytes → List UInt32
  | first :: second :: third :: fourth :: rest =>
    ((first.toUInt32 <<< 24) ||| (second.toUInt32 <<< 16) ||| (third.toUInt32 <<< 8) |||
      fourth.toUInt32) :: words rest
  | _ => []

/-- Absorbs words block by block; the number bounds the count of blocks. -/
def absorb : Nat → State → List UInt32 → State
  | 0, state, _ => state
  | _ + 1, state, [] => state
  | blocks + 1, state, message =>
    absorb blocks (compress state (message.take 16)) (message.drop 16)

/-- The digest of a message as eight words. -/
def digest (message : Bytes) : List UInt32 :=
  let message := words (padded message)
  let final := absorb message.length .initial message
  [final.a, final.b, final.c, final.d, final.e, final.f, final.g, final.h]

/-- The digest of a message as sixty-four hexadecimal digits. -/
def hexDigest (message : Bytes) : String :=
  String.ofList ((digest message).flatMap fun word => Text.hex 8 word.toNat)

end ClassAtlas.Sha256
