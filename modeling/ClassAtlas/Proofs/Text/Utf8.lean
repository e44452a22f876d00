import ClassAtlas.Text.Utf8

/-!
Decoding undoes encoding.

The bytes of a character are read back as that character whatever bytes follow, so a byte sequence
that is the encoding of a text is decoded to the text, and it may be decoded piece by piece wherever it
is cut between characters.
-/

namespace ClassAtlas.Utf8

@[simp] theorem units_nil : units [] = [] := by
  rw [units]

theorem units_cons (byte : UInt8) (rest : Bytes) :
    units (byte :: rest) = (step byte rest).1 :: units (step byte rest).2 := by
  rw [units]

/-- A byte within the bounds continues a sequence. -/
theorem continuation_cons {low high value : Nat} (above : low ≤ value) (below : value ≤ high)
    (small : value < 256) (more code : Nat) (rest : Bytes) :
    continuation (more + 1) low high code (UInt8.ofNat value :: rest) =
      continuation more 0x80 0xbf (code * 64 + (value - 0x80)) rest := by
  simp [continuation, UInt8.toNat_ofNat_of_lt' small, above, below]

theorem step_lead {value bits more low high : Nat} (above : 0x80 ≤ value) (small : value < 256)
    (starts : lead? value = some ⟨bits, more, low, high⟩) (rest : Bytes) :
    step (UInt8.ofNat value) rest = continuation more low high bits rest := by
  simp [step, UInt8.toNat_ofNat_of_lt' small, Nat.not_lt.mpr above, starts]

section Sequences

variable {code : Nat} (rest : Bytes)

theorem step_one (small : code ≤ 0x7f) :
    step (UInt8.ofNat code) rest = (some code, rest) := by
  have ascii : (UInt8.ofNat code).toNat = code :=
    UInt8.toNat_ofNat_of_lt' (show code < 256 by omega)
  simp [step, ascii, Nat.lt_succ_of_le small]

theorem step_two (large : 0x7f < code) (small : code ≤ 0x7ff) :
    step (UInt8.ofNat (code / 64 % 0x20 + 0xc0)) (UInt8.ofNat (code % 0x40 + 0x80) :: rest) =
      (some code, rest) := by
  have starts : lead? (code / 64 % 0x20 + 0xc0) = some ⟨code / 64 % 0x20, 1, 0x80, 0xbf⟩ := by
    rw [lead?, if_pos (by omega), Nat.add_sub_cancel]
  rw [step_lead (by omega) (by omega) starts, continuation_cons (by omega) (by omega) (by omega)]
  simp only [continuation, Prod.mk.injEq, Option.some.injEq, and_true]
  omega

/-- The first of three bytes admits the second one. The first two cases are those in which its bounds
keep out overlong forms and surrogates. -/
theorem lead_three (large : 0x7ff < code) (small : code ≤ 0xffff)
    (scalar : code < 0xd800 ∨ 0xdfff < code) :
    ∃ low high, lead? (code / 4096 % 0x10 + 0xe0) = some ⟨code / 4096 % 0x10, 2, low, high⟩ ∧
      low ≤ code / 64 % 0x40 + 0x80 ∧ code / 64 % 0x40 + 0x80 ≤ high := by
  by_cases shortest : code < 0x1000
  · have bits : code / 4096 % 0x10 = 0 := by omega
    exact ⟨0xa0, 0xbf, by rw [bits]; rfl, by omega, by omega⟩
  by_cases nearSurrogates : 0xd000 ≤ code ∧ code < 0xe000
  · have bits : code / 4096 % 0x10 = 0xd := by omega
    exact ⟨0x80, 0x9f, by rw [bits]; rfl, by omega, by omega⟩
  refine ⟨0x80, 0xbf, ?_, by omega, by omega⟩
  rw [lead?, if_neg (by omega), if_neg (by omega), if_neg (by omega), if_pos (by omega),
    Nat.add_sub_cancel]

theorem step_three (large : 0x7ff < code) (small : code ≤ 0xffff)
    (scalar : code < 0xd800 ∨ 0xdfff < code) :
    step (UInt8.ofNat (code / 4096 % 0x10 + 0xe0))
        (UInt8.ofNat (code / 64 % 0x40 + 0x80) :: UInt8.ofNat (code % 0x40 + 0x80) :: rest) =
      (some code, rest) := by
  obtain ⟨low, high, starts, above, below⟩ := lead_three large small scalar
  rw [step_lead (by omega) (by omega) starts, continuation_cons above below (by omega),
    continuation_cons (by omega) (by omega) (by omega)]
  simp only [continuation, Prod.mk.injEq, Option.some.injEq, and_true]
  omega

/-- The first of four bytes admits the second one. The first two cases are those in which its bounds
keep out overlong forms and code points past the last plane. -/
theorem lead_four (large : 0xffff < code) (small : code < 0x110000) :
    ∃ low high, lead? (code / 262144 % 0x08 + 0xf0) = some ⟨code / 262144 % 0x08, 3, low, high⟩ ∧
      low ≤ code / 4096 % 0x40 + 0x80 ∧ code / 4096 % 0x40 + 0x80 ≤ high := by
  by_cases shortest : code < 0x40000
  · have bits : code / 262144 % 0x08 = 0 := by omega
    exact ⟨0x90, 0xbf, by rw [bits]; rfl, by omega, by omega⟩
  by_cases lastPlane : 0x100000 ≤ code
  · have bits : code / 262144 % 0x08 = 4 := by omega
    exact ⟨0x80, 0x8f, by rw [bits]; rfl, by omega, by omega⟩
  refine ⟨0x80, 0xbf, ?_, by omega, by omega⟩
  rw [lead?, if_neg (by omega), if_neg (by omega), if_neg (by omega), if_neg (by omega),
    if_neg (by omega), if_pos (by omega), Nat.add_sub_cancel]

theorem step_four (large : 0xffff < code) (small : code < 0x110000) :
    step (UInt8.ofNat (code / 262144 % 0x08 + 0xf0))
        (UInt8.ofNat (code / 4096 % 0x40 + 0x80) :: UInt8.ofNat (code / 64 % 0x40 + 0x80) ::
          UInt8.ofNat (code % 0x40 + 0x80) :: rest) =
      (some code, rest) := by
  obtain ⟨low, high, starts, above, below⟩ := lead_four large small
  rw [step_lead (by omega) (by omega) starts, continuation_cons above below (by omega),
    continuation_cons (by omega) (by omega) (by omega),
    continuation_cons (by omega) (by omega) (by omega)]
  simp only [continuation, Prod.mk.injEq, Option.some.injEq, and_true]
  omega

end Sequences

/-- The sequence of a character is read back in one step, whatever follows it. -/
theorem step_utf8EncodeChar (char : Char) (rest : Bytes) :
    ∃ byte more, String.utf8EncodeChar char = byte :: more ∧
      step byte (more ++ rest) = (some char.toNat, rest) := by
  have valid : char.val.toNat < 0xd800 ∨ 0xdfff < char.val.toNat ∧ char.val.toNat < 0x110000 :=
    char.valid
  change ∃ byte more, (if char.val.toNat ≤ 0x7f then _ else _) = byte :: more ∧
    step byte (more ++ rest) = (some char.val.toNat, rest)
  split
  case isTrue one => exact ⟨_, _, rfl, step_one rest one⟩
  split
  case isTrue two => exact ⟨_, _, rfl, step_two rest (by omega) two⟩
  split
  case isTrue three => exact ⟨_, _, rfl, step_three rest (by omega) three (by omega)⟩
  case isFalse four => exact ⟨_, _, rfl, step_four rest (by omega) (by omega)⟩

theorem units_utf8EncodeChar (char : Char) (rest : Bytes) :
    units (String.utf8EncodeChar char ++ rest) = some char.toNat :: units rest := by
  obtain ⟨byte, more, sequence, reads⟩ := step_utf8EncodeChar char rest
  rw [sequence, List.cons_append, units_cons, reads]

@[simp] theorem encode_append (front back : String) :
    encode (front ++ back) = encode front ++ encode back := by
  simp [encode]

@[simp] theorem encode_empty : encode "" = [] := rfl

theorem units_encode_append (text : String) (rest : Bytes) :
    units (encode text ++ rest) = text.toList.map (some ·.toNat) ++ units rest := by
  rw [encode]
  induction text.toList with
  | nil => rfl
  | cons char chars inductionHypothesis =>
    rw [List.flatMap_cons, List.append_assoc, units_utf8EncodeChar, inductionHypothesis]
    rfl

/-- The encoding of a text is decoded to that text, whatever bytes follow it. -/
theorem decode_encode_append (text : String) (rest : Bytes) :
    decode (encode text ++ rest) = text ++ decode rest := by
  have characters : text.toList.map (fun char => Char.ofNat char.toNat) = text.toList := by
    simp
  rw [← String.toList_inj]
  simp only [decode, units_encode_append, String.toList_ofList, List.map_append, List.map_map,
    String.toList_append]
  exact congrArg (· ++ _) characters

@[simp] theorem decode_nil : decode [] = "" := by
  simp [decode]

@[simp] theorem decode_encode (text : String) : decode (encode text) = text := by
  simpa using decode_encode_append text []

/-- Strict decoding accepts what encoding gives. -/
@[simp] theorem decode?_encode (text : String) : decode? (encode text) = some text := by
  have characters : ∀ chars : List Char,
      (chars.map (some ·.toNat)).mapM (fun (code : Option Nat) => code.map Char.ofNat) =
        some chars := by
    intro chars
    induction chars with
    | nil => rfl
    | cons char rest inductionHypothesis =>
      simp only [List.map_cons, List.mapM_cons, inductionHypothesis]
      simp
  have whole := units_encode_append text []
  rw [List.append_nil, units_nil, List.append_nil] at whole
  rw [decode?, whole, characters, Option.map_some, String.ofList_toList]

theorem firstBreakFrom?_utf8EncodeChar (total : Nat) (char : Char) (rest : Bytes) :
    firstBreakFrom? total (String.utf8EncodeChar char ++ rest) = firstBreakFrom? total rest := by
  obtain ⟨byte, more, sequence, reads⟩ := step_utf8EncodeChar char rest
  rw [sequence, List.cons_append, firstBreakFrom?, reads]

/-- What encoding gives has no broken pieces. -/
@[simp] theorem firstBreak?_encode (text : String) : firstBreak? (encode text) = none := by
  rw [firstBreak?]
  generalize (encode text).length = total
  rw [encode]
  induction text.toList with
  | nil => rw [List.flatMap_nil, firstBreakFrom?]
  | cons char rest inductionHypothesis =>
    rw [List.flatMap_cons, firstBreakFrom?_utf8EncodeChar, inductionHypothesis]

end ClassAtlas.Utf8
