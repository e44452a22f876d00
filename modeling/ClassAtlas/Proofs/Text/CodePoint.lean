import ClassAtlas.Proofs.Token.Coverage

/-!
Offsets between the characters of a byte sequence.

A byte sequence is read piece by piece, and may be cut between two pieces before it is decoded, whether
or not it is well-formed: a piece that is broken by the byte after it is broken by the end of the bytes
too.
-/

namespace ClassAtlas

namespace Utf8

/-- Whether bytes are read with a boundary between two pieces where the second part begins. -/
inductive Cut : Bytes → Bytes → Prop where
  | nil {back : Bytes} : Cut [] back
  | step {byte : UInt8} {taken front back : Bytes}
      (reads : (step byte (taken ++ (front ++ back))).2 = front ++ back) (later : Cut front back) :
      Cut (byte :: (taken ++ front)) back

/-- A sequence that ends before some bytes does not depend on how far these go on. -/
theorem continuation_append {more low high code : Nat} {taken after : Bytes}
    (ends : (continuation more low high code (taken ++ after)).2 = after) {start : Bytes}
    (leads : start <+: after) :
    continuation more low high code (taken ++ start) =
      ((continuation more low high code (taken ++ after)).1, start) := by
  induction more generalizing low high code taken with
  | zero =>
    have nothing : taken = [] := by simpa [continuation] using ends
    simp [nothing, continuation]
  | succ more inductionHypothesis =>
    cases taken with
    | nil =>
      cases after with
      | nil => simp [List.prefix_nil.mp leads, continuation]
      | cons byte rest =>
        have outside : ¬ (low ≤ byte.toNat ∧ byte.toNat ≤ high) := by
          intro inside
          have shorter := length_continuation_le more 0x80 0xbf (code * 64 + (byte.toNat - 0x80)) rest
          simp only [List.nil_append, continuation, if_pos inside] at ends
          rw [ends, List.length_cons] at shorter
          omega
        cases start with
        | nil => simp [continuation, outside]
        | cons first more =>
          rw [List.cons_prefix_cons] at leads
          simp [continuation, leads.1, outside]
    | cons byte taken =>
      have inside : low ≤ byte.toNat ∧ byte.toNat ≤ high := by
        apply Decidable.byContradiction
        intro outside
        have longer := congrArg List.length ends
        simp only [List.cons_append, continuation, if_neg outside, List.length_cons,
          List.length_append] at longer
        omega
      simp only [List.cons_append, continuation, if_pos inside] at ends ⊢
      exact inductionHypothesis ends

theorem step_append {byte : UInt8} {taken after : Bytes}
    (ends : (step byte (taken ++ after)).2 = after) {start : Bytes} (leads : start <+: after) :
    step byte (taken ++ start) = ((step byte (taken ++ after)).1, start) := by
  simp only [step] at ends ⊢
  by_cases ascii : byte.toNat < 0x80
  · have nothing : taken = [] := by simpa [ascii] using ends
    simp [ascii, nothing]
  · simp only [if_neg ascii] at ends ⊢
    cases starts : lead? byte.toNat with
    | none =>
      have nothing : taken = [] := by simpa [starts] using ends
      simp [nothing]
    | some lead =>
      simp only [starts] at ends
      exact continuation_append ends leads

namespace Cut

variable {front back : Bytes}

/-- A boundary stays one when bytes after it are left out. -/
theorem of_isPrefix (cut : Cut front back) {start : Bytes} (leads : start <+: back) :
    Cut front start := by
  induction cut with
  | nil => exact .nil
  | step reads _ inductionHypothesis =>
    refine .step ?_ (inductionHypothesis leads)
    rw [step_append reads ((List.prefix_append_right_inj _).mpr leads)]

theorem units_append (cut : Cut front back) : units (front ++ back) = units front ++ units back := by
  induction cut with
  | nil => simp
  | step reads _ inductionHypothesis =>
    rw [List.cons_append, List.append_assoc, units_cons, units_cons,
      step_append reads (List.prefix_append _ _), reads, inductionHypothesis, List.cons_append]

/-- Bytes that are cut at a boundary are decoded to the same text. -/
theorem decode_append (cut : Cut front back) :
    decode (front ++ back) = decode front ++ decode back := by
  rw [← String.toList_inj]
  simp [decode, cut.units_append]

/-- The bytes between two boundaries end in a boundary. -/
theorem of_append {middle : Bytes} (first : Cut front (middle ++ back))
    (second : Cut (front ++ middle) back) : Cut middle back := by
  generalize rest : middle ++ back = after at first
  induction first with
  | nil => exact second
  | @step byte taken front after reads later inductionHypothesis =>
    subst rest
    generalize whole : byte :: (taken ++ front) ++ middle = bytes at second
    cases second with
    | nil => cases whole
    | @step _ otherTaken otherFront _ otherReads otherLater =>
      simp only [List.cons_append, List.append_assoc, List.cons.injEq] at whole
      obtain ⟨rfl, whole⟩ := whole
      -- Both readings take the same bytes first, so they leave the same ones.
      have bytes : otherTaken ++ (otherFront ++ back) = taken ++ (front ++ (middle ++ back)) := by
        rw [← List.append_assoc, ← whole]
        simp
      have left : otherFront ++ back = front ++ middle ++ back := by
        rw [← otherReads, bytes, reads, List.append_assoc]
      have same : otherFront = front ++ middle := List.append_cancel_right left
      exact inductionHypothesis (same ▸ otherLater) rfl

/-- The encoding of a text ends in a boundary, whatever bytes follow it. -/
theorem encode (text : String) (back : Bytes) : Cut (Utf8.encode text) back := by
  rw [Utf8.encode]
  induction text.toList with
  | nil => exact .nil
  | cons char chars inductionHypothesis =>
    obtain ⟨byte, more, sequence, reads⟩ :=
      step_utf8EncodeChar char (chars.flatMap String.utf8EncodeChar ++ back)
    rw [List.flatMap_cons, sequence]
    exact .step (by rw [reads]) inductionHypothesis

end Cut

/-- Whether an offset into the encoding of characters lies between two of them. -/
def isBoundaryIn : List Char → Nat → Bool
  | _, 0 => true
  | [], _ + 1 => false
  | char :: rest, offset + 1 =>
    let size := (String.utf8EncodeChar char).length
    size ≤ offset + 1 && isBoundaryIn rest (offset + 1 - size)

theorem isBoundaryIn_append (front back : List Char) :
    isBoundaryIn (front ++ back) (front.flatMap String.utf8EncodeChar).length = true := by
  induction front with
  | nil => simp [isBoundaryIn]
  | cons char rest inductionHypothesis =>
    rw [List.flatMap_cons, List.length_append]
    cases total : (String.utf8EncodeChar char).length +
        (rest.flatMap String.utf8EncodeChar).length with
    | zero => rw [isBoundaryIn]
    | succ offset =>
      rw [List.cons_append, isBoundaryIn, ← total, Nat.add_sub_cancel_left, inductionHypothesis]
      simp

theorem exists_append_of_isBoundaryIn {chars : List Char} {offset : Nat}
    (boundary : isBoundaryIn chars offset = true) :
    ∃ front back, chars = front ++ back ∧
      offset = (front.flatMap String.utf8EncodeChar).length := by
  fun_induction isBoundaryIn chars offset with
  | case1 chars => exact ⟨[], chars, rfl, rfl⟩
  | case2 => cases boundary
  | case3 char rest offset size inductionHypothesis =>
    simp only [Bool.and_eq_true, decide_eq_true_eq] at boundary
    obtain ⟨front, back, rfl, left⟩ := inductionHypothesis boundary.2
    refine ⟨char :: front, back, rfl, ?_⟩
    rw [List.flatMap_cons, List.length_append, ← left]
    omega

instance (text : String) (offset : Nat) : Decidable (IsBoundary text offset) :=
  decidable_of_iff (isBoundaryIn text.toList offset = true) <| by
    constructor
    · intro boundary
      obtain ⟨front, back, chars, length⟩ := exists_append_of_isBoundaryIn boundary
      refine ⟨String.ofList front, String.ofList back, ?_, by simpa [encode] using length⟩
      rw [← String.ofList_append, ← chars, String.ofList_toList]
    · rintro ⟨front, back, rfl, rfl⟩
      rw [String.toList_append, encode]
      exact isBoundaryIn_append front.toList back.toList

end Utf8

namespace Source

/-- Whether an offset lies between two characters of a source, as they are read from its start. -/
def IsBoundary (source : Source) (offset : Nat) : Prop :=
  Utf8.Cut (source.bytes.take offset) (source.bytes.drop offset)

/-- The boundaries between the characters of a text are boundaries of its encoding. -/
theorem isBoundary_of_encode {source : Source} {content : String}
    (encoded : source.bytes = Utf8.encode content) {offset : Nat}
    (boundary : Utf8.IsBoundary content offset) : source.IsBoundary offset := by
  obtain ⟨front, back, rfl, rfl⟩ := boundary
  rw [IsBoundary, encoded, Utf8.encode_append, List.take_left, List.drop_left]
  exact .encode front _

/-- Any bytes are decoded to some text. -/
theorem text_ne_empty {source : Source} {start stop : Nat} (covers : start < stop)
    (within : stop ≤ source.bytes.length) : source.text start stop ≠ "" := by
  intro empty
  cases bytes : (source.bytes.drop start).take (stop - start) with
  | nil =>
    have length := congrArg List.length bytes
    simp only [List.length_take, List.length_drop, List.length_nil] at length
    omega
  | cons byte rest =>
    rw [text, bytes, ← String.toList_inj] at empty
    simp [Utf8.decode, Utf8.units_cons] at empty

/-- The text between two offsets may be cut at a boundary between them. -/
theorem text_append {source : Source} {start middle stop : Nat} (first : source.IsBoundary start)
    (second : source.IsBoundary middle) (before : start ≤ middle) (after : middle ≤ stop) :
    source.text start stop = source.text start middle ++ source.text middle stop := by
  obtain ⟨size, rfl⟩ := Nat.exists_eq_add_of_le before
  obtain ⟨more, rfl⟩ := Nat.exists_eq_add_of_le after
  have front : source.bytes.take (start + size) =
      source.bytes.take start ++ (source.bytes.drop start).take size := List.take_add
  have back : source.bytes.drop start =
      (source.bytes.drop start).take size ++ source.bytes.drop (start + size) := by
    rw [← List.drop_drop, List.take_append_drop]
  rw [IsBoundary, front] at second
  rw [IsBoundary, back] at first
  have inner := (first.of_append second).of_isPrefix
    (List.take_prefix more (source.bytes.drop (start + size)))
  have whole : (source.bytes.drop start).take (size + more) =
      (source.bytes.drop start).take size ++ (source.bytes.drop (start + size)).take more := by
    rw [List.take_add, List.drop_drop]
  have total : start + size + more - start = size + more := by omega
  have rest : start + size + more - (start + size) = more := by omega
  rw [text, text, text, total, rest, Nat.add_sub_cancel_left, whole, inner.decode_append]

end Source

end ClassAtlas
