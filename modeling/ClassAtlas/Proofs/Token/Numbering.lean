import ClassAtlas.Proofs.Token.Coverage
import ClassAtlas.Proofs.Token.Lines

/-!
Token lines are source lines.

A token starts on the line that the line feeds in the texts before it make. Its number is read off the
bytes before a leaf, and texts are what bytes are decoded to, so the two agree because decoding keeps line
feeds: none is taken into a longer sequence, well-formed or broken, and none comes out of one.
-/

namespace ClassAtlas

namespace Utf8

/-- Further bytes of a sequence only add to its code point. -/
theorem le_of_continuation {more low high code value : Nat} {bytes : Bytes}
    (reads : (continuation more low high code bytes).1 = some value) : code ≤ value := by
  induction more generalizing low high code bytes with
  | zero =>
    simp only [continuation, Option.some.injEq] at reads
    exact Nat.le_of_eq reads
  | succ more inductionHypothesis =>
    cases bytes with
    | nil => cases reads
    | cons byte rest =>
      rw [continuation] at reads
      split at reads
      · have longer := inductionHypothesis reads
        omega
      · cases reads

/-- A sequence is not continued by a line feed. -/
theorem count_continuation {more low high code : Nat} (above : 10 < low) (bytes : Bytes) :
    (continuation more low high code bytes).2.count 10 = bytes.count 10 := by
  induction more generalizing low high code bytes with
  | zero => rfl
  | succ more inductionHypothesis =>
    cases bytes with
    | nil => rfl
    | cons byte rest =>
      rw [continuation]
      split
      case isTrue inside =>
        have other : byte ≠ 10 := by
          rintro rfl
          exact absurd inside.1 (Nat.not_le.mpr above)
        rw [inductionHypothesis (by decide), List.count_cons_of_ne other]
      case isFalse => rfl

/-- The second byte of a sequence lies above ASCII, and no sequence stands for a line feed. -/
theorem lead?_above (byte : Nat) : ∀ lead ∈ lead? byte,
    0x80 ≤ lead.low ∧ lead.more ≠ 0 ∧ 16 ≤ lead.bits * 64 + (lead.low - 0x80) := by
  rw [lead?]
  repeat' split
  all_goals simp only [Option.mem_def, Option.some.injEq, forall_eq', reduceCtorEq, false_implies, implies_true]
  all_goals omega

/-- What a longer sequence stands for is no line feed. -/
theorem le_of_continuation_lead {byte value : Nat} {lead : Lead} (starts : lead ∈ lead? byte)
    {rest : Bytes} (reads : (continuation lead.more lead.low lead.high lead.bits rest).1 = some value) :
    16 ≤ value := by
  obtain ⟨low, more, first⟩ := lead?_above byte lead starts
  obtain ⟨left, isMore⟩ := Nat.exists_eq_succ_of_ne_zero more
  rw [isMore] at reads
  cases rest with
  | nil => cases reads
  | cons second others =>
    rw [continuation] at reads
    split at reads
    · have longer := le_of_continuation reads
      omega
    · cases reads

/-- A line feed is read as itself, and nothing else is read as one or takes one with it. -/
theorem count_step (byte : UInt8) (rest : Bytes) :
    (step byte rest).2.count 10 + (if (step byte rest).1 = some 10 then 1 else 0) =
      (byte :: rest).count 10 := by
  have isLineFeed : byte = 10 ↔ byte.toNat = 10 := UInt8.toNat_inj.symm
  rw [step]
  split
  case isTrue => simp [List.count_cons, isLineFeed]
  case isFalse above =>
    have other : byte ≠ 10 := by
      rw [ne_eq, isLineFeed]
      omega
    rw [List.count_cons_of_ne other]
    split
    case h_1 => rfl
    case h_2 lead starts =>
      have low := (lead?_above byte.toNat lead starts).1
      have notRead : (continuation lead.more lead.low lead.high lead.bits rest).1 ≠ some 10 := by
        intro reads
        exact absurd (le_of_continuation_lead starts reads) (by decide)
      rw [if_neg notRead, count_continuation (by omega), Nat.add_zero]

theorem count_units (bytes : Bytes) : (units bytes).count (some 10) = bytes.count 10 := by
  fun_induction units bytes with
  | case1 => rfl
  | case2 byte rest inductionHypothesis =>
    rw [List.count_cons, inductionHypothesis, ← count_step byte rest]
    simp only [beq_iff_eq]

theorem ofNat_eq_lineFeed_iff (code : Nat) : Char.ofNat code = '\n' ↔ code = 10 := by
  constructor
  · intro same
    by_cases valid : code.isValidChar
    · have made : Char.ofNat code = Char.ofNatAux code valid := dif_pos valid
      exact congrArg Char.toNat (made.symm.trans same)
    · have made : Char.ofNat code = '\x00' := dif_neg valid
      exact absurd (made.symm.trans same) (by decide)
  · rintro rfl
    rfl

/-- Decoding keeps line feeds, of well-formed bytes and of others. -/
theorem count_decode (bytes : Bytes) : (decode bytes).toList.count '\n' = bytes.count 10 := by
  have shown (code : Option Nat) :
      ((code.map Char.ofNat).getD replacement == '\n') = (code == some 10) := by
    rw [Bool.eq_iff_iff, beq_iff_eq, beq_iff_eq]
    cases code with
    | none => decide
    | some code => simp [ofNat_eq_lineFeed_iff]
  rw [decode, String.toList_ofList, List.count, List.countP_map, ← count_units, List.count]
  exact congrArg (List.countP · _) (funext shown)

end Utf8

namespace Source

/-- The line after a span of bytes is further on by the line feeds of its text. -/
theorem lineAt_eq_add (source : Source) {start stop : Nat} (ordered : start ≤ stop) :
    source.lineAt stop = source.lineAt start + (source.text start stop).toList.count '\n' := by
  obtain ⟨size, rfl⟩ := Nat.exists_eq_add_of_le ordered
  rw [text, Utf8.count_decode, lineAt, lineAt, List.take_add, List.count_append,
    Nat.add_sub_cancel_left]
  omega

end Source

namespace Token

/-- The line on which what follows some tokens starts. -/
def lineAfter (tokens : List Token) : Nat := 1 + (joinedText tokens).toList.count '\n'

theorem lineAfter_append (front back : List Token) :
    lineAfter (front ++ back) = lineAfter front + (joinedText back).toList.count '\n' := by
  simp [lineAfter, Nat.add_assoc]

/-- Whether the tokens of a stream, kept with its latest token first, start on the lines that the tokens
before them lead to. -/
inductive Numbered : List Token → Prop where
  | none : Numbered []
  | next {token : Token} {earlier : List Token} (before : Numbered earlier)
      (line : token.line = lineAfter earlier.reverse) : Numbered (token :: earlier)

namespace Numbered

variable {stream : List Token}

/-- A token may be joined to the one before it, which keeps its line. -/
theorem push (numbered : Numbered stream) {token : Token} (line : token.line = lineAfter stream.reverse)
    (adjacent : Bool) : Numbered (push stream token adjacent) := by
  have plain : Numbered (token :: stream) := .next numbered line
  cases numbered with
  | none => exact plain
  | @next previous earlier before previousLine =>
    rw [Token.push]
    split
    · split
      case h_1 merged joined => exact .next before ((line_of_merge? joined).trans previousLine)
      case h_2 => exact plain
    · exact plain

theorem line_eq {later earlier : List Token} {token : Token}
    (numbered : Numbered (later ++ token :: earlier)) : token.line = lineAfter earlier.reverse := by
  induction later with
  | nil =>
    cases numbered with
    | next _ line => exact line
  | cons _ _ inductionHypothesis =>
    cases numbered with
    | next before _ => exact inductionHypothesis before

/-- No token starts after the line that the whole stream leads to. -/
theorem line_le (numbered : Numbered stream) :
    ∀ token ∈ stream, token.line ≤ lineAfter stream.reverse := by
  intro token member
  obtain ⟨later, earlier, rfl⟩ := List.append_of_mem member
  rw [numbered.line_eq, List.reverse_append, List.reverse_cons, List.append_assoc, lineAfter_append]
  omega

/-- Lines never decrease. -/
theorem pairwise (numbered : Numbered stream) :
    stream.Pairwise fun later earlier => earlier.line ≤ later.line := by
  induction numbered with
  | none => exact .nil
  | next before line inductionHypothesis =>
    refine List.pairwise_cons.mpr ⟨fun earlier member => ?_, inductionHypothesis⟩
    rw [line]
    exact before.line_le earlier member

end Numbered

/-- What holds of the tokens so far: they are numbered, and they lead to the line of the cursor. -/
structure Progress.Counts (source : Source) (progress : Progress) : Prop where
  numbered : Numbered progress.stream
  line : progress.line = lineAfter progress.stream.reverse
  cursor : progress.line = source.lineAt progress.cursor

namespace Progress

variable {source : Source} {progress : Progress}

theorem start_counts (source : Source) : Counts source .start where
  numbered := .none
  line := rfl
  cursor := by simp [start, Source.lineAt]

/-- A gap starts on the line of the cursor and leads to the line of the offset after it. -/
theorem Counts.gap (counts : Counts source progress) {stop : Nat} (ahead : progress.cursor ≤ stop) :
    Counts source ⟨stop, source.lineAt stop,
      ofGap (source.text progress.cursor stop) progress.line :: progress.stream⟩ where
  numbered := .next counts.numbered (congrArg Nat.cast counts.line)
  line := by
    rw [List.reverse_cons, lineAfter_append, ← counts.line, counts.cursor, source.lineAt_eq_add ahead]
    simp [ofGap]
  cursor := rfl

/-- A leaf at the cursor starts on its line and leads to the line after the leaf, joined or not. -/
theorem Counts.leaf (counts : Counts source progress) {kind : TokenKind} {stop : Nat}
    (ahead : progress.cursor ≤ stop) (adjacent : Bool) :
    Counts source ⟨stop, source.lineAt stop,
      push progress.stream ⟨kind, source.text progress.cursor stop, source.lineAt progress.cursor⟩
        adjacent⟩ where
  numbered := by
    refine counts.numbered.push ?_ adjacent
    rw [← counts.cursor, counts.line]
  line := by
    rw [lineAfter, joinedText_push, source.lineAt_eq_add ahead, ← counts.cursor, counts.line, lineAfter]
    simp [Nat.add_assoc]
  cursor := rfl

theorem Counts.advance (counts : Counts source progress) {leaf : Node.Leaf}
    (nonempty : leaf.label.start < leaf.label.stop) : Counts source (progress.advance source leaf) := by
  rw [Progress.advance]
  split
  case isTrue => exact counts
  case isFalse ahead =>
    cases adjacent : leaf.label.start == progress.cursor with
    | true =>
      rw [beq_iff_eq.mp adjacent] at nonempty ⊢
      exact counts.leaf (Nat.le_of_lt nonempty) true
    | false => exact (counts.gap (Nat.not_lt.mp ahead)).leaf (Nat.le_of_lt nonempty) false

theorem Counts.foldl_advance {leaves : List Node.Leaf}
    (nonempty : ∀ leaf ∈ leaves, leaf.label.start < leaf.label.stop) (counts : Counts source progress) :
    Counts source (leaves.foldl (Progress.advance source) progress) := by
  induction leaves generalizing progress with
  | nil => exact counts
  | cons leaf rest inductionHypothesis =>
    rw [List.forall_mem_cons] at nonempty
    exact inductionHypothesis nonempty.2 (counts.advance nonempty.1)

/-- Whatever is left after the cursor starts on its line. -/
theorem Counts.finish (counts : Counts source progress) : Numbered (progress.finish source) := by
  rw [Progress.finish]
  split
  case isTrue ahead => exact (counts.gap (Nat.le_of_lt ahead)).numbered
  case isFalse => exact counts.numbered

end Progress

end Token

namespace Source

theorem numbered_tokens (source : Source) : Token.Numbered source.tokens.reverse := by
  rw [tokens, List.reverse_reverse]
  refine Token.Progress.Counts.finish ((Token.Progress.start_counts source).foldl_advance ?_)
  exact Node.start_lt_stop_of_mem_leavesUnder none source.root

/-- Every token starts on the line that the line feeds in the texts before it make, whatever the bytes
of the source and the leaves of its tree are. Lines therefore never decrease. -/
theorem token_lines_count_lineFeeds (source : Source) :
    (∀ front token back, source.tokens = front ++ token :: back →
      token.line = ((1 + (Token.joinedText front).toList.count '\n' : Nat) : Int)) ∧
    (source.tokens.map (·.line)).Pairwise (· ≤ ·) := by
  have numbered := source.numbered_tokens
  constructor
  · intro front token back cut
    have reversed : source.tokens.reverse = back.reverse ++ token :: front.reverse := by simp [cut]
    rw [reversed] at numbered
    rw [numbered.line_eq, List.reverse_reverse, Token.lineAfter]
  · rw [List.pairwise_map]
    simpa [List.pairwise_reverse] using numbered.pairwise

/-- A source with broken pieces before line feeds, a name of three leaves, and a leaf that overlaps it. -/
def broken : Source where
  bytes := [0xe2, 0x0a, 0x41, 0x5c, 0x42, 0x0a, 0xe2, 0x0a, 0x3b]
  root :=
    let leaf (kind : String) (start stop : Nat) : Node := .mk ⟨kind, true, "", start, stop⟩ []
    .mk ⟨"program", true, "", 0, 9⟩
      [leaf "name" 2 3, leaf "\\" 3 4, leaf "name" 4 5, leaf "name" 3 6, leaf "text" 6 8, leaf ";" 8 9]

theorem token_lines_count_lineFeeds_broken :
    ∃ front token, broken.tokens = front ++ token :: [] ∧
      front.map (·.text) = ["\ufffd\n", "A\\B", "\n", "\ufffd\n"] ∧
      token.line = ((1 + (Token.joinedText front).toList.count '\n' : Nat) : Int) ∧ token.line = 4 ∧
      (broken.tokens.map (·.line)).Pairwise (· ≤ ·) := by
  have cut : broken.tokens =
      [⟨.other, "\ufffd\n", 1⟩, ⟨.name, "A\\B", 2⟩, ⟨.whitespace, "\n", 2⟩, ⟨.other, "\ufffd\n", 3⟩] ++
        ⟨.mark .semicolon, ";", 4⟩ :: [] := by
    decide +kernel
  obtain ⟨lines, ordered⟩ := token_lines_count_lineFeeds broken
  exact ⟨_, _, cut, rfl, lines _ _ _ cut, rfl, ordered⟩

end Source

end ClassAtlas
