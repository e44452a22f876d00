import ClassAtlas.Proofs.Text.Search
import ClassAtlas.Proofs.Text.Utf8
import ClassAtlas.Token.Stream
import ClassAtlas.Token.Walk

/-!
The token stream covers its source.

Whatever the leaves of the syntax tree look like, the texts of the tokens are those of consecutive byte
spans from the first byte to the last, each decoded by itself. Spans are cut only where a leaf starts
or stops, so a source that is the encoding of a text, with leaves that start and stop between
characters, is given back exactly.
-/

namespace ClassAtlas

namespace Token

@[simp] theorem joinedText_nil : joinedText [] = "" := rfl

@[simp] theorem joinedText_cons (token : Token) (tokens : List Token) :
    joinedText (token :: tokens) = token.text ++ joinedText tokens := by
  simp [joinedText]

@[simp] theorem joinedText_append (front back : List Token) :
    joinedText (front ++ back) = joinedText front ++ joinedText back := by
  simp [joinedText]

/-- A merged token has the texts of both its parts. -/
theorem text_of_merge? {previous token merged : Token} (merges : merge? previous token = some merged) :
    merged.text = previous.text ++ token.text := by
  simp only [merge?] at merges
  split at merges
  · cases merges
    rfl
  · split at merges
    · cases merges
      rfl
    · split at merges
      · cases merges
        rfl
      · cases merges

/-- Pushing a token adds its text at the end, merged or not. -/
theorem joinedText_push (stream : List Token) (token : Token) (adjacent : Bool) :
    joinedText (push stream token adjacent).reverse = joinedText stream.reverse ++ token.text := by
  cases stream with
  | nil => simp [push]
  | cons previous earlier =>
    simp only [push]
    split
    · split
      case h_1 merged merges => simp [text_of_merge? merges, String.append_assoc]
      case h_2 => simp [String.append_assoc]
    · simp [String.append_assoc]

end Token

/-- Whether an offset into the encoding of a text lies between two characters. -/
def Utf8.IsBoundary (text : String) (offset : Nat) : Prop :=
  ∃ front back, text = front ++ back ∧ offset = (Utf8.encode front).length

namespace Source

/-- Byte spans that follow one another from one offset to another, none of them empty. -/
inductive Spans : Nat → List (Nat × Nat) → Nat → Prop where
  | none {offset : Nat} : Spans offset [] offset
  | next {first start stop : Nat} {spans : List (Nat × Nat)} (prior : Spans first spans start)
      (advances : start < stop) : Spans first (spans ++ [(start, stop)]) stop

/-- The texts of byte spans one after the other, each span decoded by itself. -/
def spannedText (source : Source) (spans : List (Nat × Nat)) : String :=
  Text.concat (spans.map fun span => source.text span.1 span.2)

/-- The offsets at which a source may be cut: its two ends and those of its leaves. -/
def IsCut (source : Source) (offset : Nat) : Prop :=
  offset = 0 ∨ offset = source.bytes.length ∨
    ∃ leaf ∈ source.root.leaves, offset = leaf.label.start ∨ offset = leaf.label.stop

@[simp] theorem spannedText_nil (source : Source) : source.spannedText [] = "" := rfl

@[simp] theorem spannedText_snoc (source : Source) (spans : List (Nat × Nat)) (start stop : Nat) :
    source.spannedText (spans ++ [(start, stop)]) =
      source.spannedText spans ++ source.text start stop := by
  simp [spannedText]

end Source

namespace Token.Progress

/-- A stream in progress holds the texts of spans from the first byte up to the cursor. -/
structure Covers (source : Source) (progress : Progress) (spans : List (Nat × Nat)) : Prop where
  consecutive : Source.Spans 0 spans progress.cursor
  cuts : ∀ span ∈ spans, source.IsCut span.1 ∧ source.IsCut span.2
  cursorIsCut : source.IsCut progress.cursor
  cursorWithin : progress.cursor ≤ source.bytes.length
  joined : joinedText progress.stream.reverse = source.spannedText spans

theorem start_covers (source : Source) : Covers source .start [] where
  consecutive := .none
  cuts := by simp
  cursorIsCut := .inl rfl
  cursorWithin := Nat.zero_le _
  joined := rfl

/-- Adding the text of one more span moves the cursor to its end. -/
theorem Covers.extend {source : Source} {progress : Progress} {spans : List (Nat × Nat)}
    (covers : Covers source progress spans) (next : Progress) (advances : progress.cursor < next.cursor)
    (isCut : source.IsCut next.cursor) (within : next.cursor ≤ source.bytes.length)
    (joined : joinedText next.stream.reverse =
      joinedText progress.stream.reverse ++ source.text progress.cursor next.cursor) :
    Covers source next (spans ++ [(progress.cursor, next.cursor)]) where
  consecutive := .next covers.consecutive advances
  cuts := by
    intro span member
    rcases List.mem_append.mp member with earlier | last
    · exact covers.cuts span earlier
    · rw [List.mem_singleton.mp last]
      exact ⟨covers.cursorIsCut, isCut⟩
  cursorIsCut := isCut
  cursorWithin := within
  joined := by rw [joined, covers.joined, Source.spannedText_snoc]

/-- One more leaf keeps the source covered: it is skipped, or the gap before it and the leaf itself
each become one more span. -/
theorem Covers.advance {source : Source} {progress : Progress} {spans : List (Nat × Nat)}
    (covers : Covers source progress spans) {leaf : Node.Leaf} (member : leaf ∈ source.root.leaves)
    (nonempty : leaf.label.start < leaf.label.stop)
    (within : leaf.label.stop ≤ source.bytes.length) :
    ∃ spans, Covers source (progress.advance source leaf) spans := by
  have startIsCut : source.IsCut leaf.label.start := .inr (.inr ⟨leaf, member, .inl rfl⟩)
  have stopIsCut : source.IsCut leaf.label.stop := .inr (.inr ⟨leaf, member, .inr rfl⟩)
  by_cases skipped : leaf.label.start < progress.cursor
  · rw [Progress.advance, if_pos skipped]
    exact ⟨spans, covers⟩
  rw [Progress.advance, if_neg skipped]
  by_cases adjacent : leaf.label.start = progress.cursor
  · refine ⟨_, covers.extend _ (adjacent ▸ nonempty) stopIsCut within ?_⟩
    simp only [adjacent, beq_self_eq_true, if_true, joinedText_push]
  · have gapAhead : progress.cursor < leaf.label.start := by omega
    -- The gap is a step of its own, to a stream that ends where the leaf starts.
    have gapCovered := covers.extend
      ⟨leaf.label.start, progress.line,
        ofGap (source.text progress.cursor leaf.label.start) progress.line :: progress.stream⟩
      gapAhead startIsCut (by simp only; omega) (by simp [ofGap])
    refine ⟨_, gapCovered.extend _ nonempty stopIsCut within ?_⟩
    have apart : (leaf.label.start == progress.cursor) = false := by simpa using adjacent
    simp only [apart, Bool.false_eq_true, if_false, joinedText_push]

theorem Covers.foldl_advance {source : Source} (leaves : List Node.Leaf)
    (members : ∀ leaf ∈ leaves, leaf ∈ source.root.leaves)
    (nonempty : ∀ leaf ∈ leaves, leaf.label.start < leaf.label.stop)
    (within : ∀ leaf ∈ leaves, leaf.label.stop ≤ source.bytes.length)
    {progress : Progress} {spans : List (Nat × Nat)} (covers : Covers source progress spans) :
    ∃ spans, Covers source (leaves.foldl (Progress.advance source) progress) spans := by
  induction leaves generalizing progress spans with
  | nil => exact ⟨spans, covers⟩
  | cons leaf rest inductionHypothesis =>
    simp only [List.forall_mem_cons] at members nonempty within
    obtain ⟨spans, covers⟩ := covers.advance members.1 nonempty.1 within.1
    exact inductionHypothesis members.2 nonempty.2 within.2 covers

/-- Finishing covers what is left after the cursor. -/
theorem Covers.finish {source : Source} {progress : Progress} {spans : List (Nat × Nat)}
    (covers : Covers source progress spans) :
    ∃ spans, Source.Spans 0 spans source.bytes.length ∧
      (∀ span ∈ spans, source.IsCut span.1 ∧ source.IsCut span.2) ∧
      joinedText (progress.finish source).reverse = source.spannedText spans := by
  rw [Progress.finish]
  by_cases tailAhead : progress.cursor < source.bytes.length
  · have tailCovered := covers.extend
      ⟨source.bytes.length, progress.line,
        ofGap (source.text progress.cursor source.bytes.length) progress.line :: progress.stream⟩
      tailAhead (.inr (.inl rfl)) (Nat.le_refl _) (by simp [ofGap])
    rw [if_pos tailAhead]
    exact ⟨_, tailCovered.consecutive, tailCovered.cuts, tailCovered.joined⟩
  · have atEnd : progress.cursor = source.bytes.length := by
      have within := covers.cursorWithin
      omega
    rw [if_neg tailAhead]
    exact ⟨spans, atEnd ▸ covers.consecutive, covers.cuts, covers.joined⟩

end Token.Progress

namespace Node

mutual

/-- A leaf covers at least one byte. -/
theorem start_lt_stop_of_mem_leavesUnder (parentKind : Option String) (node : Node)
    (leaf : Leaf) (member : leaf ∈ leavesUnder parentKind node) :
    leaf.label.start < leaf.label.stop := by
  match node with
  | .mk label [] =>
    simp only [leavesUnder] at member
    split at member
    case isTrue covers =>
      rw [List.mem_singleton.mp member]
      exact covers
    case isFalse => cases member
  | .mk label (child :: rest) =>
    rw [leavesUnder] at member
    exact start_lt_stop_of_mem_leavesOfAll _ (child :: rest) leaf member

theorem start_lt_stop_of_mem_leavesOfAll (parentKind : Option String) (nodes : List Node)
    (leaf : Leaf) (member : leaf ∈ leavesOfAll parentKind nodes) :
    leaf.label.start < leaf.label.stop := by
  match nodes with
  | [] => simp [leavesOfAll] at member
  | node :: rest =>
    rw [leavesOfAll] at member
    rcases List.mem_append.mp member with here | later
    · exact start_lt_stop_of_mem_leavesUnder parentKind node leaf here
    · exact start_lt_stop_of_mem_leavesOfAll parentKind rest leaf later

end

end Node

namespace Source

/-- The tokens of a source hold the texts of spans that cover it. -/
theorem exists_spans_of_tokens (source : Source)
    (within : ∀ leaf ∈ source.root.leaves, leaf.label.stop ≤ source.bytes.length) :
    ∃ spans, Spans 0 spans source.bytes.length ∧
      (∀ span ∈ spans, source.IsCut span.1 ∧ source.IsCut span.2) ∧
      Token.joinedText source.tokens = source.spannedText spans := by
  have nonempty : ∀ leaf ∈ source.root.leaves, leaf.label.start < leaf.label.stop :=
    Node.start_lt_stop_of_mem_leavesUnder none source.root
  obtain ⟨_, covers⟩ := Token.Progress.Covers.foldl_advance source.root.leaves
    (fun _ member => member) nonempty within (Token.Progress.start_covers source)
  exact covers.finish

/-- Text may be cut between characters before it is decoded. -/
theorem text_zero_eq_append {source : Source} {content : String}
    (encoded : source.bytes = Utf8.encode content) {start stop : Nat}
    (boundary : Utf8.IsBoundary content start) (ordered : start ≤ stop) :
    source.text 0 stop = source.text 0 start ++ source.text start stop := by
  obtain ⟨front, back, rfl, rfl⟩ := boundary
  have taken : (Utf8.encode front ++ Utf8.encode back).take stop =
      Utf8.encode front ++ (Utf8.encode back).take (stop - (Utf8.encode front).length) := by
    rw [List.take_append, List.take_of_length_le ordered]
  simp [text, encoded, taken, Utf8.decode_encode_append]

/-- Spans that start between characters may be decoded at once. -/
theorem Spans.spannedText_eq {source : Source} {content : String}
    (encoded : source.bytes = Utf8.encode content) {spans : List (Nat × Nat)} {stop : Nat}
    (consecutive : Spans 0 spans stop)
    (boundaries : ∀ span ∈ spans, Utf8.IsBoundary content span.1) :
    source.spannedText spans = source.text 0 stop := by
  induction consecutive with
  | none => simp [text]
  | @next start stop spans prior advances inductionHypothesis =>
    have boundary : Utf8.IsBoundary content start :=
      boundaries (start, stop) (List.mem_append_right _ (List.mem_singleton.mpr rfl))
    have earlier := inductionHypothesis fun span member =>
      boundaries span (List.mem_append_left _ member)
    rw [spannedText_snoc, earlier, text_zero_eq_append encoded boundary (Nat.le_of_lt advances)]

/-- Every cut of a source whose leaves start and stop between characters lies between characters. -/
theorem IsCut.isBoundary {source : Source} {content : String}
    (encoded : source.bytes = Utf8.encode content)
    (leaves : ∀ leaf ∈ source.root.leaves,
      Utf8.IsBoundary content leaf.label.start ∧ Utf8.IsBoundary content leaf.label.stop)
    {offset : Nat} (isCut : source.IsCut offset) : Utf8.IsBoundary content offset := by
  rcases isCut with rfl | rfl | ⟨leaf, member, rfl | rfl⟩
  · exact ⟨"", content, by simp, rfl⟩
  · exact ⟨content, "", by simp, by rw [encoded]⟩
  · exact (leaves leaf member).1
  · exact (leaves leaf member).2

/-- Tokens lose nothing of their source: joined, they are the texts of consecutive spans that cover
all bytes in order and are cut only at the ends of leaves. A source that encodes a text, with leaves
that start and stop between its characters, is given back as that text. -/
theorem tokens_cover_source (source : Source)
    (within : ∀ leaf ∈ source.root.leaves, leaf.label.stop ≤ source.bytes.length) :
    (∃ spans, Spans 0 spans source.bytes.length ∧
      (∀ span ∈ spans, source.IsCut span.1 ∧ source.IsCut span.2) ∧
      Token.joinedText source.tokens = source.spannedText spans) ∧
    ∀ content, source.bytes = Utf8.encode content →
      (∀ leaf ∈ source.root.leaves,
        Utf8.IsBoundary content leaf.label.start ∧ Utf8.IsBoundary content leaf.label.stop) →
      Token.joinedText source.tokens = Utf8.decode source.bytes ∧
        Utf8.decode source.bytes = content := by
  obtain ⟨spans, consecutive, cuts, joined⟩ := exists_spans_of_tokens source within
  refine ⟨⟨spans, consecutive, cuts, joined⟩, ?_⟩
  intro content encoded leaves
  have boundaries : ∀ span ∈ spans, Utf8.IsBoundary content span.1 :=
    fun span member => (cuts span member).1.isBoundary encoded leaves
  constructor
  · rw [joined, consecutive.spannedText_eq encoded boundaries]
    simp [text]
  · rw [encoded, Utf8.decode_encode]

/-- A source with a gap, a leaf that covers no byte, and a leaf that overlaps the one before it. -/
def overlapping : Source where
  bytes := Utf8.encode "é $a"
  root :=
    let leaf (kind : String) (start stop : Nat) : Node := .mk ⟨kind, true, "", start, stop⟩ []
    .mk ⟨"program", true, "", 0, 5⟩
      [leaf "name" 0 2, leaf ";" 2 2, leaf "$" 3 4, leaf "name" 4 5, leaf "variable_name" 3 5]

theorem tokens_cover_overlapping :
    (∀ leaf ∈ overlapping.root.leaves, leaf.label.stop ≤ overlapping.bytes.length) ∧
      Token.joinedText overlapping.tokens = "é $a" := by
  have within : ∀ leaf ∈ overlapping.root.leaves, leaf.label.stop ≤ overlapping.bytes.length := by
    decide
  have boundaries : ∀ leaf ∈ overlapping.root.leaves,
      Utf8.IsBoundary "é $a" leaf.label.start ∧ Utf8.IsBoundary "é $a" leaf.label.stop := by
    have zero : Utf8.IsBoundary "é $a" 0 := ⟨"", "é $a", rfl, rfl⟩
    have two : Utf8.IsBoundary "é $a" 2 := ⟨"é", " $a", rfl, rfl⟩
    have three : Utf8.IsBoundary "é $a" 3 := ⟨"é ", "$a", rfl, rfl⟩
    have four : Utf8.IsBoundary "é $a" 4 := ⟨"é $", "a", rfl, rfl⟩
    have five : Utf8.IsBoundary "é $a" 5 := ⟨"é $a", "", rfl, rfl⟩
    simp [overlapping, Node.leaves, Node.leavesUnder, Node.leavesOfAll, *]
  obtain ⟨joined, decoded⟩ := (tokens_cover_source overlapping within).2 "é $a" rfl boundaries
  exact ⟨within, joined.trans decoded⟩

end Source

end ClassAtlas
