import ClassAtlas.Proofs.Text.CodePoint
import ClassAtlas.Proofs.Token.Alignment
import ClassAtlas.Proofs.Tree.Nested

/-!
How leaves become tokens.

A leaf becomes a token of its own, or is joined to the latest token where it directly follows it and
continues the name or the variable there. Earlier tokens never change again. Parts of names that touch
are always joined, so a token stream has no adjacent parts of names.
-/

namespace ClassAtlas

/-- The token that a leaf becomes by itself. -/
def Source.leafToken (source : Source) (leaf : Node.Leaf) : Token :=
  ⟨leaf.tokenKind, source.text leaf.label.start leaf.label.stop, source.lineAt leaf.label.start⟩

namespace Token

namespace Progress

variable {source : Source} {progress : Progress} {leaf : Node.Leaf}

/-- The token for the bytes between the cursor and a leaf, if there are any. -/
def gap (source : Source) (progress : Progress) (leaf : Node.Leaf) : List Token :=
  if leaf.label.start = progress.cursor then []
  else [ofGap (source.text progress.cursor leaf.label.start) progress.line]

/-- Whether a leaf is not joined to the latest token. -/
def Apart (source : Source) (progress : Progress) (leaf : Node.Leaf) : Prop :=
  leaf.label.start = progress.cursor →
    ∀ latest ∈ progress.stream.head?, merge? latest (source.leafToken leaf) = none

/-- A leaf that stands apart becomes a token of its own. -/
theorem advance_of_apart (ahead : progress.cursor ≤ leaf.label.start)
    (apart : Apart source progress leaf) :
    progress.advance source leaf =
      ⟨leaf.label.stop, source.lineAt leaf.label.stop,
        source.leafToken leaf :: (gap source progress leaf ++ progress.stream)⟩ := by
  rw [advance, if_neg (Nat.not_lt.mpr ahead), gap]
  by_cases touches : leaf.label.start = progress.cursor
  · have none := apart touches
    simp only [touches, beq_self_eq_true, if_true, List.nil_append]
    cases stream : progress.stream with
    | nil => simp [push, Source.leafToken, touches]
    | cons latest earlier =>
      have separate := none latest (by simp [stream])
      simp only [Source.leafToken, touches] at separate
      simp [push, separate, Source.leafToken, touches]
  · simp [touches, push, Source.leafToken]

theorem push_of_merge? {previous token merged : Token}
    (joined : merge? previous token = some merged) (earlier : List Token) :
    push (previous :: earlier) token true = merged :: earlier := by
  simp only [push, if_true, joined]

theorem tail_suffix_push (stream : List Token) (token : Token) (adjacent : Bool) :
    stream.tail <:+ (push stream token adjacent).tail := by
  cases stream with
  | nil => exact List.nil_suffix
  | cons latest earlier =>
    simp only [push]
    split
    · split
      · exact List.suffix_rfl
      · exact List.suffix_cons latest earlier
    · exact List.suffix_cons latest earlier

/-- Tokens before the latest one stay as they are. -/
theorem tail_suffix_advance (source : Source) (progress : Progress) (leaf : Node.Leaf) :
    progress.stream.tail <:+ (progress.advance source leaf).stream.tail := by
  simp only [advance]
  split
  · exact List.suffix_rfl
  · refine List.IsSuffix.trans ?_ (tail_suffix_push _ _ _)
    split
    · exact List.suffix_rfl
    · exact List.tail_suffix _

theorem tail_suffix_foldl (source : Source) (progress : Progress) (leaves : List Node.Leaf) :
    progress.stream.tail <:+ (leaves.foldl (advance source) progress).stream.tail := by
  induction leaves generalizing progress with
  | nil => exact List.suffix_rfl
  | cons leaf rest inductionHypothesis =>
    exact (tail_suffix_advance source progress leaf).trans (inductionHypothesis _)

/-- Tokens stay as they are when the next leaf stands apart. -/
theorem suffix_foldl_of_apart {leaves : List Node.Leaf}
    (apart : ∀ next ∈ leaves.head?, progress.cursor ≤ next.label.start ∧ Apart source progress next) :
    progress.stream <:+ (leaves.foldl (advance source) progress).stream := by
  cases leaves with
  | nil => exact List.suffix_rfl
  | cons next rest =>
    obtain ⟨ahead, separate⟩ := apart next rfl
    have pushed : progress.stream <:+ (progress.advance source next).stream.tail := by
      rw [advance_of_apart ahead separate]
      exact List.suffix_append _ _
    exact pushed.trans ((tail_suffix_foldl source _ rest).trans (List.tail_suffix _))

theorem suffix_finish (source : Source) (progress : Progress) :
    progress.stream <:+ progress.finish source := by
  rw [finish]
  split
  · exact List.suffix_cons _ _
  · exact List.suffix_rfl

/-- The cursor stands at the end of a leaf that was passed. -/
theorem cursor_foldl_le {leaves : List Node.Leaf} {offset : Nat} (starts : progress.cursor ≤ offset)
    (before : ∀ leaf ∈ leaves, leaf.label.stop ≤ offset) :
    (leaves.foldl (advance source) progress).cursor ≤ offset := by
  induction leaves generalizing progress with
  | nil => exact starts
  | cons leaf rest inductionHypothesis =>
    rw [List.forall_mem_cons] at before
    refine inductionHypothesis ?_ before.2
    rw [advance]
    split
    · exact starts
    · exact before.1

section Latest

/-- What is known of the latest token once a leaf is covered: it ends with the leaf, and it is part of
a name only if the leaf is or spells a segment. -/
structure Latest (source : Source) (leaf : Node.Leaf) (token : Token) : Prop where
  text : ∃ front, token.text = front ++ source.text leaf.label.start leaf.label.stop
  segment : token.isNamePart = true → leaf.tokenKind.isNamePart = true ∨
    spellsSegment (source.text leaf.label.start leaf.label.stop) = true

theorem latest_leafToken (source : Source) (leaf : Node.Leaf) :
    Latest source leaf (source.leafToken leaf) :=
  ⟨⟨"", by simp [Source.leafToken]⟩, .inl⟩

theorem latest_of_merge? {previous merged : Token}
    (merges : merge? previous (source.leafToken leaf) = some merged) : Latest source leaf merged := by
  refine ⟨⟨previous.text, text_of_merge? merges⟩, fun isPart => ?_⟩
  simp only [merge?] at merges
  split at merges
  case isTrue parts =>
    rw [Bool.and_eq_true] at parts
    exact .inl parts.2
  case isFalse =>
    split at merges
    case isTrue spells =>
      rw [Bool.and_eq_true] at spells
      exact .inr spells.2
    case isFalse =>
      split at merges
      · cases merges
        cases isPart
      · cases merges

/-- Covering a leaf leaves it at the end of the latest token. -/
theorem exists_latest (ahead : progress.cursor ≤ leaf.label.start) :
    (progress.advance source leaf).cursor = leaf.label.stop ∧
      ∃ token, (progress.advance source leaf).stream.head? = some token ∧ Latest source leaf token := by
  rw [advance, if_neg (Nat.not_lt.mpr ahead)]
  refine ⟨rfl, ?_⟩
  have pushed : ∀ stream adjacent, ∃ token,
      (push stream (source.leafToken leaf) adjacent).head? = some token ∧ Latest source leaf token := by
    intro stream adjacent
    cases stream with
    | nil => exact ⟨_, rfl, latest_leafToken source leaf⟩
    | cons latest earlier =>
      simp only [push]
      split
      · split
        case h_1 merged merges => exact ⟨merged, rfl, latest_of_merge? merges⟩
        case h_2 => exact ⟨_, rfl, latest_leafToken source leaf⟩
      · exact ⟨_, rfl, latest_leafToken source leaf⟩
  exact pushed _ _

end Latest

end Progress

/-- Tokens are not joined where none of the reasons to join them holds. -/
theorem merge?_eq_none {previous token : Token}
    (notParts : previous.isNamePart = true → token.isNamePart = false)
    (notSegment : previous.isNamePart = true → Text.endsWith previous.text "\\" = true →
      spellsSegment token.text = false)
    (notVariable : previous.kind ≠ .other ∨ token.kind ≠ .name) : merge? previous token = none := by
  have parts : (previous.isNamePart && token.isNamePart) = false := by
    cases isPart : previous.isNamePart with
    | true => simp [notParts isPart]
    | false => rfl
  have segment : (previous.isNamePart && Text.endsWith previous.text "\\" &&
      spellsSegment token.text) = false := by
    cases isPart : previous.isNamePart with
    | true =>
      cases ends : Text.endsWith previous.text "\\" with
      | true => simp [notSegment isPart ends]
      | false => simp
    | false => simp
  have notJoined : (previous.kind == .other && previous.text == "$" && token.kind == .name) = false := by
    rcases notVariable with notOther | notName
    · simp [notOther]
    · simp [notName]
  simp [merge?, parts, segment, notJoined]

theorem endsWith_separator_iff (text : String) :
    Text.endsWith text "\\" = true ↔ text.toList.getLast? = some '\\' := by
  rw [Text.endsWith_iff]
  exact List.singleton_suffix_iff_getLast?_eq_some

/-- A text ends in a separator when its last part does. -/
theorem endsWith_append {front text : String} (nonempty : text ≠ "") :
    Text.endsWith (front ++ text) "\\" = Text.endsWith text "\\" := by
  have chars : text.toList ≠ [] := fun empty => nonempty (String.toList_inj.mp empty)
  rw [Bool.eq_iff_iff, endsWith_separator_iff, endsWith_separator_iff, String.toList_append,
    List.getLast?_append_of_ne_nil _ chars]

/-- A segment does not end in a separator. -/
theorem endsWith_of_spellsSegment {text : String} (spells : spellsSegment text = true) :
    Text.endsWith text "\\" = false := by
  rw [← Bool.not_eq_true, endsWith_separator_iff]
  intro last
  have member : '\\' ∈ text.toList := List.mem_of_getLast? last
  simp only [spellsSegment, Bool.or_eq_true, Bool.and_eq_true, beq_iff_eq] at spells
  rcases spells with identifier | ⟨lineFeed, -⟩
  · cases chars : text.toList with
    | nil => simp [chars] at member
    | cons first rest =>
      rw [chars, isIdentifier, Bool.and_eq_true, List.all_eq_true] at identifier
      rcases List.mem_cons.mp (chars ▸ member) with rfl | later
      · exact absurd identifier.1 (by decide)
      · exact absurd (identifier.2 _ later) (by decide)
  · rw [last] at lineFeed
    cases lineFeed

end Token

/-- Whether a leaf continues a name that another ends: it follows directly, and it is part of a name,
or it spells a segment after a separator. -/
def Source.continues (source : Source) (leaf next : Node.Leaf) : Bool :=
  next.label.start == leaf.label.stop &&
    (next.tokenKind.isNamePart ||
      Text.endsWith (source.text leaf.label.start leaf.label.stop) "\\" &&
        Token.spellsSegment (source.text next.label.start next.label.stop))

namespace Token.Progress

variable {source : Source} {progress : Progress} {leaf next : Node.Leaf}

/-- A leaf that does not continue the name that the latest token ends stands apart. -/
theorem apart_of_not_continues {token : Token} (latest : Latest source leaf token)
    (head : progress.stream.head? = some token) (cursor : progress.cursor = leaf.label.stop)
    (nonempty : source.text leaf.label.start leaf.label.stop ≠ "")
    (ends : token.isNamePart = true → source.continues leaf next = false)
    (notVariable : token.kind ≠ .other ∨ next.tokenKind ≠ .name) : Apart source progress next := by
  intro touches other isOther
  rw [head, Option.mem_some_iff] at isOther
  subst isOther
  obtain ⟨front, text⟩ := latest.text
  have meets : (next.label.start == leaf.label.stop) = true := by simp [touches, cursor]
  refine merge?_eq_none ?_ ?_ notVariable
  · intro isPart
    have apart := ends isPart
    simp only [Source.continues, meets, Bool.true_and, Bool.or_eq_false_iff] at apart
    exact apart.1
  · intro isPart separated
    have apart := ends isPart
    rw [text, endsWith_append nonempty] at separated
    simp only [Source.continues, meets, separated, Bool.true_and, Bool.or_eq_false_iff] at apart
    exact apart.2

/-- A leaf that continues the name that the latest token ends is joined to it. -/
theorem advance_of_continues {token : Token} {earlier : List Token}
    (latest : Latest source leaf token) (isPart : token.isNamePart = true)
    (stream : progress.stream = token :: earlier) (cursor : progress.cursor = leaf.label.stop)
    (nonempty : source.text leaf.label.start leaf.label.stop ≠ "")
    (continues : source.continues leaf next = true) :
    progress.advance source next =
      ⟨next.label.stop, source.lineAt next.label.stop,
        ⟨.name, token.text ++ source.text next.label.start next.label.stop, token.line⟩ :: earlier⟩ := by
  obtain ⟨front, text⟩ := latest.text
  simp only [Source.continues, Bool.and_eq_true, Bool.or_eq_true, beq_iff_eq] at continues
  obtain ⟨touches, joins⟩ := continues
  have merges : merge? token (source.leafToken next) =
      some ⟨.name, token.text ++ source.text next.label.start next.label.stop, token.line⟩ := by
    rcases joins with nextPart | ⟨separated, spells⟩
    · have both : (token.isNamePart && (source.leafToken next).isNamePart) = true := by
        rw [isPart, Bool.true_and]
        exact nextPart
      rw [merge?, if_pos both]
      rfl
    · have separated : Text.endsWith token.text "\\" = true := by
        rw [text, endsWith_append nonempty]
        exact separated
      have segment : (token.isNamePart && Text.endsWith token.text "\\" &&
          spellsSegment (source.leafToken next).text) = true := by
        rw [isPart, separated, Bool.true_and, Bool.true_and]
        exact spells
      rw [merge?, if_pos segment]
      split <;> rfl
  have adjacent : next.label.start = progress.cursor := touches.trans cursor.symm
  rw [advance, if_neg (by omega)]
  simp only [adjacent, beq_self_eq_true, if_true, stream]
  rw [← adjacent]
  exact congrArg (Progress.mk _ _) (push_of_merge? merges earlier)

/-- Leaves that continue one another are joined to one token, whose text is that of all of them. -/
theorem foldl_of_continues {start : Nat} (isStart : source.IsBoundary start)
    {first : Node.Leaf} {rest : List Node.Leaf}
    (chain : (first :: rest).IsChain fun leaf next => source.continues leaf next = true)
    (covers : ∀ leaf ∈ first :: rest, start ≤ leaf.label.start ∧ leaf.label.start < leaf.label.stop ∧
      leaf.label.stop ≤ source.bytes.length)
    (boundaries : ∀ leaf ∈ rest, source.IsBoundary leaf.label.start)
    {token : Token} {earlier : List Token} (latest : Latest source first token)
    (isPart : token.isNamePart = true) (text : token.text = source.text start first.label.stop)
    (stream : progress.stream = token :: earlier) (cursor : progress.cursor = first.label.stop) :
    ∃ name last, (rest.foldl (advance source) progress).stream = name :: earlier ∧
      (rest.foldl (advance source) progress).cursor = last.label.stop ∧
      (first :: rest).getLast? = some last ∧ Latest source last name ∧ name.isNamePart = true ∧
      name.text = source.text start last.label.stop := by
  induction rest generalizing first token progress with
  | nil => exact ⟨token, first, stream, cursor, rfl, latest, isPart, text⟩
  | cons next rest inductionHypothesis =>
    rw [List.isChain_cons_cons] at chain
    simp only [List.forall_mem_cons] at covers boundaries
    obtain ⟨⟨_, firstCovers, firstWithin⟩, ⟨after, nextCovers, nextWithin⟩, others⟩ := covers
    have nonempty := Source.text_ne_empty firstCovers firstWithin
    have advanced := advance_of_continues latest isPart stream cursor nonempty chain.1
    have touches : next.label.start = first.label.stop := by
      have continues := chain.1
      simp only [Source.continues, Bool.and_eq_true, beq_iff_eq] at continues
      exact continues.1
    -- The token spans the leaves so far, and the next leaf starts between two characters.
    have joined : token.text ++ source.text next.label.start next.label.stop =
        source.text start next.label.stop := by
      rw [text, ← touches]
      exact (Source.text_append isStart boundaries.1 after (Nat.le_of_lt nextCovers)).symm
    rw [List.foldl_cons, advanced, List.getLast?_cons_cons]
    refine inductionHypothesis chain.2 ?_ boundaries.2 ⟨⟨token.text, rfl⟩, ?_⟩ rfl joined rfl rfl
    · simp only [List.forall_mem_cons]
      exact ⟨⟨after, nextCovers, nextWithin⟩, others⟩
    · intro _
      have continues := chain.1
      simp only [Source.continues, Bool.and_eq_true, Bool.or_eq_true] at continues
      exact continues.2.imp_right And.right

end Token.Progress

namespace Token

theorem ofGap_isNamePart (text : String) (line : Nat) : (ofGap text line).isNamePart = false := by
  rw [ofGap]
  split <;> rfl

theorem isNamePart_of_merge? {previous token merged : Token}
    (merges : merge? previous token = some merged) (isPart : merged.isNamePart = true) :
    previous.isNamePart = true := by
  simp only [merge?] at merges
  split at merges
  case isTrue parts =>
    rw [Bool.and_eq_true] at parts
    exact parts.1
  case isFalse =>
    split at merges
    case isTrue segment =>
      simp only [Bool.and_eq_true] at segment
      exact segment.1.1
    case isFalse =>
      split at merges
      · cases merges
        cases isPart
      · cases merges

/-- Adding a token that follows directly leaves no adjacent parts of names. -/
theorem Sparse.push {stream : List Token} (sparse : Sparse stream) (token : Token) :
    Sparse (push stream token true) := by
  cases stream with
  | nil => exact List.isChain_singleton _
  | cons latest earlier =>
    simp only [Token.push, if_true]
    split
    case h_1 merged merges =>
      refine List.isChain_cons.mpr ⟨?_, sparse.tail⟩
      rintro next first ⟨isPart, nextPart⟩
      exact (List.isChain_cons.mp sparse).1 next first ⟨isNamePart_of_merge? merges isPart, nextPart⟩
    case h_2 separate =>
      refine List.isChain_cons_cons.mpr ⟨?_, sparse⟩
      rintro ⟨isPart, latestPart⟩
      simp [merge?, isPart, latestPart] at separate

theorem Sparse.cons_ofGap {stream : List Token} (sparse : Sparse stream) (text : String) (line : Nat) :
    Sparse (ofGap text line :: stream) := by
  refine List.isChain_cons.mpr ⟨?_, sparse⟩
  rintro next _ ⟨isPart, -⟩
  rw [ofGap_isNamePart] at isPart
  cases isPart

theorem Sparse.advance {progress : Progress} (sparse : Sparse progress.stream) (source : Source)
    (leaf : Node.Leaf) : Sparse (progress.advance source leaf).stream := by
  simp only [Progress.advance]
  split
  · exact sparse
  · by_cases touches : leaf.label.start = progress.cursor
    · simp only [touches, beq_self_eq_true, if_true]
      exact sparse.push _
    · have apart : (leaf.label.start == progress.cursor) = false := by simpa using touches
      simp only [apart, Bool.false_eq_true, if_false, Token.push]
      refine List.isChain_cons_cons.mpr ⟨?_, sparse.cons_ofGap _ _⟩
      rintro ⟨-, isPart⟩
      rw [ofGap_isNamePart] at isPart
      cases isPart

/-- The token stream of a source has no adjacent parts of names. -/
theorem sparse_tokens (source : Source) : Sparse source.tokens := by
  have covered : ∀ (leaves : List Node.Leaf) (progress : Progress), Sparse progress.stream →
      Sparse (leaves.foldl (Progress.advance source) progress).stream := by
    intro leaves
    induction leaves with
    | nil => exact fun _ sparse => sparse
    | cons leaf rest inductionHypothesis =>
      exact fun progress sparse => inductionHypothesis _ (sparse.advance source leaf)
  have finished := covered source.root.leaves .start List.isChain_nil
  rw [Source.tokens, Progress.finish]
  split
  · exact (finished.cons_ofGap _ _).reverse
  · exact finished.reverse

end Token

end ClassAtlas
