import ClassAtlas.Proofs.Token.Joining
import Mathlib.Data.List.Infix

/-!
The tokens of a clause of names.

A clause is a keyword followed by names, commas and comments. When no name is joined to what stands
around it, the keyword and each name are tokens of their own, and what stands between them are the
tokens of the other items and of the gaps.
-/

namespace ClassAtlas

namespace Node

/-- Whether a node is a name. -/
def isName (node : Node) : Bool :=
  node.label.named && (node.kind == "name" || node.kind == "qualified_name")

/-- Whether a node of a kind has no children. -/
def isSign (kind : String) (node : Node) : Bool := node.kind == kind && node.children.isEmpty

/-- Whether a node can stand in a list of names. -/
def isListItem (node : Node) : Bool := node.isName || node.isSign "," || node.isSign "comment"

/-- Whether a node is a keyword that covers some bytes, followed by names, commas and comments. -/
def isClause (word : String) (node : Node) : Bool :=
  match node.children with
  | [] => false
  | keyword :: items =>
    keyword.isSign word && decide (keyword.label.start < keyword.label.stop) &&
      items.all isListItem

/-- The leaves of a child of a node. -/
def leavesOf (node child : Node) : List Leaf := leavesUnder (some node.kind) child

theorem isName_of_kind_eq_spelling {word : Keyword} {node : Node} (kind : node.kind = word.spelling) :
    node.isName = false := by
  rw [isName, kind]
  cases word <;> simp [Keyword.spelling]

/-- What stands before a name of a clause starts with the keyword. -/
theorem exists_keyword_of_isClause {word : Keyword} {clause name : Node} {front rest : List Node}
    (shaped : clause.isClause word.spelling = true)
    (children : clause.children = front ++ name :: rest) (isName : name.isName = true) :
    ∃ keyword items, front = keyword :: items ∧ keyword.kind = word.spelling ∧
      clause.leavesOf keyword = [⟨keyword.label, some clause.kind⟩] ∧
      ∀ item ∈ items, item.isListItem = true := by
  rw [isClause, children] at shaped
  cases front with
  | nil =>
    simp only [List.nil_append, isSign, Bool.and_eq_true, beq_iff_eq] at shaped
    rw [isName_of_kind_eq_spelling shaped.1.1.1] at isName
    cases isName
  | cons keyword items =>
    simp only [List.cons_append, isSign, Bool.and_eq_true, beq_iff_eq, List.isEmpty_iff,
      decide_eq_true_eq, List.all_append] at shaped
    obtain ⟨⟨⟨kind, childless⟩, covers⟩, listed, -⟩ := shaped
    refine ⟨keyword, items, rfl, kind, ?_, List.all_eq_true.mp listed⟩
    cases keyword with
    | mk label parts =>
      cases childless
      rw [leavesOf, leavesUnder]
      exact if_pos covers

end Node

open Node

/-- Whether leaves follow one another without gaps and are cut between characters. -/
structure Source.Contiguous (source : Source) (leaves : List Leaf) : Prop where
  follows : leaves.IsChain fun leaf next => leaf.label.stop = next.label.start
  boundaries : ∀ leaf ∈ leaves, source.IsBoundary leaf.label.start ∧ source.IsBoundary leaf.label.stop

/-- Whether the leaves of a name become one token with the text of the name: they reach from its start
to its end, the first one is part of a name, each continues the one before it, and the next leaf of the
file does not continue the last one. -/
structure Source.Joined (source : Source) (name : Node) (leaves : List Leaf) : Prop where
  nonempty : leaves ≠ []
  start : ∀ first ∈ leaves.head?, first.label.start = name.label.start
  stop : ∀ last ∈ leaves.getLast?, last.label.stop = name.label.stop
  starts : ∀ first ∈ leaves.head?, first.tokenKind.isNamePart = true
  continues : leaves.IsChain fun leaf next => source.continues leaf next = true
  ends : ∀ last ∈ leaves.getLast?, ∀ next ∈ source.root.leaves,
    [last, next] <:+: source.root.leaves → source.continues last next = false

instance (source : Source) (name : Node) (leaves : List Leaf) :
    Decidable (source.Joined name leaves) :=
  decidable_of_iff
    (leaves ≠ [] ∧ (∀ first ∈ leaves.head?, first.label.start = name.label.start) ∧
      (∀ last ∈ leaves.getLast?, last.label.stop = name.label.stop) ∧
      (∀ first ∈ leaves.head?, first.tokenKind.isNamePart = true) ∧
      (leaves.IsChain fun leaf next => source.continues leaf next = true) ∧
      ∀ last ∈ leaves.getLast?, ∀ next ∈ source.root.leaves,
        [last, next] <:+: source.root.leaves → source.continues last next = false)
    ⟨fun ⟨nonempty, start, stop, starts, continues, ends⟩ =>
      ⟨nonempty, start, stop, starts, continues, ends⟩,
    fun ⟨nonempty, start, stop, starts, continues, ends⟩ =>
      ⟨nonempty, start, stop, starts, continues, ends⟩⟩

namespace Token.Progress

variable {source : Source} {progress : Progress} {leaf : Leaf}

/-- Whether the next of the leaves ahead lies ahead of the cursor and stands apart. -/
def Ready (source : Source) (progress : Progress) (upcoming : List Leaf) : Prop :=
  ∀ next ∈ upcoming.head?, progress.cursor ≤ next.label.start ∧ Apart source progress next

theorem kind_ne_other_of_isNamePart {token : Token} (isPart : token.isNamePart = true) :
    token.kind ≠ .other := by
  intro isOther
  rw [isNamePart, isOther] at isPart
  cases isPart

/-- Leaves of a file that follow one another lie in order, and each covers some bytes. -/
theorem inOrder_of_isInfix {leaves : List Leaf} (inside : leaves <:+: source.root.leaves)
    (inOrder : Leaf.InOrder 0 source.bytes.length source.root.leaves) :
    leaves.Pairwise (fun leaf next => leaf.label.stop ≤ next.label.start) ∧
      ∀ leaf ∈ leaves, leaf.label.start < leaf.label.stop ∧ leaf.label.stop ≤ source.bytes.length := by
  refine ⟨inOrder.pairwise.sublist inside.sublist, fun leaf member => ?_⟩
  have listed := inside.subset member
  exact ⟨start_lt_stop_of_mem_leavesUnder none source.root leaf listed,
    (inOrder.within leaf listed).2⟩

/-- What follows the leaves of a name stands apart once the name is the latest token. -/
theorem ready_of_joined {name : Node} {leaves upcoming : List Leaf} {last : Leaf} {token : Token}
    (latest : Latest source last token) (head : progress.stream.head? = some token)
    (cursor : progress.cursor = last.label.stop) (isPart : token.isNamePart = true)
    (isLast : leaves.getLast? = some last) (joined : source.Joined name leaves)
    (inside : leaves ++ upcoming <:+: source.root.leaves)
    (inOrder : Leaf.InOrder 0 source.bytes.length source.root.leaves) :
    Ready source progress upcoming := by
  intro next isNext
  obtain ⟨ordered, covers⟩ := inOrder_of_isInfix inside inOrder
  obtain ⟨front, rfl⟩ := List.getLast?_eq_some_iff.mp isLast
  obtain ⟨more, rfl⟩ : ∃ more, upcoming = next :: more := List.head?_eq_some_iff.mp isNext
  have pair : [last, next] <:+: source.root.leaves :=
    List.IsInfix.trans ⟨front, more, by simp⟩ inside
  have bounds := covers last (by simp)
  constructor
  · rw [cursor]
    exact (List.pairwise_append.mp ordered).2.2 last (by simp) next List.mem_cons_self
  · refine apart_of_not_continues latest head cursor (Source.text_ne_empty bounds.1 bounds.2)
      (fun _ => ?_) (.inl (kind_ne_other_of_isNamePart isPart))
    exact joined.ends last isLast next (inside.subset (by simp)) pair

/-- A name becomes one token, with the text of the name. -/
theorem foldl_name {name : Node} {leaves upcoming : List Leaf}
    (ready : Ready source progress (leaves ++ upcoming)) (contiguous : source.Contiguous leaves)
    (joined : source.Joined name leaves) (inside : leaves ++ upcoming <:+: source.root.leaves)
    (inOrder : Leaf.InOrder 0 source.bytes.length source.root.leaves) :
    ∃ token, token.isNamePart = true ∧ token.text = source.nodeText name ∧ token.text ≠ "" ∧
      (∃ first ∈ leaves.head?, (leaves.foldl (advance source) progress).stream =
        token :: (gap source progress first ++ progress.stream)) ∧
      (∃ last ∈ leaves.getLast?,
        (leaves.foldl (advance source) progress).cursor = last.label.stop) ∧
      Ready source (leaves.foldl (advance source) progress) upcoming := by
  obtain ⟨ordered, covers⟩ := inOrder_of_isInfix inside inOrder
  cases leaves with
  | nil => exact absurd rfl joined.nonempty
  | cons first rest =>
    obtain ⟨ahead, apart⟩ := ready first rfl
    have later : ∀ leaf ∈ first :: rest, first.label.start ≤ leaf.label.start ∧
        leaf.label.start < leaf.label.stop ∧ leaf.label.stop ≤ source.bytes.length := by
      intro leaf member
      have bounds := covers leaf (List.mem_append_left _ member)
      refine ⟨?_, bounds⟩
      rcases List.mem_cons.mp member with rfl | follows
      · exact Nat.le_refl _
      · have after := (List.pairwise_cons.mp ordered).1 leaf (List.mem_append_left _ follows)
        have begins := covers first List.mem_cons_self
        omega
    have advanced := advance_of_apart ahead apart
    obtain ⟨token, last, stream, cursor, isLast, latest, isPart, text⟩ :=
      foldl_of_continues (contiguous.boundaries first List.mem_cons_self).1 joined.continues later
        (fun leaf member => (contiguous.boundaries leaf (List.mem_cons_of_mem first member)).1)
        (latest_leafToken source first) (joined.starts first rfl) rfl (congrArg stream advanced)
        (congrArg cursor advanced)
    have whole : source.text first.label.start last.label.stop = source.nodeText name := by
      rw [Source.nodeText, joined.start first rfl, joined.stop last isLast]
    have nonempty : token.text ≠ "" := by
      have bounds := later last (List.mem_of_getLast? isLast)
      rw [text]
      exact Source.text_ne_empty (by omega) bounds.2.2
    refine ⟨token, isPart, text.trans whole, nonempty, ⟨first, rfl, stream⟩, ⟨last, isLast, cursor⟩, ?_⟩
    refine ready_of_joined latest ?_ cursor isPart isLast joined inside inOrder
    rw [List.foldl_cons, stream]
    rfl

/-- A leaf that is no part of a name and no other sign stands for itself, and no leaf is joined to
it. -/
theorem ready_of_sign {upcoming : List Leaf} (ready : Ready source progress (leaf :: upcoming))
    (follows : ∀ next ∈ upcoming, leaf.label.stop ≤ next.label.start)
    (notPart : leaf.tokenKind.isNamePart = false) (notOther : leaf.tokenKind ≠ .other) :
    Ready source (progress.advance source leaf) upcoming := by
  obtain ⟨ahead, apart⟩ := ready leaf rfl
  intro next isNext
  rw [advance_of_apart ahead apart]
  refine ⟨follows next (List.mem_of_mem_head? isNext), fun _ latest isLatest => ?_⟩
  rw [List.head?_cons, Option.mem_some_iff] at isLatest
  subst isLatest
  have plain : (source.leafToken leaf).isNamePart = false := notPart
  exact merge?_eq_none (by simp [plain]) (by simp [plain]) (.inl notOther)

/-- The tokens since a keyword, if all of them satisfy a predicate. -/
def Passed (holds : Token → Prop) (keyword : Token) (earlier : List Token) (progress : Progress) :
    Prop :=
  ∃ between, progress.stream = between ++ keyword :: earlier ∧ ∀ token ∈ between, holds token

/-- Whether the token for the bytes between two leaves, if there are any, satisfies a predicate. -/
def Spaced (source : Source) (holds : Token → Prop) (leaf next : Leaf) : Prop :=
  next.label.start ≠ leaf.label.stop →
    ∀ line, holds (ofGap (source.text leaf.label.stop next.label.start) line)

section Items

variable {holds : Token → Prop} {keyword : Token} {earlier : List Token}

theorem Spaced.gap {previous : Leaf} (spaced : Spaced source holds previous leaf)
    (cursor : progress.cursor = previous.label.stop) :
    ∀ token ∈ gap source progress leaf, holds token := by
  intro token member
  rw [Progress.gap, cursor] at member
  split at member
  · cases member
  case isFalse apart =>
    rw [List.mem_singleton.mp member]
    exact spaced apart _

/-- A further token after a gap keeps the tokens since the keyword. -/
theorem Passed.cons (passed : Passed holds keyword earlier progress) {token : Token}
    {between : List Token} (tokenHolds : holds token) (gapHolds : ∀ token ∈ between, holds token)
    {next : Progress} (stream : next.stream = token :: (between ++ progress.stream)) :
    Passed holds keyword earlier next := by
  obtain ⟨sofar, equal, all⟩ := passed
  refine ⟨token :: (between ++ sofar), by rw [stream, equal]; simp, ?_⟩
  rw [List.forall_mem_cons, List.forall_mem_append]
  exact ⟨tokenHolds, gapHolds, all⟩

/-- What is needed of an item of a clause to pass it: it is a comma or a comment whose token is
allowed, or a name that has no leaves, or one that stands apart where the tokens of names are allowed. -/
structure Passable (source : Source) (holds : Token → Prop) (clause item : Node) : Prop where
  sign : item.isName = false → (item.isSign "," || item.isSign "comment") = true ∧
    ∀ leaf ∈ clause.leavesOf item, holds (source.leafToken leaf)
  name : item.isName = true → clause.leavesOf item = [] ∨
    source.Contiguous (clause.leavesOf item) ∧ source.Joined item (clause.leavesOf item) ∧
      ∀ token : Token, token.isNamePart = true → holds token

/-- A comma or comment is one leaf, or covers nothing. -/
theorem leavesOf_sign {clause item : Node}
    (isSign : (item.isSign "," || item.isSign "comment") = true) :
    clause.leavesOf item = [] ∨ clause.leavesOf item = [⟨item.label, some clause.kind⟩] := by
  cases item with
  | mk label children =>
    have none : children = [] := by
      simp only [Node.isSign, Node.children, Bool.or_eq_true, Bool.and_eq_true,
        List.isEmpty_iff] at isSign
      exact isSign.elim And.right And.right
    subst none
    rw [Node.leavesOf, leavesUnder]
    split
    · exact .inr rfl
    · exact .inl rfl

theorem eq_of_mem_leavesOf_sign {clause item : Node}
    (isSign : (item.isSign "," || item.isSign "comment") = true)
    (member : leaf ∈ clause.leavesOf item) : leaf = ⟨item.label, some clause.kind⟩ := by
  rcases leavesOf_sign isSign with nothing | single
  · rw [nothing] at member
    cases member
  · rw [single] at member
    exact List.mem_singleton.mp member

theorem tokenKind_of_isSign {clause item : Node} (ordinary : clause.kind ≠ "primitive_type")
    (isSign : (item.isSign "," || item.isSign "comment") = true) :
    (Leaf.mk item.label (some clause.kind)).tokenKind = .mark .comma ∨
      (Leaf.mk item.label (some clause.kind)).tokenKind = .comment := by
  simp only [Node.isSign, Bool.or_eq_true, Bool.and_eq_true, beq_iff_eq] at isSign
  rcases isSign with ⟨isComma, -⟩ | ⟨isComment, -⟩
  · left
    have kind : item.label.kind = "," := isComma
    have notPrimitive : (some clause.kind == some "primitive_type") = false := by simpa using ordinary
    simp only [Leaf.tokenKind, kind, notPrimitive]
    decide
  · right
    have kind : item.label.kind = "comment" := isComment
    simp [Leaf.tokenKind, kind]

theorem tokenKind_of_spelling {word : Keyword} {clause keyword : Node}
    (ordinary : clause.kind ≠ "primitive_type") (kind : keyword.kind = word.spelling) :
    (Leaf.mk keyword.label (some clause.kind)).tokenKind = .keyword word := by
  have spelled : keyword.label.kind = word.spelling := kind
  have notPrimitive : (some clause.kind == some "primitive_type") = false := by simpa using ordinary
  simp only [Leaf.tokenKind, spelled, notPrimitive]
  cases word <;> decide

/-- A passable item is passed, and what follows it stands apart. -/
theorem passed_item {clause item : Node} {upcoming : List Leaf} {previous : Leaf}
    (ordinary : clause.kind ≠ "primitive_type") (passable : Passable source holds clause item)
    (inside : clause.leavesOf item ++ upcoming <:+: source.root.leaves)
    (inOrder : Leaf.InOrder 0 source.bytes.length source.root.leaves)
    (spaced : (previous :: clause.leavesOf item).IsChain (Spaced source holds))
    (cursor : progress.cursor = previous.label.stop)
    (ready : Ready source progress (clause.leavesOf item ++ upcoming))
    (passed : Passed holds keyword earlier progress) :
    let reached := (clause.leavesOf item).foldl (advance source) progress
    Passed holds keyword earlier reached ∧ Ready source reached upcoming ∧
      ∃ last ∈ (previous :: clause.leavesOf item).getLast?, reached.cursor = last.label.stop := by
  cases isName : item.isName with
  | true =>
    rcases passable.name isName with nothing | ⟨contiguous, joined, allowed⟩
    · rw [nothing] at ready ⊢
      exact ⟨passed, ready, previous, rfl, cursor⟩
    obtain ⟨token, isPart, -, -, ⟨first, isFirst, stream⟩, ⟨last, isLast, moved⟩, next⟩ :=
      foldl_name ready contiguous joined inside inOrder
    have gapHolds := ((List.isChain_cons.mp spaced).1 first isFirst).gap cursor
    refine ⟨passed.cons (allowed token isPart) gapHolds stream, next, last, ?_, moved⟩
    rw [List.getLast?_cons, isLast]
    rfl
  | false =>
    obtain ⟨isSign, allowed⟩ := passable.sign isName
    rcases leavesOf_sign isSign with nothing | single
    · rw [nothing] at ready ⊢
      exact ⟨passed, ready, previous, rfl, cursor⟩
    · rw [single] at ready inside spaced allowed ⊢
      obtain ⟨ahead, apart⟩ := ready _ rfl
      obtain ⟨ordered, -⟩ := inOrder_of_isInfix inside inOrder
      have gapHolds := (List.isChain_cons_cons.mp spaced).1.gap cursor
      have advanced := advance_of_apart ahead apart
      have plain := tokenKind_of_isSign ordinary isSign
      refine ⟨?_, ?_, ⟨item.label, some clause.kind⟩, rfl, ?_⟩
      · refine passed.cons (allowed _ (List.mem_singleton.mpr rfl)) gapHolds ?_
        rw [List.foldl_cons, List.foldl_nil, advanced]
      · refine ready_of_sign ready (List.pairwise_cons.mp ordered).1 ?_ ?_
        · rcases plain with kind | kind <;> rw [kind] <;> rfl
        · rcases plain with kind | kind <;> rw [kind] <;> decide
      · rw [List.foldl_cons, List.foldl_nil, advanced]

/-- Passable items are passed, and what follows them stands apart. -/
theorem passed_items {clause : Node} {items : List Node} {upcoming : List Leaf} {previous : Leaf}
    (ordinary : clause.kind ≠ "primitive_type")
    (passable : ∀ item ∈ items, Passable source holds clause item)
    (inside : leavesOfAll (some clause.kind) items ++ upcoming <:+: source.root.leaves)
    (inOrder : Leaf.InOrder 0 source.bytes.length source.root.leaves)
    (spaced : (previous :: leavesOfAll (some clause.kind) items).IsChain (Spaced source holds))
    (cursor : progress.cursor = previous.label.stop)
    (ready : Ready source progress (leavesOfAll (some clause.kind) items ++ upcoming))
    (passed : Passed holds keyword earlier progress) :
    let reached := (leavesOfAll (some clause.kind) items).foldl (advance source) progress
    Passed holds keyword earlier reached ∧ Ready source reached upcoming ∧
      ∃ last ∈ (previous :: leavesOfAll (some clause.kind) items).getLast?,
        reached.cursor = last.label.stop := by
  induction items generalizing progress previous with
  | nil => exact ⟨passed, ready, previous, rfl, cursor⟩
  | cons item rest inductionHypothesis =>
    rw [List.forall_mem_cons] at passable
    have split : leavesOfAll (some clause.kind) (item :: rest) =
        clause.leavesOf item ++ leavesOfAll (some clause.kind) rest := by rw [leavesOfAll]; rfl
    rw [split, List.append_assoc] at inside ready
    rw [split, ← List.cons_append, List.isChain_append] at spaced
    obtain ⟨first, later, across⟩ := spaced
    obtain ⟨passedItem, readyRest, last, isLast, moved⟩ :=
      passed_item ordinary passable.1 inside inOrder first cursor ready passed
    obtain ⟨passedRest, readyAfter, final, isFinal, reached⟩ :=
      inductionHypothesis passable.2 ((List.suffix_append _ _).isInfix.trans inside)
        (List.isChain_cons.mpr ⟨across last isLast, later⟩) moved readyRest passedItem
    rw [split, List.foldl_append]
    refine ⟨passedRest, readyAfter, final, ?_, reached⟩
    rw [← List.cons_append, List.getLast?_append, isLast]
    rw [List.getLast?_cons] at isFinal
    cases ending : (leavesOfAll (some clause.kind) rest).getLast? with
    | none => simpa [ending] using isFinal
    | some leaf => simpa [ending] using isFinal

end Items

/-- Whether the keyword of a clause is not joined to a name before it. -/
def KeywordApart (source : Source) (keyword : Leaf) : Prop :=
  ∀ previous ∈ source.root.leaves, [previous, keyword] <:+: source.root.leaves →
    previous.tokenKind.isNamePart = true → source.continues previous keyword = false

instance (source : Source) (keyword : Leaf) : Decidable (KeywordApart source keyword) :=
  inferInstanceAs (Decidable (∀ previous ∈ source.root.leaves, _))

/-- The leaf of a keyword stands apart once the leaves before it are covered. -/
theorem ready_keyword {front upcoming : List Leaf} {keyword : Leaf}
    (leaves : source.root.leaves = front ++ keyword :: upcoming)
    (inOrder : Leaf.InOrder 0 source.bytes.length source.root.leaves)
    (notPart : keyword.tokenKind.isNamePart = false) (notName : keyword.tokenKind ≠ .name)
    (apart : KeywordApart source keyword) :
    Ready source (front.foldl (advance source) .start) (keyword :: upcoming) := by
  obtain ⟨ordered, covers⟩ := inOrder_of_isInfix List.infix_rfl inOrder
  rw [leaves, List.pairwise_append] at ordered
  obtain ⟨orderedFront, -, before⟩ := ordered
  intro next isNext
  cases isNext
  refine ⟨cursor_foldl_le (Nat.zero_le _) fun leaf member => before leaf member keyword
    List.mem_cons_self, ?_⟩
  rcases List.eq_nil_or_concat front with rfl | ⟨earlier, previous, rfl⟩
  · intro _ latest isLatest
    cases isLatest
  · rw [List.concat_eq_append] at leaves orderedFront before ⊢
    have listed : previous ∈ source.root.leaves := by simp [leaves]
    have pair : [previous, keyword] <:+: source.root.leaves := ⟨earlier, upcoming, by simp [leaves]⟩
    have bounds := covers previous listed
    have ahead : (earlier.foldl (advance source) .start).cursor ≤ previous.label.start :=
      cursor_foldl_le (Nat.zero_le _) fun leaf member =>
        (List.pairwise_append.mp orderedFront).2.2 leaf member previous (List.mem_singleton.mpr rfl)
    rw [List.foldl_append, List.foldl_cons, List.foldl_nil]
    obtain ⟨cursor, token, head, latest⟩ := exists_latest ahead
    refine apart_of_not_continues latest head cursor (Source.text_ne_empty bounds.1 bounds.2) ?_
      (.inr notName)
    intro isPart
    -- A word that was joined to a name ends in no separator, so no keyword continues it.
    rcases latest.segment isPart with previousPart | spells
    · exact apart previous listed pair previousPart
    · simp [Source.continues, notPart, endsWith_of_spellsSegment spells]

end Token.Progress

/-- The leaves of a clause stand together among those of the file. -/
theorem Source.leaves_of_clause {source : Source} {clause keyword name : Node} {items rest : List Node}
    (below : clause ∈ source.root.subtrees)
    (children : clause.children = keyword :: (items ++ name :: rest)) {word : Leaf}
    (keywordLeaf : clause.leavesOf keyword = [word]) :
    ∃ front back, source.root.leaves =
      front ++ word :: (leavesOfAll (some clause.kind) items ++ (clause.leavesOf name ++ back)) := by
  obtain ⟨kind, front, back, leaves⟩ := leavesUnder_isInfix none source.root clause below
  have inner : leavesUnder kind clause = word :: (leavesOfAll (some clause.kind) items ++
      (clause.leavesOf name ++ leavesOfAll (some clause.kind) rest)) := by
    rw [leavesUnder_of_children (by simp [children]), children, leavesOfAll, leavesOfAll_append,
      leavesOfAll]
    change clause.leavesOf keyword ++ _ = _
    rw [keywordLeaf]
    rfl
  rw [inner] at leaves
  refine ⟨front, leavesOfAll (some clause.kind) rest ++ back, ?_⟩
  rw [Node.leaves, ← leaves]
  simp

open Token.Progress in
/-- In the tokens of a source, the keyword of a clause and a name of the clause are tokens of their
own, and the tokens between them are those of the items between them. -/
theorem Source.tokens_of_clause {source : Source} {holds : Token → Prop} {clause keyword name : Node}
    {items rest : List Node} (below : clause ∈ source.root.subtrees)
    (inOrder : Leaf.InOrder 0 source.bytes.length source.root.leaves)
    (children : clause.children = keyword :: (items ++ name :: rest))
    (ordinary : clause.kind ≠ "primitive_type") {word : Leaf}
    (keywordLeaf : clause.leavesOf keyword = [word]) {spelled : Keyword}
    (isKeyword : word.tokenKind = .keyword spelled) (apart : KeywordApart source word)
    (passable : ∀ item ∈ items, Passable source holds clause item)
    (contiguous : source.Contiguous (clause.leavesOf name))
    (joined : source.Joined name (clause.leavesOf name))
    (spaced : (word :: (leavesOfAll (some clause.kind) items ++ clause.leavesOf name)).IsChain
      (Spaced source holds)) :
    ∃ before between after token, token.isNamePart = true ∧ token.text = source.nodeText name ∧
      token.text ≠ "" ∧ (∀ token ∈ between, holds token) ∧
      source.tokens = before ++ source.leafToken word :: (between ++ token :: after) := by
  obtain ⟨front, back, leaves⟩ := leaves_of_clause below children keywordLeaf
  obtain ⟨ordered, -⟩ := inOrder_of_isInfix List.infix_rfl inOrder
  have within : leavesOfAll (some clause.kind) items ++ (clause.leavesOf name ++ back) <:+:
      source.root.leaves := ⟨front ++ [word], [], by simp [leaves]⟩
  have notPart : word.tokenKind.isNamePart = false := by rw [isKeyword]; rfl
  have ready := ready_keyword leaves inOrder notPart (by simp [isKeyword]) apart
  have follows : ∀ next ∈ leavesOfAll (some clause.kind) items ++ (clause.leavesOf name ++ back),
      word.label.stop ≤ next.label.start := by
    rw [leaves, List.pairwise_append] at ordered
    exact (List.pairwise_cons.mp ordered.2.1).1
  have advanced := advance_of_apart (ready word rfl).1 (ready word rfl).2
  rw [← List.cons_append, List.isChain_append] at spaced
  obtain ⟨passed, readyName, last, isLast, cursor⟩ := passed_items ordinary passable within inOrder
    spaced.1 (by rw [advanced]) (ready_of_sign ready follows notPart (by simp [isKeyword]))
    ⟨[], by rw [advanced]; rfl, by simp⟩
  obtain ⟨token, isPart, text, nonempty, ⟨first, isFirst, stream⟩, -, readyAfter⟩ :=
    foldl_name readyName contiguous joined ((List.suffix_append _ _).isInfix.trans within) inOrder
  obtain ⟨between, since, all⟩ := passed
  have gapHolds := (spaced.2.2 last isLast first isFirst).gap cursor
  obtain ⟨later, settled⟩ := (suffix_foldl_of_apart readyAfter).trans (suffix_finish source _)
  rw [stream, since] at settled
  generalize gap source _ first = space at gapHolds settled
  refine ⟨(gap source (front.foldl (advance source) .start) word ++
    (front.foldl (advance source) .start).stream).reverse, between.reverse ++ space.reverse,
    later.reverse, token, isPart, text, nonempty, ?_, ?_⟩
  · intro token member
    rcases List.mem_append.mp member with earlier | inGap
    · exact all token (List.mem_reverse.mp earlier)
    · exact gapHolds token (List.mem_reverse.mp inGap)
  · rw [Source.tokens, leaves, List.foldl_append, List.foldl_cons, List.foldl_append,
      List.foldl_append, ← settled]
    simp

end ClassAtlas
