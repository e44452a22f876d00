import ClassAtlas.Declaration.Reader
import ClassAtlas.Proofs.Declaration.Clauses
import ClassAtlas.Proofs.Token.Clause
import ClassAtlas.Proofs.Token.Walk
import Mathlib.Data.List.TakeWhile

/-!
The namespace that the tokens of a file declare.

The tree of a file marks where a namespace is declared, the tokens only where its keyword stands. Where
the first such keyword is that of a declaration and the name after it becomes one token, both give the
same name. The keyword also begins names that are relative to the namespace, and there the tokens give a
namespace that the file does not declare.
-/

namespace ClassAtlas

open Node

namespace Token

/-- Whether the name of a namespace ends at a token. -/
def endsNamespace (token : Token) : Bool := token.isMark .semicolon || token.isMark .openBrace

/-- Whether a token is passed between the keyword of a namespace and its end without being read. -/
def IsPassed (token : Token) : Prop := token.endsNamespace = false ∧ token.isNamePart = false

theorem declaredNamespace_eq_empty {tokens : List Token}
    (none : ∀ token ∈ tokens, token.isKeyword .namespaceWord = false) :
    declaredNamespace tokens = "" := by
  have passed : tokens.dropWhile (!·.isKeyword .namespaceWord) = [] :=
    List.dropWhile_eq_nil_iff.mpr fun token member => by simp [none token member]
  rw [declaredNamespace, passed]

/-- The namespace is read from what stands between the first keyword and the end of the name. -/
theorem declaredNamespace_eq {tokens front header after : List Token} {keyword ending : Token}
    (split : tokens = front ++ keyword :: (header ++ ending :: after))
    (none : ∀ token ∈ front, token.isKeyword .namespaceWord = false)
    (isKeyword : keyword.isKeyword .namespaceWord = true)
    (goesOn : ∀ token ∈ header, token.endsNamespace = false) (ends : ending.endsNamespace = true) :
    declaredNamespace tokens =
      Text.dropAround (joinedText (header.filter Token.isNamePart)) Name.isSeparator := by
  have reached : tokens.dropWhile (!·.isKeyword .namespaceWord) = keyword :: (header ++ ending :: after) := by
    rw [split, List.dropWhile_append_of_pos fun token member => by simp [none token member],
      List.dropWhile_cons_of_neg (by simp [isKeyword])]
  have taken : (header ++ ending :: after).takeWhile (!·.endsNamespace) = header := by
    rw [List.takeWhile_append_of_pos fun token member => by simp [goesOn token member],
      List.takeWhile_cons_of_neg (by simp [ends]), List.append_nil]
  rw [declaredNamespace, reached]
  simp only [endsNamespace] at taken
  simp only [taken]

theorem isPassed_ofGap (text : String) (line : Nat) : (ofGap text line).IsPassed := by
  refine ⟨?_, ofGap_isNamePart text line⟩
  rw [endsNamespace, ofGap]
  split <;> rfl

theorem endsNamespace_of_isNamePart {token : Token} (isPart : token.isNamePart = true) :
    token.endsNamespace = false := by
  simp only [isNamePart, TokenKind.isNamePart, Bool.or_eq_true, beq_iff_eq] at isPart
  rcases isPart with kind | kind <;> simp [endsNamespace, isMark, kind]

theorem filter_isNamePart_of_isPassed {tokens : List Token} (passed : ∀ token ∈ tokens, token.IsPassed) :
    tokens.filter isNamePart = [] :=
  List.filter_eq_nil_iff.mpr fun token member => by simp [(passed token member).2]

section Keywords

variable {source : Source} {word : Keyword}

theorem isKeyword_of_merge? {previous token merged : Token} (joined : merge? previous token = some merged) :
    merged.isKeyword word = false := by
  simp only [merge?] at joined
  repeat' split at joined
  all_goals cases joined <;> rfl

theorem isKeyword_ofGap (text : String) (line : Nat) : (ofGap text line).isKeyword word = false := by
  rw [ofGap]
  split <;> rfl

theorem isKeyword_of_mem_push {stream : List Token} {token : Token}
    (none : ∀ other ∈ token :: stream, other.isKeyword word = false) (adjacent : Bool) :
    ∀ other ∈ push stream token adjacent, other.isKeyword word = false := by
  cases stream with
  | nil => exact none
  | cons previous earlier =>
    simp only [push]
    split
    · split
      case h_1 merged joined =>
        simp only [List.forall_mem_cons] at none ⊢
        exact ⟨isKeyword_of_merge? joined, none.2.2⟩
      case h_2 => exact none
    · exact none

/-- A keyword among the tokens is a leaf of its own. -/
theorem Progress.isKeyword_of_mem_foldl {leaves : List Leaf} {progress : Progress}
    (none : ∀ token ∈ progress.stream, token.isKeyword word = false)
    (noLeaf : ∀ leaf ∈ leaves, leaf.tokenKind ≠ .keyword word) :
    ∀ token ∈ (leaves.foldl (advance source) progress).stream, token.isKeyword word = false := by
  induction leaves generalizing progress with
  | nil => exact none
  | cons leaf rest inductionHypothesis =>
    rw [List.forall_mem_cons] at noLeaf
    refine inductionHypothesis ?_ noLeaf.2
    have leafToken : ∀ text line, (Token.mk leaf.tokenKind text line).isKeyword word = false :=
      fun text line => by simpa [isKeyword] using noLeaf.1
    simp only [advance]
    split
    · exact none
    · refine isKeyword_of_mem_push (List.forall_mem_cons.mpr ⟨leafToken _ _, ?_⟩) _
      split
      · exact none
      · exact List.forall_mem_cons.mpr ⟨isKeyword_ofGap _ _, none⟩

end Keywords

end Token

namespace Node

/-- Whether a child ends the header of a namespace: a semicolon, or a body that starts with a brace. -/
def endsNamespace (ending : Node) : Bool :=
  (ending.isSign ";" && decide (ending.label.start < ending.label.stop)) ||
    (ending.label.field == "body" && ending.kind == "compound_statement" &&
      match ending.children with
      | [] => false
      | brace :: _ => brace.isSign "\x7b" && decide (brace.label.start < brace.label.stop))

/-- A declaration of a namespace: its keyword, a name if it has one, and a semicolon or a body. Comments
may stand around the name. -/
structure NamespaceParts (definition : Node) where
  keyword : Node
  before : List Node
  name : Option Node
  between : List Node
  ending : Node
  rest : List Node
  children_eq :
    definition.children = keyword :: (before ++ (name.toList ++ (between ++ ending :: rest)))
  isNamespace : definition.kind = "namespace_definition"
  isKeyword : keyword.isSign "namespace" = true
  keyword_covers : keyword.label.start < keyword.label.stop
  before_comments : ∀ node ∈ before, node.isSign "comment" = true
  name_eq : definition.child? "name" = name
  between_comments : ∀ node ∈ between, node.isSign "comment" = true
  ends : ending.endsNamespace = true

/-- The leaves between the keyword of a namespace and its end. -/
def NamespaceParts.headerLeaves {definition : Node} (parts : definition.NamespaceParts) : List Leaf :=
  leavesOfAll (some definition.kind) parts.before ++
    (leavesOfAll (some definition.kind) parts.name.toList ++
      leavesOfAll (some definition.kind) parts.between)

/-- A sign that covers some bytes is one leaf. -/
theorem leavesUnder_sign {kind : String} {node : Node} (isSign : node.isSign kind = true)
    (covers : node.label.start < node.label.stop) (parentKind : Option String) :
    leavesUnder parentKind node = [⟨node.label, parentKind⟩] := by
  obtain ⟨label, children⟩ := node
  simp only [Node.isSign, Node.children, Bool.and_eq_true, List.isEmpty_iff] at isSign
  rw [isSign.2, leavesUnder]
  exact if_pos covers

theorem tokenKind_of_mark (mark : Mark) {parentKind : String} {node : Node}
    (ordinary : parentKind ≠ "primitive_type") (isSign : node.isSign mark.spelling = true) :
    (Leaf.mk node.label (some parentKind)).tokenKind = .mark mark := by
  simp only [Node.isSign, Bool.and_eq_true, beq_iff_eq] at isSign
  have spelled : node.label.kind = mark.spelling := isSign.1
  have notPrimitive : (some parentKind == some "primitive_type") = false := by simpa using ordinary
  simp only [Leaf.tokenKind, spelled, notPrimitive]
  cases mark <;> decide

/-- The first leaf of what ends the header of a namespace is a semicolon or a brace. -/
theorem exists_leaf_of_endsNamespace {ending : Node} (ends : ending.endsNamespace = true)
    {parentKind : String} (ordinary : parentKind ≠ "primitive_type") :
    ∃ leaf more, leavesUnder (some parentKind) ending = leaf :: more ∧
      (leaf.tokenKind = .mark .semicolon ∨ leaf.tokenKind = .mark .openBrace) := by
  simp only [Node.endsNamespace, Bool.or_eq_true, Bool.and_eq_true, decide_eq_true_eq,
    beq_iff_eq] at ends
  rcases ends with ⟨isSemicolon, covers⟩ | ⟨⟨-, isBody⟩, opens⟩
  · refine ⟨_, [], leavesUnder_sign isSemicolon covers _, .inl ?_⟩
    exact tokenKind_of_mark .semicolon ordinary isSemicolon
  · obtain ⟨label, children⟩ := ending
    cases children with
    | nil => simp [Node.children] at opens
    | cons brace rest =>
      simp only [Node.children, Bool.and_eq_true, decide_eq_true_eq] at opens
      have isCompound : label.kind = "compound_statement" := isBody
      have notPrimitive : label.kind ≠ "primitive_type" := by simp [isCompound]
      rw [leavesUnder, leavesOfAll, leavesUnder_sign opens.1 opens.2]
      exact ⟨_, _, rfl, .inr (tokenKind_of_mark .openBrace notPrimitive opens.1)⟩

end Node

namespace Source

variable {source : Source} {definition : Node}

/-- Whether the name of a namespace is read from the tokens as it stands in the tree: no keyword of a
namespace comes before its own, which is not joined to a name, and it covers nothing or becomes one
token. -/
structure ReadsNamespace (source : Source) (definition : Node) (parts : definition.NamespaceParts) :
    Prop where
  first : ∀ leaf ∈ source.root.leaves, leaf.label.start < parts.keyword.label.start →
    leaf.tokenKind ≠ .keyword .namespaceWord
  apart : Token.Progress.KeywordApart source ⟨parts.keyword.label, some definition.kind⟩
  name : ∀ name ∈ parts.name, definition.leavesOf name = [] ∧ source.nodeText name = "" ∨
    source.Contiguous (definition.leavesOf name) ∧ source.Joined name (definition.leavesOf name)

theorem ReadsNamespace.name_cases {parts : definition.NamespaceParts}
    (reads : source.ReadsNamespace definition parts) :
    leavesOfAll (some definition.kind) parts.name.toList = [] ∧
        parts.name.elim "" source.nodeText = "" ∨
      ∃ name, parts.name = some name ∧ source.Contiguous (definition.leavesOf name) ∧
        source.Joined name (definition.leavesOf name) := by
  cases named : parts.name with
  | none => exact .inl ⟨rfl, rfl⟩
  | some name =>
    rcases reads.name name named with ⟨nothing, unnamed⟩ | joined
    · refine .inl ⟨?_, unnamed⟩
      rw [Option.toList_some, leavesOfAll, leavesOfAll, List.append_nil]
      exact nothing
    · exact .inr ⟨name, rfl, joined⟩

end Source

namespace Token.Progress

variable {source : Source} {definition : Node} {progress : Progress} {earlier : List Token}
  {keyword : Token}

/-- What is known of the tokens past the keyword of a namespace: its name has not ended, and what is read
of it so far spells a text. -/
structure Spells (text : String) (keyword : Token) (earlier : List Token) (progress : Progress) : Prop where
  exists_header : ∃ header, progress.stream = header ++ keyword :: earlier ∧
    (∀ token ∈ header, token.endsNamespace = false) ∧
    joinedText (header.reverse.filter isNamePart) = text

theorem spaced_isPassed (leaf next : Leaf) : Spaced source IsPassed leaf next :=
  fun _ _ => isPassed_ofGap _ _

theorem isPassed_of_mem_gap {leaf : Leaf} {token : Token} (member : token ∈ gap source progress leaf) :
    token.IsPassed := by
  rw [Progress.gap] at member
  split at member
  · cases member
  · rw [List.mem_singleton.mp member]
    exact isPassed_ofGap _ _

theorem passable_comment {item : Node} (ordinary : definition.kind ≠ "primitive_type")
    (isComment : item.isSign "comment" = true) : Passable source IsPassed definition item := by
  have isSign : (item.isSign "," || item.isSign "comment") = true := by simp [isComment]
  refine ⟨fun _ => ⟨isSign, fun leaf member => ?_⟩, fun isName => ?_⟩
  · rw [eq_of_mem_leavesOf_sign isSign member]
    rcases tokenKind_of_isSign ordinary isSign with kind | kind <;>
      simp [IsPassed, endsNamespace, isMark, isNamePart, Source.leafToken, kind, TokenKind.isNamePart]
  · have notName : item.isName = false := by
      simp only [Node.isSign, Bool.and_eq_true, beq_iff_eq] at isComment
      simp [Node.isName, isComment.1]
    rw [notName] at isName
    cases isName

/-- Comments are passed, and what follows them stands apart. -/
theorem passed_comments {items : List Node} {upcoming : List Leaf} {previous : Leaf}
    (ordinary : definition.kind ≠ "primitive_type")
    (comments : ∀ node ∈ items, node.isSign "comment" = true)
    (inside : leavesOfAll (some definition.kind) items ++ upcoming <:+: source.root.leaves)
    (inOrder : Leaf.InOrder 0 source.bytes.length source.root.leaves)
    (cursor : progress.cursor = previous.label.stop)
    (ready : Ready source progress (leavesOfAll (some definition.kind) items ++ upcoming))
    (passed : Passed IsPassed keyword earlier progress) :
    let reached := (leavesOfAll (some definition.kind) items).foldl (advance source) progress
    Passed IsPassed keyword earlier reached ∧ Ready source reached upcoming ∧
      ∃ last : Leaf, reached.cursor = last.label.stop := by
  obtain ⟨passed, ready, last, -, cursor⟩ := passed_items ordinary
    (fun item member => passable_comment ordinary (comments item member)) inside inOrder
    (List.pairwise_of_forall spaced_isPassed).isChain cursor ready passed
  exact ⟨passed, ready, last, cursor⟩

/-- What is passed spells nothing more. -/
theorem Spells.of_passed {text : String} {base : List Token} {token : Token}
    (passed : Passed IsPassed token base progress)
    (header : ∃ before, token :: base = before ++ keyword :: earlier ∧
      (∀ token ∈ before, token.endsNamespace = false) ∧
      joinedText (before.reverse.filter isNamePart) = text) :
    Spells text keyword earlier progress := by
  obtain ⟨between, stream, all⟩ := passed
  obtain ⟨before, equal, goesOn, spelled⟩ := header
  refine ⟨between ++ before, by rw [stream, equal, List.append_assoc], ?_, ?_⟩
  · exact List.forall_mem_append.mpr ⟨fun token member => (all token member).1, goesOn⟩
  · have none : between.reverse.filter isNamePart = [] :=
      filter_isNamePart_of_isPassed fun token member => all token (List.mem_reverse.mp member)
    rw [List.reverse_append, List.filter_append, none, List.append_nil, spelled]

/-- Past its name and the comments around it, the name of a namespace is spelled. -/
theorem spells_name {parts : definition.NamespaceParts} {upcoming : List Leaf} {previous : Leaf}
    (reads : source.ReadsNamespace definition parts)
    (inside : parts.headerLeaves ++ upcoming <:+: source.root.leaves)
    (inOrder : Leaf.InOrder 0 source.bytes.length source.root.leaves)
    (cursor : progress.cursor = previous.label.stop)
    (ready : Ready source progress (parts.headerLeaves ++ upcoming))
    (passed : Passed IsPassed keyword earlier progress) :
    let reached := parts.headerLeaves.foldl (advance source) progress
    Spells (parts.name.elim "" source.nodeText) keyword earlier reached ∧
      Ready source reached upcoming := by
  rw [NamespaceParts.headerLeaves, List.append_assoc, List.append_assoc] at inside ready
  have ordinary : definition.kind ≠ "primitive_type" := by simp [parts.isNamespace]
  obtain ⟨passedBefore, readyName, last, reached⟩ :=
    passed_comments ordinary parts.before_comments inside inOrder cursor ready passed
  have insideName := (List.suffix_append _ _).isInfix.trans inside
  have insideBetween := (List.suffix_append _ _).isInfix.trans insideName
  rw [NamespaceParts.headerLeaves, List.foldl_append, List.foldl_append]
  generalize (leavesOfAll (some definition.kind) parts.before).foldl (advance source) progress =
    middle at passedBefore readyName reached
  rcases reads.name_cases with ⟨nothing, unnamed⟩ | ⟨name, named, contiguous, joined⟩
  · rw [nothing] at readyName ⊢
    obtain ⟨passed, ready, -⟩ := passed_comments ordinary parts.between_comments insideBetween inOrder
      reached readyName passedBefore
    exact ⟨.of_passed passed ⟨[], rfl, by simp, unnamed.symm⟩, ready⟩
  · have single : leavesOfAll (some definition.kind) parts.name.toList = definition.leavesOf name := by
      rw [named, Option.toList_some, leavesOfAll, leavesOfAll, List.append_nil]
      rfl
    rw [single] at readyName insideName ⊢
    obtain ⟨token, isPart, text, -, ⟨first, -, stream⟩, ⟨final, -, moved⟩, readyBetween⟩ :=
      foldl_name readyName contiguous joined insideName inOrder
    obtain ⟨passed, ready, -⟩ := passed_comments ordinary parts.between_comments insideBetween inOrder
      moved readyBetween ⟨[], stream, by simp⟩
    obtain ⟨before, earlierStream, all⟩ := passedBefore
    refine ⟨.of_passed passed ⟨token :: (gap source middle first ++ before), ?_, ?_, ?_⟩, ready⟩
    · rw [earlierStream, List.cons_append, List.append_assoc]
    · rw [List.forall_mem_cons, List.forall_mem_append]
      exact ⟨endsNamespace_of_isNamePart isPart, fun token inGap => (isPassed_of_mem_gap inGap).1,
        fun token member => (all token member).1⟩
    · have none : (gap source middle first ++ before).reverse.filter isNamePart = [] := by
        refine filter_isNamePart_of_isPassed fun token member => ?_
        rcases List.mem_append.mp (List.mem_reverse.mp member) with inGap | passed
        · exact isPassed_of_mem_gap inGap
        · exact all token passed
      rw [List.reverse_cons, List.filter_append, none, List.nil_append, List.filter_cons_of_pos isPart,
        named]
      simp [text]

/-- The leaves of a namespace stand together among those of the file. -/
theorem exists_leaves_of_namespace (parts : definition.NamespaceParts)
    (below : definition ∈ source.root.subtrees) :
    ∃ front ending back, source.root.leaves =
        front ++ ⟨parts.keyword.label, some definition.kind⟩ :: (parts.headerLeaves ++ ending :: back) ∧
      (ending.tokenKind = .mark .semicolon ∨ ending.tokenKind = .mark .openBrace) := by
  have ordinary : definition.kind ≠ "primitive_type" := by simp [parts.isNamespace]
  obtain ⟨kind, front, back, leaves⟩ := leavesUnder_isInfix none source.root definition below
  obtain ⟨ending, more, endingLeaves, isEnding⟩ := exists_leaf_of_endsNamespace parts.ends ordinary
  rw [leavesUnder_of_children (by simp [parts.children_eq]), parts.children_eq, leavesOfAll,
    leavesUnder_sign parts.isKeyword parts.keyword_covers, leavesOfAll_append, leavesOfAll_append,
    leavesOfAll_append, leavesOfAll, endingLeaves] at leaves
  refine ⟨front, ending, more ++ leavesOfAll (some definition.kind) parts.rest ++ back, ?_, isEnding⟩
  rw [Node.leaves, ← leaves, NamespaceParts.headerLeaves]
  simp

/-- Before the first leaf of a keyword there is no token of it. -/
theorem isKeyword_of_mem_before {word : Keyword} {front upcoming : List Leaf} {leaf : Leaf}
    (leaves : source.root.leaves = front ++ leaf :: upcoming)
    (inOrder : Leaf.InOrder 0 source.bytes.length source.root.leaves)
    (first : ∀ other ∈ source.root.leaves, other.label.start < leaf.label.start →
      other.tokenKind ≠ .keyword word) :
    ∀ token ∈ gap source (front.foldl (advance source) .start) leaf ++
      (front.foldl (advance source) .start).stream, token.isKeyword word = false := by
  obtain ⟨ordered, covers⟩ := inOrder_of_isInfix List.infix_rfl inOrder
  rw [leaves, List.pairwise_append] at ordered
  refine List.forall_mem_append.mpr ⟨fun token inGap => ?_, ?_⟩
  · rw [Progress.gap] at inGap
    split at inGap
    · cases inGap
    · rw [List.mem_singleton.mp inGap]
      exact isKeyword_ofGap _ _
  · refine isKeyword_of_mem_foldl (by simp [start]) fun other member => ?_
    have listed : other ∈ source.root.leaves := leaves ▸ List.mem_append_left _ member
    have stops := ordered.2.2 other member leaf List.mem_cons_self
    have begins := (covers other listed).1
    exact first other listed (by omega)

/-- The token of a mark that stands apart stays among the tokens, and so do those before it. -/
theorem suffix_finish_of_mark {mark : Leaf} {back : List Leaf}
    (ready : Ready source progress (mark :: back)) (inside : mark :: back <:+: source.root.leaves)
    (inOrder : Leaf.InOrder 0 source.bytes.length source.root.leaves)
    (notPart : mark.tokenKind.isNamePart = false) (notOther : mark.tokenKind ≠ .other) :
    source.leafToken mark :: (gap source progress mark ++ progress.stream) <:+
      ((mark :: back).foldl (advance source) progress).finish source := by
  have follows := (List.pairwise_cons.mp (inOrder_of_isInfix inside inOrder).1).1
  have ended := advance_of_apart (ready mark rfl).1 (ready mark rfl).2
  have settled := (suffix_foldl_of_apart (ready_of_sign ready follows notPart notOther)).trans
    (suffix_finish source _)
  rw [ended] at settled
  rw [List.foldl_cons, ended]
  exact settled

/-- In the tokens of a file the keyword of a namespace is followed by tokens that spell its name, and
they end where the header of the namespace does. -/
theorem exists_tokens_of_namespace {parts : definition.NamespaceParts}
    (below : definition ∈ source.root.subtrees) (reads : source.ReadsNamespace definition parts)
    (inOrder : Leaf.InOrder 0 source.bytes.length source.root.leaves) :
    ∃ front keyword header ending after,
      source.tokens = front ++ keyword :: (header ++ ending :: after) ∧
      (∀ token ∈ front, token.isKeyword .namespaceWord = false) ∧
      keyword.isKeyword .namespaceWord = true ∧
      (∀ token ∈ header, token.endsNamespace = false) ∧ ending.endsNamespace = true ∧
      joinedText (header.filter isNamePart) = parts.name.elim "" source.nodeText := by
  have ordinary : definition.kind ≠ "primitive_type" := by simp [parts.isNamespace]
  obtain ⟨front, ending, back, leaves, isEnding⟩ := exists_leaves_of_namespace parts below
  have wordKind : (Leaf.mk parts.keyword.label (some definition.kind)).tokenKind =
      .keyword .namespaceWord := by
    have isKeyword := parts.isKeyword
    simp only [Node.isSign, Bool.and_eq_true, beq_iff_eq] at isKeyword
    exact tokenKind_of_spelling ordinary isKeyword.1
  have early := isKeyword_of_mem_before leaves inOrder reads.first
  have ready := ready_keyword leaves inOrder (by rw [wordKind]; rfl) (by simp [wordKind]) reads.apart
  generalize Leaf.mk parts.keyword.label (some definition.kind) = word at leaves wordKind early ready
  have inside : parts.headerLeaves ++ ending :: back <:+: source.root.leaves :=
    ⟨front ++ [word], [], by simp [leaves]⟩
  have follows := (List.pairwise_cons.mp (List.pairwise_append.mp
    (leaves ▸ (inOrder_of_isInfix List.infix_rfl inOrder).1)).2.1).1
  have advanced := advance_of_apart (ready word rfl).1 (ready word rfl).2
  have starts : Passed IsPassed (source.leafToken word) _ _ :=
    ⟨[], congrArg Progress.stream advanced, by simp⟩
  obtain ⟨⟨header, stream, goesOn, spelled⟩, readyEnd⟩ := spells_name reads inside inOrder
    (congrArg cursor advanced) (ready_of_sign ready follows (by rw [wordKind]; rfl) (by simp [wordKind]))
    starts
  obtain ⟨later, settled⟩ := suffix_finish_of_mark readyEnd
    ((List.suffix_append _ _).isInfix.trans inside) inOrder
    (by rcases isEnding with kind | kind <;> rw [kind] <;> rfl)
    (by rcases isEnding with kind | kind <;> simp [kind])
  have whole : source.root.leaves.foldl (advance source) .start = (ending :: back).foldl (advance source)
      (parts.headerLeaves.foldl (advance source)
        ((front.foldl (advance source) .start).advance source word)) := by
    rw [leaves]
    simp only [List.foldl_append, List.foldl_cons]
  generalize parts.headerLeaves.foldl (advance source)
    ((front.foldl (advance source) .start).advance source word) = reached at stream settled whole
  rw [stream, ← whole] at settled
  refine ⟨_, source.leafToken word, (gap source reached ending ++ header).reverse,
    source.leafToken ending, later.reverse, ?_,
    fun token member => early token (List.mem_reverse.mp member), ?_, ?_, ?_, ?_⟩
  · rw [Source.tokens, ← settled]
    simp
  · simp [isKeyword, Source.leafToken, wordKind]
  · intro token member
    rcases List.mem_append.mp (List.mem_reverse.mp member) with inGap | inHeader
    · exact (isPassed_of_mem_gap inGap).1
    · exact goesOn token inHeader
  · rcases isEnding with kind | kind <;> simp [endsNamespace, isMark, Source.leafToken, kind]
  · rw [List.reverse_append, List.filter_append, filter_isNamePart_of_isPassed fun token member =>
      isPassed_of_mem_gap (List.mem_reverse.mp member), List.append_nil, spelled]

end Token.Progress

namespace Source

variable {source : Source}

/-- A file in which no keyword of a namespace stands declares none. Otherwise the first namespace that its
tree declares is the one that its tokens do, if it is read from them as it stands in the tree. -/
theorem declaredNamespace_tokens (nested : source.root.isNested = true)
    (within : source.root.label.stop ≤ source.bytes.length) :
    ((∀ leaf ∈ source.root.leaves, leaf.tokenKind ≠ .keyword .namespaceWord) →
        Token.declaredNamespace source.tokens = "") ∧
      ∀ file definition (parts : definition.NamespaceParts),
        source.root.subtrees.find? (·.kind == "namespace_definition") = some definition →
        source.ReadsNamespace definition parts →
          Token.declaredNamespace source.tokens =
            Text.dropAround ((source.reader file).fieldText definition "name") Name.isSeparator := by
  refine ⟨fun noLeaf => ?_, fun file definition parts isFirst reads => ?_⟩
  · refine Token.declaredNamespace_eq_empty fun token member => ?_
    rw [Source.tokens, List.mem_reverse, Token.Progress.finish] at member
    have none : ∀ token ∈ (source.root.leaves.foldl (Token.Progress.advance source) .start).stream,
        token.isKeyword .namespaceWord = false :=
      Token.Progress.isKeyword_of_mem_foldl (by simp [Token.Progress.start]) noLeaf
    split at member
    · rcases List.mem_cons.mp member with rfl | earlier
      · exact Token.isKeyword_ofGap _ _
      · exact none token earlier
    · exact none token member
  · obtain ⟨front, keyword, header, ending, after, split, none, isKeyword, goesOn, ends, spelled⟩ :=
      Token.Progress.exists_tokens_of_namespace (List.mem_of_find?_eq_some isFirst) reads
        (leaves_inOrder nested within)
    rw [Token.declaredNamespace_eq split none isKeyword goesOn ends, spelled]
    congr 1
    rw [DeclarationReader.fieldText, parts.name_eq]
    cases parts.name <;> rfl

section Sample

/-- The relative name `namespace\f`, called in a statement. -/
def sampleCall (start : Nat) : Node :=
  .mk ⟨"expression_statement", true, "", start, start + 14⟩ [
    .mk ⟨"function_call_expression", true, "", start, start + 13⟩ [
      .mk ⟨"relative_name", true, "function", start, start + 11⟩ [
        .mk ⟨"namespace", false, "prefix", start, start + 9⟩ [],
        .mk ⟨"\\", false, "prefix", start + 9, start + 10⟩ [],
        .mk ⟨"name", true, "", start + 10, start + 11⟩ []],
      .mk ⟨"arguments", true, "arguments", start + 11, start + 13⟩ [
        .mk ⟨"(", false, "", start + 11, start + 12⟩ [],
        .mk ⟨")", false, "", start + 12, start + 13⟩ []]],
    .mk ⟨";", false, "", start + 13, start + 14⟩ []]

/-- The name `Pé\Q`. -/
def sampleName : Node :=
  .mk ⟨"namespace_name", true, "name", 24, 29⟩ [
    .mk ⟨"name", true, "", 24, 27⟩ [],
    .mk ⟨"\\", false, "", 27, 28⟩ [],
    .mk ⟨"name", true, "", 28, 29⟩ []]

/-- A body in which a relative name is called. -/
def sampleBody : Node :=
  .mk ⟨"compound_statement", true, "body", 29, 45⟩ [
    .mk ⟨"\x7b", false, "", 29, 30⟩ [],
    sampleCall 30,
    .mk ⟨"\x7d", false, "", 44, 45⟩ []]

/-- The declaration of a namespace with comments around its keyword. -/
def sampleDefinition : Node :=
  .mk ⟨"namespace_definition", true, "", 10, 45⟩ [
    .mk ⟨"namespace", false, "", 10, 19⟩ [],
    .mk ⟨"comment", true, "", 19, 23⟩ [],
    sampleName,
    sampleBody]

def sampleParts : NamespaceParts sampleDefinition where
  keyword := .mk ⟨"namespace", false, "", 10, 19⟩ []
  before := [.mk ⟨"comment", true, "", 19, 23⟩ []]
  name := some sampleName
  between := []
  ending := sampleBody
  rest := []
  children_eq := rfl
  isNamespace := rfl
  isKeyword := rfl
  keyword_covers := by decide
  before_comments := by decide
  name_eq := rfl
  between_comments := by decide
  ends := rfl

def sampleDeclared : Source where
  bytes := Utf8.encode "<?php /**/namespace/**/ Pé\\Q\x7bnamespace\\f();\x7d"
  root := .mk ⟨"program", true, "", 0, 45⟩ [
    .mk ⟨"php_tag", true, "", 0, 5⟩ [],
    .mk ⟨"comment", true, "", 6, 10⟩ [],
    sampleDefinition]

/-- The relative name in the body of the namespace is not read. -/
theorem declaredNamespace_tokens_declared :
    sampleDeclared.root.subtrees.find? (·.kind == "namespace_definition") = some sampleDefinition ∧
      Token.declaredNamespace sampleDeclared.tokens = "Pé\\Q" := by
  have isFirst : sampleDeclared.root.subtrees.find? (·.kind == "namespace_definition") =
      some sampleDefinition := rfl
  have contiguous : sampleDeclared.Contiguous (sampleDefinition.leavesOf sampleName) := by
    have boundaries : ∀ leaf ∈ sampleDefinition.leavesOf sampleName,
        Utf8.IsBoundary "<?php /**/namespace/**/ Pé\\Q\x7bnamespace\\f();\x7d" leaf.label.start ∧
          Utf8.IsBoundary "<?php /**/namespace/**/ Pé\\Q\x7bnamespace\\f();\x7d" leaf.label.stop := by
      decide +kernel
    exact ⟨by decide +kernel, fun leaf member => ⟨isBoundary_of_encode rfl (boundaries leaf member).1,
      isBoundary_of_encode rfl (boundaries leaf member).2⟩⟩
  have reads : sampleDeclared.ReadsNamespace sampleDefinition sampleParts := by
    refine ⟨by decide +kernel, by decide +kernel, fun name isName => .inr ?_⟩
    obtain rfl : sampleName = name := Option.some.inj isName
    exact ⟨contiguous, by decide +kernel⟩
  have nested : sampleDeclared.root.isNested = true := by decide +kernel
  have read := (declaredNamespace_tokens nested (by decide +kernel)).2 "" sampleDefinition sampleParts
    isFirst reads
  exact ⟨isFirst, by rw [read]; decide +kernel⟩

/-- A call of a relative name, and a class. -/
def sampleRelative : Source where
  bytes := Utf8.encode "<?php namespace\\f(); class A \x7b\x7d"
  root := .mk ⟨"program", true, "", 0, 31⟩ [
    .mk ⟨"php_tag", true, "", 0, 5⟩ [],
    sampleCall 6,
    .mk ⟨"class_declaration", true, "", 21, 31⟩ [
      .mk ⟨"class", false, "", 21, 26⟩ [],
      .mk ⟨"name", true, "name", 27, 28⟩ [],
      .mk ⟨"declaration_list", true, "body", 29, 31⟩ [
        .mk ⟨"\x7b", false, "", 29, 30⟩ [],
        .mk ⟨"\x7d", false, "", 30, 31⟩ []]]]

/-- The tokens of a relative name declare a namespace in a file that has none. -/
theorem declaredNamespace_of_relative_name :
    sampleRelative.root.isNested = true ∧
      sampleRelative.root.label.stop ≤ sampleRelative.bytes.length ∧
      (∀ node ∈ sampleRelative.root.subtrees, node.kind ≠ "namespace_definition") ∧
      (sampleRelative.declarations "").map (·.name) = ["A"] ∧
      Token.declaredNamespace sampleRelative.tokens = "f" := by
  decide +kernel

end Sample

end Source

end ClassAtlas
