import ClassAtlas.Proofs.Declaration.Clauses
import ClassAtlas.Proofs.Token.Clause
import ClassAtlas.Proofs.Token.Place
import ClassAtlas.Usage.Detector

/-!
Declarations and usages agree on inheritance.

The parent and the interfaces of a declaration are read from the clauses of a tree, the usages of a
class from tokens. Where each name of a clause becomes one token, the parent of a class is found as the
name after its keyword, and an interface among the names after its keyword. Both are resolved with the
same imports and in the same namespace. Where a name is broken into several tokens or joined to what
stands around it, its usage is missed.
-/

namespace ClassAtlas

namespace Place

variable {after : List Token} {token : Token}

/-- A name is found after tokens at which a list of names does not end. -/
theorem any_namesUntil_append {stops : Token → Bool} {holds : String → Bool} {between : List Token}
    (sparse : Token.Sparse (between ++ token :: after))
    (passed : ∀ token ∈ between, stops token = false) (goesOn : stops token = false)
    (isPart : token.isNamePart = true) (named : holds token.text = true) :
    (namesUntil stops (between ++ token :: after)).1.any holds = true := by
  induction between with
  | nil => simp [namesUntil_cons_of_isNamePart sparse goesOn isPart, named]
  | cons first rest inductionHypothesis =>
    rw [List.forall_mem_cons] at passed
    rw [List.cons_append] at sparse ⊢
    have later := inductionHypothesis sparse.tail passed.2
    by_cases firstPart : first.isNamePart = true
    · rw [namesUntil_cons_of_isNamePart sparse passed.1 firstPart, List.any_cons, later, Bool.or_true]
    · rw [namesUntil]
      simp [passed.1, firstPart, later]

/-- Whether the names after `implements` end at a token. -/
def endsInterfaces (token : Token) : Bool :=
  token.isMark .openBrace || token.isKeyword .extendsWord || token.isMark .semicolon

theorem not_endsInterfaces_of_isNamePart (isPart : token.isNamePart = true) :
    endsInterfaces token = false := by
  simp only [Token.isNamePart, TokenKind.isNamePart, Bool.or_eq_true, beq_iff_eq] at isPart
  rcases isPart with kind | kind <;> simp [endsInterfaces, Token.isMark, Token.isKeyword, kind]

end Place

/-- A sighting at a place of a file is reported at the line of the token there. -/
theorem exists_usage_of_sighting {tokens : List Token} {target : String} {wanted : List UsageType}
    {detector : Detector} (selected : detector ∈ Detector.select wanted) {place : Place}
    (member : place ∈ Place.list tokens) (triggers : detector.triggers place.token = true)
    (sighted : ∃ sighting ∈ detector.sightings (.ofTokens tokens target) place,
      sighting.anchor = place.index) :
    ∃ record ∈ findUsages tokens target wanted, record.line = .int place.token.line := by
  obtain ⟨sighting, found, anchored⟩ := sighted
  refine ⟨sighting.record tokens, List.mem_map_of_mem ?_, ?_⟩
  · refine List.mem_flatMap.mpr ⟨detector, selected, List.mem_flatMap.mpr ⟨place, member, ?_⟩⟩
    rwa [if_pos triggers]
  · rw [Sighting.record, anchored, Place.getElem?_index member]
    rfl

section Tokens

variable {tokens before between after : List Token} {keyword token : Token} {target : String}

/-- A target after `extends` is reported at the line of the keyword. -/
theorem exists_extension (split : tokens = before ++ keyword :: (between ++ token :: after))
    (sparse : Token.Sparse tokens) (isKeyword : keyword.kind = .keyword .extendsWord)
    (trivia : ∀ token ∈ between, token.isTrivia = true) (isPart : token.isNamePart = true)
    (nonempty : token.text ≠ "")
    (named : (View.ofTokens tokens target).resolvesToTarget token.text = true) :
    ∃ record ∈ findUsages tokens target [.extension], record.line = .int keyword.line := by
  have member := Place.mem_list_append before keyword (between ++ token :: after)
  rw [← split] at member
  have ahead : Token.skipTrivia (between ++ token :: after) = token :: after := by
    rw [Token.skipTrivia, List.dropWhile_append_of_pos trivia,
      List.dropWhile_cons_of_neg (by simp [Token.not_isTrivia_of_isNamePart isPart])]
  have name : Token.nameAhead (token :: after) = token.text := by
    have inside : token :: after <:+: tokens := ⟨before ++ keyword :: between, [], by simp [split]⟩
    rw [(sparse.of_isInfix inside).nameAhead_cons, if_pos isPart]
  have selected : ⟨"extends", .extension, (·.isKeyword .extendsWord),
      Place.keywordSightings .extension⟩ ∈ Detector.select [.extension] := by
    simp [Detector.select, Detector.all]
  refine exists_usage_of_sighting selected member (by simp [Token.isKeyword, isKeyword]) ?_
  simp [Place.keywordSightings, ahead, name, named, nonempty]

/-- A target among the names after `implements` is reported at the line of the keyword. -/
theorem exists_implementation (split : tokens = before ++ keyword :: (between ++ token :: after))
    (sparse : Token.Sparse tokens) (isKeyword : keyword.kind = .keyword .implementsWord)
    (goesOn : ∀ token ∈ between, Place.endsInterfaces token = false) (isPart : token.isNamePart = true)
    (named : (View.ofTokens tokens target).resolvesToTarget token.text = true) :
    ∃ record ∈ findUsages tokens target [.implementation], record.line = .int keyword.line := by
  have member := Place.mem_list_append before keyword (between ++ token :: after)
  rw [← split] at member
  have inside : between ++ token :: after <:+: tokens := ⟨before ++ [keyword], [], by simp [split]⟩
  have listed := Place.any_namesUntil_append (sparse.of_isInfix inside) goesOn
    (Place.not_endsInterfaces_of_isNamePart isPart) isPart named
  have selected : ⟨"implements", .implementation, (·.isKeyword .implementsWord),
      Place.implementsSightings⟩ ∈ Detector.select [.implementation] := by
    simp [Detector.select, Detector.all]
  refine exists_usage_of_sighting selected member (by simp [Token.isKeyword, isKeyword]) ?_
  simp only [Place.implementsSightings]
  split
  · exact ⟨_, List.mem_singleton_self _, rfl⟩
  case isFalse unlisted => exact absurd listed unlisted

/-- A name that resolves to a trimmed target stands for it. -/
theorem resolvesToTarget_of_resolve {name : String}
    (resolves : Name.resolve (.ofTokens tokens) (Token.declaredNamespace tokens) name = target)
    (trimmed : Text.trim target = target) :
    (View.ofTokens tokens target).resolvesToTarget name = true := by
  change Name.unrooted (Name.resolve (.ofTokens tokens) (Token.declaredNamespace tokens) name) ==
    Name.normalized target
  rw [resolves, Name.normalized, trimmed, beq_self_eq_true]

end Tokens

namespace Node

/-- The keyword that starts the clauses of a kind. -/
def clauseWord? (kind : String) : Option Keyword :=
  [("base_clause", .extendsWord), ("class_interface_clause", .implementsWord)].lookup kind

/-- What stands before the first name of a clause. -/
def opening (clause : Node) : List Node := clause.children.takeWhile (!·.isName)

end Node

/-- The names of a clause are those of its children that are names. -/
theorem DeclarationReader.namesIn_eq (reader : DeclarationReader) (space : String) (clause : Node) :
    reader.namesIn space clause = (clause.children.filter Node.isName).map fun child =>
      Name.resolve reader.aliases space (reader.source.nodeText child) := by
  have same : Node.isName = fun node : Node =>
      (node.kind == "name" || node.kind == "qualified_name") && node.label.named :=
    funext fun node => Bool.and_comm _ _
  rw [namesIn, Node.namedChildren, List.filter_filter, same]

namespace Source

open Node Token.Progress

/-- Whether a tree is nested inside of its source, its clauses are keywords followed by names, commas
and comments, and the leaves of its names are contiguous and cut between characters. -/
structure ListsNames (source : Source) : Prop where
  nested : source.root.isNested = true
  within : source.root.label.stop ≤ source.bytes.length
  clauses : ∀ clause ∈ source.root.subtrees, ∀ word ∈ clauseWord? clause.kind,
    clause.isClause word.spelling = true
  names : ∀ node ∈ source.root.subtrees, ∀ name ∈ node.children, name.isName = true →
    source.Contiguous (node.leavesOf name)

theorem ListsNames.inOrder {source : Source} (lists : source.ListsNames) :
    Leaf.InOrder 0 source.bytes.length source.root.leaves :=
  leaves_inOrder lists.nested lists.within

/-- Whether only blanks stand between two leaves, or nothing. -/
def onlyBlanks (source : Source) (leaf next : Leaf) : Bool :=
  next.label.start == leaf.label.stop ||
    Text.isBlankText (source.text leaf.label.stop next.label.start)

/-- Whether a name of a clause is read as it stands in the tree: the keyword of the clause is not joined
to a name before it, and the name becomes one token, as does each name in front of it that has leaves. -/
structure ReadsName (source : Source) (clause : Node) (front : List Node) (name : Node) : Prop where
  keyword : ∀ keyword ∈ clause.children.head?, KeywordApart source ⟨keyword.label, some clause.kind⟩
  joined : source.Joined name (clause.leavesOf name)
  earlier : ∀ other ∈ front, other.isName = true →
    clause.leavesOf other = [] ∨ source.Joined other (clause.leavesOf other)

/-- Whether the first name of a clause is read as it stands, with only comments and blanks between the
keyword and it. -/
structure ReadsFirst (source : Source) (clause : Node) (name : Node) : Prop
    extends source.ReadsName clause clause.opening name where
  comments : ∀ item ∈ clause.opening.tail, item.isSign "comment" = true
  blanks : (leavesOfAll (some clause.kind) (clause.opening ++ [name])).IsChain
    (source.onlyBlanks · · = true)

section Clause

variable {source : Source} {clause : Node} {target : String}

instance (front : List Node) (name : Node) : Decidable (source.ReadsName clause front name) :=
  decidable_of_iff
    ((∀ keyword ∈ clause.children.head?, KeywordApart source ⟨keyword.label, some clause.kind⟩) ∧
      source.Joined name (clause.leavesOf name) ∧ ∀ other ∈ front, other.isName = true →
        clause.leavesOf other = [] ∨ source.Joined other (clause.leavesOf other))
    ⟨fun ⟨keyword, joined, earlier⟩ => ⟨keyword, joined, earlier⟩,
      fun ⟨keyword, joined, earlier⟩ => ⟨keyword, joined, earlier⟩⟩

instance (name : Node) : Decidable (source.ReadsFirst clause name) :=
  decidable_of_iff
    (source.ReadsName clause clause.opening name ∧
      (∀ item ∈ clause.opening.tail, item.isSign "comment" = true) ∧
      (leavesOfAll (some clause.kind) (clause.opening ++ [name])).IsChain
        (source.onlyBlanks · · = true))
    ⟨fun ⟨readsName, comments, blanks⟩ => ⟨readsName, comments, blanks⟩,
      fun ⟨readsName, comments, blanks⟩ => ⟨readsName, comments, blanks⟩⟩

theorem spaced_of_onlyBlanks {leaf next : Leaf} (blanks : source.onlyBlanks leaf next = true) :
    Spaced source (·.isTrivia = true) leaf next := by
  intro apart line
  simp only [onlyBlanks, Bool.or_eq_true, beq_iff_eq, apart, false_or] at blanks
  simp [Token.ofGap, Token.isTrivia, TokenKind.isTrivia, blanks]

theorem isTrivia_of_comment {item : Node} {leaf : Leaf} (isComment : item.isSign "comment" = true)
    (member : leaf ∈ clause.leavesOf item) : (source.leafToken leaf).isTrivia = true := by
  rw [eq_of_mem_leavesOf_sign (by simp [isComment]) member]
  have kind : item.label.kind = "comment" := by
    simp only [isSign, Bool.and_eq_true, beq_iff_eq] at isComment
    exact isComment.1
  simp [leafToken, Token.isTrivia, Leaf.tokenKind, kind, TokenKind.isTrivia]

theorem not_endsInterfaces_ofGap (text : String) (line : Nat) :
    Place.endsInterfaces (Token.ofGap text line) = false := by
  rw [Place.endsInterfaces, Token.ofGap]
  split <;> rfl

theorem not_endsInterfaces_of_sign {item : Node} {leaf : Leaf}
    (ordinary : clause.kind ≠ "primitive_type")
    (isSign : (item.isSign "," || item.isSign "comment") = true)
    (member : leaf ∈ clause.leavesOf item) :
    Place.endsInterfaces (source.leafToken leaf) = false := by
  rw [eq_of_mem_leavesOf_sign isSign member]
  rcases tokenKind_of_isSign ordinary isSign with kind | kind <;>
    simp [Place.endsInterfaces, Token.isMark, Token.isKeyword, leafToken, kind]

theorem ordinary_of_clauseWord? {word : Keyword} (isWord : clauseWord? clause.kind = some word) :
    clause.kind ≠ "primitive_type" := by
  intro primitive
  rw [primitive] at isWord
  cases isWord

/-- The keyword of a clause and a name of it are tokens of their own, and the tokens between them are
those of the items and gaps between them. -/
theorem exists_tokens_of_name (lists : source.ListsNames) (below : clause ∈ source.root.subtrees)
    {word : Keyword} (isWord : clauseWord? clause.kind = some word) {name : Node}
    {front rest : List Node} (children : clause.children = front ++ name :: rest)
    (isName : name.isName = true) (reads : source.ReadsName clause front name) {holds : Token → Prop}
    (names : ∀ item ∈ front, item.isName = true → ∀ token : Token, token.isNamePart = true → holds token)
    (signs : ∀ item ∈ front.tail, (item.isSign "," || item.isSign "comment") = true →
      ∀ leaf ∈ clause.leavesOf item, holds (source.leafToken leaf))
    (spaced : (leavesOfAll (some clause.kind) (front ++ [name])).IsChain (Spaced source holds)) :
    ∃ keyword ∈ clause.children.head?, ∃ before between after token, token.isNamePart = true ∧
      token.text = source.nodeText name ∧ token.text ≠ "" ∧ (∀ token ∈ between, holds token) ∧
      (source.leafToken ⟨keyword.label, some clause.kind⟩).kind = .keyword word ∧
      source.tokens = before ++ source.leafToken ⟨keyword.label, some clause.kind⟩ ::
        (between ++ token :: after) := by
  have ordinary := ordinary_of_clauseWord? isWord
  obtain ⟨keyword, items, rfl, spelled, keywordLeaf, listed⟩ :=
    exists_keyword_of_isClause (lists.clauses clause below word isWord) children isName
  have isKeyword := tokenKind_of_spelling ordinary spelled
  have isHead : keyword ∈ clause.children.head? := by rw [children]; rfl
  have contiguous := lists.names clause below
  have passable : ∀ item ∈ items, Passable source holds clause item := by
    intro item member
    refine ⟨fun notName => ?_, fun isName => ?_⟩
    · have isSign : (item.isSign "," || item.isSign "comment") = true := by
        simpa [isListItem, notName] using listed item member
      exact ⟨isSign, signs item member isSign⟩
    · have inFront := List.mem_cons_of_mem keyword member
      exact (reads.earlier item inFront isName).imp_right fun joined =>
        ⟨contiguous item (by simp [children, member]) isName, joined, names item inFront isName⟩
  have chain : (⟨keyword.label, some clause.kind⟩ :: (leavesOfAll (some clause.kind) items ++
      clause.leavesOf name)).IsChain (Spaced source holds) := by
    rw [List.cons_append, leavesOfAll, leavesOfAll_append, leavesOfAll, leavesOfAll,
      List.append_nil] at spaced
    rwa [← List.singleton_append, ← keywordLeaf]
  obtain ⟨before, between, after, token, isPart, text, nonempty, all, tokens⟩ :=
    tokens_of_clause below lists.inOrder children ordinary keywordLeaf isKeyword
      (reads.keyword keyword isHead) passable (contiguous name (by simp [children]) isName) reads.joined
      chain
  exact ⟨keyword, isHead, before, between, after, token, isPart, text, nonempty, all, isKeyword,
    tokens⟩

/-- The first name of a base clause is reported at the line of its keyword. -/
theorem exists_extension_of_clause (lists : source.ListsNames) (below : clause ∈ source.root.subtrees)
    (isBase : clause.kind = "base_clause") {name : Node}
    (first : clause.children.find? isName = some name) (reads : source.ReadsFirst clause name)
    (named : (View.ofTokens source.tokens target).resolvesToTarget (source.nodeText name) = true) :
    ∃ keyword ∈ clause.children.head?, ∃ record ∈ source.usages target [.extension],
      record.line = .int (source.startLine keyword) := by
  obtain ⟨readsName, comments, blanks⟩ := reads
  obtain ⟨isName, front, rest, children, before⟩ := List.find?_eq_some_iff_append.mp first
  have opens : clause.opening = front := by
    rw [opening, children, List.takeWhile_append_of_pos before,
      List.takeWhile_cons_of_neg (by simp [isName]), List.append_nil]
  rw [opens] at readsName comments blanks
  have isWord : clauseWord? clause.kind = some .extendsWord := by rw [isBase]; rfl
  obtain ⟨keyword, isHead, _, _, _, token, isPart, text, nonempty, trivia, isKeyword, tokens⟩ :=
    exists_tokens_of_name lists below isWord children isName readsName
      (fun item member isItem => by simpa [isItem] using before item member)
      (fun item member _ leaf isLeaf => isTrivia_of_comment (comments item member) isLeaf)
      (blanks.imp fun _ _ => spaced_of_onlyBlanks)
  refine ⟨keyword, isHead, ?_⟩
  rw [← text] at named
  exact exists_extension tokens (Token.sparse_tokens source) isKeyword trivia isPart nonempty named

/-- A name of an interface clause is reported at the line of its keyword. -/
theorem exists_implementation_of_clause (lists : source.ListsNames)
    (below : clause ∈ source.root.subtrees) (isList : clause.kind = "class_interface_clause")
    {name : Node} {front rest : List Node} (children : clause.children = front ++ name :: rest)
    (isName : name.isName = true) (reads : source.ReadsName clause front name)
    (named : (View.ofTokens source.tokens target).resolvesToTarget (source.nodeText name) = true) :
    ∃ keyword ∈ clause.children.head?, ∃ record ∈ source.usages target [.implementation],
      record.line = .int (source.startLine keyword) := by
  have isWord : clauseWord? clause.kind = some .implementsWord := by rw [isList]; rfl
  have spaced : ∀ leaf next, Spaced source (Place.endsInterfaces · = false) leaf next :=
    fun _ _ _ _ => not_endsInterfaces_ofGap _ _
  obtain ⟨keyword, isHead, _, _, _, token, isPart, text, _, goesOn, isKeyword, tokens⟩ :=
    exists_tokens_of_name lists below isWord children isName reads
      (fun _ _ _ _ => Place.not_endsInterfaces_of_isNamePart)
      (fun _ _ isSign _ => not_endsInterfaces_of_sign (ordinary_of_clauseWord? isWord) isSign)
      (List.pairwise_of_forall spaced).isChain
  refine ⟨keyword, isHead, ?_⟩
  rw [← text] at named
  exact exists_implementation tokens (Token.sparse_tokens source) isKeyword goesOn isPart named

end Clause

/-- Whether a clause stands in the header of a declaration. -/
def HasClause (source : Source) (file : String) (found : Declaration) (clause : Node) : Prop :=
  ∃ node ∈ source.root.subtrees, (source.reader file).ReadsAt node found ∧ clause ∈ node.namedChildren

theorem HasClause.mem_subtrees {source : Source} {file : String} {found : Declaration} {clause : Node}
    (has : source.HasClause file found clause) : clause ∈ source.root.subtrees := by
  obtain ⟨node, below, -, child⟩ := has
  exact mem_subtrees_of_mem_children below (List.mem_of_mem_filter child)

/-- Whether the parent of a declaration is reported as its usage, at the line of its keyword. -/
def ReportsParent (source : Source) (file : String) (found : Declaration) (parent : String) : Prop :=
  ∃ clause, source.HasClause file found clause ∧ clause.kind = "base_clause" ∧
    ∃ keyword ∈ clause.children.head?, ∃ record ∈ source.usages parent [.extension],
      record.line = .int (source.startLine keyword)

/-- Whether an interface of a declaration is reported as its usage, at the line of its keyword. -/
def ReportsInterface (source : Source) (file : String) (found : Declaration) (interface : String) :
    Prop :=
  ∃ clause, source.HasClause file found clause ∧ clause.kind = "class_interface_clause" ∧
    ∃ keyword ∈ clause.children.head?, ∃ record ∈ source.usages interface [.implementation],
      record.line = .int (source.startLine keyword)

/-- Whether the parent of a class and the interfaces of a class or enum are reported, if their names
meet a condition. -/
structure Reports (source : Source) (file : String) (found : Declaration)
    (parents interfaces : String → Prop) : Prop where
  parent : found.kind = .classKind → ∀ parent ∈ found.parent, Text.trim parent = parent →
    parents parent → source.ReportsParent file found parent
  interfaces : found.kind = .classKind ∨ found.kind = .enumKind →
    ∀ interface ∈ found.interfaces, Text.trim interface = interface →
    interfaces interface → source.ReportsInterface file found interface

/-- Whether a base clause of a declaration begins with a name for a parent. -/
structure NamesParent (source : Source) (file : String) (found : Declaration) (parent : String)
    (clause name : Node) : Prop where
  has : source.HasClause file found clause
  isBase : clause.kind = "base_clause"
  isFirst : clause.children.find? isName = some name
  resolves : Name.resolve (.ofTokens source.tokens) found.space (source.nodeText name) = parent

/-- Whether an interface clause of a declaration has a name for an interface, after other items. -/
structure NamesInterface (source : Source) (file : String) (found : Declaration) (interface : String)
    (clause : Node) (front : List Node) (name : Node) : Prop where
  has : source.HasClause file found clause
  isList : clause.kind = "class_interface_clause"
  children : ∃ rest, clause.children = front ++ name :: rest
  isName : name.isName = true
  resolves : Name.resolve (.ofTokens source.tokens) found.space (source.nodeText name) = interface

/-- Whether a parent is read as it stands in a base clause of a declaration that begins with it, if there
is one. -/
def ReadsParent (source : Source) (file : String) (found : Declaration) (parent : String) : Prop :=
  (∃ clause name, source.NamesParent file found parent clause name) →
    ∃ clause name, source.NamesParent file found parent clause name ∧ source.ReadsFirst clause name

/-- Whether an interface is read as it stands at a place where an interface clause of a declaration names
it, if there is one. -/
def ReadsInterface (source : Source) (file : String) (found : Declaration) (interface : String) : Prop :=
  (∃ clause front name, source.NamesInterface file found interface clause front name) →
    ∃ clause front name, source.NamesInterface file found interface clause front name ∧
      source.ReadsName clause front name

/-- The shape of a source that encodes a text can be checked with the offsets between the characters of
the text. -/
theorem ListsNames.of_encode {source : Source} {content : String}
    (encoded : source.bytes = Utf8.encode content) (nested : source.root.isNested = true)
    (within : source.root.label.stop ≤ source.bytes.length)
    (clauses : ∀ clause ∈ source.root.subtrees, ∀ word ∈ clauseWord? clause.kind,
      clause.isClause word.spelling = true)
    (names : ∀ node ∈ source.root.subtrees, ∀ name ∈ node.children, name.isName = true →
      ((node.leavesOf name).IsChain fun leaf next => leaf.label.stop = next.label.start) ∧
        ∀ leaf ∈ node.leavesOf name,
          Utf8.IsBoundary content leaf.label.start ∧ Utf8.IsBoundary content leaf.label.stop) :
    source.ListsNames := by
  refine ⟨nested, within, clauses, fun node below name child isName => ?_⟩
  obtain ⟨follows, boundaries⟩ := names node below name child isName
  exact ⟨follows, fun leaf member => ⟨isBoundary_of_encode encoded (boundaries leaf member).1,
    isBoundary_of_encode encoded (boundaries leaf member).2⟩⟩

/-- A file that holds one class, with the end of its name, the clauses of its header, and a body in its
last two bytes. -/
structure ClassFile where
  content : String
  nameStop : Nat
  clauses : List Node

namespace ClassFile

/-- A node without children. -/
def leaf (kind : String) (start stop : Nat) : Node := .mk ⟨kind, true, "", start, stop⟩ []

/-- A header with one base clause. -/
def extending (content : String) (nameStop stop : Nat) (items : List Node) : ClassFile where
  content := content
  nameStop := nameStop
  clauses := [.mk ⟨"base_clause", true, "", 8, stop⟩ (leaf "extends" 8 15 :: items)]

/-- The source of a file. -/
def source (file : ClassFile) : Source :=
  let size := (Utf8.encode file.content).length
  { bytes := Utf8.encode file.content
    root := .mk ⟨"program", true, "", 0, size⟩
      [.mk ⟨"class_declaration", true, "", 0, size⟩
        (leaf "class" 0 5 :: .mk ⟨"name", true, "name", 6, file.nameStop⟩ [] :: file.clauses ++
          [.mk ⟨"declaration_list", true, "body", size - 2, size⟩
            [leaf "\x7b" (size - 2) (size - 1), leaf "\x7d" (size - 1) size]])] }

end ClassFile

section Family

open ClassFile

/-- A class that lacks the name of its interface, and a class with a parent and two interfaces. -/
def family : Source where
  bytes := Utf8.encode "class D implements\x7b\x7dclass E extends Pé\nimplements Q, \\R\x7b\x7d"
  root := .mk ⟨"program", true, "", 0, 58⟩ [
    .mk ⟨"class_declaration", true, "", 0, 20⟩ [
      leaf "class" 0 5, .mk ⟨"name", true, "name", 6, 7⟩ [],
      .mk ⟨"class_interface_clause", true, "", 8, 18⟩ [leaf "implements" 8 18, leaf "name" 18 18],
      .mk ⟨"declaration_list", true, "body", 18, 20⟩ [leaf "\x7b" 18 19, leaf "\x7d" 19 20]],
    .mk ⟨"class_declaration", true, "", 20, 58⟩ [
      leaf "class" 20 25, .mk ⟨"name", true, "name", 26, 27⟩ [],
      .mk ⟨"base_clause", true, "", 28, 39⟩ [leaf "extends" 28 35, leaf "name" 36 39],
      .mk ⟨"class_interface_clause", true, "", 40, 56⟩
        [leaf "implements" 40 50, leaf "name" 51 52, leaf "," 52 53,
          .mk ⟨"qualified_name", true, "", 54, 56⟩ [leaf "\\" 54 55, leaf "name" 55 56]],
      .mk ⟨"declaration_list", true, "body", 56, 58⟩ [leaf "\x7b" 56 57, leaf "\x7d" 57 58]]]

theorem family_readsName {interface : String} (isOwn : interface = "Q" ∨ interface = "R")
    {clause : Node} (below : clause ∈ family.root.subtrees) {front rest : List Node} {name : Node}
    (children : clause.children = front ++ name :: rest) (isName : name.isName = true)
    (resolves : Name.resolve (.ofTokens family.tokens) "" (family.nodeText name) = interface) :
    family.ReadsName clause front name := by
  have checked : ∀ clause ∈ family.root.subtrees, ∀ index < clause.children.length,
      ∀ name ∈ clause.children[index]?, name.isName = true →
        Name.resolve (.ofTokens family.tokens) "" (family.nodeText name) ∈ ["Q", "R"] →
          family.ReadsName clause (clause.children.take index) name := by
    decide +kernel
  have reads := checked clause below front.length (by simp [children]) name (by simp [children]) isName
    (by simpa [resolves] using isOwn)
  rwa [children, List.take_left] at reads

end Family

/-- Headers with a name that is not reported: it covers no bytes, a comment stands in it, its leaves do
not reach its end, its leaf is no part of a name, it touches another name, its keyword is joined to the
name of the class, a comma stands before it, or something that is not blank does. -/
def ClassFile.unreported : List ClassFile := [
  { content := "class D implements\x7b\x7d"
    nameStop := 7
    clauses := [.mk ⟨"class_interface_clause", true, "", 8, 18⟩
      [leaf "implements" 8 18, leaf "name" 18 18]] },
  .extending "class D extends A/**/B\x7b\x7d" 7 22 [.mk ⟨"qualified_name", true, "", 16, 22⟩
    [leaf "name" 16 17, leaf "comment" 17 21, leaf "name" 21 22]],
  .extending "class D extends PQ\x7b\x7d" 7 18 [.mk ⟨"name", true, "", 16, 18⟩ [leaf "name" 16 17]],
  .extending "class D extends P\x7b\x7d" 7 17 [leaf "qualified_name" 16 17],
  .extending "class D extends PQ\x7b\x7d" 7 18 [leaf "name" 16 17, leaf "name" 17 18],
  .extending "class D\\extends P\x7b\x7d" 8 17 [leaf "name" 16 17],
  .extending "class D extends ,P\x7b\x7d" 7 18 [leaf "," 16 17, leaf "name" 17 18],
  .extending "class D extends @ P\x7b\x7d" 7 19 [leaf "name" 18 19]]

end Source

end ClassAtlas
