import ClassAtlas.Declaration.Reader
import ClassAtlas.Proofs.Tree.Nested

/-!
Where the parents and interfaces of a declaration come from.

Every declaration of a file is read from one node of its tree. Members do not change its header, so its
parent is the first name of one of its base clauses, and its interfaces are names of its interface
clauses.
-/

namespace ClassAtlas

namespace DeclarationReader

variable {reader : DeclarationReader}

/-- Members leave the header of a declaration as it is. -/
theorem foldl_addMember_header (reader : DeclarationReader) (members : List (Option Node × Node))
    (owner : Declaration) :
    let read := members.foldl reader.addMember owner
    read.space = owner.space ∧ read.kind = owner.kind ∧ read.parent = owner.parent ∧
      read.interfaces = owner.interfaces := by
  induction members generalizing owner with
  | nil => exact ⟨rfl, rfl, rfl, rfl⟩
  | cons placed rest inductionHypothesis =>
    have one : (reader.addMember owner placed).space = owner.space ∧
        (reader.addMember owner placed).kind = owner.kind ∧
        (reader.addMember owner placed).parent = owner.parent ∧
        (reader.addMember owner placed).interfaces = owner.interfaces := by
      simp only [addMember]
      repeat' split
      all_goals exact ⟨rfl, rfl, rfl, rfl⟩
    have later := inductionHypothesis (reader.addMember owner placed)
    rw [List.foldl_cons]
    simp only [one] at later
    exact later

/-- What is known of a declaration that is no interface once some clauses of its header are read: its
parent starts a base clause, and its interfaces stand in interface clauses. -/
structure FromClauses (reader : DeclarationReader) (clauses : List Node) (owner : Declaration) :
    Prop where
  parent : ∀ parent, owner.parent = some parent → ∃ clause ∈ clauses, clause.kind = "base_clause" ∧
    (reader.namesIn owner.space clause).head? = some parent
  interfaces : ∀ name ∈ owner.interfaces, ∃ clause ∈ clauses,
    clause.kind = "class_interface_clause" ∧ name ∈ reader.namesIn owner.space clause

theorem addClause_header (reader : DeclarationReader) (owner : Declaration) (clause : Node) :
    (reader.addClause owner clause).space = owner.space ∧
      (reader.addClause owner clause).kind = owner.kind := by
  simp only [addClause]
  repeat' split
  all_goals exact ⟨rfl, rfl⟩

/-- One more clause adds its names. -/
theorem FromClauses.addClause {clauses : List Node} {owner : Declaration}
    (read : FromClauses reader clauses owner) (notInterface : owner.kind ≠ .interfaceKind)
    {clause : Node} (listed : clause ∈ clauses) :
    FromClauses reader clauses (reader.addClause owner clause) := by
  have plain : owner.isInterface = false := by simpa [Declaration.isInterface] using notInterface
  rw [DeclarationReader.addClause]
  split
  case isTrue isBase =>
    simp only [plain, Bool.false_eq_true, if_false]
    split
    · exact read
    case h_2 base others bases =>
      refine ⟨fun parent named => ?_, read.interfaces⟩
      refine ⟨clause, listed, by simpa using isBase, ?_⟩
      rw [bases]
      exact named
  case isFalse =>
    split
    case isTrue isInterfaces =>
      refine ⟨read.parent, fun name member => ?_⟩
      rcases List.mem_append.mp member with earlier | new
      · exact read.interfaces name earlier
      · exact ⟨clause, listed, by simpa using isInterfaces, new⟩
    case isFalse => exact read

theorem FromClauses.foldl {clauses : List Node} {owner : Declaration}
    (read : FromClauses reader clauses owner) (notInterface : owner.kind ≠ .interfaceKind)
    {more : List Node} (listed : more ⊆ clauses) :
    FromClauses reader clauses (more.foldl reader.addClause owner) := by
  induction more generalizing owner with
  | nil => exact read
  | cons clause rest inductionHypothesis =>
    rw [List.cons_subset] at listed
    refine inductionHypothesis (read.addClause notInterface listed.1) ?_ listed.2
    rwa [(addClause_header reader owner clause).2]

theorem foldl_addClause_header (reader : DeclarationReader) (clauses : List Node)
    (owner : Declaration) :
    (clauses.foldl reader.addClause owner).space = owner.space ∧
      (clauses.foldl reader.addClause owner).kind = owner.kind := by
  induction clauses generalizing owner with
  | nil => exact ⟨rfl, rfl⟩
  | cons clause rest inductionHypothesis =>
    have one := addClause_header reader owner clause
    have later := inductionHypothesis (reader.addClause owner clause)
    rw [one.1, one.2] at later
    exact later

/-- What a header has, and what clauses and members keep, every declaration has that is read. -/
theorem declaration?_keeps {holds : Declaration → Prop} {space : String} {kind : DeclarationKind}
    {previous : Option Node} {node : Node} {found : Declaration}
    (read : reader.declaration? space kind previous node = some found)
    (begins : holds (reader.header space kind previous node))
    (clause : ∀ owner clause, holds owner → holds (reader.addClause owner clause))
    (member : ∀ owner member, holds owner → holds (reader.addMember owner member)) : holds found := by
  have headed := List.foldlRecOn node.namedChildren reader.addClause begins
    fun owner kept child _ => clause owner child kept
  simp only [declaration?] at read
  split at read
  · cases read
  split at read
  · cases read
    exact headed
  · cases read
    exact List.foldlRecOn _ reader.addMember headed fun owner kept placed _ => member owner placed kept

/-- Whether a declaration is read at a node. -/
def ReadsAt (reader : DeclarationReader) (node : Node) (found : Declaration) : Prop :=
  ∃ space kind before, kindOf? node.kind = some kind ∧
    reader.declaration? space kind before node = some found

/-- The declaration that is read at a node takes its parent and interfaces from the clauses there. -/
theorem ReadsAt.fromClauses {node : Node} {found : Declaration} (reads : reader.ReadsAt node found)
    (notInterface : found.kind ≠ .interfaceKind) : FromClauses reader node.namedChildren found := by
  obtain ⟨space, kind, previous, -, read⟩ := reads
  have begins : FromClauses reader node.namedChildren (reader.header space kind previous node) :=
    ⟨by simp [header], by simp [header]⟩
  have headed := foldl_addClause_header reader node.namedChildren
    (reader.header space kind previous node)
  simp only [declaration?] at read
  split at read
  case isTrue => cases read
  case isFalse =>
    have kept : found.space = space ∧ found.kind = kind ∧
        found.parent = (node.namedChildren.foldl reader.addClause
          (reader.header space kind previous node)).parent ∧
        found.interfaces = (node.namedChildren.foldl reader.addClause
          (reader.header space kind previous node)).interfaces := by
      split at read
      · cases read
        exact ⟨headed.1, headed.2, rfl, rfl⟩
      case h_2 body _ =>
        cases read
        have members := foldl_addMember_header reader body.namedWithPrevious
          (node.namedChildren.foldl reader.addClause (reader.header space kind previous node))
        exact ⟨members.1.trans headed.1, members.2.1.trans headed.2, members.2.2⟩
    obtain ⟨inSpace, ofKind, parent, interfaces⟩ := kept
    have clauses := begins.foldl (by rwa [ofKind] at notInterface) (List.Subset.refl _)
    have sameSpace := headed.1.trans inSpace.symm
    refine ⟨?_, ?_⟩
    · intro name named
      rw [← sameSpace]
      exact clauses.parent name (parent ▸ named)
    · intro name member
      rw [← sameSpace]
      exact clauses.interfaces name (interfaces ▸ member)

mutual

/-- Every declaration found in a tree is read at one of its nodes. -/
theorem exists_of_mem_declarationsIn (space : String) (previous : Option Node) (root : Node)
    (found : Declaration) (listed : found ∈ reader.declarationsIn space previous root) :
    ∃ node ∈ root.subtrees, reader.ReadsAt node found := by
  match root with
  | .mk label children =>
    rw [declarationsIn] at listed
    split at listed
    case h_1 kind isKind =>
      exact ⟨_, Node.mem_subtrees_self _, space, kind, previous, isKind, Option.mem_toList.mp listed⟩
    case h_2 =>
      obtain ⟨node, below, read⟩ := exists_of_mem_declarationsAmong space none children found listed
      refine ⟨node, ?_, read⟩
      rw [Node.subtrees]
      exact List.mem_cons_of_mem _ below

theorem exists_of_mem_declarationsAmong (space : String) (previous : Option Node) (nodes : List Node)
    (found : Declaration) (listed : found ∈ reader.declarationsAmong space previous nodes) :
    ∃ node ∈ Node.subtreesOfAll nodes, reader.ReadsAt node found := by
  match nodes with
  | [] => simp [declarationsAmong] at listed
  | first :: rest =>
    rw [declarationsAmong] at listed
    rw [Node.subtreesOfAll]
    rcases List.mem_append.mp listed with here | later
    · split at here
      · obtain ⟨node, below, read⟩ := exists_of_mem_declarationsIn space previous first found here
        exact ⟨node, List.mem_append_left _ below, read⟩
      · cases here
    · obtain ⟨node, below, read⟩ :=
        exists_of_mem_declarationsAmong space (some first) rest found later
      exact ⟨node, List.mem_append_right _ below, read⟩

end

theorem mem_of_mem_withPrevious {previous : Option Node} {nodes : List Node}
    {placed : Option Node × Node} (member : placed ∈ Node.withPrevious previous nodes) :
    placed.2 ∈ nodes := by
  induction nodes generalizing previous with
  | nil => cases member
  | cons node rest inductionHypothesis =>
    rcases List.mem_cons.mp member with rfl | later
    · exact List.mem_cons_self
    · exact List.mem_cons_of_mem node (inductionHypothesis later)

theorem exists_of_mem_topLevel {space : String} {placed : Option Node × Node} {found : Declaration}
    (listed : found ∈ (reader.topLevel space placed).2) :
    ∃ node ∈ placed.2.subtrees, reader.ReadsAt node found := by
  simp only [topLevel] at listed
  split at listed
  case isTrue =>
    split at listed
    case h_1 before body filled =>
      obtain ⟨node, below, read⟩ := exists_of_mem_declarationsIn _ before body found listed
      have child := mem_of_mem_withPrevious (List.mem_of_find?_eq_some filled)
      exact ⟨node, Node.mem_subtrees_iff.mpr (.inr ⟨body, child, below⟩), read⟩
    case h_2 => cases listed
  case isFalse =>
    exact exists_of_mem_declarationsIn space placed.1 placed.2 found listed

theorem exists_of_mem_collect {space : String} {placed : List (Option Node × Node)}
    {found : Declaration} (listed : found ∈ reader.collect space placed) :
    ∃ root ∈ placed, ∃ node ∈ root.2.subtrees, reader.ReadsAt node found := by
  induction placed generalizing space with
  | nil => cases listed
  | cons first rest inductionHypothesis =>
    simp only [collect] at listed
    rcases List.mem_append.mp listed with here | later
    · exact ⟨first, List.mem_cons_self, exists_of_mem_topLevel here⟩
    · obtain ⟨root, member, read⟩ := inductionHypothesis later
      exact ⟨root, List.mem_cons_of_mem first member, read⟩

end DeclarationReader

/-- The reader of the declarations of a source. -/
def Source.reader (source : Source) (file : String) : DeclarationReader :=
  ⟨source, file, .ofTokens source.tokens⟩

/-- Every declaration of a source is read at a node of its tree. -/
theorem Source.exists_of_mem_declarations {source : Source} {file : String} {found : Declaration}
    (listed : found ∈ source.declarations file) :
    ∃ node ∈ source.root.subtrees, (source.reader file).ReadsAt node found := by
  obtain ⟨placed, member, node, below, read⟩ := DeclarationReader.exists_of_mem_collect listed
  have child := DeclarationReader.mem_of_mem_withPrevious (List.mem_filter.mp member).1
  exact ⟨node, Node.mem_subtrees_iff.mpr (.inr ⟨placed.2, child, below⟩), read⟩

end ClassAtlas
