import ClassAtlas.Proofs.Declaration.Outermost
import ClassAtlas.Proofs.Index.Orderly

/-!
How many classes can still be met.

What is registered is declared in a file of the tree, and a file declares no more classes than its syntax
tree has nodes. So whoever meets classes one after the other, and none of them twice, comes to an end
after as many classes as there are nodes.
-/

namespace ClassAtlas

namespace Node

theorem size_le_sizeOfAll {node : Node} {nodes : List Node} (member : node ∈ nodes) :
    node.size ≤ sizeOfAll nodes := by
  induction nodes with
  | nil => cases member
  | cons first rest inductionHypothesis =>
    rw [sizeOfAll]
    rcases List.mem_cons.mp member with rfl | later
    · exact Nat.le_add_right _ _
    · exact Nat.le_add_left_of_le (inductionHypothesis later)

theorem sizeOfAll_filter_le (holds : Node → Bool) (nodes : List Node) :
    sizeOfAll (nodes.filter holds) ≤ sizeOfAll nodes := by
  induction nodes with
  | nil => exact Nat.le_refl _
  | cons node rest inductionHypothesis =>
    rw [List.filter_cons]
    split
    · exact Nat.add_le_add_left inductionHypothesis node.size
    · exact Nat.le_add_left_of_le inductionHypothesis

end Node

namespace DeclarationReader

variable {reader : DeclarationReader}

mutual

theorem length_declarationsIn_le (space : String) (previous : Option Node) (node : Node) :
    (reader.declarationsIn space previous node).length ≤ node.size := by
  match node with
  | .mk label children =>
    rw [declarationsIn, Node.size]
    cases kindOf? label.kind with
    | none => exact Nat.le_succ_of_le (length_declarationsAmong_le space none children)
    | some kind =>
      have one : ∀ found : Option Declaration, found.toList.length ≤ 1 := by
        rintro (- | found) <;> simp
      exact Nat.le_add_left_of_le (one _)

theorem length_declarationsAmong_le (space : String) (previous : Option Node) (nodes : List Node) :
    (reader.declarationsAmong space previous nodes).length ≤ Node.sizeOfAll nodes := by
  match nodes with
  | [] => exact Nat.le_refl _
  | node :: rest =>
    rw [declarationsAmong, Node.sizeOfAll, List.length_append]
    refine Nat.add_le_add ?_ (length_declarationsAmong_le space (some node) rest)
    split
    · exact length_declarationsIn_le space previous node
    · exact Nat.zero_le _

end

theorem length_topLevel_le (space : String) (placed : Option Node × Node) :
    (reader.topLevel space placed).2.length ≤ placed.2.size := by
  obtain ⟨previous, node⟩ := placed
  rw [topLevel]
  dsimp only
  split
  case isTrue =>
    split
    case h_1 before body filled =>
      have child := mem_of_mem_withPrevious (List.mem_of_find?_eq_some filled)
      obtain ⟨label, children⟩ := node
      calc (reader.declarationsIn _ before body).length
          ≤ body.size := length_declarationsIn_le _ before body
        _ ≤ Node.sizeOfAll children := Node.size_le_sizeOfAll child
        _ ≤ (Node.mk label children).size := Nat.le_succ _
    case h_2 => exact Nat.zero_le _
  case isFalse => exact length_declarationsIn_le space previous node

theorem length_collect_le (space : String) (placed : List (Option Node × Node)) :
    (reader.collect space placed).length ≤ Node.sizeOfAll (placed.map (·.2)) := by
  induction placed generalizing space with
  | nil => exact Nat.le_refl _
  | cons first rest inductionHypothesis =>
    rw [collect, List.length_append, List.map_cons, Node.sizeOfAll]
    exact Nat.add_le_add (length_topLevel_le space first) (inductionHypothesis _)

/-- The name that is read at a site. -/
def nameAt (reader : DeclarationReader) (site : Site) : String :=
  Name.inside site.space (reader.fieldText site.node "name")

theorem map_name_of_readsSite {sites : List Site} {found : List Declaration}
    (read : List.Forall₂ reader.ReadsSite sites found) : found.map (·.name) = sites.map reader.nameAt := by
  induction read with
  | nil => rfl
  | cons here _ inductionHypothesis =>
    rw [List.map_cons, List.map_cons, inductionHypothesis, here.name]
    rfl

end DeclarationReader

namespace Source

/-- A source declares no more classes than its syntax tree has nodes. -/
theorem length_declarations_le (source : Source) (file : String) :
    (source.declarations file).length ≤ source.root.size := by
  have bound : (source.declarations file).length ≤
      Node.sizeOfAll (source.root.namedWithPrevious.map (·.2)) :=
    DeclarationReader.length_collect_le "" source.root.namedWithPrevious
  have named : source.root.namedWithPrevious.map (·.2) = source.root.namedChildren := by
    have whole := Node.withPrevious_map_snd none source.root.children
    rw [Node.namedWithPrevious, Node.namedChildren]
    conv_rhs => rw [← whole, List.filter_map]
    rfl
  rw [named] at bound
  obtain ⟨bytes, label, children⟩ := source
  calc _ ≤ Node.sizeOfAll (children.filter (·.label.named)) := bound
    _ ≤ Node.sizeOfAll children := Node.sizeOfAll_filter_le _ children
    _ ≤ (Node.mk label children).size := Nat.le_succ _

theorem map_name_declarations (source : Source) (file : String) :
    (source.declarations file).map (·.name) =
      ((source.reader file).outermost source.root).map (source.reader file).nameAt := by
  have whole : source.declarations file =
      ((source.reader file).sites source.root).filterMap (source.reader file).read? :=
    (source.reader file).collect_eq [] source.root.children
  rw [whole]
  refine DeclarationReader.map_name_of_readsSite (DeclarationReader.forall₂_filterMap_read? ?_)
  exact fun site member => (DeclarationReader.mem_sites.mp member).1

/-- The keys of the classes of a source. -/
def keys (source : Source) : List String := (source.declarations "").map (Name.key ·.name)

/-- The keys do not depend on where the source is found. -/
theorem map_key_declarations (source : Source) (file : String) :
    (source.declarations file).map (Name.key ·.name) = source.keys := by
  have same : (source.declarations file).map (·.name) = (source.declarations "").map (·.name) := by
    rw [map_name_declarations, map_name_declarations]
    rfl
  have keys := congrArg (List.map Name.key) same
  rwa [List.map_map, List.map_map] at keys

end Source

namespace FileTree

variable {tree : FileTree} {met later : List String} {key : String}

/-- The keys of the classes of all files. -/
def keys (tree : FileTree) : List String := tree.files.flatMap (·.2.source.keys)

/-- The keys of the classes that have not been met. -/
def unmet (tree : FileTree) (met : List String) : List String := tree.keys.filter (!met.contains ·)

/-- There are no more classes than syntax nodes. -/
theorem length_keys_le (tree : FileTree) : tree.keys.length ≤ tree.nodeCount := by
  rw [keys, nodeCount]
  induction tree.files with
  | nil => exact Nat.le_refl _
  | cons entry rest inductionHypothesis =>
    rw [List.flatMap_cons, List.length_append, List.map_cons, Node.sizeOfAll]
    refine Nat.add_le_add ?_ inductionHypothesis
    rw [Source.keys, List.length_map]
    exact entry.2.source.length_declarations_le ""

theorem length_unmet_le (tree : FileTree) (met : List String) :
    (tree.unmet met).length ≤ tree.nodeCount :=
  Nat.le_trans (List.length_filter_le _ _) tree.length_keys_le

/-- Meeting one more class leaves fewer to be met. -/
theorem length_unmet_lt (declared : key ∈ tree.keys) (new : key ∉ met) (kept : met ⊆ later)
    (isMet : key ∈ later) : (tree.unmet later).length < (tree.unmet met).length := by
  have fewer : (tree.unmet later).Sublist (tree.unmet met) := by
    refine List.monotone_filter_right _ fun other => ?_
    simpa using mt (@kept other)
  refine Nat.lt_of_le_of_ne fewer.length_le fun same => ?_
  have unmet : key ∈ tree.unmet met := List.mem_filter.mpr ⟨declared, by simpa using new⟩
  rw [← fewer.eq_of_length same] at unmet
  have unmetLater := (List.mem_filter.mp unmet).2
  simp [isMet] at unmetLater

end FileTree

namespace ClassIndex

/-- What is registered is declared in a file. -/
theorem Orderly.mem_keys {tree : FileTree} {index : ClassIndex} {key : String} {declaration : Declaration}
    (orderly : index.Orderly tree) (known : index.class? key = some declaration) : key ∈ tree.keys := by
  have isKey := orderly.key_eq known
  rw [orderly.classes] at known
  obtain ⟨entry, entered, member⟩ := List.mem_flatMap.mp (List.mem_of_find?_eq_some known)
  obtain ⟨-, read⟩ := orderly.read entry entered
  rw [FileTree.declarations] at read
  split at read
  · cases read
  split at read
  · cases read
  case h_2 source isRead =>
    obtain ⟨file, listed, rfl⟩ := FileTree.exists_file_of_readSource isRead
    refine List.mem_flatMap.mpr ⟨file, listed, ?_⟩
    rw [← Source.map_key_declarations _ (Path.absolute entry.1).render, Except.ok.inj read]
    exact List.mem_map.mpr ⟨declaration, member, isKey⟩

end ClassIndex

end ClassAtlas
