import ClassAtlas.Tree.Node

/-!
Trees whose ranges are nested.

Children lie inside of their parent, one after the other. The leaves of such a tree follow one another
too, and those of a subtree stand together among them.
-/

namespace ClassAtlas.Node

mutual

/-- Whether children lie inside of their parent, one after the other, in a whole tree. -/
def isNested : Node → Bool
  | .mk label children => areNested label.start label.stop children

/-- Whether trees lie one after the other between two offsets. -/
def areNested (low high : Nat) : List Node → Bool
  | [] => low ≤ high
  | node :: rest => low ≤ node.label.start && node.isNested && areNested node.label.stop high rest

end

mutual

/-- A tree and all trees below it. -/
def subtrees : Node → List Node
  | .mk label children => .mk label children :: subtreesOfAll children

/-- All subtrees of several trees. -/
def subtreesOfAll : List Node → List Node
  | [] => []
  | node :: rest => node.subtrees ++ subtreesOfAll rest

end

theorem mem_subtrees_self (node : Node) : node ∈ node.subtrees := by
  cases node
  rw [subtrees]
  exact List.mem_cons_self

theorem mem_subtreesOfAll {nodes : List Node} {found : Node} :
    found ∈ subtreesOfAll nodes ↔ ∃ node ∈ nodes, found ∈ node.subtrees := by
  induction nodes with
  | nil => simp [subtreesOfAll]
  | cons node rest inductionHypothesis => simp [subtreesOfAll, inductionHypothesis]

theorem mem_subtrees_iff {root found : Node} :
    found ∈ root.subtrees ↔ found = root ∨ ∃ child ∈ root.children, found ∈ child.subtrees := by
  cases root
  rw [subtrees, List.mem_cons, mem_subtreesOfAll]
  rfl

mutual

/-- A subtree of a subtree is a subtree. -/
theorem mem_subtrees_trans (root middle found : Node) (inside : middle ∈ root.subtrees)
    (deeper : found ∈ middle.subtrees) : found ∈ root.subtrees := by
  match root with
  | .mk label children =>
    rw [subtrees] at inside ⊢
    rcases List.mem_cons.mp inside with rfl | below
    · rwa [subtrees] at deeper
    · exact List.mem_cons_of_mem _ (mem_subtreesOfAll_trans children middle found below deeper)

theorem mem_subtreesOfAll_trans (nodes : List Node) (middle found : Node)
    (inside : middle ∈ subtreesOfAll nodes) (deeper : found ∈ middle.subtrees) :
    found ∈ subtreesOfAll nodes := by
  match nodes with
  | [] => simp [subtreesOfAll] at inside
  | node :: rest =>
    rw [subtreesOfAll] at inside ⊢
    rcases List.mem_append.mp inside with here | later
    · exact List.mem_append_left _ (mem_subtrees_trans node middle found here deeper)
    · exact List.mem_append_right _ (mem_subtreesOfAll_trans rest middle found later deeper)

end

theorem mem_subtrees_of_mem_children {root node child : Node} (inside : node ∈ root.subtrees)
    (member : child ∈ node.children) : child ∈ root.subtrees :=
  mem_subtrees_trans root node child inside
    (mem_subtrees_iff.mpr (.inr ⟨child, member, mem_subtrees_self child⟩))

theorem leavesOfAll_append (parentKind : Option String) (front back : List Node) :
    leavesOfAll parentKind (front ++ back) =
      leavesOfAll parentKind front ++ leavesOfAll parentKind back := by
  induction front with
  | nil => simp [leavesOfAll]
  | cons node rest inductionHypothesis => simp [leavesOfAll, inductionHypothesis]

/-- The leaves of a tree with children are those of its children. -/
theorem leavesUnder_of_children {node : Node} (inner : node.children ≠ [])
    (parentKind : Option String) : leavesUnder parentKind node = leavesOfAll (some node.kind) node.children := by
  cases node with
  | mk label children =>
    cases children with
    | nil => exact absurd rfl inner
    | cons child rest => rw [leavesUnder]; rfl

mutual

/-- The leaves of a subtree stand together among the leaves of the tree. -/
theorem leavesUnder_isInfix (parentKind : Option String) (root node : Node)
    (inside : node ∈ root.subtrees) :
    ∃ kind, leavesUnder kind node <:+: leavesUnder parentKind root := by
  match root with
  | .mk label [] =>
    simp only [subtrees, subtreesOfAll, List.mem_singleton] at inside
    subst inside
    exact ⟨parentKind, List.infix_rfl⟩
  | .mk label (child :: rest) =>
    rw [subtrees] at inside
    rcases List.mem_cons.mp inside with rfl | below
    · exact ⟨parentKind, List.infix_rfl⟩
    · rw [leavesUnder]
      exact leavesOfAll_isInfix (some label.kind) (child :: rest) node below

theorem leavesOfAll_isInfix (parentKind : Option String) (nodes : List Node) (node : Node)
    (inside : node ∈ subtreesOfAll nodes) :
    ∃ kind, leavesUnder kind node <:+: leavesOfAll parentKind nodes := by
  match nodes with
  | [] => simp [subtreesOfAll] at inside
  | first :: rest =>
    rw [subtreesOfAll] at inside
    rw [leavesOfAll]
    rcases List.mem_append.mp inside with here | later
    · obtain ⟨kind, found⟩ := leavesUnder_isInfix parentKind first node here
      exact ⟨kind, found.trans (List.prefix_append _ _).isInfix⟩
    · obtain ⟨kind, found⟩ := leavesOfAll_isInfix parentKind rest node later
      exact ⟨kind, found.trans (List.suffix_append _ _).isInfix⟩

end

/-- Whether leaves lie between two offsets, one after the other. -/
structure Leaf.InOrder (low high : Nat) (leaves : List Leaf) : Prop where
  within : ∀ leaf ∈ leaves, low ≤ leaf.label.start ∧ leaf.label.stop ≤ high
  pairwise : leaves.Pairwise fun leaf next => leaf.label.stop ≤ next.label.start

mutual

/-- The leaves of a nested tree follow one another inside of it. -/
theorem leavesUnder_inOrder (parentKind : Option String) (node : Node)
    (nested : node.isNested = true) :
    Leaf.InOrder node.label.start node.label.stop (leavesUnder parentKind node) ∧
      node.label.start ≤ node.label.stop := by
  match node with
  | .mk label [] =>
    simp only [isNested, areNested, decide_eq_true_eq] at nested
    refine ⟨?_, nested⟩
    rw [leavesUnder]
    split
    · exact ⟨by simp [Node.label], by simp⟩
    · exact ⟨by simp, by simp⟩
  | .mk label (child :: rest) =>
    rw [isNested] at nested
    rw [leavesUnder]
    exact leavesOfAll_inOrder (some label.kind) (child :: rest) label.start label.stop nested

theorem leavesOfAll_inOrder (parentKind : Option String) (nodes : List Node) (low high : Nat)
    (nested : areNested low high nodes = true) :
    Leaf.InOrder low high (leavesOfAll parentKind nodes) ∧ low ≤ high := by
  match nodes with
  | [] =>
    simp only [areNested, decide_eq_true_eq] at nested
    exact ⟨⟨by simp [leavesOfAll], by simp [leavesOfAll]⟩, nested⟩
  | node :: rest =>
    simp only [areNested, Bool.and_eq_true, decide_eq_true_eq] at nested
    obtain ⟨⟨begins, inner⟩, later⟩ := nested
    obtain ⟨front, sized⟩ := leavesUnder_inOrder parentKind node inner
    obtain ⟨back, left⟩ := leavesOfAll_inOrder parentKind rest node.label.stop high later
    refine ⟨⟨?_, ?_⟩, by omega⟩
    · intro leaf member
      rw [leavesOfAll] at member
      rcases List.mem_append.mp member with here | there
      · have bounds := front.within leaf here
        omega
      · have bounds := back.within leaf there
        omega
    · rw [leavesOfAll, List.pairwise_append]
      refine ⟨front.pairwise, back.pairwise, ?_⟩
      intro leaf here next there
      have ends := (front.within leaf here).2
      have starts := (back.within next there).1
      omega

end

end ClassAtlas.Node

namespace ClassAtlas

/-- The leaves of a nested tree that lies inside of its source follow one another there. -/
theorem Source.leaves_inOrder {source : Source} (nested : source.root.isNested = true)
    (within : source.root.label.stop ≤ source.bytes.length) :
    Node.Leaf.InOrder 0 source.bytes.length source.root.leaves := by
  obtain ⟨inRoot, -⟩ := Node.leavesUnder_inOrder none source.root nested
  refine ⟨fun leaf member => ⟨Nat.zero_le _, ?_⟩, inRoot.pairwise⟩
  exact Nat.le_trans (inRoot.within leaf member).2 within

end ClassAtlas
