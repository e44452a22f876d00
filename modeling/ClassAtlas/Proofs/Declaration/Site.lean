import ClassAtlas.Proofs.Declaration.Clauses

/-!
Where declarations stand in a tree.

A walk down a tree follows the children that are grammar symbols and ends at declarations. Its sites come
in the order of their addresses. Where siblings are apart and lie in their parent, they start one after
the other as well.
-/

namespace ClassAtlas

namespace Node

/-- What holds of a tree if it follows from the same for all of its children holds of every tree. -/
@[elab_as_elim]
theorem childInduction {motive : Node → Prop}
    (step : ∀ label children, (∀ child ∈ children, motive child) → motive (.mk label children))
    (node : Node) : motive node := by
  match node with
  | .mk label children => exact step label children fun child _ => childInduction step child
termination_by node
decreasing_by
  have smaller := List.sizeOf_lt_of_mem ‹child ∈ children›
  simp only [mk.sizeOf_spec]
  omega

/-- Whether a node is reached from another one through children that are grammar symbols, without
passing a declaration. Nodes come with the node before them, and the address tells which children lead
from the one to the other. -/
inductive Reaches : Option Node × Node → List Nat → Option Node × Node → Prop
  | here (placed : Option Node × Node) : Reaches placed [] placed
  | child {placed next found : Option Node × Node} {index : Nat} {address : List Nat}
      (plain : DeclarationReader.kindOf? placed.2.kind = none)
      (stands : (withPrevious none placed.2.children)[index]? = some next)
      (named : next.2.label.named = true) (deeper : Reaches next address found) :
      Reaches placed (index :: address) found

theorem reaches_iff {placed found : Option Node × Node} {address : List Nat} :
    Reaches placed address found ↔
      (address = [] ∧ found = placed) ∨
        DeclarationReader.kindOf? placed.2.kind = none ∧ ∃ index rest next, address = index :: rest ∧
          (withPrevious none placed.2.children)[index]? = some next ∧ next.2.label.named = true ∧
          Reaches next rest found := by
  constructor
  · intro reaches
    cases reaches with
    | here => exact .inl ⟨rfl, rfl⟩
    | child plain stands named deeper => exact .inr ⟨plain, _, _, _, rfl, stands, named, deeper⟩
  · rintro (⟨rfl, rfl⟩ | ⟨plain, index, rest, next, rfl, stands, named, deeper⟩)
    · exact .here found
    · exact .child plain stands named deeper

theorem withPrevious_map_snd (previous : Option Node) (nodes : List Node) :
    (withPrevious previous nodes).map (·.2) = nodes := by
  induction nodes generalizing previous with
  | nil => rfl
  | cons node rest inductionHypothesis =>
    rw [withPrevious, List.map_cons, inductionHypothesis]

theorem getElem?_of_withPrevious {previous : Option Node} {nodes : List Node} {index : Nat}
    {placed : Option Node × Node} (stands : (withPrevious previous nodes)[index]? = some placed) :
    nodes[index]? = some placed.2 := by
  have mapped := List.getElem?_map (f := Prod.snd) (l := withPrevious previous nodes) (i := index)
  rwa [withPrevious_map_snd, stands, Option.map_some] at mapped

theorem mem_of_withPrevious {previous : Option Node} {nodes : List Node} {index : Nat}
    {placed : Option Node × Node} (stands : (withPrevious previous nodes)[index]? = some placed) :
    placed.2 ∈ nodes :=
  List.mem_of_getElem? (getElem?_of_withPrevious stands)

/-- Whether the ranges of siblings are never empty and follow one another, in a whole tree. -/
structure SiblingsApart (root : Node) : Prop where
  nonempty : ∀ node ∈ root.subtrees, ∀ child ∈ node.children, child.label.start < child.label.stop
  ordered : ∀ node ∈ root.subtrees,
    node.children.Pairwise fun child next => child.label.stop ≤ next.label.start

/-- Whether children lie inside of their parent, in a whole tree. -/
def Encloses (root : Node) : Prop :=
  ∀ node ∈ root.subtrees, ∀ child ∈ node.children,
    node.label.start ≤ child.label.start ∧ child.label.stop ≤ node.label.stop

instance (root : Node) : Decidable root.Encloses :=
  inferInstanceAs (Decidable (∀ node ∈ root.subtrees, ∀ child ∈ node.children,
    node.label.start ≤ child.label.start ∧ child.label.stop ≤ node.label.stop))

section Ranges

variable {root child : Node}

theorem SiblingsApart.of_mem_children (apart : SiblingsApart root) (member : child ∈ root.children) :
    SiblingsApart child where
  nonempty node inside :=
    apart.nonempty node (mem_subtrees_iff.mpr (.inr ⟨child, member, inside⟩))
  ordered node inside := apart.ordered node (mem_subtrees_iff.mpr (.inr ⟨child, member, inside⟩))

theorem Encloses.of_mem_children (encloses : Encloses root) (member : child ∈ root.children) :
    Encloses child :=
  fun node inside => encloses node (mem_subtrees_iff.mpr (.inr ⟨child, member, inside⟩))

end Ranges

end Node

/-- A node at which a declaration may be read: the children that lead to it, the namespace in force
there, and the node before it. -/
structure Site where
  address : List Nat
  space : String
  previous : Option Node
  node : Node

namespace Site

/-- A site below a child is a site below its parent. -/
def below (index : Nat) (site : Site) : Site := { site with address := index :: site.address }

/-- The byte at which the node of a site starts. -/
def start (site : Site) : Nat := site.node.label.start

/-- The sites below those children that are grammar symbols, given the sites in each of them. -/
def gather (sites : Nat → Option Node × Node → List Site) (nodes : List Node) : List Site :=
  (Node.withPrevious none nodes).zipIdx.flatMap fun placed =>
    if placed.1.2.label.named then (sites placed.2 placed.1).map (below placed.2) else []

/-- Whether sites start one after the other inside of a range. -/
structure StartIn (label : NodeLabel) (sites : List Site) : Prop where
  within : ∀ site ∈ sites, label.start ≤ site.start ∧ site.start < label.stop
  increasing : sites.Pairwise fun first second => first.start < second.start

theorem StartIn.widen {label wider : NodeLabel} {sites : List Site} (inside : StartIn label sites)
    (begins : wider.start ≤ label.start) (ends : label.stop ≤ wider.stop) : StartIn wider sites := by
  refine ⟨fun site member => ?_, inside.increasing⟩
  have bounds := inside.within site member
  exact ⟨Nat.le_trans begins bounds.1, Nat.lt_of_lt_of_le bounds.2 ends⟩

theorem StartIn.below {label : NodeLabel} {sites : List Site} (inside : StartIn label sites)
    (index : Nat) : StartIn label (sites.map (below index)) := by
  refine ⟨fun site member => ?_, List.pairwise_map.mpr inside.increasing⟩
  obtain ⟨inner, found, rfl⟩ := List.mem_map.mp member
  exact inside.within inner found

section Gather

variable {sites : Nat → Option Node × Node → List Site} {nodes : List Node}

theorem mem_gather {site : Site} :
    site ∈ gather sites nodes ↔
      ∃ index placed, (Node.withPrevious none nodes)[index]? = some placed ∧
        placed.2.label.named = true ∧ ∃ inner ∈ sites index placed, inner.below index = site := by
  rw [gather, List.mem_flatMap]
  constructor
  · rintro ⟨⟨placed, index⟩, member, found⟩
    obtain ⟨named, found⟩ := List.mem_ite_nil_right.mp found
    exact ⟨index, placed, List.mk_mem_zipIdx_iff_getElem?.mp member, named, List.mem_map.mp found⟩
  · rintro ⟨index, placed, stands, named, found⟩
    exact ⟨(placed, index), List.mk_mem_zipIdx_iff_getElem?.mpr stands,
      List.mem_ite_nil_right.mpr ⟨named, List.mem_map.mpr found⟩⟩

/-- A relation that holds inside of each child and from child to child holds of all sites. -/
theorem gather_pairwise {holds : Site → Site → Prop}
    (inside : ∀ index placed, (Node.withPrevious none nodes)[index]? = some placed →
      (sites index placed).Pairwise fun first second => holds (first.below index) (second.below index))
    (across : ∀ index placed later other, index < later →
      (Node.withPrevious none nodes)[index]? = some placed →
      (Node.withPrevious none nodes)[later]? = some other →
      ∀ first ∈ sites index placed, ∀ second ∈ sites later other,
        holds (first.below index) (second.below later)) :
    (gather sites nodes).Pairwise holds := by
  rw [gather, List.pairwise_flatMap]
  constructor
  · rintro ⟨placed, index⟩ member
    have stands := List.mk_mem_zipIdx_iff_getElem?.mp member
    split
    · exact List.pairwise_map.mpr (inside index placed stands)
    · exact .nil
  · have ordered : (Node.withPrevious none nodes).zipIdx.Pairwise fun first second =>
        first.2 < second.2 := by
      rw [← List.pairwise_map (f := Prod.snd), List.zipIdx_map_snd]
      exact List.pairwise_lt_range'
    refine ordered.imp_of_mem ?_
    rintro ⟨placed, index⟩ ⟨other, later⟩ member otherMember before first found second otherFound
    obtain ⟨inner, inside, rfl⟩ := List.mem_map.mp (List.mem_ite_nil_right.mp found).2
    obtain ⟨otherInner, otherInside, rfl⟩ := List.mem_map.mp (List.mem_ite_nil_right.mp otherFound).2
    exact across index placed later other before (List.mk_mem_zipIdx_iff_getElem?.mp member)
      (List.mk_mem_zipIdx_iff_getElem?.mp otherMember) inner inside otherInner otherInside

theorem gather_increasing
    (inside : ∀ index placed, (Node.withPrevious none nodes)[index]? = some placed →
      (sites index placed).Pairwise fun first second => first.address < second.address) :
    (gather sites nodes).Pairwise fun first second => first.address < second.address := by
  refine gather_pairwise (fun index placed stands => ?_) ?_
  · exact (inside index placed stands).imp fun before => List.cons_lt_cons_self.mpr before
  · intro index placed later other before _ _ first _ second _
    exact List.cons_lt_cons_iff.mpr (.inl before)

/-- Sites that start inside of their child, in order there, are in order below siblings that are apart. -/
theorem gather_starts (ordered : nodes.Pairwise fun node next => node.label.stop ≤ next.label.start)
    (inside : ∀ index placed, (Node.withPrevious none nodes)[index]? = some placed →
      StartIn placed.2.label (sites index placed)) :
    (gather sites nodes).Pairwise fun first second => first.start < second.start := by
  refine gather_pairwise (fun index placed stands => (inside index placed stands).increasing) ?_
  intro index placed later other before stands laterStands first found second otherFound
  obtain ⟨bound, atNode⟩ := List.getElem?_eq_some_iff.mp (Node.getElem?_of_withPrevious stands)
  obtain ⟨laterBound, laterNode⟩ :=
    List.getElem?_eq_some_iff.mp (Node.getElem?_of_withPrevious laterStands)
  have apart := List.pairwise_iff_getElem.mp ordered index later bound laterBound before
  rw [atNode, laterNode] at apart
  calc first.start
      < placed.2.label.stop := ((inside index placed stands).within first found).2
    _ ≤ other.2.label.start := apart
    _ ≤ second.start := ((inside later other laterStands).within second otherFound).1

end Gather

mutual

/-- The sites that are reached from a tree, given the node before it. -/
def sitesIn (space : String) (previous : Option Node) : Node → List Site
  | .mk label children =>
    match DeclarationReader.kindOf? label.kind with
    | some _ => [⟨[], space, previous, .mk label children⟩]
    | none => sitesAmong space none 0 children

/-- The sites that are reached from the children of a node, given the node before the first of them and
its position. -/
def sitesAmong (space : String) (previous : Option Node) (index : Nat) : List Node → List Site
  | [] => []
  | node :: rest =>
    (if node.label.named then (sitesIn space previous node).map (below index) else []) ++
      sitesAmong space (some node) (index + 1) rest

end

theorem sitesAmong_eq (space : String) (previous : Option Node) (index : Nat) (nodes : List Node) :
    sitesAmong space previous index nodes =
      ((Node.withPrevious previous nodes).zipIdx index).flatMap fun placed =>
        if placed.1.2.label.named then (sitesIn space placed.1.1 placed.1.2).map (below placed.2)
        else [] := by
  induction nodes generalizing previous index with
  | nil => rfl
  | cons node rest inductionHypothesis =>
    rw [sitesAmong, inductionHypothesis, Node.withPrevious, List.zipIdx_cons, List.flatMap_cons]

theorem sitesIn_eq (space : String) (previous : Option Node) (node : Node) :
    sitesIn space previous node =
      if (DeclarationReader.kindOf? node.kind).isSome then [⟨[], space, previous, node⟩]
      else gather (fun _ placed => sitesIn space placed.1 placed.2) node.children := by
  obtain ⟨label, children⟩ := node
  rw [sitesIn, gather, ← sitesAmong_eq]
  change _ = if (DeclarationReader.kindOf? label.kind).isSome then _ else _
  cases DeclarationReader.kindOf? label.kind <;> rfl

/-- The sites in a tree are the declarations that are reached from it. -/
theorem mem_sitesIn {site : Site} {space : String} {previous : Option Node} {node : Node} :
    site ∈ sitesIn space previous node ↔
      site.space = space ∧ (DeclarationReader.kindOf? site.node.kind).isSome = true ∧
        Node.Reaches (previous, node) site.address (site.previous, site.node) := by
  induction node using Node.childInduction generalizing site previous with
  | step label children inductionHypothesis =>
    rw [sitesIn_eq, Node.reaches_iff]
    split
    case isTrue declares =>
      have notPlain : DeclarationReader.kindOf? (Node.mk label children).kind ≠ none :=
        Option.isSome_iff_ne_none.mp declares
      rw [List.mem_singleton]
      constructor
      · rintro rfl
        exact ⟨rfl, declares, .inl ⟨rfl, rfl⟩⟩
      · rintro ⟨rfl, -, ⟨isHere, same⟩ | ⟨plain, -⟩⟩
        · obtain ⟨address, space, before, node⟩ := site
          cases isHere
          cases same
          rfl
        · exact absurd plain notPlain
    case isFalse plain =>
      rw [Option.not_isSome_iff_eq_none] at plain
      rw [mem_gather]
      constructor
      · rintro ⟨index, placed, stands, named, inner, found, rfl⟩
        have child := Node.mem_of_withPrevious stands
        obtain ⟨inSpace, declares, reaches⟩ := (inductionHypothesis placed.2 child).mp found
        exact ⟨inSpace, declares, .inr ⟨plain, index, inner.address, placed, rfl, stands, named, reaches⟩⟩
      · rintro ⟨inSpace, declares, ⟨-, same⟩ | ⟨-, index, rest, placed, isBelow, stands, named, reaches⟩⟩
        · have sameNode : site.node = .mk label children := (Prod.ext_iff.mp same).2
          rw [sameNode, plain] at declares
          cases declares
        · have child := Node.mem_of_withPrevious stands
          refine ⟨index, placed, stands, named, { site with address := rest },
            (inductionHypothesis placed.2 child).mpr ⟨inSpace, declares, reaches⟩, ?_⟩
          rw [below, ← isBelow]

/-- The sites in a tree are met in the order of their addresses. -/
theorem sitesIn_increasing (space : String) (previous : Option Node) (node : Node) :
    (sitesIn space previous node).Pairwise fun first second => first.address < second.address := by
  induction node using Node.childInduction generalizing previous with
  | step label children inductionHypothesis =>
    rw [sitesIn_eq]
    split
    · exact List.pairwise_singleton _ _
    · refine gather_increasing fun index placed stands => ?_
      exact inductionHypothesis placed.2 (Node.mem_of_withPrevious stands) placed.1

/-- In a tree whose ranges are in order the sites start one after the other. -/
theorem sitesIn_startIn (space : String) (previous : Option Node) {node : Node}
    (apart : node.SiblingsApart) (encloses : node.Encloses)
    (nonempty : node.label.start < node.label.stop) :
    StartIn node.label (sitesIn space previous node) := by
  induction node using Node.childInduction generalizing previous with
  | step label children inductionHypothesis =>
    rw [sitesIn_eq]
    split
    · exact ⟨by simpa [start] using nonempty, List.pairwise_singleton _ _⟩
    · have self := Node.mem_subtrees_self (.mk label children)
      have inside : ∀ (index : Nat) (placed : Option Node × Node),
          (Node.withPrevious none children)[index]? = some placed →
          StartIn placed.2.label (sitesIn space placed.1 placed.2) := by
        intro index placed stands
        have child := Node.mem_of_withPrevious stands
        exact inductionHypothesis placed.2 child placed.1 (apart.of_mem_children child)
          (encloses.of_mem_children child) (apart.nonempty _ self placed.2 child)
      refine ⟨fun site found => ?_, gather_starts (apart.ordered _ self) inside⟩
      obtain ⟨index, placed, stands, -, inner, innerFound, rfl⟩ := mem_gather.mp found
      have bounds := encloses _ self placed.2 (Node.mem_of_withPrevious stands)
      exact ((inside index placed stands).widen bounds.1 bounds.2).within inner innerFound

end Site

end ClassAtlas
