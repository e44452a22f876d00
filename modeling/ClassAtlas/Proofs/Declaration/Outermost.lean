import ClassAtlas.Proofs.Declaration.Site
import Mathlib.Data.List.Forall2

/-!
Which declarations of a file are listed, and in which order.

A declaration is listed if the walk down from the root meets it: along grammar symbols, past no other
declaration, and into a namespace at the top only through its body. Declarations are listed as they lie
in the tree. Where the ranges of the tree are in order as well, this is the order of the bytes at which
they start. Nothing else is assumed about the tree.
-/

namespace ClassAtlas

namespace DeclarationReader

variable {reader : DeclarationReader}

/-- Reads the declaration at a site. -/
def read? (reader : DeclarationReader) (site : Site) : Option Declaration :=
  (kindOf? site.node.kind).bind fun kind =>
    reader.declaration? site.space kind site.previous site.node

mutual

/-- The declarations of a tree are read at its sites. -/
theorem declarationsIn_eq (space : String) (previous : Option Node) (node : Node) :
    reader.declarationsIn space previous node =
      (Site.sitesIn space previous node).filterMap reader.read? := by
  match node with
  | .mk label children =>
    rw [declarationsIn, Site.sitesIn]
    cases isKind : kindOf? label.kind with
    | none => exact declarationsAmong_eq space none 0 children
    | some kind =>
      have found : reader.read? ⟨[], space, previous, .mk label children⟩ =
          reader.declaration? space kind previous (.mk label children) := by
        simp [read?, Node.kind, Node.label, isKind]
      simp only [List.filterMap_cons, found, List.filterMap_nil]
      cases reader.declaration? space kind previous (.mk label children) <;> rfl

theorem declarationsAmong_eq (space : String) (previous : Option Node) (index : Nat)
    (nodes : List Node) :
    reader.declarationsAmong space previous nodes =
      (Site.sitesAmong space previous index nodes).filterMap reader.read? := by
  match nodes with
  | [] => rfl
  | node :: rest =>
    rw [declarationsAmong, Site.sitesAmong, List.filterMap_append,
      declarationsAmong_eq space (some node) (index + 1) rest]
    congr 1
    split
    · rw [List.filterMap_map, declarationsIn_eq space previous node]
      rfl
    · rfl

end

section Top

/-- Whether a child of the root puts what follows it in a namespace: a namespace without a body. -/
def opensSpace (node : Node) : Bool :=
  node.label.named && node.kind == "namespace_definition" && (node.child? "body").isNone

/-- The name of a namespace, without separators around it. -/
def spaceName (reader : DeclarationReader) (node : Node) : String :=
  Text.dropAround (reader.fieldText node "name") Name.isSeparator

/-- The namespace in force after some children of the root: that of the last one which opens one. -/
def spaceAfter (reader : DeclarationReader) (nodes : List Node) : String :=
  match (nodes.filter opensSpace).getLast? with
  | some node => reader.spaceName node
  | none => ""

/-- Whether a node is reached from the root: through a child that is no namespace, in the namespace in
force there, or through the body of a namespace, in that namespace. -/
inductive Reached (reader : DeclarationReader) (root : Node) :
    List Nat → String → Option Node × Node → Prop
  | plain {index : Nat} {address : List Nat} {space : String} {top found : Option Node × Node}
      (stands : (Node.withPrevious none root.children)[index]? = some top)
      (named : top.2.label.named = true) (isPlain : top.2.kind ≠ "namespace_definition")
      (inSpace : space = reader.spaceAfter (root.children.take index))
      (reaches : Node.Reaches top address found) :
      Reached reader root (index :: address) space found
  | body {index position : Nat} {address : List Nat} {space : String}
      {top body found : Option Node × Node}
      (stands : (Node.withPrevious none root.children)[index]? = some top)
      (named : top.2.label.named = true) (isSpace : top.2.kind = "namespace_definition")
      (inSpace : space = reader.spaceName top.2)
      (filled : top.2.children.findIdx? (·.label.field == "body") = some position)
      (inside : (Node.withPrevious none top.2.children)[position]? = some body)
      (reaches : Node.Reaches body address found) :
      Reached reader root (index :: position :: address) space found

/-- The sites below a child of the root, given the namespace in force. -/
def topSites (reader : DeclarationReader) (space : String) (placed : Option Node × Node) : List Site :=
  if placed.2.kind = "namespace_definition" then
    (placed.2.children.findIdx? (·.label.field == "body")).toList.flatMap fun position =>
      ((Node.withPrevious none placed.2.children)[position]?).toList.flatMap fun body =>
        (Site.sitesIn (reader.spaceName placed.2) body.1 body.2).map (Site.below position)
  else Site.sitesIn space placed.1 placed.2

/-- The sites of a file. -/
def sites (reader : DeclarationReader) (root : Node) : List Site :=
  Site.gather (fun index => reader.topSites (reader.spaceAfter (root.children.take index))) root.children

theorem find?_withPrevious (holds : Node → Bool) (previous : Option Node) (nodes : List Node) :
    (Node.withPrevious previous nodes).find? (fun placed => holds placed.2) =
      (nodes.findIdx? holds).bind fun index => (Node.withPrevious previous nodes)[index]? := by
  induction nodes generalizing previous with
  | nil => rfl
  | cons node rest inductionHypothesis =>
    rw [Node.withPrevious, List.find?_cons, List.findIdx?_cons, inductionHypothesis]
    cases holds node with
    | true => rfl
    | false => cases rest.findIdx? holds <;> rfl

theorem exists_body_of_findIdx? {node : Node} {position : Nat}
    (filled : node.children.findIdx? (·.label.field == "body") = some position) :
    ∃ body, (Node.withPrevious none node.children)[position]? = some body := by
  have inside := (List.findIdx?_eq_some_iff_getElem.mp filled).1
  have length := congrArg List.length (Node.withPrevious_map_snd none node.children)
  rw [List.length_map] at length
  exact ⟨_, List.getElem?_eq_getElem (length ▸ inside)⟩

theorem opensSpace_iff {node : Node} (named : node.label.named = true) :
    opensSpace node = true ↔ node.kind = "namespace_definition" ∧
      node.children.findIdx? (·.label.field == "body") = none := by
  simp [opensSpace, named, Node.child?, List.findIdx?_eq_none_iff]

/-- A child of the root is read at its sites, and changes the namespace if it opens one. -/
theorem topLevel_eq (space : String) {placed : Option Node × Node}
    (named : placed.2.label.named = true) :
    reader.topLevel space placed =
      (if opensSpace placed.2 then reader.spaceName placed.2 else space,
        (reader.topSites space placed).filterMap reader.read?) := by
  obtain ⟨previous, node⟩ := placed
  have opens := opensSpace_iff named
  simp only [topLevel, topSites, opens, beq_iff_eq]
  by_cases isSpace : node.kind = "namespace_definition"
  · simp only [isSpace, if_true, true_and,
      find?_withPrevious (fun child => child.label.field == "body") none node.children]
    cases filled : node.children.findIdx? (·.label.field == "body") with
    | none => rfl
    | some position =>
      obtain ⟨⟨before, body⟩, stands⟩ := exists_body_of_findIdx? filled
      simp only [Option.bind_some, stands, Option.toList_some, List.flatMap_cons, List.flatMap_nil,
        List.append_nil, List.filterMap_map, declarationsIn_eq, reduceCtorEq, if_false]
      rfl
  · simp [isSpace, declarationsIn_eq]

theorem spaceAfter_append (nodes : List Node) (node : Node) :
    reader.spaceAfter (nodes ++ [node]) =
      if opensSpace node then reader.spaceName node else reader.spaceAfter nodes := by
  rw [spaceAfter, List.filter_append]
  cases opens : opensSpace node <;> simp [spaceAfter, opens]

/-- What is read of the children of the root past some of them is read at the sites there. -/
theorem collect_eq (reader : DeclarationReader) (done rest : List Node) :
    reader.collect (reader.spaceAfter done)
        ((Node.withPrevious done.getLast? rest).filter (·.2.label.named)) =
      (((Node.withPrevious done.getLast? rest).zipIdx done.length).flatMap fun placed =>
        if placed.1.2.label.named then
          (reader.topSites (reader.spaceAfter ((done ++ rest).take placed.2)) placed.1).map
            (Site.below placed.2)
        else []).filterMap reader.read? := by
  induction rest generalizing done with
  | nil => rfl
  | cons node rest inductionHypothesis =>
    have later := inductionHypothesis (done ++ [node])
    rw [spaceAfter_append, List.getLast?_concat, List.length_append, List.length_singleton,
      List.append_assoc, List.singleton_append] at later
    rw [Node.withPrevious, List.zipIdx_cons, List.flatMap_cons, List.filterMap_append, ← later,
      List.take_left]
    cases named : node.label.named with
    | false =>
      have closed : opensSpace node = false := by simp [opensSpace, named]
      simp [named, closed]
    | true =>
      have top : reader.topLevel (reader.spaceAfter done) (done.getLast?, node) = _ :=
        topLevel_eq _ named
      simp only [List.filter_cons, named, if_true, collect, top, List.filterMap_map]
      rfl

theorem mem_topSites {site : Site} {space : String} {placed : Option Node × Node} :
    site ∈ reader.topSites space placed ↔
      (kindOf? site.node.kind).isSome = true ∧
        (placed.2.kind ≠ "namespace_definition" ∧ site.space = space ∧
            Node.Reaches placed site.address (site.previous, site.node) ∨
          placed.2.kind = "namespace_definition" ∧ site.space = reader.spaceName placed.2 ∧
            ∃ position body rest, placed.2.children.findIdx? (·.label.field == "body") = some position ∧
              (Node.withPrevious none placed.2.children)[position]? = some body ∧
              site.address = position :: rest ∧
              Node.Reaches body rest (site.previous, site.node)) := by
  rw [topSites]
  split
  case isFalse isPlain =>
    rw [Site.mem_sitesIn]
    constructor
    · rintro ⟨inSpace, declares, reaches⟩
      exact ⟨declares, .inl ⟨isPlain, inSpace, reaches⟩⟩
    · rintro ⟨declares, ⟨-, inSpace, reaches⟩ | ⟨isSpace, -⟩⟩
      · exact ⟨inSpace, declares, reaches⟩
      · exact absurd isSpace isPlain
  case isTrue isSpace =>
    simp only [List.mem_flatMap, Option.mem_toList, List.mem_map, Site.mem_sitesIn]
    constructor
    · rintro ⟨position, filled, body, stands, inner, ⟨inSpace, declares, reaches⟩, rfl⟩
      exact ⟨declares, .inr ⟨isSpace, inSpace, position, body, _, filled, stands, rfl, reaches⟩⟩
    · rintro ⟨declares, ⟨isPlain, -⟩ |
        ⟨-, inSpace, position, body, rest, filled, stands, isBelow, reaches⟩⟩
      · exact absurd isSpace isPlain
      · refine ⟨position, filled, body, stands, { site with address := rest },
          ⟨inSpace, declares, reaches⟩, ?_⟩
        rw [Site.below, ← isBelow]

/-- The sites of a file are the declarations that are reached from its root. -/
theorem mem_sites {site : Site} {root : Node} :
    site ∈ reader.sites root ↔
      (kindOf? site.node.kind).isSome = true ∧
        reader.Reached root site.address site.space (site.previous, site.node) := by
  rw [sites, Site.mem_gather]
  constructor
  · rintro ⟨index, top, stands, named, inner, found, rfl⟩
    obtain ⟨declares, ⟨isPlain, inSpace, reaches⟩ |
      ⟨isSpace, inSpace, position, body, rest, filled, inside, isBelow, reaches⟩⟩ :=
        mem_topSites.mp found
    · exact ⟨declares, .plain stands named isPlain inSpace reaches⟩
    · refine ⟨declares, ?_⟩
      have reached : reader.Reached root _ _ _ :=
        .body stands named isSpace inSpace filled inside reaches
      rwa [← isBelow] at reached
  · rintro ⟨declares, reached⟩
    obtain ⟨address, space, previous, node⟩ := site
    cases reached with
    | @plain index address _ top _ stands named isPlain inSpace reaches =>
      exact ⟨index, top, stands, named, ⟨address, space, previous, node⟩,
        mem_topSites.mpr ⟨declares, .inl ⟨isPlain, inSpace, reaches⟩⟩, rfl⟩
    | @body index position address _ top body _ stands named isSpace inSpace filled inside reaches =>
      exact ⟨index, top, stands, named, ⟨position :: address, space, previous, node⟩, mem_topSites.mpr
        ⟨declares, .inr ⟨isSpace, inSpace, position, body, address, filled, inside, rfl, reaches⟩⟩, rfl⟩

/-- The sites below a child of the root are none, or those of one tree. -/
theorem topSites_cases (reader : DeclarationReader) (space : String) (placed : Option Node × Node) :
    reader.topSites space placed = [] ∨
      reader.topSites space placed = Site.sitesIn space placed.1 placed.2 ∨
      ∃ position body, (Node.withPrevious none placed.2.children)[position]? = some body ∧
        reader.topSites space placed =
          (Site.sitesIn (reader.spaceName placed.2) body.1 body.2).map (Site.below position) := by
  rw [topSites]
  split
  case isFalse => exact .inr (.inl rfl)
  case isTrue =>
    cases filled : placed.2.children.findIdx? (·.label.field == "body") with
    | none => exact .inl rfl
    | some position =>
      obtain ⟨body, stands⟩ := exists_body_of_findIdx? filled
      exact .inr (.inr ⟨position, body, stands, by simp [stands]⟩)

theorem sites_increasing (reader : DeclarationReader) (root : Node) :
    (reader.sites root).Pairwise fun first second => first.address < second.address := by
  refine Site.gather_increasing fun index placed _ => ?_
  obtain isEmpty | isPlain | ⟨position, body, -, isBody⟩ :=
    topSites_cases reader (reader.spaceAfter (root.children.take index)) placed
  · exact isEmpty ▸ .nil
  · exact isPlain ▸ Site.sitesIn_increasing _ _ _
  · rw [isBody, List.pairwise_map]
    exact (Site.sitesIn_increasing _ _ _).imp fun before => List.cons_lt_cons_self.mpr before

theorem sites_starts (reader : DeclarationReader) {root : Node} (apart : root.SiblingsApart)
    (encloses : root.Encloses) :
    (reader.sites root).Pairwise fun first second => first.start < second.start := by
  have self := Node.mem_subtrees_self root
  refine Site.gather_starts (apart.ordered root self) fun index placed stands => ?_
  have child := Node.mem_of_withPrevious stands
  have childApart := apart.of_mem_children child
  have childEncloses := encloses.of_mem_children child
  obtain isEmpty | isPlain | ⟨position, body, inside, isBody⟩ :=
    topSites_cases reader (reader.spaceAfter (root.children.take index)) placed
  · exact isEmpty ▸ ⟨by simp, .nil⟩
  · exact isPlain ▸ Site.sitesIn_startIn _ _ childApart childEncloses
      (apart.nonempty root self placed.2 child)
  · have grandchild := Node.mem_of_withPrevious inside
    have placedSelf := Node.mem_subtrees_self placed.2
    have bounds := childEncloses _ placedSelf body.2 grandchild
    rw [isBody]
    exact ((Site.sitesIn_startIn _ _ (childApart.of_mem_children grandchild)
      (childEncloses.of_mem_children grandchild)
      (childApart.nonempty _ placedSelf body.2 grandchild)).widen bounds.1 bounds.2).below position

end Top

section Reading

/-- What is known of a declaration that is read at a site: its kind is that of the node, and its name is
built from the namespace in force and the name there. -/
structure ReadsSite (reader : DeclarationReader) (site : Site) (found : Declaration) : Prop where
  kind : kindOf? site.node.kind = some found.kind
  read : reader.declaration? site.space found.kind site.previous site.node = some found
  space : found.space = site.space
  shortName : found.shortName = reader.fieldText site.node "name"
  name : found.name = Name.inside site.space (reader.fieldText site.node "name")

theorem readsSite_of_read? {site : Site} {found : Declaration} (read : reader.read? site = some found) :
    ReadsSite reader site found := by
  obtain ⟨kind, isKind, read⟩ := Option.bind_eq_some_iff.mp read
  let holds (owner : Declaration) : Prop := owner.kind = kind ∧ owner.space = site.space ∧
    owner.shortName = reader.fieldText site.node "name" ∧
    owner.name = Name.inside site.space (reader.fieldText site.node "name")
  have kept : holds found := declaration?_keeps read ⟨rfl, rfl, rfl, rfl⟩
    (fun owner clause kept => ?_) fun owner placed kept => ?_
  · obtain ⟨rfl, inSpace, short, full⟩ := kept
    exact ⟨isKind, read, inSpace, short, full⟩
  · simp only [addClause]
    repeat' split
    all_goals exact kept
  · simp only [addMember]
    repeat' split
    all_goals exact kept

/-- At a site that is reached a declaration is read just when there is a name. -/
theorem read?_isSome {site : Site} (declares : (kindOf? site.node.kind).isSome = true) :
    (reader.read? site).isSome = !(reader.fieldText site.node "name").isEmpty := by
  obtain ⟨kind, isKind⟩ := Option.isSome_iff_exists.mp declares
  rw [read?, isKind, Option.bind_some, declaration?]
  cases unnamed : (reader.fieldText site.node "name").isEmpty with
  | true => simp [header, unnamed]
  | false =>
    simp only [header, unnamed, Bool.false_eq_true, if_false, Bool.not_false]
    cases site.node.child? "body" <;> rfl

/-- The sites of the declarations of a file that have a name. -/
def outermost (reader : DeclarationReader) (root : Node) : List Site :=
  (reader.sites root).filter fun site => !(reader.fieldText site.node "name").isEmpty

/-- Whether a site is that of an outermost declaration with a name. -/
structure IsOutermost (reader : DeclarationReader) (root : Node) (site : Site) : Prop where
  declares : (kindOf? site.node.kind).isSome = true
  named : reader.fieldText site.node "name" ≠ ""
  reached : reader.Reached root site.address site.space (site.previous, site.node)

theorem mem_outermost {root : Node} {site : Site} :
    site ∈ reader.outermost root ↔ reader.IsOutermost root site := by
  rw [outermost, List.mem_filter, mem_sites, Bool.not_eq_true', String.isEmpty_eq_false_iff]
  constructor
  · rintro ⟨⟨declares, reached⟩, named⟩
    exact ⟨declares, named, reached⟩
  · rintro ⟨declares, named, reached⟩
    exact ⟨⟨declares, reached⟩, named⟩

/-- One declaration is read at each site that has a name, and none at any other. -/
theorem forall₂_filterMap_read? {sites : List Site}
    (declare : ∀ site ∈ sites, (kindOf? site.node.kind).isSome = true) :
    List.Forall₂ reader.ReadsSite
      (sites.filter fun site => !(reader.fieldText site.node "name").isEmpty)
      (sites.filterMap reader.read?) := by
  induction sites with
  | nil => exact .nil
  | cons site rest inductionHypothesis =>
    obtain ⟨here, there⟩ := List.forall_mem_cons.mp declare
    have later := inductionHypothesis there
    have named : (reader.read? site).isSome = _ := read?_isSome here
    rw [List.filter_cons, List.filterMap_cons, ← named]
    cases read : reader.read? site with
    | none => exact later
    | some found => exact .cons (readsSite_of_read? read) later

end Reading

end DeclarationReader

/-- The declarations of a file are read one by one at its outermost declarations that have a name, in
the order of the tree. Where siblings are apart and lie in their parent this is the order of the bytes. -/
theorem Source.declarations_outermost (source : Source) (file : String) :
    let reader := source.reader file
    let listed := reader.outermost source.root
    (∀ site, site ∈ listed ↔ reader.IsOutermost source.root site) ∧
      (listed.Pairwise fun first second => first.address < second.address) ∧
      List.Forall₂ reader.ReadsSite listed (source.declarations file) ∧
      (source.root.SiblingsApart → source.root.Encloses →
        listed.Pairwise fun first second => first.start < second.start) := by
  intro reader listed
  have whole : source.declarations file = (reader.sites source.root).filterMap reader.read? :=
    reader.collect_eq [] source.root.children
  refine ⟨fun site => DeclarationReader.mem_outermost, ?_, ?_, fun apart encloses => ?_⟩
  · exact (reader.sites_increasing source.root).filter _
  · rw [whole]
    exact DeclarationReader.forall₂_filterMap_read? fun site member =>
      (DeclarationReader.mem_sites.mp member).1
  · exact (reader.sites_starts apart encloses).filter _

namespace Source

section Sample

/-- A class of a one-letter name without members, from the byte on at which it starts. -/
def sampleClass (start : Nat) : Node :=
  .mk ⟨"class_declaration", true, "", start, start + 9⟩ [
    .mk ⟨"name", true, "name", start + 6, start + 7⟩ [],
    .mk ⟨"declaration_list", true, "body", start + 7, start + 9⟩ []]

/-- A class outside of namespaces, one in the body of a namespace, and one in a block past a namespace
without a body. -/
def sampleSpaces : Source where
  bytes := Utf8.encode "<?php class A{} namespace M{class B{}} namespace N;{class C{}}"
  root := .mk ⟨"program", true, "", 0, 62⟩ [
    .mk ⟨"php_tag", true, "", 0, 5⟩ [],
    sampleClass 6,
    .mk ⟨"namespace_definition", true, "", 16, 38⟩ [
      .mk ⟨"namespace", false, "", 16, 25⟩ [],
      .mk ⟨"namespace_name", true, "name", 26, 27⟩ [],
      .mk ⟨"compound_statement", true, "body", 27, 38⟩ [sampleClass 28]],
    .mk ⟨"namespace_definition", true, "", 39, 51⟩ [
      .mk ⟨"namespace", false, "", 39, 48⟩ [],
      .mk ⟨"namespace_name", true, "name", 49, 50⟩ [],
      .mk ⟨";", false, "", 50, 51⟩ []],
    .mk ⟨"compound_statement", true, "", 51, 62⟩ [sampleClass 52]]

/-- Each of the three classes is named after its namespace. -/
theorem declarations_outermost_spaces :
    let listed := (sampleSpaces.reader "").outermost sampleSpaces.root
    listed.map (·.address) = [[1], [2, 2, 0], [4, 0]] ∧
      (sampleSpaces.declarations "").map (·.name) = ["A", "M\\B", "N\\C"] ∧
      listed.map (·.start) = [6, 28, 52] ∧
      listed.Pairwise fun first second => first.start < second.start :=
  ⟨by decide +kernel, by decide +kernel, by decide +kernel,
    (declarations_outermost sampleSpaces "").2.2.2 ⟨by decide +kernel, by decide +kernel⟩
      (by decide +kernel)⟩

/-- Two classes, the second of which the tree holds in a node that covers other bytes before the first. -/
def sampleMisplaced : Source where
  bytes := Utf8.encode "<?php class A{} class B{}"
  root := .mk ⟨"program", true, "", 0, 25⟩ [
    .mk ⟨"compound_statement", true, "", 0, 5⟩ [sampleClass 16], sampleClass 6]

/-- That siblings are apart does not order the classes if a child lies outside of its parent. -/
theorem declarations_misplaced :
    sampleMisplaced.root.SiblingsApart ∧
      (sampleMisplaced.declarations "").map (·.name) = ["B", "A"] ∧
      ¬ ((sampleMisplaced.reader "").outermost sampleMisplaced.root).Pairwise fun first second =>
        first.start < second.start :=
  ⟨⟨by decide +kernel, by decide +kernel⟩, by decide +kernel, by decide +kernel⟩

end Sample

end Source

end ClassAtlas
