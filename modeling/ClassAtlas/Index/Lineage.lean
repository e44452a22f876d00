import ClassAtlas.Index.Lookup

/-!
What a class builds on: its parents, interfaces and traits, direct and indirect.

A walk over the graph is repeated until every class it meets is settled. Each repetition settles at
least one more name, and every name of an edge is a node of some syntax tree or of the edges already
entered, which bounds the number of repetitions.
-/

namespace ClassAtlas.Lookup

/-- A bound on how many names can still be met: the syntax nodes of all files and the edges known. -/
def nameBound (tree : FileTree) (index : ClassIndex) : Nat :=
  tree.nodeCount + index.edges.length + 1

/-- Settles the targets of edges. -/
def loadTargets (tree : FileTree) : List Edge → Lookup Unit
  | [] => return
  | edge :: rest => do
    load tree edge.name
    loadTargets tree rest

/-- Repeats a walk until all classes it meets are settled. -/
def settledWalk (tree : FileTree) (relations : List Relation) (key : String) :
    Nat → Lookup (List Edge)
  | 0 => return (← get).walk relations key
  | fuel + 1 => do
    let index ← get
    let edges := index.walk relations key
    let unsettled := edges.filter fun edge => !index.isSettled edge.target
    if unsettled.isEmpty then return edges
    loadTargets tree unsettled
    settledWalk tree relations key fuel

/-- The edges from a class over some relations, breadth first, all targets settled. -/
def reachable (tree : FileTree) (declaration : Declaration) (relations : List Relation) :
    Lookup (List Edge) := do
  let index ← get
  settledWalk tree relations (Name.key declaration.name) (nameBound tree index)

/-- The known ancestors of a class, nearest first, up to the first unknown one. -/
def parentChain (tree : FileTree) (declaration : Declaration) : Lookup (List Declaration) := do
  let edges ← reachable tree declaration [.extension]
  return (← get).knownFront edges

/-- The names of all interfaces of a class: its own, those of its parents, and those that these
extend. Unknown ones are listed by name. -/
def interfaceNames (tree : FileTree) (declaration : Declaration) : Lookup (List String) := do
  let edges ← reachable tree declaration [.extension, .implementation]
  return (← get).interfaceTargets edges

/-- The known traits of a class, with the traits that these include. -/
def traitClosure (tree : FileTree) (declaration : Declaration) : Lookup (List Declaration) := do
  let edges ← reachable tree declaration [.inclusion]
  return (← get).knownTargets edges

/-- Every declaration followed by its traits. -/
def withTraits (tree : FileTree) : List Declaration → Lookup (List Declaration)
  | [] => return []
  | declaration :: rest => do
    let traits ← traitClosure tree declaration
    let others ← withTraits tree rest
    return declaration :: traits ++ others

/-- The declarations of those names that are known. -/
def findAll (tree : FileTree) : List String → Lookup (List Declaration)
  | [] => return []
  | name :: rest => do
    let found ← find tree name
    let others ← findAll tree rest
    return found.toList ++ others

/-- The class with its traits, then each ancestor with its traits, then, if asked for, the known
interfaces. -/
def lineage (tree : FileTree) (declaration : Declaration) (includeInterfaces : Bool) :
    Lookup (List Declaration) := do
  let chain ← parentChain tree declaration
  let classes ← withTraits tree (declaration :: chain)
  if includeInterfaces then
    let interfaces ← findAll tree (← interfaceNames tree declaration)
    return classes ++ interfaces
  else return classes

/-- The first method with a name among declarations and their traits. Traits are looked up only when
the declaration itself has no such method. -/
def methodWithTraits? (tree : FileTree) (name : String) : List Declaration → Lookup (Option Method)
  | [] => return none
  | declaration :: rest => do
    match declaration.method? name with
    | some method => return some method
    | none =>
      match (← traitClosure tree declaration).findSome? (·.method? name) with
      | some method => return some method
      | none => methodWithTraits? tree name rest

/-- The first method with a name among classes given by name. -/
def methodAmong? (tree : FileTree) (name : String) : List String → Lookup (Option Method)
  | [] => return none
  | className :: rest => do
    match (← find tree className).bind (·.method? name) with
    | some method => return some method
    | none => methodAmong? tree name rest

/-- The method that a class has under a name: the first one in its lineage. -/
def findMethod? (tree : FileTree) (declaration : Declaration) (name : String) :
    Lookup (Option Method) := do
  let chain ← parentChain tree declaration
  match ← methodWithTraits? tree name (declaration :: chain) with
  | some method => return some method
  | none => methodAmong? tree name (← interfaceNames tree declaration)

end ClassAtlas.Lookup
