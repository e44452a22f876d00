import ClassAtlas.Declaration.Reader
import ClassAtlas.Index.Autoload

/-!
The index of the classes of a project, and the graph of what they build on.

The first declaration of a name counts. Registering it names its node in the graph and enters its edges:
to its parent, to its interfaces and to its traits, in this order. Two edges between the same classes are
one edge with the later relation at the earlier place. A node that is only built on carries no name.
-/

namespace ClassAtlas

/-- How a class builds on another. -/
inductive Relation where
  | extension
  | implementation
  | inclusion
deriving DecidableEq, Repr

/-- The word for a relation. -/
def Relation.label : Relation → String
  | .extension => "extends"
  | .implementation => "implements"
  | .inclusion => "uses"

/-- An edge between class keys. -/
structure Edge where
  source : String
  target : String
  relation : Relation
  /-- The target as its declaration is named at the source. -/
  name : String
deriving DecidableEq, Repr

/-- The classes known so far. -/
structure ClassIndex where
  project : Project
  /-- Registered declarations by key, in the order of registration. -/
  classes : List (String × Declaration)
  /-- The declarations of every file read so far. -/
  byFile : List (List String × List Declaration)
  /-- Keys that the whole project does not declare. -/
  absent : List String
  /-- The nodes of the graph by key, with the names that they carry. -/
  nodes : List (String × Option String)
  edges : List Edge
  /-- Whether all files of the project have been read. -/
  complete : Bool
  /-- The autoload roots, once they have been read. -/
  roots : Option (List AutoloadRoot)

namespace ClassIndex

/-- An index that knows nothing. -/
def empty (project : Project) : ClassIndex := ⟨project, [], [], [], [], [], false, none⟩

/-- The registered declaration with a key. -/
def class? (index : ClassIndex) (key : String) : Option Declaration := index.classes.lookup key

/-- Whether a key has been looked up with a definite result. -/
def isSettled (index : ClassIndex) (key : String) : Bool :=
  (index.class? key).isSome || index.absent.contains key

/-- The name that a node carries. -/
def nodeName? (index : ClassIndex) (key : String) : Option String := (index.nodes.lookup key).join

/-- Enters a node. One that is known keeps its name if no name is given. -/
def insertNode (nodes : List (String × Option String)) (key : String) (name : Option String) :
    List (String × Option String) :=
  match nodes with
  | [] => [(key, name)]
  | known :: rest =>
    if known.1 == key then (key, name.or known.2) :: rest else known :: insertNode rest key name

/-- Enters an edge. -/
def insertEdge (edges : List Edge) (edge : Edge) : List Edge :=
  match edges with
  | [] => [edge]
  | known :: rest =>
    if known.source == edge.source && known.target == edge.target then edge :: rest
    else known :: insertEdge rest edge

/-- The edges that a declaration brings, in order. -/
def edgesOf (declaration : Declaration) : List Edge :=
  let source := Name.key declaration.name
  let edge (relation : Relation) (name : String) : Edge := ⟨source, Name.key name, relation, name⟩
  (declaration.parent.toList.filter (!·.isEmpty)).map (edge .extension) ++
    declaration.interfaces.map (edge .implementation) ++
    declaration.traits.map (edge .inclusion)

/-- Registers a declaration, unless its name is registered. -/
def add (index : ClassIndex) (declaration : Declaration) : ClassIndex :=
  let key := Name.key declaration.name
  if (index.class? key).isSome then index
  else
    { index with
      classes := index.classes ++ [(key, declaration)]
      absent := index.absent.filter (· != key)
      nodes := (edgesOf declaration).foldl (fun nodes edge => insertNode nodes edge.target none)
        (insertNode index.nodes key (some declaration.name))
      edges := (edgesOf declaration).foldl insertEdge index.edges }

/-- Registers the declarations of a file. -/
def addFile (index : ClassIndex) (path : List String) (declarations : List Declaration) :
    ClassIndex :=
  declarations.foldl add { index with byFile := index.byFile ++ [(path, declarations)] }

/-- The edges met by a breadth-first walk over edges that are given, in order. The number bounds the
count of nodes left to visit; `queue` holds the nodes found and not visited yet. -/
def walkFrom (edges : List Edge) : Nat → List String → List String → List Edge
  | 0, _, _ => []
  | _ + 1, [], _ => []
  | fuel + 1, node :: queue, seen =>
    let found := edges.filter fun edge => edge.source == node && !seen.contains edge.target
    let targets := found.map (·.target)
    found ++ walkFrom edges fuel (queue ++ targets) (seen ++ targets)

/-- The edges met by a breadth-first walk from a key over some relations. Every class is met once. -/
def walk (index : ClassIndex) (relations : List Relation) (key : String) : List Edge :=
  let edges := index.edges.filter (relations.contains ·.relation)
  walkFrom edges (edges.length + 1) [key] [key]

/-- The name of the target of an edge: the one that its node carries, or that of the edge. -/
def targetName (index : ClassIndex) (edge : Edge) : String :=
  (index.nodeName? edge.target).getD edge.name

/-- The known targets of edges. -/
def knownTargets (index : ClassIndex) (edges : List Edge) : List Declaration :=
  edges.filterMap fun edge => index.class? edge.target

/-- The known targets of edges, up to the first unknown one. -/
def knownFront (index : ClassIndex) (edges : List Edge) : List Declaration :=
  ((edges.map fun edge => index.class? edge.target).takeWhile Option.isSome).filterMap id

/-- The names of the targets that edges lead to as interfaces. -/
def interfaceTargets (index : ClassIndex) (edges : List Edge) : List String :=
  (edges.filter (·.relation == .implementation)).map index.targetName

end ClassIndex

end ClassAtlas
