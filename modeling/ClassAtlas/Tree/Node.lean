import ClassAtlas.Text.Utf8

/-!
Concrete syntax trees over source bytes.

A node covers a range of bytes and has a kind, a flag that tells grammar symbols from literal ones,
and the name of the field it fills in its parent. Trees come from error-tolerant parsers, so nothing
is assumed about how the ranges of neighbours relate.
-/

namespace ClassAtlas

/-- What is known about a node apart from its children. -/
structure NodeLabel where
  kind : String
  /-- Whether the node is a grammar symbol and not a literal. -/
  named : Bool
  /-- The field the node fills in its parent; empty for none. -/
  field : String
  /-- Offset of the first byte. -/
  start : Nat
  /-- Offset past the last byte. -/
  stop : Nat
deriving DecidableEq, Repr

/-- A node with its subtree. -/
inductive Node where
  | mk (label : NodeLabel) (children : List Node)

namespace Node

/-- The label of a node. -/
def label : Node → NodeLabel
  | .mk label _ => label

/-- The children of a node in source order. -/
def children : Node → List Node
  | .mk _ children => children

/-- The kind of a node. -/
def kind (node : Node) : String := node.label.kind

/-- Children that are grammar symbols. -/
def namedChildren (node : Node) : List Node := node.children.filter (·.label.named)

/-- The first child that fills a field. -/
def child? (node : Node) (field : String) : Option Node :=
  node.children.find? (·.label.field == field)

mutual

/-- Number of nodes in a tree. -/
def size : Node → Nat
  | .mk _ children => sizeOfAll children + 1

/-- Number of nodes in several trees. -/
def sizeOfAll : List Node → Nat
  | [] => 0
  | node :: rest => node.size + sizeOfAll rest

end

/-- A node without children that covers at least one byte, with the kind of its parent. -/
structure Leaf where
  label : NodeLabel
  parentKind : Option String
deriving DecidableEq, Repr

mutual

/-- The leaves of a tree in source order, given the kind of its parent. Placeholders that cover no
byte are left out. -/
def leavesUnder (parentKind : Option String) : Node → List Leaf
  | .mk label [] => if label.start < label.stop then [⟨label, parentKind⟩] else []
  | .mk label (child :: rest) => leavesOfAll (some label.kind) (child :: rest)

/-- The leaves of several trees with one parent kind. -/
def leavesOfAll (parentKind : Option String) : List Node → List Leaf
  | [] => []
  | node :: rest => leavesUnder parentKind node ++ leavesOfAll parentKind rest

end

/-- The leaves of a whole tree in source order. -/
def leaves (root : Node) : List Leaf := leavesUnder none root

/-- A tree without content. -/
def empty : Node := .mk ⟨"program", true, "", 0, 0⟩ []

end Node

/-- A source file: its bytes and their syntax tree. -/
structure Source where
  bytes : Bytes
  root : Node

namespace Source

/-- The text of a byte range. -/
def text (source : Source) (start stop : Nat) : String :=
  Utf8.decode ((source.bytes.drop start).take (stop - start))

/-- The one-based line of a byte offset. -/
def lineAt (source : Source) (offset : Nat) : Nat := (source.bytes.take offset).count 10 + 1

/-- The text a node covers. -/
def nodeText (source : Source) (node : Node) : String :=
  source.text node.label.start node.label.stop

/-- The one-based line on which a node starts. -/
def startLine (source : Source) (node : Node) : Nat := source.lineAt node.label.start

/-- The one-based line on which a node ends. -/
def endLine (source : Source) (node : Node) : Nat := source.lineAt node.label.stop

end Source

end ClassAtlas
