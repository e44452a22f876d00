import ClassAtlas.Json.Basic
import ClassAtlas.Tree.Node

/-!
The exchange form of syntax trees.

A tree is listed in preorder, five numbers for each node: the position of its kind in a table of
kinds, the position of its field in a table of fields, its start, its stop and its number of children.
-/

namespace ClassAtlas.Exchange

/-- One entry of a preorder listing. -/
structure Entry where
  label : NodeLabel
  childCount : Nat

/-- Puts an entry before trees already built: the first of them become its children. -/
def Entry.attach (entry : Entry) (trees : List Node) : List Node :=
  .mk entry.label (trees.take entry.childCount) :: trees.drop entry.childCount

/-- The trees of a preorder listing. -/
def treesOf (entries : List Entry) : List Node := entries.foldr Entry.attach []

/-- Reads the entries of a listing. -/
def entriesOf (kinds : List (String × Bool)) (fields : List String) : List Int → List Entry
  | kind :: field :: start :: stop :: childCount :: rest =>
    let (name, named) := (kinds[kind.toNat]?).getD ("", false)
    let label : NodeLabel :=
      ⟨name, named, (fields[field.toNat]?).getD "", start.toNat, stop.toNat⟩
    ⟨label, childCount.toNat⟩ :: entriesOf kinds fields rest
  | _ => []

/-- Reads one row of the table of kinds. -/
def kindOf : Json → String × Bool
  | .list [.str name, .int named] => (name, named != 0)
  | .list [.str name, .bool named] => (name, named)
  | _ => ("", false)

/-- Reads a tree from its exchange form. -/
def treeOf? (value : Json) : Option Node := do
  let kinds ← (← value.field? "types").items?
  let fields ← (← value.field? "fields").items?
  let numbers ← (← value.field? "nodes").items?
  let kinds := kinds.map kindOf
  let fields := fields.map fun field => field.text?.getD ""
  (treesOf (entriesOf kinds fields (numbers.filterMap Json.int?))).head?

end ClassAtlas.Exchange
