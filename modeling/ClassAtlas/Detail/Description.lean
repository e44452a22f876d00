import ClassAtlas.Index.Lineage

/-!
The description of a class: where it is declared, its documentation, its parent, its flags, and its
interfaces and traits, which are described in turn.

A class that is being described already is only named when it comes up again, so descriptions end
even when classes build on themselves.
-/

namespace ClassAtlas

/-- How documentation comments are shown. -/
structure DocOptions where
  enabled : Bool := true
  summaryOnly : Bool := true
  includeRaw : Bool := false

/-- A documentation comment as members of an object; tags are shown only in detail. -/
def DocOptions.members (options : DocOptions) (block : Option DocBlock) (detailed : Bool) :
    List (String × Json) :=
  if !options.enabled then []
  else match block.bind (·.toJson? options.summaryOnly detailed options.includeRaw) with
    | none => []
    | some json => [("docblock", json)]

namespace Description

/-- The path of a declaring file as reports show it. -/
def fileJson (tree : FileTree) (index : ClassIndex) (declaration : Declaration) : Json :=
  if declaration.file.isEmpty then .null
  else .str (index.project.relative (tree.resolve (.parse declaration.file)))

/-- The first and the last line, if details are wanted. -/
def lineMembers (declaration : Declaration) (detailed : Bool) : List (String × Json) :=
  if detailed then
    [("startLine", .nat declaration.startLine), ("endLine", .nat declaration.endLine)]
  else []

/-- A class that is only named. -/
def stub (name : String) : Json := .object [("file", .null), ("name", .str (Name.unrooted name))]

/-- The parent of a class, as far as it is known. -/
def parentMembers (tree : FileTree) (docs : DocOptions) (detailed : Bool)
    (declaration : Declaration) : Lookup (List (String × Json)) :=
  match declaration.parent with
  | none => return []
  | some name =>
    if name.isEmpty then return []
    else do
      match ← Lookup.find tree name with
      | some parent =>
        let index ← get
        return [("parent", .object ([
          ("file", fileJson tree index parent),
          ("name", .str parent.name),
          ("namespace", .str parent.space)] ++
          lineMembers parent detailed ++ docs.members parent.docBlock detailed))]
      | none =>
        return [("parent", .object [
          ("file", .null), ("name", .str name), ("namespace", .str (Name.qualifier name))])]

/-- The flags that are set. -/
def flagMembers (declaration : Declaration) : List (String × Json) :=
  ([("isAbstract", declaration.isAbstract), ("isFinal", declaration.isFinal),
    ("isInterface", declaration.isInterface), ("isTrait", declaration.isTrait),
    ("isEnum", declaration.isEnum)].filter (·.2)).map fun (flag, _) => (flag, .bool true)

/-- A list as a member, left out when it is empty. -/
def listMember (key : String) (items : List Json) : List (String × Json) :=
  if items.isEmpty then [] else [(key, .list items)]

mutual

/-- The members of the description of a class. `seen` holds the keys of the classes being described;
the number bounds the depth. -/
def members (tree : FileTree) (docs : DocOptions) :
    Nat → Bool → List String → Declaration → Lookup (List (String × Json))
  | 0, _, _, declaration => return [("file", .null), ("name", .str declaration.name)]
  | fuel + 1, detailed, seen, declaration => do
    let seen := Name.key declaration.name :: seen
    let file := fileJson tree (← get) declaration
    let parent ← parentMembers tree docs detailed declaration
    let interfaces ←
      if declaration.isTrait then pure []
      else do related tree docs fuel seen (← Lookup.interfaceNames tree declaration)
    let traits ← related tree docs fuel seen declaration.traits
    return [("file", file), ("name", .str declaration.name)] ++
      lineMembers declaration detailed ++ docs.members declaration.docBlock detailed ++ parent ++
      flagMembers declaration ++ listMember "interfaces" interfaces ++ listMember "traits" traits

/-- The descriptions of related classes. One that is unknown or being described is only named. -/
def related (tree : FileTree) (docs : DocOptions) :
    Nat → List String → List String → Lookup (List Json)
  | _, _, [] => return []
  | 0, _, names => return names.map stub
  | fuel + 1, seen, name :: rest => do
    let item ←
      match ← Lookup.find tree name with
      | none => pure (stub name)
      | some declaration =>
        if seen.contains (Name.key name) then pure (stub name)
        else do
          let members ← members tree docs fuel false seen declaration
          pure (.object members)
    let others ← related tree docs (fuel + 1) seen rest
    return item :: others

end

/-- A bound on the depth of a description: no class is described inside itself. -/
def depthBound (tree : FileTree) (index : ClassIndex) : Nat :=
  2 * (tree.nodeCount + index.classes.length + 2)

/-- The members of the description of a class. -/
def describe (tree : FileTree) (docs : DocOptions) (detailed : Bool) (declaration : Declaration) :
    Lookup (List (String × Json)) := do
  let index ← get
  members tree docs (depthBound tree index) detailed [] declaration

end Description

end ClassAtlas
