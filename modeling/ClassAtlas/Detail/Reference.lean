import ClassAtlas.Index.Lookup

/-!
References to classes in requests: the path of a file, or the name of a class.
-/

namespace ClassAtlas

/-- A reference with the class it leads to. -/
structure ClassReference where
  /-- The reference without the blanks around it. -/
  raw : String
  declaration : Declaration

namespace ClassReference

/-- The file that a reference names, from the working directory or else from the root of the
project. -/
def file? (tree : FileTree) (project : Project) (value : String) : Option (List String) :=
  [Path.parse value, (Path.absolute project.root).join (.parse value)].findSome? fun path =>
    match tree.find path with
    | .file resolved _ => some resolved
    | _ => none

/-- The first class of a file. -/
def firstOf (tree : FileTree) (value : String) (path : List String) : Lookup Declaration := do
  match ← Lookup.indexFile tree path with
  | declaration :: _ => return declaration
  | [] =>
    let directory := (Path.absolute path.dropLast).render
    match ← Lookup.indexDirectory tree directory false false with
    | [] => throw (.failure (.nothingInFile value))
    | _ :: _ => throw (.failure (.classNotInFile value))

/-- Follows a reference as it is given. -/
def follow (tree : FileTree) (reference : Json) : Lookup ClassReference := do
  let value := Text.trim (← Lookup.ofExcept reference.words)
  if value.isEmpty then throw (.failure .classRequired)
  let index ← get
  match file? tree index.project value with
  | some path => return ⟨value, ← firstOf tree value path⟩
  | none =>
    match ← Lookup.find tree value with
    | some declaration => return ⟨value, declaration⟩
    | none => throw (.failure (.classMissing value))

end ClassReference

end ClassAtlas
