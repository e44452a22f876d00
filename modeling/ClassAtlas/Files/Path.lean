import ClassAtlas.Failure

/-!
File paths.

A path is absolute or relative and has components. Empty components and single dots vanish when a path
is read; double dots stay until the path is resolved.
-/

namespace ClassAtlas

/-- A file path. -/
structure Path where
  /-- What stands before the components: empty for a relative path. -/
  root : String
  parts : List String
deriving DecidableEq, Repr

namespace Path

/-- Reads a path. Exactly two leading slashes are kept as they are. -/
def parse (text : String) : Path :=
  let slashes := (text.toList.takeWhile (· == '/')).length
  let root := if slashes == 0 then "" else if slashes == 2 then "//" else "/"
  ⟨root, (Text.splitAt text '/').filter fun part => !part.isEmpty && part != "."⟩

/-- Whether a path does not depend on a working directory. -/
def isAbsolute (path : Path) : Bool := !path.root.isEmpty

/-- The written form of a path. -/
def render (path : Path) : String :=
  if path.root.isEmpty && path.parts.isEmpty then "." else path.root ++ Text.join "/" path.parts

/-- A path taken from another one: an absolute path stays as it is. -/
def join (base path : Path) : Path :=
  if path.isAbsolute then path else ⟨base.root, base.parts ++ path.parts⟩

/-- An absolute path with the given components. -/
def absolute (parts : List String) : Path := ⟨"/", parts⟩

/-- Removes double dots: each takes away the component before it. The components already kept are
given in reverse. -/
def collapse : List String → List String → List String
  | kept, [] => kept.reverse
  | kept, part :: rest =>
    if part == ".." then collapse kept.tail rest else collapse (part :: kept) rest

/-- The components of a path taken from a directory, without double dots. -/
def resolve (directory : List String) (path : Path) : List String :=
  collapse [] ((absolute directory).join path).parts

/-- Whether a null character stands in a path, which no entry of a file system has. -/
def hasNull (path : Path) : Bool := path.parts.any fun part => part.toList.contains (Char.ofNat 0)

/-- The components of a path taken from a directory, without double dots. Resolving asks the file
system about every component, which a null character makes impossible. -/
def resolved (directory : List String) (path : Path) : Except Fault (List String) :=
  if path.hasNull then .error .nullCharacter else .ok (path.resolve directory)

/-- The components of a path with what stands before them. -/
def components (path : Path) : List String :=
  if path.isAbsolute then path.root :: path.parts else path.parts

/-- The length of the written form in bytes. -/
def byteLength (path : Path) : Nat := (Utf8.encode path.render).length

/-- The path without its last component. -/
def parent (path : Path) : Path := { path with parts := path.parts.dropLast }

/-- The components of a path below a directory. -/
def below? (directory path : List String) : Option (List String) := Text.afterStart? directory path

/-- The ending of a file name from its last dot on; a dot at either end of the name does not count. -/
def suffix (name : String) : String :=
  match Text.cutLast? name '.' with
  | none => ""
  | some (front, ending) => if front.isEmpty || ending.isEmpty then "" else "." ++ ending

/-- Whether one sequence of components comes before another or equals it: component by component, by
code points. -/
def comesBefore : List String → List String → Bool
  | [], _ => true
  | _ :: _, [] => false
  | first :: firsts, second :: seconds =>
    if first == second then comesBefore firsts seconds else decide (first < second)

end Path

end ClassAtlas
