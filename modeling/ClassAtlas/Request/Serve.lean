import ClassAtlas.Request.Basic

/-!
Serving requests. Sources may change between requests, so every request starts with an empty index;
only the store of scan results outlives it.
-/

namespace ClassAtlas

/-- What a request leaves behind: its answer or fault, the store, and how many files were turned into
tokens. -/
structure Served where
  answer : Except Fault Answer
  store : Store
  tokenized : Nat

namespace Request

/-- The detailed descriptions of the classes under a directory. -/
def listClasses (tree : FileTree) (path : Json) (options : ListingOptions)
    (rawDocBlocks : Bool) : Lookup (List Json) := do
  let declarations ← Listing.discover tree path options
  Listing.describeAll tree ⟨true, false, rawDocBlocks⟩ declarations

/-- Runs a lookup that starts with an empty index. -/
def looked {α : Type} (project : Project) (lookup : Lookup α) : Except Fault α :=
  (lookup.run (.empty project)).1

/-- Serves a request. The path to scan when the request gives none is a parameter. -/
def serve (request : Request) (scanPath : String) (project : Project) (tree : FileTree)
    (store : Store) (now : Int) : Served :=
  match request with
  | .classes path options rawDocBlocks =>
    ⟨(looked project (listClasses tree path options rawDocBlocks)).map .classes, store, 0⟩
  | .usages target path options =>
    let path := if path.isGiven then path else .str scanPath
    let outcome := Scan.run project tree store now target path options
    ⟨outcome.report.map .usages, outcome.store, outcome.tokenized⟩
  | .detail reference options =>
    ⟨(looked project (Detail.inspect tree reference options)).map .detail, store, 0⟩

end Request

/-- The response for an answer. Failures are complaints; other faults have no response. -/
def Served.response (served : Served) : Except Fault Response :=
  match served.answer with
  | .ok answer => .ok (.value answer.toJson)
  | .error (.failure failure) => .ok (.ofFailure failure)
  | .error fault => .error fault

end ClassAtlas
