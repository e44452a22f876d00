import ClassAtlas.Detail.Description
import ClassAtlas.Page

/-!
Listing the classes under a directory that satisfy structural filters.
-/

namespace ClassAtlas

/-- Conditions on classes as they are given. A value that does not count as given is no condition. -/
structure ClassFilters where
  /-- A trait that the class includes itself. -/
  hasTrait : Json := .str ""
  /-- An interface of the class, direct or not. -/
  hasInterface : Json := .str ""
  /-- A method of the class, inherited or not. -/
  hasMethod : Json := .str ""

namespace ClassFilters

/-- Whether there is no condition. -/
def isEmpty (filters : ClassFilters) : Bool :=
  !(filters.hasTrait.isGiven || filters.hasInterface.isGiven || filters.hasMethod.isGiven)

/-- Whether a name is among names, apart from blanks around them and leading separators. -/
def names (wanted : String) (names : List String) : Bool :=
  (names.map Name.normalized).contains (Name.normalized wanted)

/-- Whether the class meets the condition on its traits. -/
def meetsTrait (filters : ClassFilters) (declaration : Declaration) : Lookup Bool := do
  let wanted ← Lookup.ofExcept filters.hasTrait.words
  return wanted.isEmpty || names wanted declaration.traits

/-- Whether the class meets the condition on its interfaces. -/
def meetsInterface (filters : ClassFilters) (tree : FileTree) (declaration : Declaration) :
    Lookup Bool := do
  let wanted ← Lookup.ofExcept filters.hasInterface.words
  if wanted.isEmpty then return true
  else return names wanted (← Lookup.interfaceNames tree declaration)

/-- Whether the class meets the condition on its methods. The ancestors of the class are looked up
before the condition is. -/
def meetsMethod (filters : ClassFilters) (tree : FileTree) (declaration : Declaration) :
    Lookup Bool := do
  if !filters.hasMethod.isGiven then return true
  let _ ← Lookup.parentChain tree declaration
  let wanted ← Lookup.ofExcept filters.hasMethod.words
  return (← Lookup.findMethod? tree declaration wanted).isSome

/-- Whether a class meets all conditions. Later conditions are looked at only if the earlier ones
hold. -/
def accepts (filters : ClassFilters) (tree : FileTree) (declaration : Declaration) :
    Lookup Bool := do
  if !(← filters.meetsTrait declaration) then return false
  else if ← filters.meetsInterface tree declaration then filters.meetsMethod tree declaration
  else return false

end ClassFilters

/-- What a class listing is asked for, as it was given. -/
structure ListingOptions where
  filters : ClassFilters := {}
  recursive : Bool := true
  /-- Most classes to list; zero means all. -/
  limit : Json := .int 0
  offset : Json := .int 0

/-- A class listing whose options are valid. -/
structure ListingPlan where
  filters : ClassFilters
  limit : Int
  offset : Int

/-- Checks the options of a class listing in a fixed order. Blanks around a condition do not count. -/
def ListingOptions.plan (options : ListingOptions) : Except Fault ListingPlan := do
  let limit ← options.limit.number
  if limit < 0 then throw (.failure .negativePaging)
  let offset ← options.offset.number
  if offset < 0 then throw (.failure .negativePaging)
  let hasTrait ← options.filters.hasTrait.words
  let hasInterface ← options.filters.hasInterface.words
  let hasMethod ← options.filters.hasMethod.words
  let filters : ClassFilters :=
    ⟨.str (Text.trim hasTrait), .str (Text.trim hasInterface), .str (Text.trim hasMethod)⟩
  return ⟨filters, limit, offset⟩

namespace Listing

/-- The declarations that filters accept. -/
def select (tree : FileTree) (filters : ClassFilters) : List Declaration → Lookup (List Declaration)
  | [] => return []
  | declaration :: rest => do
    let accepted ← filters.accepts tree declaration
    let others ← select tree filters rest
    return if accepted then declaration :: others else others

/-- The classes under a directory that satisfy the filters, cut to the page asked for. -/
def discover (tree : FileTree) (path : Json) (options : ListingOptions) :
    Lookup (List Declaration) := do
  let plan ← Lookup.ofExcept options.plan
  let path ← Lookup.ofExcept path.pathText
  let declared ← Lookup.indexDirectory tree path options.recursive false
  if declared.isEmpty then throw (.failure .nothingListed)
  let selected ← select tree plan.filters declared
  let shown := page selected plan.offset plan.limit
  if shown.isEmpty then throw (.failure .nothingMatches)
  return shown

/-- The detailed descriptions of declarations. -/
def describeAll (tree : FileTree) (docs : DocOptions) : List Declaration → Lookup (List Json)
  | [] => return []
  | declaration :: rest => do
    let description ← Description.describe tree docs true declaration
    let others ← describeAll tree docs rest
    return .object description :: others

end Listing

end ClassAtlas
