import ClassAtlas.Declaration.Basic
import ClassAtlas.Json.Given

/-!
What a class detail is asked for.

Options may hold any values. They are checked together, in a fixed order, when the detail is made; the
result is a plan with values of the right types.
-/

namespace ClassAtlas

/-- The levels of a visibility filter. -/
inductive VisibilityLevel where
  | only (visibility : Visibility)
  | all
deriving DecidableEq, Repr

namespace VisibilityLevel

/-- The word for a level in requests. -/
def label : VisibilityLevel → String
  | .only visibility => visibility.label
  | .all => "all"

/-- All levels. -/
def levels : List VisibilityLevel :=
  [.only .isPublic, .only .isProtected, .only .isPrivate, .all]

/-- The words of a visibility filter: the parts between commas, without blanks, in lowercase. -/
def wordsOf (value : String) : List String :=
  let value := if value.isEmpty then "public" else value
  ((Text.splitAt value ',').filter fun word => !(Text.trim word).isEmpty).map fun word =>
    Text.lower (Text.trim word)

/-- Reads a visibility filter. Without any level it asks for public members. -/
def parse (value : Json) : Except Fault (List VisibilityLevel) := do
  let text ← value.words
  let words := wordsOf text
  if words.all fun word => levels.any (·.label == word) then
    let chosen := levels.filter fun level => words.contains level.label
    return if chosen.isEmpty then [.only .isPublic] else chosen
  else throw (.failure (.unknownVisibility text (levels.map label)))

/-- Whether a filter lets members of a visibility through. Asking for private members is asking for
all. -/
def admits (chosen : List VisibilityLevel) (visibility : Visibility) : Bool :=
  chosen.contains .all || chosen.contains (.only .isPrivate) || chosen.contains (.only visibility)

end VisibilityLevel

/-- What a class detail is asked for, as it was given. A switch is on if its value counts as given. -/
structure DetailOptions where
  constants : Json := .bool true
  properties : Json := .bool true
  methods : Json := .bool true
  includeInherited : Json := .bool false
  summary : Json := .bool true
  fullDocBlocks : Json := .bool false
  visibility : Json := .str "public"
  methodsOffset : Json := .int 0
  methodsLimit : Json := .int 0
  propertiesOffset : Json := .int 0
  propertiesLimit : Json := .int 0
  constantsOffset : Json := .int 0
  constantsLimit : Json := .int 0
  staticOnly : Json := .bool false
  summaryMode : Json := .bool false
  rawDocBlock : Json := .bool false

/-- A section of members: whether it is shown, and the page of it. -/
structure SectionPlan where
  isShown : Bool
  offset : Int
  limit : Int

/-- A class detail whose options are valid. -/
structure DetailPlan where
  constants : SectionPlan
  properties : SectionPlan
  methods : SectionPlan
  includeInherited : Bool
  summaryOnly : Bool
  staticOnly : Bool
  rawDocBlock : Bool
  levels : List VisibilityLevel

namespace DetailOptions

/-- How many methods the summary mode shows. -/
def summaryMethods : Int := 5

/-- The options with the two convenience switches turned into plain settings. -/
def effective (options : DetailOptions) : DetailOptions :=
  let options :=
    if options.fullDocBlocks.isGiven then { options with summary := .bool false } else options
  if options.summaryMode.isGiven then
    { options with
      constants := .bool false
      properties := .bool false
      methodsLimit := .int summaryMethods
      includeInherited := .bool false }
  else options

/-- The number of an option with a name, which may not be negative. -/
def count (name : String) (value : Json) : Except Fault Int := do
  let number ← value.number
  if number < 0 then throw (.failure (.negativeOption name))
  return number

/-- Checks the options in a fixed order: no negative number, and only known visibilities. -/
def plan (options : DetailOptions) : Except Fault DetailPlan := do
  let methodsOffset ← count "methods_offset" options.methodsOffset
  let methodsLimit ← count "methods_limit" options.methodsLimit
  let propertiesOffset ← count "properties_offset" options.propertiesOffset
  let propertiesLimit ← count "properties_limit" options.propertiesLimit
  let constantsOffset ← count "constants_offset" options.constantsOffset
  let constantsLimit ← count "constants_limit" options.constantsLimit
  let levels ← VisibilityLevel.parse options.visibility
  let methodsLimit := if options.summaryMode.isGiven then summaryMethods else methodsLimit
  let options := options.effective
  return {
    constants := ⟨options.constants.isGiven, constantsOffset, constantsLimit⟩
    properties := ⟨options.properties.isGiven, propertiesOffset, propertiesLimit⟩
    methods := ⟨options.methods.isGiven, methodsOffset, methodsLimit⟩
    includeInherited := options.includeInherited.isGiven
    summaryOnly := options.summary.isGiven
    staticOnly := options.staticOnly.isGiven
    rawDocBlock := options.rawDocBlock.isGiven
    levels := levels }

end DetailOptions

end ClassAtlas
