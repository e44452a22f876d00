import ClassAtlas.Usage.Reference
import ClassAtlas.Usage.TypeHint
import ClassAtlas.Token.Stream

/-!
The detectors of class usages and how they are run over a file.
-/

namespace ClassAtlas

/-- A detector: the tokens it starts from and what it finds there. -/
structure Detector where
  name : String
  usageType : UsageType
  /-- Whether a usage can start at a token. -/
  triggers : Token → Bool
  /-- The sightings at a place whose token triggers the detector. -/
  sightings : View → Place → List Sighting

namespace Detector

/-- Whether a token is `function` or `fn`. -/
def isFunctionWord (token : Token) : Bool :=
  token.isKeyword .functionWord || token.isKeyword .fnWord

/-- Whether a token is a visibility. -/
def isVisibilityWord (token : Token) : Bool :=
  token.isKeyword .publicWord || token.isKeyword .protectedWord || token.isKeyword .privateWord

/-- All detectors, in the order in which their findings are listed. -/
def all : List Detector := [
  ⟨"import", .fileImport, (·.isKeyword .useWord), Place.importSightings⟩,
  ⟨"new", .new, (·.isKeyword .newWord), Place.keywordSightings .new⟩,
  ⟨"static_call", .staticCall, (·.isMark .doubleColon), Place.staticSightings⟩,
  ⟨"extends", .extension, (·.isKeyword .extendsWord), Place.keywordSightings .extension⟩,
  ⟨"implements", .implementation, (·.isKeyword .implementsWord), Place.implementsSightings⟩,
  ⟨"trait", .mixin, (·.isKeyword .useWord), Place.mixinSightings⟩,
  ⟨"type_hint", .typeHint, fun token => isFunctionWord token || isVisibilityWord token,
    Place.typeHintSightings⟩,
  ⟨"return_type", .typeHint, isFunctionWord, Place.returnTypeSightings⟩]

/-- The detectors for the wanted usage types; all of them when none is wanted. -/
def select (wanted : List UsageType) : List Detector :=
  if wanted.isEmpty then all else all.filter fun detector => wanted.contains detector.usageType

theorem mem_all_of_mem_select {wanted : List UsageType} {detector : Detector}
    (selected : detector ∈ select wanted) : detector ∈ all := by
  rw [select] at selected
  split at selected
  · exact selected
  · exact (List.mem_filter.mp selected).1

/-- The sightings of one detector in a file. -/
def run (detector : Detector) (view : View) : List Sighting :=
  (Place.list view.tokens).flatMap fun place =>
    if detector.triggers place.token then detector.sightings view place else []

end Detector

/-- The sightings of the wanted usage types in a file. -/
def View.sightings (view : View) (wanted : List UsageType) : List Sighting :=
  (Detector.select wanted).flatMap (·.run view)

/-- The usages of a class in a token list: by detector, then in source order. -/
def findUsages (tokens : List Token) (target : String) (wanted : List UsageType) :
    List UsageRecord :=
  ((View.ofTokens tokens target).sightings wanted).map (Sighting.record tokens)

/-- The usages of a class in a source file. -/
def Source.usages (source : Source) (target : String) (wanted : List UsageType) :
    List UsageRecord :=
  findUsages source.tokens target wanted

end ClassAtlas
