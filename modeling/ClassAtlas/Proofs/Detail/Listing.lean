import ClassAtlas.Detail.Listing
import ClassAtlas.Proofs.Index.Description
import Mathlib.Data.List.DropRight

/-!
A listing under an interface keeps the classes that name it.

While classes are looked at one after the other, files are read and interfaces become known. What a
class reports for an interface is how the interface is declared, or how the class itself spells it for as
long as no declaration of it is known. A text that fits both before and after fits at every moment
between.
-/

namespace ClassAtlas

theorem Text.trim_trim (text : String) : Text.trim (Text.trim text) = Text.trim text := by
  have idempotent : ∀ chars : List Char, (((chars.dropWhile isBlank).rdropWhile isBlank).dropWhile
      isBlank).rdropWhile isBlank = (chars.dropWhile isBlank).rdropWhile isBlank := by
    intro chars
    have starts : ((chars.dropWhile isBlank).rdropWhile isBlank).dropWhile isBlank =
        (chars.dropWhile isBlank).rdropWhile isBlank := by
      refine List.dropWhile_eq_self_iff.mpr fun isFirst => ?_
      rw [(List.rdropWhile_prefix isBlank (chars.dropWhile isBlank)).getElem isFirst]
      exact List.dropWhile_get_zero_not isBlank chars _
    rw [starts, List.rdropWhile_idempotent]
  apply String.toList_injective
  simpa [Text.trim, Text.dropAround, List.rdropWhile] using idempotent text.toList

/-- Blanks around a name make no difference. -/
theorem Name.normalized_trim (name : String) :
    Name.normalized (Text.trim name) = Name.normalized name := by
  rw [Name.normalized, Text.trim_trim, Name.normalized]

/-- Whether the source files of a project declare the class with a key. -/
def Project.Declares (project : Project) (tree : FileTree) (key : String) : Prop :=
  ∃ files, project.sourceFiles tree (Path.absolute project.root).render true false = .ok files ∧
    (tree.declared? files key).isSome = true

namespace ClassIndex

/-- Whether a text spells an interface of a class: as the interface is declared or, while that is not
known, as the class has it. -/
def Spells (index : ClassIndex) (declaration : Declaration) (wanted : String) : Prop :=
  match index.class? (Name.key wanted) with
  | some known => Name.normalized known.name = Name.normalized wanted
  | none => ∀ name ∈ declaration.interfaces, Name.key name = Name.key wanted →
    Name.normalized name = Name.normalized wanted

section Spelling

variable {tree : FileTree} {index between later : ClassIndex} {declaration : Declaration}
  {wanted : String}

/-- What is spelled right before and after is spelled right between. -/
theorem Spells.midway (early : index.Spells declaration wanted)
    (late : later.Spells declaration wanted) (first : index.Extends between)
    (second : between.Extends later) : between.Spells declaration wanted := by
  rw [Spells] at early late ⊢
  split
  case h_1 known isKnown => simpa [second.classes _ _ isKnown] using late
  case h_2 unknown =>
    cases earlier : index.class? (Name.key wanted) with
    | none => simpa [earlier] using early
    | some known =>
      rw [first.classes _ _ earlier] at unknown
      cases unknown

/-- The declaration of a known class spells it. -/
theorem Spells.of_known (late : later.Spells declaration wanted) (grown : index.Extends later)
    (known : (index.class? (Name.key wanted)).isSome = true) : index.Spells declaration wanted := by
  obtain ⟨found, isFound⟩ := Option.isSome_iff_exists.mp known
  simp only [Spells, isFound, grown.classes _ _ isFound] at late ⊢
  exact late

theorem spells_congr {other : String} (same : Name.normalized wanted = Name.normalized other) :
    index.Spells declaration wanted ↔ index.Spells declaration other := by
  simp only [Spells, Name.key, same]

/-- What the project declares is known when it is settled. -/
theorem Thorough.isSome_class? (thorough : index.Thorough tree) {key : String}
    (declares : index.project.Declares tree key) (settled : index.isSettled key = true) :
    (index.class? key).isSome = true := by
  rw [isSettled, Bool.or_eq_true, List.contains_iff_mem] at settled
  refine settled.resolve_right fun absent => ?_
  obtain ⟨files, sources, isDeclared⟩ := declares
  rw [thorough.absent files sources key absent] at isDeclared
  cases isDeclared

end Spelling

end ClassIndex

namespace Listing

open ClassIndex Lookup

variable {tree : FileTree} {index between later : ClassIndex} {declaration first : Declaration}
  {wanted : String}

/-- Whether a class is to be found under an interface, when classes are looked at from one index on and
another one is left in the end: its first declaration names the interface, and the text spells this, both
in the beginning and in the end. The end is enough for an interface that the project declares. -/
structure Sought (tree : FileTree) (index later : ClassIndex) (wanted : String)
    (declaration first : Declaration) : Prop where
  isFirst : index.first? declaration.name = some first
  named : first.BuildsOn (Name.key wanted) .implementation
  other : Name.key wanted ≠ Name.key declaration.name
  spelled : later.Spells first wanted
  certain : index.Spells first wanted ∨
    tree.Clean ∧ index.project.Declares tree (Name.key wanted)

/-- What is sought is sought from every later moment on. -/
theorem Sought.advance (sought : Sought tree index later wanted declaration first)
    (orderly : index.Orderly tree) (passed : Passes tree index between)
    (after : between.Extends later) : Sought tree between later wanted declaration first :=
  { sought with
    isFirst := by
      rw [← passed.orderly.class?_eq_first?]
      exact passed.grown.classes _ _ ((orderly.class?_eq_first? _).trans sought.isFirst)
    certain := sought.certain.imp (fun early => early.midway sought.spelled passed.grown after)
      fun ⟨clean, declares⟩ => ⟨clean, passed.grown.project ▸ declares⟩ }

/-- An interface that is settled is spelled right. -/
theorem Sought.spells (sought : Sought tree index later wanted declaration first)
    (thorough : tree.Clean → index.Thorough tree) (passed : Passes tree index between)
    (after : between.Extends later) (settled : between.isSettled (Name.key wanted) = true) :
    between.Spells first wanted := by
  rcases sought.certain with early | ⟨clean, declares⟩
  · exact early.midway sought.spelled passed.grown after
  · have known := (passed.thorough clean (thorough clean)).isSome_class?
      (passed.grown.project ▸ declares) settled
    exact sought.spelled.of_known after known

theorem Sought.congr {other : String} (sought : Sought tree index later wanted declaration first)
    (same : Name.normalized wanted = Name.normalized other) :
    Sought tree index later other declaration first := by
  have sameKey : Name.key wanted = Name.key other := by simp only [Name.key, same]
  refine ⟨sought.isFirst, ?_, ?_, (spells_congr same).mp sought.spelled, ?_⟩
  · rw [← sameKey]
    exact sought.named
  · rw [← sameKey]
    exact sought.other
  · rw [← sameKey, ← spells_congr same]
    exact sought.certain

/-- The filters that ask for an interface only. -/
def byInterface (wanted : String) : ClassFilters := { hasInterface := .str wanted }

theorem mem_interfaces_of_mem_edgesOf {edge : Edge} (member : edge ∈ edgesOf declaration)
    (isInterface : edge.relation = .implementation) : edge.name ∈ declaration.interfaces := by
  simp only [edgesOf, List.mem_append, List.mem_map] at member
  rcases member with (⟨name, _, rfl⟩ | ⟨name, isName, rfl⟩) | ⟨name, _, rfl⟩
  · cases isInterface
  · exact isName
  · cases isInterface

/-- An interface that is spelled right is among those that are reported. -/
theorem names_of_spells (coherent : index.Coherent)
    (known : index.class? (Name.key declaration.name) = some first)
    (named : first.BuildsOn (Name.key wanted) .implementation)
    (other : Name.key wanted ≠ Name.key declaration.name) (spelled : index.Spells first wanted) :
    ClassFilters.names wanted (index.interfaceTargets
      (index.walk [.extension, .implementation] (Name.key declaration.name))) = true := by
  obtain ⟨edge, isEdge, isTarget, isInterface, -, reported⟩ :=
    coherent.exists_interface known other named
  have entered := mem_edgesOf_of_mem_outgoing isEdge
  have spelling : Name.normalized (index.targetName edge) = Name.normalized wanted := by
    rw [targetName, coherent.names, isTarget]
    cases isKnown : index.class? (Name.key wanted) with
    | some known =>
      simp only [Spells, isKnown] at spelled
      exact spelled
    | none =>
      simp only [Spells, isKnown] at spelled
      exact spelled edge.name (mem_interfaces_of_mem_edgesOf entered isInterface)
        ((source_of_mem_edgesOf entered).2.symm.trans isTarget)
  rw [ClassFilters.names, List.contains_iff_mem, ← spelling]
  exact List.mem_map_of_mem reported

/-- Without other conditions, only the interfaces are looked at. -/
theorem accepts_byInterface (tree : FileTree) (wanted : String) (declaration : Declaration) :
    (byInterface wanted).accepts tree declaration =
      if wanted.isEmpty then pure true
      else do return ClassFilters.names wanted (← interfaceNames tree declaration) := by
  have trait : (byInterface wanted).meetsTrait declaration = pure true := rfl
  have method : (byInterface wanted).meetsMethod tree declaration = pure true := rfl
  have interface : (byInterface wanted).meetsInterface tree declaration =
      if wanted.isEmpty then pure true
      else do return ClassFilters.names wanted (← interfaceNames tree declaration) := rfl
  rw [ClassFilters.accepts, trait, method, interface]
  split
  · simp
  · simp only [pure_bind, bind_assoc, Bool.not_true, Bool.false_eq_true, if_false]
    congr 1
    funext names
    cases ClassFilters.names wanted names <;> rfl

theorem accepts_passes (orderly : index.Orderly tree) (wanted : String) (declaration : Declaration) :
    Ends ((byInterface wanted).accepts tree declaration) index
      (fun accepted later => Passes tree index later ∧
        ∀ first, index.class? (Name.key declaration.name) = some first →
          first.BuildsOn (Name.key wanted) .implementation →
          Name.key wanted ≠ Name.key declaration.name →
          (later.isSettled (Name.key wanted) = true → later.Spells first wanted) → accepted = true)
      (fun fault later => outcome (interfaceNames tree declaration) index = (.error fault, later)) := by
  rw [accepts_byInterface]
  split
  case isTrue => exact Ends.pure ⟨Passes.refl orderly, fun _ _ _ _ _ => rfl⟩
  case isFalse =>
    have interfaces := readOff_passes orderly declaration [.extension, .implementation]
      ClassIndex.interfaceTargets
    refine Ends.bind ⟨interfaces.returned, id⟩ ?_
    rintro names later ⟨passed, rfl, settled⟩
    refine Ends.pure ⟨passed, fun first known named other spelled => ?_⟩
    have stillKnown := passed.grown.classes _ _ known
    obtain ⟨edge, -, isTarget, -, -, met⟩ :=
      passed.orderly.exists_met [.extension, .implementation] stillKnown other named (by simp)
    exact names_of_spells passed.orderly.toCoherent stillKnown named other
      (spelled (isTarget ▸ settled edge met))

/-- Every class that is sought is kept. A fault is one that was raised over the interfaces of a class. -/
theorem select_passes (orderly : index.Orderly tree) (thorough : tree.Clean → index.Thorough tree)
    (wanted : String) (declarations : List Declaration) :
    Ends (select tree (byInterface wanted) declarations) index
      (fun kept later => Passes tree index later ∧ ∀ declaration ∈ declarations, ∀ first,
        Sought tree index later wanted declaration first → declaration ∈ kept)
      (fun fault later => ∃ declaration ∈ declarations, ∃ between,
        outcome (interfaceNames tree declaration) between = (.error fault, later)) := by
  induction declarations generalizing index with
  | nil => exact Ends.pure ⟨Passes.refl orderly, fun _ impossible => by cases impossible⟩
  | cons declaration rest inductionHypothesis =>
    rw [select]
    refine Ends.bind ((accepts_passes orderly wanted declaration).mono (fun _ _ => id)
      fun _ _ raised => ⟨declaration, List.mem_cons_self, index, raised⟩) ?_
    rintro accepted between ⟨passed, accepts⟩
    have stillThorough := fun clean => passed.thorough clean (thorough clean)
    refine Ends.bind ((inductionHypothesis passed.orderly stillThorough).mono (fun _ _ => id)
      fun _ _ ⟨other, listed, raised⟩ => ⟨other, List.mem_cons_of_mem _ listed, raised⟩) ?_
    rintro others later ⟨laterPassed, keeps⟩
    refine Ends.pure ⟨passed.trans laterPassed, ?_⟩
    intro info listed first sought
    have restKept : info ∈ rest → info ∈ others := fun member =>
      keeps info member first (sought.advance orderly passed laterPassed.grown)
    rcases List.mem_cons.mp listed with rfl | later
    · rw [if_pos]
      · exact List.mem_cons_self
      · exact accepts first ((orderly.class?_eq_first? _).trans sought.isFirst) sought.named
          sought.other (sought.spells thorough passed laterPassed.grown)
    · split
      · exact List.mem_cons_of_mem _ (restKept later)
      · exact restKept later

/-- A listing under an interface returns every class that is sought, or a fault was raised over the
interfaces of a class that is listed. -/
theorem discover_passes (orderly : index.Orderly tree) (thorough : tree.Clean → index.Thorough tree)
    (path wanted : String) (recursive : Bool) {listed : List Declaration} {start : ClassIndex}
    (ran : outcome (indexDirectory tree path recursive false) index = (.ok listed, start)) :
    Ends (discover tree (.str path) { filters := byInterface wanted, recursive }) index
      (fun shown later => ∀ info ∈ listed, ∀ first,
        Sought tree start later wanted info first → info ∈ shown)
      (fun fault later => ∀ info ∈ listed, ∀ first,
        Sought tree start later wanted info first → ∃ other ∈ listed, ∃ between,
          outcome (interfaceNames tree other) between = (.error fault, later)) := by
  have planned : ({ filters := byInterface wanted, recursive } : ListingOptions).plan =
      .ok ⟨byInterface (Text.trim wanted), 0, 0⟩ := rfl
  have begun := ((indexDirectory_adds orderly path recursive false).returned ran).1.passes
  have lists : Ends (indexDirectory tree path recursive false) index
      (fun declared later => listed = declared ∧ start = later)
      (fun fault later => ∀ info ∈ listed, ∀ first,
        Sought tree start later wanted info first → ∃ other ∈ listed, ∃ between,
          outcome (interfaceNames tree other) between = (.error fault, later)) := by
    constructor <;> intro result later other <;> rw [ran] at other <;> cases other
    exact ⟨rfl, rfl⟩
  rw [discover, planned]
  refine Ends.ofExcept_bind ?_ fun _ failed => by cases failed
  rintro _ ⟨⟩
  refine Ends.ofExcept_bind ?_ fun _ failed => by cases failed
  rintro _ ⟨⟩
  refine Ends.bind lists ?_
  rintro _ _ ⟨rfl, rfl⟩
  refine Ends.unless ?_ fun _ => ?_
  · intro none info member
    rw [List.isEmpty_iff.mp none] at member
    cases member
  have selects := select_passes begun.orderly (fun clean => begun.thorough clean (thorough clean))
    (Text.trim wanted) listed
  refine Ends.bind (selects.mono (fun _ _ => id) fun _ _ raised _ _ _ _ => raised) ?_
  rintro kept later ⟨-, keeps⟩
  have found : ∀ info ∈ listed, ∀ first,
      Sought tree start later wanted info first → info ∈ page kept 0 0 := by
    intro info member first sought
    have whole : page kept 0 0 = kept := by simp [page, placeIn]
    rw [whole]
    exact keeps info member first (sought.congr (Name.normalized_trim wanted).symm)
  refine Ends.unless ?_ fun _ => Ends.pure found
  intro none info member first sought
  have impossible := found info member first sought
  rw [List.isEmpty_iff.mp none] at impossible
  cases impossible

/-- Listed classes are described by the first of their declarations that was read. This is so whatever was
asked before, and stays so whatever is asked after. A listing under an interface keeps all classes whose
first declarations name it. -/
theorem listed_described_by_first (project : Project) (tree : FileTree) (before : List Operation) :
    (∀ (listing : Operation) (info : Declaration),
      listing.Lists tree (Operation.leave tree (.empty project) before) info →
      ∃ first, (Operation.leave tree (.empty project) (before ++ [listing])).first? info.name =
          some first ∧
        ∀ after, DescribedBy tree
          (Operation.leave tree (.empty project) (before ++ listing :: after)) info first) ∧
    ∀ (path wanted : String) (recursive : Bool) (listed : List Declaration) (start : ClassIndex),
      outcome (indexDirectory tree path recursive false)
          (Operation.leave tree (.empty project) before) = (.ok listed, start) →
      Ends (discover tree (.str path) { filters := byInterface wanted, recursive })
        (Operation.leave tree (.empty project) before)
        (fun shown later => ∀ info ∈ listed, ∀ first,
          Sought tree start later wanted info first → info ∈ shown)
        (fun fault later => ∀ info ∈ listed, ∀ first,
          Sought tree start later wanted info first → ∃ other ∈ listed, ∃ between,
            outcome (interfaceNames tree other) between = (.error fault, later)) := by
  refine ⟨fun listing info lists => lists.describedBy, ?_⟩
  intro path wanted recursive listed start ran
  have passed := Operation.leave_passes (empty_orderly tree project) before
  exact discover_passes passed.orderly
    (fun clean => passed.thorough clean (empty_thorough tree project)) path wanted recursive ran

section Twins

/-- A source that declares an interface and a class with it. -/
def fullSource : Source where
  bytes := Utf8.encode "<?php interface I {} class A implements I {}"
  root := .mk ⟨"program", true, "", 0, 44⟩ [
    .mk ⟨"interface_declaration", true, "", 6, 20⟩ [.mk ⟨"name", true, "name", 16, 17⟩ []],
    .mk ⟨"class_declaration", true, "", 21, 44⟩ [
      .mk ⟨"name", true, "name", 27, 28⟩ [],
      .mk ⟨"class_interface_clause", true, "", 29, 41⟩ [.mk ⟨"name", true, "", 40, 41⟩ []]]]

/-- A source that declares the same class without it. -/
def plainSource : Source where
  bytes := Utf8.encode "<?php class A {}"
  root := .mk ⟨"program", true, "", 0, 16⟩ [
    .mk ⟨"class_declaration", true, "", 6, 16⟩ [.mk ⟨"name", true, "name", 12, 13⟩ []]]

/-- A project that declares a class in two directories. -/
def twinTree : FileTree where
  workingDirectory := ["app"]
  files := [(["app", "full", "A.php"], ⟨fullSource, true⟩),
    (["app", "plain", "A.php"], ⟨plainSource, true⟩)]
  directories := [["app"], ["app", "full"], ["app", "plain"]]

def twinProject : Project := ⟨["app"], "vendor"⟩

/-- The file of a directory. -/
def twinFile (directory : String) : Operation := .indexFile (.parse (directory ++ "/A.php"))

/-- The index that has read the file of a directory. -/
def twinIndex (directory : String) : ClassIndex :=
  Operation.leave twinTree (.empty twinProject) [twinFile directory]

/-- What is listed of a directory after the file of another one has been read. -/
def twinListing (read directory : String) : Except Fault (List Declaration) × ClassIndex :=
  outcome (indexDirectory twinTree directory true false) (twinIndex read)

/-- What is found there under an interface. -/
def twinSearch (read directory wanted : String) : Except Fault (List Declaration) × ClassIndex :=
  outcome (discover twinTree (.str directory) { filters := byInterface wanted, recursive := true })
    (twinIndex read)

/-- The declarations that a lookup returns. -/
def returned (result : Except Fault (List Declaration) × ClassIndex) : List Declaration :=
  result.1.toOption.getD []

theorem eq_returned {result : Except Fault (List Declaration) × ClassIndex}
    (ok : result.1 = .ok (returned result)) : result = (.ok (returned result), result.2) :=
  Prod.ext ok rfl

theorem listed_described_by_first_twins :
    ∃ info ∈ returned (twinListing "full" "plain"), info.interfaces = [] ∧
      (∃ first : Declaration, first.interfaces = ["I"] ∧
        ∀ after, DescribedBy twinTree (Operation.leave twinTree (.empty twinProject)
          ([twinFile "full"] ++ .indexDirectory "plain" true false :: after)) info first) ∧
      info ∈ returned (twinSearch "full" "plain" "\\I") := by
  have facts : (twinListing "full" "plain").1 = .ok (returned (twinListing "full" "plain")) ∧
      (twinSearch "full" "plain" "\\I").1 = .ok (returned (twinSearch "full" "plain" "\\I")) ∧
      ((twinListing "full" "plain").2.class? (Name.key "\\I")).map (·.name) = some "I" ∧
      ((twinSearch "full" "plain" "\\I").2.class? (Name.key "\\I")).map (·.name) = some "I" ∧
      ∃ info ∈ returned (twinListing "full" "plain"), info.interfaces = [] ∧
        Name.key "\\I" ≠ Name.key info.name ∧
        ((Operation.leave twinTree (.empty twinProject) ([twinFile "full"] ++
          [.indexDirectory "plain" true false])).first? info.name).map (·.interfaces) = some ["I"] ∧
        ∃ first ∈ (twinListing "full" "plain").2.first? info.name, first.interfaces = ["I"] ∧
          first.traits = [] := by
    decide +kernel
  obtain ⟨listing, search, early, late, info, listed, none, other, named, start, isStart, startNamed,
    noTraits⟩ := facts
  obtain ⟨described, keeps⟩ := listed_described_by_first twinProject twinTree [twinFile "full"]
  obtain ⟨first, isFirst, holds⟩ := described (.indexDirectory "plain" true false) info
    ⟨_, _, eq_returned listing, listed⟩
  have spells : ∀ index : ClassIndex, (index.class? (Name.key "\\I")).map (·.name) = some "I" →
      index.Spells start "\\I" := by
    intro index isKnown
    obtain ⟨known, found, isName⟩ := Option.map_eq_some_iff.mp isKnown
    simp only [Spells, found, isName]
    decide
  have sought : Sought twinTree (twinListing "full" "plain").2 (twinSearch "full" "plain" "\\I").2
      "\\I" info start := by
    refine ⟨isStart, ?_, other, spells _ late, .inl (spells _ early)⟩
    rw [Declaration.BuildsOn, startNamed, noTraits]
    decide
  rw [isFirst] at named
  exact ⟨info, listed, none, ⟨first, Option.some_inj.mp named, holds⟩,
    (keeps "plain" "\\I" true _ _ (eq_returned listing)).returned (eq_returned search) info listed start
      sought⟩

/-- A class that names an interface is listed but not described so, if another declaration of it was read
before. -/
theorem listed_not_described_by_itself :
    ∃ info, (Operation.indexDirectory "full" true false).Lists twinTree (twinIndex "plain") info ∧
      "I" ∈ info.interfaces ∧
      (outcome (interfaceNames twinTree info) (Operation.leave twinTree (twinIndex "plain")
        [.indexDirectory "full" true false])).1 = .ok [] ∧
      (twinSearch "plain" "full" "I").1 = .error (.failure .nothingMatches) := by
  have facts : (twinListing "plain" "full").1 = .ok (returned (twinListing "plain" "full")) ∧
      (twinSearch "plain" "full" "I").1 = .error (.failure .nothingMatches) ∧
      ∃ info ∈ returned (twinListing "plain" "full"), "I" ∈ info.interfaces ∧
        (outcome (interfaceNames twinTree info) (Operation.leave twinTree (twinIndex "plain")
          [.indexDirectory "full" true false])).1 = .ok [] := by
    decide +kernel
  obtain ⟨listing, search, info, listed, named, none⟩ := facts
  exact ⟨info, ⟨_, _, eq_returned listing, listed⟩, named, none, search⟩

/-- A source that declares a class without the name of its parent, and a class with a blank name. -/
def blankSource : Source where
  bytes := Utf8.encode "<?php class A extends \\ {} class \u2028 {}"
  root := .mk ⟨"program", true, "", 0, 39⟩ [
    .mk ⟨"class_declaration", true, "", 6, 26⟩ [
      .mk ⟨"name", true, "name", 12, 13⟩ [],
      .mk ⟨"base_clause", true, "", 14, 23⟩ [.mk ⟨"qualified_name", true, "", 22, 23⟩ []]],
    .mk ⟨"class_declaration", true, "", 27, 39⟩ [.mk ⟨"name", true, "name", 33, 36⟩ []]]

def blankTree : FileTree where
  workingDirectory := ["app"]
  files := [(["app", "A.php"], ⟨blankSource, true⟩)]
  directories := [["app"]]

/-- The missing name is the key of a known class, which is still not reported as the parent. -/
example :
    ∃ info ∈ returned (outcome (indexFile blankTree ["app", "A.php"]) (.empty twinProject)),
      info.parent = some "" ∧
      ((Operation.leave blankTree (.empty twinProject) [.indexFile (.parse "A.php")]).class?
        (Name.key "")).isSome = true ∧
      (outcome (parentChain blankTree info)
        (Operation.leave blankTree (.empty twinProject) [.indexFile (.parse "A.php")])).1 = .ok [] := by
  decide +kernel

end Twins

end Listing

end ClassAtlas
