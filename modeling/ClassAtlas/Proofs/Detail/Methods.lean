import ClassAtlas.Proofs.Detail.Holders
import Mathlib.Data.List.Forall2

/-!
A class detail and a lookup agree about methods.

The detail goes through the lineage without repetitions and takes the first method of each name; the lookup
goes through the lineage as it is, up to the first method with the name. On an index in which the lineage
of a class is settled, both find the same method, except that the detail leaves out the private methods of
other classes.
-/

namespace ClassAtlas

namespace Detail

open ClassIndex Lookup

/-- Whether a method is left out of the detail of a class: private methods of other classes are. -/
def isHidden (declaration holder : Declaration) (method : Method) : Bool :=
  holder != declaration && holder.kind == .classKind && method.visibility == .isPrivate

/-- Whether an entry is one for a method with a name; case does not count. -/
def isNamed (name : String) (entry : Json) : Bool :=
  ((entry.field? "methodName").bind Json.text?).any fun shown => Text.lower shown == Text.lower name

/-- The methods that the detail of a class lists for one that is found on a holder: only this one, and
none if it is hidden. -/
def listedFor (declaration : Declaration) (found : Option (Declaration × Method)) : List Method :=
  (found.toList.filter fun (holder, method) => !isHidden declaration holder method).map (·.2)

/-- A flag of an entry, which is left out when it is not set. -/
def flagged (isSet : Bool) : Option Json := if isSet then some (.bool true) else none

/-- Whether an entry of the detail of a class tells what a method is: its name and its signature, where it
stands, its flags, and the class that declares it if this is another one. -/
structure IsEntryOf (declaration : Declaration) (method : Method) (entry : Json) : Prop where
  methodName : entry.field? "methodName" = some (.str method.name)
  parameters : entry.field? "parameters" =
    some (.list (method.parameters.map fun parameter => .str parameter.name))
  returnType : entry.field? "returnType" = some (method.returnType.elim .null .str)
  startLine : entry.field? "startLine" = some (.int method.startLine)
  endLine : entry.field? "endLine" = some (.int method.endLine)
  isStatic : entry.field? "isStatic" = flagged method.isStatic
  isPublic : entry.field? "isPublic" = flagged (method.visibility == .isPublic)
  isProtected : entry.field? "isProtected" = flagged (method.visibility == .isProtected)
  isPrivate : entry.field? "isPrivate" = flagged (method.visibility == .isPrivate)
  isAbstract : entry.field? "isAbstract" = flagged method.isAbstract
  isFinal : entry.field? "isFinal" = flagged method.isFinal
  declaringClass : entry.field? "declaringClass" =
    if Name.key method.declaringClass = Name.key declaration.name then none
    else some (.str method.declaringClass)

/-- The first method with a name in a lineage, with the declaration that holds it. -/
def firstMethod? (lineage : List Declaration) (name : String) : Option (Declaration × Method) :=
  lineage.findSome? fun holder => (holder.method? name).map (holder, ·)

section Listing

variable {own : Declaration} {others : List Declaration} {levels : List VisibilityLevel} {name : String}

theorem isNamed_methodJson (docs : DocOptions) (declaration : Declaration) (method : Method) :
    isNamed name (methodJson docs declaration method) = (Text.lower method.name == Text.lower name) := by
  simp [isNamed, methodJson, Json.field?, Json.text?]

/-- The entry that is made for a method is one of it. -/
theorem isEntryOf_methodJson (docs : DocOptions) (declaration : Declaration) (method : Method) :
    IsEntryOf declaration method (methodJson docs declaration method) := by
  have typed : Json.ofText? method.returnType = method.returnType.elim .null .str := by
    cases method.returnType <;> rfl
  constructor
  all_goals
    simp (disch := decide) only [methodJson, Json.field?, List.lookup_append, lookup_flag,
      lookup_declaredBy, lookup_docs, typed, Json.nat, flagged]
    cases method.visibility <;> simp [Visibility.flag, List.lookup_cons]

theorem firstMethod?_cons (holder : Declaration) (rest : List Declaration) (name : String) :
    firstMethod? (holder :: rest) name =
      ((holder.method? name).map (holder, ·)).or (firstMethod? rest name) := by
  rw [firstMethod?, List.findSome?_cons]
  cases holder.method? name <;> rfl

theorem map_firstMethod? (lineage : List Declaration) (name : String) :
    (firstMethod? lineage name).map (·.2) = lineage.findSome? (·.method? name) := by
  induction lineage with
  | nil => rfl
  | cons holder rest inductionHypothesis =>
    rw [firstMethod?_cons, List.findSome?_cons, ← inductionHypothesis]
    cases holder.method? name <;> rfl

theorem find?_tagged (isOwn : Bool) (holder : Declaration) (name : String) :
    (holder.methods.map (isOwn, holder, ·)).find?
        (fun (_, _, method) => Text.lower method.name == Text.lower name) =
      (holder.method? name).map (isOwn, holder, ·) :=
  List.find?_map ..

/-- The first of the members with a name, with its holder and whether this is the class itself. -/
theorem find?_membersOf (apart : ∀ other ∈ others, other ≠ own) (name : String) :
    (membersOf (fun holder => holder.methods) (own :: others)).find?
        (fun (_, _, method) => Text.lower method.name == Text.lower name) =
      (firstMethod? (own :: others) name).map fun (holder, method) => (holder == own, holder, method) := by
  have inherited : (others.flatMap fun other => other.methods.map (false, other, ·)).find?
        (fun (_, _, method) => Text.lower method.name == Text.lower name) =
      (firstMethod? others name).map fun (holder, method) => (holder == own, holder, method) := by
    induction others with
    | nil => rfl
    | cons other rest inductionHypothesis =>
      rw [List.forall_mem_cons] at apart
      rw [List.flatMap_cons, List.find?_append, find?_tagged, inductionHypothesis apart.2,
        firstMethod?_cons]
      cases other.method? name with
      | none => rfl
      | some method => simp [beq_eq_false_iff_ne.mpr apart.1]
  rw [membersOf, List.find?_append, find?_tagged, inherited, firstMethod?_cons]
  cases own.method? name with
  | none => rfl
  | some method => simp

/-- Of the methods of a class, the one with a name is the first in the lineage, unless it is hidden. -/
theorem filter_methods (apart : ∀ other ∈ others, other ≠ own) (all : .all ∈ levels) (name : String) :
    (methods (own :: others) levels).filter (fun method => Text.lower method.name == Text.lower name) =
      listedFor own (firstMethod? (own :: others) name) := by
  have admitted (visibility : Visibility) : VisibilityLevel.admits levels visibility = true := by
    simp [VisibilityLevel.admits, all]
  rw [methods, List.filter_map, List.filter_comm]
  have first := filter_firsts (fun (_, _, method) => Text.lower method.name) (Text.lower name) []
    (membersOf (fun holder => holder.methods) (own :: others))
  rw [if_neg (by simp)] at first
  simp only [Function.comp_def]
  rw [first, find?_membersOf apart]
  cases firstMethod? (own :: others) name with
  | none => rfl
  | some found =>
    obtain ⟨holder, method⟩ := found
    have shown : (belongs (holder == own) holder method.visibility &&
        VisibilityLevel.admits levels method.visibility) = !isHidden own holder method := by
      simp only [belongs, isHidden, admitted, bne, Bool.and_true, Bool.not_and, Bool.not_not]
    simp only [listedFor, Option.map_some, Option.toList_some, List.filter_cons, List.filter_nil, shown]
    cases isHidden own holder method <;> rfl

end Listing

/-- The first method with a name in the lineage of a class, also when nothing is listed twice. -/
theorem firstMethod?_distinct {index : ClassIndex} {project : Project} {tree : FileTree}
    {info : Declaration} (accurate : index.Accurate project tree)
    (registered : index.class? (Name.key info.name) = some info) (name : String) :
    firstMethod? (distinct [] (index.lineageOf info)) name = firstMethod? (index.lineageOf info) name := by
  refine findSome?_distinct _ ?_ (by simp)
  intro first firstListed second secondListed same
  obtain ⟨firstKey, firstKnown⟩ := exists_class?_of_mem_lineageOf registered first firstListed
  obtain ⟨secondKey, secondKnown⟩ := exists_class?_of_mem_lineageOf registered second secondListed
  rw [accurate.named _ _ firstKnown, accurate.named _ _ secondKnown] at same
  rw [same, secondKnown] at firstKnown
  exact (Option.some.inj firstKnown).symm

/-- The lineage that a detail goes through begins with the class, which does not come again. -/
theorem exists_distinct_lineageOf (index : ClassIndex) (info : Declaration) :
    ∃ others, distinct [] (index.lineageOf info) = info :: others ∧ ∀ other ∈ others, other ≠ info := by
  have begins : ∃ rest, index.lineageOf info = info :: rest := ⟨_, rfl⟩
  obtain ⟨rest, isLineage⟩ := begins
  refine ⟨distinct [Name.key info.name] rest, by rw [isLineage]; rfl, ?_⟩
  rintro other member rfl
  exact (mem_distinct member).2 List.mem_cons_self

/-- A name leads to the class that is known under it, if there is no such file. -/
theorem follow_gives {tree : FileTree} {index : ClassIndex} {name : String} {info : Declaration}
    (given : (Text.trim name).isEmpty = false)
    (noFile : ClassReference.file? tree index.project (Text.trim name) = none)
    (known : index.class? (Name.key (Text.trim name)) = some info) :
    Gives (ClassReference.follow tree (.str name)) index ⟨Text.trim name, info⟩ := by
  have settled : index.isSettled (Name.key (Text.trim name)) = true := by
    rw [isSettled, known]
    rfl
  refine .of_ends ?_
  rw [ClassReference.follow]
  refine Ends.ofExcept_bind ?_ fun _ failed => by cases failed
  rintro _ ⟨⟩
  refine Ends.unless (fun empty => by rw [given] at empty; cases empty) fun _ => ?_
  refine Ends.get_bind ?_
  rw [noFile]
  refine Ends.bind (find_of_isSettled settled) ?_
  rintro _ _ ⟨rfl, rfl⟩
  rw [known]
  exact Ends.pure ⟨rfl, rfl⟩

/-- On an index in which the lineage of a class is settled, the detail of the class shows the method that
is found under a name, unless it is a private method of another class, and no other method with the name.
The detail raises a fault only if the description of the class does. -/
theorem methods_agree_with_lookup {project : Project} {tree : FileTree} {actions : List Action}
    {index : ClassIndex} {info : Declaration} {plan : DetailPlan}
    (reached : Action.leave tree (.empty project) actions = index)
    (registered : index.class? (Name.key info.name) = some info) (isClass : info.isInterface = false)
    (settled : index.LineageSettled info) (inherited : plan.includeInherited = true)
    (all : .all ∈ plan.levels) (anyMethod : plan.staticOnly = false)
    (whole : plan.methods = ⟨true, 0, 0⟩) (name : String) :
    let found := firstMethod? (index.lineageOf info) name
    outcome (Lookup.lineage tree info true) index = (.ok (index.lineageOf info), index) ∧
      outcome (findMethod? tree info name) index = (.ok (found.map (·.2)), index) ∧
      Ends (detail tree plan info) index
        (fun shown _ => ∃ entries, shown.field? "methods" = some (.list entries) ∧
          List.Forall₂ (IsEntryOf info) (listedFor info found) (entries.filter (isNamed name)))
        (fun fault later =>
          outcome (Description.describe tree (docsOf plan) true info) index = (.error fault, later)) ∧
      ∀ (start : ClassIndex) (reference : Json) (options : DetailOptions) (raw : String),
        options.plan = .ok plan →
        outcome (ClassReference.follow tree reference) start = (.ok ⟨raw, info⟩, index) →
        outcome (inspect tree reference options) start = outcome (detail tree plan info) index := by
  have accurate : index.Accurate project tree := by
    rw [← reached]
    exact (Action.leave_candid project tree actions).toAccurate
  have listed := lineage_gives accurate settled
  refine ⟨listed, ?_, ?_, fun start reference options raw => outcome_inspect⟩
  · rw [map_firstMethod?]
    exact findMethod?_gives accurate settled name
  · obtain ⟨others, isDistinct, apart⟩ := exists_distinct_lineageOf index info
    have detailed : Gives (lineage tree info true) index (info :: others) := by
      rw [← isDistinct]
      exact Gives.bind listed (.pure _)
    rw [detail, inherited]
    refine Ends.bind (Ends.of_ok detailed) ?_
    rintro _ _ ⟨rfl, rfl⟩
    refine (describe_shows tree index plan _ info (info :: others)).mono ?_ fun _ _ => id
    intro shown left shows
    have isShown := shows.methods
    rw [whole, isClass] at isShown
    refine ⟨_, isShown, ?_⟩
    have chosen : chosenMethods plan (info :: others) = methods (info :: others) plan.levels := by
      rw [chosenMethods, anyMethod]
      exact List.filter_eq_self.mpr fun _ _ => rfl
    have named : isNamed name ∘ methodJson (docsOf plan) info =
        fun method => Text.lower method.name == Text.lower name := by
      funext method
      exact isNamed_methodJson _ info method
    have unpaged (entries : List Json) : sectionPage entries 0 0 = entries := rfl
    rw [unpaged, chosen, List.filter_map, named, filter_methods apart all, ← isDistinct,
      firstMethod?_distinct accurate registered, List.forall₂_map_right_iff, List.forall₂_same]
    exact fun method _ => isEntryOf_methodJson _ info method

section Members

/-- A source that declares a class and its parent, which has members. -/
def memberSource : Source where
  bytes := Utf8.encode ("<?php class A extends B \x7b\x7d class B \x7b private const K = 1; " ++
    "private $p; function f() \x7b\x7d private function g() \x7b\x7d \x7d")
  root :=
    let leaf (kind field : String) (start stop : Nat) : Node := .mk ⟨kind, true, field, start, stop⟩ []
    .mk ⟨"program", true, "", 0, 111⟩ [
      .mk ⟨"class_declaration", true, "", 6, 26⟩ [
        leaf "name" "name" 12 13, .mk ⟨"base_clause", true, "", 14, 23⟩ [leaf "name" "" 22 23]],
      .mk ⟨"class_declaration", true, "", 27, 111⟩ [
        leaf "name" "name" 33 34,
        .mk ⟨"declaration_list", true, "body", 35, 111⟩ [
          .mk ⟨"const_declaration", true, "", 37, 57⟩ [
            leaf "visibility_modifier" "" 37 44,
            .mk ⟨"const_element", true, "", 51, 56⟩ [leaf "name" "" 51 52, leaf "integer" "" 55 56]],
          .mk ⟨"property_declaration", true, "", 58, 69⟩ [
            leaf "visibility_modifier" "" 58 65,
            .mk ⟨"property_element", true, "", 66, 68⟩ [leaf "variable_name" "name" 66 68]],
          .mk ⟨"method_declaration", true, "", 70, 85⟩ [leaf "name" "name" 79 80],
          .mk ⟨"method_declaration", true, "", 86, 109⟩ [
            leaf "visibility_modifier" "" 86 93, leaf "name" "name" 103 104]]]]

/-- A project with this source. -/
def memberTree : FileTree where
  workingDirectory := ["app"]
  files := [(["app", "members.php"], ⟨memberSource, true⟩)]
  directories := [["app"]]

def memberProject : Project := ⟨["app"], "vendor"⟩

/-- All members, inherited ones too. -/
def allMembers : DetailOptions := { includeInherited := .bool true, visibility := .str "all" }

def allMembersPlan : DetailPlan where
  constants := ⟨true, 0, 0⟩
  properties := ⟨true, 0, 0⟩
  methods := ⟨true, 0, 0⟩
  includeInherited := true
  summaryOnly := true
  staticOnly := false
  rawDocBlock := false
  levels := [.all]

/-- The index once the class has been looked up. -/
def memberIndex : ClassIndex := Action.leave memberTree (.empty memberProject) [.ask (.get "A")]

theorem memberIndex_exhausted : IsExhausted memberIndex := by
  have facts : memberIndex.complete = true ∧ memberIndex.roots.map List.length = some 0 := by
    decide +kernel
  obtain ⟨roots, isRoots, none⟩ := Option.map_eq_some_iff.mp facts.2
  rw [List.length_eq_zero_iff] at none
  exact ⟨facts.1, isRoots.trans (congrArg some none)⟩

theorem methods_agree_with_lookup_inherited :
    ∃ info holder method shown later entries entry,
      firstMethod? (memberIndex.lineageOf info) "F" = some (holder, method) ∧
      info.name = "A" ∧ holder.name = "B" ∧
      outcome (findMethod? memberTree info "F") memberIndex = (.ok (some method), memberIndex) ∧
      outcome (inspect memberTree (.str "A") allMembers) memberIndex = (.ok shown, later) ∧
      shown.field? "methods" = some (.list entries) ∧ entries.filter (isNamed "F") = [entry] ∧
      entry.field? "methodName" = some (.str "f") ∧ entry.field? "startLine" = some (.int 1) ∧
      entry.field? "isPublic" = some (.bool true) ∧ entry.field? "isStatic" = none ∧
      entry.field? "declaringClass" = some (.str "B") := by
  have facts : ∃ info ∈ memberIndex.class? "a", info.name = "A" ∧ info.isInterface = false ∧
      memberIndex.LineageSettled info ∧
      ClassReference.file? memberTree memberIndex.project "A" = none ∧
      ∃ found ∈ firstMethod? (memberIndex.lineageOf info) "F", found.1.name = "B" ∧
        isHidden info found.1 found.2 = false ∧ found.2.name = "f" ∧ found.2.startLine = 1 ∧
        found.2.visibility = .isPublic ∧ found.2.isStatic = false ∧ found.2.declaringClass = "B" := by
    decide +kernel
  obtain ⟨info, known, isName, isClass, settled, noFile, ⟨holder, method⟩, isFound,
    isHolder, shows, isMethod, line, isPublic, notStatic, declared⟩ := facts
  have reached : Action.leave memberTree (.empty memberProject) [.ask (.get "A")] = memberIndex := rfl
  have registered : memberIndex.class? (Name.key info.name) = some info := by
    rw [isName]
    exact known
  have planned : allMembers.plan = .ok allMembersPlan := rfl
  have all : .all ∈ allMembersPlan.levels := List.mem_singleton_self _
  obtain ⟨-, finds, ends, inspects⟩ :=
    methods_agree_with_lookup reached registered isClass settled rfl all rfl rfl "F"
  rw [isFound] at finds ends
  have listed : listedFor info (some (holder, method)) = [method] := by simp [listedFor, shows]
  rw [listed] at ends
  have returns := ends.mono (fun _ _ => id) fun _ _ failed =>
    (describe_returns memberTree _ true info memberIndex memberIndex_exhausted).raised failed
  obtain ⟨shown, later, ran, entries, isSection, agrees⟩ := returns.ok
  have followed : outcome (ClassReference.follow memberTree (.str "A")) memberIndex =
      (.ok ⟨"A", info⟩, memberIndex) := follow_gives rfl noFile known
  have inspected := (inspects memberIndex (.str "A") allMembers "A" planned followed).trans ran
  obtain ⟨entry, _, isEntry, ⟨⟩, filtered⟩ := List.forall₂_cons_left_iff.mp agrees
  have elsewhere : Name.key "B" ≠ Name.key "A" := by decide
  refine ⟨info, holder, method, shown, later, entries, entry, isFound, isName, isHolder, finds, inspected,
    isSection, filtered, ?_, ?_, ?_, ?_, ?_⟩
  · rw [isEntry.methodName, isMethod]
  · rw [isEntry.startLine, line]
    rfl
  · rw [isEntry.isPublic, isPublic]
    rfl
  · rw [isEntry.isStatic, notStatic]
    rfl
  · rw [isEntry.declaringClass, declared, isName, if_neg elsewhere]

end Members

end Detail

end ClassAtlas
