import ClassAtlas.Detail.Description
import ClassAtlas.Detail.Options
import ClassAtlas.Detail.Reference
import ClassAtlas.Page

/-!
The detail of a class: its description with its constants, properties and methods.

Members come from a list of declarations, the class itself first. Of members with one name the first
counts, and private properties and methods of other classes do not belong to the class.
-/

namespace ClassAtlas

namespace Detail

/-- Declarations without those whose name came before. -/
def distinct (seen : List String) : List Declaration → List Declaration
  | [] => []
  | declaration :: rest =>
    let key := Name.key declaration.name
    if seen.contains key then distinct seen rest else declaration :: distinct (key :: seen) rest

/-- The declarations whose members count, most specific first. Traits always count; ancestors and
interfaces only when inherited members are wanted. -/
def lineage (tree : FileTree) (declaration : Declaration) (includeInherited : Bool) :
    Lookup (List Declaration) := do
  let all ←
    if includeInherited then Lookup.lineage tree declaration true
    else pure (declaration :: (← Lookup.traitClosure tree declaration))
  return distinct [] all

/-- Members without those whose key came before. -/
def firsts {α : Type} (key : α → String) (seen : List String) : List α → List α
  | [] => []
  | item :: rest =>
    if seen.contains (key item) then firsts key seen rest
    else item :: firsts key (key item :: seen) rest

/-- Members of declarations, each with its declaration and whether that is the class itself. -/
def membersOf {α : Type} (select : Declaration → List α) (declarations : List Declaration) :
    List (Bool × Declaration × α) :=
  match declarations with
  | [] => []
  | own :: others =>
    (select own).map (true, own, ·) ++
      others.flatMap fun other => (select other).map (false, other, ·)

/-- Whether a member belongs to the class: private members of other classes do not. -/
def belongs (isOwn : Bool) (holder : Declaration) (visibility : Visibility) : Bool :=
  isOwn || holder.kind != .classKind || visibility != .isPrivate

/-- The declaring class of a member, if it is another one. -/
def declaredBy (declaration : Declaration) (declaringClass : String) : List (String × Json) :=
  if Name.key declaringClass != Name.key declaration.name then
    [("declaringClass", .str declaringClass)]
  else []

/-- A flag as a member, left out when it is not set. -/
def flag (name : String) (isSet : Bool) : List (String × Json) :=
  if isSet then [(name, .bool true)] else []

/-- A constant as an object. -/
def constantJson (docs : DocOptions) (declaration : Declaration) (constant : Constant) : Json :=
  .object ([
    ("constantName", .str constant.name),
    ("value", .ofText? constant.value),
    ("startLine", .nat constant.startLine),
    ("endLine", .nat constant.endLine)] ++
    declaredBy declaration constant.declaringClass ++ docs.members constant.docBlock false)

/-- A property as an object. -/
def propertyJson (docs : DocOptions) (declaration : Declaration) (property : Property) : Json :=
  .object ([
    ("propertyName", .str property.name),
    ("type", .ofText? property.type),
    ("defaultValue", .ofText? property.default),
    ("startLine", .nat property.startLine),
    ("endLine", .nat property.endLine)] ++
    flag "isStatic" property.isStatic ++ flag property.visibility.flag true ++
    flag "isReadonly" property.isReadonly ++
    declaredBy declaration property.declaringClass ++ docs.members property.docBlock false)

/-- A method as an object. -/
def methodJson (docs : DocOptions) (declaration : Declaration) (method : Method) : Json :=
  .object ([
    ("methodName", .str method.name),
    ("parameters", .list (method.parameters.map fun parameter => .str parameter.name)),
    ("returnType", .ofText? method.returnType),
    ("startLine", .nat method.startLine),
    ("endLine", .nat method.endLine)] ++
    flag "isStatic" method.isStatic ++ flag method.visibility.flag true ++
    flag "isAbstract" method.isAbstract ++ flag "isFinal" method.isFinal ++
    declaredBy declaration method.declaringClass ++ docs.members method.docBlock false)

/-- The constants of a class. -/
def constants (lineage : List Declaration) : List Constant :=
  firsts Constant.name [] (lineage.flatMap (·.constants))

/-- The properties of a class that a visibility filter admits. Interfaces have none. -/
def properties (lineage : List Declaration) (levels : List VisibilityLevel) : List Property :=
  let all := membersOf (fun holder => if holder.isInterface then [] else holder.properties) lineage
  let counted := firsts (fun (_, _, property) => property.name) [] all
  (counted.filter fun (isOwn, holder, property) =>
    belongs isOwn holder property.visibility && VisibilityLevel.admits levels property.visibility).map
    fun (_, _, property) => property

/-- The methods of a class that a visibility filter admits; case does not count in their names. -/
def methods (lineage : List Declaration) (levels : List VisibilityLevel) : List Method :=
  let all := membersOf (fun holder => holder.methods) lineage
  let counted := firsts (fun (_, _, method) => Text.lower method.name) [] all
  (counted.filter fun (isOwn, holder, method) =>
    belongs isOwn holder method.visibility && VisibilityLevel.admits levels method.visibility).map
    fun (_, _, method) => method

/-- A section of members, cut to its page; absent if it is not shown. -/
def sectionMember (key : String) (plan : SectionPlan) (items : List Json) : List (String × Json) :=
  if plan.isShown then [(key, .list (sectionPage items plan.offset plan.limit))] else []

/-- The sections of members that a plan asks for. Of an interface only constants are listed. -/
def sections (plan : DetailPlan) (docs : DocOptions) (declaration : Declaration)
    (lineage : List Declaration) : List (String × Json) :=
  let constants := sectionMember "constants" plan.constants
    ((constants lineage).map (constantJson docs declaration))
  if declaration.isInterface then constants
  else
    let chosen := (methods lineage plan.levels).filter fun method =>
      !plan.staticOnly || method.isStatic
    constants ++
      sectionMember "properties" plan.properties
        ((properties lineage plan.levels).map (propertyJson docs declaration)) ++
      sectionMember "methods" plan.methods (chosen.map (methodJson docs declaration))

/-- The detail of the class that a reference leads to. -/
def inspect (tree : FileTree) (reference : Json) (options : DetailOptions) : Lookup Json := do
  let plan ← Lookup.ofExcept options.plan
  let found ← ClassReference.follow tree reference
  let docs : DocOptions := ⟨true, plan.summaryOnly, plan.rawDocBlock⟩
  let lineage ← lineage tree found.declaration plan.includeInherited
  let description ← Description.describe tree docs true found.declaration
  return .object (description ++ sections plan docs found.declaration lineage)

end Detail

end ClassAtlas
