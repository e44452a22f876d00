import ClassAtlas.Declaration.Basic
import ClassAtlas.Declaration.TypeText
import ClassAtlas.Token.Stream

/-!
Reading declarations from a syntax tree.

Every outermost declaration of a file counts, conditional ones included. A namespace with a body holds
the declarations of its body; one without a body holds those that follow it.
-/

namespace ClassAtlas

/-- Nodes with the node before each of them. -/
def Node.withPrevious (previous : Option Node) : List Node → List (Option Node × Node)
  | [] => []
  | node :: rest => (previous, node) :: withPrevious (some node) rest

/-- The children that are grammar symbols, each with the child before it. -/
def Node.namedWithPrevious (node : Node) : List (Option Node × Node) :=
  (withPrevious none node.children).filter (·.2.label.named)

/-- What is needed to read the declarations of one file. -/
structure DeclarationReader where
  source : Source
  file : String
  aliases : Aliases

namespace DeclarationReader

/-- The text of a node, empty if there is none. -/
def text? (reader : DeclarationReader) : Option Node → String
  | none => ""
  | some node => reader.source.nodeText node

/-- The text of the child that fills a field, empty if there is none. -/
def fieldText (reader : DeclarationReader) (node : Node) (field : String) : String :=
  reader.text? (node.child? field)

/-- The kind of declaration that a kind of node is. -/
def kindOf? (kind : String) : Option DeclarationKind :=
  [("class_declaration", .classKind), ("interface_declaration", .interfaceKind),
    ("trait_declaration", .traitKind), ("enum_declaration", .enumKind)].lookup kind

/-- The documentation comment directly before a node. -/
def docBlock? (reader : DeclarationReader) (previous : Option Node) : Option DocBlock :=
  match previous with
  | none => none
  | some node =>
    let raw := reader.source.nodeText node
    if node.kind == "comment" && Text.startsWith raw "/**" then some (DocBlock.parse raw) else none

/-- The modifiers of a declaration or member, in lowercase. -/
def modifiers (reader : DeclarationReader) (node : Node) : List String :=
  (node.children.filter fun child => Text.endsWith child.kind "_modifier").map
    fun child => Text.lower (reader.source.nodeText child)

/-- The visibility that modifiers give; without one a member is public. -/
def visibilityOf (modifiers : List String) : Visibility :=
  if modifiers.contains "private" then .isPrivate
  else if modifiers.contains "protected" then .isProtected
  else .isPublic

/-- The names among the children of a clause, resolved. -/
def namesIn (reader : DeclarationReader) (space : String) (node : Node) : List String :=
  (node.namedChildren.filter fun child => child.kind == "name" || child.kind == "qualified_name").map
    fun child => Name.resolve reader.aliases space (reader.source.nodeText child)

/-- The type that fills the field of a node, resolved. -/
def typeIn? (reader : DeclarationReader) (space : String) (node : Node) (field : String) :
    Option String :=
  TypeText.resolve? reader.aliases space (reader.fieldText node field)

/-- The variable that a parameter or property declares, without its dollar sign. -/
def variableName (reader : DeclarationReader) (node : Node) : String :=
  let found :=
    match node.child? "name" with
    | some child => some child
    | none => node.namedChildren.find? (·.kind == "variable_name")
  Text.dropStart (reader.text? found) (· == '$')

/-- Whether a node is a parameter that also declares a property. -/
def isPromotion (node : Node) : Bool := node.kind == "property_promotion_parameter"

/-- Reads a parameter. -/
def parameter (reader : DeclarationReader) (space : String) (node : Node) : Parameter where
  name := reader.variableName node
  type := reader.typeIn? space node "type"
  default := (node.child? "default_value").map reader.source.nodeText
  isVariadic := node.kind == "variadic_parameter"
  byReference := node.children.any fun child =>
    child.kind == "reference_modifier" || child.kind == "&"
  isPromoted := isPromotion node

/-- The nodes of the parameters of a method. -/
def parameterNodes (node : Node) : List Node :=
  match node.child? "parameters" with
  | none => []
  | some list => list.namedChildren.filter fun child => Text.endsWith child.kind "_parameter"

/-- Reads a method of a declaration. Methods of interfaces are abstract. -/
def method (reader : DeclarationReader) (owner : Declaration) (previous : Option Node)
    (node : Node) : Method :=
  let modifiers := reader.modifiers node
  { name := reader.fieldText node "name"
    declaringClass := owner.name
    visibility := visibilityOf modifiers
    isStatic := modifiers.contains "static"
    isAbstract := modifiers.contains "abstract" || owner.isInterface
    isFinal := modifiers.contains "final"
    parameters := (parameterNodes node).map (reader.parameter owner.space)
    returnType := reader.typeIn? owner.space node "return_type"
    docBlock := reader.docBlock? previous
    startLine := reader.source.startLine node
    endLine := reader.source.endLine node }

/-- Reads the property that a promoted parameter declares. -/
def promotedProperty (reader : DeclarationReader) (owner : Declaration) (node : Node) : Property :=
  let modifiers := reader.modifiers node
  { name := reader.variableName node
    declaringClass := owner.name
    visibility := visibilityOf modifiers
    isStatic := false
    isReadonly := modifiers.contains "readonly" || owner.isReadonly
    type := reader.typeIn? owner.space node "type"
    default := none
    docBlock := none
    startLine := reader.source.startLine node
    endLine := reader.source.endLine node }

/-- The default value of a property: the field made for it, or the last part of an initializer. -/
def defaultOf? (element : Node) : Option Node :=
  match element.child? "default_value" with
  | some value => some value
  | none =>
    match element.namedChildren.find? (·.kind == "property_initializer") with
    | none => none
    | some initializer => initializer.namedChildren.getLast?

/-- Reads the properties of one declaration statement. -/
def properties (reader : DeclarationReader) (owner : Declaration) (previous : Option Node)
    (node : Node) : List Property :=
  let modifiers := reader.modifiers node
  (node.namedChildren.filter (·.kind == "property_element")).map fun element =>
    { name := reader.variableName element
      declaringClass := owner.name
      visibility := visibilityOf modifiers
      isStatic := modifiers.contains "static"
      isReadonly := modifiers.contains "readonly" || owner.isReadonly
      type := reader.typeIn? owner.space node "type"
      default := (defaultOf? element).map reader.source.nodeText
      docBlock := reader.docBlock? previous
      startLine := reader.source.startLine node
      endLine := reader.source.endLine node }

/-- Reads one constant of a declaration statement: its name, and its value if it has one. -/
def constant? (reader : DeclarationReader) (owner : Declaration) (previous : Option Node)
    (statement element : Node) : Option Constant :=
  match element.namedChildren with
  | [] => none
  | name :: values =>
    some {
      name := reader.source.nodeText name
      declaringClass := owner.name
      value := values.getLast?.map reader.source.nodeText
      visibility := visibilityOf (reader.modifiers statement)
      docBlock := reader.docBlock? previous
      startLine := reader.source.startLine statement
      endLine := reader.source.endLine statement }

/-- Reads the constants of one declaration statement. -/
def constants (reader : DeclarationReader) (owner : Declaration) (previous : Option Node)
    (node : Node) : List Constant :=
  (node.namedChildren.filter (·.kind == "const_element")).filterMap
    (reader.constant? owner previous node)

/-- Reads an enum case. -/
def enumCase (reader : DeclarationReader) (owner : Declaration) (previous : Option Node)
    (node : Node) : Constant :=
  let value := reader.fieldText node "value"
  { name := reader.fieldText node "name"
    declaringClass := owner.name
    value := if value.isEmpty then none else some value
    visibility := .isPublic
    docBlock := reader.docBlock? previous
    startLine := reader.source.startLine node
    endLine := reader.source.endLine node }

/-- Adds one member of the body to a declaration. -/
def addMember (reader : DeclarationReader) (owner : Declaration)
    (placed : Option Node × Node) : Declaration :=
  let (previous, node) := placed
  if node.kind == "method_declaration" then
    let method := reader.method owner previous node
    let promoted :=
      if Text.lower method.name == "__construct" then
        ((parameterNodes node).filter isPromotion).map (reader.promotedProperty owner)
      else []
    { owner with
      methods := owner.methods ++ [method]
      properties := owner.properties ++ promoted }
  else if node.kind == "property_declaration" then
    { owner with properties := owner.properties ++ reader.properties owner previous node }
  else if node.kind == "const_declaration" then
    { owner with constants := owner.constants ++ reader.constants owner previous node }
  else if node.kind == "enum_case" then
    { owner with constants := owner.constants ++ [reader.enumCase owner previous node] }
  else if node.kind == "use_declaration" then
    { owner with traits := owner.traits ++ reader.namesIn owner.space node }
  else owner

/-- Adds the parents or interfaces of one clause of the header to a declaration. An interface
extends interfaces; any other declaration extends the first name. -/
def addClause (reader : DeclarationReader) (owner : Declaration) (node : Node) : Declaration :=
  if node.kind == "base_clause" then
    let bases := reader.namesIn owner.space node
    if owner.isInterface then { owner with interfaces := owner.interfaces ++ bases }
    else match bases with
      | [] => owner
      | base :: _ => { owner with parent := some base }
  else if node.kind == "class_interface_clause" then
    { owner with interfaces := owner.interfaces ++ reader.namesIn owner.space node }
  else owner

/-- A declaration before its clauses and members are read. -/
def header (reader : DeclarationReader) (space : String) (kind : DeclarationKind)
    (previous : Option Node) (node : Node) : Declaration :=
  let shortName := reader.fieldText node "name"
  let modifiers := reader.modifiers node
  { name := Name.inside space shortName
    shortName := shortName
    space := space
    kind := kind
    file := reader.file
    startLine := reader.source.startLine node
    endLine := reader.source.endLine node
    parent := none
    interfaces := []
    traits := []
    isAbstract := modifiers.contains "abstract"
    isFinal := modifiers.contains "final"
    isReadonly := modifiers.contains "readonly"
    docBlock := reader.docBlock? previous
    methods := []
    properties := []
    constants := [] }

/-- Reads the declaration at a node; absent if it has no name. -/
def declaration? (reader : DeclarationReader) (space : String) (kind : DeclarationKind)
    (previous : Option Node) (node : Node) : Option Declaration :=
  let header := reader.header space kind previous node
  if header.shortName.isEmpty then none
  else
    let header := node.namedChildren.foldl reader.addClause header
    match node.child? "body" with
    | none => some header
    | some body => some (body.namedWithPrevious.foldl reader.addMember header)

mutual

/-- The outermost declarations of a tree, given the node before it. -/
def declarationsIn (reader : DeclarationReader) (space : String) (previous : Option Node) :
    Node → List Declaration
  | .mk label children =>
    match kindOf? label.kind with
    | some kind => (reader.declaration? space kind previous (.mk label children)).toList
    | none => declarationsAmong reader space none children

/-- The outermost declarations of those trees that are grammar symbols, given the node before the
first. -/
def declarationsAmong (reader : DeclarationReader) (space : String) (previous : Option Node) :
    List Node → List Declaration
  | [] => []
  | node :: rest =>
    (if node.label.named then declarationsIn reader space previous node else []) ++
      declarationsAmong reader space (some node) rest

end

/-- Reads one child of the root: the namespace in force after it, and its declarations. -/
def topLevel (reader : DeclarationReader) (space : String) (placed : Option Node × Node) :
    String × List Declaration :=
  let (previous, node) := placed
  if node.kind == "namespace_definition" then
    let name := Text.dropAround (reader.fieldText node "name") Name.isSeparator
    match (Node.withPrevious none node.children).find? (·.2.label.field == "body") with
    | some (before, body) => (space, reader.declarationsIn name before body)
    | none => (name, [])
  else (space, reader.declarationsIn space previous node)

/-- The declarations of the root's children, given the namespace in force. -/
def collect (reader : DeclarationReader) (space : String) :
    List (Option Node × Node) → List Declaration
  | [] => []
  | placed :: rest =>
    let (next, found) := reader.topLevel space placed
    found ++ collect reader next rest

end DeclarationReader

/-- The declarations of a source file in order. -/
def Source.declarations (source : Source) (file : String) : List Declaration :=
  DeclarationReader.collect ⟨source, file, .ofTokens source.tokens⟩ "" source.root.namedWithPrevious

end ClassAtlas
