import ClassAtlas.DocBlock
import ClassAtlas.Text.LetterCase

/-!
Declarations of classes, interfaces, traits and enums, with their members.
-/

namespace ClassAtlas

/-- Who may use a member. -/
inductive Visibility where
  | isPublic
  | isProtected
  | isPrivate
deriving DecidableEq, Repr

namespace Visibility

/-- The keyword of a visibility. -/
def label : Visibility → String
  | .isPublic => "public"
  | .isProtected => "protected"
  | .isPrivate => "private"

/-- The name of the flag that marks a member with a visibility. -/
def flag : Visibility → String
  | .isPublic => "isPublic"
  | .isProtected => "isProtected"
  | .isPrivate => "isPrivate"

end Visibility

/-- What a declaration declares. -/
inductive DeclarationKind where
  | classKind
  | interfaceKind
  | traitKind
  | enumKind
deriving DecidableEq, Repr

/-- The word for a kind of declaration. -/
def DeclarationKind.label : DeclarationKind → String
  | .classKind => "class"
  | .interfaceKind => "interface"
  | .traitKind => "trait"
  | .enumKind => "enum"

/-- A parameter of a method. -/
structure Parameter where
  /-- The name without its dollar sign. -/
  name : String
  type : Option String
  default : Option String
  isVariadic : Bool
  byReference : Bool
  /-- Whether the parameter also declares a property. -/
  isPromoted : Bool
deriving DecidableEq, Repr

/-- A method. -/
structure Method where
  name : String
  declaringClass : String
  visibility : Visibility
  isStatic : Bool
  isAbstract : Bool
  isFinal : Bool
  parameters : List Parameter
  returnType : Option String
  docBlock : Option DocBlock
  startLine : Nat
  endLine : Nat
deriving DecidableEq, Repr

/-- A property. -/
structure Property where
  /-- The name without its dollar sign. -/
  name : String
  declaringClass : String
  visibility : Visibility
  isStatic : Bool
  isReadonly : Bool
  type : Option String
  /-- The text of the default value. -/
  default : Option String
  docBlock : Option DocBlock
  startLine : Nat
  endLine : Nat
deriving DecidableEq, Repr

/-- A constant or an enum case. -/
structure Constant where
  name : String
  declaringClass : String
  value : Option String
  visibility : Visibility
  docBlock : Option DocBlock
  startLine : Nat
  endLine : Nat
deriving DecidableEq, Repr

/-- A declaration of a class, interface, trait or enum. -/
structure Declaration where
  /-- The full name. -/
  name : String
  shortName : String
  /-- The namespace, empty for the root namespace. -/
  space : String
  kind : DeclarationKind
  /-- Path of the declaring file. -/
  file : String
  startLine : Nat
  endLine : Nat
  /-- Full name of the parent class. -/
  parent : Option String
  /-- Full names of the interfaces, in declaration order. An interface lists those it extends. -/
  interfaces : List String
  /-- Full names of the traits included, in declaration order. -/
  traits : List String
  isAbstract : Bool
  isFinal : Bool
  isReadonly : Bool
  docBlock : Option DocBlock
  methods : List Method
  properties : List Property
  constants : List Constant
deriving DecidableEq, Repr

namespace Declaration

/-- Whether the declaration is an interface. -/
def isInterface (declaration : Declaration) : Bool := declaration.kind == .interfaceKind

/-- Whether the declaration is a trait. -/
def isTrait (declaration : Declaration) : Bool := declaration.kind == .traitKind

/-- Whether the declaration is an enum. -/
def isEnum (declaration : Declaration) : Bool := declaration.kind == .enumKind

/-- The declared method with a name; case does not count. -/
def method? (declaration : Declaration) (name : String) : Option Method :=
  declaration.methods.find? fun method => Text.lower method.name == Text.lower name

/-- Whether a method with a name is declared; case does not count. -/
def hasMethod (declaration : Declaration) (name : String) : Bool :=
  (declaration.method? name).isSome

end Declaration

end ClassAtlas
