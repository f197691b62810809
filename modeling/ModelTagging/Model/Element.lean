import ModelTagging.Model.Kind
import ModelTagging.Shape.Scalar

/-!
# Model elements

The structural model: namespaces hold declarations, declarations own
properties, and declarations, properties and the two slots of a map carry
decorators. A collection of decorators may be absent, which is not the same
as being empty. Elements are plain data; what a well-formed model is and when
names repeat is said where models are read and registered.
-/

namespace ModelTagging

/-- An argument of a decorator. -/
inductive Argument where
  /-- A text. -/
  | text (value : String)
  /-- A number. -/
  | number (value : Number)
  /-- A truth value. -/
  | boolean (value : Bool)
  /-- The name of a type of the model, or of lists of it. -/
  | typeReference (typeName : String) (isArray : Bool)
  deriving DecidableEq

/-- What an argument holds. -/
def Argument.kind : Argument → ArgumentKind
  | .text _ => .string
  | .number _ => .number
  | .boolean _ => .boolean
  | .typeReference _ _ => .typeReference

/-- A named tag with arguments that are carried and never interpreted, except
that type references can be checked. -/
structure Decorator where
  /-- The name of the tag. -/
  name : String
  /-- The arguments, if any are given. -/
  arguments : Option (List Argument)
  deriving DecidableEq

/-- The type names that a decorator refers to, in argument order. -/
def Decorator.typeReferences (decorator : Decorator) : List String :=
  (decorator.arguments.getD []).filterMap fun
    | .typeReference typeName _ => some typeName
    | _ => none

/-- The decorators of an element; an element may have no collection at all. -/
abbrev Decorators := Option (List Decorator)

/-- The key or the value slot of a map. -/
structure MapSlot where
  /-- The type of the slot. -/
  typeName : String
  /-- The decorators of the slot, which commands never touch. -/
  decorators : Decorators
  deriving DecidableEq

/-- A named member of a declaration. -/
structure Property where
  /-- What the member is. -/
  kind : PropertyKind
  /-- The name of the member. -/
  name : String
  /-- The declared type; enumeration values have none. -/
  typeName : Option String
  /-- Whether the member holds a list. -/
  isArray : Bool
  /-- Whether the member may be left out. -/
  isOptional : Bool
  /-- The decorators of the member. -/
  decorators : Decorators
  deriving DecidableEq

/-- A named definition within a namespace. -/
structure Declaration where
  /-- What is defined. -/
  kind : DeclarationKind
  /-- The name within the namespace. -/
  name : String
  /-- The qualified name of the definition this one extends. -/
  superType : Option String
  /-- The members, if the definition has a member list. -/
  properties : Option (List Property)
  /-- The underlying type of a scalar. -/
  scalarType : Option String
  /-- The key slot of a map. -/
  mapKey : Option MapSlot
  /-- The value slot of a map. -/
  mapValue : Option MapSlot
  /-- The decorators of the definition itself. -/
  decorators : Decorators
  deriving DecidableEq

/-- The members of a declaration; none when it has no member list. -/
def Declaration.members (declaration : Declaration) : List Property :=
  declaration.properties.getD []

/-- The first own member of this name. What a declaration extends is not
looked at. -/
def Declaration.property? (declaration : Declaration) (name : String) : Option Property :=
  declaration.members.find? (·.name == name)

/-- All declarations of one namespace. -/
structure ModelFile where
  /-- The namespace. -/
  namespaceName : String
  /-- The names the namespace imports. -/
  imports : List String
  /-- The declarations in order. -/
  declarations : List Declaration
  deriving DecidableEq

/-- The first declaration of this name in a namespace. -/
def ModelFile.declaration? (file : ModelFile) (name : String) : Option Declaration :=
  file.declarations.find? (·.name == name)

/-- A model: namespaces in order. -/
structure ModelTree where
  /-- The namespaces with their declarations. -/
  files : List ModelFile
  deriving DecidableEq

end ModelTagging
