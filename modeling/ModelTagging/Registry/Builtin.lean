import ModelTagging.Registry.Resolve

/-!
# Built-in namespaces

Two namespaces that describe decorators and command sets themselves. They are
registered beside a model while command sets are checked against it, so that
command sets can refer to them.
-/

namespace ModelTagging

namespace Builtin

/-- The namespace that describes decorators and their arguments. -/
def metamodelNamespace : String := "modeldeco.metamodel@1.0.0"

/-- The namespace that describes command sets. -/
def commandsNamespace : String := "modeldeco.decoratorcommands@0.2.0"

/-- An undecorated field. -/
def field (name typeName : String) (isArray isOptional : Bool) : Property :=
  ⟨.field, name, some typeName, isArray, isOptional, none⟩

/-- An undecorated field that holds one value and may not be left out. -/
def plainField (name typeName : String) : Property := field name typeName false false

/-- An undecorated concept. -/
def concept (name : String) (superType : Option String) (properties : List Property) :
    Declaration :=
  ⟨.concept, name, superType, some properties, none, none, none, none⟩

/-- An undecorated enumeration. -/
def enumeration (name : String) (values : List String) : Declaration :=
  ⟨.enum, name, none,
    some (values.map fun value => ⟨.enumValue, value, none, false, false, none⟩),
    none, none, none, none⟩

/-- The name of a declaration of the metamodel namespace. -/
def metamodelName (name : String) : String := Qualified.join metamodelNamespace name

/-- The name of a declaration of the command set namespace. -/
def commandsName (name : String) : String := Qualified.join commandsNamespace name

/-- Decorators and their arguments. -/
def metamodelFile : ModelFile where
  namespaceName := metamodelNamespace
  imports := []
  declarations :=
    let argument := metamodelName "DecoratorArgument"
    [concept "DecoratorArgument" none [],
     concept "DecoratorString" (some argument) [plainField "value" "String"],
     concept "DecoratorNumber" (some argument) [plainField "value" "Double"],
     concept "DecoratorBoolean" (some argument) [plainField "value" "Boolean"],
     concept "DecoratorTypeReference" (some argument)
      [plainField "type_name" "String", plainField "is_array" "Boolean"],
     concept "Decorator" none
      [plainField "name" "String", field "arguments" argument true true]]

/-- Command sets and their parts. -/
def commandsFile : ModelFile where
  namespaceName := commandsNamespace
  imports := [metamodelName "Decorator"]
  declarations :=
    [concept "DecoratorCommandSetReference" none
      [plainField "name" "String", plainField "version" "String"],
     enumeration "CommandType" (MergeMode.all.map MergeMode.name),
     concept "CommandTarget" none
      [field "namespace" "String" false true, field "declaration" "String" false true,
       field "property" "String" false true, field "type" "String" false true],
     concept "Command" none
      [plainField "target" (commandsName "CommandTarget"),
       plainField "decorator" (metamodelName "Decorator"),
       plainField "type" (commandsName "CommandType")],
     concept "DecoratorCommandSet" none
      [plainField "name" "String", plainField "version" "String",
       field "includes" (commandsName "DecoratorCommandSetReference") true true,
       field "commands" (commandsName "Command") true false]]

/-- Both built-in namespaces, in the order in which they are registered. -/
def files : List ModelFile := [metamodelFile, commandsFile]

/-- Neither built-in namespace repeats a name. -/
theorem repeat?_eq_none : ∀ file ∈ files, file.repeat? = none := by decide

end Builtin

end ModelTagging
