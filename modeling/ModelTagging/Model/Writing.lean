import ModelTagging.Document.Value
import ModelTagging.Model.Element

/-!
# Writing models

The document values of model trees and of their parts. Every field of a shape
is written in the order in which it is read, and one choice for the whole
tree says whether absent fields are kept.
-/

namespace ModelTagging

/-- The document value of an argument. -/
def Argument.toValue : Argument → Value
  | .text value => .object [("kind", .str ArgumentKind.string.name), ("value", .str value)]
  | .number value => .object [("kind", .str ArgumentKind.number.name), ("value", value.toValue)]
  | .boolean value => .object [("kind", .str ArgumentKind.boolean.name), ("value", .bool value)]
  | .typeReference typeName isArray =>
    .object [("kind", .str ArgumentKind.typeReference.name), ("type_name", .str typeName),
      ("is_array", .bool isArray)]

/-- The document value of a decorator. -/
def Decorator.toValue (absent : AbsentFields) (decorator : Decorator) : Value :=
  absent.record [("name", .str decorator.name),
    ("arguments", .ofOption (.ofList Argument.toValue) decorator.arguments)]

/-- The document value of the decorators of an element. -/
def Decorators.toValue (absent : AbsentFields) (decorators : Decorators) : Value :=
  .ofOption (.ofList (Decorator.toValue absent)) decorators

/-- The document value of a slot of a map. -/
def MapSlot.toValue (absent : AbsentFields) (slot : MapSlot) : Value :=
  absent.record [("type_name", .str slot.typeName),
    ("decorators", Decorators.toValue absent slot.decorators)]

/-- The document value of a property. -/
def Property.toValue (absent : AbsentFields) (property : Property) : Value :=
  absent.record [("kind", .str property.kind.name), ("name", .str property.name),
    ("type_name", .ofText? property.typeName), ("is_array", .bool property.isArray),
    ("is_optional", .bool property.isOptional),
    ("decorators", Decorators.toValue absent property.decorators)]

/-- The document value of a declaration. -/
def Declaration.toValue (absent : AbsentFields) (declaration : Declaration) : Value :=
  absent.record [("kind", .str declaration.kind.name), ("name", .str declaration.name),
    ("super_type", .ofText? declaration.superType),
    ("properties", .ofOption (.ofList (Property.toValue absent)) declaration.properties),
    ("scalar_type", .ofText? declaration.scalarType),
    ("map_key", .ofOption (MapSlot.toValue absent) declaration.mapKey),
    ("map_value", .ofOption (MapSlot.toValue absent) declaration.mapValue),
    ("decorators", Decorators.toValue absent declaration.decorators)]

/-- The document value of a namespace. -/
def ModelFile.toValue (absent : AbsentFields) (file : ModelFile) : Value :=
  absent.record [("namespace", .str file.namespaceName), ("imports", .ofList .str file.imports),
    ("declarations", .ofList (Declaration.toValue absent) file.declarations)]

/-- The document value of a model. -/
def ModelTree.toValue (absent : AbsentFields) (tree : ModelTree) : Value :=
  absent.record [("models", .ofList (ModelFile.toValue absent) tree.files)]

end ModelTagging
