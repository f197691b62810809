import ModelTagging.Model.Element

/-!
# Reading models

The shapes of model trees and of their parts. Each shape reads its fields in
a fixed order, then rejects unknown ones; the rules that relate the fields of
a property or of a declaration are tried on accepted ones only, and the first
broken rule is the one reported.
-/

namespace ModelTagging

namespace Argument

/-- Read an argument whose kind is known. -/
def readAs (fields : Fields) : ArgumentKind → Decoded Argument
  | .string =>
    (fun value _ => text value) <$> fields.required "value" Reader.text <*>
      fields.closed ["kind", "value"]
  | .number =>
    (fun value _ => number value) <$> fields.required "value" Reader.number <*>
      fields.closed ["kind", "value"]
  | .boolean =>
    (fun value _ => boolean value) <$> fields.required "value" Reader.boolean <*>
      fields.closed ["kind", "value"]
  | .typeReference =>
    (fun typeName isArray _ => typeReference typeName isArray) <$>
      fields.required "type_name" Reader.nonEmptyText <*>
      fields.defaulted "is_array" Reader.boolean false <*>
      fields.closed ["kind", "type_name", "is_array"]

/-- Read an argument. Its kind decides the shape of the rest, and errors in
the rest are reported under the kind. -/
def read : Reader Argument
  | .object fields =>
    match Fields.get? fields "kind" with
    | none => .fail .argumentWithoutKind
    | some (.str word) =>
      match ArgumentKind.ofName? word with
      | some kind => (readAs fields kind).under (.branch kind.name)
      | none => .fail (.argumentKindUnknown (.str word))
    | some v => .fail (.argumentKindUnknown v)
  | _ => .fail .argumentNotObject

end Argument

/-- Read a decorator. -/
def Decorator.read : Reader Decorator :=
  Reader.object "Decorator" fun fields =>
    (fun name arguments _ => ⟨name, arguments⟩) <$>
      fields.required "name" Reader.nonEmptyText <*>
      fields.optional "arguments" (Reader.list Argument.read) <*>
      fields.closed ["name", "arguments"]

/-- Read the decorators of an element. -/
def Fields.decorators (fields : Fields) : Decoded Decorators :=
  fields.optional "decorators" (Reader.list Decorator.read)

/-- Read a slot of a map. -/
def MapSlot.read : Reader MapSlot :=
  Reader.object "MapEntryType" fun fields =>
    (fun typeName decorators _ => ⟨typeName, decorators⟩) <$>
      fields.required "type_name" Reader.text <*>
      fields.decorators <*>
      fields.closed ["type_name", "decorators"]

namespace Property

/-- The rule on types: enumeration values have none, and all other properties
have a type whose name is not empty. -/
def violation? (property : Property) : Option RuleViolation :=
  match property.kind, property.typeName with
  | .enumValue, some _ => some (.typedEnumValue property.name)
  | .enumValue, none => none
  | _, some typeName =>
    if typeName.isEmpty then some (.untypedProperty property.name) else none
  | _, none => some (.untypedProperty property.name)

/-- Read a property. -/
def read : Reader Property :=
  Reader.object "Property" fun fields =>
    Decoded.checkedBy violation? <|
      (fun kind name typeName isArray isOptional decorators _ =>
        ⟨kind, name, typeName, isArray, isOptional, decorators⟩) <$>
        fields.defaulted "kind"
          (Reader.oneOf (PropertyKind.all.map PropertyKind.name) PropertyKind.ofName?) .field <*>
        fields.required "name" Reader.nonEmptyText <*>
        fields.optional "type_name" Reader.text <*>
        fields.defaulted "is_array" Reader.boolean false <*>
        fields.defaulted "is_optional" Reader.boolean false <*>
        fields.decorators <*>
        fields.closed ["kind", "name", "type_name", "is_array", "is_optional", "decorators"]

end Property

namespace Declaration

/-- The rules on kinds, in this order: scalars and maps have no member list,
exactly the scalars have an underlying type, exactly the maps have both
slots, and enumerations own enumeration values only. -/
def violation? (declaration : Declaration) : Option RuleViolation :=
  if !declaration.kind.ownsProperties && declaration.properties.isSome then
    some (.ownedProperties declaration.kind declaration.name)
  else if (declaration.kind == .scalar) != declaration.scalarType.isSome then
    some (.scalarType declaration.name)
  else if (declaration.kind == .map) !=
      (declaration.mapKey.isSome && declaration.mapValue.isSome) then
    some (.mapSlots declaration.name)
  else if declaration.kind == .enum && declaration.members.any (·.kind != .enumValue) then
    some (.enumMembers declaration.name)
  else none

/-- Read a declaration. -/
def read : Reader Declaration :=
  Reader.object "Declaration" fun fields =>
    Decoded.checkedBy violation? <|
      (fun kind name superType properties scalarType mapKey mapValue decorators _ =>
        ⟨kind, name, superType, properties, scalarType, mapKey, mapValue, decorators⟩) <$>
        fields.required "kind"
          (Reader.oneOf (DeclarationKind.all.map DeclarationKind.name) DeclarationKind.ofName?) <*>
        fields.required "name" Reader.nonEmptyText <*>
        fields.optional "super_type" Reader.text <*>
        fields.optional "properties" (Reader.list Property.read) <*>
        fields.optional "scalar_type" Reader.text <*>
        fields.optional "map_key" MapSlot.read <*>
        fields.optional "map_value" MapSlot.read <*>
        fields.decorators <*>
        fields.closed ["kind", "name", "super_type", "properties", "scalar_type", "map_key",
          "map_value", "decorators"]

end Declaration

/-- Read the declarations of a namespace. -/
def ModelFile.read : Reader ModelFile :=
  Reader.object "ModelFile" fun fields =>
    (fun namespaceName imports declarations _ => ⟨namespaceName, imports, declarations⟩) <$>
      fields.required "namespace" Reader.nonEmptyText <*>
      fields.defaulted "imports" (Reader.list Reader.text) [] <*>
      fields.defaulted "declarations" (Reader.list Declaration.read) [] <*>
      fields.closed ["namespace", "imports", "declarations"]

namespace ModelTree

/-- The name of the shape of a whole model in messages. -/
def shapeName : String := "ModelAst"

/-- Read a model. -/
def read : Reader ModelTree :=
  Reader.object shapeName fun fields =>
    (fun files _ => ⟨files⟩) <$>
      fields.defaulted "models" (Reader.list ModelFile.read) [] <*>
      fields.closed ["models"]

/-- Read a model from entries. -/
def readEntries (entries : Entries) : Decoded ModelTree :=
  (fun files _ => ⟨files⟩) <$>
    entries.fields.defaulted "models" (Reader.list ModelFile.read) [] <*>
    entries.closed ["models"]

end ModelTree

end ModelTagging
