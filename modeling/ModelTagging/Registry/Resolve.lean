import ModelTagging.Registry.Basic
import ModelTagging.Text.Qualified

/-!
# Resolving type names

A type name is a primitive one or the qualified name of a declaration. A
qualified name is taken apart at its last dot, so a declaration whose own
name holds a dot is never found. One whose name has no dot is found under its
qualified name exactly if its namespace is registered and holds it, however many
dots the name of the namespace has.
-/

namespace ModelTagging

/-- A type name that stands for nothing, and the element that uses it. -/
structure UnknownType where
  /-- The name that was looked up. -/
  typeName : String
  /-- What the name was looked up for, if that is known. -/
  context : Option String

/-- The wording of an unknown type. An empty context is not shown. -/
def UnknownType.message (unknown : UnknownType) : String :=
  (match unknown.context with
    | some context => if context.isEmpty then "" else context ++ ": "
    | none => "") ++
    "type \"" ++ unknown.typeName ++ "\" is not defined"

/-- The names of the primitive types. -/
def primitiveTypes : List String :=
  ["String", "Boolean", "DateTime", "Integer", "Long", "Double"]

namespace Registry

/-- The declaration with a qualified name, if there is one. -/
def declaration? (registry : Registry) (qualifiedName : String) : Option Declaration :=
  let (namespaceName, name) := Qualified.split qualifiedName
  (registry.file? namespaceName).bind (·.declaration? name)

/-- The declaration with a qualified name. -/
def declaration (registry : Registry) (qualifiedName : String) :
    Except UnknownType Declaration :=
  match registry.declaration? qualifiedName with
  | some found => .ok found
  | none => .error ⟨qualifiedName, none⟩

/-- Whether a type name is primitive or names a declaration. -/
def resolves (registry : Registry) (typeName : String) : Bool :=
  primitiveTypes.contains typeName || (registry.declaration? typeName).isSome

/-- The type name itself, if it is primitive or names a declaration. -/
def resolve (registry : Registry) (context typeName : String) : Except UnknownType String :=
  if registry.resolves typeName then .ok typeName else .error ⟨typeName, some context⟩

end Registry

/-! ## What a look-up finds -/

/-- A namespace that is found is registered under the name looked up. -/
theorem Registry.mem_of_file?_eq_some {registry : Registry} {namespaceName : String}
    {file : ModelFile} (h : registry.file? namespaceName = some file) :
    file ∈ registry.files ∧ file.namespaceName = namespaceName :=
  ⟨List.mem_of_find?_eq_some h, by simpa using List.find?_some h⟩

/-- No namespace is found under a name exactly if none of that name is registered. -/
theorem Registry.file?_eq_none_iff (registry : Registry) (namespaceName : String) :
    registry.file? namespaceName = none ↔ namespaceName ∉ registry.namespaces := by
  simp [file?, namespaces]

/-- A declaration that is found has the name looked up. -/
theorem ModelFile.mem_of_declaration?_eq_some {file : ModelFile} {name : String}
    {declaration : Declaration} (h : file.declaration? name = some declaration) :
    declaration ∈ file.declarations ∧ declaration.name = name :=
  ⟨List.mem_of_find?_eq_some h, by simpa using List.find?_some h⟩

/-- A property that is found has the name looked up. -/
theorem Declaration.mem_of_property?_eq_some {declaration : Declaration} {name : String}
    {property : Property} (h : declaration.property? name = some property) :
    property ∈ declaration.members ∧ property.name = name :=
  ⟨List.mem_of_find?_eq_some h, by simpa using List.find?_some h⟩

/-- No property of a name is found exactly if the declaration owns none. -/
theorem Declaration.property?_eq_none_iff (declaration : Declaration) (name : String) :
    declaration.property? name = none ↔ ∀ own ∈ declaration.members, own.name ≠ name := by
  rw [property?, List.find?_eq_none]
  simp only [beq_iff_eq, ne_eq]

/-- A name without a dot is looked up in the namespace it was joined to. -/
theorem Registry.declaration?_join (registry : Registry) (namespaceName name : String)
    (h : '.' ∉ name.toList) :
    registry.declaration? (Qualified.join namespaceName name) =
      (registry.file? namespaceName).bind (·.declaration? name) := by
  rw [declaration?, Qualified.split_join namespaceName name h]

end ModelTagging
