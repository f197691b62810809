import ModelTagging.Registry.Resolve
import ModelTagging.Tagging.Merge
import ModelTagging.Tagging.Select

/-!
# Applying commands

One command decorates a declaration or some of its properties. Commands are
applied declaration by declaration, and to each declaration in their order.
The number of times an element was decorated is kept beside what became of
the elements.
-/

namespace ModelTagging

/-- Something after commands were applied to it, and how often an element of
it was decorated. -/
structure Tagged (α : Type) where
  /-- What became of it. -/
  element : α
  /-- How often an element was decorated. -/
  count : Nat

namespace Command

/-- Apply a command to a property of a declaration of this name. -/
def applyToProperty (command : Command) (namespaceName declaration : String)
    (property : Property) : Property :=
  if command.target.selectsProperty namespaceName declaration property then
    property.decorated command.mode command.decorator
  else property

/-- Apply a command to a declaration of the namespace. -/
def applyTo (command : Command) (namespaceName : String) (declaration : Declaration) :
    Tagged Declaration :=
  if command.target.selectsDeclaration namespaceName declaration then
    ⟨declaration.decorated command.mode command.decorator, 1⟩
  else
    ⟨{ declaration with
        properties := declaration.properties.map
          (·.map (command.applyToProperty namespaceName declaration.name)) },
      declaration.members.countP
        (command.target.selectsProperty namespaceName declaration.name)⟩

end Command

/-- Apply commands to a declaration, one after the other. -/
def Declaration.applyAll (namespaceName : String) :
    List Command → Declaration → Tagged Declaration
  | [], declaration => ⟨declaration, 0⟩
  | command :: rest, declaration =>
    let first := command.applyTo namespaceName declaration
    let others := Declaration.applyAll namespaceName rest first.element
    ⟨others.element, first.count + others.count⟩

/-- What became of each of some elements, and how often any was decorated. -/
def Tagged.ofList {α : Type} (results : List (Tagged α)) : Tagged (List α) :=
  ⟨results.map (·.element), results.foldr (fun result others => result.count + others) 0⟩

/-- Apply commands to every declaration of a namespace. -/
def ModelFile.applyAll (commands : List Command) (file : ModelFile) : Tagged ModelFile :=
  let results := Tagged.ofList
    (file.declarations.map (Declaration.applyAll file.namespaceName commands))
  ⟨{ file with declarations := results.element }, results.count⟩

/-- Apply commands to every declaration of a model. -/
def ModelTree.applyAll (commands : List Command) (tree : ModelTree) : Tagged ModelTree :=
  let results := Tagged.ofList (tree.files.map (ModelFile.applyAll commands))
  ⟨⟨results.element⟩, results.count⟩

namespace Registry

/-- The registry with its declarations of a qualified name changed. -/
def modify (registry : Registry) (qualifiedName : String) (change : Declaration → Declaration) :
    Registry :=
  let (namespaceName, name) := Qualified.split qualifiedName
  ⟨registry.files.map fun file =>
    if file.namespaceName = namespaceName then
      { file with
        declarations := file.declarations.map fun declaration =>
          if declaration.name = name then change declaration else declaration }
    else file⟩

/-- Apply a command to the declaration of a qualified name, compared as a
declaration of the given namespace. -/
def applyAt (registry : Registry) (qualifiedName namespaceName : String) (command : Command) :
    Except UnknownType (Tagged Registry) :=
  match registry.declaration qualifiedName with
  | .ok declaration =>
    let result := command.applyTo namespaceName declaration
    .ok ⟨registry.modify qualifiedName fun _ => result.element, result.count⟩
  | .error unknown => .error unknown

end Registry

end ModelTagging
