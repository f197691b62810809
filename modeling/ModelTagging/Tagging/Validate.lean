import ModelTagging.Command.Parse
import ModelTagging.Registry.Builtin

/-!
# Checking command sets against a model

A command set is checked against a model that has been joined by the built-in
namespaces. First the types that decorators refer to are resolved, then what
the targets name is looked up. Both checks report the first failure: by the
order of the commands, and within one command by the order of its arguments
or of the kinds of things a target names.
-/

namespace ModelTagging

/-- The registry that command sets for a model are checked against. -/
def Registry.forValidation (registry : Registry) : Except ModelError Registry :=
  registry.extend Builtin.files

namespace CommandSet

/-- The words for the place of a decorator in a command set. -/
def decoratorPlace (position : Nat) (decorator : Decorator) : String :=
  "commands[" ++ toString position ++ "].decorator." ++ decorator.name

/-- The first type that decorators of the commands refer to and that does not
resolve, the first command having the given position. -/
def unresolvedFrom (registry : Registry) : Nat → List Command → Option UnknownType
  | _, [] => none
  | position, command :: rest =>
    match command.decorator.typeReferences.find? fun name => !registry.resolves name with
    | some typeName => some ⟨typeName, some (decoratorPlace position command.decorator)⟩
    | none => unresolvedFrom registry (position + 1) rest

/-- The first type that decorators of the set refer to and that does not
resolve. -/
def unresolved? (registry : Registry) (set : CommandSet) : Option UnknownType :=
  unresolvedFrom registry 0 set.commands

end CommandSet

/-- The command set of a source, if all types it refers to resolve. -/
def CommandSource.checkedSet (registry : Registry) (source : CommandSource) :
    Except CommandSetError CommandSet :=
  match source.set with
  | .ok set =>
    match set.unresolved? registry with
    | some unknown => .error (.unresolvedType unknown)
    | none => .ok set
  | .error error => .error error

/-- What a target names. -/
inductive TargetKind where
  | typeName
  | namespaceName
  | declaration
  | property
  deriving DecidableEq

/-- The word for what a target names. -/
def TargetKind.name : TargetKind → String
  | .typeName => "type"
  | .namespaceName => "namespace"
  | .declaration => "declaration"
  | .property => "property"

/-- A name in a target that stands for nothing. -/
structure DanglingTarget where
  /-- The name, qualified as far as the target allows. -/
  reference : String
  /-- What it should have named. -/
  kind : TargetKind
  deriving DecidableEq

/-- The wording of a name in a target that stands for nothing. -/
def DanglingTarget.message (dangling : DanglingTarget) : String :=
  "Decorator command references " ++ dangling.kind.name ++ " \"" ++ dangling.reference ++
    "\" which does not exist."

namespace Target

/-- The type of a target, if it does not resolve. -/
def danglingType? (registry : Registry) (target : Target) : Option DanglingTarget :=
  match target.typeName with
  | some typeName => if registry.resolves typeName then none else some ⟨typeName, .typeName⟩
  | none => none

/-- The first of namespace, declaration and property of a target that does not
exist. A declaration is looked up by its qualified name, and only below a
namespace that is set; a property only below a declaration. -/
def danglingElement? (registry : Registry) (target : Target) : Option DanglingTarget :=
  match target.namespaceName, target.declaration with
  | none, _ => none
  | some namespaceName, declaration =>
    if (registry.file? namespaceName).isNone then some ⟨namespaceName, .namespaceName⟩
    else
      match declaration with
      | none => none
      | some declaration =>
        let qualified := Qualified.join namespaceName declaration
        match registry.declaration? qualified, target.property with
        | none, _ => some ⟨qualified, .declaration⟩
        | some _, none => none
        | some found, some property =>
          if (found.property? property).isSome then none
          else some ⟨Qualified.join qualified property, .property⟩

/-- The first name in a target that stands for nothing. -/
def dangling? (registry : Registry) (target : Target) : Option DanglingTarget :=
  (target.danglingType? registry).or (target.danglingElement? registry)

end Target

/-- The first name in the targets of a command set that stands for nothing. -/
def CommandSet.dangling? (registry : Registry) (set : CommandSet) : Option DanglingTarget :=
  set.commands.findSome? fun command => command.target.dangling? registry

end ModelTagging
