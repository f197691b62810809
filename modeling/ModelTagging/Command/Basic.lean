import ModelTagging.Document.Value
import ModelTagging.Model.Writing
import ModelTagging.Model.Reading

/-!
# Commands

A command set is a named and versioned list of commands. A command attaches
one decorator to every element its target selects; a target names up to four
things and leaves the others open. References to further command sets are
read and kept, and nothing more is done with them.
-/

namespace ModelTagging

/-- Which elements a command applies to. A field that is not set is open. -/
structure Target where
  /-- The namespace. -/
  namespaceName : Option String
  /-- The declaration. -/
  declaration : Option String
  /-- The property. -/
  property : Option String
  /-- The declared type of the property. -/
  typeName : Option String
  deriving DecidableEq

namespace Target

/-- The target that leaves everything open. -/
def anything : Target := ⟨none, none, none, none⟩

/-- Whether the target is about properties rather than declarations. -/
def targetsProperties (target : Target) : Bool :=
  target.property.isSome || target.typeName.isSome

/-- Read a target. -/
def read : Reader Target :=
  Reader.object "CommandTarget" fun fields =>
    (fun namespaceName declaration property typeName _ =>
      ⟨namespaceName, declaration, property, typeName⟩) <$>
      fields.optional "namespace" Reader.nonEmptyText <*>
      fields.optional "declaration" Reader.nonEmptyText <*>
      fields.optional "property" Reader.nonEmptyText <*>
      fields.optional "type" Reader.nonEmptyText <*>
      fields.closed ["namespace", "declaration", "property", "type"]

/-- The document value of a target. -/
def toValue (absent : AbsentFields) (target : Target) : Value :=
  absent.record [("namespace", .ofText? target.namespaceName),
    ("declaration", .ofText? target.declaration), ("property", .ofText? target.property),
    ("type", .ofText? target.typeName)]

end Target

/-- One decorator for every element of a target. -/
structure Command where
  /-- The elements to decorate. -/
  target : Target
  /-- The decorator to attach. -/
  decorator : Decorator
  /-- How to attach it. -/
  mode : MergeMode
  deriving DecidableEq

namespace Command

/-- Read a command. -/
def read : Reader Command :=
  Reader.object "Command" fun fields =>
    (fun target decorator mode _ => ⟨target, decorator, mode⟩) <$>
      fields.defaulted "target" Target.read .anything <*>
      fields.required "decorator" Decorator.read <*>
      fields.required "type"
        (Reader.oneOf (MergeMode.all.map MergeMode.name) MergeMode.ofName?) <*>
      fields.closed ["target", "decorator", "type"]

/-- The document value of a command. -/
def toValue (absent : AbsentFields) (command : Command) : Value :=
  absent.record [("target", command.target.toValue absent),
    ("decorator", command.decorator.toValue absent), ("type", .str command.mode.name)]

end Command

/-- The name and version of another command set. -/
structure SetReference where
  /-- The name of the other set. -/
  name : String
  /-- Its version. -/
  version : String
  deriving DecidableEq

namespace SetReference

/-- Read a reference to a command set. -/
def read : Reader SetReference :=
  Reader.object "DecoratorCommandSetReference" fun fields =>
    (fun name version _ => ⟨name, version⟩) <$>
      fields.required "name" Reader.nonEmptyText <*>
      fields.required "version" Reader.nonEmptyText <*>
      fields.closed ["name", "version"]

/-- The document value of a reference. -/
def toValue (reference : SetReference) : Value :=
  .object [("name", .str reference.name), ("version", .str reference.version)]

end SetReference

/-- Commands in the order in which they apply. -/
structure CommandSet where
  /-- The name of the set. -/
  name : String
  /-- Its version. -/
  version : String
  /-- Further sets it refers to, if it lists any. -/
  includes : Option (List SetReference)
  /-- The commands. -/
  commands : List Command
  deriving DecidableEq

namespace CommandSet

/-- The name of the shape of a command set in messages. -/
def shapeName : String := "DecoratorCommandSet"

/-- Read a command set. -/
def read : Reader CommandSet :=
  Reader.object shapeName fun fields =>
    (fun name version includes commands _ => ⟨name, version, includes, commands⟩) <$>
      fields.required "name" Reader.nonEmptyText <*>
      fields.required "version" Reader.nonEmptyText <*>
      fields.optional "includes" (Reader.list SetReference.read) <*>
      fields.required "commands" (Reader.list Command.read) <*>
      fields.closed ["name", "version", "includes", "commands"]

/-- The document value of a command set. -/
def toValue (absent : AbsentFields) (set : CommandSet) : Value :=
  absent.record [("name", .str set.name), ("version", .str set.version),
    ("includes", .ofOption (.ofList SetReference.toValue) set.includes),
    ("commands", .ofList (Command.toValue absent) set.commands)]

end CommandSet

end ModelTagging
