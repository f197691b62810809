import ModelTagging.Proofs.Command.Parsed
import ModelTagging.Proofs.Model.Grammar

/-!
# The grammar of command sets

Which document values freely spell which command sets, stated without readings:
which fields each object has, which of them may be left out or absent, and how
they spell the parts of a set. A target may be left out and is then open, but it is
not absent, whereas references may be either. The main result is that a document
is parsed exactly when it spells a command set, and as just that set.
-/

namespace ModelTagging

/-- A target names up to four things. -/
def Target.Spelled : Spelling Target := fun v target =>
  ∃ fields : Fields, v = .object fields ∧
    fields.MayHave .free "namespace" Spelling.Name target.namespaceName ∧
    fields.MayHave .free "declaration" Spelling.Name target.declaration ∧
    fields.MayHave .free "property" Spelling.Name target.property ∧
    fields.MayHave .free "type" Spelling.Name target.typeName ∧
    fields.Only ["namespace", "declaration", "property", "type"]

/-- A command has a decorator and a mode, and is about anything unless it has a
target. -/
def Command.Spelled : Spelling Command := fun v command =>
  ∃ fields : Fields, v = .object fields ∧
    fields.HasOr .free "target" Target.Spelled .anything command.target ∧
    fields.Has "decorator" (Decorator.Spelled .free) command.decorator ∧
    fields.Has "type" (Spelling.Word MergeMode.name) command.mode ∧
    fields.Only ["target", "decorator", "type"]

/-- A reference has a name and a version. -/
def SetReference.Spelled : Spelling SetReference := fun v reference =>
  ∃ fields : Fields, v = .object fields ∧
    fields.Has "name" Spelling.Name reference.name ∧
    fields.Has "version" Spelling.Name reference.version ∧
    fields.Only ["name", "version"]

/-- A command set has a name, a version and commands, and maybe references. -/
def CommandSet.Spelled : Spelling CommandSet := fun v set =>
  ∃ fields : Fields, v = .object fields ∧
    fields.Has "name" Spelling.Name set.name ∧
    fields.Has "version" Spelling.Name set.version ∧
    fields.MayHave .free "includes" (Spelling.Items SetReference.Spelled) set.includes ∧
    fields.Has "commands" (Spelling.Items Command.Spelled) set.commands ∧
    fields.Only ["name", "version", "includes", "commands"]

/-! ## Readings follow the grammar -/

/-- A target is read from its spellings. -/
theorem Target.read_follows : Target.read.Follows Target.Spelled := by
  intro v target
  simp only [Target.read_eq_accepted_iff, Target.Spelled,
    Fields.optional_iff Reader.nonEmptyText_follows, Fields.closed_iff]

/-- A mode is read from its word. -/
theorem MergeMode.oneOf_follows {choices : List String} :
    (Reader.oneOf choices ofName?).Follows (Spelling.Word name) :=
  Reader.oneOf_follows ofName?_name

/-- A command is read from its spellings. -/
theorem Command.read_follows : Command.read.Follows Command.Spelled := by
  intro v command
  simp only [Command.read_eq_accepted_iff, Command.Spelled,
    Fields.defaulted_iff Target.read_follows, Fields.required_iff Decorator.read_follows,
    Fields.required_iff MergeMode.oneOf_follows, Fields.closed_iff]

/-- A reference is read from its spellings. -/
theorem SetReference.read_follows : SetReference.read.Follows SetReference.Spelled := by
  intro v reference
  simp only [SetReference.read_eq_accepted_iff, SetReference.Spelled,
    Fields.required_iff Reader.nonEmptyText_follows, Fields.closed_iff]

/-- A command set is read from its spellings. -/
theorem CommandSet.read_follows : CommandSet.read.Follows CommandSet.Spelled := by
  intro v set
  simp only [CommandSet.read_eq_accepted_iff, CommandSet.Spelled,
    Fields.required_iff Reader.nonEmptyText_follows,
    Fields.optional_iff SetReference.read_follows.list,
    Fields.required_iff Command.read_follows.list, Fields.closed_iff]

/-- A document is parsed exactly when it spells a command set, and the result is
the set it spells: parts that are left out are the default ones, numbers and truth
values are the ones that are meant, and commands and arguments keep their
order. -/
theorem CommandSet.parse_eq_ok_iff_spelled (document : Value) (set : CommandSet) :
    CommandSet.parse document = .ok set ↔ CommandSet.Spelled document set := by
  rw [CommandSet.parse_eq_ok_iff]
  exact CommandSet.read_follows document set

/-- Target and references are left out, and a number and a truth value are spelled
by texts. -/
example : CommandSet.parse (.object [("version", .str "1"), ("name", .str "tags"),
    ("commands", .list [.object [("type", .str "APPEND"),
      ("decorator", .object [("name", .str "Limit"), ("arguments", .list [
        .object [("kind", .str "number"), ("value", .str "007")],
        .object [("value", .str "Off"), ("kind", .str "boolean")]])])]])]) =
    .ok ⟨"tags", "1", none,
      [⟨.anything, ⟨"Limit", some [.number (.whole 7), .boolean false]⟩, .append⟩]⟩ := rfl

end ModelTagging
