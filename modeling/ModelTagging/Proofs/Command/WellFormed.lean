import ModelTagging.Command.Basic
import ModelTagging.Proofs.Model.WellFormed

/-!
# Well-formed command sets

What every command set read from a document satisfies, stated on the set alone:
the names that targets and references set have a character, and so do the name
and the version of the set, and all decorators are well-formed. Whether a target
names anything in a model is no part of it. The predicates are decidable.
-/

namespace ModelTagging

/-- The names that a target sets have a character. -/
def Target.WellFormed (target : Target) : Prop :=
  (∀ name ∈ target.namespaceName, name ≠ "") ∧ (∀ name ∈ target.declaration, name ≠ "") ∧
    (∀ name ∈ target.property, name ≠ "") ∧ ∀ name ∈ target.typeName, name ≠ ""

instance (target : Target) : Decidable target.WellFormed :=
  inferInstanceAs (Decidable (_ ∧ _ ∧ _ ∧ _))

/-- A command has a well-formed target and a well-formed decorator. -/
def Command.WellFormed (command : Command) : Prop :=
  command.target.WellFormed ∧ command.decorator.WellFormed

instance (command : Command) : Decidable command.WellFormed :=
  inferInstanceAs (Decidable (_ ∧ _))

/-- A reference has a name and a version. -/
def SetReference.WellFormed (reference : SetReference) : Prop :=
  reference.name ≠ "" ∧ reference.version ≠ ""

instance (reference : SetReference) : Decidable reference.WellFormed :=
  inferInstanceAs (Decidable (_ ∧ _))

/-- A command set has a name and a version, and its references and its commands
are well-formed. -/
def CommandSet.WellFormed (set : CommandSet) : Prop :=
  set.name ≠ "" ∧ set.version ≠ "" ∧
    (∀ reference ∈ set.includes.getD [], reference.WellFormed) ∧
    ∀ command ∈ set.commands, command.WellFormed

instance (set : CommandSet) : Decidable set.WellFormed :=
  inferInstanceAs (Decidable (_ ∧ _ ∧ _ ∧ _))

/-! ## Reading ensures it -/

/-- A text that is read as one with a character is not empty. -/
theorem Reader.nonEmptyText_ensures : Reader.nonEmptyText.Ensures (· ≠ "") :=
  fun _ _ h => (Reader.nonEmptyText_eq_accepted_iff.1 h).2

/-- A target is read from an object with just the four fields of its shape. -/
theorem Target.read_eq_accepted_iff {v : Value} {target : Target} :
    Target.read v = .accepted target ↔ ∃ fields : Fields, v = .object fields ∧
      fields.optional "namespace" Reader.nonEmptyText = .accepted target.namespaceName ∧
      fields.optional "declaration" Reader.nonEmptyText = .accepted target.declaration ∧
      fields.optional "property" Reader.nonEmptyText = .accepted target.property ∧
      fields.optional "type" Reader.nonEmptyText = .accepted target.typeName ∧
      fields.closed ["namespace", "declaration", "property", "type"] = .accepted () := by
  simp only [Target.read, Reader.object_eq_accepted_iff, Decoded.seq_eq_accepted_iff,
    ↓Decoded.exists_seq_accepted_iff, ↓Decoded.exists_map_accepted_iff]
  constructor
  · intro hread
    rcases hread with ⟨fields, rfl, _, hnamespace, _, hdeclaration, _, hproperty, _, htype, _,
      hclosed, rfl⟩
    exact ⟨fields, rfl, hnamespace, hdeclaration, hproperty, htype, hclosed⟩
  · intro hfields
    rcases hfields with ⟨fields, rfl, hnamespace, hdeclaration, hproperty, htype, hclosed⟩
    exact ⟨fields, rfl, _, hnamespace, _, hdeclaration, _, hproperty, _, htype, _, hclosed, rfl⟩

/-- A target that is read is well-formed. -/
theorem Target.read_ensures : Target.read.Ensures Target.WellFormed := by
  intro v target h
  obtain ⟨fields, -, hnamespace, hdeclaration, hproperty, htype, -⟩ :=
    Target.read_eq_accepted_iff.1 h
  exact ⟨Fields.optional_ensures Reader.nonEmptyText_ensures hnamespace,
    Fields.optional_ensures Reader.nonEmptyText_ensures hdeclaration,
    Fields.optional_ensures Reader.nonEmptyText_ensures hproperty,
    Fields.optional_ensures Reader.nonEmptyText_ensures htype⟩

/-- The target that leaves everything open sets no name. -/
theorem Target.wellFormed_anything : Target.anything.WellFormed := by decide

/-- A command is read from an object with just the three fields of its shape; a
target that is left out leaves everything open. -/
theorem Command.read_eq_accepted_iff {v : Value} {command : Command} :
    Command.read v = .accepted command ↔ ∃ fields : Fields, v = .object fields ∧
      fields.defaulted "target" Target.read .anything = .accepted command.target ∧
      fields.required "decorator" Decorator.read = .accepted command.decorator ∧
      fields.required "type" (Reader.oneOf (MergeMode.all.map MergeMode.name)
        MergeMode.ofName?) = .accepted command.mode ∧
      fields.closed ["target", "decorator", "type"] = .accepted () := by
  simp only [Command.read, Reader.object_eq_accepted_iff, Decoded.seq_eq_accepted_iff,
    ↓Decoded.exists_seq_accepted_iff, ↓Decoded.exists_map_accepted_iff]
  constructor
  · intro hread
    rcases hread with ⟨fields, rfl, _, htarget, _, hdecorator, _, hmode, _, hclosed, rfl⟩
    exact ⟨fields, rfl, htarget, hdecorator, hmode, hclosed⟩
  · intro hfields
    rcases hfields with ⟨fields, rfl, htarget, hdecorator, hmode, hclosed⟩
    exact ⟨fields, rfl, _, htarget, _, hdecorator, _, hmode, _, hclosed, rfl⟩

/-- A command that is read is well-formed. -/
theorem Command.read_ensures : Command.read.Ensures Command.WellFormed := by
  intro v command h
  obtain ⟨fields, -, htarget, hdecorator, -, -⟩ := Command.read_eq_accepted_iff.1 h
  have hwf : command.target.WellFormed := by
    rcases Fields.defaulted_eq_accepted_iff.1 htarget with ⟨value, -, hread⟩ | ⟨-, hdefault⟩
    · exact Target.read_ensures _ _ hread
    · exact hdefault ▸ Target.wellFormed_anything
  obtain ⟨value, -, hread⟩ := Fields.required_eq_accepted_iff.1 hdecorator
  exact ⟨hwf, Decorator.read_ensures _ _ hread⟩

/-- A reference is read from an object with just the two fields of its shape. -/
theorem SetReference.read_eq_accepted_iff {v : Value} {reference : SetReference} :
    SetReference.read v = .accepted reference ↔ ∃ fields : Fields, v = .object fields ∧
      fields.required "name" Reader.nonEmptyText = .accepted reference.name ∧
      fields.required "version" Reader.nonEmptyText = .accepted reference.version ∧
      fields.closed ["name", "version"] = .accepted () := by
  simp only [SetReference.read, Reader.object_eq_accepted_iff, Decoded.seq_eq_accepted_iff,
    ↓Decoded.exists_seq_accepted_iff, ↓Decoded.exists_map_accepted_iff]
  constructor
  · intro hread
    rcases hread with ⟨fields, rfl, _, hname, _, hversion, _, hclosed, rfl⟩
    exact ⟨fields, rfl, hname, hversion, hclosed⟩
  · intro hfields
    rcases hfields with ⟨fields, rfl, hname, hversion, hclosed⟩
    exact ⟨fields, rfl, _, hname, _, hversion, _, hclosed, rfl⟩

/-- A reference that is read is well-formed. -/
theorem SetReference.read_ensures : SetReference.read.Ensures SetReference.WellFormed := by
  intro v reference h
  obtain ⟨fields, -, hname, hversion, -⟩ := SetReference.read_eq_accepted_iff.1 h
  exact ⟨Fields.ne_empty_of_required hname, Fields.ne_empty_of_required hversion⟩

/-- A command set is read from an object with just the four fields of its
shape. -/
theorem CommandSet.read_eq_accepted_iff {v : Value} {set : CommandSet} :
    CommandSet.read v = .accepted set ↔ ∃ fields : Fields, v = .object fields ∧
      fields.required "name" Reader.nonEmptyText = .accepted set.name ∧
      fields.required "version" Reader.nonEmptyText = .accepted set.version ∧
      fields.optional "includes" (Reader.list SetReference.read) = .accepted set.includes ∧
      fields.required "commands" (Reader.list Command.read) = .accepted set.commands ∧
      fields.closed ["name", "version", "includes", "commands"] = .accepted () := by
  simp only [CommandSet.read, Reader.object_eq_accepted_iff, Decoded.seq_eq_accepted_iff,
    ↓Decoded.exists_seq_accepted_iff, ↓Decoded.exists_map_accepted_iff]
  constructor
  · intro hread
    rcases hread with ⟨fields, rfl, _, hname, _, hversion, _, hincludes, _, hcommands, _, hclosed,
      rfl⟩
    exact ⟨fields, rfl, hname, hversion, hincludes, hcommands, hclosed⟩
  · intro hfields
    rcases hfields with ⟨fields, rfl, hname, hversion, hincludes, hcommands, hclosed⟩
    exact ⟨fields, rfl, _, hname, _, hversion, _, hincludes, _, hcommands, _, hclosed, rfl⟩

/-- A command set that is read is well-formed. -/
theorem CommandSet.read_ensures : CommandSet.read.Ensures CommandSet.WellFormed := by
  intro v set h
  obtain ⟨fields, -, hname, hversion, hincludes, hcommands, -⟩ :=
    CommandSet.read_eq_accepted_iff.1 h
  obtain ⟨value, -, hread⟩ := Fields.required_eq_accepted_iff.1 hcommands
  exact ⟨Fields.ne_empty_of_required hname, Fields.ne_empty_of_required hversion,
    Fields.optional_list_ensures SetReference.read_ensures hincludes,
    Command.read_ensures.list _ _ hread⟩

end ModelTagging
