import ModelTagging.Proofs.Command.WellFormed
import ModelTagging.Proofs.Model.RoundTrip

/-!
# Command sets read back from their document values

What is written of a well-formed command set is read back as that set, whether
or not absent fields are written: targets, modes and decorators are the same,
and an absent list of references stays apart from an empty one.
-/

namespace ModelTagging

open AbsentFields

section

variable (absent : AbsentFields)

/-- A written target is read back. -/
theorem Target.read_restores : Target.read.Restores (Target.toValue absent) Target.WellFormed := by
  intro target hwf
  rcases hwf with ⟨hnamespace, hdeclaration, hproperty, htype⟩
  have hname {name : Option String} (h : ∀ text ∈ name, text ≠ "") :
      ∀ text ∈ name, Value.str text ≠ .null ∧
        Reader.nonEmptyText (.str text) = .accepted text :=
    fun text htext => Reader.restores_nonEmptyText text (h text htext)
  rw [Target.toValue, record_eq]
  refine ⟨Value.noConfusion, Target.read_eq_accepted_iff.2 ⟨_, rfl, ?_, ?_, ?_, ?_, ?_⟩⟩
  · exact optional_remaining (by simp) (by simp [Value.ofText?]) (hname hnamespace)
  · exact optional_remaining (by simp) (by simp [Value.ofText?]) (hname hdeclaration)
  · exact optional_remaining (by simp) (by simp [Value.ofText?]) (hname hproperty)
  · exact optional_remaining (by simp) (by simp [Value.ofText?]) (hname htype)
  · exact closed_remaining (by simp)

/-- A written command is read back. -/
theorem Command.read_restores :
    Command.read.Restores (Command.toValue absent) Command.WellFormed := by
  intro command hwf
  rcases hwf with ⟨htarget, hdecorator⟩
  rw [Command.toValue, record_eq]
  refine ⟨Value.noConfusion, Command.read_eq_accepted_iff.2 ⟨_, rfl, ?_, ?_, ?_, ?_⟩⟩
  · exact defaulted_remaining (by simp) (by simp) (Target.read_restores absent _ htarget)
  · exact required_remaining (by simp) (by simp) (Decorator.read_restores absent _ hdecorator)
  · exact required_remaining (by simp) (by simp)
      (Reader.restores_oneOf MergeMode.ofName?_name _ trivial)
  · exact closed_remaining (by simp)

/-- A written reference is read back. All of its fields are always written. -/
theorem SetReference.read_restores :
    SetReference.read.Restores SetReference.toValue SetReference.WellFormed := by
  intro reference hwf
  rcases hwf with ⟨hname, hversion⟩
  have hwritten : reference.toValue = AbsentFields.kept.record
      [("name", .str reference.name), ("version", .str reference.version)] := rfl
  rw [hwritten, record_eq]
  refine ⟨Value.noConfusion, SetReference.read_eq_accepted_iff.2 ⟨_, rfl, ?_, ?_, ?_⟩⟩
  · exact required_remaining (by simp) (by simp) (Reader.restores_nonEmptyText _ hname)
  · exact required_remaining (by simp) (by simp) (Reader.restores_nonEmptyText _ hversion)
  · exact closed_remaining (by simp)

/-- A written command set is read back. -/
theorem CommandSet.read_restores :
    CommandSet.read.Restores (CommandSet.toValue absent) CommandSet.WellFormed := by
  intro set hwf
  rcases hwf with ⟨hname, hversion, hincludes, hcommands⟩
  rw [CommandSet.toValue, record_eq]
  refine ⟨Value.noConfusion, CommandSet.read_eq_accepted_iff.2 ⟨_, rfl, ?_, ?_, ?_, ?_, ?_⟩⟩
  · exact required_remaining (by simp) (by simp) (Reader.restores_nonEmptyText _ hname)
  · exact required_remaining (by simp) (by simp) (Reader.restores_nonEmptyText _ hversion)
  · exact optional_list_remaining (by simp) (by simp) SetReference.read_restores hincludes
  · exact required_remaining (by simp) (by simp)
      ((Command.read_restores absent).list set.commands hcommands)
  · exact closed_remaining (by simp)

end

end ModelTagging
