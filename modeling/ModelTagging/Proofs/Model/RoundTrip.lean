import ModelTagging.Model.Writing
import ModelTagging.Proofs.Model.WellFormed
import ModelTagging.Proofs.Shape.Restored

/-!
# Models read back from their document values

What is written of a well-formed model element is read back as that element,
field by field and whether or not absent fields are written: integers and
doubles stay apart, and an absent list stays apart from an empty one. Since
everything that is read is well-formed, a model passes through its document
value unchanged wherever it is handed on.
-/

namespace ModelTagging

open AbsentFields

/-- A written number is read back with its kind. -/
theorem Reader.restores_number : Reader.number.Restores Number.toValue fun _ => True := by
  intro number _
  exact ⟨by cases number <;> exact Value.noConfusion, Reader.number_toValue number⟩

/-- A written argument is read back. -/
theorem Argument.read_restores :
    Argument.read.Restores Argument.toValue Argument.WellFormed := by
  intro argument h
  refine ⟨by cases argument <;> exact Value.noConfusion, ?_⟩
  cases argument with
  | text value => rfl
  | boolean value => rfl
  | number value =>
    have hvalue : (AbsentFields.kept.remaining [("kind", .str "number"),
        ("value", value.toValue)]).required "value" Reader.number = .accepted value :=
      required_remaining (by simp) (by simp) (Reader.restores_number value trivial)
    rw [remaining] at hvalue
    have hread : Argument.readAs [("kind", .str "number"), ("value", value.toValue)] .number =
        .accepted (.number value) := by
      rw [readAs, hvalue]
      rfl
    exact Decoded.under_eq_accepted_iff.2 hread
  | typeReference typeName isArray =>
    have hname : (AbsentFields.kept.remaining [("kind", .str "type_reference"),
        ("type_name", .str typeName), ("is_array", .bool isArray)]).required "type_name"
          Reader.nonEmptyText = .accepted typeName :=
      required_remaining (by simp) (by simp) (Reader.restores_nonEmptyText typeName h)
    rw [remaining] at hname
    have hread : Argument.readAs [("kind", .str "type_reference"), ("type_name", .str typeName),
        ("is_array", .bool isArray)] .typeReference =
        .accepted (.typeReference typeName isArray) := by
      rw [readAs, hname]
      rfl
    exact Decoded.under_eq_accepted_iff.2 hread

section

variable (absent : AbsentFields)

/-- A written decorator is read back. -/
theorem Decorator.read_restores :
    Decorator.read.Restores (Decorator.toValue absent) Decorator.WellFormed := by
  intro decorator hwf
  rcases hwf with ⟨hname, harguments⟩
  rw [Decorator.toValue, record_eq]
  refine ⟨Value.noConfusion, Decorator.read_eq_accepted_iff.2 ⟨_, rfl, ?_, ?_, ?_⟩⟩
  · exact required_remaining (by simp) (by simp) (Reader.restores_nonEmptyText _ hname)
  · exact optional_list_remaining (by simp) (by simp) Argument.read_restores harguments
  · exact closed_remaining (by simp)

/-- The written decorators of an element are read back. -/
theorem Decorators.read_remaining {absent : AbsentFields} {fields : Fields}
    {decorators : Decorators} (hnames : (fields.map Prod.fst).Nodup)
    (hv : ("decorators", Decorators.toValue absent decorators) ∈ fields)
    (h : Decorators.WellFormed decorators) :
    (absent.remaining fields).decorators = .accepted decorators :=
  optional_list_remaining hnames hv (Decorator.read_restores absent) h

/-- A written slot is read back. -/
theorem MapSlot.read_restores :
    MapSlot.read.Restores (MapSlot.toValue absent) MapSlot.WellFormed := by
  intro slot hdecorators
  rw [MapSlot.toValue, record_eq]
  refine ⟨Value.noConfusion, MapSlot.read_eq_accepted_iff.2 ⟨_, rfl, ?_, ?_, ?_⟩⟩
  · exact required_remaining (by simp) (by simp) (Reader.restores_text _ trivial)
  · exact Decorators.read_remaining (by simp) (by simp) hdecorators
  · exact closed_remaining (by simp)

/-- A written property is read back. -/
theorem Property.read_restores :
    Property.read.Restores (Property.toValue absent) Property.WellFormed := by
  intro property hwf
  rcases hwf with ⟨hname, hrule, hdecorators⟩
  rw [Property.toValue, record_eq]
  refine ⟨Value.noConfusion,
    Property.read_eq_accepted_iff.2 ⟨_, rfl, ?_, ?_, ?_, ?_, ?_, ?_, ?_, hrule⟩⟩
  · exact defaulted_remaining (by simp) (by simp)
      (Reader.restores_oneOf PropertyKind.ofName?_name _ trivial)
  · exact required_remaining (by simp) (by simp) (Reader.restores_nonEmptyText _ hname)
  · exact optional_remaining (by simp) (by simp [Value.ofText?])
      fun typeName _ => Reader.restores_text typeName trivial
  · exact defaulted_remaining (by simp) (by simp) (Reader.restores_boolean _ trivial)
  · exact defaulted_remaining (by simp) (by simp) (Reader.restores_boolean _ trivial)
  · exact Decorators.read_remaining (by simp) (by simp) hdecorators
  · exact closed_remaining (by simp)

/-- A written declaration is read back. -/
theorem Declaration.read_restores :
    Declaration.read.Restores (Declaration.toValue absent) Declaration.WellFormed := by
  intro declaration hwf
  rcases hwf with ⟨hname, hrule, hmembers, hkey, hvalue, hdecorators⟩
  rw [Declaration.toValue, record_eq]
  refine ⟨Value.noConfusion,
    Declaration.read_eq_accepted_iff.2 ⟨_, rfl, ?_, ?_, ?_, ?_, ?_, ?_, ?_, ?_, ?_, hrule⟩⟩
  · exact required_remaining (by simp) (by simp)
      (Reader.restores_oneOf DeclarationKind.ofName?_name _ trivial)
  · exact required_remaining (by simp) (by simp) (Reader.restores_nonEmptyText _ hname)
  · exact optional_remaining (by simp) (by simp [Value.ofText?])
      fun superType _ => Reader.restores_text superType trivial
  · exact optional_list_remaining (by simp) (by simp) (Property.read_restores absent) hmembers
  · exact optional_remaining (by simp) (by simp [Value.ofText?])
      fun scalarType _ => Reader.restores_text scalarType trivial
  · exact optional_remaining (by simp) (by simp)
      fun slot hslot => MapSlot.read_restores absent slot (hkey slot hslot)
  · exact optional_remaining (by simp) (by simp)
      fun slot hslot => MapSlot.read_restores absent slot (hvalue slot hslot)
  · exact Decorators.read_remaining (by simp) (by simp) hdecorators
  · exact closed_remaining (by simp)

/-- A written namespace is read back. -/
theorem ModelFile.read_restores :
    ModelFile.read.Restores (ModelFile.toValue absent) ModelFile.WellFormed := by
  intro file hwf
  rcases hwf with ⟨hname, hdeclarations⟩
  rw [ModelFile.toValue, record_eq]
  refine ⟨Value.noConfusion, ModelFile.read_eq_accepted_iff.2 ⟨_, rfl, ?_, ?_, ?_, ?_⟩⟩
  · exact required_remaining (by simp) (by simp) (Reader.restores_nonEmptyText _ hname)
  · exact defaulted_remaining (by simp) (by simp)
      (Reader.restores_text.list file.imports fun _ _ => trivial)
  · exact defaulted_remaining (by simp) (by simp)
      ((Declaration.read_restores absent).list file.declarations hdeclarations)
  · exact closed_remaining (by simp)

/-- A written model is read back. -/
theorem ModelTree.read_restores :
    ModelTree.read.Restores (ModelTree.toValue absent)
      fun tree => ∀ file ∈ tree.files, file.WellFormed := by
  intro tree hfiles
  rw [ModelTree.toValue, record_eq]
  refine ⟨Value.noConfusion, ModelTree.read_eq_accepted_iff.2 ⟨_, rfl, ?_, ?_⟩⟩
  · exact defaulted_remaining (by simp) (by simp)
      ((ModelFile.read_restores absent).list tree.files hfiles)
  · exact closed_remaining (by simp)

end

end ModelTagging
