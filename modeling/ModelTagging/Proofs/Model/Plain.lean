import ModelTagging.Model.Writing
import ModelTagging.Proofs.Model.Grammar

/-!
# Models written plainly

What is written of a well-formed model element without its absent fields spells
the element in the plain manner: no default is left out, no absent part is named,
and every number and truth value is written as itself.
-/

namespace ModelTagging

open AbsentFields

/-- What is written of an argument spells it plainly. -/
theorem Argument.written :
    (Argument.Spelled .plain).Written Argument.toValue Argument.WellFormed := by
  intro argument h
  refine ⟨by cases argument <;> exact Value.noConfusion, ?_⟩
  cases argument with
  | text value => exact ⟨_, rfl, ⟨_, rfl, rfl⟩, ⟨_, rfl, rfl⟩, by simp [Fields.Only]⟩
  | number value => exact ⟨_, rfl, ⟨_, rfl, rfl⟩, ⟨_, rfl, rfl⟩, by simp [Fields.Only]⟩
  | boolean value => exact ⟨_, rfl, ⟨_, rfl, rfl⟩, ⟨_, rfl, rfl⟩, by simp [Fields.Only]⟩
  | typeReference typeName isArray =>
    exact ⟨_, rfl, ⟨_, rfl, rfl⟩, ⟨_, rfl, rfl, h⟩, .inl ⟨_, rfl, rfl⟩, by simp [Fields.Only]⟩

/-- What is written of a decorator spells it plainly. -/
theorem Decorator.written :
    (Decorator.Spelled .plain).Written (Decorator.toValue .omitted) Decorator.WellFormed := by
  intro decorator hwf
  rcases hwf with ⟨hname, harguments⟩
  rw [Decorator.toValue, record_eq]
  refine ⟨Value.noConfusion, _, rfl, ?_, ?_, ?_⟩
  · exact has_omitted (by simp) (by simp) (Spelling.name_written _ hname)
  · exact mayHave_list_omitted (by simp) (by simp) Argument.written harguments
  · exact only_omitted (by simp [Fields.Only])

/-- What is written of the decorators of an element spells them plainly. -/
theorem Decorators.written_omitted {fields : Fields} {decorators : Decorators}
    (hnames : (fields.map Prod.fst).Nodup)
    (hv : ("decorators", Decorators.toValue .omitted decorators) ∈ fields)
    (h : Decorators.WellFormed decorators) :
    (AbsentFields.omitted.remaining fields).MayHaveDecorators .plain decorators :=
  mayHave_list_omitted hnames hv Decorator.written h

/-- What is written of a slot spells it plainly. -/
theorem MapSlot.written :
    (MapSlot.Spelled .plain).Written (MapSlot.toValue .omitted) MapSlot.WellFormed := by
  intro slot hdecorators
  rw [MapSlot.toValue, record_eq]
  refine ⟨Value.noConfusion, _, rfl, ?_, ?_, ?_⟩
  · exact has_omitted (by simp) (by simp) (Spelling.text_written _ trivial)
  · exact Decorators.written_omitted (by simp) (by simp) hdecorators
  · exact only_omitted (by simp [Fields.Only])

/-- What is written of a property spells it plainly. -/
theorem Property.written :
    (Property.Spelled .plain).Written (Property.toValue .omitted) Property.WellFormed := by
  intro property hwf
  rcases hwf with ⟨hname, hrule, hdecorators⟩
  rw [Property.toValue, record_eq]
  refine ⟨Value.noConfusion, _, rfl, .inl ?_, ?_, ?_, .inl ?_, .inl ?_, ?_, ?_,
    Property.violation?_eq_none_iff.1 hrule⟩
  · exact has_omitted (by simp) (by simp) (Spelling.word_written _ trivial)
  · exact has_omitted (by simp) (by simp) (Spelling.name_written _ hname)
  · exact mayHave_omitted (by simp) (by simp [Value.ofText?]) Spelling.text_written
      fun _ _ => trivial
  · exact has_omitted (by simp) (by simp) (Spelling.truth_written _ trivial)
  · exact has_omitted (by simp) (by simp) (Spelling.truth_written _ trivial)
  · exact Decorators.written_omitted (by simp) (by simp) hdecorators
  · exact only_omitted (by simp [Fields.Only])

/-- What is written of a declaration spells it plainly. -/
theorem Declaration.written :
    (Declaration.Spelled .plain).Written (Declaration.toValue .omitted) Declaration.WellFormed := by
  intro declaration hwf
  rcases hwf with ⟨hname, hrule, hmembers, hkey, hvalue, hdecorators⟩
  rw [Declaration.toValue, record_eq]
  refine ⟨Value.noConfusion, _, rfl, ?_, ?_, ?_, ?_, ?_, ?_, ?_, ?_, ?_,
    Declaration.violation?_eq_none_iff.1 hrule⟩
  · exact has_omitted (by simp) (by simp) (Spelling.word_written _ trivial)
  · exact has_omitted (by simp) (by simp) (Spelling.name_written _ hname)
  · exact mayHave_omitted (by simp) (by simp [Value.ofText?]) Spelling.text_written
      fun _ _ => trivial
  · exact mayHave_list_omitted (by simp) (by simp) Property.written hmembers
  · exact mayHave_omitted (by simp) (by simp [Value.ofText?]) Spelling.text_written
      fun _ _ => trivial
  · exact mayHave_omitted (by simp) (by simp) MapSlot.written hkey
  · exact mayHave_omitted (by simp) (by simp) MapSlot.written hvalue
  · exact Decorators.written_omitted (by simp) (by simp) hdecorators
  · exact only_omitted (by simp [Fields.Only])

/-- What is written of a namespace spells it plainly. -/
theorem ModelFile.written :
    (ModelFile.Spelled .plain).Written (ModelFile.toValue .omitted) ModelFile.WellFormed := by
  intro file hwf
  rcases hwf with ⟨hname, hdeclarations⟩
  rw [ModelFile.toValue, record_eq]
  refine ⟨Value.noConfusion, _, rfl, ?_, .inl ?_, .inl ?_, ?_⟩
  · exact has_omitted (by simp) (by simp) (Spelling.name_written _ hname)
  · exact has_omitted (by simp) (by simp)
      (Spelling.text_written.list file.imports fun _ _ => trivial)
  · exact has_omitted (by simp) (by simp) (Declaration.written.list file.declarations hdeclarations)
  · exact only_omitted (by simp [Fields.Only])

/-- What is written of a model spells it plainly. -/
theorem ModelTree.written :
    (ModelTree.Spelled .plain).Written (ModelTree.toValue .omitted)
      fun tree => ∀ file ∈ tree.files, file.WellFormed := by
  intro tree hfiles
  rw [ModelTree.toValue, record_eq]
  refine ⟨Value.noConfusion, _, rfl, .inl ?_, ?_⟩
  · exact has_omitted (by simp) (by simp) (ModelFile.written.list tree.files hfiles)
  · exact only_omitted (by simp [Fields.Only])

end ModelTagging
