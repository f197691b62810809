import ModelTagging.Proofs.Tagging.Reachable

/-!
# What decorating leaves alone

The frame of a decoration. The model is the same before and after once the
decorators of declarations and of properties are taken away, be it from the
elements or from the exported documents. The slots of a map keep theirs. And
decorators themselves are replaced and added, but none of their names is lost.
-/

namespace ModelTagging

/-! ## Taking fields away from documents -/

namespace Value

/-- The object without its fields of this name. Nothing is taken away further
down. -/
def eraseField (name : String) : Value → Value
  | .object fields => .object (fields.filter fun field => field.1 ≠ name)
  | v => v

/-- The object with the values of its fields of this name changed. -/
def mapField (name : String) (change : Value → Value) : Value → Value
  | .object fields => .object (fields.map fun field =>
      if field.1 = name then (field.1, change field.2) else field)
  | v => v

/-- The list with all of its items changed. -/
def mapItems (change : Value → Value) : Value → Value
  | .list items => .list (items.map change)
  | v => v

/-- A field is taken away from a record before or after absent ones are. -/
theorem eraseField_record (absent : AbsentFields) (name : String) (fields : Fields) :
    (absent.record fields).eraseField name =
      absent.record (fields.filter fun field => field.1 ≠ name) := by
  cases absent with
  | kept => rfl
  | omitted => simp [AbsentFields.record, eraseField, List.filter_filter, Bool.and_comm]

/-- A field of a record is changed before or after absent ones are left out, if
the change makes no value absent or present. -/
theorem mapField_record (absent : AbsentFields) (name : String) {change : Value → Value}
    (h : ∀ v, (change v).isNull = v.isNull) (fields : Fields) :
    (absent.record fields).mapField name change =
      absent.record (fields.map fun field =>
        if field.1 = name then (field.1, change field.2) else field) := by
  cases absent with
  | kept => rfl
  | omitted =>
    have htest (field : String × Value) :
        (if field.1 = name then (field.1, change field.2) else field).2.isNull =
          field.2.isNull := by
      split
      · exact h field.2
      · rfl
    simp only [AbsentFields.record, mapField, List.filter_map, Function.comp_def, htest]

/-- Changing the items of a list makes it neither absent nor present. -/
theorem isNull_mapItems (change : Value → Value) (v : Value) :
    (v.mapItems change).isNull = v.isNull := by
  cases v <;> rfl

/-- The items of a written list are changed as they are written. -/
theorem mapItems_ofList {α : Type} (change : Value → Value) (write : α → Value)
    (items : List α) :
    (ofList write items).mapItems change = ofList (fun item => change (write item)) items := by
  simp [ofList, mapItems, Function.comp_def]

/-- The same for a list that may be absent. -/
theorem mapItems_ofOption {α : Type} (change : Value → Value) (write : α → Value)
    (items : Option (List α)) :
    (ofOption (ofList write) items).mapItems change =
      ofOption (ofList fun item => change (write item)) items := by
  cases items with
  | none => rfl
  | some items => exact mapItems_ofList change write items

/-- The document of a declaration without the decorators of the declaration and
of its properties. -/
def undecoratedDeclaration (v : Value) : Value :=
  (v.mapField "properties" (mapItems (eraseField "decorators"))).eraseField "decorators"

/-- The document of a namespace without the decorators of its declarations and
their properties. -/
def undecoratedFile : Value → Value := mapField "declarations" (mapItems undecoratedDeclaration)

/-- The document of a model without the decorators of all declarations and
properties. -/
def undecoratedModel : Value → Value := mapField "models" (mapItems undecoratedFile)

end Value

/-! ## Retagging and documents -/

/-- Without its decorators the document of a retagged property is the same. -/
theorem Property.eraseField_toValue_retag (absent : AbsentFields) (property : Property)
    (decorators : Decorators) :
    ((property.retag decorators).toValue absent).eraseField "decorators" =
      (property.toValue absent).eraseField "decorators" := by
  simp [toValue, retag, Value.eraseField_record]

/-- Without decorators the document of a retagged declaration is the same. -/
theorem Declaration.undecorated_toValue_retag (absent : AbsentFields) (declaration : Declaration)
    (own : Decorators) (member : Property → Decorators) :
    ((declaration.retag own member).toValue absent).undecoratedDeclaration =
      (declaration.toValue absent).undecoratedDeclaration := by
  have hproperties :
      (Value.ofOption (.ofList (Property.toValue absent))
        (declaration.retag own member).properties).mapItems (Value.eraseField "decorators") =
      (Value.ofOption (.ofList (Property.toValue absent))
        declaration.properties).mapItems (Value.eraseField "decorators") := by
    rw [Value.mapItems_ofOption, Value.mapItems_ofOption]
    cases h : declaration.properties <;>
      simp [retag, h, Value.ofOption, Value.ofList, Function.comp_def,
        Property.eraseField_toValue_retag]
  have hnull := Value.isNull_mapItems (Value.eraseField "decorators")
  simp only [Value.undecoratedDeclaration, toValue, Value.mapField_record absent _ hnull,
    Value.eraseField_record, List.map_cons, List.map_nil, hproperties]
  simp [retag]

section

variable (own : String → Declaration → Decorators)
  (member : String → Declaration → Property → Decorators)

/-- Without decorators the document of a retagged namespace is the same. -/
theorem ModelFile.undecorated_toValue_retag (absent : AbsentFields) (file : ModelFile) :
    ((file.retag own member).toValue absent).undecoratedFile =
      (file.toValue absent).undecoratedFile := by
  have hnull := Value.isNull_mapItems Value.undecoratedDeclaration
  have hdeclarations : Value.ofList
        (fun declaration => (Declaration.toValue absent declaration).undecoratedDeclaration)
        (file.retag own member).declarations =
      Value.ofList
        (fun declaration => (Declaration.toValue absent declaration).undecoratedDeclaration)
        file.declarations := by
    simp [retag, Value.ofList, Function.comp_def, Declaration.undecorated_toValue_retag]
  simp only [Value.undecoratedFile, toValue, Value.mapField_record absent _ hnull, List.map_cons,
    List.map_nil, Value.mapItems_ofList, hdeclarations]
  simp [retag]

/-- Without decorators the document of a retagged registry is the same. -/
theorem Registry.undecorated_toValue_retag (registry : Registry) :
    (registry.retag own member).toValue.undecoratedModel =
      registry.toValue.undecoratedModel := by
  have hnull := Value.isNull_mapItems Value.undecoratedFile
  have hfiles :
      Value.ofList (fun file => (ModelFile.toValue .omitted file).undecoratedFile)
        (registry.retag own member).tree.files =
      Value.ofList (fun file => (ModelFile.toValue .omitted file).undecoratedFile)
        registry.tree.files := by
    simp [tree, retag, Value.ofList, Function.comp_def, ModelFile.undecorated_toValue_retag]
  simp only [toValue, ModelTree.toValue, Value.undecoratedModel, Value.mapField_record _ _ hnull,
    List.map_cons, List.map_nil, Value.mapItems_ofList, hfiles, if_true]

end

/-! ## Names of decorators -/

/-- Element for element, in the order of the model, no name of a decorator is
missing afterwards. -/
def Declaration.NamesKept (before after : Declaration) : Prop :=
  before.decorators.names ⊆ after.decorators.names ∧
    List.Forall₂ (fun property property' : Property =>
      property.decorators.names ⊆ property'.decorators.names) before.members after.members

/-- The same for all declarations of a registry. -/
def Registry.NamesKept (before after : Registry) : Prop :=
  List.Forall₂ (fun file file' : ModelFile =>
    List.Forall₂ Declaration.NamesKept file.declarations file'.declarations)
    before.files after.files

/-- Commands keep the names of all decorators of a registry. -/
theorem Registry.namesKept_decorated (registry : Registry) (commands : List Command) :
    registry.NamesKept (registry.decorated commands) := by
  rw [decorated_eq_retag, NamesKept, retag, List.forall₂_map_right_iff, List.forall₂_same]
  intro file _
  rw [ModelFile.retag, List.forall₂_map_right_iff, List.forall₂_same]
  intro declaration _
  refine ⟨Decorators.names_subset_after _ _, ?_⟩
  rw [Declaration.members_retag, List.forall₂_map_right_iff, List.forall₂_same]
  intro property _
  exact Decorators.names_subset_after _ _

/-! ## The frame of a decoration -/

namespace Registry

/-- A decoration keeps the namespaces and their order, everything but decorators
of declarations and properties, in the documents as in the elements, and the
names of those. -/
theorem decorate_frame {registry : Registry} (hr : registry.Reachable) {source : CommandSource}
    (hsource : source.Valid) {options : Options} {result : Registry}
    (h : registry.decorate source options = .ok result) :
    result.namespaces = registry.namespaces ∧
      result.toValue.undecoratedModel = registry.toValue.undecoratedModel ∧
      result.undecorated = registry.undecorated ∧ registry.NamesKept result := by
  obtain ⟨set, -, rfl⟩ := (hr.wellFormed.decorate_eq_ok_iff hsource.wellFormed).1 h
  refine ⟨registry.namespaces_decorated _, ?_, ?_, registry.namesKept_decorated _⟩
  · rw [decorated_eq_retag, undecorated_toValue_retag]
  · rw [decorated_eq_retag, undecorated_retag]

/-- In the sample three commands tag two elements, and the document without
decorators stays the same. -/
theorem decorate_frame_sample :
    ∃ result, Sample.registry.decorate
        (.parsed (Sample.set (Sample.personCommands ++ Sample.textCommands))) .unchecked =
          .ok result ∧ result ≠ Sample.registry ∧
      result.toValue.undecoratedModel = Sample.registry.toValue.undecoratedModel := by
  have hvalid := CommandSource.valid_parsed Sample.parsed_set
  have h := Sample.reachable_registry.wellFormed.decorate_of_unchecked hvalid.wellFormed rfl
    (rfl : Options.unchecked.validateShape = false)
  exact ⟨_, h, by decide, (decorate_frame Sample.reachable_registry hvalid h).2.1⟩

end Registry

end ModelTagging
