import ModelTagging.Model.Reading
import ModelTagging.Proofs.Shape.Accepted

/-!
# Well-formed model elements

What every model read from a document satisfies, stated on the elements alone:
names have a character, the rules on properties and declarations are kept, and
all decorators are well-formed. The predicates are decidable. Distinctness of
names is a matter of registration and not of reading.
-/

namespace ModelTagging

/-- A type reference names something. -/
def Argument.WellFormed : Argument → Prop
  | .typeReference typeName _ => typeName ≠ ""
  | _ => True

instance (argument : Argument) : Decidable argument.WellFormed := by
  cases argument <;> unfold Argument.WellFormed <;> infer_instance

/-- A decorator has a name and well-formed arguments. -/
def Decorator.WellFormed (decorator : Decorator) : Prop :=
  decorator.name ≠ "" ∧ ∀ argument ∈ decorator.arguments.getD [], argument.WellFormed

instance (decorator : Decorator) : Decidable decorator.WellFormed :=
  inferInstanceAs (Decidable (_ ∧ _))

/-- All decorators of an element are well-formed. -/
def Decorators.WellFormed (decorators : Decorators) : Prop :=
  ∀ decorator ∈ decorators.getD [], decorator.WellFormed

instance (decorators : Decorators) : Decidable (Decorators.WellFormed decorators) :=
  inferInstanceAs (Decidable (∀ _ ∈ _, _))

/-- A slot of a map has well-formed decorators; the name of its type is free. -/
def MapSlot.WellFormed (slot : MapSlot) : Prop := Decorators.WellFormed slot.decorators

instance (slot : MapSlot) : Decidable slot.WellFormed :=
  inferInstanceAs (Decidable (Decorators.WellFormed _))

/-- A property has a name, keeps the rule on types and has well-formed
decorators. -/
def Property.WellFormed (property : Property) : Prop :=
  property.name ≠ "" ∧ property.violation? = none ∧ Decorators.WellFormed property.decorators

instance (property : Property) : Decidable property.WellFormed :=
  inferInstanceAs (Decidable (_ ∧ _ ∧ _))

/-- A declaration has a name, keeps the rules on kinds, and its members, its
slots and its decorators are well-formed. -/
def Declaration.WellFormed (declaration : Declaration) : Prop :=
  declaration.name ≠ "" ∧ declaration.violation? = none ∧
    (∀ property ∈ declaration.members, property.WellFormed) ∧
    (∀ slot ∈ declaration.mapKey, slot.WellFormed) ∧
    (∀ slot ∈ declaration.mapValue, slot.WellFormed) ∧
    Decorators.WellFormed declaration.decorators

instance (declaration : Declaration) : Decidable declaration.WellFormed :=
  inferInstanceAs (Decidable (_ ∧ _ ∧ _ ∧ _ ∧ _ ∧ _))

/-- A namespace has a name and well-formed declarations. -/
def ModelFile.WellFormed (file : ModelFile) : Prop :=
  file.namespaceName ≠ "" ∧ ∀ declaration ∈ file.declarations, declaration.WellFormed

instance (file : ModelFile) : Decidable file.WellFormed :=
  inferInstanceAs (Decidable (_ ∧ _))

/-! ## Reading ensures it -/

/-- An argument that is read is well-formed. -/
theorem Argument.read_ensures : Argument.read.Ensures Argument.WellFormed := by
  intro v argument h
  cases v with
  | object fields =>
    rw [Argument.read] at h
    split at h
    · exact nomatch h
    · split at h
      · next kind _ =>
        rw [Decoded.under_eq_accepted_iff] at h
        cases kind <;> simp only [readAs, Decoded.seq_eq_accepted_iff,
          ↓Decoded.exists_seq_accepted_iff, ↓Decoded.exists_map_accepted_iff] at h
        case typeReference =>
          obtain ⟨typeName, hname, isArray, -, -, -, rfl⟩ := h
          exact Fields.ne_empty_of_required hname
        all_goals
          obtain ⟨value, -, -, -, rfl⟩ := h
          trivial
      · exact nomatch h
    · exact nomatch h
  | _ => exact nomatch h

/-- A decorator is read from an object with just the two fields of its shape. -/
theorem Decorator.read_eq_accepted_iff {v : Value} {decorator : Decorator} :
    Decorator.read v = .accepted decorator ↔ ∃ fields : Fields, v = .object fields ∧
      fields.required "name" Reader.nonEmptyText = .accepted decorator.name ∧
      fields.optional "arguments" (Reader.list Argument.read) = .accepted decorator.arguments ∧
      fields.closed ["name", "arguments"] = .accepted () := by
  simp only [Decorator.read, Reader.object_eq_accepted_iff, Decoded.seq_eq_accepted_iff,
    ↓Decoded.exists_seq_accepted_iff, ↓Decoded.exists_map_accepted_iff]
  constructor
  · intro hread
    rcases hread with ⟨fields, rfl, _, hname, _, harguments, _, hclosed, rfl⟩
    exact ⟨fields, rfl, hname, harguments, hclosed⟩
  · intro hfields
    rcases hfields with ⟨fields, rfl, hname, harguments, hclosed⟩
    exact ⟨fields, rfl, _, hname, _, harguments, _, hclosed, rfl⟩

/-- A decorator that is read is well-formed. -/
theorem Decorator.read_ensures : Decorator.read.Ensures Decorator.WellFormed := by
  intro v decorator h
  obtain ⟨fields, -, hname, harguments, -⟩ := Decorator.read_eq_accepted_iff.1 h
  exact ⟨Fields.ne_empty_of_required hname,
    Fields.optional_list_ensures Argument.read_ensures harguments⟩

/-- A slot is read from an object with just the two fields of its shape. -/
theorem MapSlot.read_eq_accepted_iff {v : Value} {slot : MapSlot} :
    MapSlot.read v = .accepted slot ↔ ∃ fields : Fields, v = .object fields ∧
      fields.required "type_name" Reader.text = .accepted slot.typeName ∧
      fields.decorators = .accepted slot.decorators ∧
      fields.closed ["type_name", "decorators"] = .accepted () := by
  simp only [MapSlot.read, Reader.object_eq_accepted_iff, Decoded.seq_eq_accepted_iff,
    ↓Decoded.exists_seq_accepted_iff, ↓Decoded.exists_map_accepted_iff]
  constructor
  · intro hread
    rcases hread with ⟨fields, rfl, _, hname, _, hdecorators, _, hclosed, rfl⟩
    exact ⟨fields, rfl, hname, hdecorators, hclosed⟩
  · intro hfields
    rcases hfields with ⟨fields, rfl, hname, hdecorators, hclosed⟩
    exact ⟨fields, rfl, _, hname, _, hdecorators, _, hclosed, rfl⟩

/-- A slot that is read is well-formed. -/
theorem MapSlot.read_ensures : MapSlot.read.Ensures MapSlot.WellFormed := by
  intro v slot h
  obtain ⟨fields, -, -, hdecorators, -⟩ := MapSlot.read_eq_accepted_iff.1 h
  exact Fields.optional_list_ensures Decorator.read_ensures hdecorators

/-- A property is read from an object with just the fields of its shape, and it
keeps the rule on types. -/
theorem Property.read_eq_accepted_iff {v : Value} {property : Property} :
    Property.read v = .accepted property ↔ ∃ fields : Fields, v = .object fields ∧
      fields.defaulted "kind" (Reader.oneOf (PropertyKind.all.map PropertyKind.name)
        PropertyKind.ofName?) .field = .accepted property.kind ∧
      fields.required "name" Reader.nonEmptyText = .accepted property.name ∧
      fields.optional "type_name" Reader.text = .accepted property.typeName ∧
      fields.defaulted "is_array" Reader.boolean false = .accepted property.isArray ∧
      fields.defaulted "is_optional" Reader.boolean false = .accepted property.isOptional ∧
      fields.decorators = .accepted property.decorators ∧
      fields.closed ["kind", "name", "type_name", "is_array", "is_optional", "decorators"] =
        .accepted () ∧
      property.violation? = none := by
  simp only [Property.read, Reader.object_eq_accepted_iff, Decoded.checkedBy_eq_accepted_iff,
    Decoded.seq_eq_accepted_iff, ↓Decoded.exists_seq_accepted_iff, ↓Decoded.exists_map_accepted_iff]
  constructor
  · intro hread
    rcases hread with ⟨fields, rfl, ⟨_, hkind, _, hname, _, htype, _, harray, _, hoptional, _,
      hdecorators, _, hclosed, rfl⟩, hrule⟩
    exact ⟨fields, rfl, hkind, hname, htype, harray, hoptional, hdecorators, hclosed, hrule⟩
  · intro hfields
    rcases hfields with ⟨fields, rfl, hkind, hname, htype, harray, hoptional, hdecorators, hclosed,
      hrule⟩
    exact ⟨fields, rfl, ⟨_, hkind, _, hname, _, htype, _, harray, _, hoptional, _, hdecorators,
      _, hclosed, rfl⟩, hrule⟩

/-- A property that is read is well-formed. -/
theorem Property.read_ensures : Property.read.Ensures Property.WellFormed := by
  intro v property h
  obtain ⟨fields, -, -, hname, -, -, -, hdecorators, -, hrule⟩ :=
    Property.read_eq_accepted_iff.1 h
  exact ⟨Fields.ne_empty_of_required hname, hrule,
    Fields.optional_list_ensures Decorator.read_ensures hdecorators⟩

/-- A declaration is read from an object with just the fields of its shape, and
it keeps the rules on kinds. -/
theorem Declaration.read_eq_accepted_iff {v : Value} {declaration : Declaration} :
    Declaration.read v = .accepted declaration ↔ ∃ fields : Fields, v = .object fields ∧
      fields.required "kind" (Reader.oneOf (DeclarationKind.all.map DeclarationKind.name)
        DeclarationKind.ofName?) = .accepted declaration.kind ∧
      fields.required "name" Reader.nonEmptyText = .accepted declaration.name ∧
      fields.optional "super_type" Reader.text = .accepted declaration.superType ∧
      fields.optional "properties" (Reader.list Property.read) =
        .accepted declaration.properties ∧
      fields.optional "scalar_type" Reader.text = .accepted declaration.scalarType ∧
      fields.optional "map_key" MapSlot.read = .accepted declaration.mapKey ∧
      fields.optional "map_value" MapSlot.read = .accepted declaration.mapValue ∧
      fields.decorators = .accepted declaration.decorators ∧
      fields.closed ["kind", "name", "super_type", "properties", "scalar_type", "map_key",
        "map_value", "decorators"] = .accepted () ∧
      declaration.violation? = none := by
  simp only [Declaration.read, Reader.object_eq_accepted_iff, Decoded.checkedBy_eq_accepted_iff,
    Decoded.seq_eq_accepted_iff, ↓Decoded.exists_seq_accepted_iff, ↓Decoded.exists_map_accepted_iff]
  constructor
  · intro hread
    rcases hread with ⟨fields, rfl, ⟨_, hkind, _, hname, _, hsuper, _, hproperties, _, hscalar,
      _, hkey, _, hvalue, _, hdecorators, _, hclosed, rfl⟩, hrule⟩
    exact ⟨fields, rfl, hkind, hname, hsuper, hproperties, hscalar, hkey, hvalue, hdecorators,
      hclosed, hrule⟩
  · intro hfields
    rcases hfields with ⟨fields, rfl, hkind, hname, hsuper, hproperties, hscalar, hkey, hvalue,
      hdecorators, hclosed, hrule⟩
    exact ⟨fields, rfl, ⟨_, hkind, _, hname, _, hsuper, _, hproperties, _, hscalar, _, hkey,
      _, hvalue, _, hdecorators, _, hclosed, rfl⟩, hrule⟩

/-- A declaration that is read is well-formed. -/
theorem Declaration.read_ensures : Declaration.read.Ensures Declaration.WellFormed := by
  intro v declaration h
  obtain ⟨fields, -, -, hname, -, hproperties, -, hkey, hvalue, hdecorators, -, hrule⟩ :=
    Declaration.read_eq_accepted_iff.1 h
  exact ⟨Fields.ne_empty_of_required hname, hrule,
    Fields.optional_list_ensures Property.read_ensures hproperties,
    Fields.optional_ensures MapSlot.read_ensures hkey,
    Fields.optional_ensures MapSlot.read_ensures hvalue,
    Fields.optional_list_ensures Decorator.read_ensures hdecorators⟩

/-- A namespace is read from an object with just the fields of its shape. -/
theorem ModelFile.read_eq_accepted_iff {v : Value} {file : ModelFile} :
    ModelFile.read v = .accepted file ↔ ∃ fields : Fields, v = .object fields ∧
      fields.required "namespace" Reader.nonEmptyText = .accepted file.namespaceName ∧
      fields.defaulted "imports" (Reader.list Reader.text) [] = .accepted file.imports ∧
      fields.defaulted "declarations" (Reader.list Declaration.read) [] =
        .accepted file.declarations ∧
      fields.closed ["namespace", "imports", "declarations"] = .accepted () := by
  simp only [ModelFile.read, Reader.object_eq_accepted_iff, Decoded.seq_eq_accepted_iff,
    ↓Decoded.exists_seq_accepted_iff, ↓Decoded.exists_map_accepted_iff]
  constructor
  · intro hread
    rcases hread with ⟨fields, rfl, _, hname, _, himports, _, hdeclarations, _, hclosed, rfl⟩
    exact ⟨fields, rfl, hname, himports, hdeclarations, hclosed⟩
  · intro hfields
    rcases hfields with ⟨fields, rfl, hname, himports, hdeclarations, hclosed⟩
    exact ⟨fields, rfl, _, hname, _, himports, _, hdeclarations, _, hclosed, rfl⟩

/-- A namespace that is read is well-formed. -/
theorem ModelFile.read_ensures : ModelFile.read.Ensures ModelFile.WellFormed := by
  intro v file h
  obtain ⟨fields, -, hname, -, hdeclarations, -⟩ := ModelFile.read_eq_accepted_iff.1 h
  exact ⟨Fields.ne_empty_of_required hname,
    Fields.defaulted_list_ensures Declaration.read_ensures hdeclarations⟩

/-- A model is read from an object with nothing but its namespaces. -/
theorem ModelTree.read_eq_accepted_iff {v : Value} {tree : ModelTree} :
    ModelTree.read v = .accepted tree ↔ ∃ fields : Fields, v = .object fields ∧
      fields.defaulted "models" (Reader.list ModelFile.read) [] = .accepted tree.files ∧
      fields.closed ["models"] = .accepted () := by
  simp only [ModelTree.read, Reader.object_eq_accepted_iff, Decoded.seq_eq_accepted_iff,
    ↓Decoded.exists_map_accepted_iff]
  constructor
  · intro hread
    rcases hread with ⟨fields, rfl, _, hfiles, _, hclosed, rfl⟩
    exact ⟨fields, rfl, hfiles, hclosed⟩
  · intro hfields
    rcases hfields with ⟨fields, rfl, hfiles, hclosed⟩
    exact ⟨fields, rfl, _, hfiles, _, hclosed, rfl⟩

/-- The namespaces of a model that is read are well-formed. -/
theorem ModelTree.read_ensures :
    ModelTree.read.Ensures fun tree => ∀ file ∈ tree.files, file.WellFormed := by
  intro v tree h
  obtain ⟨fields, -, hfiles, -⟩ := ModelTree.read_eq_accepted_iff.1 h
  exact Fields.defaulted_list_ensures ModelFile.read_ensures hfiles

/-- So are those of a model that is read from entries. -/
theorem ModelTree.wellFormed_of_readEntries {entries : Entries} {tree : ModelTree}
    (h : ModelTree.readEntries entries = .accepted tree) :
    ∀ file ∈ tree.files, file.WellFormed := by
  simp only [ModelTree.readEntries, Decoded.seq_eq_accepted_iff,
    ↓Decoded.exists_map_accepted_iff] at h
  obtain ⟨files, hfiles, -, -, rfl⟩ := h
  exact Fields.defaulted_list_ensures ModelFile.read_ensures hfiles

end ModelTagging
