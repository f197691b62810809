import ModelTagging.Proofs.Model.WellFormed
import ModelTagging.Proofs.Shape.Grammar

/-!
# The grammar of models

Which document values spell which elements of a model: for each element the
fields it has, how they spell its parts, which of them may be left out or
absent, and the rules that relate them. No object of the grammar has any other
field. The reading of each element follows its grammar. That names are distinct
is a matter of registration and no part of it.
-/

namespace ModelTagging

/-- What an argument has beside its kind. -/
def Argument.SpelledBody (manner : Manner) (fields : Fields) : Argument → Prop
  | .text value => fields.Has "value" Spelling.Text value ∧ fields.Only ["kind", "value"]
  | .number value =>
    fields.Has "value" (Spelling.Numeric manner) value ∧ fields.Only ["kind", "value"]
  | .boolean value =>
    fields.Has "value" (Spelling.Truth manner) value ∧ fields.Only ["kind", "value"]
  | .typeReference typeName isArray =>
    fields.Has "type_name" Spelling.Name typeName ∧
      fields.HasOr manner "is_array" (Spelling.Truth manner) false isArray ∧
      fields.Only ["kind", "type_name", "is_array"]

/-- An argument is tagged by its kind, which says what else it has. -/
def Argument.Spelled (manner : Manner) : Spelling Argument := fun v argument =>
  ∃ fields : Fields, v = .object fields ∧
    fields.Has "kind" (Spelling.Word ArgumentKind.name) argument.kind ∧
    argument.SpelledBody manner fields

/-- A decorator has a name and maybe arguments. -/
def Decorator.Spelled (manner : Manner) : Spelling Decorator := fun v decorator =>
  ∃ fields : Fields, v = .object fields ∧
    fields.Has "name" Spelling.Name decorator.name ∧
    fields.MayHave manner "arguments" (Spelling.Items (Argument.Spelled manner))
      decorator.arguments ∧
    fields.Only ["name", "arguments"]

/-- An element may have decorators. -/
def Fields.MayHaveDecorators (fields : Fields) (manner : Manner) (decorators : Decorators) : Prop :=
  fields.MayHave manner "decorators" (Spelling.Items (Decorator.Spelled manner)) decorators

/-- A slot of a map has the name of a type, which may be empty. -/
def MapSlot.Spelled (manner : Manner) : Spelling MapSlot := fun v slot =>
  ∃ fields : Fields, v = .object fields ∧
    fields.Has "type_name" Spelling.Text slot.typeName ∧
    fields.MayHaveDecorators manner slot.decorators ∧
    fields.Only ["type_name", "decorators"]

/-- An enumeration value has no type, and any other property has a type whose
name is not empty. -/
structure Property.KeepsRule (property : Property) : Prop where
  /-- An enumeration value is untyped. -/
  untyped : property.kind = .enumValue → property.typeName = none
  /-- Everything else is typed. -/
  typed : property.kind ≠ .enumValue → ∃ typeName ≠ "", property.typeName = some typeName

/-- A property is a field unless it says otherwise, and keeps the rule on
types. -/
def Property.Spelled (manner : Manner) : Spelling Property := fun v property =>
  ∃ fields : Fields, v = .object fields ∧
    fields.HasOr manner "kind" (Spelling.Word PropertyKind.name) .field property.kind ∧
    fields.Has "name" Spelling.Name property.name ∧
    fields.MayHave manner "type_name" Spelling.Text property.typeName ∧
    fields.HasOr manner "is_array" (Spelling.Truth manner) false property.isArray ∧
    fields.HasOr manner "is_optional" (Spelling.Truth manner) false property.isOptional ∧
    fields.MayHaveDecorators manner property.decorators ∧
    fields.Only ["kind", "name", "type_name", "is_array", "is_optional", "decorators"] ∧
    property.KeepsRule

/-- The rules on kinds relate the fields of a declaration. -/
structure Declaration.KeepsRules (declaration : Declaration) : Prop where
  /-- Scalars and maps have no member list, not even an empty one. -/
  memberless : declaration.kind = .scalar ∨ declaration.kind = .map → declaration.properties = none
  /-- Exactly the scalars have an underlying type. -/
  underlying : declaration.scalarType ≠ none ↔ declaration.kind = .scalar
  /-- Exactly the maps have both slots; one of them says nothing. -/
  slots : declaration.mapKey ≠ none ∧ declaration.mapValue ≠ none ↔ declaration.kind = .map
  /-- Enumerations own enumeration values only. -/
  members : declaration.kind = .enum →
    ∀ property ∈ declaration.members, property.kind = .enumValue

/-- A declaration has a kind and a name, and keeps the rules on kinds. -/
def Declaration.Spelled (manner : Manner) : Spelling Declaration := fun v declaration =>
  ∃ fields : Fields, v = .object fields ∧
    fields.Has "kind" (Spelling.Word DeclarationKind.name) declaration.kind ∧
    fields.Has "name" Spelling.Name declaration.name ∧
    fields.MayHave manner "super_type" Spelling.Text declaration.superType ∧
    fields.MayHave manner "properties" (Spelling.Items (Property.Spelled manner))
      declaration.properties ∧
    fields.MayHave manner "scalar_type" Spelling.Text declaration.scalarType ∧
    fields.MayHave manner "map_key" (MapSlot.Spelled manner) declaration.mapKey ∧
    fields.MayHave manner "map_value" (MapSlot.Spelled manner) declaration.mapValue ∧
    fields.MayHaveDecorators manner declaration.decorators ∧
    fields.Only ["kind", "name", "super_type", "properties", "scalar_type", "map_key",
      "map_value", "decorators"] ∧
    declaration.KeepsRules

/-- A namespace has a name, imports and declarations. -/
def ModelFile.Spelled (manner : Manner) : Spelling ModelFile := fun v file =>
  ∃ fields : Fields, v = .object fields ∧
    fields.Has "namespace" Spelling.Name file.namespaceName ∧
    fields.HasOr manner "imports" (Spelling.Items Spelling.Text) [] file.imports ∧
    fields.HasOr manner "declarations" (Spelling.Items (Declaration.Spelled manner)) []
      file.declarations ∧
    fields.Only ["namespace", "imports", "declarations"]

/-- A model has namespaces. -/
def ModelTree.Spelled (manner : Manner) : Spelling ModelTree := fun v tree =>
  ∃ fields : Fields, v = .object fields ∧
    fields.HasOr manner "models" (Spelling.Items (ModelFile.Spelled manner)) [] tree.files ∧
    fields.Only ["models"]

/-! ## Readings follow the grammar -/

/-- A kind of property is read from its word. -/
theorem PropertyKind.oneOf_follows {choices : List String} :
    (Reader.oneOf choices ofName?).Follows (Spelling.Word name) :=
  Reader.oneOf_follows ofName?_name

/-- A kind of declaration is read from its word. -/
theorem DeclarationKind.oneOf_follows {choices : List String} :
    (Reader.oneOf choices ofName?).Follows (Spelling.Word name) :=
  Reader.oneOf_follows ofName?_name

namespace Argument

/-- The fields of an argument of a known kind are read as an argument of that
kind. -/
theorem readAs_eq_accepted_iff {fields : Fields} {kind : ArgumentKind} {argument : Argument} :
    readAs fields kind = .accepted argument ↔
      argument.kind = kind ∧ argument.SpelledBody .free fields := by
  cases kind <;> simp only [readAs, Decoded.seq_eq_accepted_iff, ↓Decoded.exists_seq_accepted_iff,
    ↓Decoded.exists_map_accepted_iff, Fields.closed_iff, Fields.required_iff Reader.text_follows,
    Fields.required_iff Reader.number_follows, Fields.required_iff Reader.boolean_follows,
    Fields.required_iff Reader.nonEmptyText_follows, Fields.defaulted_iff Reader.boolean_follows]
  all_goals
    constructor
    · grind [Argument.kind, SpelledBody]
    · cases argument <;> grind [Argument.kind, SpelledBody]

/-- An argument is read when its kind is spelled by its word and its other fields
are what that kind asks for. -/
theorem read_object_eq_accepted_iff {fields : Fields} {argument : Argument} :
    read (.object fields) = .accepted argument ↔
      fields.Has "kind" (Spelling.Word ArgumentKind.name) argument.kind ∧
        argument.SpelledBody .free fields := by
  simp only [read, Fields.Has, Spelling.Word]
  split
  · next hkind => simp [hkind, Decoded.fail]
  · next word hkind =>
    have hword : ∀ kind, ArgumentKind.ofName? word = some kind ↔ word = kind.name := fun kind =>
      Reader.find?_word_eq_some_iff ArgumentKind.ofName?_name
    cases hk : ArgumentKind.ofName? word with
    | some kind => simp [hkind, readAs_eq_accepted_iff, ← hword, hk, @eq_comm _ argument.kind]
    | none => simp [hkind, Decoded.fail, ← hword, hk]
  · next v hnot hkind =>
    have hne : ∀ word, v ≠ .str word := hnot
    simp [hkind, Decoded.fail, hne]

/-- An argument is read from its spellings. -/
theorem read_follows : read.Follows (Spelled .free) := by
  intro v argument
  cases v with
  | object fields =>
    simp only [read_object_eq_accepted_iff, Spelled, Value.object.injEq, exists_eq_left']
  | _ => simp [read, Spelled, Decoded.fail]

end Argument

/-- A decorator is read from its spellings. -/
theorem Decorator.read_follows : Decorator.read.Follows (Decorator.Spelled .free) := by
  intro v decorator
  simp only [Decorator.read_eq_accepted_iff, Decorator.Spelled,
    Fields.required_iff Reader.nonEmptyText_follows,
    Fields.optional_iff Argument.read_follows.list, Fields.closed_iff]

/-- The decorators of an element are read from their spellings. -/
theorem Fields.decorators_iff {fields : Fields} {decorators : Decorators} :
    fields.decorators = .accepted decorators ↔ fields.MayHaveDecorators .free decorators :=
  Fields.optional_iff Decorator.read_follows.list

/-- A slot of a map is read from its spellings. -/
theorem MapSlot.read_follows : MapSlot.read.Follows (MapSlot.Spelled .free) := by
  intro v slot
  simp only [MapSlot.read_eq_accepted_iff, MapSlot.Spelled,
    Fields.required_iff Reader.text_follows, Fields.decorators_iff, Fields.closed_iff]

/-- A property that breaks no rule is one that keeps it. -/
theorem Property.violation?_eq_none_iff {property : Property} :
    property.violation? = none ↔ property.KeepsRule := by
  obtain ⟨kind, name, typeName, isArray, isOptional, decorators⟩ := property
  constructor
  · intro h
    constructor <;> cases kind <;> cases typeName <;> simp_all [violation?]
  · rintro ⟨huntyped, htyped⟩
    cases kind <;> cases typeName <;> simp_all [violation?]

/-- A property is read from its spellings. -/
theorem Property.read_follows : Property.read.Follows (Property.Spelled .free) := by
  intro v property
  simp only [Property.read_eq_accepted_iff, Property.Spelled,
    Fields.defaulted_iff PropertyKind.oneOf_follows,
    Fields.required_iff Reader.nonEmptyText_follows, Fields.optional_iff Reader.text_follows,
    Fields.defaulted_iff Reader.boolean_follows, Fields.decorators_iff, Fields.closed_iff,
    Property.violation?_eq_none_iff]

/-- A declaration that breaks no rule is one that keeps them all. -/
theorem Declaration.violation?_eq_none_iff {declaration : Declaration} :
    declaration.violation? = none ↔ declaration.KeepsRules := by
  have hmemberless : (!declaration.kind.ownsProperties && declaration.properties.isSome) = false ↔
      (declaration.kind = .scalar ∨ declaration.kind = .map → declaration.properties = none) := by
    cases declaration.kind <;> simp [DeclarationKind.ownsProperties]
  have hunderlying : ((declaration.kind == .scalar) != declaration.scalarType.isSome) = false ↔
      (declaration.scalarType ≠ none ↔ declaration.kind = .scalar) := by
    cases declaration.scalarType <;> simp
  have hslots : ((declaration.kind == .map) !=
      (declaration.mapKey.isSome && declaration.mapValue.isSome)) = false ↔
      (declaration.mapKey ≠ none ∧ declaration.mapValue ≠ none ↔ declaration.kind = .map) := by
    cases declaration.mapKey <;> cases declaration.mapValue <;> simp
  have hmembers : (declaration.kind == .enum &&
      declaration.members.any (·.kind != .enumValue)) = false ↔
      (declaration.kind = .enum → ∀ property ∈ declaration.members,
        property.kind = .enumValue) := by
    simp
  constructor
  · intro h
    simp only [violation?] at h
    split_ifs at h with h₁ h₂ h₃ h₄
    exact ⟨hmemberless.1 (eq_false_of_ne_true h₁), hunderlying.1 (eq_false_of_ne_true h₂),
      hslots.1 (eq_false_of_ne_true h₃), hmembers.1 (eq_false_of_ne_true h₄)⟩
  · rintro ⟨h₁, h₂, h₃, h₄⟩
    simp only [violation?, hmemberless.2 h₁, hunderlying.2 h₂, hslots.2 h₃, hmembers.2 h₄,
      Bool.false_eq_true, if_false]

/-- A declaration is read from its spellings. -/
theorem Declaration.read_follows : Declaration.read.Follows (Declaration.Spelled .free) := by
  intro v declaration
  simp only [Declaration.read_eq_accepted_iff, Declaration.Spelled,
    Fields.required_iff DeclarationKind.oneOf_follows,
    Fields.required_iff Reader.nonEmptyText_follows, Fields.optional_iff Reader.text_follows,
    Fields.optional_iff Property.read_follows.list, Fields.optional_iff MapSlot.read_follows,
    Fields.decorators_iff, Fields.closed_iff, Declaration.violation?_eq_none_iff]

/-- A namespace is read from its spellings. -/
theorem ModelFile.read_follows : ModelFile.read.Follows (ModelFile.Spelled .free) := by
  intro v file
  simp only [ModelFile.read_eq_accepted_iff, ModelFile.Spelled,
    Fields.required_iff Reader.nonEmptyText_follows,
    Fields.defaulted_iff Reader.text_follows.list,
    Fields.defaulted_iff Declaration.read_follows.list, Fields.closed_iff]

/-- A model is read from its spellings. -/
theorem ModelTree.read_follows : ModelTree.read.Follows (ModelTree.Spelled .free) := by
  intro v tree
  simp only [ModelTree.read_eq_accepted_iff, ModelTree.Spelled,
    Fields.defaulted_iff ModelFile.read_follows.list, Fields.closed_iff]

end ModelTagging
