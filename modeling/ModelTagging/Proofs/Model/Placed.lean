import ModelTagging.Model.Reading
import ModelTagging.Proofs.Shape.Placed

/-!
# Where the errors of a model lie

The forms of the parts of a model, as data, and one theorem for each part: its reading
places its errors in every value, as one of the form. An argument is a union whose
alternatives are its kinds; which of them is meant is read off the value.
-/

namespace ModelTagging

/-! ## Forms -/

/-- The fields of an argument of this kind. -/
def ArgumentKind.declared : ArgumentKind → List (String × Form)
  | .string | .boolean => [("kind", .single), ("value", .single)]
  | .number => [("kind", .single), ("value", Number.form)]
  | .typeReference => [("kind", .single), ("type_name", .single), ("is_array", .single)]

/-- An argument is of one of the kinds. -/
def Argument.form : Form :=
  .union (ArgumentKind.all.map fun kind => (kind.name, .object kind.declared))

/-- A decorator may have arguments. -/
def Decorator.form : Form := .object [("name", .single), ("arguments", .list Argument.form)]

/-- A slot of a map may have decorators. -/
def MapSlot.form : Form := .object [("type_name", .single), ("decorators", .list Decorator.form)]

/-- A property may have decorators. -/
def Property.form : Form :=
  .object [("kind", .single), ("name", .single), ("type_name", .single), ("is_array", .single),
    ("is_optional", .single), ("decorators", .list Decorator.form)]

/-- A declaration may have properties, the slots of a map and decorators. -/
def Declaration.form : Form :=
  .object [("kind", .single), ("name", .single), ("super_type", .single),
    ("properties", .list Property.form), ("scalar_type", .single), ("map_key", MapSlot.form),
    ("map_value", MapSlot.form), ("decorators", .list Decorator.form)]

/-- A namespace may have imports and declarations. -/
def ModelFile.form : Form :=
  .object [("namespace", .single), ("imports", .list .single),
    ("declarations", .list Declaration.form)]

/-- A model may have namespaces. -/
def ModelTree.form : Form := .object [("models", .list ModelFile.form)]

/-! ## Readings -/

namespace Argument

/-- An argument of known kind has its errors among the fields of the kind. -/
theorem placed_readAs (fields : Fields) (kind : ArgumentKind) :
    (readAs fields kind).Placed (.object kind.declared) (.object fields) := by
  cases kind with
  | string =>
    exact ((Fields.placedBelow_required Reader.text_places).map _).closed
  | number =>
    exact ((Fields.placedBelow_required Reader.number_places).map _).closed
  | boolean =>
    exact ((Fields.placedBelow_required Reader.boolean_places).map _).closed
  | typeReference =>
    exact (((Fields.placedBelow_required Reader.nonEmptyText_places).map _).seq
      (Fields.placedBelow_defaulted Reader.boolean_places false)).closed

/-- An argument has its errors below its kind, or is in error for the kind. -/
theorem read_places : read.Places form := by
  intro v
  cases v with
  | object fields =>
    simp only [read]
    split
    · simp
    · split
      · next kind _ =>
        exact (placed_readAs fields kind).under rfl (by cases kind <;> rfl)
      · simp
    · simp
  | _ => simp [read]

end Argument

/-- Decorators. -/
theorem Decorator.read_places : Decorator.read.Places form := by
  refine Reader.places_object fun fields => ?_
  have hname : (fields.required "name" Reader.nonEmptyText).PlacedBelow
      form.fields fields ["name"] := Fields.placedBelow_required Reader.nonEmptyText_places
  have harguments : (fields.optional "arguments" (Reader.list Argument.read)).PlacedBelow
      form.fields fields ["arguments"] := Fields.placedBelow_optional Argument.read_places.list
  exact ((hname.map _).seq harguments).closed

/-- The decorators of an element. -/
theorem Fields.placedBelow_decorators {declared : List (String × Form)} (fields : Fields)
    (hname : declared.lookup "decorators" = some (.list Decorator.form) := by rfl) :
    fields.decorators.PlacedBelow declared fields ["decorators"] :=
  placedBelow_optional Decorator.read_places.list hname

/-- Slots of a map. -/
theorem MapSlot.read_places : MapSlot.read.Places form := by
  refine Reader.places_object fun fields => ?_
  have htypeName : (fields.required "type_name" Reader.text).PlacedBelow
      form.fields fields ["type_name"] := Fields.placedBelow_required Reader.text_places
  have hdecorators : fields.decorators.PlacedBelow form.fields fields ["decorators"] :=
    fields.placedBelow_decorators
  exact ((htypeName.map _).seq hdecorators).closed

/-- Properties. -/
theorem Property.read_places : Property.read.Places form := by
  refine Reader.places_object fun fields => ?_
  have hkind : (fields.defaulted "kind" (Reader.oneOf (PropertyKind.all.map PropertyKind.name)
      PropertyKind.ofName?) .field).PlacedBelow form.fields fields ["kind"] :=
    Fields.placedBelow_defaulted (Reader.oneOf_places _ _) _
  have hname : (fields.required "name" Reader.nonEmptyText).PlacedBelow
      form.fields fields ["name"] := Fields.placedBelow_required Reader.nonEmptyText_places
  have htypeName : (fields.optional "type_name" Reader.text).PlacedBelow
      form.fields fields ["type_name"] := Fields.placedBelow_optional Reader.text_places
  have harray : (fields.defaulted "is_array" Reader.boolean false).PlacedBelow
      form.fields fields ["is_array"] := Fields.placedBelow_defaulted Reader.boolean_places false
  have hoptional : (fields.defaulted "is_optional" Reader.boolean false).PlacedBelow
      form.fields fields ["is_optional"] :=
    Fields.placedBelow_defaulted Reader.boolean_places false
  have hdecorators : fields.decorators.PlacedBelow form.fields fields ["decorators"] :=
    fields.placedBelow_decorators
  -- the rule on types is tried on what the fields come to
  refine Decoded.Placed.checkedBy ?_ violation?
  exact ((((((hkind.map _).seq hname).seq htypeName).seq harray).seq hoptional).seq
    hdecorators).closed

/-- Declarations. -/
theorem Declaration.read_places : Declaration.read.Places form := by
  refine Reader.places_object fun fields => ?_
  have hkind : (fields.required "kind" (Reader.oneOf
      (DeclarationKind.all.map DeclarationKind.name) DeclarationKind.ofName?)).PlacedBelow
      form.fields fields ["kind"] := Fields.placedBelow_required (Reader.oneOf_places _ _)
  have hname : (fields.required "name" Reader.nonEmptyText).PlacedBelow
      form.fields fields ["name"] := Fields.placedBelow_required Reader.nonEmptyText_places
  have hsuperType : (fields.optional "super_type" Reader.text).PlacedBelow
      form.fields fields ["super_type"] := Fields.placedBelow_optional Reader.text_places
  have hproperties : (fields.optional "properties" (Reader.list Property.read)).PlacedBelow
      form.fields fields ["properties"] := Fields.placedBelow_optional Property.read_places.list
  have hscalarType : (fields.optional "scalar_type" Reader.text).PlacedBelow
      form.fields fields ["scalar_type"] := Fields.placedBelow_optional Reader.text_places
  have hmapKey : (fields.optional "map_key" MapSlot.read).PlacedBelow
      form.fields fields ["map_key"] := Fields.placedBelow_optional MapSlot.read_places
  have hmapValue : (fields.optional "map_value" MapSlot.read).PlacedBelow
      form.fields fields ["map_value"] := Fields.placedBelow_optional MapSlot.read_places
  have hdecorators : fields.decorators.PlacedBelow form.fields fields ["decorators"] :=
    fields.placedBelow_decorators
  -- the rules on kinds are tried on what the fields come to
  refine Decoded.Placed.checkedBy ?_ violation?
  exact ((((((((hkind.map _).seq hname).seq hsuperType).seq hproperties).seq hscalarType).seq
    hmapKey).seq hmapValue).seq hdecorators).closed

/-- Namespaces. -/
theorem ModelFile.read_places : ModelFile.read.Places form := by
  refine Reader.places_object fun fields => ?_
  have hnamespace : (fields.required "namespace" Reader.nonEmptyText).PlacedBelow
      form.fields fields ["namespace"] := Fields.placedBelow_required Reader.nonEmptyText_places
  have himports : (fields.defaulted "imports" (Reader.list Reader.text) []).PlacedBelow
      form.fields fields ["imports"] := Fields.placedBelow_defaulted Reader.text_places.list []
  have hdeclarations : (fields.defaulted "declarations" (Reader.list Declaration.read)
      []).PlacedBelow form.fields fields ["declarations"] :=
    Fields.placedBelow_defaulted Declaration.read_places.list []
  exact (((hnamespace.map _).seq himports).seq hdeclarations).closed

/-- Models. -/
theorem ModelTree.read_places : ModelTree.read.Places form := by
  refine Reader.places_object fun fields => ?_
  have hfiles : (fields.defaulted "models" (Reader.list ModelFile.read) []).PlacedBelow
      form.fields fields ["models"] := Fields.placedBelow_defaulted ModelFile.read_places.list []
  exact (hfiles.map _).closed

end ModelTagging
