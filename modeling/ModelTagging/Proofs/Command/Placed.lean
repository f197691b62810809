import ModelTagging.Command.Parse
import ModelTagging.Proofs.Model.Placed

/-!
# Where shape errors lie

The forms of the parts of a command set, with the same theorem for each part as for
those of a model. The main result is about both formats: whatever value is rejected for
its shape, every error lies in it, and no error lies at or below another one. It does
not say that the errors are all there is to say about the value.
-/

namespace ModelTagging

/-! ## Forms -/

/-- A target names up to four things. -/
def Target.form : Form :=
  .object [("namespace", .single), ("declaration", .single), ("property", .single),
    ("type", .single)]

/-- A command has a target and a decorator. -/
def Command.form : Form :=
  .object [("target", Target.form), ("decorator", Decorator.form), ("type", .single)]

/-- A reference has a name and a version. -/
def SetReference.form : Form := .object [("name", .single), ("version", .single)]

/-- A command set has references and commands. -/
def CommandSet.form : Form :=
  .object [("name", .single), ("version", .single), ("includes", .list SetReference.form),
    ("commands", .list Command.form)]

/-! ## Readings -/

/-- Targets. -/
theorem Target.read_places : Target.read.Places form := by
  refine Reader.places_object fun fields => ?_
  have hnamespace : (fields.optional "namespace" Reader.nonEmptyText).PlacedBelow
      form.fields fields ["namespace"] := Fields.placedBelow_optional Reader.nonEmptyText_places
  have hdeclaration : (fields.optional "declaration" Reader.nonEmptyText).PlacedBelow
      form.fields fields ["declaration"] := Fields.placedBelow_optional Reader.nonEmptyText_places
  have hproperty : (fields.optional "property" Reader.nonEmptyText).PlacedBelow
      form.fields fields ["property"] := Fields.placedBelow_optional Reader.nonEmptyText_places
  have htypeName : (fields.optional "type" Reader.nonEmptyText).PlacedBelow
      form.fields fields ["type"] := Fields.placedBelow_optional Reader.nonEmptyText_places
  exact ((((hnamespace.map _).seq hdeclaration).seq hproperty).seq htypeName).closed

/-- Commands. -/
theorem Command.read_places : Command.read.Places form := by
  refine Reader.places_object fun fields => ?_
  have htarget : (fields.defaulted "target" Target.read .anything).PlacedBelow
      form.fields fields ["target"] := Fields.placedBelow_defaulted Target.read_places _
  have hdecorator : (fields.required "decorator" Decorator.read).PlacedBelow
      form.fields fields ["decorator"] := Fields.placedBelow_required Decorator.read_places
  have hmode : (fields.required "type" (Reader.oneOf (MergeMode.all.map MergeMode.name)
      MergeMode.ofName?)).PlacedBelow form.fields fields ["type"] :=
    Fields.placedBelow_required (Reader.oneOf_places _ _)
  exact (((htarget.map _).seq hdecorator).seq hmode).closed

/-- References. -/
theorem SetReference.read_places : SetReference.read.Places form := by
  refine Reader.places_object fun fields => ?_
  have hname : (fields.required "name" Reader.nonEmptyText).PlacedBelow
      form.fields fields ["name"] := Fields.placedBelow_required Reader.nonEmptyText_places
  have hversion : (fields.required "version" Reader.nonEmptyText).PlacedBelow
      form.fields fields ["version"] := Fields.placedBelow_required Reader.nonEmptyText_places
  exact ((hname.map _).seq hversion).closed

/-- Command sets. -/
theorem CommandSet.read_places : CommandSet.read.Places form := by
  refine Reader.places_object fun fields => ?_
  have hname : (fields.required "name" Reader.nonEmptyText).PlacedBelow
      form.fields fields ["name"] := Fields.placedBelow_required Reader.nonEmptyText_places
  have hversion : (fields.required "version" Reader.nonEmptyText).PlacedBelow
      form.fields fields ["version"] := Fields.placedBelow_required Reader.nonEmptyText_places
  have hincludes : (fields.optional "includes" (Reader.list SetReference.read)).PlacedBelow
      form.fields fields ["includes"] := Fields.placedBelow_optional SetReference.read_places.list
  have hcommands : (fields.required "commands" (Reader.list Command.read)).PlacedBelow
      form.fields fields ["commands"] := Fields.placedBelow_required Command.read_places.list
  exact ((((hname.map _).seq hversion).seq hincludes).seq hcommands).closed

/-! ## Rejections -/

/-- A model is rejected for its shape with the errors of its reading. -/
theorem ModelTree.ofValue_eq_error_shape_iff {v : Value} {errors : List ShapeError} :
    ofValue v = .error (.shape errors) ↔ ModelTree.read v = .rejected errors := by
  rw [ofValue, ofDecoded]
  cases ModelTree.read v <;> simp [Decoded.toExcept, Except.mapError]

/-- A command set that is rejected for its shape is so with the errors of its reading. -/
theorem CommandSet.read_of_parse_eq_error_shape {v : Value} {errors : List ShapeError}
    (h : parse v = .error (.shape errors)) : CommandSet.read v = .rejected errors := by
  cases v with
  | object fields =>
    simp only [parse] at h
    split at h
    · cases h
    · next found hread =>
      rw [hread]
      simp only [errorOf] at h
      split at h
      · cases h
      · cases h
        rfl
  | _ => cases h

/-- Whatever document is rejected as a model or as a command set for its shape, it is
rejected with at least one error. No error is shown at the place of another one or below
it; so a broken rule is reported for an element only if nothing within the element is.
Every error lies at a part of the document, or at a field that an object there declares
and does not have. -/
theorem shape_errors_placed (v : Value) (hkeys : v.DistinctKeys) (errors : List ShapeError) :
    (ModelTree.ofValue v = .error (.shape errors) →
      ShapeError.Report ModelTree.form v errors) ∧
    (CommandSet.parse v = .error (.shape errors) →
      ShapeError.Report CommandSet.form v errors) := by
  constructor
  · intro h
    exact (ModelTree.read_places v).report hkeys (ModelTree.ofValue_eq_error_shape_iff.1 h)
  · intro h
    exact (CommandSet.read_places v).report hkeys (CommandSet.read_of_parse_eq_error_shape h)

namespace Sample

/-- An enumeration that owns a field, and a declaration without a kind, with an unknown
field and with an argument that is no number. -/
def faultyModel : Value :=
  .object [("models", .list [.object [("namespace", .str "ns1"), ("declarations", .list [
    .object [("kind", .str "enum"), ("name", .str "Color"), ("properties", .list [
      .object [("name", .str "red"), ("type_name", .str "String")]])],
    .object [("name", .str "Person"), ("label", .str "x"), ("decorators", .list [
      .object [("name", .str "Limit"), ("arguments", .list [
        .object [("kind", .str "number"), ("value", .null)]])]])]])]])]

/-- Commands without a version, under an empty name, one of which is no object. -/
def faultySet : Value := .object [("name", .str ""), ("commands", .list [.int 5])]

end Sample

/-- A broken rule, a missing and an unknown field and the two alternatives of a number
are five errors of one model, and a command set can have errors beside each other. -/
theorem shape_errors_placed_sample :
    (Sample.faultyModel.DistinctKeys ∧ ∃ errors, errors.length = 5 ∧
      ModelTree.ofValue Sample.faultyModel = .error (.shape errors) ∧
      ShapeError.Report ModelTree.form Sample.faultyModel errors) ∧
    Sample.faultySet.DistinctKeys ∧ ∃ errors, errors.length = 3 ∧
      CommandSet.parse Sample.faultySet = .error (.shape errors) ∧
      ShapeError.Report CommandSet.form Sample.faultySet errors := by
  have hmodel : Sample.faultyModel.DistinctKeys := by simp [Sample.faultyModel]
  have hset : Sample.faultySet.DistinctKeys := by simp [Sample.faultySet]
  exact ⟨⟨hmodel, _, rfl, rfl, (shape_errors_placed _ hmodel _).1 rfl⟩,
    hset, _, rfl, rfl, (shape_errors_placed _ hset _).2 rfl⟩

end ModelTagging
