import ModelTagging.Tagging.Apply
import ModelTagging.Tagging.Validate

/-!
# Decorating a model

A command set is prepared, which includes the checks that were asked for; the
model is copied, the commands are applied to the copy, and a new registry is
built from it. The registry that was passed in is a value and stays what it
was. The first stage that fails decides the outcome. Checking targets presupposes
checking the shape, so the one without the other is no check.
-/

namespace ModelTagging

/-- The checks asked for. -/
structure Options where
  /-- Whether the types that decorators refer to are resolved. -/
  validateShape : Bool
  /-- Whether the names in targets are looked up. -/
  validateTargets : Bool
  deriving DecidableEq

namespace Options

/-- No check at all. -/
def unchecked : Options := ⟨false, false⟩

/-- Whether targets are checked. -/
def checksTargets (options : Options) : Bool :=
  options.validateShape && options.validateTargets

/-- The name of the shape of options in messages. -/
def shapeName : String := "DecorateOptions"

/-- Read options. Unknown fields are passed over. -/
def read : Reader Options :=
  Reader.object shapeName fun fields =>
    Options.mk <$> fields.defaulted "validate_shape" Reader.boolean false <*>
      fields.defaulted "validate_targets" Reader.boolean false

end Options

/-- Why a model cannot be decorated. -/
inductive DecorationError where
  /-- A model cannot be registered. -/
  | model (error : ModelError)
  /-- The command set is not usable. -/
  | commandSet (error : CommandSetError)
  /-- A target names something that does not exist. -/
  | target (dangling : DanglingTarget)

/-- The wording of a failed decoration. -/
def DecorationError.message : DecorationError → String
  | .model error => error.message
  | .commandSet error => error.message
  | .target dangling => dangling.message

namespace CommandSet

/-- The set, if no name in its targets stands for nothing. -/
def checkTargets (registry : Registry) (set : CommandSet) : Except DecorationError Unit :=
  match set.dangling? registry with
  | some dangling => .error (.target dangling)
  | none => .ok ()

/-- The command set of a source after the checks that the options ask for. -/
def prepare (registry : Registry) (source : CommandSource) (options : Options) :
    Except DecorationError CommandSet :=
  if options.validateShape then do
    let joined ← registry.forValidation.mapError .model
    let set ← (source.checkedSet joined).mapError .commandSet
    if options.validateTargets then set.checkTargets joined
    return set
  else source.set.mapError .commandSet

end CommandSet

namespace Registry

/-- The model of a registry, passed through its document value. -/
def copyTree (registry : Registry) : Except ModelError ModelTree :=
  ModelTree.ofValue registry.toValue

/-- The registry of the decorated model. -/
def decorate (registry : Registry) (source : CommandSource) (options : Options) :
    Except DecorationError Registry := do
  let set ← CommandSet.prepare registry source options
  let tree ← registry.copyTree.mapError .model
  (ofFiles (tree.applyAll set.commands).element.files).mapError .model

end Registry

end ModelTagging
