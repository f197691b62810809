import ModelTagging.Session.Action

/-!
# Decorating in a session

The same work as outside a session, told in log records and spans: each
registration, each command set that passed its check, each decoration with its
counts. The whole decoration is one outermost span with a span for each of its
stages, and the number of decorations is noted on that of the stage that applies
the commands.
-/

namespace ModelTagging

namespace Registry

/-- The record of a registration. -/
def registrationRecord (file : ModelFile) : LogRecord :=
  .note "modeldeco.domain.registry"
    ("Registered namespace " ++ file.namespaceName ++ " (" ++
      toString file.declarations.length ++ " declarations)")

/-- Register a namespace and tell so. -/
def registering (registry : Registry) (file : ModelFile) : Action ModelError Registry := do
  let larger ← Action.ofExcept (registry.add file)
  Action.log (registrationRecord file)
  return larger

/-- Register namespaces one after the other and tell of each. -/
def registeringAll (registry : Registry) : List ModelFile → Action ModelError Registry
  | [] => return registry
  | file :: rest => do
    let larger ← registry.registering file
    larger.registeringAll rest

/-- Register the model a document value stands for and tell of each
namespace. -/
def registeringValue (value : Value) : Action ModelError Registry := do
  let tree ← Action.ofExcept (ModelTree.ofEntries value)
  empty.registeringAll tree.files

/-- Join a model with the built-in namespaces and tell of each namespace. -/
def joiningBuiltin (registry : Registry) : Action ModelError Registry := do
  let fresh ← registeringValue registry.toValue
  fresh.registeringAll Builtin.files

end Registry

namespace CommandSet

/-- The name and version of a set as messages show them. -/
def label (set : CommandSet) : String := set.name ++ "@" ++ set.version

/-- The record of a set that passed its check. -/
def wellFormedRecord (set : CommandSet) : LogRecord :=
  .note "modeldeco.services.validation"
    ("Command set " ++ set.label ++ " is well-formed (" ++ toString set.commands.length ++
      " commands)")

/-- The logger of decorations. -/
def decorationLogger : String := "modeldeco.services.decorate"

/-- The record of a check that was asked for in vain. -/
def uncheckedTargetsRecord : LogRecord :=
  .note decorationLogger "validate_targets ignored: validate_shape is off"

/-- The record of a decoration with its counts. -/
def appliedRecord (set : CommandSet) (result : Tagged ModelTree) : LogRecord :=
  .note decorationLogger
    ("Applied " ++ set.label ++ ": " ++ toString set.commands.length ++ " commands over " ++
      toString (result.element.files.flatMap (·.declarations)).length ++ " declarations in " ++
      toString result.element.files.length ++ " namespaces, " ++ toString result.count ++
      " decorations")

/-- Check the types that a set refers to and tell so. -/
def checking (registry : Registry) (source : CommandSource) :
    Action CommandSetError CommandSet := do
  let set ← Action.ofExcept (source.checkedSet registry)
  Action.log set.wellFormedRecord
  return set

/-- Prepare a command set and tell of it. -/
def preparing (registry : Registry) (source : CommandSource) (options : Options) :
    Action DecorationError CommandSet :=
  if options.validateShape then do
    let joined ← registry.joiningBuiltin.mapError .model
    let set ← (checking joined source).mapError .commandSet
    if options.validateTargets then
      Action.ofExcept (set.checkTargets joined)
    return set
  else do
    if options.validateTargets then
      Action.log uncheckedTargetsRecord
    Action.ofExcept (source.set.mapError .commandSet)

end CommandSet

namespace Registry

/-- The name of the span of a whole decoration. -/
def decorationSpan : String := "decorate_models"

/-- Apply commands to a model and note on a span how often an element was
decorated. -/
def applying (commands : List Command) (tree : ModelTree) (span : Option Nat) :
    Action DecorationError (Tagged ModelTree) := do
  let result := tree.applyAll commands
  Action.annotate span "decorated" (.int result.count)
  return result

/-- Decorate a model and tell of it. -/
def decorating (registry : Registry) (source : CommandSource) (options : Options) :
    Action DecorationError Registry :=
  Action.traced decorationSpan do
    let set ← Action.inSpan "validate" fun _ => CommandSet.preparing registry source options
    let tree ← Action.inSpan "clone" fun _ =>
      Action.ofExcept (registry.copyTree.mapError .model)
    let result ← Action.inSpan "apply" (applying set.commands tree)
    let decorated ← Action.inSpan "rebuild" fun _ =>
      (empty.registeringAll result.element.files).mapError .model
    Action.log (set.appliedRecord result)
    return decorated

end Registry

end ModelTagging
