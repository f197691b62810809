import ModelTagging.Settings.CommandLine
import ModelTagging.Tagging.Decorate

/-!
# Settings

Process-wide defaults for decoration, logging and telemetry, and why they
cannot be read from what sets them.
-/

namespace ModelTagging

/-- The settings. -/
structure Settings where
  /-- The default for checking shapes. -/
  validateShape : Bool
  /-- The default for checking targets. -/
  validateTargets : Bool
  /-- Whether everything is logged and spans are recorded. -/
  verbose : Bool
  /-- Whether log lines are objects rather than text. -/
  logJson : Bool
  deriving DecidableEq

namespace Settings

/-- The name of the shape of settings in messages. -/
def shapeName : String := "DecoSettings"

/-- The names of the settings. -/
def names : List String := ["validate_shape", "validate_targets", "verbose", "log_json"]

/-- The options of a decoration under these settings. -/
def options (settings : Settings) : Options :=
  ⟨settings.validateShape, settings.validateTargets⟩

/-- Read settings from fields; one that is absent is off. -/
def ofFields (fields : Fields) : Decoded Settings :=
  (fun validateShape validateTargets verbose logJson _ =>
    ⟨validateShape, validateTargets, verbose, logJson⟩) <$>
    fields.defaulted "validate_shape" Reader.boolean false <*>
    fields.defaulted "validate_targets" Reader.boolean false <*>
    fields.defaulted "verbose" Reader.boolean false <*>
    fields.defaulted "log_json" Reader.boolean false <*>
    fields.closed names

end Settings

/-- Why settings cannot be read. -/
inductive SettingsError where
  /-- What is set has not the shape of settings. -/
  | shape (errors : List ShapeError)
  /-- A control of the look-up has a value of a kind that it cannot have. -/
  | control (name : String)
  /-- The sources of settings are not given as two parts. -/
  | sources
  /-- Environment variables cannot start with what they are to start with. -/
  | variableStart
  /-- The arguments of the command line give no settings. -/
  | arguments (fault : CommandLine.Fault)

end ModelTagging
