import ModelTagging.Session.Logging
import ModelTagging.Session.Span
import ModelTagging.Settings.Lookup
import ModelTagging.Tagging.Decorate

/-!
# Observations

What a host sees of a session while it works with the library: results and
failures of what it asked for, the spans it entered, and the state of logging
after it was changed.
-/

namespace ModelTagging

/-- Why an activity of the host ends early. -/
inductive Interruption where
  /-- The host itself gave up, with a message. -/
  | thrown (message : String)
  /-- A model cannot be registered. -/
  | model (error : ModelError)
  /-- The options of a decoration have not the shape of options. -/
  | options (errors : List ShapeError)
  /-- The settings cannot be read. -/
  | settings (error : SettingsError)
  /-- Logging cannot be configured, or a log record cannot be made. -/
  | log (misuse : LogMisuse)

/-- What can be seen of the library's log channel. -/
structure ChannelStatus where
  /-- The word for its threshold. -/
  threshold : String
  /-- Whether records go on to the root. -/
  propagates : Bool
  /-- How many handlers there are. -/
  handlers : Nat
  /-- How many of them the library owns. -/
  owned : Nat
  deriving DecidableEq

/-- What can be seen of the library's log channel now. -/
def Logging.status (logging : Logging) : ChannelStatus :=
  ⟨logging.library.thresholdName, logging.library.propagates, logging.library.handlers.length,
    logging.owned.length⟩

/-- One thing a host sees. -/
inductive Observation where
  /-- A traced activity returned a value. -/
  | returned (value : Value)
  /-- A span was entered within another; these are their names, if there is an
  active span. -/
  | entered (names : Option (String × String))
  /-- Something was to be noted on a span, and whether there was one. -/
  | annotated (onSpan : Bool)
  /-- The active span as far as it has got, if there is one. -/
  | current (span : Option Span)
  /-- The host recovered from giving up. -/
  | caught (message : String)
  /-- A model was decorated, with the namespaces of the result. -/
  | decorated (result : Except DecorationError (List String))
  /-- A command set was checked, with its name. -/
  | checked (result : Except CommandSetError String)
  /-- Logging was configured; whether the new handler is the only owned one. -/
  | configured (status : ChannelStatus) (installed : Bool)
  /-- Settings were applied; whether telemetry is on. -/
  | applied (settings : Settings) (telemetry : Bool) (status : ChannelStatus)
  /-- The handlers were changed. -/
  | handlers (status : ChannelStatus)

end ModelTagging
