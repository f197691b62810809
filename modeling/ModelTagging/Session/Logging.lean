import ModelTagging.Session.LogText
import ModelTagging.Text.Characters

/-!
# Logging

Log records go through two channels: the library's own one, for its logger and
all loggers below it, and the root channel of the host. A channel has a
threshold, handlers in order, and says whether records go on to the root.
Configuring swaps the one handler that the library owns and leaves all other
handlers alone; the root channel is never touched. A record that meets no
handler at all is still shown as text when it is a warning or worse. Until
logging is configured, structured records go past the channels and are shown
as text, whatever their severity.
-/

namespace ModelTagging

/-- One written line. -/
inductive LogLine where
  /-- An object with these fields and the time. -/
  | object (fields : Fields)
  /-- Text meant for reading. -/
  | text (content : String)

/-- The written lines of a text. -/
def LogLine.ofText (s : String) : List LogLine := (shownLines s).map .text

/-- How a handler writes records. -/
inductive LineFormat where
  | objects
  | text
  deriving DecidableEq

/-- A handler of log records. -/
structure LogHandler where
  /-- The number of handlers made before it. -/
  serial : Nat
  /-- The name it is known by, if it has one. -/
  name : Option String
  /-- How it writes records, unless it keeps silent. -/
  format : Option LineFormat
  deriving DecidableEq

/-- The lines a handler writes for a record. -/
def LogHandler.lines (record : LogRecord) (handler : LogHandler) : List LogLine :=
  match handler.format with
  | some .objects => [.object record.channelFields]
  | some .text => LogLine.ofText record.channelText
  | none => []

/-- A logger with its handlers. -/
structure LogChannel where
  /-- The severity a record must have; if not set, that of the root counts. -/
  threshold : Option Severity
  /-- The handlers, in the order in which they were attached. -/
  handlers : List LogHandler
  /-- Whether records go on to the root. -/
  propagates : Bool
  deriving DecidableEq

namespace LogChannel

/-- The word for the threshold of a channel. -/
def thresholdName (channel : LogChannel) : String :=
  match channel.threshold with
  | some severity => severity.thresholdName
  | none => "NOTSET"

/-- Attach a handler after those already there, unless it is one of them. -/
def attach (handler : LogHandler) (channel : LogChannel) : LogChannel :=
  if handler ∈ channel.handlers then channel
  else { channel with handlers := channel.handlers ++ [handler] }

/-- Detach a handler where it first stands, if it stands anywhere. -/
def detach (handler : LogHandler) (channel : LogChannel) : LogChannel :=
  { channel with handlers := channel.handlers.erase handler }

/-- Detach a handler if it has the name. -/
def detachIfNamed (name : String) (channel : LogChannel) (handler : LogHandler) : LogChannel :=
  if handler.name = some name then channel.detach handler else channel

/-- Detach every handler of a name: go through the handlers as they stood at first, and
detach those that have it. -/
def detachNamed (name : String) (channel : LogChannel) : LogChannel :=
  channel.handlers.foldl (detachIfNamed name) channel

end LogChannel

/-- What is asked for when logging is configured. -/
structure LogOptions where
  /-- Whether records of all severities are let through. -/
  verbose : Bool
  /-- Whether lines are objects. -/
  objects : Bool
  deriving DecidableEq

namespace LogOptions

/-- The names of the options. -/
def names : List String := ["verbose", "log_json"]

/-- The severity that records must have under these options. -/
def threshold (options : LogOptions) : Severity := if options.verbose then .debug else .warning

/-- How records are written under these options. -/
def format (options : LogOptions) : LineFormat := if options.objects then .objects else .text

/-- The options that are given; values of any kind say yes or no. Other names
cannot be given. -/
def ofValue (value : Value) : Except LogMisuse LogOptions :=
  match Fields.ofValue? value with
  | none => throw .noFields
  | some given =>
    let asked := fun name => ((Fields.get? given name).map Value.holds).getD false
    match (given.map (·.1)).find? fun name => !names.contains name with
    | some name => throw (.unknownOption name)
    | none => return ⟨asked "verbose", asked "log_json"⟩

end LogOptions

/-- The state of logging. -/
structure Logging where
  /-- The channel of the library. -/
  library : LogChannel
  /-- The channel of the host. -/
  root : LogChannel
  /-- Whether structured records go through the channels. -/
  routesStructured : Bool
  /-- The number of handlers made so far. -/
  made : Nat

namespace Logging

/-- The name of the library's logger. -/
def libraryName : String := "modeldeco"

/-- The name of the handler that the library owns. -/
def handlerName : String := "modeldeco.stderr"

/-- Logging before anything is configured. -/
def initial : Logging :=
  ⟨⟨none, [], true⟩, ⟨some .warning, [], false⟩, false, 0⟩

/-- Whether a logger is the library's or below it. -/
def isLibraryLogger (logger : String) : Bool :=
  logger = libraryName || (libraryName ++ ".").toList.isPrefixOf logger.toList

/-- The handlers of the library's channel that the library owns. -/
def owned (logging : Logging) : List LogHandler :=
  logging.library.handlers.filter (·.name = some handlerName)

/-- Put a new handler into the library's channel, in place of the one put there
before, and say what it lets through. -/
def configure (options : LogOptions) (logging : Logging) : LogHandler × Logging :=
  let handler : LogHandler := ⟨logging.made, some handlerName, some options.format⟩
  (handler,
    { logging with
      library := {
        (logging.library.detachNamed handlerName).attach handler with
        threshold := some options.threshold
        propagates := false }
      routesStructured := true
      made := logging.made + 1 })

/-- Attach a silent handler of the host to the library's channel. -/
def attachForeign (logging : Logging) : Logging :=
  { logging with
    library := logging.library.attach ⟨logging.made, none, none⟩
    made := logging.made + 1 }

/-- The threshold for records of a logger. -/
def threshold (logging : Logging) (logger : String) : Severity :=
  let rootThreshold := logging.root.threshold.getD .debug
  if isLibraryLogger logger then logging.library.threshold.getD rootThreshold else rootThreshold

/-- The handlers that records of a logger meet. -/
def reached (logging : Logging) (logger : String) : List LogHandler :=
  if isLibraryLogger logger then
    logging.library.handlers ++ (if logging.library.propagates then logging.root.handlers else [])
  else logging.root.handlers

/-- The lines that a record comes to. -/
def lines (logging : Logging) (record : LogRecord) : List LogLine :=
  if record.isStructured && !logging.routesStructured then LogLine.ofText record.directText
  else if !record.severity.passes (logging.threshold record.logger) then []
  else
    match logging.reached record.logger with
    | [] =>
      if record.severity.passes .warning then LogLine.ofText record.bareText else []
    | handlers => handlers.flatMap (LogHandler.lines record)

end Logging

end ModelTagging
