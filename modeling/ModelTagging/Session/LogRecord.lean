import ModelTagging.Document.Value

/-!
# Log records

What a log record holds, and the fields by which it is shown. Its time is not
kept, and so none of the fields holds it.
-/

namespace ModelTagging

/-- How much a log record matters. -/
inductive Severity where
  | debug
  | info
  | warning
  | error
  | critical
  deriving DecidableEq

namespace Severity

/-- All severities, the least first. -/
def all : List Severity := [.debug, .info, .warning, .error, .critical]

/-- The word for a severity in log lines. -/
def name : Severity → String
  | .debug => "debug"
  | .info => "info"
  | .warning => "warning"
  | .error => "error"
  | .critical => "critical"

/-- The word for a severity as a threshold. -/
def thresholdName (severity : Severity) : String :=
  String.ofList (severity.name.toList.map Char.toUpper)

/-- The severity that a word names. -/
def ofName? (word : String) : Option Severity := all.find? (·.name == word)

/-- Other words for severities. -/
def synonyms : List (String × Severity) :=
  [("warn", .warning), ("fatal", .critical), ("exception", .error)]

/-- The severity that a word or one of its synonyms names. -/
def ofWord? (word : String) : Option Severity := (ofName? word).or (synonyms.lookup word)

/-- The place of a severity among all. -/
def rank : Severity → Nat
  | .debug => 0
  | .info => 1
  | .warning => 2
  | .error => 3
  | .critical => 4

/-- Whether a record of this severity passes a threshold. -/
def passes (severity threshold : Severity) : Bool := threshold.rank ≤ severity.rank

end Severity

/-- One log record. -/
structure LogRecord where
  /-- The dotted name of the logger it was made on. -/
  logger : String
  /-- How much it matters. -/
  severity : Severity
  /-- What happened. -/
  event : String
  /-- Further fields, for a structured record. -/
  fields : Option Fields
  /-- Whether it is made for the active error. -/
  forError : Bool

/-- Why a host cannot configure logging or make a log record. -/
inductive LogMisuse where
  /-- There is no option of this name. -/
  | unknownOption (name : String)
  /-- What stands for options or further fields has no fields. -/
  | noFields
  /-- No severity has this name. -/
  | unknownSeverity (word : String)
  /-- A further field has a name that it cannot have. -/
  | takenName (name : String)
  /-- The source of the record is not known. -/
  | unknownSource
  /-- A field that is to hold lines of text holds something else. -/
  | notText (name : String)
  deriving DecidableEq

namespace LogRecord

/-- A record without further fields, made by this library. -/
def note (logger event : String) : LogRecord := ⟨logger, .debug, event, none, false⟩

/-- Whether the record is a structured one. -/
def isStructured (record : LogRecord) : Bool := record.fields.isSome

/-- The field that asks for the active error. -/
def errorMark : String := "exc_info"

/-- Further fields of a record made for the active error, which ask for it
unless that field is given. -/
def askingForError (fields : Fields) : Fields :=
  if (fields.get? errorMark).isNone then fields ++ [(errorMark, .bool true)] else fields

/-- The record that a host makes under a word for its severity: a plain one, or
a structured one with the fields of a value. -/
def ofWord (logger word event : String) (value : Option Value) : Except LogMisuse LogRecord :=
  match Severity.ofWord? word, value.map Fields.ofValue? with
  | none, _ => throw (.unknownSeverity word)
  | _, some none => throw .noFields
  | some severity, none => return ⟨logger, severity, event, none, word = "exception"⟩
  | some severity, some (some fields) =>
    let forError := word = "exception"
    return ⟨logger, severity, event, some (if forError then askingForError fields else fields),
      forError⟩

/-- The active error as a field shows it. No error is active when a host makes
a record, so that all three places of the field are empty. -/
def noError : Value := .list [.null, .null, .null]

/-- The active error as a line shows it. -/
def noErrorText : String := "NoneType: None"

/-- The field that asks for the stack. Where it says no it has no effect. -/
def stackRequest : String := "stack_info"

/-- The field that holds the source of a record in the channels. -/
def sourceName : String := "_record"

/-- Fields that the channels use for themselves and do not show. -/
def reservedNames : List String := [sourceName, "_from_structlog"]

/-- Names that a further field cannot have. -/
def takenNames : List String := ["self", "event", "method_name"]

/-- The first further field that has a name it cannot have. -/
def takenName? (record : LogRecord) : Option String :=
  ((record.fields.getD []).map (·.1)).find? takenNames.contains

/-- Whether a further field holds a source. -/
def namesSource (record : LogRecord) : Bool :=
  (Fields.get? (record.fields.getD []) sourceName).any fun source => !source.isNull

/-- The further fields of a record when it is shown outside the channels. -/
def directFields (record : LogRecord) : Fields :=
  (record.fields.getD []).filter fun field => field.1 != stackRequest

/-- The further fields of a record when the channels show it. A plain record
made for the active error shows that there is none. -/
def furtherFields (record : LogRecord) : Fields :=
  if record.forError && !record.isStructured then [(errorMark, noError)]
  else record.directFields.filter fun field => !reservedNames.contains field.1

/-- The fields of a record when the channels show it. What the record itself
says goes before fields of the same names. -/
def channelFields (record : LogRecord) : Fields :=
  Fields.put "logger" (.str record.logger)
    (Fields.put "level" (.str record.severity.name)
      (Fields.put "event" (.str record.event) record.furtherFields))

end LogRecord

end ModelTagging
