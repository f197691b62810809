import ModelTagging.Document.Literal
import ModelTagging.Session.LogRecord

/-!
# Log records as text

The text of a record starts with its severity and its event, goes on with its
further fields by name, and may end with lines of its own about the stack and
about an error. In a styled text each of these parts stands between marks that
a terminal takes for colours; the lines about the stack and the error do not.
-/

namespace ModelTagging

/-- The marks around the parts of a text. -/
structure TextStyle where
  /-- The mark before a severity. -/
  severity : Severity → String
  /-- The mark before an event. -/
  event : String
  /-- The mark before a value in brackets. -/
  bracketed : String
  /-- The mark before the name of a field. -/
  name : String
  /-- The mark before the value of a field. -/
  value : String
  /-- The mark that ends a part. -/
  reset : String

namespace TextStyle

/-- The style without marks. -/
def plain : TextStyle := ⟨fun _ => "", "", "", "", "", ""⟩

/-- The mark with this number. -/
def mark (number : Nat) : String := "\x1b[" ++ toString number ++ "m"

/-- The mark for bright text. -/
def bright : String := mark 1

/-- The style in colours: severities from red over yellow to green, names of
fields cyan and their values magenta. -/
def coloured : TextStyle where
  severity
    | .critical => mark 31 ++ bright
    | .error => mark 31 ++ bright
    | .warning => mark 33 ++ bright
    | .info => mark 32 ++ bright
    | .debug => mark 32 ++ bright
  event := bright
  bracketed := bright ++ mark 34
  name := mark 36
  value := mark 35
  reset := mark 0

end TextStyle

namespace LogText

/-- A text with blanks after it up to a width. -/
def padded (width : Nat) (s : String) : String :=
  s ++ String.ofList (List.replicate (width - s.length) ' ')

/-- A text without the blanks at its end. -/
def withoutEndBlanks (s : String) : String :=
  String.ofList ((s.toList.reverse.dropWhile (· = ' ')).reverse)

/-- Whether a text is quoted when it is shown as the value of a field. -/
def needsQuotes (s : String) : Bool :=
  s.toList.any [' ', '\t', '=', '\r', '\n', '"', '\''].contains

/-- The value of a field as it is shown after its name: a text that needs no
quotes as it is, any other value by its literal. -/
def fieldValue : Value → String
  | .str s => if needsQuotes s then quoted s else s
  | v => v.literal

/-- The fields that are shown in brackets, without their names. -/
def bracketedNames : List String := ["logger", "logger_name"]

/-- The field that holds a stack. -/
def stackName : String := "stack"

/-- The field that holds an error. -/
def errorName : String := "exception"

/-- The fields that are not among those shown by name. -/
def placedNames : List String :=
  ["timestamp", "level", "event", stackName, errorName, LogRecord.errorMark] ++ bracketedNames

/-- The fields that are shown by name, in the order of their names. -/
def namedFields (fields : Fields) : Fields :=
  (fields.filter fun field => !placedNames.contains field.1).mergeSort
    fun first second => first.1 < second.1 || first.1 == second.1

/-- A severity in brackets. -/
def severityPart (style : TextStyle) (severity : Severity) : String :=
  "[" ++ style.severity severity ++ padded 9 severity.name ++ style.reset ++ "]"

/-- A value in brackets. -/
def bracketedPart (style : TextStyle) (value : Value) : String :=
  "[" ++ style.reset ++ style.bracketed ++ value.shown ++ style.reset ++ "]" ++ style.reset

/-- A field by its name. -/
def namedPart (style : TextStyle) (field : String × Value) : String :=
  style.name ++ field.1 ++ style.reset ++ "=" ++ style.value ++ fieldValue field.2 ++ style.reset

/-- The severity, the event and the fields of a record on its first line. -/
def opening (style : TextStyle) (severity : Severity) (event : String) (fields : Fields) :
    String :=
  let bracketed := bracketedNames.filterMap fun name =>
    (fields.get? name).map (bracketedPart style)
  withoutEndBlanks (String.intercalate " "
    (severityPart style severity :: (style.event ++ padded 30 event ++ style.reset) ::
      (bracketed ++ (namedFields fields).map (namedPart style))))

/-- The text in a field, if there is one. -/
def textIn? (fields : Fields) (name : String) : Option String :=
  match fields.get? name with
  | some (.str s) => some s
  | _ => none

/-- The first of the fields for lines of text that holds something else. -/
def notText? (fields : Fields) : Option String :=
  [stackName, errorName].find? fun name =>
    ((fields.get? name).any fun value => !value.isNull) && (textIn? fields name).isNone

/-- The rule between a stack and an error. -/
def rule : String := String.ofList (List.replicate 79 '=')

/-- The lines about the stack and about the error. A rule ends the stack when
an error is given or asked for. -/
def closing (fields : Fields) : String :=
  let error := textIn? fields errorName
  let asked := ((fields.get? LogRecord.errorMark).map Value.holds).getD false
  let stack := match textIn? fields stackName with
    | some stack =>
      "\n" ++ stack ++ (if asked || error.isSome then "\n\n" ++ rule ++ "\n" else "")
    | none => ""
  stack ++ (error.map ("\n" ++ ·)).getD ""

/-- The text of a record with these fields. -/
def write (style : TextStyle) (severity : Severity) (event : String) (fields : Fields) : String :=
  opening style severity event fields ++ closing fields

end LogText

namespace LogRecord

/-- The text of a record that the channels show. -/
def channelText (record : LogRecord) : String :=
  LogText.write .plain record.severity record.event record.channelFields

/-- The text of a record that is shown outside the channels, in colours. -/
def directText (record : LogRecord) : String :=
  LogText.write .coloured record.severity record.event record.directFields

/-- The text of a record that no handler shows: the event of a plain record,
the literal of all fields of a structured one, and a line about the active
error. -/
def bareText (record : LogRecord) : String :=
  let content :=
    if record.isStructured then (Value.object record.channelFields).literal else record.event
  if record.forError then content ++ "\n" ++ noErrorText else content

end LogRecord

end ModelTagging
