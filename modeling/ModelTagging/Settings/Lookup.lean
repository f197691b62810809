import ModelTagging.Settings.Controls

/-!
# Looking up settings

A setting is given on the command line, or else directly, or else by an
environment variable. Names that are given directly are compared without regard
to case, and so are the names of variables unless asked for otherwise.
Variables with other names are passed over, while an unknown setting that is
given directly is an error.
-/

namespace ModelTagging

/-- How settings are looked up in the environment. -/
structure Lookup where
  /-- Whether the names of variables must have the same case. -/
  caseSensitive : Bool
  /-- What a variable that holds a setting starts with. -/
  variableStart : String
  /-- Whether variables without text are passed over. -/
  ignoresEmpty : Bool
  /-- The text of a variable that stands for the absent value. -/
  absentWord : Option String

namespace Lookup

/-- The look-up that is asked for among what is given. -/
def ofGiven (given : Fields) : Except SettingsError Lookup := do
  let start ← Controls.variableStart given
  return {
    caseSensitive := Controls.asks given "_case_sensitive"
    variableStart := start
    ignoresEmpty := Controls.asks given "_env_ignore_empty"
    absentWord := (Controls.value? given "_env_parse_none_str").bind Controls.textOf? }

/-- Whether two names of variables are taken for the same one. -/
def sameName (lookup : Lookup) (name other : String) : Bool :=
  if lookup.caseSensitive then name = other else lowerCase name = lowerCase other

/-- The value of the text of a variable. -/
def value (lookup : Lookup) (text : String) : Value :=
  if lookup.absentWord = some text then .null else .str text

/-- The value of a setting in an environment. The last of several spellings of
one variable counts. -/
def fromEnvironment? (lookup : Lookup) (environment : List (String × String)) (name : String) :
    Option Value :=
  let entries := environment.filter fun entry =>
    lookup.sameName entry.1 (lookup.variableStart ++ name) &&
      !(lookup.ignoresEmpty && entry.2.isEmpty)
  entries.getLast?.map fun entry => lookup.value entry.2

end Lookup

namespace Settings

/-- Whether a name that is given directly is that of a setting. -/
def isGivenAs (name given : String) : Bool := lowerCase given = lowerCase name

/-- The value of a setting that is given directly. The first of several
spellings of its name counts. -/
def given? (given : Fields) (name : String) : Option Value :=
  (given.find? fun field => isGivenAs name field.1).map (·.2)

/-- What is given directly under names that are neither those of settings nor
those of controls. -/
def unknown (given : Fields) : Fields :=
  given.filter fun field =>
    !Controls.names.contains field.1 && !names.any fun name => isGivenAs name field.1

/-- Everything that is set, each setting under its own name, and then what is
given under unknown names. -/
def gathered (environment : List (String × String)) (given : Fields) :
    Except SettingsError Fields := do
  if let some name := Controls.misused? given then
    throw (.control name)
  let arguments ← (Controls.commandLine given).mapError .arguments
  let lookup ← Lookup.ofGiven given
  let value? := fun name =>
    ((arguments.get? name).or (given? given name)).or (lookup.fromEnvironment? environment name)
  return (names.filterMap fun name => (value? name).map (name, ·)) ++ unknown given

/-- Read settings from an environment and from what is given directly. -/
def read (environment : List (String × String)) (given : Fields) :
    Except SettingsError Settings := do
  if ← Controls.replaceSources given then
    (ofFields []).toExcept.mapError .shape
  else do
    let fields ← gathered environment given
    (ofFields fields).toExcept.mapError .shape

end Settings

end ModelTagging
