import ModelTagging.Document.Entries
import ModelTagging.Settings.Basic

/-!
# Controls of settings

What is given directly can hold controls beside the settings. They say how
environment variables and the command line are read, and most of them have no
bearing on these settings. A control with the absent value counts as not given.
-/

namespace ModelTagging

namespace Controls

/-- The names of all controls. -/
def names : List String :=
  ["_case_sensitive", "_env_prefix", "_env_ignore_empty", "_env_parse_none_str",
   "_nested_model_default_partial_update", "_env_prefix_target", "_env_file",
   "_env_file_depth", "_env_file_encoding", "_env_nested_delimiter", "_env_nested_max_split",
   "_env_parse_enums", "_cli_prog_name", "_cli_parse_args", "_cli_settings_source",
   "_cli_parse_none_str", "_cli_hide_none_type", "_cli_avoid_json", "_cli_enforce_required",
   "_cli_use_class_docs_for_groups", "_cli_exit_on_error", "_cli_prefix",
   "_cli_flag_prefix_char", "_cli_implicit_flags", "_cli_ignore_unknown_args",
   "_cli_kebab_case", "_cli_shortcuts", "_cli_show_env_vars", "_secrets_dir", "_build_sources"]

/-- The value of a control. -/
def value? (given : Fields) (name : String) : Option Value :=
  (given.get? name).filter fun value => !value.isNull

/-- The value of a control, unless it says no. -/
def word? (given : Fields) (name : String) : Option Value :=
  (value? given name).filter Value.holds

/-- Whether a control says yes. -/
def asks (given : Fields) (name : String) : Bool := (word? given name).isSome

/-- The text of a value. -/
def textOf? : Value → Option String
  | .str s => some s
  | _ => none

/-- Whether a value names files. -/
def namesFiles : Value → Bool
  | .str _ => true
  | .object _ => true
  | .list items => items.all fun item => (textOf? item).isSome
  | _ => false

/-- Whether a value has a length. -/
def hasLength (value : Value) : Bool := value.parts?.isSome

/-- Whether a value can say how often names are split. -/
def isCount : Value → Bool
  | .bool _ => true
  | .int _ => true
  | .float _ => true
  | v => !v.holds

/-- The controls whose values must be of some kind. -/
def restricted : List (String × (Value → Bool)) :=
  [("_env_nested_max_split", isCount), ("_env_prefix", hasLength), ("_env_file", namesFiles),
   ("_secrets_dir", namesFiles)]

/-- The first control with a value of a kind that it cannot have. -/
def misused? (given : Fields) : Option String :=
  (restricted.find? fun (name, allowed) => (value? given name).any fun v => !allowed v).map (·.1)

/-- Whether the usual sources of settings are replaced by none. Other sources
than none cannot be given. -/
def replaceSources (given : Fields) : Except SettingsError Bool :=
  match value? given "_build_sources" with
  | none => return false
  | some value =>
    match value.parts? with
    | none => throw (.control "_build_sources")
    | some [sources, _] =>
      if sources.holds then throw (.control "_build_sources") else return true
    | some _ => throw .sources

/-! ## Environment variables -/

/-- Whether what variables start with counts for settings. -/
def useVariableStart (given : Fields) : Bool :=
  match value? given "_env_prefix_target" with
  | some value => textOf? value = some "variable" || textOf? value = some "all"
  | none => true

/-- What variables that hold settings start with, unless asked for otherwise. -/
def defaultStart : String := "MODELDECO_"

/-- What variables that hold settings start with. -/
def variableStart (given : Fields) : Except SettingsError String :=
  if useVariableStart given then
    match value? given "_env_prefix" with
    | none => return defaultStart
    | some (.str s) => return s
    | some _ => throw .variableStart
  else return ""

/-! ## Command line -/

/-- Whether a text can stand before the names in options: names joined by
points. -/
def isNameStart (s : String) : Bool :=
  let cs := s.toList
  let letters := cs.filter (· ≠ '.')
  cs.head? ≠ some '.' && cs.getLast? ≠ some '.' && !letters.head?.all Char.isDigit &&
    letters.all fun c => c.isAlphanum || c = '_' || 0x80 ≤ c.toNat

/-- What stands before the names in options. -/
def nameStart (given : Fields) : Except CommandLine.Fault String :=
  match word? given "_cli_prefix" with
  | none => return ""
  | some (.str s) => if isNameStart s then return s ++ "." else throw .badStart
  | some _ => throw .badStart

/-- The character that options start with. -/
def mark (given : Fields) : Char :=
  match (value? given "_cli_flag_prefix_char").bind textOf? with
  | some s =>
    match s.toList with
    | [c] => c
    | _ => '-'
  | none => '-'

/-- How options for truth values are written. -/
def flags (given : Fields) : CommandLine.FlagForm :=
  match word? given "_cli_implicit_flags" with
  | none => .valued
  | some value => if textOf? value = some "toggle" then .single else .paired

/-- The text of an argument that stands for the absent value. -/
def absentWord (given : Fields) : Option String :=
  match (word? given "_env_parse_none_str").or (word? given "_cli_parse_none_str") with
  | some value => textOf? value
  | none =>
    match value? given "_cli_avoid_json" with
    | some (.bool true) => some "None"
    | _ => some "null"

/-- Whether options must have the same case. -/
def caseSensitiveOptions (given : Fields) : Bool :=
  match value? given "_case_sensitive" with
  | none => false
  | some (.bool b) => b
  | some _ => true

/-- The form of the arguments of the command line. -/
def form (given : Fields) : Except CommandLine.Fault CommandLine.Form := do
  let start ← nameStart given
  return {
    caseSensitive := caseSensitiveOptions given
    mark := mark given
    nameStart := start
    hyphenated := asks given "_cli_kebab_case"
    flags := flags given
    passesOver := asks given "_cli_ignore_unknown_args"
    ends := ((value? given "_cli_exit_on_error").map Value.holds).getD true
    absentWord := absentWord given }

/-- The settings that a command line gives. Without one its form does not
matter. -/
def commandLine (given : Fields) : Except CommandLine.Fault Fields :=
  match value? given "_cli_parse_args" with
  | none => return []
  | some value => do
    let form ← form given
    match ← CommandLine.argumentsOf? value with
    | some arguments => form.read Settings.names arguments
    | none => return []

end Controls

end ModelTagging
