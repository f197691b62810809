import ModelTagging.Document.Value
import ModelTagging.Text.Characters
import ModelTagging.Text.LowerCase

/-!
# Settings on a command line

An option names a setting and is followed by its value, either behind an equals
sign or as the next argument. Of several options for one setting the last one
counts. Arguments that belong to no option are refused unless they are to be
passed over.
-/

namespace ModelTagging

namespace CommandLine

/-- Why the arguments of a command line give no settings. -/
inductive Fault where
  /-- The arguments are no list. -/
  | notList
  /-- An argument is no text. -/
  | notText
  /-- What is to stand before the names in options is no name. -/
  | badStart
  /-- An argument cannot be used. -/
  | unusable
  /-- The arguments end the program: they ask for help, or one of them cannot be
  used and the program is to end for it. -/
  | ended
  deriving DecidableEq

/-- How the option for a truth value is written. -/
inductive FlagForm where
  /-- The option has a value. -/
  | valued
  /-- The option says yes. If options start with hyphens, the one whose name
  starts with `no` says no. -/
  | paired
  /-- The option says yes. -/
  | single
  deriving DecidableEq

/-- What an option means. -/
inductive OptionMeaning where
  /-- It gives a value to a setting. -/
  | value (name : String)
  /-- It says yes or no to a setting. -/
  | flag (name : String) (on : Bool)
  /-- It asks for help. -/
  | help

/-- What an argument is taken for. -/
inductive Argument where
  /-- An option, with the text behind its equals sign. -/
  | option (meaning : OptionMeaning) (value : Option String)
  /-- An option that is not known. -/
  | unknown
  /-- A text that may be the value of the option before it. -/
  | plain (text : String)
  /-- The mark after which no option follows. -/
  | ending

/-- How arguments are read. -/
structure Form where
  /-- Whether options must have the same case. -/
  caseSensitive : Bool
  /-- The character that options start with. -/
  mark : Char
  /-- What stands before the name of a setting. -/
  nameStart : String
  /-- Whether the words of a name are joined by hyphens. -/
  hyphenated : Bool
  /-- How options for truth values are written. -/
  flags : FlagForm
  /-- Whether arguments that belong to no option are passed over. -/
  passesOver : Bool
  /-- Whether an argument that cannot be used ends the program. -/
  ends : Bool
  /-- The text that stands for the absent value. -/
  absentWord : Option String

namespace Form

/-- Whether the name of an option ends at a character. -/
def endsName (c : Char) : Bool := c == '=' || isSpacing c

/-- An argument in the case in which it is read. When case does not count, the
name of an option is put in lower case, and what follows it ends with its first
line. -/
def folded (form : Form) (argument : String) : String :=
  match argument.toList with
  | c :: next :: rest =>
    if !form.caseSensitive && c == form.mark && !endsName next then
      let cs := c :: next :: rest
      lowerCase (String.ofList (cs.takeWhile fun c => !endsName c)) ++
        String.ofList ((cs.dropWhile fun c => !endsName c).takeWhile (· ≠ '\n'))
    else argument
  | _ => argument

/-- The text of an option with a long name. -/
def long (form : Form) (name : String) : String :=
  String.ofList [form.mark, form.mark] ++ name

/-- The short option that asks for help. -/
def shortHelp (form : Form) : String := String.ofList [form.mark, 'h']

/-- The name of a setting in options. -/
def nameOf (form : Form) (name : String) : String :=
  let full := form.nameStart ++ name
  let joined :=
    if form.hyphenated then String.ofList (full.toList.map fun c => if c = '_' then '-' else c)
    else full
  if form.caseSensitive then joined else lowerCase joined

/-- The options for a setting. -/
def optionsFor (form : Form) (name : String) : List (String × OptionMeaning) :=
  let yes := form.long (form.nameOf name)
  match form.flags with
  | .valued => [(yes, .value name)]
  | .paired =>
    (yes, .flag name true) ::
      if form.mark = '-' then [(form.long ("no-" ++ form.nameOf name), .flag name false)] else []
  | .single => [(yes, .flag name true)]

/-- All options. -/
def options (form : Form) (names : List String) : List (String × OptionMeaning) :=
  (form.shortHelp, .help) :: (form.long "help", .help) :: names.flatMap form.optionsFor

/-- Whether characters are a negative number without an exponent. -/
def isNegativeNumber : List Char → Bool
  | '-' :: rest =>
    let digits := rest.takeWhile Char.isDigit
    match rest.dropWhile Char.isDigit with
    | [] => !digits.isEmpty
    | '.' :: fraction => !fraction.isEmpty && fraction.all Char.isDigit
    | _ => false
  | _ => false

/-- Whether an argument that is no known option is a plain text: it does not
start with the mark, it is the mark alone, or it is a negative number or more
than one word. -/
def isPlain (form : Form) (cs : List Char) : Bool :=
  cs.head? ≠ some form.mark || cs.length = 1 || isNegativeNumber cs || cs.contains ' '

/-- What an argument is taken for where options are known. More may follow the
short option that asks for help. -/
def argument (form : Form) (known : List (String × OptionMeaning)) (text : String) :
    Argument :=
  let cs := text.toList
  match known.lookup text with
  | some meaning => .option meaning none
  | none =>
    if form.shortHelp.toList.isPrefixOf cs then .option .help none
    else
      match known.lookup (String.ofList (cs.takeWhile (· ≠ '='))) with
      | some meaning => .option meaning (some (String.ofList ((cs.dropWhile (· ≠ '=')).drop 1)))
      | none => if form.isPlain cs then .plain text else .unknown

/-- What the arguments of a command line are taken for. -/
def arguments (form : Form) (known : List (String × OptionMeaning)) :
    List String → List Argument
  | [] => []
  | text :: rest =>
    if text = "--" then .ending :: rest.map .plain
    else form.argument known text :: form.arguments known rest

/-- What comes of an argument that cannot be used. -/
def fault (form : Form) : Fault := if form.ends then .ended else .unusable

/-- The value of the text of an argument. -/
def value (form : Form) (text : String) : Value :=
  if form.absentWord = some text then .null else .str text

/-- What arguments set, in order. -/
def assignments (form : Form) : List Argument → Except Fault Fields
  | [] => return []
  | .option (.value name) (some text) :: rest =>
    return (name, form.value text) :: (← form.assignments rest)
  | .option (.value name) none :: .plain text :: rest =>
    return (name, form.value text) :: (← form.assignments rest)
  | .option (.flag name on) none :: rest =>
    return (name, .bool on) :: (← form.assignments rest)
  | .option .help none :: _ => throw .ended
  | .option _ _ :: _ => throw form.fault
  | _ :: rest => do
    let others ← form.assignments rest
    if form.passesOver then return others else throw form.fault

/-- The settings of these names that the arguments of a command line give. -/
def read (form : Form) (names arguments : List String) : Except Fault Fields := do
  let set ← form.assignments (form.arguments (form.options names) (arguments.map form.folded))
  return names.filterMap fun name =>
    (set.reverse.lookup name).map (name, ·)

end Form

/-- The text of a value among arguments; an empty value is an empty text. -/
def argumentText : Value → Except Fault String
  | .str s => return s
  | v => if v.holds then throw .notText else return ""

/-- The arguments that a value gives, unless it says that there is no command
line. -/
def argumentsOf? : Value → Except Fault (Option (List String))
  | .null => return none
  | .bool b => return if b then some [] else none
  | .list items => some <$> items.mapM argumentText
  | .int 0 => return none
  | .float x => if x.toInt? = some 0 then return none else throw .notList
  | _ => throw .notList

end CommandLine

end ModelTagging
