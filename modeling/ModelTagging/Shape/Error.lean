import ModelTagging.Document.Entries
import ModelTagging.Document.Literal
import ModelTagging.Model.Kind

/-!
# Shape errors

What is wrong with a document value, and where. An error holds its cause as
data and the path from the value that was read to the offending part; the
code and the wording of a cause are functions of it. Some wordings are
templates: texts with places, each a name in braces. The places are filled one
name after the other, so that a place in what an earlier name was filled with is
filled as well. What a name is filled with is not looked at again for that name.
-/

namespace ModelTagging

namespace Template

/-- The place of a name. -/
def place (name : String) : List Char := '\x7b' :: name.toList ++ ['\x7d']

/-- Characters with every place of a name filled. The first ones, as many as
given, belong to a place that is filled already and are left out. -/
def fillAfter (name : String) (value : List Char) : Nat → List Char → List Char
  | _, [] => []
  | filled + 1, _ :: rest => fillAfter name value filled rest
  | 0, c :: rest =>
    if (place name).isPrefixOf (c :: rest) then
      value ++ fillAfter name value ((place name).length - 1) rest
    else c :: fillAfter name value 0 rest

/-- A template with the places of one name filled. -/
def fill (template : String) (name value : String) : String :=
  String.ofList (fillAfter name value.toList 0 template.toList)

/-- A template with the places of some names filled, in this order. -/
def fillAll (template : String) (values : List (String × String)) : String :=
  values.foldl (fun text value => fill text value.1 value.2) template

end Template

/-- One step of a path into a document value. -/
inductive Segment where
  /-- Into the field of this name. -/
  | key (name : String)
  /-- Into the item at this position. -/
  | index (position : Nat)
  /-- Into the entry under this integer. -/
  | integer (key : Int)
  /-- Into an alternative of a union; no step in the value itself. -/
  | branch (name : String)
  deriving DecidableEq

/-- Whether an integer fits in a signed word of 64 bits. -/
def isWord (i : Int) : Bool := -(twoTo 63 : Int) ≤ i && i < twoTo 63

/-- The step into the entry under a key. A key that is neither a text nor an
integer of word size is shown by its literal. -/
def Segment.ofKey : EntryKey → Segment
  | .text name => .key name
  | .integer i => if isWord i then .integer i else .key (toString i)
  | .double x => .key x.literal
  | .absent => .key Value.null.literal

/-- A rule about a whole element that its well-shaped fields break. -/
inductive RuleViolation where
  /-- An enumeration value declares a type. -/
  | typedEnumValue (property : String)
  /-- A property other than an enumeration value declares no type. -/
  | untypedProperty (property : String)
  /-- A scalar or map owns properties. -/
  | ownedProperties (kind : DeclarationKind) (declaration : String)
  /-- A scalar has no underlying type, or another declaration has one. -/
  | scalarType (declaration : String)
  /-- A map lacks a slot, or another declaration has both. -/
  | mapSlots (declaration : String)
  /-- An enumeration owns something other than enumeration values. -/
  | enumMembers (declaration : String)
  deriving DecidableEq

/-- The wording of a broken rule. -/
def RuleViolation.message : RuleViolation → String
  | .typedEnumValue property => "enum value '" ++ property ++ "' cannot declare a type"
  | .untypedProperty property => "property '" ++ property ++ "' must declare a type"
  | .ownedProperties kind declaration =>
    kind.name ++ " declaration '" ++ declaration ++ "' cannot own properties"
  | .scalarType declaration =>
    "scalar_type is required for, and only for, scalar '" ++ declaration ++ "'"
  | .mapSlots declaration =>
    "map_key/map_value are required for, and only for, map '" ++ declaration ++ "'"
  | .enumMembers declaration => "enum '" ++ declaration ++ "' may only own enum values"

/-- Why a value has not the shape asked for. -/
inductive ShapeCause where
  /-- A required field is absent. -/
  | missing
  /-- A field the shape does not know. -/
  | unknownKey
  /-- An entry whose key is no text. -/
  | keyNotText
  /-- No object where one of the named shape is needed. -/
  | notObject (shape : String)
  /-- No list where one is needed. -/
  | notList
  /-- No text where one is needed. -/
  | notText
  /-- An empty text where one with a character is needed. -/
  | emptyText
  /-- A value of a kind that never stands for a truth value. -/
  | notBoolean
  /-- A text or number that stands for no truth value. -/
  | unreadableBoolean
  /-- Not one of the listed words. -/
  | notOneOf (choices : List String) (given : Value)
  /-- No object where an argument is needed. -/
  | argumentNotObject
  /-- An argument without its kind. -/
  | argumentWithoutKind
  /-- An argument of no known kind. -/
  | argumentKindUnknown (given : Value)
  /-- A value of a kind that never stands for an integer. -/
  | notInteger
  /-- A text that spells no integer. -/
  | unreadableInteger
  /-- A text with more digits than an integer may have. -/
  | oversizedInteger
  /-- A value of a kind that never stands for a number. -/
  | notNumber
  /-- A text that spells no number. -/
  | unreadableNumber
  /-- An infinity or the value that is no number. -/
  | notFinite
  /-- Well-shaped fields that together break a rule. -/
  | rule (violation : RuleViolation)

namespace ShapeCause

/-- A word in single quotes. -/
def inQuotes (word : String) : String := "'" ++ word ++ "'"

/-- Quoted words with commas between them and "or" before the last. -/
def alternatives : List String → String
  | [] => ""
  | [word] => inQuotes word
  | [word, last] => inQuotes word ++ " or " ++ inQuotes last
  | word :: rest => inQuotes word ++ ", " ++ alternatives rest

/-- The code of a cause. -/
def code : ShapeCause → String
  | .missing => "missing"
  | .unknownKey => "extra_forbidden"
  | .keyNotText => "invalid_key"
  | .notObject _ => "model_type"
  | .notList => "list_type"
  | .notText => "string_type"
  | .emptyText => "string_too_short"
  | .notBoolean => "bool_type"
  | .unreadableBoolean => "bool_parsing"
  | .notOneOf _ _ => "enum"
  | .argumentNotObject => "model_attributes_type"
  | .argumentWithoutKind => "union_tag_not_found"
  | .argumentKindUnknown _ => "union_tag_invalid"
  | .notInteger => "int_type"
  | .unreadableInteger => "int_parsing"
  | .oversizedInteger => "int_parsing_size"
  | .notNumber => "float_type"
  | .unreadableNumber => "float_parsing"
  | .notFinite => "finite_number"
  | .rule _ => "value_error"

/-- The wording for an argument of no known kind, with places for its kind and
for the known ones. -/
def unknownKindTemplate : String :=
  "Input tag '\x7btag\x7d' found using 'kind' does not match any of the expected tags: " ++
    "\x7bexpected_tags\x7d"

/-- The known kinds of arguments. -/
def knownKinds : String := commaSeparated (ArgumentKind.all.map fun kind => inQuotes kind.name)

/-- The wording of a cause. -/
def message : ShapeCause → String
  | .missing => "Field required"
  | .unknownKey => "Extra inputs are not permitted"
  | .keyNotText => "Keys should be strings"
  | .notObject shape => "Input should be a valid dictionary or instance of " ++ shape
  | .notList => "Input should be a valid list"
  | .notText => "Input should be a valid string"
  | .emptyText => "String should have at least 1 character"
  | .notBoolean => "Input should be a valid boolean"
  | .unreadableBoolean => "Input should be a valid boolean, unable to interpret input"
  | .notOneOf choices _ => "Input should be " ++ alternatives choices
  | .argumentNotObject => "Input should be a valid dictionary or object to extract fields from"
  | .argumentWithoutKind => "Unable to extract tag using discriminator 'kind'"
  | .argumentKindUnknown given =>
    Template.fillAll unknownKindTemplate [("tag", given.shown), ("expected_tags", knownKinds)]
  | .notInteger => "Input should be a valid integer"
  | .unreadableInteger => "Input should be a valid integer, unable to parse string as an integer"
  | .oversizedInteger => "Unable to parse input string as an integer, exceeded maximum size"
  | .notNumber => "Input should be a valid number"
  | .unreadableNumber => "Input should be a valid number, unable to parse string as a number"
  | .notFinite => "Input should be a finite number"
  | .rule violation => "Value error, " ++ violation.message

end ShapeCause

/-- A cause and the path from the value that was read to where it lies. -/
structure ShapeError where
  /-- The way to the offending part. -/
  path : List Segment
  /-- What is wrong there. -/
  cause : ShapeCause

namespace ShapeError

/-- The error as seen from a value that holds the read one at a step. -/
def under (segment : Segment) (error : ShapeError) : ShapeError :=
  { error with path := segment :: error.path }

/-- The line that announces a list of shape errors. -/
def headline (subject shape : String) (errors : List ShapeError) : String :=
  subject ++ ": " ++ toString errors.length ++ " validation error" ++
    (if errors.length = 1 then "" else "s") ++ " for " ++ shape

end ShapeError

end ModelTagging
