/-!
# Kinds of model elements

The closed sets of kinds of declarations, of their properties and of the
arguments of a decorator, each with the words that name them in documents.
-/

namespace ModelTagging

/-- What a declaration defines. -/
inductive DeclarationKind where
  | concept
  | asset
  | participant
  | transaction
  | event
  | enum
  | scalar
  | map
  deriving DecidableEq

namespace DeclarationKind

/-- Every kind of declaration, in the order messages list them. -/
def all : List DeclarationKind :=
  [.concept, .asset, .participant, .transaction, .event, .enum, .scalar, .map]

/-- The word for a kind of declaration. -/
def name : DeclarationKind → String
  | .concept => "concept"
  | .asset => "asset"
  | .participant => "participant"
  | .transaction => "transaction"
  | .event => "event"
  | .enum => "enum"
  | .scalar => "scalar"
  | .map => "map"

/-- The kind a word names. -/
def ofName? (word : String) : Option DeclarationKind := all.find? (·.name == word)

/-- A kind is found under its own name. -/
@[simp] theorem ofName?_name (kind : DeclarationKind) : ofName? kind.name = some kind := by
  cases kind <;> decide

/-- Whether declarations of this kind may own properties. -/
def ownsProperties : DeclarationKind → Bool
  | .scalar | .map => false
  | _ => true

end DeclarationKind

/-- What a property of a declaration is. -/
inductive PropertyKind where
  | field
  | relationship
  | enumValue
  deriving DecidableEq

namespace PropertyKind

/-- Every kind of property, in the order messages list them. -/
def all : List PropertyKind := [.field, .relationship, .enumValue]

/-- The word for a kind of property. -/
def name : PropertyKind → String
  | .field => "field"
  | .relationship => "relationship"
  | .enumValue => "enum_value"

/-- The kind a word names. -/
def ofName? (word : String) : Option PropertyKind := all.find? (·.name == word)

/-- A kind is found under its own name. -/
@[simp] theorem ofName?_name (kind : PropertyKind) : ofName? kind.name = some kind := by
  cases kind <;> decide

end PropertyKind

/-- What an argument of a decorator holds. -/
inductive ArgumentKind where
  | string
  | number
  | boolean
  | typeReference
  deriving DecidableEq

namespace ArgumentKind

/-- Every kind of argument, in the order messages list them. -/
def all : List ArgumentKind := [.string, .number, .boolean, .typeReference]

/-- The word for a kind of argument. -/
def name : ArgumentKind → String
  | .string => "string"
  | .number => "number"
  | .boolean => "boolean"
  | .typeReference => "type_reference"

/-- The kind a word names. -/
def ofName? (word : String) : Option ArgumentKind := all.find? (·.name == word)

/-- A kind is found under its own name. -/
@[simp] theorem ofName?_name (kind : ArgumentKind) : ofName? kind.name = some kind := by
  cases kind <;> decide

end ArgumentKind

/-- How a command attaches its decorator to an element. -/
inductive MergeMode where
  /-- Replace the decorators of the same name, or add one. -/
  | upsert
  /-- Add the decorator after those already there. -/
  | append
  deriving DecidableEq

namespace MergeMode

/-- Both modes, in the order messages list them. -/
def all : List MergeMode := [.upsert, .append]

/-- The word for a mode. -/
def name : MergeMode → String
  | .upsert => "UPSERT"
  | .append => "APPEND"

/-- The mode a word names. -/
def ofName? (word : String) : Option MergeMode := all.find? (·.name == word)

/-- A mode is found under its own name. -/
@[simp] theorem ofName?_name (mode : MergeMode) : ofName? mode.name = some mode := by
  cases mode <;> decide

end MergeMode

end ModelTagging
