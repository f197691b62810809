import ModelTagging.Numeric.Binary64

/-!
# Document values

The values a command set, a model tree or a set of options is read from and
written to. Integers have any size and are kept apart from doubles. An object
is a list of fields in the order of the document; a key that occurs twice is
representable, and looking it up gives the first occurrence. An object is written
either with every field of its shape or without those that are absent. Which of
the two is chosen once for a whole tree, at every level of it; an empty list is
not an absent field.
-/

namespace ModelTagging

/-- A document value. -/
inductive Value where
  /-- The absent value. -/
  | null
  /-- A truth value. -/
  | bool (value : Bool)
  /-- An integer of any size. -/
  | int (value : Int)
  /-- A double precision number. -/
  | float (value : Binary64)
  /-- A text. -/
  | str (value : String)
  /-- A list of values. -/
  | list (items : List Value)
  /-- An object with its fields in order. -/
  | object (fields : List (String × Value))
  deriving Inhabited

/-- The fields of an object, in order. -/
abbrev Fields := List (String × Value)

namespace Value

/-- Whether the value is the absent one. -/
def isNull : Value → Bool
  | .null => true
  | _ => false

/-- Only the absent value counts as absent. -/
@[simp] theorem isNull_eq_true_iff (v : Value) : v.isNull = true ↔ v = .null := by
  cases v <;> simp [isNull]

/-- The value of an option, the absent value for none. -/
def ofOption {α : Type} (write : α → Value) : Option α → Value
  | some a => write a
  | none => .null

/-- Whether a value counts as yes where only yes or no is asked for: zero, the
absent value and everything empty count as no. -/
def holds : Value → Bool
  | .null => false
  | .bool b => b
  | .int i => i != 0
  | .float x => x.toInt? != some 0
  | .str s => !s.isEmpty
  | .list items => !items.isEmpty
  | .object fields => !fields.isEmpty

/-- The word for the kind of a value. -/
def kindName : Value → String
  | .null => "NoneType"
  | .bool _ => "bool"
  | .int _ => "int"
  | .float _ => "float"
  | .str _ => "str"
  | .list _ => "list"
  | .object _ => "dict"

mutual

/-- The value without the fields of the given names, at any depth. -/
def without (names : List String) : Value → Value
  | .list items => .list (itemsWithout names items)
  | .object fields => .object (fieldsWithout names fields)
  | v => v

/-- Each item without the fields of the given names. -/
def itemsWithout (names : List String) : List Value → List Value
  | [] => []
  | v :: rest => v.without names :: itemsWithout names rest

/-- The fields of other names, their values without fields of those names. -/
def fieldsWithout (names : List String) : Fields → Fields
  | [] => []
  | (name, v) :: rest =>
    if names.contains name then fieldsWithout names rest
    else (name, v.without names) :: fieldsWithout names rest

end

end Value

namespace Fields

/-- The value of the first field with this name. -/
def get? (fields : Fields) (name : String) : Option Value := fields.lookup name

/-- The fields with one added, or with the value of an existing one replaced
where it stands. -/
def put (name : String) (value : Value) : Fields → Fields
  | [] => [(name, value)]
  | (other, old) :: rest =>
    if other = name then (name, value) :: rest else (other, old) :: put name value rest

/-- The fields that a value gives, none when it says no. -/
def ofValue? : Value → Option Fields
  | .object fields => some fields
  | v => if v.holds then none else some []

end Fields

/-- What is done with the absent fields of a written object. -/
inductive AbsentFields where
  /-- They are written as the absent value. -/
  | kept
  /-- They are left out. -/
  | omitted
  deriving DecidableEq

/-- The object of these fields. -/
def AbsentFields.record (absent : AbsentFields) (fields : Fields) : Value :=
  match absent with
  | .kept => .object fields
  | .omitted => .object (fields.filter fun field => !field.2.isNull)

/-- The list of some written elements. -/
def Value.ofList {α : Type} (write : α → Value) (items : List α) : Value :=
  .list (items.map write)

/-- A written text, absent for none. -/
def Value.ofText? : Option String → Value := Value.ofOption .str

end ModelTagging
