import ModelTagging.Shape.Decoded
import ModelTagging.Numeric.Reading

/-!
# Reading single values

Texts are taken as they are. Truth values may also be written as zero or one
or by one of a few words, and numbers may be written as text; both rules are
stated here for every place that uses them.
-/

namespace ModelTagging

/-- A number argument: an integer of any size, or a finite double. -/
inductive Number where
  /-- An integer. -/
  | whole (value : Int)
  /-- A finite double of this sign and size. -/
  | real (negative : Bool) (size : Magnitude)
  deriving DecidableEq

/-- The document value of a number. -/
def Number.toValue : Number → Value
  | .whole value => .int value
  | .real negative size => .float (.finite negative size)

namespace Reader

/-- Read a text. -/
def text : Reader String
  | .str s => pure s
  | _ => .fail .notText

/-- Read a text that has a character. -/
def nonEmptyText : Reader String
  | .str s => if s.isEmpty then .fail .emptyText else pure s
  | _ => .fail .notText

/-- The words for truth values. -/
def booleanWords : List (String × Bool) :=
  [("0", false), ("f", false), ("n", false), ("no", false), ("off", false), ("false", false),
   ("1", true), ("t", true), ("y", true), ("yes", true), ("on", true), ("true", true)]

/-- The truth value an integer stands for. -/
def booleanOfInt? (i : Int) : Option Bool :=
  if i = 0 then some false else if i = 1 then some true else none

/-- Read a truth value. Words are compared without regard to the case of
unaccented letters and without trimming. A number other than zero and one is
unreadable when it is a whole one of word size, and otherwise of the wrong
kind; a double at the lower end of the word range already counts as outside. -/
def boolean : Reader Bool
  | .bool b => pure b
  | .str s =>
    match booleanWords.lookup (String.ofList (s.toList.map Char.toLower)) with
    | some b => pure b
    | none => .fail .unreadableBoolean
  | .int i =>
    match booleanOfInt? i with
    | some b => pure b
    | none => .fail (if isWord i then .unreadableBoolean else .notBoolean)
  | .float x =>
    match x.toInt? with
    | some i =>
      match booleanOfInt? i with
      | some b => pure b
      | none => .fail (if i.natAbs < twoTo 63 then .unreadableBoolean else .notBoolean)
    | none => .fail .notBoolean
  | _ => .fail .notBoolean

/-- Read one of the words that `parse` knows, all of which are `choices`. -/
def oneOf {α : Type} (choices : List String) (parse : String → Option α) : Reader α
  | .str s =>
    match parse s with
    | some a => pure a
    | none => .fail (.notOneOf choices (.str s))
  | v => .fail (.notOneOf choices v)

/-- A number that is neither an integer nor a finite double, with what is wrong
with it as each. -/
def neitherNumber {α : Type} (asInteger asDouble : ShapeCause) : Decoded α :=
  .rejected [⟨[.branch "int"], asInteger⟩, ⟨[.branch "float"], asDouble⟩]

/-- The number a text spells. An integer is tried first, so a fraction of zeros
still gives an integer. -/
def numberOfText (cs : List Char) : Decoded Number :=
  let integer := Numeral.looseInteger cs
  let asInteger := match integer with
    | .oversized => ShapeCause.oversizedInteger
    | _ => .unreadableInteger
  match integer, Numeral.looseBinary64? cs with
  | .read i, _ => pure (.whole i)
  | _, some (.finite negative size) => pure (.real negative size)
  | _, some _ => neitherNumber asInteger .notFinite
  | _, none => neitherNumber asInteger .unreadableNumber

/-- Read a number. Integers and finite doubles are kept as they are, a truth
value counts as zero or one, and a text is read for the number it spells. -/
def number : Reader Number
  | .int i => pure (.whole i)
  | .float (.finite negative size) => pure (.real negative size)
  | .float _ => neitherNumber .notFinite .notFinite
  | .bool b => pure (.whole (if b then 1 else 0))
  | .str s => numberOfText s.toList
  | _ => neitherNumber .notInteger .notNumber

/-- A number is read back from its document value. -/
@[simp] theorem number_toValue (n : Number) : number n.toValue = .accepted n := by
  cases n <;> rfl

end Reader

end ModelTagging
