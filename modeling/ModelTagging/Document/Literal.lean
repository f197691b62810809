import ModelTagging.Document.Value
import ModelTagging.Numeric.Shortest
import ModelTagging.Text.Characters

/-!
# Literals of document values

The one-line text by which a message shows a value: words for the constants,
plain numerals, quoted texts, items in brackets and fields in braces.

The quote around a text is single unless the text holds a single quote and no
double one. The backslash, the quote in use and three line characters have short
escapes; every other character that cannot be shown is written by its number in
hexadecimal, with two, four or eight digits.
-/

namespace ModelTagging

/-! ## Texts in quotes -/

namespace Quoted

/-- A lower-case hexadecimal digit. -/
def hexDigit (n : Nat) : Char := (Nat.toDigits 16 (n % 16)).headD '0'

/-- The last `width` hexadecimal digits of a natural. -/
def hexDigits : Nat → Nat → List Char
  | 0, _ => []
  | width + 1, n => hexDigits width (n / 16) ++ [hexDigit n]

/-- The quote around a text. -/
def quoteFor (cs : List Char) : Char :=
  if cs.contains '\'' && !cs.contains '"' then '"' else '\''

/-- One character inside quotes. -/
def escape (quote c : Char) : List Char :=
  if c = '\\' ∨ c = quote then ['\\', c]
  else if c = '\n' then ['\\', 'n']
  else if c = '\r' then ['\\', 'r']
  else if c = '\t' then ['\\', 't']
  else if isPrintable c then [c]
  else if c.toNat < 0x100 then '\\' :: 'x' :: hexDigits 2 c.toNat
  else if c.toNat < 0x10000 then '\\' :: 'u' :: hexDigits 4 c.toNat
  else '\\' :: 'U' :: hexDigits 8 c.toNat

/-- The quoted literal of a text. -/
def encode (cs : List Char) : List Char :=
  let quote := quoteFor cs
  quote :: cs.flatMap (escape quote) ++ [quote]

end Quoted

/-- The quoted literal of a string. -/
def quoted (s : String) : String := String.ofList (Quoted.encode s.toList)

/-! ## Values -/

/-- Numbers are positional for decimal exponents from minus four up to fifteen
and otherwise carry an exponent of at least two digits. -/
def Value.numeralLayout : NumeralLayout := ⟨-4, 16, 2⟩

/-- The text of a double inside a literal. -/
def Binary64.literal (x : Binary64) : String := x.write Value.numeralLayout

/-- Parts with a comma and a blank between them. -/
def commaSeparated (parts : List String) : String := String.intercalate ", " parts

namespace Value

mutual

/-- The literal of a value. -/
def literal : Value → String
  | .null => "None"
  | .bool true => "True"
  | .bool false => "False"
  | .int value => toString value
  | .float value => value.literal
  | .str value => quoted value
  | .list items => "[" ++ commaSeparated (itemLiterals items) ++ "]"
  | .object fields => "\x7b" ++ commaSeparated (fieldLiterals fields) ++ "\x7d"

/-- The literals of the items of a list. -/
def itemLiterals : List Value → List String
  | [] => []
  | v :: rest => v.literal :: itemLiterals rest

/-- The literals of the fields of an object. -/
def fieldLiterals : Fields → List String
  | [] => []
  | (name, v) :: rest => (quoted name ++ ": " ++ v.literal) :: fieldLiterals rest

end

/-- The text a message shows for a value: a text as it is, any other value by
its literal. -/
def shown : Value → String
  | .str value => value
  | v => v.literal

end Value

end ModelTagging
