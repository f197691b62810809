import ModelTagging.Numeric.Binary64
import ModelTagging.Text.Characters

/-!
# Reading numbers from text

Two grammars are read. A decimal number has an optional sign, digits on at
least one side of an optional point, and an optional exponent; it may also
spell an infinity or the value that is no number. A loose integer allows
blanks around it, one plus sign, leading zeros after its sign, single
underscores inside it and a fraction of zeros. The length of an integer is limited, and the limit
is its own outcome.
-/

namespace ModelTagging

namespace Numeral

/-- The value of a decimal digit. -/
def digitValue (c : Char) : Nat := c.toNat - '0'.toNat

/-- The natural a run of digits spells, most significant digit first. -/
def ofDigits (digits : List Char) : Nat :=
  digits.foldl (fun n c => 10 * n + digitValue c) 0

/-- The digits at the front, and the rest. -/
def spanDigits (cs : List Char) : List Char × List Char :=
  (cs.takeWhile Char.isDigit, cs.dropWhile Char.isDigit)

/-- A leading minus or plus sign, and the rest. -/
def splitSign : List Char → Bool × List Char
  | '-' :: rest => (true, rest)
  | '+' :: rest => (false, rest)
  | cs => (false, cs)

/-- The exponent part of a numeral, which must be all of the text. No text is
the exponent zero. -/
def exponentOf? : List Char → Option Int
  | [] => some 0
  | c :: rest =>
    if c = 'e' ∨ c = 'E' then
      let (negative, digits) := splitSign rest
      if digits.isEmpty ∨ !digits.all Char.isDigit then none
      else some (if negative then -(ofDigits digits : Int) else ofDigits digits)
    else none

/-- The significand and the power of ten of an unsigned decimal numeral. -/
def decimalOf? (cs : List Char) : Option (Nat × Int) :=
  let (whole, rest) := spanDigits cs
  let (fraction, rest) := match rest with
    | '.' :: more => spanDigits more
    | _ => ([], rest)
  if whole.isEmpty ∧ fraction.isEmpty then none
  else (exponentOf? rest).map fun e => (ofDigits (whole ++ fraction), e - fraction.length)

/-- The double a text spells. Words for the infinities and for the value that
is no number are read in either case. -/
def binary64Of? (cs : List Char) : Option Binary64 :=
  let (negative, rest) := splitSign cs
  let word := String.ofList (rest.map Char.toLower)
  if word = "inf" ∨ word = "infinity" then some (.infinite negative)
  else if word = "nan" then some .nan
  else (decimalOf? rest).map fun (significand, exponent) => .ofDecimal negative significand exponent

/-- The text without its underscores, when it has some and each stands alone
between two other characters. -/
def withoutUnderscores? (cs : List Char) : Option (List Char) :=
  if cs.head? = some '_' ∨ cs.getLast? = some '_' ∨ !cs.contains '_' ∨
      (cs.zip (cs.drop 1)).contains ('_', '_') then none
  else some (cs.filter (· ≠ '_'))

/-- The double a text spells when blanks around it, or else single underscores
within it, are passed over. -/
def looseBinary64? (cs : List Char) : Option Binary64 :=
  (binary64Of? (trimBlanks cs)).or ((withoutUnderscores? cs).bind binary64Of?)

/-- What reading an integer comes to. -/
inductive IntegerReading where
  /-- The text spells this integer. -/
  | read (value : Int)
  /-- The text starts with more digits than an integer may have. -/
  | oversized
  /-- The text spells no integer. -/
  | malformed
  deriving DecidableEq

/-- The most digits of an integer that is read. A sign is not counted. -/
def integerLimit : Nat := 4300

/-- An optional minus sign and digits without a leading zero, and nothing
else. The limit is checked on the digits before what follows them. -/
def plainInteger (cs : List Char) : IntegerReading :=
  let (negative, unsigned) := match cs with
    | '-' :: rest => (true, rest)
    | _ => (false, cs)
  let (digits, rest) := spanDigits unsigned
  if digits.isEmpty then .malformed
  else if digits.head? = some '0' then
    if unsigned = ['0'] then .read 0 else .malformed
  else if integerLimit < digits.length then .oversized
  else if rest.isEmpty then .read (if negative then -(ofDigits digits : Int) else ofDigits digits)
  else .malformed

/-- The text after its leading zeros and the underscores among them, keeping
the last of them before a point or at the end. A minus sign may follow the
zeros. A text that starts with another digit is kept whole. -/
def dropLeadingZeros? : List Char → Option (List Char)
  | '0' :: rest =>
    let skipped := '0' :: rest.takeWhile (fun c => c = '0' ∨ c = '_')
    match rest.dropWhile (fun c => c = '0' ∨ c = '_') with
    | [] => some (skipped.getLast?.toList)
    | c :: more =>
      if c.isDigit ∨ c = '-' then some (c :: more)
      else if c = '.' then some (skipped.getLast?.toList ++ c :: more)
      else none
  | c :: rest => if c.isDigit then some (c :: rest) else none
  | [] => none

/-- The text before a point that only zeros follow, at least one. -/
def dropZeroFraction (cs : List Char) : List Char :=
  let fraction := (cs.dropWhile (· ≠ '.')).drop 1
  if !fraction.isEmpty ∧ fraction.all (· = '0') then cs.takeWhile (· ≠ '.') else cs

/-- The text without a plus sign in front and without the leading zeros after
its sign. A plus sign before a minus sign is refused. -/
def dropSignedZeros? : List Char → Option (List Char)
  | '+' :: '-' :: _ => none
  | '+' :: rest => dropLeadingZeros? rest
  | '-' :: rest => (dropLeadingZeros? rest).map ('-' :: ·)
  | cs => dropLeadingZeros? cs

/-- The plain spelling of a loosely written integer. -/
def plainSpelling? (cs : List Char) : Option (List Char) :=
  (dropSignedZeros? (trimBlanks cs)).map fun kept =>
    let whole := dropZeroFraction kept
    (withoutUnderscores? whole).getD whole

/-- The integer a text spells, plainly or loosely. Only a text that starts
plainly is told to be too long; an overlong plain spelling of a loosely
written integer is no integer. -/
def looseInteger (cs : List Char) : IntegerReading :=
  match plainInteger cs with
  | .malformed =>
    match (plainSpelling? cs).map plainInteger with
    | some (.read value) => .read value
    | _ => .malformed
  | reading => reading

end Numeral

end ModelTagging
