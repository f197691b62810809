import ModelTagging.Document.Value

/-!
# Entries

A list of pairs can stand for an object. Its keys need not be texts, and of
several entries under one key the last value counts, where the first one stood.
-/

namespace ModelTagging

/-- The key of an entry. -/
inductive EntryKey where
  /-- A text. -/
  | text (name : String)
  /-- An integer. -/
  | integer (value : Int)
  /-- A double. -/
  | double (value : Binary64)
  /-- The absent value. -/
  | absent
  deriving DecidableEq

/-- Keys with their values, in order. -/
abbrev Entries := List (EntryKey × Value)

/-- Why a value is no list of entries. -/
inductive EntriesFault where
  /-- The value, or one of its items, has no parts. -/
  | noParts
  /-- An item has more or fewer than two parts. -/
  | notPair
  /-- A list or an object is used as a key. -/
  | unusableKey
  deriving DecidableEq

/-- The wording of a fault. -/
def EntriesFault.message : EntriesFault → String
  | .noParts => "Entries must be a list of pairs"
  | .notPair => "An entry must have a key and a value"
  | .unusableKey => "A list or an object cannot be a key"

namespace EntryKey

/-- The key that a value is. A truth value counts as zero or one. -/
def ofValue? : Value → Option EntryKey
  | .null => some .absent
  | .bool b => some (.integer (if b then 1 else 0))
  | .int i => some (.integer i)
  | .float x => some (.double x)
  | .str s => some (.text s)
  | _ => none

/-- The integer that a key is equal to, if there is one. -/
def toInt? : EntryKey → Option Int
  | .integer i => some i
  | .double x => x.toInt?
  | _ => none

/-- Whether two keys are equal. Numbers are compared by their size, and the
value that is no number differs from itself. -/
def matchesKey (key other : EntryKey) : Bool :=
  key != .double .nan &&
    (key == other || (key.toInt?.isSome && key.toInt? == other.toInt?))

end EntryKey

namespace Value

/-- The parts of a value: the items of a list, the characters of a text, the
names of an object. -/
def parts? : Value → Option (List Value)
  | .list items => some items
  | .str s => some (s.toList.map fun c => .str c.toString)
  | .object fields => some (fields.map fun field => .str field.1)
  | _ => none

end Value

namespace Entries

/-- The entries with one added, or with the value of an existing one replaced
where it stands. -/
def put (key : EntryKey) (value : Value) : Entries → Entries
  | [] => [(key, value)]
  | (other, old) :: rest =>
    if other.matchesKey key then (other, value) :: rest else (other, old) :: put key value rest

/-- The entry that a pair stands for. -/
def ofPair (pair : Value) : Except EntriesFault (EntryKey × Value) :=
  match pair.parts? with
  | none => .error .noParts
  | some [key, value] =>
    match EntryKey.ofValue? key with
    | some key => .ok (key, value)
    | none => .error .unusableKey
  | some _ => .error .notPair

/-- The entries that a list of pairs stands for; the first pair at fault is the
one reported. -/
def ofPairs : List Value → Except EntriesFault Entries
  | [] => return []
  | pair :: rest => do
    let first ← ofPair pair
    return first :: (← ofPairs rest)

/-- The entries that a value other than an object stands for. -/
def ofValue (value : Value) : Except EntriesFault Entries :=
  match value.parts? with
  | none => .error .noParts
  | some pairs => (ofPairs pairs).map fun entries =>
    entries.foldl (fun known entry => put entry.1 entry.2 known) []

/-- The entries under texts, as the fields of an object. -/
def fields (entries : Entries) : Fields :=
  entries.filterMap fun
    | (.text name, value) => some (name, value)
    | _ => none

end Entries

end ModelTagging
