import ModelTagging.Shape.Error

/-!
# Reading values with all their errors

A reading either accepts a value or rejects it with the errors of every part
that was looked at. Two readings side by side reject with the errors of the
first and then those of the second, so nothing that is wrong hides anything
else. A rule about a whole element is tried only on an accepted one.
-/

namespace ModelTagging

/-- What reading a value comes to. -/
inductive Decoded (α : Type) where
  /-- The value has the shape and stands for this. -/
  | accepted (value : α)
  /-- The value has not the shape. -/
  | rejected (errors : List ShapeError)

namespace Decoded

variable {α β : Type}

/-- The errors of a reading; none when it accepts. -/
def errors : Decoded α → List ShapeError
  | .accepted _ => []
  | .rejected errors => errors

/-- A rejection with a single error at the value itself. -/
def fail (cause : ShapeCause) : Decoded α := .rejected [⟨[], cause⟩]

/-- Two readings side by side, the errors of the first before those of the
second. -/
def both (f : Decoded (α → β)) (x : Decoded α) : Decoded β :=
  match f, x with
  | .accepted g, .accepted a => .accepted (g a)
  | f, x => .rejected (f.errors ++ x.errors)

instance : Functor Decoded where
  map f
    | .accepted a => .accepted (f a)
    | .rejected errors => .rejected errors

instance : Applicative Decoded where
  pure := .accepted
  seq f x := f.both (x ())

/-- Reading further into an accepted value keeps its errors. -/
@[simp] theorem errors_map (f : α → β) (x : Decoded α) : (f <$> x).errors = x.errors := by
  cases x <;> rfl

/-- Side by side, no error is lost and the order is that of the readings. -/
@[simp] theorem errors_seq (f : Decoded (α → β)) (x : Decoded α) :
    (f <*> x).errors = f.errors ++ x.errors := by
  cases f <;> cases x <;> simp [Seq.seq, both, errors]

/-- The reading as seen from a value that holds the read one at a step. -/
def under (segment : Segment) : Decoded α → Decoded α
  | .accepted a => .accepted a
  | .rejected errors => .rejected (errors.map (·.under segment))

/-- A reading under a step has the same errors, one step deeper. -/
@[simp] theorem errors_under (segment : Segment) (x : Decoded α) :
    (x.under segment).errors = x.errors.map (·.under segment) := by
  cases x <;> rfl

/-- An accepted element that breaks a rule is rejected for it. -/
def checkedBy (rule : α → Option RuleViolation) : Decoded α → Decoded α
  | .accepted a =>
    match rule a with
    | some violation => fail (.rule violation)
    | none => .accepted a
  | .rejected errors => .rejected errors

/-- The reading as a result or an error list. -/
def toExcept : Decoded α → Except (List ShapeError) α
  | .accepted a => .ok a
  | .rejected errors => .error errors

end Decoded

/-- A way to read one value. -/
abbrev Reader (α : Type) := Value → Decoded α

namespace Reader

variable {α : Type}

/-- Read each item of a list, the first one at the given position. -/
def items (read : Reader α) : Nat → List Value → Decoded (List α)
  | _, [] => pure []
  | position, v :: rest =>
    (· :: ·) <$> (read v).under (.index position) <*> items read (position + 1) rest

/-- Read a list of values. -/
def list (read : Reader α) : Reader (List α)
  | .list values => items read 0 values
  | _ => .fail .notList

/-- Read a value or accept the absent one. -/
def nullable (read : Reader α) : Reader (Option α)
  | .null => pure none
  | v => some <$> read v

/-- Read the fields of an object of the named shape. -/
def object (shape : String) (read : Fields → Decoded α) : Reader α
  | .object fields => read fields
  | _ => .fail (.notObject shape)

end Reader

namespace Fields

variable {α : Type}

/-- Read a field that must be there. -/
def required (fields : Fields) (name : String) (read : Reader α) : Decoded α :=
  match fields.get? name with
  | some v => (read v).under (.key name)
  | none => (Decoded.fail .missing).under (.key name)

/-- Read a field that may be left out, in favour of a default. -/
def defaulted (fields : Fields) (name : String) (read : Reader α) (default : α) : Decoded α :=
  match fields.get? name with
  | some v => (read v).under (.key name)
  | none => pure default

/-- Read a field that may be left out or absent. -/
def optional (fields : Fields) (name : String) (read : Reader α) : Decoded (Option α) :=
  fields.defaulted name read.nullable none

/-- Reject every field whose name is not a known one. -/
def closed (known : List String) : Fields → Decoded Unit
  | [] => pure ()
  | (name, _) :: rest =>
    if known.contains name then closed known rest
    else (fun _ rest => rest) <$> ((Decoded.fail .unknownKey : Decoded Unit).under (.key name)) <*>
      closed known rest

/-- Fields of known names only are let through. -/
theorem closed_eq_accepted {known : List String} {fields : Fields}
    (h : ∀ field ∈ fields, field.1 ∈ known) : closed known fields = .accepted () := by
  induction fields with
  | nil => rfl
  | cons field rest ih =>
    obtain ⟨name, v⟩ := field
    have hname : known.contains name = true := by
      simpa using h (name, v) (by simp)
    rw [closed, if_pos hname]
    exact ih fun field hf => h field (by simp [hf])

end Fields

namespace Entries

/-- Reject every entry whose key is not a known name. -/
def closed (known : List String) : Entries → Decoded Unit
  | [] => pure ()
  | (key, _) :: rest =>
    match key with
    | .text name =>
      if known.contains name then closed known rest
      else (fun _ rest => rest) <$>
        ((Decoded.fail .unknownKey : Decoded Unit).under (.key name)) <*> closed known rest
    | key => (fun _ rest => rest) <$>
        ((Decoded.fail .keyNotText : Decoded Unit).under (Segment.ofKey key)) <*>
        closed known rest

end Entries

end ModelTagging
