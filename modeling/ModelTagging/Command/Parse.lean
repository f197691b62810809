import ModelTagging.Command.Basic
import ModelTagging.Registry.Resolve

/-!
# Parsing command set documents

A document becomes a command set or an error. Among the shape errors of a
document the first command with a mode of no known name stands out, wherever
else the document is wrong; all other shape errors are reported together.
-/

namespace ModelTagging

/-- Why a document is no usable command set. -/
inductive CommandSetError where
  /-- The document is not an object but of the named kind. -/
  | notMapping (kindName : String)
  /-- A mode of no known name, with the position of its command if it stands in
  a document. -/
  | unknownMode (mode : Value) (position : Option Nat)
  /-- The document has not the shape of a command set. -/
  | shape (errors : List ShapeError)
  /-- A decorator refers to a type that is not defined. -/
  | unresolvedType (unknown : UnknownType)

namespace CommandSetError

/-- The words before the details of an unusable command set. -/
def subject : String := "Invalid decorator command set"

/-- The wording of a command set error. A list of shape errors is announced by
its headline only. -/
def message : CommandSetError → String
  | .notMapping kindName => "Decorator command set must be a mapping, got " ++ kindName
  | .unknownMode mode position =>
    "Unknown command type " ++ mode.literal ++
      (match position with
        | some i => " (command " ++ toString i ++ ")"
        | none => "")
  | .shape errors => ShapeError.headline subject CommandSet.shapeName errors
  | .unresolvedType unknown => subject ++ ": " ++ unknown.message

end CommandSetError

/-- The position and the given value of a command's mode, if that is what a
shape error is about. -/
def ShapeError.commandMode? : ShapeError → Option (Nat × Value)
  | ⟨[.key "commands", .index position, .key "type"], .notOneOf _ given⟩ => some (position, given)
  | _ => none

namespace CommandSet

/-- The error that a list of shape errors comes to. -/
def errorOf (errors : List ShapeError) : CommandSetError :=
  match errors.findSome? ShapeError.commandMode? with
  | some (position, mode) => .unknownMode mode (some position)
  | none => .shape errors

/-- Parse a document. -/
def parse : Value → Except CommandSetError CommandSet
  | .object fields =>
    match CommandSet.read (.object fields) with
    | .accepted set => .ok set
    | .rejected errors => .error (errorOf errors)
  | v => .error (.notMapping v.kindName)

end CommandSet

/-- What a command set is taken from. -/
inductive CommandSource where
  /-- A document still to be parsed. -/
  | document (value : Value)
  /-- A command set that was parsed before. -/
  | parsed (set : CommandSet)

/-- The command set of a source; a parsed one is taken as it is. -/
def CommandSource.set : CommandSource → Except CommandSetError CommandSet
  | .document value => CommandSet.parse value
  | .parsed set => .ok set

end ModelTagging
