import ModelTagging.Command.Parse

/-!
# Merging decorators

How one decorator joins those an element carries already. Replacing leaves a
single decorator of the name, at the place of the first one there was or at
the end; appending leaves all others alone. Decorators of other names keep
their values and their order in both.
-/

namespace ModelTagging

namespace Decorator

/-- The decorators with this one in place of the first of its name, without
further ones of that name, or after all others when there is none. -/
def replaceIn (decorator : Decorator) : List Decorator → List Decorator
  | [] => [decorator]
  | present :: rest =>
    if present.name = decorator.name then
      decorator :: rest.filter (·.name ≠ decorator.name)
    else
      present :: decorator.replaceIn rest

/-- After replacing, the decorator is the only one of its name. -/
theorem filter_eq_replaceIn (decorator : Decorator) (present : List Decorator) :
    (decorator.replaceIn present).filter (·.name = decorator.name) = [decorator] := by
  induction present with
  | nil => simp [replaceIn]
  | cons other rest ih =>
    by_cases h : other.name = decorator.name
    · simp [replaceIn, h, List.filter_filter]
    · simp [replaceIn, h, ih]

/-- Replacing keeps the decorators of other names in their order. -/
theorem filter_ne_replaceIn (decorator : Decorator) (present : List Decorator) :
    (decorator.replaceIn present).filter (·.name ≠ decorator.name) =
      present.filter (·.name ≠ decorator.name) := by
  induction present with
  | nil => simp [replaceIn]
  | cons other rest ih =>
    by_cases h : other.name = decorator.name
    · simp [replaceIn, h, List.filter_filter]
    · simpa [replaceIn, h] using ih

end Decorator

namespace MergeMode

/-- The decorators of an element after one more is merged in. An element
without a collection counts as one with an empty collection. -/
def merge (mode : MergeMode) (decorator : Decorator) (present : Decorators) : List Decorator :=
  match mode with
  | .upsert => decorator.replaceIn (present.getD [])
  | .append => present.getD [] ++ [decorator]

/-- The mode that a document value names. -/
def ofValue (value : Value) : Except CommandSetError MergeMode :=
  match value with
  | .str word =>
    match ofName? word with
    | some mode => .ok mode
    | none => .error (.unknownMode value none)
  | _ => .error (.unknownMode value none)

end MergeMode

/-- The slot with one more decorator. -/
def MapSlot.decorated (slot : MapSlot) (mode : MergeMode) (decorator : Decorator) : MapSlot :=
  { slot with decorators := some (mode.merge decorator slot.decorators) }

/-- The property with one more decorator. -/
def Property.decorated (property : Property) (mode : MergeMode) (decorator : Decorator) :
    Property :=
  { property with decorators := some (mode.merge decorator property.decorators) }

/-- The declaration with one more decorator. -/
def Declaration.decorated (declaration : Declaration) (mode : MergeMode) (decorator : Decorator) :
    Declaration :=
  { declaration with decorators := some (mode.merge decorator declaration.decorators) }

end ModelTagging
