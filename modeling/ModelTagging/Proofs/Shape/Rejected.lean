import ModelTagging.Proofs.Shape.Accepted

/-!
# What a rejecting reading says

A reading that rejects a value gives at least one error for it, and an error of a
field lies below the name of the field. Both are kept by every combinator, so they
hold of the shapes put together from them. Nothing is said here about how many
errors there are, or about which part of a value is to blame.
-/

namespace ModelTagging

namespace Decoded

variable {α β : Type}

/-- A rejection comes with an error. -/
def Explained (x : Decoded α) : Prop := ∀ errors, x = .rejected errors → errors ≠ []

/-- An accepted value needs no error. -/
@[simp] theorem explained_accepted (a : α) : (accepted a).Explained :=
  fun _ h => nomatch h

/-- The same for one that is accepted without looking. -/
@[simp] theorem explained_pure (a : α) : (pure a : Decoded α).Explained := explained_accepted a

/-- A rejection for a cause names it. -/
@[simp] theorem explained_fail (cause : ShapeCause) : (fail cause : Decoded α).Explained := by
  intro errors h
  cases h
  exact List.cons_ne_nil _ _

/-- Reading further into a value keeps its errors. -/
theorem Explained.map {x : Decoded α} (h : x.Explained) (f : α → β) : (f <$> x).Explained := by
  intro errors herrors
  have heq : errors = x.errors := by
    rw [← errors_map f x, herrors]
    rfl
  rw [heq]
  cases x with
  | accepted a => exact nomatch herrors
  | rejected found => exact h found rfl

/-- Side by side, a rejection by either of two readings has its errors. -/
theorem Explained.seq {f : Decoded (α → β)} {x : Decoded α} (hf : f.Explained)
    (hx : x.Explained) : (f <*> x).Explained := by
  intro errors herrors
  have heq : errors = f.errors ++ x.errors := by
    rw [← errors_seq, herrors]
    rfl
  rw [heq]
  cases f with
  | rejected found => exact List.append_ne_nil_of_left_ne_nil (hf found rfl) _
  | accepted g =>
    cases x with
    | rejected found => exact List.append_ne_nil_of_right_ne_nil _ (hx found rfl)
    | accepted a => exact nomatch herrors

/-- Seen from a step above there are as many errors. -/
theorem Explained.under {x : Decoded α} (h : x.Explained) (segment : Segment) :
    (x.under segment).Explained := by
  intro errors herrors
  cases x with
  | accepted a => exact nomatch herrors
  | rejected found =>
    cases herrors
    simpa using h found rfl

/-- All errors lie below the field of this name. -/
def Below (x : Decoded α) (name : String) : Prop :=
  ∀ error ∈ x.errors, ∃ inner : ShapeError, error = inner.under (.key name)

/-- A reading that is seen from a step above has its errors below that step. -/
theorem below_under (x : Decoded α) (name : String) : (x.under (.key name)).Below name := by
  intro error h
  rw [errors_under] at h
  obtain ⟨inner, -, rfl⟩ := List.mem_map.1 h
  exact ⟨inner, rfl⟩

/-- What is looked for among errors below a field is not found if no error there is
it. -/
theorem Below.findSome?_errors {x : Decoded α} {name : String} (h : x.Below name)
    {f : ShapeError → Option β} (hf : ∀ inner : ShapeError, f (inner.under (.key name)) = none) :
    x.errors.findSome? f = none := by
  rw [List.findSome?_eq_none_iff]
  intro error herror
  obtain ⟨inner, rfl⟩ := h error herror
  exact hf inner

end Decoded

namespace Reader

variable {α : Type} {read : Reader α}

/-- What is no number is wrong as an integer and as a double. -/
@[simp] theorem explained_neitherNumber (asInteger asDouble : ShapeCause) :
    (neitherNumber asInteger asDouble : Decoded α).Explained := by
  intro errors h
  cases h
  exact List.cons_ne_nil _ _

/-- A list is rejected with the errors of its items. -/
theorem explained_items (h : ∀ v, (read v).Explained) (position : Nat) (values : List Value) :
    (items read position values).Explained := by
  induction values generalizing position with
  | nil => exact Decoded.explained_pure []
  | cons v rest ih => exact (((h v).under _).map _).seq (ih (position + 1))

end Reader

namespace Fields

variable {α : Type} {fields : Fields} {name : String} {read : Reader α}

/-- An unknown field is named. -/
theorem explained_closed (known : List String) (fields : Fields) :
    (fields.closed known).Explained := by
  induction fields with
  | nil => exact Decoded.explained_pure ()
  | cons field rest ih =>
    rw [closed]
    split
    · exact ih
    · exact (((Decoded.explained_fail _).under _).map _).seq ih

/-- The errors of a field that must be there lie below its name. -/
theorem below_required : (fields.required name read).Below name := by
  unfold required
  split <;> exact Decoded.below_under _ _

/-- So do those of a field that may be left out. -/
theorem below_defaulted (default : α) : (fields.defaulted name read default).Below name := by
  unfold defaulted
  split
  · exact Decoded.below_under _ _
  · exact fun error h => nomatch h

/-- So do those of a field that may be absent. -/
theorem below_optional : (fields.optional name read).Below name := below_defaulted none

/-- Each field of unknown name has one error. -/
theorem errors_closed (known : List String) (fields : Fields) :
    (fields.closed known).errors =
      ((fields.map Prod.fst).filter (· ∉ known)).map fun name => ⟨[.key name], .unknownKey⟩ := by
  induction fields with
  | nil => rfl
  | cons field rest ih =>
    by_cases hknown : field.1 ∈ known
    · simp [closed, hknown, ih]
    · rw [closed, if_neg (by simpa using hknown), Decoded.errors_seq, Decoded.errors_map,
        Decoded.errors_under, ih, List.map_cons, List.filter_cons_of_pos (by simpa using hknown)]
      rfl

/-- What is looked for among the errors of unknown fields is not found if such an
error is none of it. -/
theorem findSome?_errors_closed {β : Type} {known : List String} {fields : Fields}
    {f : ShapeError → Option β} (h : ∀ name, f ⟨[.key name], .unknownKey⟩ = none) :
    (fields.closed known).errors.findSome? f = none := by
  rw [errors_closed, List.findSome?_eq_none_iff, List.forall_mem_map]
  exact fun name _ => h name

end Fields

end ModelTagging
