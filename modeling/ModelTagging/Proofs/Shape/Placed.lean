import ModelTagging.Proofs.Shape.Location
import ModelTagging.Proofs.Shape.Rejected

/-!
# Readings place their errors

A reading is placed in a value of a form if a rejection has errors, if they are apart,
and if each lies in the value. Every combinator keeps this, given that the fields of an
object are read under different names that its form declares: the errors of a field lie
below its name, those of the fields that nobody declares lie below theirs, and a rule is
tried only where there is no other error.

Only an object with two unknown fields of one name would have an error reported twice,
so the errors are apart for values in which the names of each object are distinct.
-/

namespace ModelTagging

open ShapeError (Apart PlacedIn)

namespace Decoded

variable {α β : Type} {form : Form} {v : Value}

/-- The errors of a reading are there and are apart, and each lies in the value. -/
structure Placed (x : Decoded α) (form : Form) (v : Value) : Prop where
  /-- A rejection has an error. -/
  explained : x.Explained
  /-- No error is shown at the place of another one or below it. -/
  apart : v.DistinctKeys → x.errors.Pairwise Apart
  /-- Every error lies in the value. -/
  placed : ∀ error ∈ x.errors, error.PlacedIn form v

/-- What is accepted without looking has no errors. -/
@[simp] theorem placed_pure (a : α) : (pure a : Decoded α).Placed form v :=
  ⟨explained_pure a, fun _ => .nil, fun _ h => nomatch h⟩

/-- The value itself is to blame for a cause other than a wrong set of fields. -/
@[simp] theorem placed_fail {cause : ShapeCause} (hmissing : cause ≠ .missing)
    (hunknown : cause ≠ .unknownKey) : (fail cause : Decoded α).Placed form v where
  explained := explained_fail cause
  apart _ := List.pairwise_singleton _ _
  placed error h := by
    obtain rfl := List.mem_singleton.1 h
    exact .there rfl rfl hmissing hunknown

/-- Reading further into a value does not move errors. -/
theorem Placed.map {x : Decoded α} (h : x.Placed form v) (f : α → β) :
    (f <$> x).Placed form v where
  explained := h.explained.map f
  apart hkeys := by
    rw [errors_map]
    exact h.apart hkeys
  placed := by
    rw [errors_map]
    exact h.placed

/-- The errors of a part are placed in the value that holds it. -/
theorem Placed.under {x : Decoded α} {part : Value} {sub : Form} {segment : Segment}
    (h : x.Placed sub part) (hpart : v.step? segment = some part)
    (hform : form.step? segment = some sub) : (x.under segment).Placed form v where
  explained := h.explained.under segment
  apart hkeys := by
    rw [errors_under, List.pairwise_map]
    exact (h.apart (hkeys.step hpart)).imp fun hab => hab.under segment
  placed := by
    rw [errors_under, List.forall_mem_map]
    exact fun error herror => (h.placed error herror).under hpart hform

/-- A rule is tried where there is no error, so its own is the only one. -/
theorem Placed.checkedBy {x : Decoded α} (h : x.Placed form v) (rule : α → Option RuleViolation) :
    (x.checkedBy rule).Placed form v := by
  cases x with
  | rejected errors => exact h
  | accepted a =>
    cases hrule : rule a with
    | none =>
      rw [Decoded.checkedBy, hrule]
      exact placed_pure a
    | some violation =>
      rw [Decoded.checkedBy, hrule]
      exact placed_fail ShapeCause.noConfusion ShapeCause.noConfusion

/-- A rejection reports what the reading has placed. -/
theorem Placed.report {x : Decoded α} {errors : List ShapeError} (h : x.Placed form v)
    (hkeys : v.DistinctKeys) (hx : x = .rejected errors) : ShapeError.Report form v errors := by
  subst hx
  have hapart : errors.Pairwise Apart := h.apart hkeys
  refine ⟨h.explained errors rfl, hapart, h.placed, ?_⟩
  intro error herror _ _ other hother hlocation
  exact ShapeError.eq_of_pairwise_apart hapart herror hother hlocation

/-! ## Fields of an object -/

variable {declared : List (String × Form)} {fields : Fields} {names others : List String}

/-- The errors are placed in an object, each of them below one of the names. -/
structure PlacedBelow (x : Decoded α) (declared : List (String × Form)) (fields : Fields)
    (names : List String) : Prop extends x.Placed (.object declared) (.object fields) where
  /-- Every error lies below a field. -/
  below : ∀ error ∈ x.errors, ∃ name ∈ names, ∃ inner : ShapeError,
    error = inner.under (.key name)

/-- Errors that are placed in an object and lie below one field. -/
theorem Placed.placedBelow {x : Decoded α} {name : String}
    (h : x.Placed (.object declared) (.object fields)) (hbelow : x.Below name) :
    x.PlacedBelow declared fields [name] :=
  ⟨h, fun error herror => ⟨name, List.mem_singleton_self name, hbelow error herror⟩⟩

/-- Reading further into an object does not move errors. -/
theorem PlacedBelow.map {x : Decoded α} (h : x.PlacedBelow declared fields names) (f : α → β) :
    (f <$> x).PlacedBelow declared fields names where
  toPlaced := h.toPlaced.map f
  below := by
    rw [errors_map]
    exact h.below

/-- Fields of different names are read side by side, each with its own errors. -/
theorem PlacedBelow.seq {f : Decoded (α → β)} {x : Decoded α}
    (hf : f.PlacedBelow declared fields names) (hx : x.PlacedBelow declared fields others)
    (hnames : ∀ name ∈ names, name ∉ others := by decide) :
    (f <*> x).PlacedBelow declared fields (names ++ others) where
  explained := hf.explained.seq hx.explained
  apart hkeys := by
    rw [errors_seq, List.pairwise_append]
    refine ⟨hf.apart hkeys, hx.apart hkeys, ?_⟩
    -- an error of either reading is seen below a name that the other one does not touch
    intro a ha b hb
    obtain ⟨name, hname, inner, rfl⟩ := hf.below a ha
    obtain ⟨other, hother, outer, rfl⟩ := hx.below b hb
    refine ShapeError.apart_under_under ?_ inner outer
    intro hshown
    obtain rfl : name = other := Sum.inl.inj hshown
    exact hnames name hname hother
  placed := by
    rw [errors_seq, List.forall_mem_append]
    exact ⟨hf.placed, hx.placed⟩
  below error herror := by
    rw [errors_seq] at herror
    rcases List.mem_append.1 herror with h | h
    · obtain ⟨name, hname, hinner⟩ := hf.below error h
      exact ⟨name, List.mem_append_left _ hname, hinner⟩
    · obtain ⟨name, hname, hinner⟩ := hx.below error h
      exact ⟨name, List.mem_append_right _ hname, hinner⟩

end Decoded

/-! ## Values -/

namespace Reader

variable {α : Type} {form : Form} {declared : List (String × Form)} {read : Reader α}

/-- The reading places its errors in every value, as one of this form. -/
def Places (read : Reader α) (form : Form) : Prop := ∀ v, (read v).Placed form v

/-- Texts. -/
theorem text_places : text.Places form := by
  intro v
  cases v <;> simp [text]

/-- Texts with a character. -/
theorem nonEmptyText_places : nonEmptyText.Places form := by
  intro v
  cases v with
  | str s =>
    simp only [nonEmptyText]
    split <;> simp
  | _ => simp [nonEmptyText]

/-- Truth values. -/
theorem boolean_places : boolean.Places form := by
  intro v
  cases v with
  | str s =>
    simp only [boolean]
    split <;> simp
  | int i =>
    simp only [boolean]
    split
    · simp
    · split <;> simp
  | float x =>
    simp only [boolean]
    split
    · split
      · simp
      · split <;> simp
    · simp
  | _ => simp [boolean]

/-- Words. -/
theorem oneOf_places (choices : List String) (parse : String → Option α) :
    (oneOf choices parse).Places form := by
  intro v
  cases v with
  | str s =>
    simp only [oneOf]
    split <;> simp
  | _ => simp [oneOf]

/-- The items of a list are placed at their positions. -/
theorem exists_of_mem_items {position : Nat} {values : List Value} {error : ShapeError}
    (h : error ∈ (items read position values).errors) : ∃ i v, values[i]? = some v ∧
      ∃ inner ∈ (read v).errors, error = inner.under (.index (position + i)) := by
  induction values generalizing position with
  | nil => exact nomatch h
  | cons v rest ih =>
    rw [items, Decoded.errors_seq, Decoded.errors_map, Decoded.errors_under] at h
    rcases List.mem_append.1 h with hfirst | hrest
    · obtain ⟨inner, hinner, rfl⟩ := List.mem_map.1 hfirst
      exact ⟨0, v, rfl, inner, hinner, rfl⟩
    · obtain ⟨i, w, hw, inner, hinner, rfl⟩ := ih hrest
      exact ⟨i + 1, w, hw, inner, hinner, by rw [Nat.add_assoc, Nat.add_comm 1]⟩

/-- The errors of different items lie below different positions. -/
theorem pairwise_items {position : Nat} {values : List Value}
    (h : ∀ v ∈ values, (read v).errors.Pairwise Apart) :
    (items read position values).errors.Pairwise Apart := by
  induction values generalizing position with
  | nil => exact .nil
  | cons v rest ih =>
    obtain ⟨hv, hrest⟩ := List.forall_mem_cons.1 h
    rw [items, Decoded.errors_seq, Decoded.errors_map, Decoded.errors_under,
      List.pairwise_append, List.pairwise_map]
    refine ⟨hv.imp fun hab => hab.under _, ih hrest, ?_⟩
    -- the first item stands at the position, and all the others behind it
    intro a ha b hb
    obtain ⟨inner, -, rfl⟩ := List.mem_map.1 ha
    obtain ⟨i, _, -, outer, -, rfl⟩ := exists_of_mem_items hb
    refine ShapeError.apart_under_under ?_ inner outer
    intro hshown
    have hposition : (position : Int) = (position + 1 + i : Nat) := Sum.inr.inj hshown
    omega

/-- Lists. -/
theorem Places.list (h : read.Places form) : (Reader.list read).Places (.list form) := by
  intro v
  cases v with
  | list values =>
    refine ⟨explained_items (fun v => (h v).explained) 0 values, fun hkeys => ?_,
      fun error herror => ?_⟩
    · exact pairwise_items fun v hv => (h v).apart (Value.DistinctKeys.list_iff.1 hkeys v hv)
    · obtain ⟨i, v, hv, inner, hinner, rfl⟩ := exists_of_mem_items herror
      rw [Nat.zero_add]
      exact ((h v).placed inner hinner).under hv rfl
  | _ => simp [Reader.list]

/-- Values that may be absent. -/
theorem Places.nullable (h : read.Places form) : (Reader.nullable read).Places form := by
  intro v
  cases v with
  | null => exact Decoded.placed_pure none
  | _ => exact (h _).map _

/-- Objects. -/
theorem places_object {shape : String} {read : Fields → Decoded α}
    (h : ∀ fields, (read fields).Placed (.object declared) (.object fields)) :
    (object shape read).Places (.object declared) := by
  intro v
  cases v with
  | object fields => exact h fields
  | _ => simp [object]

end Reader

/-- The form of a number, which is an integer or a double. -/
def Number.form : Form := .union [("int", .single), ("float", .single)]

/-- What is no number is wrong as both alternatives. -/
@[simp] theorem Reader.placed_neitherNumber {asInteger asDouble : ShapeCause} {v : Value}
    (hinteger : asInteger ≠ .missing ∧ asInteger ≠ .unknownKey)
    (hdouble : asDouble ≠ .missing ∧ asDouble ≠ .unknownKey) :
    (neitherNumber asInteger asDouble : Decoded Number).Placed Number.form v := by
  have hplaced {name : String} {cause : ShapeCause} (hname : name = "int" ∨ name = "float")
      (hcause : cause ≠ .missing ∧ cause ≠ .unknownKey) :
      PlacedIn Number.form v ⟨[.branch name], cause⟩ := by
    have hinner : PlacedIn .single v ⟨[], cause⟩ := .there rfl rfl hcause.1 hcause.2
    refine hinner.under (by cases v <;> rfl) ?_
    rcases hname with rfl | rfl <;> rfl
  refine ⟨explained_neitherNumber asInteger asDouble, fun _ => ?_, ?_⟩
  · simp [neitherNumber, Decoded.errors, Apart, ShapeError.location, Segment.shown]
  · simp [neitherNumber, Decoded.errors, hplaced, hinteger, hdouble]

/-- Numbers. -/
theorem Reader.number_places : number.Places Number.form := by
  intro v
  cases v with
  | str s =>
    simp only [number, numberOfText]
    split
    · exact Decoded.placed_pure _
    · exact Decoded.placed_pure _
    · exact placed_neitherNumber (by constructor <;> split <;> simp) (by simp)
    · exact placed_neitherNumber (by constructor <;> split <;> simp) (by simp)
  | float x => cases x <;> simp [number]
  | _ => simp [number]

namespace Fields

variable {α : Type} {declared : List (String × Form)} {fields : Fields} {name : String}
  {read : Reader α} {sub : Form}

/-- The errors of a field that must be there lie below its name. One that is not there
is an error of the object. -/
theorem placedBelow_required (h : read.Places sub)
    (hname : declared.lookup name = some sub := by rfl) :
    (fields.required name read).PlacedBelow declared fields [name] := by
  refine Decoded.Placed.placedBelow ?_ below_required
  unfold required
  split
  · next v hv => exact (h v).under hv hname
  · next hnone =>
    refine ⟨(Decoded.explained_fail _).under _, fun _ => List.pairwise_singleton _ _, ?_⟩
    intro error herror
    obtain rfl := List.mem_singleton.1 herror
    exact .ownMissing hnone hname

/-- So do the errors of a field that may be left out. -/
theorem placedBelow_defaulted (h : read.Places sub) (default : α)
    (hname : declared.lookup name = some sub := by rfl) :
    (fields.defaulted name read default).PlacedBelow declared fields [name] := by
  refine Decoded.Placed.placedBelow ?_ (below_defaulted default)
  unfold defaulted
  split
  · next v hv => exact (h v).under hv hname
  · exact Decoded.placed_pure default

/-- So do the errors of a field that may be absent. -/
theorem placedBelow_optional (h : read.Places sub)
    (hname : declared.lookup name = some sub := by rfl) :
    (fields.optional name read).PlacedBelow declared fields [name] :=
  placedBelow_defaulted h.nullable none hname

/-- The fields of unknown name in an object of distinct names are errors that are apart. -/
theorem placedBelow_closed (declared : List (String × Form)) (fields : Fields) :
    (fields.closed (declared.map Prod.fst)).PlacedBelow declared fields
      ((fields.map Prod.fst).filter (· ∉ declared.map Prod.fst)) where
  explained := explained_closed _ fields
  apart hkeys := by
    obtain ⟨hnames, -⟩ := Value.DistinctKeys.object_iff.1 hkeys
    rw [errors_closed, List.pairwise_map]
    refine (hnames.filter _).imp fun {name other} hne => ?_
    simpa [Apart, ShapeError.location, Segment.shown] using ⟨hne, Ne.symm hne⟩
  placed := by
    rw [errors_closed, List.forall_mem_map]
    intro name hname
    obtain ⟨hfield, hunknown⟩ := List.mem_filter.1 hname
    obtain ⟨part, hpart⟩ : ∃ part, fields.get? name = some part := by
      rw [← Option.isSome_iff_exists, get?, List.lookup_isSome_iff]
      simpa using hfield
    have hlookup : declared.lookup name = none := by
      rw [List.lookup_eq_none_iff]
      intro field hmem
      have hne : name ≠ field.1 := by
        rintro rfl
        exact of_decide_eq_true hunknown (List.mem_map_of_mem hmem)
      simpa using hne
    exact .ownUnknown hpart hlookup
  below error herror := by
    rw [errors_closed] at herror
    obtain ⟨name, hname, rfl⟩ := List.mem_map.1 herror
    exact ⟨name, hname, ⟨[], .unknownKey⟩, rfl⟩

end Fields

/-- An object that is read field by field, under declared names, and has no further
fields has all its errors placed. -/
theorem Decoded.PlacedBelow.closed {β : Type} {declared : List (String × Form)}
    {fields : Fields} {names known : List String} {f : Decoded (Unit → β)}
    (h : f.PlacedBelow declared fields names) (hknown : declared.map Prod.fst = known := by rfl)
    (hnames : ∀ name ∈ names, name ∈ known := by decide) :
    (f <*> fields.closed known).Placed (.object declared) (.object fields) := by
  subst hknown
  refine (h.seq (Fields.placedBelow_closed declared fields) ?_).toPlaced
  intro name hname hunknown
  exact of_decide_eq_true (List.mem_filter.1 hunknown).2 (hnames name hname)

end ModelTagging
