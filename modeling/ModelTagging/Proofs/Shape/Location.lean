import Mathlib.Data.List.Pairwise
import ModelTagging.Proofs.Shape.Accepted

/-!
# Where errors lie

A path leads from a value to a part of it, and from the form of the value to the form
of that part: which fields an object declares, what a list holds, which alternatives a
union has. An error is placed in a value of a form if its path leads to a part, with
one exception, the field that is missing. The last definition gathers what a list of
shape errors tells of the value it rejects: nothing is reported twice, and nothing
inside a part that is itself reported.
-/

namespace ModelTagging

/-! ## Parts of a value -/

namespace Value

/-- The part one step further. An alternative of a union is the value itself. -/
def step? : Value → Segment → Option Value
  | .object fields, .key name => Fields.get? fields name
  | .list items, .index position => items[position]?
  | v, .branch _ => some v
  | _, _ => none

/-- The part at the end of a path. -/
def at? (v : Value) (path : List Segment) : Option Value := path.foldlM step? v

/-- The empty path ends at the value. -/
@[simp] theorem at?_nil (v : Value) : v.at? [] = some v := rfl

/-- A longer path goes on from the part one step further. -/
@[simp] theorem at?_cons (v : Value) (segment : Segment) (path : List Segment) :
    v.at? (segment :: path) = (v.step? segment).bind (·.at? path) := by
  simp only [at?, List.foldlM_cons, Option.bind_eq_bind]

/-- No object within the value has two fields of one name, as none has in a document. -/
inductive DistinctKeys : Value → Prop
  | null : DistinctKeys .null
  | bool (b : Bool) : DistinctKeys (.bool b)
  | int (i : Int) : DistinctKeys (.int i)
  | float (x : Binary64) : DistinctKeys (.float x)
  | str (s : String) : DistinctKeys (.str s)
  | list {items : List Value} (h : ∀ v ∈ items, DistinctKeys v) : DistinctKeys (.list items)
  | object {fields : Fields} (hnames : (fields.map Prod.fst).Nodup)
      (h : ∀ field ∈ fields, DistinctKeys field.2) : DistinctKeys (.object fields)

attribute [simp] DistinctKeys.null DistinctKeys.bool DistinctKeys.int DistinctKeys.float
  DistinctKeys.str

namespace DistinctKeys

/-- A list is such a value if all its items are. -/
@[simp] theorem list_iff {items : List Value} :
    (Value.list items).DistinctKeys ↔ ∀ v ∈ items, v.DistinctKeys := by
  constructor
  · intro h
    cases h with
    | list hitems => exact hitems
  · exact DistinctKeys.list

/-- An object is such a value if its names are distinct and all its fields hold such
values. -/
@[simp] theorem object_iff {fields : Fields} : (Value.object fields).DistinctKeys ↔
    (fields.map Prod.fst).Nodup ∧ ∀ field ∈ fields, field.2.DistinctKeys := by
  constructor
  · intro h
    cases h with
    | object hnames hfields => exact ⟨hnames, hfields⟩
  · exact fun h => .object h.1 h.2

/-- So is each part of such a value. -/
theorem step {v part : Value} {segment : Segment} (h : v.DistinctKeys)
    (hstep : v.step? segment = some part) : part.DistinctKeys := by
  cases segment with
  | branch name =>
    cases v <;> exact Option.some.inj hstep ▸ h
  | key name =>
    cases v with
    | object fields =>
      obtain ⟨before, after, hfields, -⟩ := List.lookup_eq_some_iff.1 hstep
      exact (object_iff.1 h).2 (name, part) (by simp [hfields])
    | _ => exact nomatch hstep
  | index position =>
    cases v with
    | list items => exact list_iff.1 h part (List.mem_of_getElem? hstep)
    | _ => exact nomatch hstep
  | integer key => cases v <;> exact nomatch hstep

end DistinctKeys

end Value

/-! ## Forms -/

/-- The parts a shape lets a value have. -/
inductive Form where
  /-- None. -/
  | single
  /-- The items of a list. -/
  | list (item : Form)
  /-- The fields of an object, each with its name. -/
  | object (declared : List (String × Form))
  /-- The value as one of some named alternatives. -/
  | union (alternatives : List (String × Form))

namespace Form

/-- The form of the part one step further. -/
def step? : Form → Segment → Option Form
  | .list item, .index _ => some item
  | .object declared, .key name => declared.lookup name
  | .union alternatives, .branch name => alternatives.lookup name
  | _, _ => none

/-- The fields that an object of the form declares; none for another form. -/
def fields : Form → List (String × Form)
  | .object declared => declared
  | _ => []

/-- The form of the part at the end of a path. -/
def at? (form : Form) (path : List Segment) : Option Form := path.foldlM step? form

/-- A longer path goes on from the form one step further. -/
@[simp] theorem at?_cons (form : Form) (segment : Segment) (path : List Segment) :
    form.at? (segment :: path) = (form.step? segment).bind (·.at? path) := by
  simp only [at?, List.foldlM_cons, Option.bind_eq_bind]

end Form

/-! ## Places of errors -/

/-- A step as it is shown. Fields and alternatives are shown by their names, positions
and integer keys as numbers. -/
def Segment.shown : Segment → String ⊕ Int
  | .key name | .branch name => .inl name
  | .index position => .inr position
  | .integer i => .inr i

namespace ShapeError

/-- The path of an error as it is shown. -/
def location (error : ShapeError) : List (String ⊕ Int) := error.path.map Segment.shown

/-- Neither error is shown at the place of the other or below it. -/
def Apart (a b : ShapeError) : Prop := ¬a.location <+: b.location ∧ ¬b.location <+: a.location

instance : Std.Symm Apart := ⟨fun _ _ h => ⟨h.2, h.1⟩⟩

/-- Errors are as far apart when both are seen from a step above. -/
theorem Apart.under {a b : ShapeError} (h : a.Apart b) (segment : Segment) :
    (a.under segment).Apart (b.under segment) := by
  simpa [Apart, location, ShapeError.under, List.cons_prefix_cons] using h

/-- Errors below different steps are apart. -/
theorem apart_under_under {segment other : Segment} (h : segment.shown ≠ other.shown)
    (a b : ShapeError) : (a.under segment).Apart (b.under other) := by
  simp [Apart, location, ShapeError.under, List.cons_prefix_cons, h, h.symm]

/-- The error lies in a value of this form. -/
inductive PlacedIn (form : Form) (v : Value) : ShapeError → Prop
  /-- At a part that the form has. -/
  | there {path : List Segment} {cause : ShapeCause} {part : Value} {sub : Form}
      (hpart : v.at? path = some part) (hform : form.at? path = some sub)
      (hmissing : cause ≠ .missing) (hunknown : cause ≠ .unknownKey) :
      PlacedIn form v ⟨path, cause⟩
  /-- At a field that its object does not declare. -/
  | unknown {path : List Segment} {name : String} {part : Value}
      {declared : List (String × Form)}
      (hpart : v.at? (path ++ [.key name]) = some part)
      (hform : form.at? path = some (.object declared)) (hname : declared.lookup name = none) :
      PlacedIn form v ⟨path ++ [.key name], .unknownKey⟩
  /-- At a field that its object declares and does not have. -/
  | missing {path : List Segment} {name : String} {fields : Fields}
      {declared : List (String × Form)} {sub : Form}
      (hobject : v.at? path = some (.object fields)) (habsent : fields.get? name = none)
      (hform : form.at? path = some (.object declared))
      (hname : declared.lookup name = some sub) :
      PlacedIn form v ⟨path ++ [.key name], .missing⟩

/-- A declared field that is not there is an error of the object. -/
theorem PlacedIn.ownMissing {declared : List (String × Form)} {fields : Fields} {name : String}
    {sub : Form} (habsent : fields.get? name = none) (hname : declared.lookup name = some sub) :
    PlacedIn (.object declared) (.object fields) ⟨[.key name], .missing⟩ := by
  change PlacedIn _ _ ⟨[] ++ [.key name], .missing⟩
  exact .missing rfl habsent rfl hname

/-- A field that is there and not declared is an error of the object. -/
theorem PlacedIn.ownUnknown {declared : List (String × Form)} {fields : Fields} {name : String}
    {part : Value} (hpart : fields.get? name = some part) (hname : declared.lookup name = none) :
    PlacedIn (.object declared) (.object fields) ⟨[.key name], .unknownKey⟩ := by
  have hend : (Value.object fields).at? [.key name] = some part := by
    simpa [Value.step?] using hpart
  change PlacedIn _ _ ⟨[] ++ [.key name], .unknownKey⟩
  exact .unknown hend rfl hname

/-- An error of a part lies in the value that holds the part. -/
theorem PlacedIn.under {form sub : Form} {v part : Value} {segment : Segment}
    {error : ShapeError} (h : error.PlacedIn sub part) (hpart : v.step? segment = some part)
    (hform : form.step? segment = some sub) : (error.under segment).PlacedIn form v := by
  have hvalue (path : List Segment) : v.at? (segment :: path) = part.at? path := by
    rw [Value.at?_cons, hpart, Option.bind_some]
  have hforms (path : List Segment) : form.at? (segment :: path) = sub.at? path := by
    rw [Form.at?_cons, hform, Option.bind_some]
  -- in the last two cases the path is cut at its end, so the step goes in front of the cut
  cases h with
  | there hinner hinnerForm hmissing hunknown =>
    exact .there ((hvalue _).trans hinner) ((hforms _).trans hinnerForm) hmissing hunknown
  | @unknown path name _ _ hinner hinnerForm hname =>
    change PlacedIn form v ⟨(segment :: path) ++ [.key name], .unknownKey⟩
    exact .unknown ((hvalue _).trans hinner) ((hforms _).trans hinnerForm) hname
  | @missing path name _ _ _ hobject habsent hinnerForm hname =>
    change PlacedIn form v ⟨(segment :: path) ++ [.key name], .missing⟩
    exact .missing ((hvalue _).trans hobject) habsent ((hforms _).trans hinnerForm) hname

/-- What a list of errors tells of a rejected value of this form. -/
structure Report (form : Form) (v : Value) (errors : List ShapeError) : Prop where
  /-- There is an error. -/
  nonempty : errors ≠ []
  /-- No error is shown at the place of another one or below it. -/
  apart : errors.Pairwise Apart
  /-- Every error lies in the value. -/
  placed : ∀ error ∈ errors, error.PlacedIn form v
  /-- A broken rule is the only error of the element that breaks it. -/
  alone : ∀ error ∈ errors, ∀ violation, error.cause = .rule violation →
    ∀ other ∈ errors, error.location <+: other.location → other = error

/-- Among errors that are apart, one that is shown at the place of another or below it
is the other. -/
theorem eq_of_pairwise_apart {errors : List ShapeError} {a b : ShapeError}
    (h : errors.Pairwise Apart) (ha : a ∈ errors) (hb : b ∈ errors)
    (hlocation : a.location <+: b.location) : b = a := by
  by_contra hne
  exact (h.forall ha hb (Ne.symm hne)).1 hlocation

end ShapeError

end ModelTagging
