import ModelTagging.Document.Value
import ModelTagging.Proofs.Shape.Accepted

/-!
# Reading back what was written

A reading restores what a writing makes of the elements with some property.
The combinators of readings carry this from parts to wholes, whether absent
fields are written or left out: a field that may be absent is looked up with
none as its default, and no other field is ever written as the absent value.
-/

namespace ModelTagging

namespace Reader

variable {α : Type}

/-- Everything with the property is written as a value that is not the absent
one and that the reading turns back into it. -/
def Restores (read : Reader α) (write : α → Value) (p : α → Prop) : Prop :=
  ∀ a, p a → write a ≠ .null ∧ read (write a) = .accepted a

/-- A list written item by item is read back when its items are. -/
theorem Restores.list {read : Reader α} {write : α → Value} {p : α → Prop}
    (h : read.Restores write p) :
    (Reader.list read).Restores (Value.ofList write) fun found => ∀ a ∈ found, p a := by
  intro found hall
  refine ⟨Value.noConfusion, list_eq_accepted_iff.2 ⟨found.map write, rfl, ?_⟩⟩
  rw [List.forall₂_map_left_iff, List.forall₂_same]
  exact fun a ha => (h a (hall a ha)).2

/-- A text is read back. -/
theorem restores_text : text.Restores .str fun _ => True :=
  fun _ _ => ⟨Value.noConfusion, rfl⟩

/-- A text with a character is read back as such. -/
theorem restores_nonEmptyText : nonEmptyText.Restores .str (· ≠ "") :=
  fun _ h => ⟨Value.noConfusion, nonEmptyText_eq_accepted_iff.2 ⟨rfl, h⟩⟩

/-- A truth value is read back. -/
theorem restores_boolean : boolean.Restores .bool fun _ => True :=
  fun _ _ => ⟨Value.noConfusion, rfl⟩

/-- A word is read back when the parser finds it under its name. -/
theorem restores_oneOf {choices : List String} {parse : String → Option α} {name : α → String}
    (h : ∀ a, parse (name a) = some a) :
    (oneOf choices parse).Restores (fun a => .str (name a)) fun _ => True := by
  intro a _
  refine ⟨Value.noConfusion, ?_⟩
  simp only [oneOf, h a]
  rfl

end Reader

namespace AbsentFields

variable {α : Type} {absent : AbsentFields} {fields : Fields} {name : String}

/-- The fields that are written of an object. -/
def remaining (absent : AbsentFields) (fields : Fields) : Fields :=
  match absent with
  | .kept => fields
  | .omitted => fields.filter fun field => !field.2.isNull

/-- A written object holds the remaining fields. -/
theorem record_eq (absent : AbsentFields) (fields : Fields) :
    absent.record fields = .object (absent.remaining fields) := by
  cases absent <;> rfl

/-- What remains of an object are fields of it. -/
theorem remaining_subset (absent : AbsentFields) (fields : Fields) :
    absent.remaining fields ⊆ fields := by
  cases absent with
  | kept => exact List.Subset.refl _
  | omitted => exact List.filter_sublist.subset

/-- Looking a field up among those that remain finds it, unless it is absent and
left out. -/
theorem get?_remaining_eq_some_iff {v : Value} (hnames : (fields.map Prod.fst).Nodup) :
    (absent.remaining fields).get? name = some v ↔
      (name, v) ∈ fields ∧ (absent = .kept ∨ v ≠ .null) := by
  cases absent with
  | kept => simpa [remaining] using Fields.get?_eq_some_iff hnames
  | omitted =>
    have hremaining : ((AbsentFields.omitted.remaining fields).map Prod.fst).Nodup :=
      hnames.sublist (List.filter_sublist.map _)
    rw [Fields.get?_eq_some_iff hremaining]
    simp [remaining, ← Value.isNull_eq_true_iff]

/-- An absent field is left out, so none is found under its name. -/
theorem get?_remaining_omitted_eq_none (hnames : (fields.map Prod.fst).Nodup)
    (hv : (name, .null) ∈ fields) : (AbsentFields.omitted.remaining fields).get? name = none := by
  -- a field found under the name would be the absent one itself
  refine Option.eq_none_iff_forall_ne_some.2 fun w hw => ?_
  obtain ⟨hmem, hkept⟩ := (get?_remaining_eq_some_iff hnames).1 hw
  have hfound := (Fields.get?_eq_some_iff hnames).2 hmem
  have hnull := (Fields.get?_eq_some_iff hnames).2 hv
  exact hkept.elim nofun fun hne => hne (Option.some.inj (hfound.symm.trans hnull))

/-- A written field that must be there is found. -/
theorem required_remaining {read : Reader α} {v : Value} {a : α}
    (hnames : (fields.map Prod.fst).Nodup) (hv : (name, v) ∈ fields)
    (h : v ≠ .null ∧ read v = .accepted a) :
    (absent.remaining fields).required name read = .accepted a := by
  have hfind : (absent.remaining fields).get? name = some v :=
    (get?_remaining_eq_some_iff hnames).2 ⟨hv, .inr h.1⟩
  exact Fields.required_eq_accepted_iff.2 ⟨v, hfind, h.2⟩

/-- A written field with a default is found, so the default plays no part. -/
theorem defaulted_remaining {read : Reader α} {v : Value} {a default : α}
    (hnames : (fields.map Prod.fst).Nodup) (hv : (name, v) ∈ fields)
    (h : v ≠ .null ∧ read v = .accepted a) :
    (absent.remaining fields).defaulted name read default = .accepted a := by
  have hfind : (absent.remaining fields).get? name = some v :=
    (get?_remaining_eq_some_iff hnames).2 ⟨hv, .inr h.1⟩
  exact Fields.defaulted_eq_accepted_iff.2 (.inl ⟨v, hfind, h.2⟩)

/-- A field that may be absent is read back, whether or not absent fields are
written. -/
theorem optional_remaining {read : Reader α} {write : α → Value} {found : Option α}
    (hnames : (fields.map Prod.fst).Nodup) (hv : (name, Value.ofOption write found) ∈ fields)
    (h : ∀ a ∈ found, write a ≠ .null ∧ read (write a) = .accepted a) :
    (absent.remaining fields).optional name read = .accepted found := by
  refine Fields.defaulted_eq_accepted_iff.2 ?_
  cases found with
  | some a =>
    obtain ⟨hnull, hread⟩ := h a rfl
    exact .inl ⟨write a, (get?_remaining_eq_some_iff hnames).2 ⟨hv, .inr hnull⟩,
      Reader.nullable_eq_accepted_iff.2 (.inr ⟨hnull, a, hread, rfl⟩)⟩
  | none =>
    cases absent with
    | kept =>
      exact .inl ⟨.null, (get?_remaining_eq_some_iff hnames).2 ⟨hv, .inl rfl⟩,
        Reader.nullable_eq_accepted_iff.2 (.inl ⟨rfl, rfl⟩)⟩
    | omitted =>
      exact .inr ⟨get?_remaining_omitted_eq_none hnames hv, rfl⟩

/-- A list that may be absent is read back when its items are. -/
theorem optional_list_remaining {read : Reader α} {write : α → Value} {p : α → Prop}
    {found : Option (List α)} (hnames : (fields.map Prod.fst).Nodup)
    (hv : (name, Value.ofOption (Value.ofList write) found) ∈ fields)
    (h : read.Restores write p) (hall : ∀ a ∈ found.getD [], p a) :
    (absent.remaining fields).optional name (Reader.list read) = .accepted found := by
  refine optional_remaining hnames hv ?_
  rintro items rfl
  exact h.list items hall

/-- A written object has no field but those written. -/
theorem closed_remaining {known : List String} (h : ∀ field ∈ fields, field.1 ∈ known) :
    Fields.closed known (absent.remaining fields) = .accepted () :=
  Fields.closed_eq_accepted fun _ hfield => h _ (absent.remaining_subset fields hfield)

end AbsentFields

end ModelTagging
