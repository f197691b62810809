import Mathlib.Data.List.Forall2
import ModelTagging.Shape.Scalar

/-!
# What an accepting reading says

A reading that accepts a value accepts each part it looks at, and the value it
stands for is put together from theirs. Each combinator gets one equivalence,
so the shape of a model element unfolds to a plain conjunction over its
fields. Which errors a rejection holds is not said here.
-/

namespace ModelTagging

namespace Decoded

variable {α β : Type}

/-- Side by side, both readings accept and the function meets its argument. -/
theorem seq_eq_accepted_iff {f : Decoded (α → β)} {x : Decoded α} {b : β} :
    f <*> x = .accepted b ↔ ∃ g, f = .accepted g ∧ ∃ a, x = .accepted a ∧ g a = b := by
  cases f <;> cases x <;> simp [Seq.seq, both]

/-- The same for a result that is only known to have some property. -/
theorem exists_seq_accepted_iff {f : Decoded (α → β)} {x : Decoded α} {p : β → Prop} :
    (∃ b, f <*> x = .accepted b ∧ p b) ↔
      ∃ g, f = .accepted g ∧ ∃ a, x = .accepted a ∧ p (g a) := by
  cases f <;> cases x <;> simp [Seq.seq, both]

/-- Reading further into a value accepts exactly when the reading does. -/
theorem exists_map_accepted_iff {f : α → β} {x : Decoded α} {p : β → Prop} :
    (∃ b, f <$> x = .accepted b ∧ p b) ↔ ∃ a, x = .accepted a ∧ p (f a) := by
  cases x <;> simp [Functor.map]

/-- The step from which a reading is seen does not matter for acceptance. -/
@[simp] theorem under_eq_accepted_iff {segment : Segment} {x : Decoded α} {a : α} :
    x.under segment = .accepted a ↔ x = .accepted a := by
  cases x <;> simp [under]

/-- A checked element is an accepted one that breaks no rule. -/
theorem checkedBy_eq_accepted_iff {rule : α → Option RuleViolation} {x : Decoded α} {a : α} :
    x.checkedBy rule = .accepted a ↔ x = .accepted a ∧ rule a = none := by
  cases x with
  | rejected errors => simp [checkedBy]
  | accepted b =>
    cases hb : rule b with
    | none =>
      simp only [checkedBy, hb, accepted.injEq, iff_self_and]
      rintro rfl
      exact hb
    | some violation =>
      simp only [checkedBy, hb, fail, reduceCtorEq, accepted.injEq, false_iff, not_and]
      rintro rfl
      simp [hb]

end Decoded

namespace Reader

variable {α : Type}

/-- Every value the reading accepts stands for something with the property. -/
def Ensures (read : Reader α) (p : α → Prop) : Prop := ∀ v a, read v = .accepted a → p a

/-- An object of a shape accepts what its fields accept. -/
theorem object_eq_accepted_iff {shape : String} {read : Fields → Decoded α} {v : Value} {a : α} :
    object shape read v = .accepted a ↔
      ∃ fields : Fields, v = .object fields ∧ read fields = .accepted a := by
  cases v <;> simp [object, Decoded.fail]

/-- The items of a list are read one by one. -/
theorem items_eq_accepted_iff {read : Reader α} {position : Nat} {values : List Value}
    {found : List α} : items read position values = .accepted found ↔
      List.Forall₂ (fun v a => read v = .accepted a) values found := by
  induction values generalizing position found with
  | nil => cases found <;> simp [items, pure]
  | cons v rest ih =>
    have hstep : items read position (v :: rest) = .accepted found ↔
        ∃ a, read v = .accepted a ∧ ∃ others,
          items read (position + 1) rest = .accepted others ∧ a :: others = found := by
      rw [items, Decoded.seq_eq_accepted_iff, Decoded.exists_map_accepted_iff]
      simp only [Decoded.under_eq_accepted_iff]
    rw [hstep, List.forall₂_cons_left_iff]
    constructor
    · intro hread
      rcases hread with ⟨a, ha, others, hothers, rfl⟩
      exact ⟨a, others, ha, ih.1 hothers, rfl⟩
    · intro hread
      rcases hread with ⟨a, others, ha, hothers, rfl⟩
      exact ⟨a, ha, others, ih.2 hothers, rfl⟩

/-- A list of readable values is a list of what they stand for. -/
theorem list_eq_accepted_iff {read : Reader α} {v : Value} {found : List α} :
    list read v = .accepted found ↔ ∃ values, v = .list values ∧
      List.Forall₂ (fun v a => read v = .accepted a) values found := by
  cases v <;> simp [list, items_eq_accepted_iff, Decoded.fail]

/-- What holds of all readable items holds of every item of a list. -/
theorem Ensures.list {read : Reader α} {p : α → Prop} (h : read.Ensures p) :
    (Reader.list read).Ensures fun found => ∀ a ∈ found, p a := by
  intro v found hv
  obtain ⟨values, rfl, hall⟩ := list_eq_accepted_iff.1 hv
  induction hall with
  | nil => simp
  | cons ha _ ih =>
    intro a hmem
    rcases List.mem_cons.1 hmem with rfl | hmem
    · exact h _ _ ha
    · exact ih (list_eq_accepted_iff.2 ⟨_, rfl, by assumption⟩) a hmem

/-- An absent value stands for none, and any other for what is read. -/
theorem nullable_eq_accepted_iff {read : Reader α} {v : Value} {found : Option α} :
    nullable read v = .accepted found ↔
      (v = .null ∧ found = none) ∨ (v ≠ .null ∧ ∃ a, read v = .accepted a ∧ found = some a) := by
  have hread : some <$> read v = .accepted found ↔ ∃ a, read v = .accepted a ∧ found = some a := by
    cases read v <;> simp [Functor.map, eq_comm]
  cases v <;> simp_all [nullable, pure, eq_comm]

/-- A text with a character is not the empty one. -/
theorem nonEmptyText_eq_accepted_iff {v : Value} {s : String} :
    nonEmptyText v = .accepted s ↔ v = .str s ∧ s ≠ "" := by
  cases v with
  | str t =>
    by_cases ht : t = ""
    · subst ht
      constructor
      · intro h
        exact nomatch h
      · intro hread
        rcases hread with ⟨heq, hne⟩
        exact absurd (Value.str.inj heq).symm hne
    · have hne : t.isEmpty = false := by simpa using ht
      simp only [nonEmptyText, hne, pure, Bool.false_eq_true, if_false, Decoded.accepted.injEq,
        Value.str.injEq, iff_self_and]
      rintro rfl
      exact ht
  | _ => simp [nonEmptyText, Decoded.fail]

end Reader

namespace Fields

variable {α : Type}

/-- Among fields of distinct names, the one found is the one there is. -/
theorem get?_eq_some_iff {fields : Fields} (hnames : (fields.map Prod.fst).Nodup) {name : String}
    {v : Value} : fields.get? name = some v ↔ (name, v) ∈ fields := by
  induction fields with
  | nil => simp [get?]
  | cons field rest ih =>
    obtain ⟨other, w⟩ := field
    obtain ⟨hother, hrest⟩ := List.nodup_cons.1 hnames
    by_cases heq : name = other
    · subst heq
      have hnot : (name, v) ∉ rest := fun hmem => hother (List.mem_map.2 ⟨_, hmem, rfl⟩)
      simp [get?, hnot, eq_comm]
    · have hne : (name == other) = false := by simpa using heq
      have hlookup : get? ((other, w) :: rest) name = get? rest name := by
        simp [get?, List.lookup_cons, hne]
      rw [hlookup, ih hrest]
      simp [heq]

/-- A field that must be there is there and readable. -/
theorem required_eq_accepted_iff {fields : Fields} {name : String} {read : Reader α} {a : α} :
    fields.required name read = .accepted a ↔
      ∃ v, fields.get? name = some v ∧ read v = .accepted a := by
  cases h : fields.get? name <;> simp [required, h, Decoded.fail]

/-- A field that may be left out is readable or left out in favour of the
default. -/
theorem defaulted_eq_accepted_iff {fields : Fields} {name : String} {read : Reader α}
    {default a : α} :
    fields.defaulted name read default = .accepted a ↔
      (∃ v, fields.get? name = some v ∧ read v = .accepted a) ∨
        (fields.get? name = none ∧ default = a) := by
  cases h : fields.get? name <;> simp [defaulted, h, pure]

/-- A field that is present after an optional reading was readable. -/
theorem exists_of_optional_eq_some {fields : Fields} {name : String} {read : Reader α} {a : α}
    (h : fields.optional name read = .accepted (some a)) : ∃ v, read v = .accepted a := by
  rcases defaulted_eq_accepted_iff.1 h with ⟨v, -, hv⟩ | ⟨-, hnone⟩
  · rcases Reader.nullable_eq_accepted_iff.1 hv with ⟨-, hnone⟩ | ⟨-, b, hb, hsome⟩
    · exact absurd hnone (by simp)
    · obtain rfl := Option.some.inj hsome
      exact ⟨v, hb⟩
  · exact absurd hnone (by simp)

/-- A field that may be absent holds what its reading ensures, if anything. -/
theorem optional_ensures {read : Reader α} {p : α → Prop} {fields : Fields}
    {name : String} {found : Option α} (h : read.Ensures p)
    (hread : fields.optional name read = .accepted found) : ∀ a ∈ found, p a := by
  rintro a rfl
  obtain ⟨v, hv⟩ := exists_of_optional_eq_some hread
  exact h v a hv

/-- The items of a list that may be absent hold what their reading ensures. -/
theorem optional_list_ensures {read : Reader α} {p : α → Prop} {fields : Fields}
    {name : String} {found : Option (List α)} (h : read.Ensures p)
    (hread : fields.optional name (Reader.list read) = .accepted found) :
    ∀ a ∈ found.getD [], p a := by
  have hall := optional_ensures h.list hread
  cases found with
  | none => simp
  | some items => exact hall items rfl

/-- The text of a field with a character is not the empty one. -/
theorem ne_empty_of_required {fields : Fields} {name s : String}
    (h : fields.required name Reader.nonEmptyText = .accepted s) : s ≠ "" := by
  obtain ⟨v, -, hv⟩ := required_eq_accepted_iff.1 h
  exact (Reader.nonEmptyText_eq_accepted_iff.1 hv).2

/-- The items of a list that may be left out hold what their reading ensures. -/
theorem defaulted_list_ensures {read : Reader α} {p : α → Prop} {fields : Fields}
    {name : String} {found : List α} (h : read.Ensures p)
    (hread : fields.defaulted name (Reader.list read) [] = .accepted found) :
    ∀ a ∈ found, p a := by
  rcases defaulted_eq_accepted_iff.1 hread with ⟨v, -, hv⟩ | ⟨-, rfl⟩
  · exact h.list v found hv
  · simp

end Fields

end ModelTagging
