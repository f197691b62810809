import ModelTagging.Proofs.Shape.Restored

/-!
# What values spell

Which data a document value stands for, as relations that know nothing of
readings and of errors. There is a free manner of spelling, in which parts are
left to their defaults and single values come in several forms, and a plain one,
in which every part is named as it is. A reading follows the free manner when it
accepts just the values that spell something, and as just that; a writing is
plain when it spells everything in the plain manner. Every combinator of readings
and every way to write a field has a counterpart on relations that it keeps to.
-/

namespace ModelTagging

/-- How values spell things. -/
inductive Manner where
  /-- Parts may be left to their defaults, absent parts may be named, and numbers
  and truth values have several spellings. -/
  | free
  /-- All parts that there are are named and no others, each value as itself. -/
  | plain
  deriving DecidableEq

/-- Which values spell which things of a type. -/
abbrev Spelling (α : Type) := Value → α → Prop

namespace Spelling

variable {α : Type}

/-- A text spells itself. -/
def Text : Spelling String := fun v s => v = .str s

/-- A name is a text with a character. -/
def Name : Spelling String := fun v s => v = .str s ∧ s ≠ ""

/-- Each thing has one word, and only that word spells it. -/
def Word (word : α → String) : Spelling α := fun v a => v = .str (word a)

/-- A list spells what its items spell, in their order. -/
def Items (spells : Spelling α) : Spelling (List α) := fun v found =>
  ∃ items, v = .list items ∧ List.Forall₂ spells items found

/-- A truth value is freely spelled by itself, by a number equal to zero or one,
or by one of the words for it in letters of either case. -/
inductive FreeTruth : Value → Bool → Prop
  | bool (b : Bool) : FreeTruth (.bool b) b
  | int (b : Bool) : FreeTruth (.int b.toInt) b
  | float {x : Binary64} {b : Bool} (h : x.toInt? = some b.toInt) : FreeTruth (.float x) b
  | word {s : String} {b : Bool}
      (h : Reader.booleanWords.lookup (String.ofList (s.toList.map Char.toLower)) = some b) :
      FreeTruth (.str s) b

/-- A number is freely spelled by an integer, by a finite double, by a truth value
or by a text. A text that spells an integer spells no double. -/
inductive FreeNumber : Value → Number → Prop
  | whole (i : Int) : FreeNumber (.int i) (.whole i)
  | real (negative : Bool) (size : Magnitude) :
      FreeNumber (.float (.finite negative size)) (.real negative size)
  | bool (b : Bool) : FreeNumber (.bool b) (.whole b.toInt)
  | integerText {s : String} {i : Int} (h : Numeral.looseInteger s.toList = .read i) :
      FreeNumber (.str s) (.whole i)
  | doubleText {s : String} {negative : Bool} {size : Magnitude}
      (hinteger : ∀ i, Numeral.looseInteger s.toList ≠ .read i)
      (h : Numeral.looseBinary64? s.toList = some (.finite negative size)) :
      FreeNumber (.str s) (.real negative size)

/-- A truth value is spelled plainly by itself only. -/
def Truth : Manner → Spelling Bool
  | .free => FreeTruth
  | .plain => fun v b => v = .bool b

/-- A number is spelled plainly by itself only. -/
def Numeric : Manner → Spelling Number
  | .free => FreeNumber
  | .plain => fun v n => v = n.toValue

end Spelling

namespace Fields

variable {α : Type}

/-- Every field has one of the known names. -/
def Only (fields : Fields) (known : List String) : Prop := ∀ field ∈ fields, field.1 ∈ known

/-- The field of this name is there and spells the thing. -/
def Has (fields : Fields) (name : String) (spells : Spelling α) (a : α) : Prop :=
  ∃ v, fields.get? name = some v ∧ spells v a

/-- The field of this name spells the thing. In the free manner it may be left out
instead when the thing is the default one; the absent value does not leave it
out. -/
def HasOr (fields : Fields) (manner : Manner) (name : String) (spells : Spelling α)
    (default a : α) : Prop :=
  fields.Has name spells a ∨ (manner = .free ∧ fields.get? name = none ∧ a = default)

/-- The field of this name spells the thing that there is. If there is none it is
left out, or in the free manner holds the absent value. -/
inductive MayHave (fields : Fields) (manner : Manner) (name : String) (spells : Spelling α) :
    Option α → Prop
  | leftOut (h : fields.get? name = none) : MayHave fields manner name spells none
  | absent (hfree : manner = .free) (h : fields.get? name = some .null) :
      MayHave fields manner name spells none
  | given {v : Value} {a : α} (h : fields.get? name = some v) (hnull : v ≠ .null)
      (hspells : spells v a) : MayHave fields manner name spells (some a)

end Fields

/-! ## Readings -/

namespace Reader

variable {α : Type}

/-- The reading accepts exactly the values that spell something, as what they
spell. -/
def Follows (read : Reader α) (spells : Spelling α) : Prop :=
  ∀ v a, read v = .accepted a ↔ spells v a

/-- A text is read as itself. -/
theorem text_follows : text.Follows Spelling.Text := by
  intro v s
  cases v <;> simp [text, Spelling.Text, Decoded.fail, pure]

/-- A name is read as itself. -/
theorem nonEmptyText_follows : nonEmptyText.Follows Spelling.Name :=
  fun _ _ => nonEmptyText_eq_accepted_iff

/-- When each of some things is found under its own word, only its word finds
it. -/
theorem find?_word_eq_some_iff {all : List α} {word : α → String}
    (hword : ∀ a, all.find? (word · == word a) = some a) {s : String} {a : α} :
    all.find? (word · == s) = some a ↔ s = word a := by
  constructor
  · intro h
    have hs : (word a == s) = true := by simpa using List.find?_some h
    exact (eq_of_beq hs).symm
  · rintro rfl
    exact hword a

/-- One of some words is read as the thing it stands for. -/
theorem oneOf_follows {choices : List String} {all : List α} {word : α → String}
    (hword : ∀ a, all.find? (word · == word a) = some a) :
    (oneOf choices fun s => all.find? (word · == s)).Follows (Spelling.Word word) := by
  intro v a
  cases v with
  | str s =>
    have hfound : oneOf choices (fun s => all.find? (word · == s)) (.str s) = .accepted a ↔
        all.find? (word · == s) = some a := by
      cases h : all.find? (word · == s) <;> simp [oneOf, h, Decoded.fail, pure]
    rw [hfound, find?_word_eq_some_iff hword, Spelling.Word, Value.str.injEq]
  | _ => simp [oneOf, Spelling.Word, Decoded.fail]

/-- The integer of a truth value is the only one that stands for it. -/
theorem booleanOfInt?_eq_some_iff {i : Int} {b : Bool} :
    booleanOfInt? i = some b ↔ i = b.toInt := by
  rw [booleanOfInt?]
  cases b <;> grind [Bool.toInt]

/-- An integer is read for the truth value it is equal to. -/
theorem boolean_int_eq_accepted_iff {i : Int} {b : Bool} :
    boolean (.int i) = .accepted b ↔ i = b.toInt := by
  rw [← booleanOfInt?_eq_some_iff]
  cases hi : booleanOfInt? i <;> simp [boolean, hi, pure, Decoded.fail]

/-- A double is read for the truth value it is equal to. -/
theorem boolean_float_eq_accepted_iff {x : Binary64} {b : Bool} :
    boolean (.float x) = .accepted b ↔ x.toInt? = some b.toInt := by
  cases hx : x.toInt? with
  | none => simp [boolean, hx, Decoded.fail]
  | some i =>
    rw [Option.some.injEq, ← booleanOfInt?_eq_some_iff]
    cases hi : booleanOfInt? i <;> simp [boolean, hx, hi, pure, Decoded.fail]

/-- A text is read for the truth value that its word stands for. -/
theorem boolean_str_eq_accepted_iff {s : String} {b : Bool} :
    boolean (.str s) = .accepted b ↔
      booleanWords.lookup (String.ofList (s.toList.map Char.toLower)) = some b := by
  cases hs : booleanWords.lookup (String.ofList (s.toList.map Char.toLower)) <;>
    simp [boolean, hs, pure, Decoded.fail]

/-- A truth value is read from all its spellings. -/
theorem boolean_follows : boolean.Follows (Spelling.Truth .free) := by
  intro v b
  constructor
  · intro h
    cases v with
    | bool c =>
      obtain rfl : c = b := by simpa [boolean, pure] using h
      exact .bool c
    | int i =>
      obtain rfl := boolean_int_eq_accepted_iff.1 h
      exact .int b
    | float x => exact .float (boolean_float_eq_accepted_iff.1 h)
    | str s => exact .word (boolean_str_eq_accepted_iff.1 h)
    | _ => simp [boolean, Decoded.fail] at h
  · intro h
    cases h with
    | bool => rfl
    | int => exact boolean_int_eq_accepted_iff.2 rfl
    | float hx => exact boolean_float_eq_accepted_iff.2 hx
    | word hs => exact boolean_str_eq_accepted_iff.2 hs

/-- A text that spells no integer is read for the finite double it spells. -/
theorem numberOfText_eq_accepted_iff {cs : List Char} {n : Number}
    (hinteger : ∀ i, Numeral.looseInteger cs ≠ .read i) :
    numberOfText cs = .accepted n ↔ ∃ negative size,
      Numeral.looseBinary64? cs = some (.finite negative size) ∧ n = .real negative size := by
  simp only [numberOfText]
  split
  · next hi => exact absurd hi (hinteger _)
  · next negative size hd _ => simp [hd, pure, @eq_comm _ n, and_assoc]
  · next x hfinite hd _ =>
    have hnot : ∀ negative size, x ≠ .finite negative size := hfinite
    simp [hd, neitherNumber, hnot]
  · next hd _ => simp [hd, neitherNumber]

/-- A number is read from all its spellings. -/
theorem number_follows : number.Follows (Spelling.Numeric .free) := by
  intro v n
  constructor
  · intro h
    cases v with
    | int i =>
      obtain rfl : .whole i = n := by simpa [number, pure] using h
      exact .whole i
    | float x =>
      cases x with
      | finite negative size =>
        obtain rfl : .real negative size = n := by simpa [number, pure] using h
        exact .real negative size
      | _ => exact nomatch h
    | bool b =>
      have hwhole : .whole b.toInt = n := by
        cases b <;> simpa [number, pure] using h
      exact hwhole ▸ .bool b
    | str s =>
      by_cases hinteger : ∃ i, Numeral.looseInteger s.toList = .read i
      · obtain ⟨i, hi⟩ := hinteger
        obtain rfl : .whole i = n := by simpa [number, numberOfText, hi, pure] using h
        exact .integerText hi
      · have hnot : ∀ i, Numeral.looseInteger s.toList ≠ .read i := not_exists.1 hinteger
        obtain ⟨negative, size, hd, rfl⟩ := (numberOfText_eq_accepted_iff hnot).1 h
        exact .doubleText hnot hd
    | _ => exact nomatch h
  · intro h
    cases h with
    | whole | real => rfl
    | bool b => cases b <;> rfl
    | integerText hi => simp [number, numberOfText, hi, pure]
    | doubleText hnot hd => exact (numberOfText_eq_accepted_iff hnot).2 ⟨_, _, hd, rfl⟩

/-- The items of a list are read in their order. -/
theorem Follows.list {read : Reader α} {spells : Spelling α} (h : read.Follows spells) :
    (Reader.list read).Follows (Spelling.Items spells) := by
  intro v found
  simp only [list_eq_accepted_iff, h _ _, Spelling.Items]

end Reader

namespace Fields

variable {α : Type} {read : Reader α} {spells : Spelling α} {fields : Fields} {name : String}

/-- Fields of known names only are the ones that are let through. -/
theorem closed_iff {known : List String} {u : Unit} :
    fields.closed known = .accepted u ↔ fields.Only known := by
  constructor
  · intro h
    induction fields with
    | nil => simp [Only]
    | cons field rest ih =>
      by_cases hknown : field.1 ∈ known
      · have hrest : Fields.Only rest known := ih (by simpa [closed, hknown] using h)
        simpa [Only, hknown] using hrest
      · simp [closed, hknown, Decoded.fail, Decoded.under, Functor.map, Seq.seq, Decoded.both] at h
  · exact closed_eq_accepted

/-- A field that must be there is read as what it spells. -/
theorem required_iff (h : read.Follows spells) {a : α} :
    fields.required name read = .accepted a ↔ fields.Has name spells a := by
  simp only [required_eq_accepted_iff, h _ _, Has]

/-- A field that may be left out is read as what it spells or as the default. -/
theorem defaulted_iff (h : read.Follows spells) {default a : α} :
    fields.defaulted name read default = .accepted a ↔
      fields.HasOr .free name spells default a := by
  simp only [defaulted_eq_accepted_iff, h _ _, HasOr, Has, true_and]
  rw [eq_comm (a := default)]

/-- A field that may be absent is read as what it spells, if anything. -/
theorem optional_iff (h : read.Follows spells) {found : Option α} :
    fields.optional name read = .accepted found ↔ fields.MayHave .free name spells found := by
  rw [optional, defaulted_eq_accepted_iff]
  constructor
  · rintro (⟨v, hget, hread⟩ | ⟨hget, rfl⟩)
    · rcases Reader.nullable_eq_accepted_iff.1 hread with ⟨rfl, rfl⟩ | ⟨hnull, a, ha, rfl⟩
      · exact .absent rfl hget
      · exact .given hget hnull ((h v a).1 ha)
    · exact .leftOut hget
  · intro hmay
    cases hmay with
    | leftOut hget => exact .inr ⟨hget, rfl⟩
    | absent _ hget => exact .inl ⟨_, hget, rfl⟩
    | given hget hnull hspells =>
      exact .inl ⟨_, hget, Reader.nullable_eq_accepted_iff.2
        (.inr ⟨hnull, _, (h _ _).2 hspells, rfl⟩)⟩

end Fields

/-! ## Writings -/

namespace Spelling

variable {α : Type}

/-- Everything with the property is written as a value that spells it and that is
not the absent one. -/
def Written (spells : Spelling α) (write : α → Value) (p : α → Prop) : Prop :=
  ∀ a, p a → write a ≠ .null ∧ spells (write a) a

/-- A text spells itself. -/
theorem text_written : Text.Written .str fun _ => True :=
  fun _ _ => ⟨Value.noConfusion, rfl⟩

/-- A text with a character is a name. -/
theorem name_written : Name.Written .str (· ≠ "") :=
  fun _ h => ⟨Value.noConfusion, rfl, h⟩

/-- A word spells what it stands for. -/
theorem word_written {word : α → String} :
    (Word word).Written (fun a => .str (word a)) fun _ => True :=
  fun _ _ => ⟨Value.noConfusion, rfl⟩

/-- A truth value spells itself plainly. -/
theorem truth_written : (Truth .plain).Written .bool fun _ => True :=
  fun _ _ => ⟨Value.noConfusion, rfl⟩

/-- A list written item by item spells its items. -/
theorem Written.list {spells : Spelling α} {write : α → Value} {p : α → Prop}
    (h : spells.Written write p) :
    (Items spells).Written (Value.ofList write) fun found => ∀ a ∈ found, p a := by
  intro found hall
  refine ⟨Value.noConfusion, found.map write, rfl, ?_⟩
  rw [List.forall₂_map_left_iff, List.forall₂_same]
  exact fun a ha => (h a (hall a ha)).2

end Spelling

namespace AbsentFields

variable {α : Type} {fields : Fields} {name : String} {spells : Spelling α}

/-- A field that is not absent is there when the absent ones are left out. -/
theorem has_omitted {v : Value} {a : α} (hnames : (fields.map Prod.fst).Nodup)
    (hv : (name, v) ∈ fields) (h : v ≠ .null ∧ spells v a) :
    (AbsentFields.omitted.remaining fields).Has name spells a :=
  ⟨v, (get?_remaining_eq_some_iff hnames).2 ⟨hv, .inr h.1⟩, h.2⟩

/-- A field that may be absent is left out or spells what there is. -/
theorem mayHave_omitted {write : α → Value} {p : α → Prop} {found : Option α}
    (hnames : (fields.map Prod.fst).Nodup) (hv : (name, Value.ofOption write found) ∈ fields)
    (h : spells.Written write p) (hall : ∀ a ∈ found, p a) :
    (AbsentFields.omitted.remaining fields).MayHave .plain name spells found := by
  cases found with
  | some a =>
    obtain ⟨hnull, hspells⟩ := h a (hall a rfl)
    exact .given ((get?_remaining_eq_some_iff hnames).2 ⟨hv, .inr hnull⟩) hnull hspells
  | none => exact .leftOut (get?_remaining_omitted_eq_none hnames hv)

/-- A list that may be absent is left out or spells its items. -/
theorem mayHave_list_omitted {write : α → Value} {p : α → Prop} {found : Option (List α)}
    (hnames : (fields.map Prod.fst).Nodup)
    (hv : (name, Value.ofOption (Value.ofList write) found) ∈ fields)
    (h : spells.Written write p) (hall : ∀ a ∈ found.getD [], p a) :
    (AbsentFields.omitted.remaining fields).MayHave .plain name (Spelling.Items spells) found := by
  refine mayHave_omitted hnames hv h.list ?_
  rintro items rfl
  exact hall

/-- No field is written but those of known names. -/
theorem only_omitted {known : List String} (h : fields.Only known) :
    (AbsentFields.omitted.remaining fields).Only known :=
  fun field hfield => h field (remaining_subset .omitted fields hfield)

end AbsentFields

end ModelTagging
