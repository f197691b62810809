import ModelTagging.Proofs.Command.Grammar
import ModelTagging.Proofs.Command.Placed

/-!
# Rejected command sets

Which rejected documents are rejected for a mode. A command gives an unknown mode
when it has a mode, of any kind of value, that is not one of the two words. Only such
a command brings forth a shape error about its mode, and it does whatever else is
wrong with it; so the first of these errors belongs to the first such command of the
document. All other rejections of an object list its shape errors, of which there is
at least one.
-/

namespace ModelTagging

/-- The item is an object that gives its mode as this value, and the value is none of
the two modes. -/
def Value.GivesUnknownMode (item mode : Value) : Prop :=
  ∃ fields : Fields, item = .object fields ∧ fields.get? "type" = some mode ∧
    mode ≠ .str "UPSERT" ∧ mode ≠ .str "APPEND"

/-- Of the items that give an unknown mode this is the first, and it gives this one. -/
def Value.FirstUnknownMode (items : List Value) (position : Nat) (mode : Value) : Prop :=
  (∃ item, items[position]? = some item ∧ item.GivesUnknownMode mode) ∧
    ∀ earlier < position, ∀ item, items[earlier]? = some item →
      ∀ other, ¬item.GivesUnknownMode other

/-- In front of further items, an item that gives an unknown mode is the first one, and
any other is passed over. -/
theorem Value.firstUnknownMode_cons_iff {item : Value} {rest : List Value} {position : Nat}
    {mode : Value} : FirstUnknownMode (item :: rest) position mode ↔
      (position = 0 ∧ item.GivesUnknownMode mode) ∨
        ((∀ other, ¬item.GivesUnknownMode other) ∧
          ∃ before, position = before + 1 ∧ FirstUnknownMode rest before mode) := by
  cases position with
  | zero => simp [FirstUnknownMode]
  | succ before =>
    simp only [FirstUnknownMode, List.getElem?_cons_succ]
    constructor
    · intro hfirst
      obtain ⟨hfound, hbefore⟩ := hfirst
      refine .inr ⟨hbefore 0 (Nat.succ_pos _) item rfl, before, rfl, hfound, ?_⟩
      intro earlier hlt
      exact hbefore (earlier + 1) (Nat.succ_lt_succ hlt)
    · intro hcases
      rcases hcases with ⟨hzero, -⟩ | ⟨hitem, _, heq, hfound, hbefore⟩
      · cases hzero
      · obtain rfl := Nat.succ.inj heq
        refine ⟨hfound, fun earlier hlt => ?_⟩
        cases earlier with
        | zero =>
          intro other hother
          obtain rfl := Option.some.inj hother
          exact hitem
        | succ earlier => exact hbefore earlier (Nat.lt_of_succ_lt_succ hlt)

/-- If any item gives an unknown mode there is a first one. -/
theorem Value.exists_firstUnknownMode {items : List Value}
    (h : ∃ item ∈ items, ∃ mode, item.GivesUnknownMode mode) :
    ∃ position mode, FirstUnknownMode items position mode := by
  induction items with
  | nil => simp at h
  | cons item rest ih =>
    by_cases hitem : ∃ mode, item.GivesUnknownMode mode
    · obtain ⟨mode, hmode⟩ := hitem
      exact ⟨0, mode, firstUnknownMode_cons_iff.2 (.inl ⟨rfl, hmode⟩)⟩
    · obtain ⟨other, hmem, hother⟩ := h
      have hrest : other ∈ rest :=
        (List.mem_cons.1 hmem).resolve_left fun heq => hitem (heq ▸ hother)
      obtain ⟨position, mode, hfirst⟩ := ih ⟨other, hrest, hother⟩
      exact ⟨position + 1, mode, firstUnknownMode_cons_iff.2
        (.inr ⟨not_exists.1 hitem, position, rfl, hfirst⟩)⟩

/-- The document lists these commands. -/
def Value.ListsCommands (document : Value) (items : List Value) : Prop :=
  ∃ fields : Fields, document = .object fields ∧ fields.get? "commands" = some (.list items)

/-! ## Errors of one command -/

/-- The mode that an error of a command reports. -/
def ShapeError.ownMode? : ShapeError → Option Value
  | ⟨[.key "type"], .notOneOf _ given⟩ => some given
  | _ => none

namespace ShapeError

/-- An error below another field than the mode reports no mode. -/
theorem ownMode?_under_of_ne {name : String} (h : name ≠ "type") (error : ShapeError) :
    (error.under (.key name)).ownMode? = none := by
  unfold under ownMode?
  split
  · next heq =>
    simp only [mk.injEq, List.cons.injEq, Segment.key.injEq] at heq
    exact absurd heq.1.1 h
  · rfl

/-- Neither does an unknown field, under any name. -/
theorem ownMode?_unknownKey (name : String) :
    ownMode? ⟨[.key name], .unknownKey⟩ = none := by
  unfold ownMode?
  split
  · next heq => cases heq
  · rfl

/-- An error below another field than the commands is about the mode of none. -/
theorem commandMode?_under_of_ne {name : String} (h : name ≠ "commands") (error : ShapeError) :
    (error.under (.key name)).commandMode? = none := by
  unfold under commandMode?
  split
  · next heq =>
    simp only [mk.injEq, List.cons.injEq, Segment.key.injEq] at heq
    exact absurd heq.1.1 h
  · rfl

/-- Neither is an unknown field, under any name. -/
theorem commandMode?_unknownKey (name : String) :
    commandMode? ⟨[.key name], .unknownKey⟩ = none := by
  unfold commandMode?
  split
  · next heq => cases heq
  · rfl

/-- An error of an item of the commands is about its mode if it reports one. -/
theorem commandMode?_under_under (error : ShapeError) (position : Nat) :
    ((error.under (.index position)).under (.key "commands")).commandMode? =
      error.ownMode?.map (position, ·) := by
  obtain ⟨path, cause⟩ := error
  unfold under commandMode? ownMode?
  split <;> simp_all

end ShapeError

/-- A word that is read as none of the known ones is an error that holds it. -/
theorem Reader.oneOf_eq_accepted_or_fail {α : Type} (choices : List String)
    (parse : String → Option α) (v : Value) :
    (∃ a, oneOf choices parse v = .accepted a) ∨
      oneOf choices parse v = .fail (.notOneOf choices v) := by
  cases v with
  | str s =>
    simp only [oneOf]
    split
    · exact .inl ⟨_, rfl⟩
    · exact .inr rfl
  | _ => exact .inr rfl

/-- A value is a mode unless it is none of the two words. -/
theorem MergeMode.exists_oneOf_accepted_iff (choices : List String) (v : Value) :
    (∃ mode, Reader.oneOf choices ofName? v = .accepted mode) ↔
      v = .str "UPSERT" ∨ v = .str "APPEND" := by
  simp only [MergeMode.oneOf_follows v, Spelling.Word]
  constructor
  · intro hword
    rcases hword with ⟨_ | _, rfl⟩
    · exact .inl rfl
    · exact .inr rfl
  · intro hword
    rcases hword with rfl | rfl
    · exact ⟨.upsert, rfl⟩
    · exact ⟨.append, rfl⟩

namespace Command

/-- Of the mode of a command there is an error that reports it if it is unknown. -/
theorem findSome?_errors_mode {fields : Fields} {mode : Value} :
    ((fields.required "type" (Reader.oneOf (MergeMode.all.map MergeMode.name)
      MergeMode.ofName?)).errors.findSome? ShapeError.ownMode? = some mode) ↔
        fields.get? "type" = some mode ∧ mode ≠ .str "UPSERT" ∧ mode ≠ .str "APPEND" := by
  unfold Fields.required
  cases htype : fields.get? "type" with
  | none =>
    simp [Decoded.fail, Decoded.under, Decoded.errors, ShapeError.under, ShapeError.ownMode?]
  | some v =>
    have hknown := MergeMode.exists_oneOf_accepted_iff (MergeMode.all.map MergeMode.name) v
    rcases Reader.oneOf_eq_accepted_or_fail (MergeMode.all.map MergeMode.name)
      MergeMode.ofName? v with ⟨found, hread⟩ | hread
    · have hword := hknown.1 ⟨found, hread⟩
      simp only [hread, Decoded.under, Decoded.errors, List.findSome?_nil, reduceCtorEq,
        Option.some.injEq, false_iff, not_and]
      rintro rfl hupsert happend
      exact hword.elim hupsert happend
    · have hword : ¬(v = .str "UPSERT" ∨ v = .str "APPEND") := by
        intro hword
        obtain ⟨found, hfound⟩ := hknown.2 hword
        rw [hread] at hfound
        cases hfound
      simp only [hread, Decoded.fail, Decoded.under, Decoded.errors, List.map_cons, List.map_nil,
        ShapeError.under, List.findSome?_cons, ShapeError.ownMode?, Option.some.injEq,
        iff_self_and]
      rintro rfl
      exact not_or.1 hword

/-- An error of a command reports a mode exactly if the command gives an unknown one,
whatever other errors it has. -/
theorem findSome?_errors_read (item : Value) (mode : Value) :
    (read item).errors.findSome? ShapeError.ownMode? = some mode ↔
      item.GivesUnknownMode mode := by
  cases item with
  | object fields =>
    have htarget : (Fields.defaulted fields "target" Target.read .anything).errors.findSome?
        ShapeError.ownMode? = none :=
      (Fields.below_defaulted _).findSome?_errors (ShapeError.ownMode?_under_of_ne (by decide))
    have hdecorator : (Fields.required fields "decorator" Decorator.read).errors.findSome?
        ShapeError.ownMode? = none :=
      Fields.below_required.findSome?_errors (ShapeError.ownMode?_under_of_ne (by decide))
    have hclosed : (Fields.closed ["target", "decorator", "type"] fields).errors.findSome?
        ShapeError.ownMode? = none :=
      Fields.findSome?_errors_closed ShapeError.ownMode?_unknownKey
    simp only [read, Reader.object, Decoded.errors_seq, Decoded.errors_map,
      List.findSome?_append, htarget, hdecorator, hclosed, Option.none_or, Option.or_none,
      findSome?_errors_mode, Value.GivesUnknownMode, Value.object.injEq, exists_eq_left']
  | _ =>
    simp [read, Reader.object, Decoded.fail, Decoded.errors, ShapeError.ownMode?,
      Value.GivesUnknownMode]

/-- Among the errors of listed commands, the first about a mode belongs to the first
item that gives an unknown one, and reports that item's place and mode. -/
theorem findSome?_errors_items (items : List Value) (start found : Nat) (mode : Value) :
    (((Reader.items read start items).errors.map (·.under (.key "commands"))).findSome?
        ShapeError.commandMode? = some (found, mode)) ↔
      ∃ position, found = start + position ∧ Value.FirstUnknownMode items position mode := by
  induction items generalizing start with
  | nil => simp [Reader.items, Decoded.errors, pure, Value.FirstUnknownMode]
  | cons item rest ih =>
    have hitem : (((read item).under (.index start)).errors.map
        (·.under (.key "commands"))).findSome? ShapeError.commandMode? =
          ((read item).errors.findSome? ShapeError.ownMode?).map (start, ·) := by
      rw [Decoded.errors_under, List.map_map, List.findSome?_map, List.map_findSome?]
      congr 1
      funext error
      exact error.commandMode?_under_under start
    have hgives := findSome?_errors_read item
    simp only [Reader.items, Decoded.errors_seq, Decoded.errors_map, List.map_append,
      List.findSome?_append, hitem, Value.firstUnknownMode_cons_iff]
    cases hown : (read item).errors.findSome? ShapeError.ownMode? with
    | some given =>
      have hitem : ∀ other, item.GivesUnknownMode other ↔ given = other := by
        simp [← hgives, hown]
      simp only [Option.map_some, Option.some_or, Option.some.injEq, Prod.mk.injEq, hitem]
      constructor
      · intro hfirst
        obtain ⟨rfl, rfl⟩ := hfirst
        exact ⟨0, rfl, .inl ⟨rfl, rfl⟩⟩
      · intro hposition
        rcases hposition with ⟨_, rfl, ⟨rfl, rfl⟩ | ⟨hnone, -⟩⟩
        · exact ⟨rfl, rfl⟩
        · exact absurd rfl (hnone given)
    | none =>
      have hitem : ∀ other, ¬item.GivesUnknownMode other := by
        simp [← hgives, hown]
      simp only [Option.map_none, Option.none_or, ih, hitem, and_false, false_or,
        not_false_eq_true, implies_true, true_and]
      constructor
      · intro hposition
        obtain ⟨before, rfl, hfirst⟩ := hposition
        exact ⟨before + 1, by omega, before, rfl, hfirst⟩
      · intro hposition
        obtain ⟨_, rfl, before, rfl, hfirst⟩ := hposition
        exact ⟨before, by omega, hfirst⟩

end Command

namespace CommandSet

/-- Among the errors of an object, the first about a mode is that of the first of the
listed commands that gives an unknown one. -/
theorem findSome?_errors_read (fields : Fields) (position : Nat) (mode : Value) :
    (read (.object fields)).errors.findSome? ShapeError.commandMode? = some (position, mode) ↔
      ∃ items, fields.get? "commands" = some (.list items) ∧
        Value.FirstUnknownMode items position mode := by
  have hname : (Fields.required fields "name" Reader.nonEmptyText).errors.findSome?
      ShapeError.commandMode? = none :=
    Fields.below_required.findSome?_errors (ShapeError.commandMode?_under_of_ne (by decide))
  have hversion : (Fields.required fields "version" Reader.nonEmptyText).errors.findSome?
      ShapeError.commandMode? = none :=
    Fields.below_required.findSome?_errors (ShapeError.commandMode?_under_of_ne (by decide))
  have hincludes : (Fields.optional fields "includes"
      (Reader.list SetReference.read)).errors.findSome? ShapeError.commandMode? = none :=
    Fields.below_optional.findSome?_errors (ShapeError.commandMode?_under_of_ne (by decide))
  have hclosed : (Fields.closed ["name", "version", "includes", "commands"]
      fields).errors.findSome? ShapeError.commandMode? = none :=
    Fields.findSome?_errors_closed ShapeError.commandMode?_unknownKey
  simp only [read, Reader.object, Decoded.errors_seq, Decoded.errors_map, List.findSome?_append,
    hname, hversion, hincludes, hclosed, Option.none_or, Option.or_none]
  unfold Fields.required
  cases fields.get? "commands" with
  | none => simp [Decoded.fail, Decoded.under, Decoded.errors, ShapeError.under,
      ShapeError.commandMode?]
  | some v =>
    cases v with
    | list items =>
      simp only [Reader.list, Decoded.errors_under, Command.findSome?_errors_items]
      simp
    | _ => simp [Reader.list, Decoded.fail, Decoded.under, Decoded.errors, ShapeError.under,
      ShapeError.commandMode?]

end CommandSet

/-! ## Rejected documents -/

namespace CommandSet

/-- A document is rejected for an unknown mode exactly if it lists a command that gives
one, and then for the first of these. -/
theorem parse_eq_error_unknownMode_iff (document mode : Value) (position : Option Nat) :
    parse document = .error (.unknownMode mode position) ↔
      ∃ items first, document.ListsCommands items ∧ position = some first ∧
        Value.FirstUnknownMode items first mode := by
  cases document with
  | object fields =>
    have hfirst := findSome?_errors_read fields
    simp only [parse, Value.ListsCommands, Value.object.injEq, exists_eq_left']
    cases hread : read (.object fields) with
    | accepted set =>
      simp only [hread, Decoded.errors, List.findSome?_nil, reduceCtorEq, false_iff] at hfirst
      simp only [reduceCtorEq, false_iff]
      rintro ⟨items, first, hitems, -, hmode⟩
      exact hfirst first mode ⟨items, hitems, hmode⟩
    | rejected errors =>
      simp only [hread, Decoded.errors] at hfirst
      simp only [errorOf, Except.error.injEq]
      constructor
      · intro herror
        split at herror
        · next first given hgiven =>
          cases herror
          obtain ⟨items, hitems, hmode⟩ := (hfirst _ _).1 hgiven
          exact ⟨items, first, hitems, rfl, hmode⟩
        · cases herror
      · intro hlisted
        obtain ⟨items, first, hitems, rfl, hmode⟩ := hlisted
        rw [(hfirst first mode).2 ⟨items, hitems, hmode⟩]
  | _ => simp [parse, Value.ListsCommands]

/-- Any other rejection of an object lists shape errors, and of any other value its
kind. -/
theorem parse_eq_error_plain {document : Value} {error : CommandSetError}
    (h : parse document = .error error)
    (hmode : ∀ mode position, error ≠ .unknownMode mode position) :
    (∃ errors, error = .shape errors ∧ errors ≠ []) ∨
      (error = .notMapping document.kindName ∧ ∀ fields, document ≠ .object fields) := by
  cases document with
  | object fields =>
    simp only [parse] at h
    split at h
    · cases h
    · next errors hread =>
      cases h
      unfold errorOf at hmode ⊢
      split at hmode
      · exact absurd rfl (hmode _ _)
      · exact .inl ⟨errors, rfl, (read_places _).explained errors hread⟩
  | _ =>
    cases h
    exact .inr ⟨rfl, fun _ => Value.noConfusion⟩

/-- A document is rejected for an unknown mode exactly if it is an object that lists a
command with a mode that is none of the two words, of whatever kind of value and
whatever else is wrong; the first such command and its mode are reported. All other
rejections are plain ones, and that of an object has at least one shape error. -/
theorem rejected_for_mode (document : Value) :
    ((∃ mode position, parse document = .error (.unknownMode mode position)) ↔
      ∃ items, document.ListsCommands items ∧
        ∃ item ∈ items, ∃ mode, item.GivesUnknownMode mode) ∧
    (∀ mode position, parse document = .error (.unknownMode mode position) ↔
      ∃ items first, document.ListsCommands items ∧ position = some first ∧
        Value.FirstUnknownMode items first mode) ∧
    ∀ error, parse document = .error error →
      (∀ mode position, error ≠ .unknownMode mode position) →
        (∃ errors, error = .shape errors ∧ errors ≠ []) ∨
          (error = .notMapping document.kindName ∧ ∀ fields, document ≠ .object fields) := by
  refine ⟨?_, parse_eq_error_unknownMode_iff document, fun _ => parse_eq_error_plain⟩
  simp only [parse_eq_error_unknownMode_iff]
  constructor
  · intro hreported
    obtain ⟨mode, _, items, first, hlists, -, ⟨item, hitem, hgives⟩, -⟩ := hreported
    exact ⟨items, hlists, item, List.mem_of_getElem? hitem, mode, hgives⟩
  · intro hlisted
    obtain ⟨items, hlists, hexists⟩ := hlisted
    obtain ⟨first, mode, hfirst⟩ := Value.exists_firstUnknownMode hexists
    exact ⟨mode, _, items, first, hlists, rfl, hfirst⟩

/-- A document without a name, whose first command is no object and whose last two
give modes that are none, is rejected for the earlier of these modes. -/
theorem rejected_for_mode_sample :
    parse (.object [("commands", .list [.int 5, .object [("type", .int 3), ("mode", .null)],
        .object [("type", .str "upsert")]])]) = .error (.unknownMode (.int 3) (some 1)) := by
  refine ((rejected_for_mode _).2.1 _ _).2
    ⟨_, 1, ⟨_, rfl, rfl⟩, rfl, ⟨_, rfl, _, rfl, rfl, by simp, by simp⟩, ?_⟩
  intro earlier hlt item hitem other hother
  obtain rfl : earlier = 0 := by omega
  obtain rfl : Value.int 5 = item := Option.some.inj hitem
  obtain ⟨fields, hfields, -⟩ := hother
  cases hfields

end CommandSet

end ModelTagging
