import ModelTagging.Proofs.Model.Grammar
import ModelTagging.Proofs.Registry.WellFormed

/-!
# Slots of maps

Which slots the declarations of a model have. Maps have both, and nothing else has
both. The rule is on the two together, so that it keeps a single slot from a map and
from nothing else: a declaration of any other kind may have the key slot or the value
slot alone, and no other rule speaks of slots.
-/

namespace ModelTagging

namespace Declaration

/-- The declaration with these slots in place of its own. -/
def withSlots (declaration : Declaration) (key value : Option MapSlot) : Declaration :=
  { declaration with mapKey := key, mapValue := value }

/-- The slots of a declaration are in order exactly if both are there and it is a map,
or one is missing and it is none. The other rules do not see them. -/
theorem KeepsRules.withSlots_iff {declaration : Declaration} (h : declaration.KeepsRules)
    (key value : Option MapSlot) :
    (declaration.withSlots key value).KeepsRules ↔
      (key ≠ none ∧ value ≠ none ↔ declaration.kind = .map) := by
  constructor
  · intro hchanged
    exact hchanged.slots
  · intro hslots
    exact ⟨h.memberless, h.underlying, hslots, h.members⟩

/-- So with these slots some document stands for the declaration. -/
theorem WellFormed.exists_read_withSlots_iff {declaration : Declaration}
    (h : declaration.WellFormed) {key value : Option MapSlot}
    (hkey : ∀ slot ∈ key, slot.WellFormed) (hvalue : ∀ slot ∈ value, slot.WellFormed) :
    (∃ v, read v = .accepted (declaration.withSlots key value)) ↔
      (key ≠ none ∧ value ≠ none ↔ declaration.kind = .map) := by
  obtain ⟨hname, hrule, hmembers, -, -, hdecorators⟩ := h
  have hkept := (violation?_eq_none_iff.1 hrule).withSlots_iff key value
  constructor
  · intro hread
    obtain ⟨v, hv⟩ := hread
    obtain ⟨-, hrule, -⟩ := read_ensures v _ hv
    exact hkept.1 (violation?_eq_none_iff.1 hrule)
  · intro hslots
    have hwritten : (declaration.withSlots key value).WellFormed :=
      ⟨hname, violation?_eq_none_iff.2 (hkept.2 hslots), hmembers, hkey, hvalue, hdecorators⟩
    exact ⟨_, (read_restores .omitted _ hwritten).2⟩

end Declaration

namespace ModelTree

/-- Every declaration of a model that is read has both slots exactly if it is a map.
With other slots it can be read exactly if the same holds of those, so that each of
them can stand alone on everything but a map. -/
theorem slots_of_ofValue {v : Value} {tree : ModelTree} (h : ofValue v = .ok tree)
    {file : ModelFile} (hfile : file ∈ tree.files) {declaration : Declaration}
    (hdeclaration : declaration ∈ file.declarations) :
    (declaration.mapKey ≠ none ∧ declaration.mapValue ≠ none ↔ declaration.kind = .map) ∧
    ∀ key value : Option MapSlot, (∀ slot ∈ key, slot.WellFormed) →
      (∀ slot ∈ value, slot.WellFormed) →
        ((∃ v, Declaration.read v = .accepted (declaration.withSlots key value)) ↔
          (key ≠ none ∧ value ≠ none ↔ declaration.kind = .map)) := by
  have hwellFormed := (wellFormed_of_ofValue h file hfile).2 declaration hdeclaration
  have hrules := Declaration.violation?_eq_none_iff.1 hwellFormed.2.1
  exact ⟨hrules.slots, fun key value hkey hvalue =>
    hwellFormed.exists_read_withSlots_iff hkey hvalue⟩

/-- The document of a concept with a key slot and no value slot. -/
def loneSlotDocument : Value :=
  .object [("models", .list [.object [("namespace", .str "org.acme"),
    ("declarations", .list [.object [("kind", .str "concept"), ("name", .str "Person"),
      ("map_key", .object [("type_name", .str "String")])]])]])]

/-- The model that the document stands for. -/
def loneSlotTree : ModelTree :=
  ⟨[⟨"org.acme", [],
    [⟨.concept, "Person", none, none, none, some ⟨"String", none⟩, none, none⟩]⟩]⟩

/-- The concept is read with its key slot, and could have the value slot instead but
not with it. -/
theorem slots_of_ofValue_sample :
    ofValue loneSlotDocument = .ok loneSlotTree ∧
    ∃ file ∈ loneSlotTree.files, ∃ declaration ∈ file.declarations,
      declaration.mapKey ≠ none ∧
      (∃ v, Declaration.read v = .accepted (declaration.withSlots none (some ⟨"Long", none⟩))) ∧
      ¬∃ v, Declaration.read v =
        .accepted (declaration.withSlots (some ⟨"String", none⟩) (some ⟨"Long", none⟩)) := by
  have hread : ofValue loneSlotDocument = .ok loneSlotTree := rfl
  obtain ⟨-, hslots⟩ := slots_of_ofValue hread List.mem_cons_self List.mem_cons_self
  refine ⟨hread, _, List.mem_cons_self, _, List.mem_cons_self, by decide, ?_, ?_⟩
  · exact (hslots none (some ⟨"Long", none⟩) (by decide) (by decide)).2 (by decide)
  · exact mt (hslots (some ⟨"String", none⟩) (some ⟨"Long", none⟩) (by decide) (by decide)).1
      (by decide)

/-- Slots are not for maps only: the concept of the document has one. -/
theorem not_slots_only_for_maps :
    ¬∀ v tree, ofValue v = .ok tree → ∀ file ∈ tree.files,
      ∀ declaration ∈ file.declarations,
        (declaration.kind = .map → declaration.mapKey ≠ none ∧ declaration.mapValue ≠ none) ∧
        (declaration.kind ≠ .map → declaration.mapKey = none ∧ declaration.mapValue = none) := by
  intro h
  have hread : ofValue loneSlotDocument = .ok loneSlotTree := rfl
  obtain ⟨-, hnone⟩ := h _ _ hread _ List.mem_cons_self _ List.mem_cons_self
  have hslot : (some ⟨"String", none⟩ : Option MapSlot) = none := (hnone (by decide)).1
  exact nomatch hslot

end ModelTree

end ModelTagging
