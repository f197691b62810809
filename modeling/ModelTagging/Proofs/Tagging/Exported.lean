import ModelTagging.Proofs.Tagging.Reachable

/-!
# Models handed on as document values

A model is handed on by writing it without its absent fields and reading the
result. Whatever the model has been through, the commands that were applied to
it included, what is read is the model that was written, field by field:
integers and doubles stay apart, and so do an absent list and an empty one.
A document that was read need not be what is written of its model, since it may
name fields in another order, give a default or spell a value differently. What
is written, however, is read and written again as it stands.
-/

namespace ModelTagging

namespace ModelTree

/-- The models there can be: those that documents stand for, and those that
reachable registries hold. -/
inductive AtHand : ModelTree → Prop where
  /-- It is read from a document value. -/
  | ofValue {v : Value} {tree : ModelTree} (h : ofValue v = .ok tree) : AtHand tree
  /-- It is read from an object or a list of entries. -/
  | ofEntries {v : Value} {tree : ModelTree} (h : ofEntries v = .ok tree) : AtHand tree
  /-- It is held by a registry, whatever operations have built that. -/
  | held {registry : Registry} (h : registry.Reachable) : AtHand registry.tree

/-- The models there can be are those of well-formed namespaces. Their names
are distinct only where the namespaces are registered. -/
theorem atHand_iff (tree : ModelTree) :
    tree.AtHand ↔ ∀ file ∈ tree.files, file.WellFormed := by
  constructor
  · intro h
    cases h with
    | ofValue h => exact wellFormed_of_ofValue h
    | ofEntries h => exact wellFormed_of_ofEntries h
    | held h => exact fun file hfile => (h.wellFormed.2 file hfile).1
  · intro h
    exact .ofValue (ofValue_toValue .omitted h)

/-- What is written of the model that a document value stands for. -/
def rewritten (v : Value) : Except ModelError Value := (ofValue v).map (toValue .omitted)

/-- A model there can be is read back from what is written of it, and what is
written of a model that was read is read and written again as it stands. -/
theorem read_written :
    (∀ tree : ModelTree, tree.AtHand → ofValue (tree.toValue .omitted) = .ok tree) ∧
    ∀ (v : Value) (tree : ModelTree), ofValue v = .ok tree →
      rewritten (tree.toValue .omitted) = .ok (tree.toValue .omitted) := by
  have hback : ∀ tree : ModelTree, tree.AtHand → ofValue (tree.toValue .omitted) = .ok tree :=
    fun tree h => ofValue_toValue .omitted ((atHand_iff tree).1 h)
  refine ⟨hback, fun v tree h => ?_⟩
  rw [rewritten, hback tree (.ofValue h)]
  rfl

/-- A document that is not what is written of its model: fields are named in
another order, one is absent, defaults are left out, and a truth value and a
double are spelt as texts. -/
def sampleDocument : Value :=
  .object [("models", .list [.object [
    ("declarations", .list [
      .object [("name", .str "Range"), ("kind", .str "concept"), ("super_type", .null),
        ("properties", .list []),
        ("decorators", .list [.object [("name", .str "Limit"), ("arguments", .list [
          .object [("kind", .str "number"), ("value", .int 1)],
          .object [("kind", .str "number"), ("value", .str "1.5")],
          .object [("kind", .str "type_reference"), ("is_array", .str "Yes"),
            ("type_name", .str "Long")]])]])],
      .object [("kind", .str "asset"), ("name", .str "Plain"), ("decorators", .list [])]]),
    ("namespace", .str "org.acme")]])]

/-- The model of the document: an integer beside a double, an empty list beside
an absent one. -/
def sampleTree : ModelTree :=
  ⟨[⟨"org.acme", [],
    [⟨.concept, "Range", none, some [], none, none, none,
      some [⟨"Limit", some [.number (.whole 1),
        .number (.real false ⟨6755399441055744, -52, by decide, by decide, by decide, by decide⟩),
        .typeReference "Long" true]⟩]⟩,
     ⟨.asset, "Plain", none, none, none, none, none, some []⟩]⟩]⟩

/-- The document, and a model that commands have tagged. -/
theorem read_written_sample :
    (ofValue sampleDocument = .ok sampleTree ∧
      (Sample.registry.decorated Sample.personCommands).Reachable) ∧
    ofValue (sampleTree.toValue .omitted) = .ok sampleTree ∧
    ofValue ((Sample.registry.decorated Sample.personCommands).tree.toValue .omitted) =
      .ok (Sample.registry.decorated Sample.personCommands).tree ∧
    rewritten (sampleTree.toValue .omitted) = .ok (sampleTree.toValue .omitted) := by
  have hread : ofValue sampleDocument = .ok sampleTree := rfl
  have htagged : (Sample.registry.decorated Sample.personCommands).Reachable :=
    (Registry.reachable_iff_wellFormed _).2 (by decide)
  exact ⟨⟨hread, htagged⟩, read_written.1 _ (.ofValue hread), read_written.1 _ (.held htagged),
    read_written.2 _ _ hread⟩

end ModelTree

end ModelTagging
