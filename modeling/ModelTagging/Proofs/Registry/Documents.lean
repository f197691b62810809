import ModelTagging.Proofs.Model.Plain
import ModelTagging.Proofs.Registry.Repeats
import ModelTagging.Proofs.Registry.WellFormed

/-!
# Registries of documents

Which objects stand for a registry. An object is one when it spells a model in
which no name is there twice. Otherwise it is refused, for its shape if it spells
no model, whatever names are there twice in it, and else for the first of its
namespaces that cannot be registered after those before it. The document of the
registry spells the same model in the plain manner.
-/

namespace ModelTagging

/-- No name is there twice on any of the three levels of a model. -/
structure ModelTree.DistinctNames (tree : ModelTree) : Prop where
  /-- The namespaces have distinct names. -/
  namespaces : (tree.files.map (·.namespaceName)).Nodup
  /-- Declarations have distinct names, and so do the properties of each. -/
  files : ∀ file ∈ tree.files, file.DistinctNames

namespace Registry

/-! ## Registering the namespaces of a model -/

/-- The namespaces of a model can be registered exactly if no name is there twice,
and then make up its registry. -/
theorem ofFiles_eq_ok_iff_distinctNames (tree : ModelTree) {registry : Registry} :
    ofFiles tree.files = .ok registry ↔ tree.DistinctNames ∧ registry = ⟨tree.files⟩ := by
  rw [ofFiles_eq_ok_iff]
  simp only [ModelFile.repeat?_eq_none_iff]
  constructor
  · rintro ⟨hnodup, hfiles, hregistry⟩
    exact ⟨⟨hnodup, hfiles⟩, hregistry⟩
  · rintro ⟨⟨hnodup, hfiles⟩, hregistry⟩
    exact ⟨hnodup, hfiles, hregistry⟩

/-- Registering some namespaces fails at the first that is refused after those
before it were registered. -/
theorem addAll_eq_error_iff {registry : Registry} {files : List ModelFile} {error : ModelError} :
    registry.addAll files = .error error ↔ ∃ before file after larger,
      files = before ++ file :: after ∧ registry.addAll before = .ok larger ∧
        larger.Refuses file error := by
  induction files generalizing registry with
  | nil => simp [addAll, pure, Except.pure]
  | cons first rest ih =>
    have hstep : registry.addAll (first :: rest) = .error error ↔
        registry.Refuses first error ∨
          ∃ larger, registry.add first = .ok larger ∧ larger.addAll rest = .error error := by
      rw [← add_eq_error_iff]
      exact Except.bind_eq_error_iff
    simp only [hstep, ih, List.cons_eq_append_iff]
    constructor
    · rintro (hrefuses | ⟨larger, hadd, before, file, after, last, rfl, hbefore, hrefuses⟩)
      · exact ⟨[], first, rest, registry, .inl ⟨rfl, rfl⟩, rfl, hrefuses⟩
      · exact ⟨first :: before, file, after, last, .inr ⟨before, rfl, rfl⟩,
          Except.bind_eq_ok_iff.2 ⟨larger, hadd, hbefore⟩, hrefuses⟩
    · rintro ⟨before, file, after, last, ⟨rfl, hfiles⟩ | ⟨others, rfl, rfl⟩, hbefore, hrefuses⟩
      · obtain ⟨rfl, rfl⟩ := List.cons.inj hfiles
        obtain rfl : registry = last := Except.ok.inj hbefore
        exact .inl hrefuses
      · obtain ⟨larger, hadd, hothers⟩ := Except.bind_eq_ok_iff.1 hbefore
        exact .inr ⟨larger, hadd, others, file, after, last, rfl, hothers, hrefuses⟩

/-- The namespaces of a model are refused for the first that is refused by the
registry of those before it. -/
theorem ofFiles_eq_error_iff {files : List ModelFile} {error : ModelError} :
    ofFiles files = .error error ↔ ∃ before file after,
      files = before ++ file :: after ∧ (ModelTree.mk before).DistinctNames ∧
        Refuses ⟨before⟩ file error := by
  have hbefore (before : List ModelFile) (registry : Registry) :
      empty.addAll before = .ok registry ↔
        (ModelTree.mk before).DistinctNames ∧ registry = ⟨before⟩ :=
    ofFiles_eq_ok_iff_distinctNames ⟨before⟩
  simp only [ofFiles, addAll_eq_error_iff, hbefore]
  constructor
  · rintro ⟨before, file, after, _, hfiles, ⟨hdistinct, rfl⟩, hrefuses⟩
    exact ⟨before, file, after, hfiles, hdistinct, hrefuses⟩
  · rintro ⟨before, file, after, hfiles, hdistinct, hrefuses⟩
    exact ⟨before, file, after, _, hfiles, ⟨hdistinct, rfl⟩, hrefuses⟩

end Registry

/-- The error is about a name that is there twice. -/
def ModelError.AboutNames : ModelError → Prop
  | .shape _ | .entries _ => False
  | _ => True

/-- A namespace is refused for names only. -/
theorem Registry.Refuses.aboutNames {registry : Registry} {file : ModelFile} {error : ModelError}
    (h : registry.Refuses file error) : error.AboutNames := by
  cases h with
  | taken => trivial
  | @repeats name => cases name <;> trivial

namespace Registry

/-! ## Documents -/

variable {fields : Fields}

/-- An object that spells a model comes to what registering its namespaces comes
to. -/
theorem ofValue_of_spelled {tree : ModelTree}
    (h : ModelTree.Spelled .free (.object fields) tree) :
    ofValue (.object fields) = ofFiles tree.files := by
  have hread : ModelTree.ofEntries (.object fields) = .ok tree :=
    ModelTree.ofDecoded_eq_ok_iff.2 ((ModelTree.read_follows _ tree).2 h)
  rw [ofValue, hread]
  rfl

/-- An object that spells no model is refused for its shape. -/
theorem ofValue_of_not_spelled (h : ¬∃ tree, ModelTree.Spelled .free (.object fields) tree) :
    ∃ errors, ofValue (.object fields) = .error (.shape errors) := by
  cases hread : ModelTree.read (.object fields) with
  | accepted tree => exact absurd ⟨tree, (ModelTree.read_follows _ tree).1 hread⟩ h
  | rejected errors =>
    refine ⟨errors, ?_⟩
    rw [ofValue, ModelTree.ofEntries_object, ModelTree.ofValue, hread]
    rfl

/-- An object stands for a registry exactly if it spells its model and no name is
there twice in that. -/
theorem ofValue_eq_ok_iff {registry : Registry} :
    ofValue (.object fields) = .ok registry ↔
      ModelTree.Spelled .free (.object fields) registry.tree ∧ registry.tree.DistinctNames := by
  constructor
  · intro h
    obtain ⟨tree, htree, hfiles⟩ := Except.bind_eq_ok_iff.1 h
    have hread : ModelTree.read (.object fields) = .accepted tree :=
      ModelTree.ofDecoded_eq_ok_iff.1 htree
    obtain ⟨hdistinct, rfl⟩ := (ofFiles_eq_ok_iff_distinctNames tree).1 hfiles
    exact ⟨(ModelTree.read_follows _ tree).1 hread, hdistinct⟩
  · rintro ⟨hspelled, hdistinct⟩
    rw [ofValue_of_spelled hspelled]
    exact (ofFiles_eq_ok_iff_distinctNames registry.tree).2 ⟨hdistinct, rfl⟩

/-- An object that spells a model is refused for names only. -/
theorem aboutNames_of_spelled {tree : ModelTree} {error : ModelError}
    (hspelled : ModelTree.Spelled .free (.object fields) tree)
    (h : ofValue (.object fields) = .error error) : error.AboutNames := by
  rw [ofValue_of_spelled hspelled, ofFiles_eq_error_iff] at h
  obtain ⟨before, file, after, -, -, hrefuses⟩ := h
  exact hrefuses.aboutNames

/-- What is written of a well-formed registry spells its model plainly. -/
theorem WellFormed.spelled_toValue {registry : Registry} (h : registry.WellFormed) :
    ModelTree.Spelled .plain registry.toValue registry.tree :=
  (ModelTree.written registry.tree fun file hfile => (h.2 file hfile).1).2

/-- An object stands for a registry exactly if it spells its model and no name is
there twice in that. It is refused for its shape exactly if it spells no model,
and if it spells one for the first of its namespaces that is refused by the
registry of those before it; there is no other error. What is written of the
registry spells the model plainly: with its defaults, without absent parts, and
with every number and truth value as itself. -/
theorem registered_from_document (fields : Fields) :
    (∀ registry, ofValue (.object fields) = .ok registry ↔
      ModelTree.Spelled .free (.object fields) registry.tree ∧ registry.tree.DistinctNames) ∧
    ((∃ errors, ofValue (.object fields) = .error (.shape errors)) ↔
      ¬∃ tree, ModelTree.Spelled .free (.object fields) tree) ∧
    (∀ tree, ModelTree.Spelled .free (.object fields) tree → ∀ error,
      (ofValue (.object fields) = .error error ↔ ∃ before file after,
        tree.files = before ++ file :: after ∧ (ModelTree.mk before).DistinctNames ∧
          Refuses ⟨before⟩ file error)) ∧
    (∀ error, ofValue (.object fields) = .error error →
      error.AboutNames ∨ ∃ errors, error = .shape errors) ∧
    ∀ registry, ofValue (.object fields) = .ok registry →
      ModelTree.Spelled .plain registry.toValue registry.tree := by
  refine ⟨fun registry => ofValue_eq_ok_iff, ⟨?_, ofValue_of_not_spelled⟩,
    fun tree hspelled error => ?_, fun error h => ?_,
    fun registry h => (wellFormed_of_ofValue h).spelled_toValue⟩
  · rintro ⟨errors, h⟩ ⟨tree, hspelled⟩
    exact aboutNames_of_spelled hspelled h
  · rw [ofValue_of_spelled hspelled, ofFiles_eq_error_iff]
  · by_cases hspelled : ∃ tree, ModelTree.Spelled .free (.object fields) tree
    · obtain ⟨tree, hspelled⟩ := hspelled
      exact .inl (aboutNames_of_spelled hspelled h)
    · obtain ⟨errors, hshape⟩ := ofValue_of_not_spelled hspelled
      exact .inr ⟨errors, Except.error.inj (h.symm.trans hshape)⟩

/-- An object with a namespace of these declarations. -/
def sampleFields (declarations : List Value) : Fields :=
  [("models", .list [.object [("declarations", .list declarations),
    ("namespace", .str "org.acme")]])]

/-- A scalar that spells a truth value and a double by texts and names an absent
part. -/
def sampleScalar : Value :=
  .object [("scalar_type", .str "Long"), ("name", .str "Size"), ("kind", .str "scalar"),
    ("super_type", .null),
    ("decorators", .list [.object [("name", .str "Limit"), ("arguments", .list [
      .object [("kind", .str "number"), ("value", .str "1.5")],
      .object [("kind", .str "boolean"), ("value", .str "Yes")]])]])]

/-- An enumeration whose only member has a type. -/
def sampleEnum : Value :=
  .object [("kind", .str "enum"), ("name", .str "Size"),
    ("properties", .list [.object [("kind", .str "enum_value"), ("name", .str "Big"),
      ("type_name", .str "Long")]])]

/-- A document that stands for a registry, one with a name that is there twice,
and one with such a name that spells no model. -/
theorem registered_from_document_sample :
    (∃ registry, ofValue (.object (sampleFields [sampleScalar])) = .ok registry ∧
      registry.namespaces = ["org.acme"] ∧ registry.tree.DistinctNames ∧
      ModelTree.Spelled .plain registry.toValue registry.tree) ∧
    ofValue (.object (sampleFields [sampleScalar, sampleScalar])) =
      .error (.repeatedDeclaration "org.acme" "Size") ∧
    (∃ tree, ModelTree.Spelled .free (.object (sampleFields [sampleScalar, sampleScalar])) tree) ∧
    ¬∃ tree, ModelTree.Spelled .free
      (.object (sampleFields [sampleScalar, sampleScalar, sampleEnum])) tree := by
  obtain ⟨hok, -, -, -, hplain⟩ := registered_from_document (sampleFields [sampleScalar])
  have hrepeat : ofValue (.object (sampleFields [sampleScalar, sampleScalar])) =
      .error (.repeatedDeclaration "org.acme" "Size") := rfl
  refine ⟨⟨_, rfl, rfl, ((hok _).1 rfl).2, hplain _ rfl⟩, hrepeat, ?_,
    (registered_from_document _).2.1.1 ⟨_, rfl⟩⟩
  by_contra hnot
  obtain ⟨errors, hshape⟩ := (registered_from_document _).2.1.2 hnot
  exact nomatch hrepeat.symm.trans hshape

end Registry

end ModelTagging
