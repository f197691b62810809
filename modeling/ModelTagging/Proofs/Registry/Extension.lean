import ModelTagging.Proofs.Registry.Documents
import ModelTagging.Proofs.Tagging.Reachable

/-!
# Extending a registry

A registry is extended on a copy of its model, which passes through its document
value. The copy never fails and is the registry itself, so that extending comes to
registering the namespaces there are and the new ones together: the same result if no
name is there twice, and otherwise the same refusal, which is for the first of the new
namespaces that cannot be registered after all before it.
-/

namespace ModelTagging

namespace Registry

/-- Namespaces can be registered in two parts. -/
theorem addAll_append (registry : Registry) (first second : List ModelFile) :
    registry.addAll (first ++ second) = registry.addAll first >>= (·.addAll second) := by
  induction first generalizing registry with
  | nil => rfl
  | cons file rest ih =>
    rw [List.cons_append, addAll, addAll]
    cases registry.add file with
    | ok larger => exact ih larger
    | error error => rfl

/-- Registering after the namespaces of a well-formed registry is registering them all
anew. -/
theorem WellFormed.addAll_eq_ofFiles {registry : Registry} (h : registry.WellFormed)
    (files : List ModelFile) : registry.addAll files = ofFiles (registry.files ++ files) := by
  have hown : empty.addAll registry.files = .ok registry := h.ofFiles_files
  rw [ofFiles, addAll_append, hown]
  rfl

/-- It succeeds exactly if no name is there twice. -/
theorem WellFormed.addAll_eq_ok_iff_distinctNames {registry : Registry} (h : registry.WellFormed)
    {files : List ModelFile} {result : Registry} :
    registry.addAll files = .ok result ↔
      (ModelTree.mk (registry.files ++ files)).DistinctNames ∧
        result = ⟨registry.files ++ files⟩ := by
  rw [h.addAll_eq_ofFiles files]
  exact ofFiles_eq_ok_iff_distinctNames ⟨registry.files ++ files⟩

/-- Otherwise it fails for the first namespace that is refused by all before it. -/
theorem WellFormed.addAll_eq_error_iff_refuses {registry : Registry} (h : registry.WellFormed)
    {files : List ModelFile} {error : ModelError} :
    registry.addAll files = .error error ↔ ∃ before file after,
      files = before ++ file :: after ∧
        (ModelTree.mk (registry.files ++ before)).DistinctNames ∧
        Refuses ⟨registry.files ++ before⟩ file error := by
  rw [addAll_eq_error_iff]
  simp only [h.addAll_eq_ok_iff_distinctNames]
  constructor
  · rintro ⟨before, file, after, _, hfiles, ⟨hdistinct, rfl⟩, hrefuses⟩
    exact ⟨before, file, after, hfiles, hdistinct, hrefuses⟩
  · rintro ⟨before, file, after, hfiles, hdistinct, hrefuses⟩
    exact ⟨before, file, after, _, hfiles, ⟨hdistinct, rfl⟩, hrefuses⟩

/-- Extending a reachable registry comes to registering its namespaces together with
the new ones, be it to the same registry or to the same error. Its own model is handed
on unchanged and without failing. There is a result exactly if no name is there twice,
and an error exactly for the first new namespace that is refused by all before it. -/
theorem extend_alike {registry : Registry} (hr : registry.Reachable) (files : List ModelFile) :
    ofValue registry.toValue = .ok registry ∧
    registry.extend files = ofFiles (registry.files ++ files) ∧
    (∀ result, registry.extend files = .ok result ↔
      (ModelTree.mk (registry.files ++ files)).DistinctNames ∧
        result = ⟨registry.files ++ files⟩) ∧
    ∀ error, registry.extend files = .error error ↔ ∃ before file after,
      files = before ++ file :: after ∧
        (ModelTree.mk (registry.files ++ before)).DistinctNames ∧
        Refuses ⟨registry.files ++ before⟩ file error := by
  have hwellFormed := hr.wellFormed
  rw [hwellFormed.extend_eq files]
  exact ⟨hwellFormed.ofValue_toValue, hwellFormed.addAll_eq_ofFiles files,
    fun _ => hwellFormed.addAll_eq_ok_iff_distinctNames,
    fun _ => hwellFormed.addAll_eq_error_iff_refuses⟩

/-- Of three new namespaces the second is refused, whose name the registry has taken,
and not the third, which repeats the first; the first alone is registered. -/
theorem extend_alike_sample :
    ofValue Sample.registry.toValue = .ok Sample.registry ∧
    Sample.registry.extend [⟨"org.shop", [], []⟩, ⟨"org.acme", [], []⟩, ⟨"org.shop", [], []⟩] =
      .error (.namespaceTaken "org.acme") ∧
    Sample.registry.extend [⟨"org.shop", [], []⟩] =
      .ok ⟨Sample.registry.files ++ [⟨"org.shop", [], []⟩]⟩ := by
  have hreachable := Sample.reachable_registry
  obtain ⟨hcopy, hrefused, -⟩ := extend_alike hreachable
    [⟨"org.shop", [], []⟩, ⟨"org.acme", [], []⟩, ⟨"org.shop", [], []⟩]
  obtain ⟨-, hregistered, -⟩ := extend_alike hreachable [⟨"org.shop", [], []⟩]
  exact ⟨hcopy, hrefused.trans rfl, hregistered.trans rfl⟩

end Registry

end ModelTagging
