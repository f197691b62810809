import Mathlib.Data.List.Nodup
import ModelTagging.Proofs.Model.RoundTrip
import ModelTagging.Registry.Basic

/-!
# Well-formed registries

A registry is well-formed when its namespaces are, have distinct names and
repeat no name inside. Registering keeps this and so does reading a model, and
a well-formed registry is rebuilt exactly from its document value, so handing
its model on never fails and never changes it.
-/

namespace ModelTagging

/-- A computation in two steps succeeds when both steps do. -/
theorem Except.bind_eq_ok_iff {ε α β : Type} {x : Except ε α} {f : α → Except ε β} {b : β} :
    x >>= f = .ok b ↔ ∃ a, x = .ok a ∧ f a = .ok b := by
  cases x <;> simp [bind, Except.bind]

/-- It fails when the first step does, or the second one after it. -/
theorem Except.bind_eq_error_iff {ε α β : Type} {x : Except ε α} {f : α → Except ε β} {e : ε} :
    x >>= f = .error e ↔ x = .error e ∨ ∃ a, x = .ok a ∧ f a = .error e := by
  cases x <;> simp [bind, Except.bind]

/-- Rewording an error makes no difference to success. -/
@[simp] theorem Except.mapError_eq_ok_iff {ε ε' α : Type} {x : Except ε α} {f : ε → ε'} {a : α} :
    x.mapError f = .ok a ↔ x = .ok a := by
  cases x <;> simp [Except.mapError]

namespace Registry

/-- The namespaces of a registry have distinct names, are well-formed and
repeat no name. -/
def WellFormed (registry : Registry) : Prop :=
  registry.namespaces.Nodup ∧ ∀ file ∈ registry.files, file.WellFormed ∧ file.repeat? = none

instance (registry : Registry) : Decidable registry.WellFormed :=
  inferInstanceAs (Decidable (_ ∧ _))

/-- The registry without namespaces is well-formed. -/
theorem wellFormed_empty : empty.WellFormed := by decide

/-- Namespaces are registered in their order after those already there, and
only if all names are new and none repeats. -/
theorem addAll_eq_ok_iff {registry result : Registry} {files : List ModelFile} :
    registry.addAll files = .ok result ↔
      (files.map (·.namespaceName)).Nodup ∧
      (∀ file ∈ files, file.namespaceName ∉ registry.namespaces ∧ file.repeat? = none) ∧
      result = ⟨registry.files ++ files⟩ := by
  induction files generalizing registry with
  | nil => simp [addAll, pure, Except.pure, eq_comm]
  | cons file rest ih =>
    have hstep : registry.addAll (file :: rest) = .ok result ↔ ∃ larger,
        registry.add file = .ok larger ∧ larger.addAll rest = .ok result :=
      Except.bind_eq_ok_iff
    rw [hstep]
    simp only [add_eq_ok_iff, ih]
    constructor
    · intro hadded
      rcases hadded with ⟨_, ⟨hnew, hrepeat, rfl⟩, hnodup, hrest, rfl⟩
      refine ⟨?_, ?_, by simp⟩
      · refine List.nodup_cons.2 ⟨fun hmem => ?_, hnodup⟩
        obtain ⟨other, hother, heq⟩ := List.mem_map.1 hmem
        exact (hrest other hother).1 (by simp [namespaces, heq])
      · refine List.forall_mem_cons.2 ⟨⟨hnew, hrepeat⟩, fun other hother => ?_⟩
        obtain ⟨hnot, hnone⟩ := hrest other hother
        exact ⟨fun hmem => hnot (by simp_all [namespaces]), hnone⟩
    · intro hfiles
      rcases hfiles with ⟨hnodup, hall, rfl⟩
      obtain ⟨hfile, hdistinct⟩ := List.nodup_cons.1 hnodup
      obtain ⟨⟨hnew, hrepeat⟩, hrest⟩ := List.forall_mem_cons.1 hall
      refine ⟨_, ⟨hnew, hrepeat, rfl⟩, hdistinct, fun other hother => ⟨?_, (hrest other hother).2⟩,
        by simp⟩
      have hne : other.namespaceName ≠ file.namespaceName :=
        fun heq => hfile (List.mem_map.2 ⟨other, hother, heq⟩)
      have hnot := (hrest other hother).1
      simp_all [namespaces]

/-- A registry is made of namespaces of distinct names that repeat no name. -/
theorem ofFiles_eq_ok_iff {files : List ModelFile} {registry : Registry} :
    ofFiles files = .ok registry ↔ (files.map (·.namespaceName)).Nodup ∧
      (∀ file ∈ files, file.repeat? = none) ∧ registry = ⟨files⟩ := by
  rw [ofFiles, addAll_eq_ok_iff]
  simp [empty, namespaces]

/-- Registering well-formed namespaces keeps a registry well-formed. -/
theorem WellFormed.addAll {registry result : Registry} {files : List ModelFile}
    (h : registry.WellFormed) (hfiles : ∀ file ∈ files, file.WellFormed)
    (hadd : registry.addAll files = .ok result) : result.WellFormed := by
  obtain ⟨hnodup, hall, rfl⟩ := addAll_eq_ok_iff.1 hadd
  constructor
  · have hdisjoint : List.Disjoint registry.namespaces (files.map (·.namespaceName)) := by
      intro name hname hmem
      obtain ⟨file, hfile, rfl⟩ := List.mem_map.1 hmem
      exact (hall file hfile).1 hname
    simpa [namespaces] using List.Nodup.append h.1 hnodup hdisjoint
  · intro file hmem
    rcases List.mem_append.1 hmem with hold | hnew
    · exact h.2 file hold
    · exact ⟨hfiles file hnew, (hall file hnew).2⟩

/-- So does registering a single one. -/
theorem WellFormed.add {registry result : Registry} {file : ModelFile}
    (h : registry.WellFormed) (hfile : file.WellFormed) (hadd : registry.add file = .ok result) :
    result.WellFormed := by
  have haddAll : registry.addAll [file] = .ok result :=
    Except.bind_eq_ok_iff.2 ⟨result, hadd, rfl⟩
  exact h.addAll (by simpa using hfile) haddAll

/-- The registry of well-formed namespaces is well-formed. -/
theorem wellFormed_of_ofFiles {files : List ModelFile} {registry : Registry}
    (hfiles : ∀ file ∈ files, file.WellFormed) (h : ofFiles files = .ok registry) :
    registry.WellFormed :=
  wellFormed_empty.addAll hfiles h

end Registry

namespace ModelTree

/-- A reading comes to a model when it accepts it. -/
theorem ofDecoded_eq_ok_iff {decoded : Decoded ModelTree} {tree : ModelTree} :
    ofDecoded decoded = .ok tree ↔ decoded = .accepted tree := by
  cases decoded <;> simp [ofDecoded, Decoded.toExcept]

/-- A model that a document value stands for has well-formed namespaces. -/
theorem wellFormed_of_ofValue {v : Value} {tree : ModelTree} (h : ofValue v = .ok tree) :
    ∀ file ∈ tree.files, file.WellFormed :=
  read_ensures v tree (ofDecoded_eq_ok_iff.1 h)

/-- So has one that an object or a list of entries stands for. -/
theorem wellFormed_of_ofEntries {v : Value} {tree : ModelTree}
    (h : ofEntries v = .ok tree) : ∀ file ∈ tree.files, file.WellFormed := by
  unfold ofEntries at h
  split at h
  · exact wellFormed_of_ofValue h
  · obtain ⟨entries, -, hentries⟩ := Except.bind_eq_ok_iff.1 h
    exact wellFormed_of_readEntries (ofDecoded_eq_ok_iff.1 hentries)

/-- A model of well-formed namespaces passes through its document value
unchanged. -/
theorem ofValue_toValue (absent : AbsentFields) {tree : ModelTree}
    (h : ∀ file ∈ tree.files, file.WellFormed) : ofValue (tree.toValue absent) = .ok tree :=
  ofDecoded_eq_ok_iff.2 (read_restores absent tree h).2

end ModelTree

namespace Registry

/-- The registry of a model that is read is well-formed. -/
theorem wellFormed_of_ofValue {v : Value} {registry : Registry} (h : ofValue v = .ok registry) :
    registry.WellFormed := by
  obtain ⟨tree, htree, hfiles⟩ := Except.bind_eq_ok_iff.1 h
  exact wellFormed_of_ofFiles (ModelTree.wellFormed_of_ofEntries htree) hfiles

section

variable {registry : Registry} (h : registry.WellFormed)

include h

/-- The namespaces of a well-formed registry make it up again. -/
theorem WellFormed.ofFiles_files : ofFiles registry.files = .ok registry :=
  ofFiles_eq_ok_iff.2 ⟨h.1, fun file hfile => (h.2 file hfile).2, rfl⟩

/-- The model of a well-formed registry passes through its document value
unchanged. -/
theorem WellFormed.ofValue_toValue_tree :
    ModelTree.ofValue registry.toValue = .ok registry.tree :=
  ModelTree.ofValue_toValue .omitted fun file hfile => (h.2 file hfile).1

/-- A well-formed registry is rebuilt from its document value. -/
theorem WellFormed.ofValue_toValue : ofValue registry.toValue = .ok registry := by
  have htree : ModelTree.ofEntries registry.toValue = .ok registry.tree :=
    h.ofValue_toValue_tree
  rw [ofValue, htree]
  exact h.ofFiles_files

/-- Extending a well-formed registry is registering after its own namespaces. -/
theorem WellFormed.extend_eq (files : List ModelFile) :
    registry.extend files = registry.addAll files := by
  rw [extend, h.ofValue_toValue]
  rfl

end

end Registry

end ModelTagging
