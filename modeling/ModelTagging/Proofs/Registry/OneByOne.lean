import Mathlib.Data.List.Induction
import ModelTagging.Proofs.Registry.Repeats
import ModelTagging.Proofs.Tagging.Reachable

/-!
# Registering namespaces one by one

A run of registrations that goes on after a refusal. What a registry holds after
any number of calls are the namespaces of the calls that were not refused, in
their order, with no name twice on any level; a refusal is exactly for a taken
namespace or for the first repeat within the new one, and leaves the registry as
it was. The run starts without namespaces, and each call brings a namespace that
some document stands for.
-/

namespace ModelTagging

namespace Registry

/-- No namespace is there twice or without a name, and no name repeats within
any. -/
structure Orderly (registry : Registry) : Prop where
  /-- The namespaces have distinct names. -/
  namespaces_nodup : registry.namespaces.Nodup
  /-- Each of these names has a character. -/
  namespaces_ne_empty : ∀ namespaceName ∈ registry.namespaces, namespaceName ≠ ""
  /-- Declarations have distinct names, and so do the properties of each. -/
  distinctNames : ∀ file ∈ registry.files, file.DistinctNames

/-- A well-formed registry is in this order. -/
theorem WellFormed.orderly {registry : Registry} (h : registry.WellFormed) :
    registry.Orderly where
  namespaces_nodup := h.1
  namespaces_ne_empty := by
    intro namespaceName hname
    obtain ⟨file, hfile, rfl⟩ := List.mem_map.1 hname
    exact (h.2 file hfile).1.1
  distinctNames := fun file hfile => file.repeat?_eq_none_iff.1 (h.2 file hfile).2

end Registry

/-! ## Documents of a model -/

namespace Value

/-- What an object holds under a name. -/
def field? (name : String) : Value → Option Value
  | .object fields => Fields.get? fields name
  | _ => none

/-- The namespaces that the document of a model lists, in their order. -/
def listedNamespaces (v : Value) : List Value :=
  match v.field? "models" with
  | some (.list files) => files.filterMap (field? "namespace")
  | _ => []

end Value

/-- The document of a registry lists its namespaces. -/
theorem Registry.listedNamespaces_toValue (registry : Registry) :
    registry.toValue.listedNamespaces = registry.namespaces.map .str := by
  have hmodels : registry.toValue.field? "models" =
      some (.list (registry.files.map (ModelFile.toValue .omitted))) := rfl
  have hfile (file : ModelFile) : (ModelFile.toValue .omitted file).field? "namespace" =
      some (.str file.namespaceName) := rfl
  simp only [Value.listedNamespaces, hmodels, List.filterMap_map, Function.comp_def, hfile,
    namespaces, List.map_map, List.filterMap_eq_map']

/-! ## Runs -/

/-- A call that registers a namespace, and how it ended. -/
structure Registration where
  /-- The namespace. -/
  file : ModelFile
  /-- Why it was refused, if it was. -/
  refusal? : Option ModelError

/-- A registry and the calls that made it what it is, refused ones included. -/
structure Registrations where
  /-- What the registry is now. -/
  registry : Registry
  /-- All calls in their order. -/
  calls : List Registration

namespace Registrations

/-- One more call, with whatever it leaves of the registry. -/
def next (run : Registrations) (file : ModelFile) : Registrations :=
  match (Registry.adding file).outcome run.registry with
  | (.ok _, after) => ⟨after, run.calls ++ [⟨file, none⟩]⟩
  | (.error error, after) => ⟨after, run.calls ++ [⟨file, some error⟩]⟩

/-- The calls for some namespaces, one after the other, starting without any. -/
def ofFiles (files : List ModelFile) : Registrations := files.foldl next ⟨.empty, []⟩

/-- The namespaces of the calls that were not refused. -/
def accepted (run : Registrations) : List ModelFile :=
  (run.calls.filter (·.refusal?.isNone)).map (·.file)

/-- A run goes on from where it was. -/
theorem ofFiles_append_singleton (files : List ModelFile) (file : ModelFile) :
    ofFiles (files ++ [file]) = (ofFiles files).next file := by
  simp [ofFiles]

/-- A call is noted with the error it fails with, and changes the registry only
if there is none. -/
theorem next_eq (run : Registrations) (file : ModelFile) :
    ∃ refusal?, (run.next file).calls = run.calls ++ [⟨file, refusal?⟩] ∧
      (∀ error, refusal? = some error ↔ run.registry.Refuses file error) ∧
      (refusal? = none → run.registry.add file = .ok (run.next file).registry) ∧
      (refusal? ≠ none → (run.next file).registry = run.registry) := by
  simp only [← Registry.add_eq_error_iff]
  rw [next, Registry.add]
  cases hadding : (Registry.adding file).outcome run.registry with
  | mk result after =>
    cases result with
    | ok _ =>
      refine ⟨none, rfl, ?_, fun _ => rfl, fun hrefused => absurd rfl hrefused⟩
      simp [Except.map]
    | error error =>
      have hafter : after = run.registry := Registry.eq_of_outcome_adding_eq_error hadding
      refine ⟨some error, rfl, ?_, ?_, fun _ => hafter⟩
      · simp [Except.map]
      · intro haccepted
        cases haccepted

/-- A call adds its namespace to the accepted ones if it is not refused. -/
theorem accepted_next {run : Registrations} {file : ModelFile} {refusal? : Option ModelError}
    (h : (run.next file).calls = run.calls ++ [⟨file, refusal?⟩]) :
    (run.next file).accepted =
      if refusal? = none then run.accepted ++ [file] else run.accepted := by
  cases refusal? <;> simp [accepted, h]

/-- The calls of a run are those asked for. -/
theorem map_file_calls (files : List ModelFile) : (ofFiles files).calls.map (·.file) = files := by
  induction files using List.reverseRecOn with
  | nil => rfl
  | append_singleton files file ih =>
    obtain ⟨refusal?, hcalls, -⟩ := (ofFiles files).next_eq file
    rw [ofFiles_append_singleton, hcalls, List.map_append, ih]
    rfl

/-- A run leaves a registry of the accepted namespaces. -/
theorem files_registry (files : List ModelFile) :
    (ofFiles files).registry.files = (ofFiles files).accepted := by
  induction files using List.reverseRecOn with
  | nil => rfl
  | append_singleton files file ih =>
    obtain ⟨refusal?, hcalls, -, hadded, hleft⟩ := (ofFiles files).next_eq file
    rw [ofFiles_append_singleton, accepted_next hcalls]
    by_cases haccepted : refusal? = none
    · have hlarger := ((Registry.add_eq_ok_iff _ _ _).1 (hadded haccepted)).2.2
      rw [if_pos haccepted, hlarger, ih]
    · rw [if_neg haccepted, hleft haccepted, ih]

/-- A run leaves a well-formed registry if its namespaces come from documents. -/
theorem wellFormed_registry {files : List ModelFile}
    (hfiles : ∀ file ∈ files, file.FromDocument) : (ofFiles files).registry.WellFormed := by
  induction files using List.reverseRecOn with
  | nil => exact Registry.wellFormed_empty
  | append_singleton files file ih =>
    obtain ⟨hbefore, hlast⟩ := List.forall_mem_append.1 hfiles
    have hfile : file.WellFormed := file.fromDocument_iff.1 (hlast file List.mem_cons_self)
    obtain ⟨refusal?, -, -, hadded, hleft⟩ := (ofFiles files).next_eq file
    rw [ofFiles_append_singleton]
    by_cases haccepted : refusal? = none
    · exact (ih hbefore).add hfile (hadded haccepted)
    · rw [hleft haccepted]
      exact ih hbefore

/-- After any calls the registry is in order and holds the namespaces of those
that were not refused, in their order, as does its document. One more call fails
exactly if its namespace is taken or repeats a name, is refused for the first
reason there is, and then leaves everything as it was. -/
theorem registered_one_by_one {files : List ModelFile}
    (hfiles : ∀ file ∈ files, file.FromDocument) :
    (ofFiles files).registry.Orderly ∧
    (ofFiles files).calls.map (·.file) = files ∧
    (ofFiles files).registry.files = (ofFiles files).accepted ∧
    (ofFiles files).registry.namespaces = (ofFiles files).accepted.map (·.namespaceName) ∧
    (ofFiles files).registry.toValue.listedNamespaces =
      (ofFiles files).accepted.map (.str ·.namespaceName) ∧
    ∀ file, ∃ refusal?,
      (ofFiles (files ++ [file])).calls = (ofFiles files).calls ++ [⟨file, refusal?⟩] ∧
      (refusal? ≠ none ↔
        file.namespaceName ∈ (ofFiles files).registry.namespaces ∨
          ¬(file.declarations.map (·.name)).Nodup ∨
          ∃ declaration ∈ file.declarations, ¬(declaration.members.map (·.name)).Nodup) ∧
      (∀ error, refusal? = some error ↔ (ofFiles files).registry.Refuses file error) ∧
      (refusal? ≠ none → (ofFiles (files ++ [file])).registry = (ofFiles files).registry) := by
  have hregistry := files_registry files
  have hnamespaces : (ofFiles files).registry.namespaces =
      (ofFiles files).accepted.map (·.namespaceName) := by
    rw [Registry.namespaces, hregistry]
  refine ⟨(wellFormed_registry hfiles).orderly, map_file_calls files, hregistry, hnamespaces, ?_,
    fun file => ?_⟩
  · rw [Registry.listedNamespaces_toValue, hnamespaces, List.map_map]
    rfl
  · obtain ⟨refusal?, hcalls, hrefuses, -, hleft⟩ := (ofFiles files).next_eq file
    have hfails := (ofFiles files).registry.exists_refuses_iff file
    rw [ofFiles_append_singleton]
    refine ⟨refusal?, hcalls, ?_, hrefuses, hleft⟩
    simp only [Option.ne_none_iff_exists', hrefuses, hfails, ModelFile.DistinctNames, not_and_or,
      not_forall, exists_prop]

/-- An asset whose properties are texts of these names. -/
def sampleAsset (name : String) (properties : List String) : Declaration :=
  ⟨.asset, name, none,
    some (properties.map fun property =>
      ⟨.field, property, some "String", false, false, none⟩),
    none, none, none, none⟩

/-- Five namespaces. The second takes the name of the first, the third repeats a
declaration before that repeats a property, and the fourth the other way round. -/
def sampleFiles : List ModelFile :=
  [⟨"org.acme", [], []⟩, ⟨"org.acme", [], [sampleAsset "Item" ["label", "label"]]⟩,
   ⟨"org.shop", [], [sampleAsset "Item" ["label"], sampleAsset "Item" ["label", "label"]]⟩,
   ⟨"org.shop", [], [sampleAsset "Item" ["label", "label"], sampleAsset "Item" []]⟩,
   ⟨"org.shop", [], [sampleAsset "Item" ["label"], sampleAsset "Order" ["label"]]⟩]

/-- Three of five calls are refused, each for the first reason there is. -/
theorem registered_one_by_one_sample :
    (∀ file ∈ sampleFiles, file.FromDocument) ∧ (ofFiles sampleFiles).registry.Orderly ∧
    (ofFiles sampleFiles).registry.namespaces = ["org.acme", "org.shop"] ∧
    (ofFiles sampleFiles).calls.map (·.refusal?) =
      [none, some (.namespaceTaken "org.acme"), some (.repeatedDeclaration "org.shop" "Item"),
        some (.repeatedProperty "org.shop" "Item" "label"), none] := by
  have hwellFormed : ∀ file ∈ sampleFiles, file.WellFormed := by decide
  have hfiles : ∀ file ∈ sampleFiles, file.FromDocument :=
    fun file hfile => file.fromDocument_iff.2 (hwellFormed file hfile)
  obtain ⟨horderly, -, -, hnamespaces, -⟩ := registered_one_by_one hfiles
  exact ⟨hfiles, horderly, hnamespaces.trans rfl, rfl⟩

end Registrations

end ModelTagging
