import ModelTagging.Model.Reading
import ModelTagging.Model.Writing
import ModelTagging.Registry.Attempt

/-!
# Registries of namespaces

A registry holds namespaces in the order in which they were registered. A
namespace is refused when it is registered already, when two of its
declarations have one name, or when two properties of one declaration do.
Registering is an attempt that goes through the names until one was met before,
and changes the registry last: so the first repeat is the one reported, and a
refused namespace leaves nothing behind. Extending a registry makes a new one and
changes none.
-/

namespace ModelTagging

/-- Why a model cannot be registered. -/
inductive ModelError where
  /-- The document has not the shape of a model. -/
  | shape (errors : List ShapeError)
  /-- The document is neither an object nor a list of entries. -/
  | entries (fault : EntriesFault)
  /-- The namespace is registered already. -/
  | namespaceTaken (namespaceName : String)
  /-- A second declaration of the same name. -/
  | repeatedDeclaration (namespaceName declaration : String)
  /-- A second property of the same name. -/
  | repeatedProperty (namespaceName declaration property : String)

/-- The wording of a model error. A list of shape errors is announced by its
headline only. -/
def ModelError.message : ModelError → String
  | .shape errors => ShapeError.headline "Invalid model tree" ModelTree.shapeName errors
  | .entries fault => fault.message
  | .namespaceTaken namespaceName => "Namespace \"" ++ namespaceName ++ "\" is already registered"
  | .repeatedDeclaration namespaceName declaration =>
    "Duplicate declaration \"" ++ namespaceName ++ "." ++ declaration ++ "\""
  | .repeatedProperty namespaceName declaration property =>
    "Duplicate property \"" ++ namespaceName ++ "." ++ declaration ++ "." ++ property ++ "\""

/-- The first name that is among the seen ones or occurs a second time. -/
def firstRepeat (seen : List String) : List String → Option String
  | [] => none
  | name :: rest => if name ∈ seen then some name else firstRepeat (name :: seen) rest

/-- Nothing repeats exactly when the names are distinct and new. -/
theorem firstRepeat_eq_none_iff (seen names : List String) :
    firstRepeat seen names = none ↔ names.Nodup ∧ ∀ name ∈ names, name ∉ seen := by
  induction names generalizing seen with
  | nil => simp [firstRepeat]
  | cons name rest ih =>
    by_cases h : name ∈ seen
    · simp [firstRepeat, h]
    · simp only [firstRepeat, if_neg h, ih, List.nodup_cons, List.mem_cons, not_or]
      constructor
      · rintro ⟨hrest, hnew⟩
        refine ⟨⟨fun hm => (hnew name hm).1 rfl, hrest⟩, ?_⟩
        rintro other (rfl | hm)
        · exact h
        · exact (hnew other hm).2
      · rintro ⟨⟨hname, hrest⟩, hnew⟩
        refine ⟨hrest, fun other hm => ⟨?_, hnew other (.inr hm)⟩⟩
        rintro rfl
        exact hname hm

/-- The first repeat among declarations, given the names of those before
them. The name of a declaration is looked at before those of its properties. -/
def ModelFile.repeatAmong? (namespaceName : String) (seen : List String) :
    List Declaration → Option ModelError
  | [] => none
  | declaration :: rest =>
    if declaration.name ∈ seen then
      some (.repeatedDeclaration namespaceName declaration.name)
    else
      match firstRepeat [] (declaration.members.map (·.name)) with
      | some property => some (.repeatedProperty namespaceName declaration.name property)
      | none => repeatAmong? namespaceName (declaration.name :: seen) rest

/-- The first repeat within a namespace. -/
def ModelFile.repeat? (file : ModelFile) : Option ModelError :=
  ModelFile.repeatAmong? file.namespaceName [] file.declarations

/-- Namespaces in the order of their registration. -/
structure Registry where
  /-- The registered namespaces. -/
  files : List ModelFile
  deriving DecidableEq

namespace Registry

/-- The registry without namespaces. -/
def empty : Registry := ⟨[]⟩

/-- The names of the registered namespaces, in order. -/
def namespaces (registry : Registry) : List String := registry.files.map (·.namespaceName)

/-- The namespace registered under a name. -/
def file? (registry : Registry) (namespaceName : String) : Option ModelFile :=
  registry.files.find? (·.namespaceName == namespaceName)

/-! ## Registering a namespace -/

/-- Go through names of properties, up to one that was met before. -/
def meetProperties (namespaceName declaration : String) (met : List String) :
    List String → Attempt Registry ModelError Unit
  | [] => return
  | property :: rest => do
    if property ∈ met then
      throw (.repeatedProperty namespaceName declaration property)
    else
      meetProperties namespaceName declaration (property :: met) rest

/-- Go through declarations, and through the properties of each once its own name
turned out to be new, up to a name that was met before. -/
def meetDeclarations (namespaceName : String) (met : List String) :
    List Declaration → Attempt Registry ModelError Unit
  | [] => return
  | declaration :: rest => do
    if declaration.name ∈ met then
      throw (.repeatedDeclaration namespaceName declaration.name)
    else
      meetProperties namespaceName declaration.name [] (declaration.members.map (·.name))
      meetDeclarations namespaceName (declaration.name :: met) rest

/-- Register a namespace after those already there. -/
def adding (file : ModelFile) : Attempt Registry ModelError Unit := do
  let registry ← get
  if file.namespaceName ∈ registry.namespaces then
    throw (.namespaceTaken file.namespaceName)
  else
    meetDeclarations file.namespaceName [] file.declarations
    modify fun registry => ⟨registry.files ++ [file]⟩

/-- Going through the names changes nothing, and fails for the first repeat. -/
theorem outcome_meetProperties (namespaceName declaration : String) (met names : List String)
    (registry : Registry) :
    (meetProperties namespaceName declaration met names).outcome registry =
      match firstRepeat met names with
      | some property => (.error (.repeatedProperty namespaceName declaration property), registry)
      | none => (.ok (), registry) := by
  induction names generalizing met with
  | nil => simp [meetProperties, firstRepeat]
  | cons property rest ih =>
    rw [meetProperties, firstRepeat]
    split
    · rw [Attempt.outcome_throw]
    · exact ih (property :: met)

/-- So does going through the declarations. -/
theorem outcome_meetDeclarations (namespaceName : String) (met : List String)
    (declarations : List Declaration) (registry : Registry) :
    (meetDeclarations namespaceName met declarations).outcome registry =
      match ModelFile.repeatAmong? namespaceName met declarations with
      | some error => (.error error, registry)
      | none => (.ok (), registry) := by
  induction declarations generalizing met with
  | nil => simp [meetDeclarations, ModelFile.repeatAmong?]
  | cons declaration rest ih =>
    rw [meetDeclarations, ModelFile.repeatAmong?]
    split
    · rw [Attempt.outcome_throw]
    · rw [Attempt.outcome_bind, outcome_meetProperties]
      cases firstRepeat [] (declaration.members.map (·.name)) with
      | some property => rfl
      | none => exact ih (declaration.name :: met)

/-- A namespace is registered unless its name is taken or a name repeats within it. -/
theorem outcome_adding (file : ModelFile) (registry : Registry) :
    (adding file).outcome registry =
      if file.namespaceName ∈ registry.namespaces then
        (.error (.namespaceTaken file.namespaceName), registry)
      else
        match file.repeat? with
        | some error => (.error error, registry)
        | none => (.ok (), ⟨registry.files ++ [file]⟩) := by
  rw [adding, Attempt.outcome_bind, Attempt.outcome_get]
  dsimp only
  split
  · rw [Attempt.outcome_throw]
  · rw [Attempt.outcome_bind, outcome_meetDeclarations, ModelFile.repeat?]
    cases ModelFile.repeatAmong? file.namespaceName [] file.declarations with
    | some error => rfl
    | none => exact Attempt.outcome_modify _ registry

/-- A refused namespace leaves nothing behind. -/
theorem eq_of_outcome_adding_eq_error {file : ModelFile} {registry after : Registry}
    {error : ModelError} (h : (adding file).outcome registry = (.error error, after)) :
    after = registry := by
  rw [outcome_adding] at h
  split at h
  · exact (congrArg Prod.snd h).symm
  · cases hrepeat : file.repeat? with
    | some repeated =>
      rw [hrepeat] at h
      exact (congrArg Prod.snd h).symm
    | none =>
      rw [hrepeat] at h
      cases h

/-- The registry after registering a namespace, which may be refused. -/
def add (registry : Registry) (file : ModelFile) : Except ModelError Registry :=
  let (result, after) := (adding file).outcome registry
  result.map fun _ => after

/-- The error for a taken name comes before that for a repeat. -/
theorem add_eq (registry : Registry) (file : ModelFile) :
    registry.add file =
      if file.namespaceName ∈ registry.namespaces then
        .error (.namespaceTaken file.namespaceName)
      else
        match file.repeat? with
        | some error => .error error
        | none => .ok ⟨registry.files ++ [file]⟩ := by
  rw [add, outcome_adding]
  by_cases htaken : file.namespaceName ∈ registry.namespaces
  · rw [if_pos htaken, if_pos htaken]
    rfl
  · rw [if_neg htaken, if_neg htaken]
    cases file.repeat? <;> rfl

/-- A namespace is registered at the end, and only if nothing speaks against
it. -/
theorem add_eq_ok_iff (registry result : Registry) (file : ModelFile) :
    registry.add file = .ok result ↔
      file.namespaceName ∉ registry.namespaces ∧ file.repeat? = none ∧
        result = ⟨registry.files ++ [file]⟩ := by
  by_cases h : file.namespaceName ∈ registry.namespaces
  · simp [add_eq, h]
  · cases hr : file.repeat? with
    | none => simp [add_eq, h, hr, eq_comm]
    | some error => simp [add_eq, h, hr]

/-- Register namespaces one after the other, stopping at the first refusal. -/
def addAll (registry : Registry) : List ModelFile → Except ModelError Registry
  | [] => return registry
  | file :: rest => do
    let larger ← registry.add file
    larger.addAll rest

/-- The registry of these namespaces. -/
def ofFiles (files : List ModelFile) : Except ModelError Registry := empty.addAll files

/-- The model a registry holds. -/
def tree (registry : Registry) : ModelTree := ⟨registry.files⟩

/-- The document value of the model a registry holds, without absent fields. -/
def toValue (registry : Registry) : Value := registry.tree.toValue .omitted

end Registry

namespace ModelTree

/-- What reading a model comes to, with shape errors as a model error. -/
def ofDecoded (decoded : Decoded ModelTree) : Except ModelError ModelTree :=
  decoded.toExcept.mapError .shape

/-- The model a document value stands for. -/
def ofValue (value : Value) : Except ModelError ModelTree := ofDecoded (read value)

/-- The model an object or a list of entries stands for. -/
def ofEntries : Value → Except ModelError ModelTree
  | .object fields => ofValue (.object fields)
  | value => do
    let entries ← (Entries.ofValue value).mapError .entries
    ofDecoded (readEntries entries)

/-- An object is read as it is. -/
@[simp] theorem ofEntries_object (fields : Fields) :
    ofEntries (.object fields) = ofValue (.object fields) := rfl

end ModelTree

namespace Registry

/-- The registry of the model that an object or a list of entries stands
for. -/
def ofValue (value : Value) : Except ModelError Registry := do
  let tree ← ModelTree.ofEntries value
  ofFiles tree.files

/-- A new registry of this model and further namespaces. The model passes
through its document value, as it does whenever it is handed on. -/
def extend (registry : Registry) (files : List ModelFile) : Except ModelError Registry := do
  let fresh ← ofValue registry.toValue
  fresh.addAll files

end Registry

end ModelTagging
