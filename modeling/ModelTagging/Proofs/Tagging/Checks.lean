import ModelTagging.Proofs.Tagging.Reachable

/-!
# Checks of a command set

What the checks before a decoration find, and that they do not see decorators:
resolving types and looking up targets compare names and declared types only,
so a decorated model accepts and refuses the same command sets as before, with
the same errors.
-/

namespace ModelTagging

/-! ## What the checks find -/

/-- The type names a decorator refers to are those of its type references. -/
theorem Decorator.mem_typeReferences (decorator : Decorator) (typeName : String) :
    typeName ∈ decorator.typeReferences ↔
      ∃ isArray, Argument.typeReference typeName isArray ∈ decorator.arguments.getD [] := by
  unfold typeReferences
  rw [List.mem_filterMap]
  constructor
  · intro hargument
    rcases hargument with ⟨argument, hmem, hname⟩
    cases argument with
    | typeReference name isArray =>
      cases hname
      exact ⟨isArray, hmem⟩
    | _ => exact nomatch hname
  · intro hreference
    rcases hreference with ⟨isArray, hmem⟩
    exact ⟨_, hmem, rfl⟩

namespace CommandSet

/-- A decorator of the set refers to a type that does not resolve. -/
def RefersToUnknown (registry : Registry) (set : CommandSet) : Prop :=
  ∃ command ∈ set.commands, ∃ typeName isArray,
    Argument.typeReference typeName isArray ∈ command.decorator.arguments.getD [] ∧
      registry.resolves typeName = false

/-- From any position on, nothing is found exactly when all types resolve. -/
theorem unresolvedFrom_eq_none_iff (registry : Registry) (position : Nat)
    (commands : List Command) :
    unresolvedFrom registry position commands = none ↔
      ∀ command ∈ commands, ∀ typeName ∈ command.decorator.typeReferences,
        registry.resolves typeName = true := by
  induction commands generalizing position with
  | nil => simp [unresolvedFrom]
  | cons command rest ih =>
    rw [List.forall_mem_cons, ← ih (position + 1), unresolvedFrom]
    cases hfind : command.decorator.typeReferences.find? fun name => !registry.resolves name with
    | none =>
      have hall := List.find?_eq_none.1 hfind
      simpa using fun _ => hall
    | some typeName =>
      have hunknown := List.find?_some hfind
      have hmem := List.mem_of_find?_eq_some hfind
      constructor
      · intro h
        exact nomatch h
      · intro hresolved
        rcases hresolved with ⟨hresolves, -⟩
        simp [hresolves typeName hmem] at hunknown

/-- An unresolved type is found exactly when there is one. -/
theorem isSome_unresolved?_iff (registry : Registry) (set : CommandSet) :
    (set.unresolved? registry).isSome = true ↔ set.RefersToUnknown registry := by
  rw [← Option.ne_none_iff_isSome, Ne, unresolved?, unresolvedFrom_eq_none_iff]
  simp only [RefersToUnknown, Decorator.mem_typeReferences]
  push Not
  simp only [Bool.not_eq_true]
  constructor
  · intro hunresolved
    rcases hunresolved with ⟨command, hcommand, typeName, ⟨isArray, hmem⟩, hunknown⟩
    exact ⟨command, hcommand, typeName, isArray, hmem, hunknown⟩
  · intro hunresolved
    rcases hunresolved with ⟨command, hcommand, typeName, isArray, hmem, hunknown⟩
    exact ⟨command, hcommand, typeName, ⟨isArray, hmem⟩, hunknown⟩

/-- Without a check of the shape the source is only read. -/
theorem prepare_of_unchecked (registry : Registry) (source : CommandSource)
    (validateTargets : Bool) :
    prepare registry source ⟨false, validateTargets⟩ = source.set.mapError .commandSet := rfl

end CommandSet

namespace Registry

/-- The registry with the built-in namespaces after its own. -/
def joined (registry : Registry) : Registry := ⟨registry.files ++ Builtin.files⟩

/-- A namespace that repeats no name is refused only if its own is taken. -/
theorem add_eq_of_repeat?_eq_none (registry : Registry) {file : ModelFile}
    (h : file.repeat? = none) :
    registry.add file =
      if file.namespaceName ∈ registry.namespaces then
        .error (.namespaceTaken file.namespaceName)
      else .ok ⟨registry.files ++ [file]⟩ := by
  rw [add_eq, h]

/-- Registering the built-in namespaces fails exactly if one of their names is
taken, the first of them being tried first. -/
theorem addAll_builtin (registry : Registry) :
    registry.addAll Builtin.files =
      if Builtin.metamodelNamespace ∈ registry.namespaces then
        .error (.namespaceTaken Builtin.metamodelNamespace)
      else if Builtin.commandsNamespace ∈ registry.namespaces then
        .error (.namespaceTaken Builtin.commandsNamespace)
      else .ok registry.joined := by
  obtain ⟨hmetamodel, hcommands⟩ :
      Builtin.metamodelFile.repeat? = none ∧ Builtin.commandsFile.repeat? = none := by
    simpa [Builtin.files] using Builtin.repeat?_eq_none
  have hname : Builtin.metamodelFile.namespaceName = Builtin.metamodelNamespace := rfl
  have hname' : Builtin.commandsFile.namespaceName = Builtin.commandsNamespace := rfl
  have hne : Builtin.commandsNamespace ≠ Builtin.metamodelNamespace := by decide
  have hmem : Builtin.commandsNamespace ∈
      namespaces ⟨registry.files ++ [Builtin.metamodelFile]⟩ ↔
        Builtin.commandsNamespace ∈ registry.namespaces := by
    simp [namespaces, hname, hne]
  simp only [Builtin.files, addAll, add_eq_of_repeat?_eq_none _ hmetamodel,
    add_eq_of_repeat?_eq_none _ hcommands, hname, hname']
  by_cases htaken : Builtin.metamodelNamespace ∈ registry.namespaces
  · simp only [if_pos htaken]
    rfl
  · simp only [if_neg htaken, bind, Except.bind, hmem]
    by_cases htaken' : Builtin.commandsNamespace ∈ registry.namespaces
    · simp only [if_pos htaken']
    · simp only [if_neg htaken', joined, Builtin.files, List.append_assoc, List.cons_append,
        List.nil_append]
      rfl

/-- So does joining a well-formed registry with them. -/
theorem WellFormed.forValidation_eq {registry : Registry} (h : registry.WellFormed) :
    registry.forValidation =
      if Builtin.metamodelNamespace ∈ registry.namespaces then
        .error (.namespaceTaken Builtin.metamodelNamespace)
      else if Builtin.commandsNamespace ∈ registry.namespaces then
        .error (.namespaceTaken Builtin.commandsNamespace)
      else .ok registry.joined := by
  rw [forValidation, h.extend_eq, addAll_builtin]

/-- No built-in namespace is registered. -/
def LacksBuiltin (registry : Registry) : Prop :=
  ∀ file ∈ Builtin.files, file.namespaceName ∉ registry.namespaces

instance (registry : Registry) : Decidable registry.LacksBuiltin :=
  inferInstanceAs (Decidable (∀ _ ∈ _, _))

/-- Without the built-in namespaces a well-formed registry is joined with them, and the
joined one is well-formed. -/
theorem WellFormed.forValidation_eq_ok {registry : Registry} (h : registry.WellFormed)
    (hlacks : registry.LacksBuiltin) :
    registry.forValidation = .ok registry.joined ∧ registry.joined.WellFormed := by
  have hmetamodel : Builtin.metamodelNamespace ∉ registry.namespaces :=
    hlacks Builtin.metamodelFile (by decide)
  have hcommands : Builtin.commandsNamespace ∉ registry.namespaces :=
    hlacks Builtin.commandsFile (by decide)
  have hadd : registry.addAll Builtin.files = .ok registry.joined := by
    rw [addAll_builtin, if_neg hmetamodel, if_neg hcommands]
  have hbuiltin : ∀ file ∈ Builtin.files, file.WellFormed := by decide
  exact ⟨(h.extend_eq Builtin.files).trans hadd, h.addAll hbuiltin hadd⟩

/-- A check reports a taken name of a built-in namespace first, then the error of
the document, then an unresolved type and last a dangling target. -/
theorem WellFormed.prepare_checked {registry : Registry} (h : registry.WellFormed)
    (source : CommandSource) (validateTargets : Bool) :
    CommandSet.prepare registry source ⟨true, validateTargets⟩ =
      if Builtin.metamodelNamespace ∈ registry.namespaces then
        .error (.model (.namespaceTaken Builtin.metamodelNamespace))
      else if Builtin.commandsNamespace ∈ registry.namespaces then
        .error (.model (.namespaceTaken Builtin.commandsNamespace))
      else
        match source.set with
        | .error error => .error (.commandSet error)
        | .ok set =>
          match set.unresolved? registry.joined, validateTargets,
            set.dangling? registry.joined with
          | some unknown, _, _ => .error (.commandSet (.unresolvedType unknown))
          | none, true, some dangling => .error (.target dangling)
          | _, _, _ => .ok set := by
  rw [CommandSet.prepare, h.forValidation_eq]
  by_cases htaken : Builtin.metamodelNamespace ∈ registry.namespaces
  · simp only [if_pos htaken]
    rfl
  by_cases htaken' : Builtin.commandsNamespace ∈ registry.namespaces
  · simp only [if_neg htaken, if_pos htaken']
    rfl
  simp only [if_neg htaken, if_neg htaken', if_true, Except.mapError, bind, Except.bind,
    CommandSource.checkedSet]
  cases source.set with
  | error error => rfl
  | ok set =>
    cases hunknown : set.unresolved? registry.joined <;> cases validateTargets <;>
      cases hdangling : set.dangling? registry.joined <;>
        simp [hunknown, CommandSet.checkTargets, hdangling, pure, Except.pure]

end Registry

/-! ## Checks do not see decorators -/

/-- A member is found under the same names in a retagged declaration. -/
theorem Declaration.isSome_property?_retag (declaration : Declaration) (own : Decorators)
    (member : Property → Decorators) (name : String) :
    ((declaration.retag own member).property? name).isSome =
      (declaration.property? name).isSome := by
  rw [property?, members_retag, List.find?_map, Option.isSome_map]
  rfl

namespace Registry

/-- A namespace is found under the same name without decorators. -/
theorem file?_undecorated (registry : Registry) (namespaceName : String) :
    registry.undecorated.file? namespaceName =
      (registry.file? namespaceName).map ModelFile.undecorated := by
  rw [file?, undecorated, retag, List.find?_map]
  rfl

/-- A declaration is found under the same name without decorators. -/
theorem declaration?_undecorated (registry : Registry) (qualifiedName : String) :
    registry.undecorated.declaration? qualifiedName =
      (registry.declaration? qualifiedName).map fun declaration =>
        declaration.retag none fun _ => none := by
  rw [declaration?, declaration?]
  dsimp only
  rw [file?_undecorated]
  cases registry.file? (Qualified.split qualifiedName).1 with
  | none => rfl
  | some file =>
    simp only [Option.map_some, Option.bind_some, ModelFile.declaration?, ModelFile.undecorated,
      ModelFile.retag, List.find?_map]
    rfl

/-- Types resolve as they do without decorators. -/
theorem resolves_undecorated (registry : Registry) (typeName : String) :
    registry.undecorated.resolves typeName = registry.resolves typeName := by
  rw [resolves, resolves, declaration?_undecorated, Option.isSome_map]

end Registry

/-- Targets name something as they do without decorators. -/
theorem Target.dangling?_undecorated (registry : Registry) (target : Target) :
    target.dangling? registry.undecorated = target.dangling? registry := by
  have htype : target.danglingType? registry.undecorated = target.danglingType? registry := by
    simp only [danglingType?, Registry.resolves_undecorated]
  have helement :
      target.danglingElement? registry.undecorated = target.danglingElement? registry := by
    unfold danglingElement?
    cases target.namespaceName with
    | none => rfl
    | some namespaceName =>
      cases target.declaration with
      | none => simp [Registry.file?_undecorated]
      | some name =>
        simp only [Registry.file?_undecorated, Registry.declaration?_undecorated,
          Option.isNone_map]
        cases registry.declaration? (Qualified.join namespaceName name) with
        | none => rfl
        | some found =>
          cases target.property with
          | none => rfl
          | some property => simp only [Option.map_some, Declaration.isSome_property?_retag]
  rw [dangling?, dangling?, htype, helement]

namespace CommandSet

/-- The same type is reported as without decorators. -/
theorem unresolved?_undecorated (registry : Registry) (set : CommandSet) :
    set.unresolved? registry.undecorated = set.unresolved? registry := by
  have hfrom (position : Nat) (commands : List Command) :
      unresolvedFrom registry.undecorated position commands =
        unresolvedFrom registry position commands := by
    induction commands generalizing position with
    | nil => rfl
    | cons command rest ih => simp only [unresolvedFrom, Registry.resolves_undecorated, ih]
  exact hfrom 0 set.commands

/-- The same target is reported as without decorators. -/
theorem dangling?_undecorated (registry : Registry) (set : CommandSet) :
    set.dangling? registry.undecorated = set.dangling? registry := by
  simp only [dangling?, Target.dangling?_undecorated]

end CommandSet

/-- Joining with the built-in namespaces adds the same to a model without
decorators. -/
theorem Registry.undecorated_joined_decorated (registry : Registry) (commands : List Command) :
    (registry.decorated commands).joined.undecorated = registry.joined.undecorated := by
  have h : (registry.decorated commands).undecorated = registry.undecorated := by
    rw [decorated_eq_retag, undecorated_retag]
  have hfiles := congrArg Registry.files h
  simp only [undecorated, retag] at hfiles
  simp only [joined, undecorated, retag, List.map_append, hfiles]

/-- Command sets are prepared for a decorated model as they are for the model
before. -/
theorem CommandSet.prepare_decorated {registry : Registry} (h : registry.WellFormed)
    {commands : List Command} (hcommands : ∀ command ∈ commands, command.decorator.WellFormed)
    (source : CommandSource) (options : Options) :
    prepare (registry.decorated commands) source options = prepare registry source options := by
  obtain ⟨validateShape, validateTargets⟩ := options
  have hundecorated := registry.undecorated_joined_decorated commands
  have hunresolved (set : CommandSet) :
      set.unresolved? (registry.decorated commands).joined = set.unresolved? registry.joined := by
    rw [← unresolved?_undecorated, hundecorated, unresolved?_undecorated]
  have hdangling (set : CommandSet) :
      set.dangling? (registry.decorated commands).joined = set.dangling? registry.joined := by
    rw [← dangling?_undecorated, hundecorated, dangling?_undecorated]
  cases validateShape with
  | false => rfl
  | true =>
    rw [(h.decorated hcommands).prepare_checked, h.prepare_checked, Registry.namespaces_decorated]
    simp only [hunresolved, hdangling]

end ModelTagging
