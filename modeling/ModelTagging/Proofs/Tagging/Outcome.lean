import ModelTagging.Proofs.Tagging.Checks

/-!
# The outcome of a decoration

Which stage decides how a decoration ends. Registering the built-in namespaces
beside the model comes before anything else, then the document is parsed, then
types are resolved and targets looked up. After that nothing can fail any more,
and the checks leave no trace in the result.
-/

namespace ModelTagging

namespace Registry

/-- The outcome of decorating a model, by the first case that applies: a taken
name of a built-in namespace, a document that does not parse, a type that does
not resolve, a target that names nothing. In any other case it is that of the
decoration without checks. -/
def outcome (registry : Registry) (source : CommandSource) (options : Options) :
    Except DecorationError Registry :=
  if options.validateShape ∧ Builtin.metamodelNamespace ∈ registry.namespaces then
    .error (.model (.namespaceTaken Builtin.metamodelNamespace))
  else if options.validateShape ∧ Builtin.commandsNamespace ∈ registry.namespaces then
    .error (.model (.namespaceTaken Builtin.commandsNamespace))
  else
    match source.set with
    | .error error => .error (.commandSet error)
    | .ok set =>
      match options.validateShape, set.unresolved? registry.joined, options.validateTargets,
        set.dangling? registry.joined with
      | true, some unknown, _, _ => .error (.commandSet (.unresolvedType unknown))
      | true, none, true, some dangling => .error (.target dangling)
      | _, _, _, _ => registry.decorate source .unchecked

/-- The stages of a decoration fail in the order of the cases. -/
theorem WellFormed.decorate_eq_outcome {registry : Registry} (h : registry.WellFormed)
    {source : CommandSource} (hsource : source.WellFormed) (options : Options) :
    registry.decorate source options = registry.outcome source options := by
  obtain ⟨validateShape, validateTargets⟩ := options
  have hplain (set : CommandSet) (hset : source.set = .ok set) :
      registry.decorate source .unchecked = .ok (registry.decorated set.commands) :=
    h.decorate_of_unchecked hsource hset rfl
  rw [h.decorate_eq hsource, outcome]
  cases validateShape with
  | false =>
    rw [CommandSet.prepare_of_unchecked]
    cases hset : source.set with
    | error error => simp [Except.mapError, Except.map]
    | ok set => simp [Except.mapError, Except.map, hplain set hset]
  | true =>
    rw [h.prepare_checked]
    by_cases htaken : Builtin.metamodelNamespace ∈ registry.namespaces
    · simp [htaken, Except.map]
    by_cases htaken' : Builtin.commandsNamespace ∈ registry.namespaces
    · simp [htaken, htaken', Except.map]
    cases hset : source.set with
    | error error => simp [htaken, htaken', Except.map]
    | ok set =>
      have hset' := hplain set hset
      cases hunknown : set.unresolved? registry.joined <;> cases validateTargets <;>
        cases hdangling : set.dangling? registry.joined <;>
          simp [htaken, htaken', hunknown, hdangling, hset', Except.map]

/-- The first case that applies decides the outcome. An unresolved type is
reported exactly if some type reference resolves neither in the model nor in the
built-in namespaces; copying, running and rebuilding never fail; a check of
targets alone is no check. -/
theorem decoration_decided {registry : Registry} (hr : registry.Reachable)
    {source : CommandSource} (hsource : source.Valid) (options : Options) :
    registry.decorate source options = registry.outcome source options ∧
      (∀ set : CommandSet, (set.unresolved? registry.joined).isSome = true ↔
        set.RefersToUnknown registry.joined) ∧
      registry.copyTree = .ok registry.tree ∧
      (∀ set, source.set = .ok set → ∃ result,
        ofFiles (registry.tree.applyAll set.commands).element.files = .ok result ∧
          registry.decorate source .unchecked = .ok result) ∧
      (options.validateShape = false →
        registry.decorate source options = registry.decorate source .unchecked) ∧
      (∀ namespaceName, (DecorationError.model (.namespaceTaken namespaceName)).message =
        "Namespace \"" ++ namespaceName ++ "\" is already registered") := by
  have h := hr.wellFormed
  refine ⟨h.decorate_eq_outcome hsource.wellFormed options,
    CommandSet.isSome_unresolved?_iff registry.joined, h.ofValue_toValue_tree, ?_, ?_,
    fun _ => rfl⟩
  · intro set hset
    have hcommands := hsource.wellFormed set hset
    exact ⟨_, (h.decorated hcommands).ofFiles_files,
      h.decorate_of_unchecked hsource.wellFormed hset rfl⟩
  · intro hoptions
    have hprepare : CommandSet.prepare registry source options =
        CommandSet.prepare registry source .unchecked := by
      simp [CommandSet.prepare, hoptions, Options.unchecked]
    rw [decorate, decorate, hprepare]

/-- A model that passes all checks is decorated as without them, and the built-in
namespaces are refused by a check for any document. -/
theorem decoration_decided_sample :
    Sample.registry.decorate (.parsed (Sample.set (Sample.personCommands ++ Sample.textCommands)))
        ⟨true, true⟩ =
      Sample.registry.decorate
        (.parsed (Sample.set (Sample.personCommands ++ Sample.textCommands))) .unchecked ∧
    (mk Builtin.files).decorate (.document .null) ⟨true, true⟩ =
      .error (.model (.namespaceTaken Builtin.metamodelNamespace)) := by
  constructor
  · exact (decoration_decided Sample.reachable_registry
      (CommandSource.valid_parsed Sample.parsed_set) ⟨true, true⟩).1.trans rfl
  · exact (decoration_decided ((reachable_iff_wellFormed _).2 (by decide))
      (CommandSource.valid_document .null) ⟨true, true⟩).1.trans rfl

end Registry

end ModelTagging
