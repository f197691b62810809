import ModelTagging.Proofs.Tagging.Checks

/-!
# Command sets one after the other

Decorating with the commands of two sets is decorating with the first set and
then with the second, whatever checks are asked for: the same decorations
succeed and give the same model. Commands run through the declarations one by
one, yet the order of the two loops makes no difference, since a command looks
at one declaration at a time; and no check accepts more or less once a model
has been decorated.
-/

namespace ModelTagging

/-! ## Running commands one after the other -/

/-- Two runs on a declaration make one. -/
theorem Declaration.element_applyAll_append (namespaceName : String)
    (first second : List Command) (declaration : Declaration) :
    (applyAll namespaceName (first ++ second) declaration).element =
      (applyAll namespaceName second
        (applyAll namespaceName first declaration).element).element := by
  induction first generalizing declaration with
  | nil => rfl
  | cons command rest ih => exact ih _

namespace ModelTree

/-- Without a command a model stays what it is. -/
theorem element_applyAll_nil (tree : ModelTree) : (tree.applyAll []).element = tree := by
  have hdeclaration (namespaceName : String) (declaration : Declaration) :
      (Declaration.applyAll namespaceName [] declaration).element = declaration := rfl
  simp [applyAll, ModelFile.applyAll, Tagged.ofList, Function.comp_def, hdeclaration]

/-- Two runs on a model make one. -/
theorem element_applyAll_append (first second : List Command) (tree : ModelTree) :
    (tree.applyAll (first ++ second)).element =
      ((tree.applyAll first).element.applyAll second).element := by
  simp [applyAll, ModelFile.applyAll, Tagged.ofList, Function.comp_def,
    Declaration.element_applyAll_append]

/-- Running commands declaration by declaration is running them over the whole
model one at a time. -/
theorem element_applyAll_eq_foldl (commands : List Command) (tree : ModelTree) :
    (tree.applyAll commands).element =
      commands.foldl (fun tree command => (tree.applyAll [command]).element) tree := by
  induction commands generalizing tree with
  | nil => exact tree.element_applyAll_nil
  | cons command rest ih =>
    rw [List.foldl_cons, ← ih, ← element_applyAll_append]
    rfl

end ModelTree

/-- Two runs on a registry make one. -/
theorem Registry.decorated_append (registry : Registry) (first second : List Command) :
    registry.decorated (first ++ second) = (registry.decorated first).decorated second := by
  rw [decorated, ModelTree.element_applyAll_append]
  rfl

/-! ## Passing checks -/

namespace CommandSet

/-- The set passes the checks that the options ask for. -/
def Passes (registry : Registry) (options : Options) (set : CommandSet) : Prop :=
  prepare registry (.parsed set) options = .ok set

/-- A parsed set is prepared as it is, if it passes. -/
theorem prepare_parsed_eq_ok_iff {registry : Registry} {options : Options}
    {set found : CommandSet} :
    prepare registry (.parsed set) options = .ok found ↔
      set.Passes registry options ∧ found = set := by
  constructor
  · intro h
    have heq : set = found := Except.ok.inj (set_of_prepare h)
    subst heq
    exact ⟨h, rfl⟩
  · intro hpassing
    rcases hpassing with ⟨h, rfl⟩
    exact h

/-- No target dangles exactly if none of a command does. -/
theorem dangling?_eq_none_iff (registry : Registry) (set : CommandSet) :
    set.dangling? registry = none ↔
      ∀ command ∈ set.commands, command.target.dangling? registry = none :=
  List.findSome?_eq_none_iff

end CommandSet

/-- A parsed set decorates a well-formed registry if it passes. -/
theorem Registry.WellFormed.decorate_parsed_eq_ok_iff {registry : Registry}
    (h : registry.WellFormed) {set : CommandSet}
    (hset : (CommandSource.parsed set).WellFormed) {options : Options} {result : Registry} :
    registry.decorate (.parsed set) options = .ok result ↔
      set.Passes registry options ∧ result = registry.decorated set.commands := by
  rw [h.decorate_eq_ok_iff hset]
  simp only [CommandSet.prepare_parsed_eq_ok_iff]
  constructor
  · intro hprepared
    rcases hprepared with ⟨_, ⟨hpasses, rfl⟩, rfl⟩
    exact ⟨hpasses, rfl⟩
  · intro hpassing
    rcases hpassing with ⟨hpasses, rfl⟩
    exact ⟨set, ⟨hpasses, rfl⟩, rfl⟩

/-- What a set has to satisfy in order to pass, command by command. -/
theorem Registry.WellFormed.passes_iff {registry : Registry} (h : registry.WellFormed)
    (options : Options) (set : CommandSet) :
    set.Passes registry options ↔ (options.validateShape = true →
      (Builtin.metamodelNamespace ∉ registry.namespaces ∧
        Builtin.commandsNamespace ∉ registry.namespaces) ∧
      (∀ command ∈ set.commands, ∀ typeName ∈ command.decorator.typeReferences,
        registry.joined.resolves typeName = true) ∧
      (options.validateTargets = true → ∀ command ∈ set.commands,
        command.target.dangling? registry.joined = none)) := by
  obtain ⟨validateShape, validateTargets⟩ := options
  rw [CommandSet.Passes, ← CommandSet.dangling?_eq_none_iff,
    ← CommandSet.unresolvedFrom_eq_none_iff registry.joined 0, ← CommandSet.unresolved?]
  cases validateShape with
  | false => simp [CommandSet.prepare_of_unchecked, CommandSource.set, Except.mapError]
  | true =>
    rw [h.prepare_checked]
    by_cases htaken : Builtin.metamodelNamespace ∈ registry.namespaces
    · simp [htaken]
    by_cases htaken' : Builtin.commandsNamespace ∈ registry.namespaces
    · simp [htaken, htaken']
    cases hunknown : set.unresolved? registry.joined <;> cases validateTargets <;>
      cases hdangling : set.dangling? registry.joined <;>
        simp [CommandSource.set, hunknown, hdangling, htaken, htaken']

/-- A set passes if the two that its commands come from do. -/
theorem Registry.WellFormed.passes_append_iff {registry : Registry} (h : registry.WellFormed)
    (options : Options) {first second both : CommandSet}
    (hboth : both.commands = first.commands ++ second.commands) :
    both.Passes registry options ↔
      first.Passes registry options ∧ second.Passes registry options := by
  rw [h.passes_iff, h.passes_iff, h.passes_iff, hboth]
  simp only [List.forall_mem_append]
  tauto

/-! ## Two decorations -/

namespace Registry

/-- Decorating with the commands of two sets is decorating with the one and then
with the other. Running commands over the whole model one at a time is the same,
and a decorated model takes the same command sets as the model before. -/
theorem decorate_append {registry : Registry} (hr : registry.Reachable)
    {first second both : CommandSet} (hfirst : first.Parsed) (hsecond : second.Parsed)
    (hboth : both.commands = first.commands ++ second.commands) (options : Options) :
    (∀ result, registry.decorate (.parsed both) options = .ok result ↔
      ∃ middle, registry.decorate (.parsed first) options = .ok middle ∧
        middle.decorate (.parsed second) options = .ok result) ∧
      (registry.tree.applyAll both.commands).element =
        both.commands.foldl (fun tree command => (tree.applyAll [command]).element)
          registry.tree ∧
      ∀ middle, registry.decorate (.parsed first) options = .ok middle →
        ∀ source options', CommandSet.prepare middle source options' =
          CommandSet.prepare registry source options' := by
  have h := hr.wellFormed
  have hwf := (CommandSource.valid_parsed hfirst).wellFormed
  have hwf' := (CommandSource.valid_parsed hsecond).wellFormed
  have hwfBoth : (CommandSource.parsed both).WellFormed := by
    intro set hset
    cases hset
    rw [hboth]
    exact List.forall_mem_append.2 ⟨hfirst.wellFormed, hsecond.wellFormed⟩
  have hprepare := CommandSet.prepare_decorated h hfirst.wellFormed
  have hmiddle := h.decorated hfirst.wellFormed
  refine ⟨fun result => ⟨fun hresult => ?_, ?_⟩, ModelTree.element_applyAll_eq_foldl _ _, ?_⟩
  · obtain ⟨hpasses, rfl⟩ := (h.decorate_parsed_eq_ok_iff hwfBoth).1 hresult
    obtain ⟨hpassesFirst, hpassesSecond⟩ := (h.passes_append_iff options hboth).1 hpasses
    refine ⟨registry.decorated first.commands,
      (h.decorate_parsed_eq_ok_iff hwf).2 ⟨hpassesFirst, rfl⟩,
      (hmiddle.decorate_parsed_eq_ok_iff hwf').2 ⟨(hprepare _ _).trans hpassesSecond, ?_⟩⟩
    rw [hboth, decorated_append]
  · intro hsteps
    rcases hsteps with ⟨middle, hfirstResult, hresult⟩
    obtain ⟨hpassesFirst, rfl⟩ := (h.decorate_parsed_eq_ok_iff hwf).1 hfirstResult
    obtain ⟨hpassesSecond, rfl⟩ := (hmiddle.decorate_parsed_eq_ok_iff hwf').1 hresult
    refine (h.decorate_parsed_eq_ok_iff hwfBoth).2 ⟨(h.passes_append_iff options hboth).2
      ⟨hpassesFirst, (hprepare _ _).symm.trans hpassesSecond⟩, ?_⟩
    rw [hboth, decorated_append]
  · intro middle hfirstResult
    obtain ⟨-, rfl⟩ := (h.decorate_parsed_eq_ok_iff hwf).1 hfirstResult
    exact hprepare

/-- The commands of the sample pass all checks, at once and in two steps. -/
theorem decorate_append_sample :
    ∃ middle result,
      Sample.registry.decorate (.parsed (Sample.set Sample.personCommands)) ⟨true, true⟩ =
        .ok middle ∧
      middle.decorate (.parsed (Sample.set Sample.textCommands)) ⟨true, true⟩ = .ok result ∧
      Sample.registry.decorate
          (.parsed (Sample.set (Sample.personCommands ++ Sample.textCommands))) ⟨true, true⟩ =
        .ok result := by
  have h := Sample.reachable_registry.wellFormed
  have hboth := (h.decorate_parsed_eq_ok_iff
    (CommandSource.valid_parsed Sample.parsed_set).wellFormed).2
      ⟨(h.passes_iff ⟨true, true⟩ _).2 (by decide), rfl⟩
  obtain ⟨middle, hfirst, hsecond⟩ := ((decorate_append Sample.reachable_registry
    Sample.parsed_personSet Sample.parsed_textSet rfl ⟨true, true⟩).1 _).1 hboth
  exact ⟨middle, _, hfirst, hsecond, hboth⟩

end Registry

end ModelTagging
