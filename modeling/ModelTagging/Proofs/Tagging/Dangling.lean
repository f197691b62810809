import ModelTagging.Proofs.Registry.TypeNames
import ModelTagging.Proofs.Tagging.Composition

/-!
# Names that dangle

Which command sets pass the check of targets beside a model and the built-in namespaces,
and what is reported of those that do not. The first command with a name that stands for
nothing is to blame, and within it the first of type, namespace, declaration and property.
A declaration is looked up by its qualified name, and that is part of what dangling means
here: the names in a target need not be those of what is found.
-/

namespace ModelTagging

/-- The kinds of names that are looked at before those of this kind. -/
def TargetKind.earlier : TargetKind → List TargetKind
  | .typeName => []
  | .namespaceName => [.typeName]
  | .declaration => [.typeName, .namespaceName]
  | .property => [.typeName, .namespaceName, .declaration]

namespace Target

/-- The names in a target that stand for nothing, each as it is reported. -/
inductive Dangles (registry : Registry) (target : Target) : DanglingTarget → Prop where
  /-- The type is set and is neither primitive nor declared. -/
  | typeName {typeName : String} (hset : target.typeName = some typeName)
      (hnone : ¬registry.IsType typeName) : Dangles registry target ⟨typeName, .typeName⟩
  /-- The namespace is set and not registered. -/
  | namespaceName {namespaceName : String} (hset : target.namespaceName = some namespaceName)
      (hnone : namespaceName ∉ registry.namespaces) :
      Dangles registry target ⟨namespaceName, .namespaceName⟩
  /-- Namespace and declaration are set, and both joined are not declared. -/
  | declaration {namespaceName name : String}
      (hnamespace : target.namespaceName = some namespaceName)
      (hset : target.declaration = some name)
      (hnone : ∀ file declaration,
        ¬registry.Declares (Qualified.join namespaceName name) file declaration) :
      Dangles registry target ⟨Qualified.join namespaceName name, .declaration⟩
  /-- Namespace, declaration and property are set, and the declaration that is declared
  under the first two owns no property of that name. -/
  | property {namespaceName name property : String} {file : ModelFile}
      {declaration : Declaration} (hnamespace : target.namespaceName = some namespaceName)
      (hdeclaration : target.declaration = some name) (hset : target.property = some property)
      (hdeclares : registry.Declares (Qualified.join namespaceName name) file declaration)
      (hnone : ∀ own ∈ declaration.members, own.name ≠ property) :
      Dangles registry target
        ⟨Qualified.join (Qualified.join namespaceName name) property, .property⟩

/-- The name dangles, and no name of a kind that is looked at earlier does. -/
def FirstDangling (registry : Registry) (target : Target) (dangling : DanglingTarget) : Prop :=
  target.Dangles registry dangling ∧
    ∀ other, target.Dangles registry other → other.kind ∉ dangling.kind.earlier

/-- The type is looked at if it is set. -/
theorem danglingType?_eq_bind (registry : Registry) (target : Target) :
    target.danglingType? registry = target.typeName.bind fun typeName =>
      if registry.resolves typeName then none else some ⟨typeName, .typeName⟩ := by
  unfold danglingType?
  cases target.typeName <;> rfl

/-- The name of one kind in a target, if it stands for nothing. -/
def danglingAt? (registry : Registry) (target : Target) : TargetKind → Option DanglingTarget
  | .typeName => target.danglingType? registry
  | .namespaceName => target.namespaceName.bind fun namespaceName =>
    if (registry.file? namespaceName).isNone then some ⟨namespaceName, .namespaceName⟩ else none
  | .declaration => target.namespaceName.bind fun namespaceName =>
    target.declaration.bind fun name =>
      let qualified := Qualified.join namespaceName name
      if (registry.declaration? qualified).isNone then some ⟨qualified, .declaration⟩ else none
  | .property => target.namespaceName.bind fun namespaceName =>
    target.declaration.bind fun name => target.property.bind fun property =>
      let qualified := Qualified.join namespaceName name
      (registry.declaration? qualified).bind fun found =>
        if (found.property? property).isNone then
          some ⟨Qualified.join qualified property, .property⟩
        else none

/-- The kinds are looked at one after the other. -/
theorem dangling?_eq_or (registry : Registry) (target : Target) :
    target.dangling? registry = (target.danglingAt? registry .typeName).or
      ((target.danglingAt? registry .namespaceName).or
        ((target.danglingAt? registry .declaration).or
          (target.danglingAt? registry .property))) := by
  rw [dangling?]
  congr 1
  unfold danglingElement?
  simp only [danglingAt?]
  cases target.namespaceName with
  | none => rfl
  | some namespaceName =>
    cases hfile : registry.file? namespaceName with
    | none => simp [hfile]
    | some file =>
      cases target.declaration with
      | none => simp [hfile]
      | some name =>
        cases hfound : registry.declaration? (Qualified.join namespaceName name) with
        | none => simp [hfile, hfound]
        | some found =>
          cases target.property with
          | none => simp [hfile, hfound]
          | some property => cases hown : found.property? property <;> simp [hfile, hfound, hown]

/-- What is found of a kind is the name of this kind that dangles. -/
theorem danglingAt?_eq_some_iff {registry : Registry} (h : registry.WellFormed)
    (target : Target) (kind : TargetKind) (dangling : DanglingTarget) :
    target.danglingAt? registry kind = some dangling ↔
      target.Dangles registry dangling ∧ dangling.kind = kind := by
  cases kind with
  | typeName =>
    simp only [danglingAt?, danglingType?_eq_bind, Option.bind_eq_some_iff,
      Option.ite_none_left_eq_some, h.resolves_iff]
    constructor
    · rintro ⟨typeName, hset, hnone, ⟨⟩⟩
      exact ⟨.typeName hset hnone, rfl⟩
    · rintro ⟨hdangles, hkind⟩
      cases hdangles with
      | typeName hset hnone => exact ⟨_, hset, hnone, rfl⟩
      | _ => exact nomatch hkind
  | namespaceName =>
    simp only [danglingAt?, Option.bind_eq_some_iff, Option.ite_none_right_eq_some,
      Option.isNone_iff_eq_none, Registry.file?_eq_none_iff]
    constructor
    · rintro ⟨namespaceName, hset, hnone, ⟨⟩⟩
      exact ⟨.namespaceName hset hnone, rfl⟩
    · rintro ⟨hdangles, hkind⟩
      cases hdangles with
      | namespaceName hset hnone => exact ⟨_, hset, hnone, rfl⟩
      | _ => exact nomatch hkind
  | declaration =>
    simp only [danglingAt?, Option.bind_eq_some_iff, Option.ite_none_right_eq_some,
      Option.isNone_iff_eq_none, h.declaration?_eq_none_iff]
    constructor
    · rintro ⟨namespaceName, hnamespace, name, hset, hnone, ⟨⟩⟩
      exact ⟨.declaration hnamespace hset hnone, rfl⟩
    · rintro ⟨hdangles, hkind⟩
      cases hdangles with
      | declaration hnamespace hset hnone => exact ⟨_, hnamespace, _, hset, hnone, rfl⟩
      | _ => exact nomatch hkind
  | property =>
    simp only [danglingAt?, Option.bind_eq_some_iff, Option.ite_none_right_eq_some,
      Option.isNone_iff_eq_none, h.declaration?_eq_some_iff, Declaration.property?_eq_none_iff]
    constructor
    · rintro ⟨namespaceName, hnamespace, name, hdeclaration, property, hset, declaration,
        ⟨file, hdeclares⟩, hnone, ⟨⟩⟩
      exact ⟨.property hnamespace hdeclaration hset hdeclares hnone, rfl⟩
    · rintro ⟨hdangles, hkind⟩
      cases hdangles with
      | property hnamespace hdeclaration hset hdeclares hnone =>
        exact ⟨_, hnamespace, _, hdeclaration, _, hset, _, ⟨_, hdeclares⟩, hnone, rfl⟩
      | _ => exact nomatch hkind

/-- Nothing is found of a kind exactly if no name of this kind dangles. -/
theorem danglingAt?_eq_none_iff {registry : Registry} (h : registry.WellFormed)
    (target : Target) (kind : TargetKind) :
    target.danglingAt? registry kind = none ↔
      ∀ dangling, target.Dangles registry dangling → dangling.kind ≠ kind := by
  rw [Option.eq_none_iff_forall_ne_some]
  simp only [ne_eq, danglingAt?_eq_some_iff h, not_and]

/-- The first name that dangles is reported. -/
theorem dangling?_eq_some_iff {registry : Registry} (h : registry.WellFormed) (target : Target)
    (dangling : DanglingTarget) :
    target.dangling? registry = some dangling ↔ target.FirstDangling registry dangling := by
  rw [dangling?_eq_or, FirstDangling]
  simp only [Option.or_eq_some_iff, danglingAt?_eq_some_iff h, danglingAt?_eq_none_iff h]
  cases hkind : dangling.kind with
  | typeName => simp [TargetKind.earlier]
  | namespaceName => simp [TargetKind.earlier, and_comm]
  | declaration =>
    simp only [TargetKind.earlier, reduceCtorEq, and_false, false_or, and_true, List.mem_cons,
      List.not_mem_nil, or_false, not_or, forall_and]
    tauto
  | property =>
    simp only [TargetKind.earlier, reduceCtorEq, and_false, false_or, and_true, List.mem_cons,
      List.not_mem_nil, or_false, not_or, forall_and]
    tauto

/-- Nothing is reported exactly if no name dangles. -/
theorem dangling?_eq_none_iff {registry : Registry} (h : registry.WellFormed)
    (target : Target) :
    target.dangling? registry = none ↔
      ∀ dangling, ¬target.Dangles registry dangling := by
  rw [dangling?_eq_or]
  simp only [Option.or_eq_none_iff, danglingAt?_eq_none_iff h]
  constructor
  · rintro ⟨htype, hnamespace, hdeclaration, hproperty⟩ dangling hdangles
    cases hkind : dangling.kind with
    | typeName => exact htype dangling hdangles hkind
    | namespaceName => exact hnamespace dangling hdangles hkind
    | declaration => exact hdeclaration dangling hdangles hkind
    | property => exact hproperty dangling hdangles hkind
  · intro hnone
    refine ⟨?_, ?_, ?_, ?_⟩ <;> exact fun dangling hdangles => absurd hdangles (hnone dangling)

end Target

namespace CommandSet

/-- A set passes the check of targets if nothing is reported of it. -/
theorem checkTargets_eq_ok_iff (registry : Registry) (set : CommandSet) :
    set.checkTargets registry = .ok () ↔ set.dangling? registry = none := by
  rw [checkTargets]
  cases set.dangling? registry <;> simp

/-- Otherwise it fails with the name that is reported. -/
theorem checkTargets_eq_error_iff (registry : Registry) (set : CommandSet)
    (error : DecorationError) :
    set.checkTargets registry = .error error ↔
      ∃ dangling, set.dangling? registry = some dangling ∧ error = .target dangling := by
  rw [checkTargets]
  cases set.dangling? registry <;> simp [eq_comm]

end CommandSet

namespace Registry

/-- A set passes the check of targets exactly if no name in its targets dangles, beside
the model and the built-in namespaces. Otherwise the first command with such a name is
to blame, and within it the first kind of which a name dangles; this name is reported,
qualified as far as the target goes. -/
theorem targets_checked {registry : Registry} (hr : registry.Reachable)
    (hlacks : registry.LacksBuiltin) :
    ∃ joined : Registry, registry.forValidation = .ok joined ∧
      joined.files = registry.files ++ Builtin.files ∧
      ∀ set : CommandSet,
        (set.checkTargets joined = .ok () ↔
          ∀ command ∈ set.commands, ∀ dangling, ¬command.target.Dangles joined dangling) ∧
        ∀ error, set.checkTargets joined = .error error ↔
          ∃ before command after dangling, set.commands = before ++ command :: after ∧
            (∀ earlier ∈ before, ∀ other, ¬earlier.target.Dangles joined other) ∧
            command.target.FirstDangling joined dangling ∧ error = .target dangling := by
  obtain ⟨hjoined, h⟩ := hr.wellFormed.forValidation_eq_ok hlacks
  refine ⟨registry.joined, hjoined, rfl, fun set => ⟨?_, fun error => ?_⟩⟩
  · rw [CommandSet.checkTargets_eq_ok_iff, CommandSet.dangling?_eq_none_iff]
    simp only [Target.dangling?_eq_none_iff h]
  · rw [CommandSet.checkTargets_eq_error_iff]
    simp only [CommandSet.dangling?, List.findSome?_eq_some_iff, Target.dangling?_eq_some_iff h,
      Target.dangling?_eq_none_iff h]
    constructor
    · rintro ⟨dangling, ⟨before, command, after, hsplit, hfirst, hbefore⟩, rfl⟩
      exact ⟨before, command, after, dangling, hsplit, hbefore, hfirst, rfl⟩
    · rintro ⟨before, command, after, dangling, hsplit, hbefore, hfirst, rfl⟩
      exact ⟨dangling, ⟨before, command, after, hsplit, hfirst, hbefore⟩, rfl⟩

/-- A command on a declaration of the model, one that names a property its declaration
does not own and one that names no namespace that is registered. -/
def danglingCommands : List Command :=
  [⟨⟨some "org.acme", some "Person", some "boss", none⟩, ⟨"Lead", none⟩, .append⟩,
   ⟨⟨some "org.acme", some "Person", some "age", some "String"⟩, ⟨"Lead", none⟩, .append⟩,
   ⟨⟨some "org", some "acme.Person", none, none⟩, ⟨"Lead", none⟩, .append⟩]

/-- The commands of the sample pass the check of targets, and of the others the first that
dangles is reported. -/
theorem targets_checked_sample :
    ∃ joined : Registry, Sample.registry.forValidation = .ok joined ∧
      (∀ command ∈ Sample.personCommands ++ Sample.textCommands,
        ∀ dangling, ¬command.target.Dangles joined dangling) ∧
      ∃ before command after, danglingCommands = before ++ command :: after ∧
        (∀ earlier ∈ before, ∀ other, ¬earlier.target.Dangles joined other) ∧
        command.target.FirstDangling joined ⟨"org.acme.Person.age", .property⟩ := by
  have hlacks : Sample.registry.LacksBuiltin := by decide
  have h := Sample.reachable_registry.wellFormed.forValidation_eq_ok hlacks
  obtain ⟨joined, hjoined, -, hcheck⟩ := targets_checked Sample.reachable_registry hlacks
  obtain rfl : Sample.registry.joined = joined := Except.ok.inj (h.1.symm.trans hjoined)
  have hpasses : (Sample.set (Sample.personCommands ++ Sample.textCommands)).checkTargets
      Sample.registry.joined = .ok () := rfl
  refine ⟨_, hjoined, (hcheck _).1.1 hpasses, ?_⟩
  have hfails : (Sample.set danglingCommands).checkTargets Sample.registry.joined =
      .error (.target ⟨"org.acme.Person.age", .property⟩) := rfl
  obtain ⟨before, command, after, dangling, hsplit, hbefore, hfirst, herror⟩ :=
    ((hcheck _).2 _).1 hfails
  obtain rfl := DecorationError.target.inj herror
  exact ⟨before, command, after, hsplit, hbefore, hfirst⟩

end Registry

end ModelTagging
