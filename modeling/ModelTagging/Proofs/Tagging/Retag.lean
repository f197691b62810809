import ModelTagging.Proofs.Registry.WellFormed
import ModelTagging.Proofs.Tagging.Merge
import ModelTagging.Tagging.Apply

/-!
# What commands change

Commands change decorators and nothing else. Giving every declaration and every
property new decorators is one operation on a registry, here called retagging,
and a run of commands is a retagging: each element ends with the decorators
that the commands selecting it leave, merged one after the other. Names, kinds
and rules do not look at decorators, so a retagged registry stays well-formed.
-/

namespace ModelTagging

/-! ## Retagging -/

/-- The property with these decorators. -/
def Property.retag (property : Property) (decorators : Decorators) : Property :=
  { property with decorators := decorators }

/-- A rule on properties does not look at decorators. -/
@[simp] theorem Property.violation?_retag (property : Property) (decorators : Decorators) :
    (property.retag decorators).violation? = property.violation? := rfl

namespace Declaration

/-- The declaration with these decorators, each member with its own. -/
def retag (declaration : Declaration) (own : Decorators) (member : Property → Decorators) :
    Declaration :=
  { declaration with
    properties := declaration.properties.map
      (·.map fun property => property.retag (member property))
    decorators := own }

/-- Each member gets its own decorators. -/
@[simp] theorem members_retag (declaration : Declaration) (own : Decorators)
    (member : Property → Decorators) :
    (declaration.retag own member).members =
      declaration.members.map fun property => property.retag (member property) := by
  cases h : declaration.properties <;> simp [retag, members, h]

/-- The rules on declarations do not look at decorators. -/
@[simp] theorem violation?_retag (declaration : Declaration) (own : Decorators)
    (member : Property → Decorators) :
    (declaration.retag own member).violation? = declaration.violation? := by
  have hany : ((declaration.retag own member).members.any (·.kind != .enumValue)) =
      declaration.members.any (·.kind != .enumValue) := by
    rw [members_retag, List.any_map]
    rfl
  unfold violation?
  rw [hany]
  simp [retag]

/-- A declaration that keeps all its decorators stays what it is. -/
theorem retag_self (declaration : Declaration) :
    declaration.retag declaration.decorators (·.decorators) = declaration := by
  have hmember : (fun property : Property => property.retag property.decorators) = id := rfl
  simp [retag, hmember]

/-- Retagging looks at the decorators given for the members only. -/
theorem retag_congr {declaration : Declaration} {own : Decorators}
    {member member' : Property → Decorators}
    (h : ∀ property ∈ declaration.members, member property = member' property) :
    declaration.retag own member = declaration.retag own member' := by
  cases hproperties : declaration.properties with
  | none => simp [retag, hproperties]
  | some properties =>
    have hmembers : declaration.members = properties := by simp [members, hproperties]
    have hmap : (properties.map fun property => property.retag (member property)) =
        properties.map fun property => property.retag (member' property) :=
      List.map_congr_left fun property hproperty => by rw [h property (hmembers ▸ hproperty)]
    simp [retag, hproperties, hmap]

/-- Of two retaggings the second one decides. -/
theorem retag_retag (declaration : Declaration) (own own' : Decorators)
    (member member' : Property → Decorators) :
    (declaration.retag own member).retag own' member' =
      declaration.retag own' fun property => member' (property.retag (member property)) := by
  simp [retag, Function.comp_def, Property.retag]

/-- Retagging with well-formed decorators keeps a declaration well-formed. -/
theorem WellFormed.retag {declaration : Declaration} (h : declaration.WellFormed)
    {own : Decorators} (hown : Decorators.WellFormed own) {member : Property → Decorators}
    (hmember : ∀ property ∈ declaration.members, Decorators.WellFormed (member property)) :
    (declaration.retag own member).WellFormed := by
  obtain ⟨hname, hrule, hproperties, hkey, hvalue, -⟩ := h
  refine ⟨hname, by rwa [violation?_retag], ?_, hkey, hvalue, hown⟩
  rw [members_retag, List.forall_mem_map]
  intro property hproperty
  obtain ⟨hname, hrule, -⟩ := hproperties property hproperty
  exact ⟨hname, by rwa [Property.violation?_retag], hmember property hproperty⟩

end Declaration

/-- The namespace with new decorators on each declaration and each member. -/
def ModelFile.retag (file : ModelFile) (own : String → Declaration → Decorators)
    (member : String → Declaration → Property → Decorators) : ModelFile :=
  { file with
    declarations := file.declarations.map fun declaration =>
      declaration.retag (own file.namespaceName declaration)
        (member file.namespaceName declaration) }

/-- The registry with new decorators on each declaration and each property, given
the namespace and the element and, for a property, its declaration. -/
def Registry.retag (registry : Registry) (own : String → Declaration → Decorators)
    (member : String → Declaration → Property → Decorators) : Registry :=
  ⟨registry.files.map (·.retag own member)⟩

section

variable (own : String → Declaration → Decorators)
  (member : String → Declaration → Property → Decorators)

/-- Names repeat in a retagged namespace where they did before. -/
theorem ModelFile.repeatAmong?_retag (namespaceName : String) (seen : List String)
    (declarations : List Declaration) :
    repeatAmong? namespaceName seen (declarations.map fun declaration =>
      declaration.retag (own namespaceName declaration) (member namespaceName declaration)) =
        repeatAmong? namespaceName seen declarations := by
  induction declarations generalizing seen with
  | nil => rfl
  | cons declaration rest ih =>
    have hnames : ((declaration.retag (own namespaceName declaration)
        (member namespaceName declaration)).members.map (·.name)) =
          declaration.members.map (·.name) := by
      rw [Declaration.members_retag, List.map_map]
      rfl
    rw [List.map_cons, repeatAmong?, hnames, ih]
    rfl

/-- A retagged namespace repeats a name exactly if it did before. -/
@[simp] theorem ModelFile.repeat?_retag (file : ModelFile) :
    (file.retag own member).repeat? = file.repeat? :=
  repeatAmong?_retag own member file.namespaceName [] file.declarations

/-- Of two retaggings of a namespace the second one decides, which is given
elements with the decorators of the first. -/
theorem ModelFile.retag_retag (file : ModelFile) (own' : String → Declaration → Decorators)
    (member' : String → Declaration → Property → Decorators) :
    (file.retag own member).retag own' member' =
      file.retag
        (fun namespaceName declaration => own' namespaceName
          (declaration.retag (own namespaceName declaration) (member namespaceName declaration)))
        (fun namespaceName declaration property => member' namespaceName
          (declaration.retag (own namespaceName declaration) (member namespaceName declaration))
          (property.retag (member namespaceName declaration property))) := by
  simp [retag, Function.comp_def, Declaration.retag_retag]

/-- Retagging looks at the decorators given for elements of the registry only. -/
theorem Registry.retag_congr {registry : Registry} {own own' : String → Declaration → Decorators}
    {member member' : String → Declaration → Property → Decorators}
    (hown : ∀ file ∈ registry.files, ∀ declaration ∈ file.declarations,
      own file.namespaceName declaration = own' file.namespaceName declaration)
    (hmember : ∀ file ∈ registry.files, ∀ declaration ∈ file.declarations,
      ∀ property ∈ declaration.members, member file.namespaceName declaration property =
        member' file.namespaceName declaration property) :
    registry.retag own member = registry.retag own' member' := by
  have hdeclaration (file : ModelFile) (hfile : file ∈ registry.files)
      (declaration : Declaration) (hmem : declaration ∈ file.declarations) :
      declaration.retag (own file.namespaceName declaration)
          (member file.namespaceName declaration) =
        declaration.retag (own' file.namespaceName declaration)
          (member' file.namespaceName declaration) := by
    rw [hown file hfile declaration hmem]
    exact Declaration.retag_congr fun property hproperty =>
      hmember file hfile declaration hmem property hproperty
  have hfile (file : ModelFile) (hfile : file ∈ registry.files) :
      file.retag own member = file.retag own' member' := by
    rw [ModelFile.retag, ModelFile.retag, List.map_congr_left (hdeclaration file hfile)]
  rw [retag, retag, List.map_congr_left hfile]

/-- A retagged registry has the same namespaces in the same order. -/
@[simp] theorem Registry.namespaces_retag (registry : Registry) :
    (registry.retag own member).namespaces = registry.namespaces := by
  simp only [namespaces, retag, List.map_map]
  rfl

/-- The namespace without the decorators of its declarations and their
properties. -/
def ModelFile.undecorated (file : ModelFile) : ModelFile :=
  file.retag (fun _ _ => none) fun _ _ _ => none

/-- The registry without the decorators of its declarations and their
properties. -/
def Registry.undecorated (registry : Registry) : Registry :=
  registry.retag (fun _ _ => none) fun _ _ _ => none

/-- Without decorators a retagged registry is what it was. -/
@[simp] theorem Registry.undecorated_retag (registry : Registry) :
    (registry.retag own member).undecorated = registry.undecorated := by
  simp [undecorated, retag, Function.comp_def, ModelFile.retag_retag]

end

/-! ## Running commands -/

/-- The decorators of a property after commands, of which those selecting it
count. -/
def Property.decoratorsAfter (property : Property) (commands : List Command)
    (namespaceName declaration : String) : Decorators :=
  Decorators.after
    (commands.filter (·.target.selectsProperty namespaceName declaration property))
    property.decorators

/-- The decorators of a declaration after commands, of which those selecting it
count. -/
def Declaration.decoratorsAfter (declaration : Declaration) (commands : List Command)
    (namespaceName : String) : Decorators :=
  Decorators.after (commands.filter (·.target.selectsDeclaration namespaceName declaration))
    declaration.decorators

/-- One command retags a property. -/
theorem Command.applyToProperty_eq_retag (command : Command)
    (namespaceName declaration : String) (property : Property) :
    command.applyToProperty namespaceName declaration property =
      property.retag (property.decoratorsAfter [command] namespaceName declaration) := by
  by_cases h : command.target.selectsProperty namespaceName declaration property = true
  · simp [applyToProperty, h, Property.decoratorsAfter, Property.decorated, Property.retag]
  · simp [applyToProperty, h, Property.decoratorsAfter, Property.retag]

/-- One command retags a declaration and its members. A command that selects
the declaration leaves the members alone. -/
theorem Command.element_applyTo (command : Command) (namespaceName : String)
    (declaration : Declaration) :
    (command.applyTo namespaceName declaration).element =
      declaration.retag (declaration.decoratorsAfter [command] namespaceName)
        (·.decoratorsAfter [command] namespaceName declaration.name) := by
  by_cases h : command.target.selectsDeclaration namespaceName declaration = true
  · have hmember : (fun property : Property => property.retag
        (property.decoratorsAfter [command] namespaceName declaration.name)) = id := by
      funext property
      have hnot := Target.selectsProperty_eq_false h declaration.name property
      simp [Property.decoratorsAfter, hnot, Property.retag]
    simp [applyTo, h, Declaration.decorated, Declaration.retag, hmember,
      Declaration.decoratorsAfter]
  · have hmember : command.applyToProperty namespaceName declaration.name =
        fun property => property.retag
          (property.decoratorsAfter [command] namespaceName declaration.name) :=
      funext fun property =>
        command.applyToProperty_eq_retag namespaceName declaration.name property
    simp [applyTo, h, hmember, Declaration.retag, Declaration.decoratorsAfter]

/-- Commands retag a declaration and its members with what those selecting each
of them leave. -/
theorem Declaration.element_applyAll (namespaceName : String) (commands : List Command)
    (declaration : Declaration) :
    (applyAll namespaceName commands declaration).element =
      declaration.retag (declaration.decoratorsAfter commands namespaceName)
        (·.decoratorsAfter commands namespaceName declaration.name) := by
  -- What selects an element is not changed by retagging it, so the commands that
  -- are left see the same targets fit after the first command as before it.
  induction commands generalizing declaration with
  | nil => exact declaration.retag_self.symm
  | cons command rest ih =>
    have hfirst := command.element_applyTo namespaceName declaration
    have hsplit (test : Command → Bool) :
        (command :: rest).filter test = [command].filter test ++ rest.filter test := by
      rw [← List.filter_append]
      rfl
    rw [applyAll]
    dsimp only
    rw [ih, hfirst, retag_retag]
    simp only [decoratorsAfter, Property.decoratorsAfter, hsplit, Decorators.after_append]
    rfl

namespace Registry

/-- The registry of the model after commands. -/
def decorated (registry : Registry) (commands : List Command) : Registry :=
  ⟨(registry.tree.applyAll commands).element.files⟩

/-- Commands retag every element of a registry. -/
theorem decorated_eq_retag (registry : Registry) (commands : List Command) :
    registry.decorated commands =
      registry.retag
        (fun namespaceName declaration => declaration.decoratorsAfter commands namespaceName)
        (fun namespaceName declaration property =>
          property.decoratorsAfter commands namespaceName declaration.name) := by
  simp [decorated, retag, tree, ModelTree.applyAll, ModelFile.applyAll, ModelFile.retag,
    Tagged.ofList, Function.comp_def, Declaration.element_applyAll]

/-- Commands keep the namespaces and their order. -/
@[simp] theorem namespaces_decorated (registry : Registry) (commands : List Command) :
    (registry.decorated commands).namespaces = registry.namespaces := by
  rw [decorated_eq_retag, namespaces_retag]

/-- Commands with well-formed decorators keep a registry well-formed. -/
theorem WellFormed.decorated {registry : Registry} (h : registry.WellFormed)
    {commands : List Command} (hcommands : ∀ command ∈ commands, command.decorator.WellFormed) :
    (registry.decorated commands).WellFormed := by
  refine ⟨by rw [namespaces_decorated]; exact h.1, ?_⟩
  have hselected (test : Command → Bool) :
      ∀ command ∈ commands.filter test, command.decorator.WellFormed :=
    fun command hcommand => hcommands command (List.mem_of_mem_filter hcommand)
  rw [decorated_eq_retag, retag, List.forall_mem_map]
  intro file hfile
  obtain ⟨⟨hname, hdeclarations⟩, hrepeat⟩ := h.2 file hfile
  refine ⟨⟨hname, ?_⟩, by rwa [ModelFile.repeat?_retag]⟩
  rw [ModelFile.retag, List.forall_mem_map]
  intro declaration hdeclaration
  have hwf := hdeclarations declaration hdeclaration
  have ⟨_, _, hproperties, _, _, hown⟩ := hwf
  exact hwf.retag (Decorators.wellFormed_after (hselected _) hown) fun property hproperty =>
    Decorators.wellFormed_after (hselected _) (hproperties property hproperty).2.2

end Registry

end ModelTagging
