import ModelTagging.Proofs.Tagging.Composition
import ModelTagging.Proofs.Tagging.Elements

/-!
# Targets that name a declaration

What a passed check of targets promises about the elements that are decorated. A
check looks a declaration up by its qualified name, among the namespaces of the
model and the built-in ones; a command compares the two names one by one, in the
model alone. For a declaration whose name has no dot the two agree, so a command
that passed decorates an element unless its namespace is a built-in one, and then
it decorates none. The qualified name of a declaration whose name has a dot is
taken apart elsewhere, and nothing is promised for it.
-/

namespace ModelTagging

/-- A target names a declaration of a namespace, and possibly a property of it,
but no type. -/
def Target.NamesDeclaration (target : Target) (namespaceName name : String) : Prop :=
  target.namespaceName = some namespaceName ∧ target.declaration = some name ∧
    target.typeName = none

/-- The names of the built-in namespaces. -/
def Builtin.namespaces : List String := files.map (·.namespaceName)

/-! ## Looking targets up -/

/-- Apart from the built-in namespaces a joined registry finds what the model
holds. -/
theorem Registry.file?_joined (registry : Registry) {namespaceName : String}
    (h : namespaceName ∉ Builtin.namespaces) :
    registry.joined.file? namespaceName = registry.file? namespaceName := by
  have hnone : Builtin.files.find? (·.namespaceName == namespaceName) = none := by
    rw [List.find?_eq_none]
    intro file hfile hname
    exact h (List.mem_map.2 ⟨file, hfile, by simpa using hname⟩)
  rw [file?, joined, List.find?_append, hnone, Option.or_none, file?]

namespace Target

/-- A target that names a declaration and does not dangle is found name by name,
if the declaration has no dot in its name. -/
theorem exists_of_dangling?_eq_none {registry : Registry} {target : Target}
    {namespaceName name : String} (hnames : target.NamesDeclaration namespaceName name)
    (hdot : '.' ∉ name.toList) (h : target.dangling? registry = none) :
    ∃ file, registry.file? namespaceName = some file ∧
      ∃ declaration, file.declaration? name = some declaration ∧
        ∀ property ∈ target.property, (declaration.property? property).isSome := by
  obtain ⟨hnamespace, hdeclaration, -⟩ := hnames
  have helement : target.danglingElement? registry = none := (Option.or_eq_none_iff.1 h).2
  simp only [danglingElement?, hnamespace, hdeclaration,
    registry.declaration?_join namespaceName name hdot] at helement
  cases hfile : registry.file? namespaceName with
  | none => simp [hfile] at helement
  | some file =>
    cases hfound : file.declaration? name with
    | none => simp [hfile, hfound] at helement
    | some declaration =>
      refine ⟨file, rfl, declaration, hfound, fun property hproperty => ?_⟩
      rw [Option.mem_def.1 hproperty] at helement
      by_contra hmissing
      simp [hfile, hfound, hmissing] at helement

/-- A target that names a declaration selects it, or the property it names, where
the model holds them. -/
theorem exists_selects_of_found {registry : Registry} {target : Target}
    {namespaceName name : String} (hnames : target.NamesDeclaration namespaceName name)
    {file : ModelFile} (hfile : registry.file? namespaceName = some file)
    {declaration : Declaration} (hdeclaration : file.declaration? name = some declaration)
    (hproperty : ∀ property ∈ target.property, (declaration.property? property).isSome) :
    ∃ element ∈ registry.elements, target.Selects element := by
  obtain ⟨hnamespace, hname, htype⟩ := hnames
  obtain ⟨hfileMem, rfl⟩ := Registry.mem_of_file?_eq_some hfile
  obtain ⟨hdeclarationMem, rfl⟩ := ModelFile.mem_of_declaration?_eq_some hdeclaration
  cases hnamed : target.property with
  | none =>
    have hselects : target.SelectsDeclaration file.namespaceName declaration :=
      ⟨⟨hnamed, htype⟩, .inr hnamespace, .inr hname⟩
    exact ⟨_, Registry.declaration_mem_elements hfileMem hdeclarationMem, hselects⟩
  | some property =>
    obtain ⟨found, hfound⟩ := Option.isSome_iff_exists.1 (hproperty property hnamed)
    obtain ⟨hfoundMem, rfl⟩ := Declaration.mem_of_property?_eq_some hfound
    have hselects : target.SelectsProperty file.namespaceName declaration found :=
      ⟨.inl (by simp [hnamed]), .inr hnamespace, .inr hname, .inr hnamed, .inl htype⟩
    exact ⟨_, Registry.property_mem_elements hfileMem hdeclarationMem hfoundMem, hselects⟩

/-- What a target selects stands in the namespace it names. -/
theorem mem_namespaces_of_selects {registry : Registry} {target : Target}
    {namespaceName name : String} (hnames : target.NamesDeclaration namespaceName name)
    {element : Element} (helement : element ∈ registry.elements)
    (hselects : target.Selects element) : namespaceName ∈ registry.namespaces := by
  obtain ⟨file, hfile, declaration, -, helement⟩ := Registry.exists_of_mem_elements helement
  have hnamespace : target.namespaceName = none ∨
      target.namespaceName = some file.namespaceName := by
    rcases helement with rfl | ⟨property, -, rfl⟩
    · exact hselects.2.1
    · exact hselects.2.1
  have heq : namespaceName = file.namespaceName := by
    simpa [hnames.1] using hnamespace
  exact List.mem_map.2 ⟨file, hfile, heq.symm⟩

end Target

/-! ## Checked decorations -/

namespace Registry

/-- The set of a source passes the checks of a decoration that succeeds. -/
theorem passes_of_decorate {registry : Registry} {source : CommandSource}
    {set : CommandSet} (hset : source.set = .ok set) {options : Options} {result : Registry}
    (h : registry.decorate source options = .ok result) : set.Passes registry options := by
  obtain ⟨prepared, hprepared, -⟩ := Except.bind_eq_ok_iff.1 h
  have hparsed : (CommandSource.parsed set).set = .ok set := rfl
  have hsame : CommandSet.prepare registry (.parsed set) options =
      CommandSet.prepare registry source options := by
    simp only [CommandSet.prepare, CommandSource.checkedSet, hset, hparsed]
  have heq : prepared = set := Except.ok.inj ((CommandSet.set_of_prepare hprepared).symm.trans hset)
  rw [CommandSet.Passes, hsame, hprepared, heq]

/-- After a decoration with all checks, a command on a declaration whose name has
no dot has decorated some element, unless it names a built-in namespace. -/
theorem selects_iff_of_decorate {registry : Registry} (hr : registry.Reachable)
    {source : CommandSource} {set : CommandSet} (hset : source.set = .ok set)
    {result : Registry} (h : registry.decorate source ⟨true, true⟩ = .ok result)
    {command : Command} (hcommand : command ∈ set.commands) {namespaceName name : String}
    (hnames : command.target.NamesDeclaration namespaceName name) (hdot : '.' ∉ name.toList) :
    (∃ element ∈ registry.elements, command.target.Selects element) ↔
      namespaceName ∉ Builtin.namespaces := by
  have hpasses : set.Passes registry ⟨true, true⟩ := passes_of_decorate hset h
  obtain ⟨⟨hmetamodel, hcommands⟩, -, htargets⟩ :=
    (hr.wellFormed.passes_iff ⟨true, true⟩ set).1 hpasses rfl
  constructor
  · intro hselected hbuiltin
    rcases hselected with ⟨element, helement, hselects⟩
    have htaken := Target.mem_namespaces_of_selects hnames helement hselects
    have heither : namespaceName = Builtin.metamodelNamespace ∨
        namespaceName = Builtin.commandsNamespace := by
      simpa [Builtin.namespaces, Builtin.files, Builtin.metamodelFile, Builtin.commandsFile]
        using hbuiltin
    rcases heither with rfl | rfl
    · exact hmetamodel htaken
    · exact hcommands htaken
  · intro hown
    obtain ⟨file, hfile, declaration, hdeclaration, hproperty⟩ :=
      Target.exists_of_dangling?_eq_none hnames hdot (htargets rfl command hcommand)
    rw [registry.file?_joined hown] at hfile
    exact Target.exists_selects_of_found hnames hfile hdeclaration hproperty

/-- A command on a property of the sample and one on a built-in declaration. -/
def namedCommands : List Command :=
  [⟨⟨some "org.acme", some "Person", some "boss", none⟩, ⟨"Lead", none⟩, .append⟩,
   ⟨⟨some Builtin.metamodelNamespace, some "Decorator", none, none⟩, ⟨"Lead", none⟩, .upsert⟩]

/-- Both commands pass all checks; the first selects an element and the second
does not. -/
theorem selects_iff_of_decorate_sample :
    (∃ result, Sample.registry.decorate (.parsed (Sample.set namedCommands)) ⟨true, true⟩ =
      .ok result) ∧
    (∃ element ∈ Sample.registry.elements,
      Target.Selects ⟨some "org.acme", some "Person", some "boss", none⟩ element) ∧
    ¬∃ element ∈ Sample.registry.elements,
      Target.Selects ⟨some Builtin.metamodelNamespace, some "Decorator", none, none⟩ element := by
  have hset : (CommandSource.parsed (Sample.set namedCommands)).set =
      .ok (Sample.set namedCommands) := rfl
  obtain ⟨result, hresult⟩ : ∃ result, Sample.registry.decorate
      (.parsed (Sample.set namedCommands)) ⟨true, true⟩ = .ok result := ⟨_, rfl⟩
  have hfirst := selects_iff_of_decorate Sample.reachable_registry hset hresult
    List.mem_cons_self ⟨rfl, rfl, rfl⟩ (by decide)
  have hsecond := selects_iff_of_decorate Sample.reachable_registry hset hresult
    (List.mem_cons_of_mem _ List.mem_cons_self) ⟨rfl, rfl, rfl⟩ (by decide)
  exact ⟨⟨result, hresult⟩, hfirst.2 (by decide), fun hselected => hsecond.1 hselected (by decide)⟩

/-- A namespace beside one whose name goes on where the first one ends. -/
def nestedRegistry : Registry :=
  ⟨[⟨"org.acme", [], []⟩,
    ⟨"org.acme.hr", [], [⟨.concept, "Person", none, some [], none, none, none, none⟩]⟩]⟩

/-- A command on a built-in declaration, and one on a declaration that the first
namespace does not hold but whose qualified name is that of one in the second. -/
def idleCommands : List Command :=
  [⟨⟨some Builtin.metamodelNamespace, some "Decorator", none, none⟩, ⟨"Lead", none⟩, .upsert⟩,
   ⟨⟨some "org.acme", some "hr.Person", none, none⟩, ⟨"Lead", none⟩, .upsert⟩]

/-- Commands that name a declaration can pass all checks and select nothing: with
a built-in namespace, and with a dot in the name of the declaration. -/
theorem idle_commands_pass :
    nestedRegistry.Reachable ∧
    (∃ result, nestedRegistry.decorate (.document ((Sample.set idleCommands).toValue .omitted))
      ⟨true, true⟩ = .ok result) ∧
    CommandSet.parse ((Sample.set idleCommands).toValue .omitted) =
      .ok (Sample.set idleCommands) ∧
    ∀ command ∈ (Sample.set idleCommands).commands,
      (∃ namespaceName name, command.target.NamesDeclaration namespaceName name) ∧
        ∀ element ∈ nestedRegistry.elements, ¬command.target.Selects element := by
  refine ⟨(reachable_iff_wellFormed _).2 (by decide), ⟨_, rfl⟩, rfl, ?_⟩
  refine List.forall_mem_cons.2 ⟨⟨⟨_, _, rfl, rfl, rfl⟩, by decide⟩, ?_⟩
  exact List.forall_mem_cons.2 ⟨⟨⟨_, _, rfl, rfl, rfl⟩, by decide⟩, List.forall_mem_nil _⟩

end Registry

end ModelTagging
