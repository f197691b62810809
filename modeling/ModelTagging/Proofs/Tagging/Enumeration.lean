import Mathlib.Data.List.Nodup
import ModelTagging.Proofs.Tagging.Elements
import ModelTagging.Proofs.Tagging.Reachable

/-!
# Open fields and their enumeration

A command with an open field does what its copies do together that have the
field filled in, one copy for each name there is in the model, in any order.
Filling in a field never changes whether a target is about declarations or about
properties, and every element has one name in the field, so exactly one copy
selects what the command selects. A field for the declared type is not of this
kind, since enumeration values have no type that could be filled in.
-/

namespace ModelTagging

/-! ## Filling in a field -/

/-- A field of a target that holds the name of an element or of what the element
stands in. -/
inductive TargetField where
  /-- The namespace. -/
  | namespaceName
  /-- The declaration. -/
  | declaration
  /-- The property. -/
  | property
  deriving DecidableEq

namespace Target

/-- The field is not set. An open property counts only in a target that is about
properties all the same, as it sets their type. -/
def IsOpenAt (target : Target) : TargetField → Prop
  | .namespaceName => target.namespaceName = none
  | .declaration => target.declaration = none
  | .property => target.property = none ∧ target.typeName ≠ none

instance (target : Target) (field : TargetField) : Decidable (target.IsOpenAt field) := by
  cases field <;> unfold IsOpenAt <;> infer_instance

/-- The target with a name in the field. -/
def filledAt (target : Target) (field : TargetField) (name : String) : Target :=
  match field with
  | .namespaceName => { target with namespaceName := some name }
  | .declaration => { target with declaration := some name }
  | .property => { target with property := some name }

/-- A target with a name of at least one character filled in is well-formed. -/
theorem WellFormed.filledAt {target : Target} (h : target.WellFormed) (field : TargetField)
    {name : String} (hname : name ≠ "") : (target.filledAt field name).WellFormed := by
  obtain ⟨hnamespace, hdeclaration, hproperty, htype⟩ := h
  have hfilled : ∀ text ∈ some name, text ≠ "" := by
    rintro text ⟨⟩
    exact hname
  cases field with
  | namespaceName => exact ⟨hfilled, hdeclaration, hproperty, htype⟩
  | declaration => exact ⟨hnamespace, hfilled, hproperty, htype⟩
  | property => exact ⟨hnamespace, hdeclaration, hfilled, htype⟩

end Target

/-- The name that an element has in a field. A declaration has none as a
property. -/
def Element.nameAt? (field : TargetField) (element : Element) : Option String :=
  match field, element with
  | .namespaceName, .declaration namespaceName _ => some namespaceName
  | .namespaceName, .property namespaceName _ _ => some namespaceName
  | .declaration, .declaration _ itself => some itself.name
  | .declaration, .property _ owner _ => some owner.name
  | .property, .declaration _ _ => none
  | .property, .property _ _ itself => some itself.name

/-- With a name filled in, a target selects those elements that it selected before
and that have the name. -/
theorem Target.selects_filledAt_iff {target : Target} {field : TargetField}
    (h : target.IsOpenAt field) (name : String) (element : Element) :
    (target.filledAt field name).Selects element ↔
      target.Selects element ∧ element.nameAt? field = some name := by
  -- An open field allows every name, a filled one only the name of the element,
  -- and none of the other conditions on the element looks at the field.
  cases field <;> cases element <;>
    simp only [IsOpenAt, filledAt, Selects, SelectsDeclaration, SelectsProperty,
      Element.nameAt?] at h ⊢ <;>
    grind

/-- Every element that a target with an open field selects has a name there: a
declaration is selected only by targets that set no type. -/
theorem Target.exists_nameAt?_of_selects {target : Target} {field : TargetField}
    (h : target.IsOpenAt field) {element : Element} (hselects : target.Selects element) :
    ∃ name, element.nameAt? field = some name := by
  cases field with
  | namespaceName => cases element <;> exact ⟨_, rfl⟩
  | declaration => cases element <;> exact ⟨_, rfl⟩
  | property =>
    cases element with
    | declaration namespaceName itself => exact absurd hselects.1.2 h.2
    | property namespaceName owner itself => exact ⟨_, rfl⟩

/-! ## The names in a model -/

namespace Registry

/-- The names that a field can hold in a registry, as often as they occur. -/
def namesAt (registry : Registry) : TargetField → List String
  | .namespaceName => registry.namespaces
  | .declaration => registry.files.flatMap fun file => file.declarations.map (·.name)
  | .property => registry.files.flatMap fun file =>
      file.declarations.flatMap fun declaration => declaration.members.map (·.name)

/-- The names are those of the registry in the field, each of them once and in
any order. -/
def Enumerates (registry : Registry) (field : TargetField) (names : List String) : Prop :=
  names.Nodup ∧ names ⊆ registry.namesAt field ∧ registry.namesAt field ⊆ names

instance (registry : Registry) (field : TargetField) (names : List String) :
    Decidable (registry.Enumerates field names) :=
  inferInstanceAs (Decidable (_ ∧ (∀ _ ∈ _, _) ∧ ∀ _ ∈ _, _))

/-- The name that an element has in a field is a name in the registry. -/
theorem mem_namesAt {registry : Registry} {element : Element} (h : element ∈ registry.elements)
    {field : TargetField} {name : String} (hname : element.nameAt? field = some name) :
    name ∈ registry.namesAt field := by
  obtain ⟨file, hfile, declaration, hdeclaration, helement⟩ := exists_of_mem_elements h
  cases field with
  | namespaceName =>
    have heq : file.namespaceName = name := by
      rcases helement with rfl | ⟨property, -, rfl⟩ <;> exact Option.some.inj hname
    exact List.mem_map.2 ⟨file, hfile, heq⟩
  | declaration =>
    have heq : declaration.name = name := by
      rcases helement with rfl | ⟨property, -, rfl⟩ <;> exact Option.some.inj hname
    exact List.mem_flatMap.2 ⟨file, hfile, List.mem_map.2 ⟨declaration, hdeclaration, heq⟩⟩
  | property =>
    rcases helement with rfl | ⟨property, hproperty, rfl⟩
    · exact nomatch hname
    · exact List.mem_flatMap.2 ⟨file, hfile, List.mem_flatMap.2 ⟨declaration, hdeclaration,
        List.mem_map.2 ⟨property, hproperty, Option.some.inj hname⟩⟩⟩

/-- The names in a well-formed registry have a character. -/
theorem WellFormed.ne_empty_of_mem_namesAt {registry : Registry} (h : registry.WellFormed)
    {field : TargetField} {name : String} (hname : name ∈ registry.namesAt field) :
    name ≠ "" := by
  cases field with
  | namespaceName =>
    obtain ⟨file, hfile, rfl⟩ := List.mem_map.1 hname
    exact (h.2 file hfile).1.1
  | declaration =>
    obtain ⟨file, hfile, hin⟩ := List.mem_flatMap.1 hname
    obtain ⟨declaration, hdeclaration, rfl⟩ := List.mem_map.1 hin
    exact ((h.2 file hfile).1.2 declaration hdeclaration).1
  | property =>
    obtain ⟨file, hfile, hin⟩ := List.mem_flatMap.1 hname
    obtain ⟨declaration, hdeclaration, hin⟩ := List.mem_flatMap.1 hin
    obtain ⟨property, hproperty, rfl⟩ := List.mem_map.1 hin
    have hmembers := ((h.2 file hfile).1.2 declaration hdeclaration).2.2.1
    exact (hmembers property hproperty).1

end Registry

/-! ## Copies of a command -/

namespace Command

/-- The copies of a command with a name each filled in. -/
def copies (command : Command) (field : TargetField) (names : List String) : List Command :=
  names.map fun name => { command with target := command.target.filledAt field name }

/-- Exactly one copy selects an element that the command selects. -/
theorem filter_copies {registry : Registry} {command : Command} {field : TargetField}
    (hopen : command.target.IsOpenAt field) {names : List String}
    (hnames : registry.Enumerates field names) {element : Element}
    (helement : element ∈ registry.elements) (hselects : command.target.Selects element) :
    ∃ key, (command.copies field names).filter (·.target.Selects element) =
      [{ command with target := command.target.filledAt field key }] := by
  obtain ⟨key, hkey⟩ := Target.exists_nameAt?_of_selects hopen hselects
  have hmem : key ∈ names := hnames.2.2 (Registry.mem_namesAt helement hkey)
  have hone : names.filter (· = key) = [key] := by
    rw [List.filter_eq, List.count_eq_one_of_mem hnames.1 hmem]
    rfl
  have hcopy (name : String) :
      (command.target.filledAt field name).Selects element ↔ name = key := by
    rw [Target.selects_filledAt_iff hopen, hkey, Option.some.injEq, eq_comm]
    exact and_iff_right hselects
  refine ⟨key, ?_⟩
  rw [copies, List.filter_map]
  simp only [Function.comp_def, hcopy, hone, List.map_singleton]

/-- No copy selects any other element. -/
theorem filter_copies_eq_nil {command : Command} {field : TargetField}
    (hopen : command.target.IsOpenAt field) (names : List String) {element : Element}
    (hnot : ¬command.target.Selects element) :
    (command.copies field names).filter (·.target.Selects element) = [] := by
  rw [List.filter_eq_nil_iff]
  intro copy hcopy
  obtain ⟨name, -, rfl⟩ := List.mem_map.1 hcopy
  rw [decide_eq_true_eq, Target.selects_filledAt_iff hopen]
  exact fun hselects => hnot hselects.1

/-- On each element of the registry the copies leave what the command leaves, since
merging looks at the decorator and the mode only. -/
theorem after_copies {registry : Registry} {command : Command} {field : TargetField}
    (hopen : command.target.IsOpenAt field) {names : List String}
    (hnames : registry.Enumerates field names) {element : Element}
    (helement : element ∈ registry.elements) (present : Decorators) :
    Decorators.after ((command.copies field names).filter (·.target.Selects element)) present =
      Decorators.after ([command].filter (·.target.Selects element)) present := by
  by_cases hselects : command.target.Selects element
  · obtain ⟨key, hone⟩ := filter_copies hopen hnames helement hselects
    rw [hone, List.filter_cons_of_pos (by simpa using hselects)]
    rfl
  · rw [filter_copies_eq_nil hopen names hselects,
      List.filter_cons_of_neg (by simpa using hselects)]
    rfl

/-- The copies of a well-formed command for names in a well-formed registry are
well-formed. -/
theorem WellFormed.copies {command : Command} (h : command.WellFormed) {registry : Registry}
    (hr : registry.WellFormed) {field : TargetField} {names : List String}
    (hnames : registry.Enumerates field names) :
    ∀ copy ∈ command.copies field names, copy.WellFormed := by
  intro copy hcopy
  obtain ⟨name, hname, rfl⟩ := List.mem_map.1 hcopy
  have hne : name ≠ "" := hr.ne_empty_of_mem_namesAt (hnames.2.1 hname)
  exact ⟨h.1.filledAt field hne, h.2⟩

end Command

/-! ## Decorating with copies -/

namespace Registry

/-- A run with the copies in place of the command makes the same of a registry. -/
theorem decorated_copies {registry : Registry} (earlier later : List Command) {command : Command}
    {field : TargetField} (hopen : command.target.IsOpenAt field) {names : List String}
    (hnames : registry.Enumerates field names) :
    registry.decorated (earlier ++ command.copies field names ++ later) =
      registry.decorated (earlier ++ [command] ++ later) := by
  refine decorated_congr fun element helement => ?_
  simp only [Element.decoratorsAfter, List.filter_append, Decorators.after_append,
    Command.after_copies hopen hnames helement]

/-- Decorating with one copy of a command for each name in an open field, in any
order, succeeds like decorating with the command itself, and both give one
registry. The set with the copies is a parsed one again. -/
theorem decorate_enumerated {registry : Registry} (hr : registry.Reachable) {set : CommandSet}
    (hparsed : set.Parsed) {earlier later : List Command} {command : Command}
    (hcommands : set.commands = earlier ++ [command] ++ later) {field : TargetField}
    (hopen : command.target.IsOpenAt field) {names : List String}
    (hnames : registry.Enumerates field names) {enumerated : CommandSet}
    (henumerated : enumerated =
      { set with commands := earlier ++ command.copies field names ++ later })
    {options : Options} (hoptions : options.validateShape = false) :
    enumerated.Parsed ∧ ∃ result, registry.decorate (.parsed set) options = .ok result ∧
      registry.decorate (.parsed enumerated) options = .ok result := by
  have h := hr.wellFormed
  have hparsed' : enumerated.Parsed := by
    have hwf := ((CommandSet.parsed_iff_wellFormed set).1 hparsed).2.2.2
    rw [hcommands, List.forall_mem_append, List.forall_mem_append,
      List.forall_mem_singleton] at hwf
    obtain ⟨⟨hearlier, hcommand⟩, hlater⟩ := hwf
    rw [henumerated]
    refine hparsed.withCommands (List.forall_mem_append.2 ⟨List.forall_mem_append.2 ?_, hlater⟩)
    exact ⟨hearlier, hcommand.copies h hnames⟩
  have hsame : registry.decorated enumerated.commands = registry.decorated set.commands := by
    rw [henumerated, hcommands, decorated_copies earlier later hopen hnames]
  exact ⟨hparsed', h.decorate_alike hparsed hparsed' hsame hoptions⟩

/-- The command for texts of the small model. -/
def sampleCommand : Command :=
  ⟨⟨none, none, none, some "String"⟩, Sample.tag "Mask" "String", .upsert⟩

/-- The command leaves its property open. Filling in the two properties of the
model, in another order than there, makes no difference. -/
theorem decorate_enumerated_sample :
    (sampleCommand.target.IsOpenAt .property ∧
      Sample.registry.Enumerates .property ["boss", "name"]) ∧
    ∃ result,
      Sample.registry.decorate
        (.parsed (Sample.set (Sample.personCommands ++ Sample.textCommands))) .unchecked =
          .ok result ∧
      Sample.registry.decorate
        (.parsed (Sample.set
          (Sample.personCommands ++ sampleCommand.copies .property ["boss", "name"] ++ [])))
        .unchecked = .ok result := by
  have hopen : sampleCommand.target.IsOpenAt .property := by decide
  have hnames : Sample.registry.Enumerates .property ["boss", "name"] := by decide
  have hcommands : (Sample.set (Sample.personCommands ++ Sample.textCommands)).commands =
      Sample.personCommands ++ [sampleCommand] ++ [] := rfl
  exact ⟨⟨hopen, hnames⟩, (decorate_enumerated Sample.reachable_registry Sample.parsed_set
    hcommands hopen hnames rfl rfl).2⟩

end Registry

end ModelTagging
