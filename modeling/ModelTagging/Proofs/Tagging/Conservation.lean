import Mathlib.Data.List.Forall2
import ModelTagging.Proofs.Tagging.Selections

/-!
# Conservation of decorators

What becomes of the number of decorators on a declaration and its properties. A
command brings one decorator to each element that it selects; if it replaces, those
of its name are taken away there, and if it appends, none are. The main result says
this for one command and, with what each command takes away at its turn, for every
run on one declaration. Elements that no command selects keep what they carry, and
the slots of a map always do.
-/

namespace ModelTagging

/-! ## Elements -/

/-- Replacing adds one decorator and takes away those of its name. -/
theorem Decorator.length_replaceIn (decorator : Decorator) (present : List Decorator) :
    (decorator.replaceIn present).length + present.countP (·.name = decorator.name) =
      present.length + 1 := by
  induction present with
  | nil => rfl
  | cons other rest ih =>
    by_cases hname : other.name = decorator.name
    · have hsplit : rest.length = rest.countP (·.name = decorator.name) +
          rest.countP (·.name ≠ decorator.name) := by
        simpa using List.length_eq_countP_add_countP (·.name = decorator.name) (l := rest)
      rw [replaceIn, if_pos hname, List.length_cons, List.length_cons,
        ← List.countP_eq_length_filter, List.countP_cons_of_pos (by simpa using hname)]
      omega
    · rw [replaceIn, if_neg hname, List.length_cons, List.length_cons,
        List.countP_cons_of_neg (by simpa using hname)]
      omega

/-- An element that no command selects keeps its decorators. -/
theorem Element.decoratorsAfter_of_not_selects (element : Element) {commands : List Command}
    (h : ∀ command ∈ commands, ¬command.target.Selects element) :
    element.decoratorsAfter commands = element.decorators := by
  have hnone : commands.filter (·.target.Selects element) = [] := by
    simpa [List.filter_eq_nil_iff] using h
  rw [decoratorsAfter, hnone, Decorators.after_nil]

/-- The decorators that some elements carry, one element after the other. -/
def Element.allDecorators (elements : List Element) : List Decorator :=
  elements.flatMap (·.decorators.getD [])

/-- How many decorators a command takes away from some elements: if it replaces, those
of its name on the elements that it selects. -/
def Command.displaced (command : Command) (elements : List Element) : Nat :=
  match command.mode with
  | .upsert =>
    (Element.allDecorators (elements.filter (command.target.Selects ·))).countP
      (·.name = command.decorator.name)
  | .append => 0

/-- They are taken away from one element after the other. -/
theorem Command.displaced_cons (command : Command) (element : Element) (rest : List Element) :
    command.displaced (element :: rest) =
      command.displaced [element] + command.displaced rest := by
  cases hmode : command.mode with
  | append => simp only [displaced, hmode]
  | upsert =>
    by_cases h : command.target.Selects element <;>
      simp [displaced, hmode, h, Element.allDecorators]

/-- A command adds one decorator to an element that it selects, and takes away what it
displaces. -/
theorem Element.length_decoratorsAfter (element : Element) (command : Command) :
    ((element.decoratorsAfter [command]).getD []).length + command.displaced [element] =
      (element.decorators.getD []).length +
        if command.target.Selects element then 1 else 0 := by
  by_cases h : command.target.Selects element
  · cases hmode : command.mode with
    | append =>
      simp [decoratorsAfter, Command.displaced, h, hmode, MergeMode.merge]
    | upsert =>
      have hreplace := command.decorator.length_replaceIn (element.decorators.getD [])
      simpa [decoratorsAfter, Command.displaced, h, hmode, MergeMode.merge, allDecorators]
        using hreplace
  · cases hmode : command.mode <;>
      simp [decoratorsAfter, Command.displaced, h, hmode, allDecorators]

/-! ## Declarations -/

namespace Declaration

/-- How many decorators a declaration and its members carry together. -/
def decoratorCount (declaration : Declaration) : Nat :=
  (declaration.decorators.getD [] ++ declaration.members.flatMap (·.decorators.getD [])).length

/-- They are the decorators of its elements. -/
theorem decoratorCount_eq_length (namespaceName : String) (declaration : Declaration) :
    declaration.decoratorCount =
      (Element.allDecorators (declaration.elements namespaceName)).length := by
  simp [decoratorCount, Element.allDecorators, elements, Element.decorators,
    List.flatMap_map]

/-- After one command each element carries what the command leaves of it. -/
theorem decoratorCount_applyTo_eq_length (command : Command) (namespaceName : String)
    (declaration : Declaration) :
    (command.applyTo namespaceName declaration).element.decoratorCount =
      ((declaration.elements namespaceName).flatMap
        fun element => (element.decoratorsAfter [command]).getD []).length := by
  rw [command.element_applyTo, decoratorCount, members_retag]
  simp [elements, Element.decoratorsAfter_declaration, Element.decoratorsAfter_property,
    retag, Property.retag, List.flatMap_map]

/-- One command adds as many decorators as it counts, apart from those that it takes
away. -/
theorem decoratorCount_applyTo (command : Command) (namespaceName : String)
    (declaration : Declaration) :
    (command.applyTo namespaceName declaration).element.decoratorCount +
        command.displaced (declaration.elements namespaceName) =
      declaration.decoratorCount + (command.applyTo namespaceName declaration).count := by
  rw [decoratorCount_applyTo_eq_length, count_applyTo, decoratorCount_eq_length namespaceName]
  induction declaration.elements namespaceName with
  | nil => cases hmode : command.mode <;> simp [Command.displaced, hmode, Element.allDecorators]
  | cons element rest ih =>
    have hfirst := element.length_decoratorsAfter command
    have hdisplaced := command.displaced_cons element rest
    simp only [Element.allDecorators, List.flatMap_cons, List.length_append, List.countP_cons,
      decide_eq_true_eq] at ih ⊢
    omega

/-- How many decorators a run takes away from a declaration and its members, each
command at its turn. -/
def displaced (namespaceName : String) : List Command → Declaration → Nat
  | [], _ => 0
  | command :: rest, declaration =>
    command.displaced (declaration.elements namespaceName) +
      displaced namespaceName rest (command.applyTo namespaceName declaration).element

/-- A run adds as many decorators as it counts, apart from those that it takes
away. -/
theorem decoratorCount_applyAll (namespaceName : String) (commands : List Command)
    (declaration : Declaration) :
    (applyAll namespaceName commands declaration).element.decoratorCount +
        displaced namespaceName commands declaration =
      declaration.decoratorCount + (applyAll namespaceName commands declaration).count := by
  induction commands generalizing declaration with
  | nil => rfl
  | cons command rest ih =>
    have hfirst := decoratorCount_applyTo command namespaceName declaration
    have hrest := ih (command.applyTo namespaceName declaration).element
    simp only [applyAll, displaced]
    omega

/-- What commands leave of a declaration. -/
structure KeptBy (namespaceName : String) (commands : List Command)
    (before after : Declaration) : Prop where
  /-- Nothing changes but its own decorators and its members; the slots of a map stay
  as they are, with their decorators. -/
  rest : after =
    { before with properties := after.properties, decorators := after.decorators }
  /-- Its own decorators stay if no command selects it. -/
  own : (∀ command ∈ commands, ¬command.target.SelectsDeclaration namespaceName before) →
    after.decorators = before.decorators
  /-- The members stay in their places, each with new decorators at most, and one that
  no command selects stays as it is. -/
  members : Option.Rel
    (List.Forall₂ fun old new => new = old.retag new.decorators ∧
      ((∀ command ∈ commands, ¬command.target.SelectsProperty namespaceName before old) →
        new = old))
    before.properties after.properties

/-- A run leaves what it does not select. -/
theorem keptBy_applyAll (namespaceName : String) (commands : List Command)
    (declaration : Declaration) :
    declaration.KeptBy namespaceName commands
      (applyAll namespaceName commands declaration).element := by
  rw [element_applyAll]
  constructor
  · rfl
  · intro hnone
    have hown := Element.decoratorsAfter_of_not_selects
      (.declaration namespaceName declaration) hnone
    rwa [Element.decoratorsAfter_declaration] at hown
  · cases hproperties : declaration.properties with
    | none => simp [retag, hproperties]
    | some properties =>
      simp only [retag, hproperties, Option.map_some]
      refine .some (List.forall₂_map_right_iff.2 (List.forall₂_same.2 fun property _ => ?_))
      refine ⟨rfl, fun hnone => ?_⟩
      have hmember := Element.decoratorsAfter_of_not_selects
        (.property namespaceName declaration property) hnone
      rw [Element.decoratorsAfter_property] at hmember
      rw [hmember]
      rfl

end Declaration

/-- A target that selects a declaration selects none of its members. -/
theorem Target.SelectsDeclaration.not_selectsProperty {target : Target} {namespaceName : String}
    {declaration : Declaration} (h : target.SelectsDeclaration namespaceName declaration)
    (property : Property) : ¬target.SelectsProperty namespaceName declaration property := by
  intro hproperty
  exact hproperty.1.elim (fun hname => hname h.1.1) fun htype => htype h.1.2

/-! ## The balance -/

/-- What one command on a declaration adds up to. -/
structure Command.Balanced (command : Command) (namespaceName : String) (before : Declaration)
    (after : Tagged Declaration) : Prop where
  /-- The command is counted for each element of the declaration that it selects. -/
  count : after.count = (before.elements namespaceName).countP (command.target.Selects ·)
  /-- That is the declaration itself or some of its members, and never both. -/
  apart : command.target.SelectsDeclaration namespaceName before →
    ∀ property ∈ before.members, ¬command.target.SelectsProperty namespaceName before property
  /-- Elements that the command does not select stay as they are. -/
  kept : before.KeptBy namespaceName [command] after.element
  /-- A command that appends adds one decorator each time. -/
  appended : command.mode = .append →
    after.element.decoratorCount = before.decoratorCount + after.count
  /-- So does one that replaces, apart from the decorators of its name that the selected
  elements carried. -/
  replaced : command.mode = .upsert →
    after.element.decoratorCount +
        (Element.allDecorators ((before.elements namespaceName).filter
          (command.target.Selects ·))).countP (·.name = command.decorator.name) =
      before.decoratorCount + after.count

/-- What a run of commands on a declaration adds up to. -/
structure Declaration.Balanced (namespaceName : String) (commands : List Command)
    (before : Declaration) (after : Tagged Declaration) : Prop where
  /-- Each command is counted for each element of the declaration that it selects. -/
  count : after.count = Element.selections (before.elements namespaceName) commands
  /-- Elements that no command selects stay as they are. -/
  kept : before.KeptBy namespaceName commands after.element
  /-- Each time one decorator is added, apart from those that the commands take away at
  their turns. -/
  balance : after.element.decoratorCount + displaced namespaceName commands before =
    before.decoratorCount + after.count

/-- On every declaration the number of decorators is in balance after each command and
after each run of commands. -/
theorem decorators_conserved (namespaceName : String) (declaration : Declaration) :
    (∀ command : Command,
      command.Balanced namespaceName declaration (command.applyTo namespaceName declaration)) ∧
    ∀ commands : List Command,
      declaration.Balanced namespaceName commands
        (Declaration.applyAll namespaceName commands declaration) := by
  constructor
  · intro command
    have hbalance := Declaration.decoratorCount_applyTo command namespaceName declaration
    refine ⟨Declaration.count_applyTo command namespaceName declaration,
      fun hself property _ => hself.not_selectsProperty property,
      Declaration.keptBy_applyAll namespaceName [command] declaration, ?_, ?_⟩
    · intro happend
      simpa [Command.displaced, happend] using hbalance
    · intro hreplace
      simpa [Command.displaced, hreplace] using hbalance
  · intro commands
    exact ⟨Declaration.count_applyAll namespaceName commands declaration,
      Declaration.keptBy_applyAll namespaceName commands declaration,
      Declaration.decoratorCount_applyAll namespaceName commands declaration⟩

/-- Two members of one name are both selected, and three tags make way for two. -/
example :
    let member (tags : List String) : Property :=
      ⟨.field, "note", some "String", false, false, some (tags.map (⟨·, none⟩))⟩
    let before : Declaration :=
      ⟨.concept, "Person", none, some [member ["Pii", "Key", "Pii"], member ["Pii"]], none,
        none, none, none⟩
    let command : Command := ⟨⟨none, none, some "note", none⟩, ⟨"Pii", some []⟩, .upsert⟩
    let after := command.applyTo "org.acme" before
    (before.decoratorCount, after.count, after.element.decoratorCount) = (4, 2, 3) := by
  decide

end ModelTagging
