import ModelTagging.Proofs.Tagging.Retag

/-!
# Elements of a model

The declarations and the properties of a model in one list, each with where it
stands, and which of them a target selects. Two runs of commands make the same
of a model when they leave the same decorators on each of its elements, so a
statement about runs comes down to the commands that select one element.
-/

namespace ModelTagging

/-! ## Which elements a target selects -/

namespace Target

/-- A target selects a declaration if it is not about properties and the names
it sets are those of the declaration and its namespace. -/
def SelectsDeclaration (target : Target) (namespaceName : String) (declaration : Declaration) :
    Prop :=
  (target.property = none ∧ target.typeName = none) ∧
    (target.namespaceName = none ∨ target.namespaceName = some namespaceName) ∧
    (target.declaration = none ∨ target.declaration = some declaration.name)

/-- A target selects a property if it is about properties and the names it sets
are those of the property, its declared type, its declaration and its
namespace. -/
def SelectsProperty (target : Target) (namespaceName : String) (declaration : Declaration)
    (property : Property) : Prop :=
  (target.property ≠ none ∨ target.typeName ≠ none) ∧
    (target.namespaceName = none ∨ target.namespaceName = some namespaceName) ∧
    (target.declaration = none ∨ target.declaration = some declaration.name) ∧
    (target.property = none ∨ target.property = some property.name) ∧
    (target.typeName = none ∨ target.typeName = property.typeName)

/-- Comparing a target with a declaration finds out whether it selects it. -/
theorem selectsDeclaration_eq_true_iff (target : Target) (namespaceName : String)
    (declaration : Declaration) :
    target.selectsDeclaration namespaceName declaration = true ↔
      target.SelectsDeclaration namespaceName declaration := by
  simp [selectsDeclaration, SelectsDeclaration, targetsProperties, fits,
    openOrEqual_eq_true_iff]

/-- Comparing a target with a property finds out whether it selects it. -/
theorem selectsProperty_eq_true_iff (target : Target) (namespaceName : String)
    (declaration : Declaration) (property : Property) :
    target.selectsProperty namespaceName declaration.name property = true ↔
      target.SelectsProperty namespaceName declaration property := by
  simp [selectsProperty, SelectsProperty, targetsProperties, fits, openOrEqual_eq_true_iff,
    Option.isSome_iff_ne_none, and_assoc]

instance (target : Target) (namespaceName : String) (declaration : Declaration) :
    Decidable (target.SelectsDeclaration namespaceName declaration) :=
  decidable_of_iff _ (target.selectsDeclaration_eq_true_iff namespaceName declaration)

instance (target : Target) (namespaceName : String) (declaration : Declaration)
    (property : Property) :
    Decidable (target.SelectsProperty namespaceName declaration property) :=
  decidable_of_iff _ (target.selectsProperty_eq_true_iff namespaceName declaration property)

end Target

/-! ## Elements -/

/-- A declaration or a property of a model, and where it stands. -/
inductive Element where
  /-- A declaration of the namespace. -/
  | declaration (namespaceName : String) (declaration : Declaration)
  /-- A property of a declaration of the namespace. -/
  | property (namespaceName : String) (owner : Declaration) (property : Property)
  deriving DecidableEq

/-- The decorators that an element carries. -/
def Element.decorators : Element → Decorators
  | .declaration _ itself => itself.decorators
  | .property _ _ itself => itself.decorators

/-- A target selects an element as what it is. -/
def Target.Selects (target : Target) : Element → Prop
  | .declaration namespaceName declaration => target.SelectsDeclaration namespaceName declaration
  | .property namespaceName owner property => target.SelectsProperty namespaceName owner property

instance (target : Target) (element : Element) : Decidable (target.Selects element) :=
  match element with
  | .declaration namespaceName declaration =>
    inferInstanceAs (Decidable (target.SelectsDeclaration namespaceName declaration))
  | .property namespaceName owner property =>
    inferInstanceAs (Decidable (target.SelectsProperty namespaceName owner property))

/-- The decorators of an element after commands, of which those selecting it
count. -/
def Element.decoratorsAfter (element : Element) (commands : List Command) : Decorators :=
  Decorators.after (commands.filter (·.target.Selects element)) element.decorators

/-- Of a declaration as an element the same commands count. -/
theorem Element.decoratorsAfter_declaration (commands : List Command) (namespaceName : String)
    (declaration : Declaration) :
    (Element.declaration namespaceName declaration).decoratorsAfter commands =
      declaration.decoratorsAfter commands namespaceName := by
  simp only [decoratorsAfter, Declaration.decoratorsAfter, decorators, Target.Selects,
    ← Target.selectsDeclaration_eq_true_iff, Bool.decide_eq_true]

/-- Of a property as an element the same commands count. -/
theorem Element.decoratorsAfter_property (commands : List Command) (namespaceName : String)
    (owner : Declaration) (property : Property) :
    (Element.property namespaceName owner property).decoratorsAfter commands =
      property.decoratorsAfter commands namespaceName owner.name := by
  simp only [decoratorsAfter, Property.decoratorsAfter, decorators, Target.Selects,
    ← Target.selectsProperty_eq_true_iff, Bool.decide_eq_true]

namespace Registry

/-- The elements of a registry in order, each declaration before its members. -/
def elements (registry : Registry) : List Element :=
  registry.files.flatMap fun file =>
    file.declarations.flatMap fun declaration =>
      .declaration file.namespaceName declaration ::
        declaration.members.map (.property file.namespaceName declaration)

/-- Every declaration of a registry is an element of it. -/
theorem declaration_mem_elements {registry : Registry} {file : ModelFile}
    (hfile : file ∈ registry.files) {declaration : Declaration}
    (hdeclaration : declaration ∈ file.declarations) :
    .declaration file.namespaceName declaration ∈ registry.elements :=
  List.mem_flatMap.2 ⟨file, hfile, List.mem_flatMap.2 ⟨declaration, hdeclaration, by simp⟩⟩

/-- So is every property of a declaration. -/
theorem property_mem_elements {registry : Registry} {file : ModelFile}
    (hfile : file ∈ registry.files) {declaration : Declaration}
    (hdeclaration : declaration ∈ file.declarations) {property : Property}
    (hproperty : property ∈ declaration.members) :
    .property file.namespaceName declaration property ∈ registry.elements :=
  List.mem_flatMap.2 ⟨file, hfile, List.mem_flatMap.2 ⟨declaration, hdeclaration,
    List.mem_cons_of_mem _ (List.mem_map.2 ⟨property, hproperty, rfl⟩)⟩⟩

/-- There are no other elements. -/
theorem exists_of_mem_elements {registry : Registry} {element : Element}
    (h : element ∈ registry.elements) :
    ∃ file ∈ registry.files, ∃ declaration ∈ file.declarations,
      element = .declaration file.namespaceName declaration ∨
        ∃ property ∈ declaration.members,
          element = .property file.namespaceName declaration property := by
  obtain ⟨file, hfile, hdeclarations⟩ := List.mem_flatMap.1 h
  obtain ⟨declaration, hdeclaration, helement⟩ := List.mem_flatMap.1 hdeclarations
  refine ⟨file, hfile, declaration, hdeclaration, ?_⟩
  rcases List.mem_cons.1 helement with rfl | hmember
  · exact .inl rfl
  · obtain ⟨property, hproperty, rfl⟩ := List.mem_map.1 hmember
    exact .inr ⟨property, hproperty, rfl⟩

/-- Two runs make the same of a registry if they leave the same decorators on
each of its elements. -/
theorem decorated_congr {registry : Registry} {first second : List Command}
    (h : ∀ element ∈ registry.elements,
      element.decoratorsAfter first = element.decoratorsAfter second) :
    registry.decorated first = registry.decorated second := by
  rw [decorated_eq_retag, decorated_eq_retag]
  refine retag_congr ?_ ?_
  · intro file hfile declaration hdeclaration
    have hown := h _ (declaration_mem_elements hfile hdeclaration)
    rwa [Element.decoratorsAfter_declaration, Element.decoratorsAfter_declaration] at hown
  · intro file hfile declaration hdeclaration property hproperty
    have hmember := h _ (property_mem_elements hfile hdeclaration hproperty)
    rwa [Element.decoratorsAfter_property, Element.decoratorsAfter_property] at hmember

end Registry

end ModelTagging
