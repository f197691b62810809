import ModelTagging.Command.Basic

/-!
# Selecting elements

A target is compared with the names of an element by plain equality, field by
field; an open field fits anything. What a declaration extends plays no part,
so a target never reaches a declaration through another one. A declaration is
selected by targets that leave property and type open, a property by all
others, and so no target selects both.
-/

namespace ModelTagging

/-- Whether an expected name is open or equal to the observed one. -/
def openOrEqual (expected observed : Option String) : Bool :=
  match expected with
  | none => true
  | some name => observed == some name

/-- An expected name fits when it is open, and otherwise only itself. -/
theorem openOrEqual_eq_true_iff (expected observed : Option String) :
    openOrEqual expected observed = true ↔ expected = none ∨ expected = observed := by
  cases expected with
  | none => simp [openOrEqual]
  | some name => simpa [openOrEqual] using eq_comm

namespace Target

/-- Whether a target fits a declaration or, when a property name is given, a
property of it with this declared type. -/
def fits (target : Target) (namespaceName declaration : String)
    (property typeName : Option String) : Bool :=
  openOrEqual target.namespaceName (some namespaceName) &&
    openOrEqual target.declaration (some declaration) &&
    (property.isNone ||
      (openOrEqual target.property property && openOrEqual target.typeName typeName))

/-- Whether a target selects a declaration of the namespace. -/
def selectsDeclaration (target : Target) (namespaceName : String) (declaration : Declaration) :
    Bool :=
  !target.targetsProperties && target.fits namespaceName declaration.name none none

/-- Whether a target selects a property of a declaration of this name. -/
def selectsProperty (target : Target) (namespaceName declaration : String) (property : Property) :
    Bool :=
  target.targetsProperties &&
    target.fits namespaceName declaration (some property.name) property.typeName

/-- A target that selects a declaration selects no property. -/
theorem selectsProperty_eq_false {target : Target} {namespaceName : String}
    {declaration : Declaration} (h : target.selectsDeclaration namespaceName declaration = true)
    (name : String) (property : Property) :
    target.selectsProperty namespaceName name property = false := by
  simp only [selectsDeclaration, Bool.and_eq_true, Bool.not_eq_true'] at h
  simp [selectsProperty, h.1]

end Target

end ModelTagging
