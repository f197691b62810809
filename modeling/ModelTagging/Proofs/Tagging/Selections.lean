import Mathlib.Data.List.ProdSigma
import ModelTagging.Proofs.Tagging.Elements

/-!
# How often commands decorate

A run of commands counts how often it decorates an element. The main result is that
this is the number of pairs of an element of the model and a command that selects it,
each command counted where it stands: decorating an element changes nothing about
which commands select it, so the pairs can be counted in the model as it was.
-/

namespace ModelTagging

namespace Element

/-- How many pairs there are of an element and a command that selects it. -/
def selections (elements : List Element) (commands : List Command) : Nat :=
  (elements ×ˢ commands).countP fun pair => pair.2.target.Selects pair.1

/-- Without commands there is no pair. -/
@[simp] theorem selections_nil_right (elements : List Element) : selections elements [] = 0 := by
  simp [selections]

/-- The pairs with some elements and those with others are counted apart. -/
@[simp] theorem selections_append (first second : List Element) (commands : List Command) :
    selections (first ++ second) commands =
      selections first commands + selections second commands := by
  simp only [selections, SProd.sprod, List.product, List.flatMap_append, List.countP_append]

/-- The pairs with the first command are the elements that it selects. -/
theorem selections_cons (elements : List Element) (command : Command) (rest : List Command) :
    selections elements (command :: rest) =
      elements.countP (command.target.Selects ·) + selections elements rest := by
  induction elements with
  | nil => rfl
  | cons element others ih =>
    have hpairs (commands : List Command) : selections (element :: others) commands =
        commands.countP (·.target.Selects element) + selections others commands := by
      simp [selections, List.product_cons, Function.comp_def]
    rw [hpairs, hpairs, ih, List.countP_cons, List.countP_cons]
    omega

/-- Lists of which every target selects as many elements are in as many pairs. -/
theorem selections_congr {first second : List Element}
    (h : ∀ target : Target, first.countP (target.Selects ·) = second.countP (target.Selects ·))
    (commands : List Command) : selections first commands = selections second commands := by
  induction commands with
  | nil => simp
  | cons command rest ih => rw [selections_cons, selections_cons, h, ih]

end Element

namespace Declaration

/-- A declaration and its members as elements of the namespace. -/
def elements (namespaceName : String) (declaration : Declaration) : List Element :=
  .declaration namespaceName declaration ::
    declaration.members.map (.property namespaceName declaration)

/-- A target selects as many elements of a declaration with other decorators. -/
theorem countP_elements_retag (target : Target) (namespaceName : String)
    (declaration : Declaration) (own : Decorators) (member : Property → Decorators) :
    ((declaration.retag own member).elements namespaceName).countP (target.Selects ·) =
      (declaration.elements namespaceName).countP (target.Selects ·) := by
  have hmember : ((fun element => decide (target.Selects element)) ∘
        Element.property namespaceName (declaration.retag own member)) ∘
          (fun property : Property => property.retag (member property)) =
      (fun element => decide (target.Selects element)) ∘
        Element.property namespaceName declaration := rfl
  rw [elements, elements, members_retag, List.countP_cons, List.countP_cons, List.countP_map,
    List.countP_map, List.countP_map, hmember]
  rfl

/-- One command counts the elements of a declaration that it selects: the declaration
itself, or else some of its members. -/
theorem count_applyTo (command : Command) (namespaceName : String) (declaration : Declaration) :
    (command.applyTo namespaceName declaration).count =
      (declaration.elements namespaceName).countP (command.target.Selects ·) := by
  have hmembers : (declaration.members.map (.property namespaceName declaration)).countP
      (command.target.Selects ·) = declaration.members.countP
        (command.target.selectsProperty namespaceName declaration.name) := by
    rw [List.countP_map]
    refine List.countP_congr fun property _ => decide_eq_true_iff.trans ?_
    exact (command.target.selectsProperty_eq_true_iff namespaceName declaration property).symm
  have hown : decide (command.target.Selects (.declaration namespaceName declaration)) =
      command.target.selectsDeclaration namespaceName declaration := by
    simp [Target.Selects, ← Target.selectsDeclaration_eq_true_iff]
  rw [elements, List.countP_cons, hmembers, hown, Command.applyTo]
  by_cases h : command.target.selectsDeclaration namespaceName declaration = true
  · have hnone : declaration.members.countP
        (command.target.selectsProperty namespaceName declaration.name) = 0 :=
      List.countP_eq_zero.2 fun property _ => by
        simp [Target.selectsProperty_eq_false h declaration.name property]
    rw [if_pos h, if_pos h, hnone]
  · rw [if_neg h, if_neg h, Nat.add_zero]

/-- A run on a declaration counts the pairs with its elements. -/
theorem count_applyAll (namespaceName : String) (commands : List Command)
    (declaration : Declaration) :
    (applyAll namespaceName commands declaration).count =
      Element.selections (declaration.elements namespaceName) commands := by
  induction commands generalizing declaration with
  | nil => simp [applyAll]
  | cons command rest ih =>
    -- The commands that are left count on the declaration as the first one left it.
    have hrest : Element.selections
        ((command.applyTo namespaceName declaration).element.elements namespaceName) rest =
          Element.selections (declaration.elements namespaceName) rest := by
      rw [command.element_applyTo]
      exact Element.selections_congr (fun target => countP_elements_retag target _ _ _ _) rest
    rw [applyAll, ih, hrest, count_applyTo, Element.selections_cons]

end Declaration

/-- Runs that count pairs with their own elements count those with all of them. -/
theorem Tagged.count_ofList_map {α β : Type} {run : α → Tagged β} {elements : α → List Element}
    {commands : List Command}
    (h : ∀ part, (run part).count = Element.selections (elements part) commands)
    (parts : List α) :
    (ofList (parts.map run)).count = Element.selections (parts.flatMap elements) commands := by
  induction parts with
  | nil => rfl
  | cons part rest ih =>
    rw [List.flatMap_cons, Element.selections_append, ← h, ← ih]
    rfl

/-- A run on a registry counts the pairs with its elements. -/
theorem Registry.count_applyAll (registry : Registry) (commands : List Command) :
    (registry.tree.applyAll commands).count =
      Element.selections registry.elements commands := by
  have hfile (file : ModelFile) : (file.applyAll commands).count =
      Element.selections
        (file.declarations.flatMap (Declaration.elements file.namespaceName)) commands :=
    Tagged.count_ofList_map (Declaration.count_applyAll file.namespaceName commands)
      file.declarations
  exact Tagged.count_ofList_map hfile registry.files

end ModelTagging
