import Mathlib.Data.List.FinRange
import Mathlib.Data.List.Sort
import Mathlib.Logic.Equiv.Fin.Rotate
import ModelTagging.Proofs.Tagging.Elements
import ModelTagging.Proofs.Tagging.Reachable

/-!
# Commands in another order

Two commands meet in a model when some element of it is selected by both. Only
the order of commands that meet matters: when each such pair keeps its order,
every element is reached by the same commands in the same order as before, since
which of them select it does not depend on tags. All other commands may change
places, however far apart they stand.
-/

namespace ModelTagging

/-! ## Rearranged lists -/

/-- A rearranged list holds the items that pass a test in the old order, if no
two of them change their order. Items are told apart by their positions, so
equal ones may occur. -/
theorem List.filter_ofFn_perm {α : Type} (items : List α) (order : Equiv.Perm (Fin items.length))
    (test : α → Bool)
    (h : ∀ first second, first < second → test items[first] = true →
      test items[second] = true → order.symm first < order.symm second) :
    (List.ofFn fun place => items[order place]).filter test = items.filter test := by
  -- Both lists come from the positions of their items: those of the old one in
  -- increasing order, those of the new one as rearranged.
  let passes : Fin items.length → Bool := fun position => test items[position]
  have hold : items = (List.finRange items.length).map fun position => items[position] := by
    rw [← List.ofFn_eq_map]
    exact List.ofFn_getElem.symm
  have hnew : (List.ofFn fun place => items[order place]) =
      (List.ofFn order).map fun position => items[position] := by
    rw [List.map_ofFn]
    rfl
  have hperm : ((List.ofFn order).filter passes).Perm
      ((List.finRange items.length).filter passes) := by
    have hpositions : (List.ofFn order).Perm (List.ofFn id) := Equiv.Perm.ofFn_comp_perm order id
    rw [List.ofFn_id] at hpositions
    exact hpositions.filter passes
  have holdSorted : ((List.finRange items.length).filter passes).Pairwise (· < ·) :=
    (List.pairwise_lt_finRange _).filter passes
  have hnewSorted : ((List.ofFn order).filter passes).Pairwise (· < ·) := by
    rw [List.pairwise_filter, List.pairwise_ofFn]
    intro place place' hplaces hpasses hpasses'
    have hne : order place' ≠ order place := fun heq => hplaces.ne' (order.injective heq)
    refine lt_of_le_of_ne (not_lt.1 fun hlt => ?_) hne.symm
    have hback := h _ _ hlt hpasses' hpasses
    rw [Equiv.symm_apply_apply, Equiv.symm_apply_apply] at hback
    exact absurd hplaces hback.asymm
  have hsame : (List.ofFn order).filter passes = (List.finRange items.length).filter passes :=
    hperm.eq_of_pairwise (fun _ _ _ _ hlt hlt' => absurd hlt' hlt.asymm) hnewSorted holdSorted
  calc (List.ofFn fun place => items[order place]).filter test
      = ((List.ofFn order).filter passes).map fun position => items[position] := by
        rw [hnew, List.filter_map]
        rfl
    _ = ((List.finRange items.length).filter passes).map fun position => items[position] := by
        rw [hsame]
    _ = ((List.finRange items.length).map fun position => items[position]).filter test := by
        rw [List.filter_map]
        rfl
    _ = items.filter test := by rw [← hold]

/-! ## Commands that meet -/

/-- Two commands meet in a registry when some declaration or property of it is
selected by both. -/
def Command.MeetIn (registry : Registry) (first second : Command) : Prop :=
  ∃ element ∈ registry.elements, first.target.Selects element ∧ second.target.Selects element

instance (registry : Registry) (first second : Command) :
    Decidable (first.MeetIn registry second) :=
  inferInstanceAs (Decidable (∃ _ ∈ _, _))

namespace CommandSet

/-- The set with its commands in a new order, which says for each place from
which position its command comes. -/
def rearranged (set : CommandSet) (order : Equiv.Perm (Fin set.commands.length)) : CommandSet :=
  { set with commands := List.ofFn fun place => set.commands[order place] }

/-- Commands that meet in the registry keep their order. -/
def KeepsMeetings (set : CommandSet) (registry : Registry)
    (order : Equiv.Perm (Fin set.commands.length)) : Prop :=
  ∀ first second : Fin set.commands.length, first < second →
    set.commands[first].MeetIn registry set.commands[second] →
      order.symm first < order.symm second

instance (set : CommandSet) (registry : Registry) (order : Equiv.Perm (Fin set.commands.length)) :
    Decidable (set.KeepsMeetings registry order) :=
  inferInstanceAs (Decidable (∀ _ _, _ → _ → _))

/-- A rearranged set has the commands of the set. -/
theorem mem_rearranged {set : CommandSet} {order : Equiv.Perm (Fin set.commands.length)}
    {command : Command} (h : command ∈ (set.rearranged order).commands) :
    command ∈ set.commands := by
  obtain ⟨place, rfl⟩ := List.mem_ofFn.1 h
  exact List.getElem_mem _

/-- A rearranged set is parsed like the set itself. -/
theorem Parsed.rearranged {set : CommandSet} (h : set.Parsed)
    (order : Equiv.Perm (Fin set.commands.length)) : (set.rearranged order).Parsed := by
  have hwf := (parsed_iff_wellFormed set).1 h
  exact h.withCommands fun command hcommand => hwf.2.2.2 command (mem_rearranged hcommand)

/-- Each element of the registry is selected by the same commands in the same
order. -/
theorem filter_rearranged {set : CommandSet} {registry : Registry}
    {order : Equiv.Perm (Fin set.commands.length)} (h : set.KeepsMeetings registry order)
    {element : Element} (helement : element ∈ registry.elements) :
    (set.rearranged order).commands.filter (·.target.Selects element) =
      set.commands.filter (·.target.Selects element) := by
  refine List.filter_ofFn_perm set.commands order _ fun first second hlt hfirst hsecond => ?_
  exact h first second hlt
    ⟨element, helement, of_decide_eq_true hfirst, of_decide_eq_true hsecond⟩

end CommandSet

/-! ## Decorating in another order -/

namespace Registry

/-- A run of rearranged commands makes the same of a registry. -/
theorem decorated_rearranged {registry : Registry} {set : CommandSet}
    {order : Equiv.Perm (Fin set.commands.length)} (h : set.KeepsMeetings registry order) :
    registry.decorated (set.rearranged order).commands = registry.decorated set.commands := by
  refine decorated_congr fun element helement => ?_
  rw [Element.decoratorsAfter, Element.decoratorsAfter, CommandSet.filter_rearranged h helement]

/-- When commands that meet keep their order, decorating with the rearranged set
succeeds like decorating with the set itself, and both give one registry. -/
theorem decorate_rearranged {registry : Registry} (hr : registry.Reachable) {set : CommandSet}
    (hparsed : set.Parsed) {order : Equiv.Perm (Fin set.commands.length)}
    (horder : set.KeepsMeetings registry order) {options : Options}
    (hoptions : options.validateShape = false) :
    ∃ result, registry.decorate (.parsed set) options = .ok result ∧
      registry.decorate (.parsed (set.rearranged order)) options = .ok result := by
  exact hr.wellFormed.decorate_alike hparsed (hparsed.rearranged order)
    (decorated_rearranged horder) hoptions

/-- The command for texts reaches no element of the other two, so it may run
first. The two of them meet at the concept and could not change places. -/
theorem decorate_rearranged_sample :
    ((Sample.set (Sample.personCommands ++ Sample.textCommands)).KeepsMeetings Sample.registry
        (finRotate _).symm ∧
      ¬(Sample.set (Sample.personCommands ++ Sample.textCommands)).KeepsMeetings Sample.registry
        (Equiv.swap ⟨0, by decide⟩ ⟨1, by decide⟩)) ∧
    ∃ result,
      Sample.registry.decorate
        (.parsed (Sample.set (Sample.personCommands ++ Sample.textCommands))) .unchecked =
          .ok result ∧
      Sample.registry.decorate
        (.parsed (Sample.set (Sample.textCommands ++ Sample.personCommands))) .unchecked =
          .ok result := by
  have hkeeps : (Sample.set (Sample.personCommands ++ Sample.textCommands)).KeepsMeetings
      Sample.registry (finRotate _).symm := by decide
  exact ⟨⟨hkeeps, by decide⟩, decorate_rearranged Sample.reachable_registry Sample.parsed_set
    hkeeps (rfl : Options.unchecked.validateShape = false)⟩

end Registry

end ModelTagging
