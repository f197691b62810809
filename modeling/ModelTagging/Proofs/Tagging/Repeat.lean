import Mathlib.Data.List.Induction
import ModelTagging.Proofs.Tagging.Composition
import ModelTagging.Proofs.Tagging.Elements

/-!
# Running commands a second time

A second run of the same commands changes nothing when, on every element and for
every name, the last command that brings a decorator of the name replaces. The
first run then leaves exactly one decorator of each such name, the one of that
last command, and whatever the second run merges in under the name in between is
absorbed when the last command comes. Under a name that no command replaces, an
appended decorator is there once more after every run.
-/

namespace ModelTagging

/-! ## The last command of a name -/

namespace Command

/-- The last of some commands that brings a decorator of the name. -/
def lastNamed? (name : String) (commands : List Command) : Option Command :=
  (commands.filter (·.decorator.name = name)).getLast?

/-- The first command is the last one of a name if no later one is. -/
theorem lastNamed?_cons (name : String) (command : Command) (rest : List Command) :
    lastNamed? name (command :: rest) =
      (lastNamed? name rest).or (if command.decorator.name = name then some command else none) := by
  by_cases hname : command.decorator.name = name
  · rw [lastNamed?, List.filter_cons_of_pos (by simpa using hname), List.getLast?_cons,
      if_pos hname, lastNamed?]
    cases (rest.filter (·.decorator.name = name)).getLast? <;> rfl
  · rw [lastNamed?, List.filter_cons_of_neg (by simpa using hname), if_neg hname, Option.or_none,
      lastNamed?]

/-- A further command is the last one of its own name and of no other. -/
theorem lastNamed?_append_singleton (name : String) (commands : List Command)
    (command : Command) :
    lastNamed? name (commands ++ [command]) =
      if command.decorator.name = name then some command else lastNamed? name commands := by
  by_cases hname : command.decorator.name = name
  · simp [lastNamed?, hname]
  · simp [lastNamed?, hname]

/-- The last command of a name is one of the commands and brings the name. -/
theorem mem_of_lastNamed? {name : String} {commands : List Command} {last : Command}
    (h : lastNamed? name commands = some last) :
    last ∈ commands ∧ last.decorator.name = name := by
  have hmem := List.mem_filter.1 (List.mem_of_getLast? h)
  exact ⟨hmem.1, of_decide_eq_true hmem.2⟩

end Command

namespace Decorators

open Command

/-- Merging a decorator leaves those of another name alone. -/
theorem filter_merge_of_ne {decorator : Decorator} {name : String} (h : decorator.name ≠ name)
    (mode : MergeMode) (present : Decorators) :
    (mode.merge decorator present).filter (·.name = name) =
      (present.getD []).filter (·.name = name) := by
  have hdropped : [decorator].filter (·.name = name) = [] := by simp [h]
  cases mode with
  | append => rw [MergeMode.merge, List.filter_append, hdropped, List.append_nil]
  | upsert =>
    -- decorators of the name are among those of other names than the merged one
    have hother (tags : List Decorator) : tags.filter (·.name = name) =
        (tags.filter (·.name ≠ decorator.name)).filter (·.name = name) := by
      rw [List.filter_filter]
      refine List.filter_congr fun tag _ => ?_
      by_cases htag : tag.name = name
      · simp [htag, h.symm]
      · simp [htag]
    rw [MergeMode.merge, hother, Decorator.filter_ne_replaceIn, ← hother]

/-- If the last command of a name replaces, its decorator is the only one of the
name after the run. -/
theorem filter_after {name : String} {commands : List Command} {last : Command}
    (h : lastNamed? name commands = some last) (hmode : last.mode = .upsert)
    (present : Decorators) :
    ((after commands present).getD []).filter (·.name = name) = [last.decorator] := by
  induction commands using List.reverseRecOn with
  | nil => exact nomatch h
  | append_singleton commands command ih =>
    rw [lastNamed?_append_singleton] at h
    rw [after_append, after_cons, after_nil, Option.getD_some]
    by_cases hname : command.decorator.name = name
    · rw [if_pos hname] at h
      obtain rfl := Option.some.inj h
      rw [hmode, ← hname]
      exact Decorator.filter_eq_replaceIn command.decorator _
    · rw [if_neg hname] at h
      rw [filter_merge_of_ne hname, ih h]

/-- If the last command of a name replaces, a run does not see what decorators of
that name there are at its start, as long as their first place is the same:
replacing them by the last one first makes no difference. -/
theorem after_congr {name : String} {commands : List Command} {last : Command}
    (h : lastNamed? name commands = some last) (hmode : last.mode = .upsert)
    {present present' : List Decorator} (hmem : name ∈ present.map (·.name))
    (hmem' : name ∈ present'.map (·.name))
    (heq : last.decorator.replaceIn present = last.decorator.replaceIn present') :
    after commands (some present) = after commands (some present') := by
  induction commands generalizing present present' with
  | nil => exact nomatch h
  | cons command rest ih =>
    obtain rfl : last.decorator.name = name := (mem_of_lastNamed? h).2
    rw [lastNamed?_cons] at h
    rw [after_cons, after_cons]
    cases hlater : lastNamed? last.decorator.name rest with
    | some later =>
      rw [hlater, Option.some_or] at h
      obtain rfl := Option.some.inj h
      have hnames (tags : List Decorator) (htags : later.decorator.name ∈ names (some tags)) :
          later.decorator.name ∈ names (some (command.mode.merge command.decorator (some tags))) :=
        names_subset_merge command.mode command.decorator (some tags) htags
      refine ih hlater (hnames present hmem) (hnames present' hmem') ?_
      rw [Decorator.replaceIn_merge hmem, Decorator.replaceIn_merge hmem', heq]
    | none =>
      rw [hlater, Option.none_or] at h
      obtain ⟨-, rfl⟩ : command.decorator.name = last.decorator.name ∧ command = last := by
        simpa using h
      rw [hmode, MergeMode.merge, MergeMode.merge, Option.getD_some, Option.getD_some, heq]

/-- A run changes nothing where every name it brings is present exactly once, as
the decorator of the last command of the name, and that command replaces. -/
theorem after_eq_self {commands : List Command} {present : List Decorator}
    (h : ∀ name, ∀ last ∈ lastNamed? name commands,
      last.mode = .upsert ∧ present.filter (·.name = name) = [last.decorator]) :
    after commands (some present) = some present := by
  induction commands with
  | nil => rfl
  | cons command rest ih =>
    have hrest : after rest (some present) = some present := by
      refine ih fun name last hlast => h name last ?_
      rw [lastNamed?_cons, hlast, Option.some_or]
      rfl
    have hfirst := h command.decorator.name
    rw [lastNamed?_cons, if_pos rfl] at hfirst
    rw [after_cons]
    cases hlater : lastNamed? command.decorator.name rest with
    | none =>
      -- the command is the last one of its name and finds its own decorator
      rw [hlater] at hfirst
      obtain ⟨hmode, honly⟩ := hfirst command rfl
      have hmerge : command.mode.merge command.decorator (some present) = present := by
        rw [hmode]
        exact Decorator.replaceIn_eq_self honly
      rw [hmerge, hrest]
    | some last =>
      -- a later command of the name replaces, so this one leaves no trace
      rw [hlater] at hfirst
      obtain ⟨hmode, honly⟩ := hfirst last rfl
      have hname : last.decorator.name = command.decorator.name := (mem_of_lastNamed? hlater).2
      have hmem : command.decorator.name ∈ present.map (·.name) := by
        have hin : last.decorator ∈ present.filter (·.name = command.decorator.name) := by
          rw [honly]
          exact List.mem_singleton_self _
        exact List.mem_map.2 ⟨_, List.mem_of_mem_filter hin, hname⟩
      have hmerged : command.decorator.name ∈
          (command.mode.merge command.decorator (some present)).map (·.name) :=
        names_subset_merge command.mode command.decorator (some present) hmem
      have habsorbed : last.decorator.replaceIn
          (command.mode.merge command.decorator (some present)) =
            last.decorator.replaceIn present := by
        rw [Decorator.replaceIn_merge (hname ▸ hmem), if_pos hname.symm]
      rw [after_congr hlater hmode hmerged hmem habsorbed, hrest]

/-- Running commands twice is running them once, if the last command of each name
replaces. -/
theorem after_after {commands : List Command}
    (h : ∀ name, ∀ last ∈ lastNamed? name commands, last.mode = .upsert) (present : Decorators) :
    after commands (after commands present) = after commands present := by
  cases hfound : after commands present with
  | none =>
    -- only the empty run leaves an absent collection
    cases commands with
    | nil => rfl
    | cons command rest =>
      obtain ⟨found, hsome⟩ := exists_after_cons command rest present
      exact nomatch hfound.symm.trans hsome
  | some found =>
    refine after_eq_self fun name last hlast => ⟨h name last hlast, ?_⟩
    have honly := filter_after hlast (h name last hlast) present
    rwa [hfound, Option.getD_some] at honly

end Decorators

/-! ## Decorating twice -/

namespace CommandSet

/-- On every element of the registry and for every name, the last command that
selects the element and brings a decorator of the name replaces. -/
def EndsReplacing (set : CommandSet) (registry : Registry) : Prop :=
  ∀ element ∈ registry.elements, ∀ name,
    ∀ last ∈ Command.lastNamed? name (set.commands.filter (·.target.Selects element)),
      last.mode = .upsert

/-- It is enough to look at names that commands bring. -/
theorem endsReplacing_iff (set : CommandSet) (registry : Registry) :
    set.EndsReplacing registry ↔ ∀ element ∈ registry.elements, ∀ command ∈ set.commands,
      ∀ last ∈ Command.lastNamed? command.decorator.name
        (set.commands.filter (·.target.Selects element)), last.mode = .upsert := by
  constructor
  · exact fun h element helement command _ => h element helement command.decorator.name
  · intro h element helement name last hlast
    obtain ⟨hmem, rfl⟩ := Command.mem_of_lastNamed? hlast
    exact h element helement last (List.mem_of_mem_filter hmem) last hlast

instance (set : CommandSet) (registry : Registry) : Decidable (set.EndsReplacing registry) :=
  decidable_of_iff _ (set.endsReplacing_iff registry).symm

/-- A set of which all commands replace is a case of it. -/
theorem endsReplacing_of_forall {set : CommandSet}
    (h : ∀ command ∈ set.commands, command.mode = .upsert) (registry : Registry) :
    set.EndsReplacing registry :=
  fun _ _ _ last hlast => h last (List.mem_of_mem_filter (Command.mem_of_lastNamed? hlast).1)

end CommandSet

namespace Registry

/-- A second run of the commands makes nothing new of a registry. -/
theorem decorated_decorated {registry : Registry} {set : CommandSet}
    (h : set.EndsReplacing registry) :
    (registry.decorated set.commands).decorated set.commands =
      registry.decorated set.commands := by
  rw [← decorated_append]
  refine decorated_congr fun element helement => ?_
  rw [Element.decoratorsAfter, Element.decoratorsAfter, List.filter_append,
    Decorators.after_append, Decorators.after_after (h element helement)]

/-- Decorating the result with the same set gives the result again, whatever
checks both decorations are asked for, if the last command of each name replaces
on every element. A set without appending commands satisfies this in every
registry. -/
theorem decorate_decorate {registry : Registry} (hr : registry.Reachable) {set : CommandSet}
    (hparsed : set.Parsed) :
    (set.EndsReplacing registry →
      (∃ result, registry.decorate (.parsed set) .unchecked = .ok result) ∧
        ∀ options result, registry.decorate (.parsed set) options = .ok result →
          result.decorate (.parsed set) options = .ok result) ∧
      ((∀ command ∈ set.commands, command.mode = .upsert) → set.EndsReplacing registry) := by
  have h := hr.wellFormed
  have hset := (CommandSource.valid_parsed hparsed).wellFormed
  refine ⟨fun hends => ⟨⟨_, h.decorate_of_unchecked hset rfl rfl⟩, ?_⟩,
    fun hall => CommandSet.endsReplacing_of_forall hall registry⟩
  intro options result hresult
  obtain ⟨hpasses, rfl⟩ := (h.decorate_parsed_eq_ok_iff hset).1 hresult
  have hagain : set.Passes (registry.decorated set.commands) options :=
    (CommandSet.prepare_decorated h hparsed.wellFormed _ _).trans hpasses
  exact ((h.decorated hparsed.wellFormed).decorate_parsed_eq_ok_iff hset).2
    ⟨hagain, (decorated_decorated hends).symm⟩

/-- The commands for the concept with the appending one first and the one for
texts: the appended tag is absorbed in both runs. -/
theorem decorate_decorate_sample :
    (Sample.set (Sample.personCommands.reverse ++ Sample.textCommands)).EndsReplacing
      Sample.registry ∧
    ∃ result,
      Sample.registry.decorate
        (.parsed (Sample.set (Sample.personCommands.reverse ++ Sample.textCommands)))
          ⟨true, true⟩ = .ok result ∧
      result.decorate
        (.parsed (Sample.set (Sample.personCommands.reverse ++ Sample.textCommands)))
          ⟨true, true⟩ = .ok result := by
  have hparsed : (Sample.set (Sample.personCommands.reverse ++ Sample.textCommands)).Parsed :=
    (CommandSet.parsed_iff_wellFormed _).2 (by decide)
  have hends : (Sample.set (Sample.personCommands.reverse ++ Sample.textCommands)).EndsReplacing
      Sample.registry := by decide
  have hresult := (Sample.reachable_registry.wellFormed.decorate_parsed_eq_ok_iff
    (CommandSource.valid_parsed hparsed).wellFormed).2
      ⟨(Sample.reachable_registry.wellFormed.passes_iff ⟨true, true⟩ _).2 (by decide), rfl⟩
  have hagain := ((decorate_decorate Sample.reachable_registry hparsed).1 hends).2 _ _ hresult
  exact ⟨hends, _, hresult, hagain⟩

/-- The appending command alone appends once more in a second run. -/
example :
    (Sample.registry.decorated Sample.personCommands.tail).decorated Sample.personCommands.tail ≠
      Sample.registry.decorated Sample.personCommands.tail := by decide

end Registry

end ModelTagging
