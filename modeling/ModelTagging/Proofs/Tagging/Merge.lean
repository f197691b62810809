import ModelTagging.Proofs.Model.WellFormed
import ModelTagging.Tagging.Merge

/-!
# Merging one decorator after the other

What an element carries after commands that all select it. Whatever the modes,
merging adds no decorator but those of the commands and loses no name. A
decorator that is replaced absorbs what was merged in under its name before; on
decorators of other names it makes no difference when it is replaced, provided
that it has a place already.
-/

namespace ModelTagging

namespace Decorator

/-- Replacing brings in nothing but the decorator itself. -/
theorem mem_replaceIn {decorator other : Decorator} {present : List Decorator}
    (h : other ∈ decorator.replaceIn present) : other = decorator ∨ other ∈ present := by
  by_cases hname : other.name = decorator.name
  · have hfilter : other ∈ (decorator.replaceIn present).filter (·.name = decorator.name) :=
      List.mem_filter.2 ⟨h, by simpa using hname⟩
    rw [filter_eq_replaceIn] at hfilter
    exact .inl (List.mem_singleton.1 hfilter)
  · have hfilter : other ∈ (decorator.replaceIn present).filter (·.name ≠ decorator.name) :=
      List.mem_filter.2 ⟨h, by simpa using hname⟩
    rw [filter_ne_replaceIn] at hfilter
    exact .inr (List.mem_of_mem_filter hfilter)

/-- The decorator is there after replacing. -/
theorem mem_replaceIn_self (decorator : Decorator) (present : List Decorator) :
    decorator ∈ decorator.replaceIn present := by
  have h : decorator ∈ (decorator.replaceIn present).filter (·.name = decorator.name) := by
    rw [filter_eq_replaceIn]
    exact List.mem_singleton_self decorator
  exact List.mem_of_mem_filter h

/-- Decorators of other names are still there after replacing. -/
theorem mem_replaceIn_of_ne {decorator other : Decorator} {present : List Decorator}
    (hmem : other ∈ present) (hname : other.name ≠ decorator.name) :
    other ∈ decorator.replaceIn present := by
  have h : other ∈ (decorator.replaceIn present).filter (·.name ≠ decorator.name) := by
    rw [filter_ne_replaceIn]
    exact List.mem_filter.2 ⟨hmem, by simpa using hname⟩
  exact List.mem_of_mem_filter h

/-- Replacing what stands there alone by itself changes nothing. -/
theorem replaceIn_eq_self {decorator : Decorator} {present : List Decorator}
    (h : present.filter (·.name = decorator.name) = [decorator]) :
    decorator.replaceIn present = present := by
  induction present with
  | nil => exact nomatch h
  | cons other rest ih =>
    by_cases hname : other.name = decorator.name
    · rw [List.filter_cons_of_pos (by simpa using hname)] at h
      obtain ⟨rfl, hrest⟩ := List.cons.inj h
      have hkept : rest.filter (·.name ≠ other.name) = rest := by
        rw [List.filter_eq_self]
        rw [List.filter_eq_nil_iff] at hrest
        intro decorator hmem
        simpa using hrest decorator hmem
      rw [replaceIn, if_pos rfl, hkept]
    · rw [List.filter_cons_of_neg (by simpa using hname)] at h
      rw [replaceIn, if_neg hname, ih h]

/-- It makes no difference whether decorators of another name are taken away
before or after replacing. -/
theorem filter_replaceIn_of_ne {decorator : Decorator} {name : String}
    (h : decorator.name ≠ name) (present : List Decorator) :
    (decorator.replaceIn present).filter (·.name ≠ name) =
      decorator.replaceIn (present.filter (·.name ≠ name)) := by
  induction present with
  | nil => simp [replaceIn, h]
  | cons other rest ih =>
    by_cases hother : other.name = name
    · have hname : other.name ≠ decorator.name := fun heq => h (heq.symm.trans hother)
      rw [replaceIn, if_neg hname, List.filter_cons_of_neg (by simpa using hother), ih,
        List.filter_cons_of_neg (by simpa using hother)]
    · by_cases hname : other.name = decorator.name
      · simp [replaceIn, hname, h, List.filter_filter, Bool.and_comm]
      · rw [replaceIn, if_neg hname, List.filter_cons_of_pos (by simpa using hother), ih,
          List.filter_cons_of_pos (by simpa using hother), replaceIn, if_neg hname]

/-- Of two replacements of one name the second one counts. -/
theorem replaceIn_replaceIn {first second : Decorator} (h : first.name = second.name)
    (present : List Decorator) :
    second.replaceIn (first.replaceIn present) = second.replaceIn present := by
  induction present with
  | nil => simp [replaceIn, h]
  | cons other rest ih =>
    by_cases hname : other.name = second.name
    · simp [replaceIn, h, hname, List.filter_filter]
    · simp [replaceIn, h, hname, ih]

/-- Replacements of different names can change places where the second name is
present already. Otherwise each of them would be the first to be added. -/
theorem replaceIn_comm {first second : Decorator} (hne : first.name ≠ second.name)
    {present : List Decorator} (h : second.name ∈ present.map (·.name)) :
    second.replaceIn (first.replaceIn present) = first.replaceIn (second.replaceIn present) := by
  induction present with
  | nil => exact nomatch h
  | cons other rest ih =>
    by_cases hfirst : other.name = first.name
    · have hsecond : other.name ≠ second.name := hfirst ▸ hne
      have hrest := filter_replaceIn_of_ne hne.symm rest
      rw [replaceIn, if_pos hfirst, replaceIn, if_neg hne, ← hrest, replaceIn, if_neg hsecond,
        replaceIn, if_pos hfirst]
    · by_cases hsecond : other.name = second.name
      · have hrest := filter_replaceIn_of_ne hne rest
        rw [replaceIn, if_neg hfirst, replaceIn, if_pos hsecond, hrest, replaceIn,
          if_pos hsecond, replaceIn, if_neg hne.symm]
      · have hmem : second.name ∈ rest.map (·.name) :=
          List.mem_of_ne_of_mem (Ne.symm hsecond) h
        rw [replaceIn, if_neg hfirst, replaceIn, if_neg hsecond, ih hmem, replaceIn,
          if_neg hsecond, replaceIn, if_neg hfirst]

/-- Replacing among further decorators, when the name is present before them,
takes the name away from them. -/
theorem replaceIn_append {decorator : Decorator} {present : List Decorator}
    (h : decorator.name ∈ present.map (·.name)) (more : List Decorator) :
    decorator.replaceIn (present ++ more) =
      decorator.replaceIn present ++ more.filter (·.name ≠ decorator.name) := by
  induction present with
  | nil => exact nomatch h
  | cons other rest ih =>
    by_cases hname : other.name = decorator.name
    · simp [replaceIn, hname]
    · have hmem : decorator.name ∈ rest.map (·.name) :=
        List.mem_of_ne_of_mem (Ne.symm hname) h
      rw [List.cons_append, replaceIn, if_neg hname, ih hmem, replaceIn, if_neg hname,
        List.cons_append]

/-- A decorator that is replaced after a merge absorbs one of its own name and
lets one of another name pass, if it is present from the start. -/
theorem replaceIn_merge {decorator : Decorator} {present : List Decorator}
    (h : decorator.name ∈ present.map (·.name)) (mode : MergeMode) (merged : Decorator) :
    decorator.replaceIn (mode.merge merged (some present)) =
      if merged.name = decorator.name then decorator.replaceIn present
      else mode.merge merged (some (decorator.replaceIn present)) := by
  by_cases hname : merged.name = decorator.name
  · rw [if_pos hname]
    cases mode with
    | upsert => exact replaceIn_replaceIn hname present
    | append =>
      have hdropped : [merged].filter (·.name ≠ decorator.name) = [] := by simp [hname]
      rw [MergeMode.merge, Option.getD_some, replaceIn_append h, hdropped, List.append_nil]
  · rw [if_neg hname]
    cases mode with
    | upsert => exact replaceIn_comm hname h
    | append =>
      have hkept : [merged].filter (·.name ≠ decorator.name) = [merged] := by simp [hname]
      rw [MergeMode.merge, Option.getD_some, replaceIn_append h, hkept]
      rfl

end Decorator

namespace Decorators

/-- The names of the decorators of an element, in order. -/
def names (decorators : Decorators) : List String := (decorators.getD []).map (·.name)

/-- The decorators of an element after commands that all select it. -/
def after (commands : List Command) (present : Decorators) : Decorators :=
  commands.foldl (fun tags command => some (command.mode.merge command.decorator tags)) present

/-- Without a command the decorators stay, and an absent collection stays
absent. -/
@[simp] theorem after_nil (present : Decorators) : after [] present = present := rfl

/-- The first command is merged in before the others. -/
@[simp] theorem after_cons (command : Command) (rest : List Command) (present : Decorators) :
    after (command :: rest) present =
      after rest (some (command.mode.merge command.decorator present)) := rfl

/-- Two runs make one. -/
theorem after_append (first second : List Command) (present : Decorators) :
    after (first ++ second) present = after second (after first present) :=
  List.foldl_append

/-- After a command there is a collection. -/
theorem exists_after_cons (command : Command) (rest : List Command) (present : Decorators) :
    ∃ found, after (command :: rest) present = some found := by
  induction rest generalizing command present with
  | nil => exact ⟨_, rfl⟩
  | cons next rest ih => exact ih next _

/-- Merging keeps decorators well-formed. -/
theorem wellFormed_merge {present : Decorators} (h : WellFormed present) (mode : MergeMode)
    {decorator : Decorator} (hdecorator : decorator.WellFormed) :
    WellFormed (some (mode.merge decorator present)) := by
  intro other hother
  cases mode with
  | upsert =>
    rcases Decorator.mem_replaceIn hother with rfl | hmem
    · exact hdecorator
    · exact h other hmem
  | append =>
    rcases List.mem_append.1 hother with hmem | hmem
    · exact h other hmem
    · exact List.mem_singleton.1 hmem ▸ hdecorator

/-- So do commands with well-formed decorators. -/
theorem wellFormed_after {commands : List Command}
    (hcommands : ∀ command ∈ commands, command.decorator.WellFormed) {present : Decorators}
    (h : WellFormed present) : WellFormed (after commands present) := by
  induction commands generalizing present with
  | nil => exact h
  | cons command rest ih =>
    obtain ⟨hfirst, hrest⟩ := List.forall_mem_cons.1 hcommands
    exact ih hrest (wellFormed_merge h command.mode hfirst)

/-- Merging loses no name. -/
theorem names_subset_merge (mode : MergeMode) (decorator : Decorator) (present : Decorators) :
    names present ⊆ names (some (mode.merge decorator present)) := by
  intro name hname
  obtain ⟨other, hmem, rfl⟩ := List.mem_map.1 hname
  cases mode with
  | upsert =>
    by_cases heq : other.name = decorator.name
    · exact List.mem_map.2 ⟨decorator, decorator.mem_replaceIn_self _, heq.symm⟩
    · exact List.mem_map.2 ⟨other, Decorator.mem_replaceIn_of_ne hmem heq, rfl⟩
  | append => exact List.mem_map.2 ⟨other, List.mem_append_left _ hmem, rfl⟩

/-- A run of commands loses no name. -/
theorem names_subset_after (commands : List Command) (present : Decorators) :
    names present ⊆ names (after commands present) := by
  induction commands generalizing present with
  | nil => exact List.Subset.refl _
  | cons command rest ih =>
    have hfirst := names_subset_merge command.mode command.decorator present
    exact List.Subset.trans hfirst (ih _)

end Decorators

end ModelTagging
