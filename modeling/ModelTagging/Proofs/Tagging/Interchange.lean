import ModelTagging.Proofs.Tagging.Merge

/-!
# Merges that can change places

When the order of two merges makes no difference to an element. Merges under
different names can change places exactly if one of them replaces and finds its
name present: that one has its place whenever it comes. Otherwise both decorators
are added at the end, and the order of the merges is the order they stand in.
Merges under one name can change places only if they are one and the same.
-/

namespace ModelTagging

/-- A decorator whose name is not present is added at the end. -/
theorem Decorator.replaceIn_of_not_mem {decorator : Decorator} {present : List Decorator}
    (h : decorator.name ∉ present.map (·.name)) :
    decorator.replaceIn present = present ++ [decorator] := by
  induction present with
  | nil => rfl
  | cons other rest ih =>
    rw [List.map_cons, List.mem_cons, not_or] at h
    rw [replaceIn, if_neg (Ne.symm h.1), ih h.2, List.cons_append]

namespace MergeMode

/-- A merge has a place for its decorator: it replaces, and the name is present. -/
def HasPlace (mode : MergeMode) (decorator : Decorator) (present : Decorators) : Prop :=
  mode = .upsert ∧ decorator.name ∈ Decorators.names present

section

variable {mode firstMode secondMode : MergeMode} {decorator first second : Decorator}
  {present : Decorators}

/-- A merge without a place adds its decorator at the end. -/
theorem merge_of_not_hasPlace (h : ¬mode.HasPlace decorator present) :
    mode.merge decorator present = present.getD [] ++ [decorator] := by
  cases mode with
  | upsert => exact Decorator.replaceIn_of_not_mem fun hmem => h ⟨rfl, hmem⟩
  | append => rfl

/-- It gets none from a decorator of another name. -/
theorem not_hasPlace_append (h : ¬mode.HasPlace decorator present)
    (hne : decorator.name ≠ first.name) :
    ¬mode.HasPlace decorator (some (present.getD [] ++ [first])) := by
  rintro ⟨hmode, hmem⟩
  have heither : decorator.name ∈ Decorators.names present ∨ decorator.name = first.name := by
    simpa [Decorators.names] using hmem
  rcases heither with hold | hnew
  · exact h ⟨hmode, hold⟩
  · exact hne hnew

/-- The decorators of its name after a merge: a decorator that replaces stands alone,
one that is appended stands behind those there were. -/
theorem filter_name_merge (mode : MergeMode) (decorator : Decorator) (present : Decorators) :
    (mode.merge decorator present).filter (·.name = decorator.name) =
      match mode with
      | .upsert => [decorator]
      | .append => (present.getD []).filter (·.name = decorator.name) ++ [decorator] := by
  cases mode with
  | upsert => exact decorator.filter_eq_replaceIn _
  | append => simp [merge]

/-- A merge that has a place can come before or after one under another name. -/
theorem HasPlace.merge_comm (h : secondMode.HasPlace second present)
    (hne : first.name ≠ second.name) (firstMode : MergeMode) :
    secondMode.merge second (some (firstMode.merge first present)) =
      firstMode.merge first (some (secondMode.merge second present)) := by
  obtain ⟨rfl, hmem⟩ := h
  have hcomm := Decorator.replaceIn_merge hmem firstMode first
  rw [if_neg hne] at hcomm
  exact hcomm

/-- Merges under different names can change places exactly if one of them has a
place. -/
theorem merge_comm_iff_of_name_ne (hne : first.name ≠ second.name) :
    secondMode.merge second (some (firstMode.merge first present)) =
        firstMode.merge first (some (secondMode.merge second present)) ↔
      firstMode.HasPlace first present ∨ secondMode.HasPlace second present := by
  constructor
  · intro h
    by_contra hneither
    rw [not_or] at hneither
    obtain ⟨hfirst, hsecond⟩ := hneither
    have hthen := not_hasPlace_append hsecond hne.symm
    have hbefore := not_hasPlace_append hfirst hne
    rw [merge_of_not_hasPlace hfirst, merge_of_not_hasPlace hsecond,
      merge_of_not_hasPlace hthen, merge_of_not_hasPlace hbefore] at h
    have hlast : second = first := List.singleton_inj.1 (List.append_inj_right' h rfl)
    exact hne (congrArg Decorator.name hlast.symm)
  · rintro (hfirst | hsecond)
    · exact (hfirst.merge_comm hne.symm secondMode).symm
    · exact hsecond.merge_comm hne firstMode

/-- Merges under one name can change places exactly if they are the same. -/
theorem merge_comm_iff_of_name_eq (heq : first.name = second.name) :
    secondMode.merge second (some (firstMode.merge first present)) =
        firstMode.merge first (some (secondMode.merge second present)) ↔
      firstMode = secondMode ∧ first = second := by
  constructor
  · intro h
    have hthen := filter_name_merge secondMode second (some (firstMode.merge first present))
    have hbefore := filter_name_merge firstMode first (some (secondMode.merge second present))
    have hfirst := filter_name_merge firstMode first present
    have hsecond := filter_name_merge secondMode second present
    rw [h] at hthen
    rw [heq] at hbefore hfirst
    have hnamed := hthen.symm.trans hbefore
    rw [Option.getD_some, Option.getD_some, hfirst, hsecond] at hnamed
    -- In one order two decorators of the name are left and in the other one, if the
    -- modes differ.
    cases firstMode with
    | upsert =>
      cases secondMode with
      | upsert => exact ⟨rfl, (List.singleton_inj.1 hnamed).symm⟩
      | append => exact absurd (congrArg List.length hnamed) (by simp)
    | append =>
      cases secondMode with
      | upsert => exact absurd (congrArg List.length hnamed) (by simp)
      | append => exact ⟨rfl, (List.singleton_inj.1 (List.append_inj_right' hnamed rfl)).symm⟩
  · rintro ⟨rfl, rfl⟩
    rfl

/-- The order of two merges makes no difference exactly in these cases: the names
differ, and both replace and one of the names is present, or one of them replaces,
its own name is present, and the other appends; or the two are one and the same
merge. -/
theorem merge_comm_iff (present : Decorators) (firstMode secondMode : MergeMode)
    (first second : Decorator) :
    secondMode.merge second (some (firstMode.merge first present)) =
        firstMode.merge first (some (secondMode.merge second present)) ↔
      (first.name ≠ second.name ∧
        ((firstMode = .upsert ∧ secondMode = .upsert ∧
            (first.name ∈ Decorators.names present ∨ second.name ∈ Decorators.names present)) ∨
          (firstMode = .upsert ∧ secondMode = .append ∧
            first.name ∈ Decorators.names present) ∨
          (firstMode = .append ∧ secondMode = .upsert ∧
            second.name ∈ Decorators.names present))) ∨
        (first.name = second.name ∧ firstMode = secondMode ∧ first = second) := by
  by_cases heq : first.name = second.name
  · rw [merge_comm_iff_of_name_eq heq]
    simp [heq]
  · rw [merge_comm_iff_of_name_ne heq]
    cases firstMode <;> cases secondMode <;> simp [heq, HasPlace]

end

end MergeMode

end ModelTagging
