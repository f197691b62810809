/-!
# Qualified names

A qualified name joins a namespace and a name by a dot. It is taken apart at
its last dot, so a namespace may hold dots and a name found this way holds
none. A text without a dot is a name in the empty namespace.
-/

namespace ModelTagging

namespace Qualified

/-- The parts before and after the last dot, if there is one. -/
def splitAtLastDot : List Char → Option (List Char × List Char)
  | [] => none
  | c :: rest =>
    match splitAtLastDot rest with
    | some (before, after) => some (c :: before, after)
    | none => if c = '.' then some ([], rest) else none

/-- Splitting fails exactly on text without a dot. -/
theorem splitAtLastDot_eq_none_iff (cs : List Char) : splitAtLastDot cs = none ↔ '.' ∉ cs := by
  induction cs with
  | nil => simp [splitAtLastDot]
  | cons c rest ih =>
    rw [splitAtLastDot]
    cases h : splitAtLastDot rest with
    | some parts =>
      have : '.' ∈ rest := by
        by_cases hm : '.' ∈ rest
        · exact hm
        · rw [ih.2 hm] at h
          exact absurd h (by simp)
      simp [this]
    | none =>
      have hm := ih.1 h
      by_cases hc : c = '.'
      · simp [hc]
      · simp [hc, hm, Ne.symm hc]

/-- The two parts and a dot between them are the text, and the later part has
no dot. -/
theorem splitAtLastDot_eq_some_iff (cs before after : List Char) :
    splitAtLastDot cs = some (before, after) ↔ cs = before ++ '.' :: after ∧ '.' ∉ after := by
  induction cs generalizing before after with
  | nil => simp [splitAtLastDot]
  | cons c rest ih =>
    rw [splitAtLastDot]
    cases h : splitAtLastDot rest with
    | some parts =>
      obtain ⟨b, a⟩ := parts
      obtain ⟨hrest, ha⟩ := (ih b a).1 h
      constructor
      · rintro ⟨rfl, rfl⟩
        exact ⟨by simp [hrest], ha⟩
      · rintro ⟨heq, hafter⟩
        cases before with
        | nil =>
          obtain ⟨-, rfl⟩ := List.cons.inj heq
          exact absurd (by simp [hrest]) hafter
        | cons c' b' =>
          obtain ⟨rfl, htail⟩ := List.cons.inj heq
          rw [(ih b' after).2 ⟨htail, hafter⟩] at h
          simp_all
    | none =>
      have hm := (splitAtLastDot_eq_none_iff rest).1 h
      constructor
      · intro hsome
        by_cases hc : c = '.'
        · simp only [hc, if_pos] at hsome
          obtain ⟨rfl, rfl⟩ := hsome
          exact ⟨by simp [hc], hm⟩
        · simp [hc] at hsome
      · rintro ⟨heq, -⟩
        cases before with
        | nil =>
          obtain ⟨rfl, rfl⟩ := List.cons.inj heq
          simp
        | cons c' b' =>
          obtain ⟨-, htail⟩ := List.cons.inj heq
          exact absurd (by simp [htail]) hm

/-- The namespace and the name of a qualified name. -/
def split (s : String) : String × String :=
  match splitAtLastDot s.toList with
  | some (namespaceName, name) => (String.ofList namespaceName, String.ofList name)
  | none => ("", s)

/-- A namespace and a name joined by a dot. -/
def join (namespaceName name : String) : String := namespaceName ++ "." ++ name

/-- A name without a dot is told apart again from the namespace it was joined
to, whatever dots that holds. -/
theorem split_join (namespaceName name : String) (h : '.' ∉ name.toList) :
    split (join namespaceName name) = (namespaceName, name) := by
  have hsplit : splitAtLastDot (join namespaceName name).toList =
      some (namespaceName.toList, name.toList) :=
    (splitAtLastDot_eq_some_iff _ _ _).2 ⟨by simp [join], h⟩
  rw [split, hsplit]
  simp

/-- A text is taken apart into a namespace and a name exactly if the name has no dot
and the two are joined in the text, or the text is the name alone. -/
theorem split_eq_iff (s namespaceName name : String) :
    split s = (namespaceName, name) ↔
      '.' ∉ name.toList ∧ (s = join namespaceName name ∨ (namespaceName = "" ∧ s = name)) := by
  constructor
  · intro hsplit
    unfold split at hsplit
    split at hsplit
    · next before after hparts =>
      obtain ⟨hs, hdot⟩ := (splitAtLastDot_eq_some_iff _ _ _).1 hparts
      obtain ⟨rfl, rfl⟩ := Prod.mk.inj hsplit
      refine ⟨by simpa using hdot, .inl (String.toList_injective ?_)⟩
      simpa [join] using hs
    · next hparts =>
      obtain ⟨rfl, rfl⟩ := Prod.mk.inj hsplit
      exact ⟨(splitAtLastDot_eq_none_iff _).1 hparts, .inr ⟨rfl, rfl⟩⟩
  · rintro ⟨hdot, rfl | ⟨rfl, rfl⟩⟩
    · exact split_join namespaceName name hdot
    · rw [split, (splitAtLastDot_eq_none_iff _).2 hdot]

end Qualified

end ModelTagging
