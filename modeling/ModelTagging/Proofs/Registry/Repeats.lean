import Mathlib.Data.List.Nodup
import ModelTagging.Registry.Basic

/-!
# Repeated names and refusals

What a namespace is refused for, unless its own name is taken. All its names are
met on one walk, the name of each declaration before those of its properties, and
the repeat that is reported is the first name on the walk that was met before.
Nothing is reported exactly if the declarations have distinct names and so do the
properties of each of them.
-/

namespace ModelTagging

/-! ## The first repeat of a list -/

/-- Of all names in a list, the first that was met before. -/
def FirstRepeat {α : Type} (names : List α) (name : α) : Prop :=
  ∃ before after, names = before ++ name :: after ∧ before.Nodup ∧ name ∈ before

/-- A list with a repeat has not distinct names. -/
theorem FirstRepeat.not_nodup {α : Type} {names : List α} {name : α}
    (h : FirstRepeat names name) : ¬names.Nodup := by
  obtain ⟨before, after, rfl, -, hmem⟩ := h
  intro hnodup
  have hdisjoint : List.Disjoint before (name :: after) := (List.nodup_append'.1 hnodup).2.2
  exact hdisjoint hmem List.mem_cons_self

/-- Of two beginnings that end before a repeat, a longer one would hold the repeat
of the shorter one. -/
theorem FirstRepeat.eq_of_prolonged {α : Type} {before after between after' : List α}
    {name other : α} (hmem : name ∈ before) (hnodup : (before ++ between).Nodup)
    (hrest : name :: after = between ++ other :: after') : name = other := by
  cases between with
  | nil => exact (List.cons.inj hrest).1
  | cons first between =>
    have hfirst : name = first := (List.cons.inj hrest).1
    have hagain : name ∈ first :: between := hfirst ▸ List.mem_cons_self
    exact absurd hagain (List.disjoint_of_nodup_append hnodup hmem)

/-- There is one first repeat at most. -/
theorem FirstRepeat.unique {α : Type} {names : List α} {name other : α}
    (h : FirstRepeat names name) (hother : FirstRepeat names other) : name = other := by
  obtain ⟨before, after, hsplit, hnodup, hmem⟩ := h
  obtain ⟨before', after', hsplit', hnodup', hmem'⟩ := hother
  rw [hsplit] at hsplit'
  rcases List.append_eq_append_iff.1 hsplit' with ⟨between, rfl, hrest⟩ | ⟨between, rfl, hrest⟩
  · exact FirstRepeat.eq_of_prolonged hmem hnodup' hrest
  · exact (FirstRepeat.eq_of_prolonged hmem' hnodup hrest).symm

/-- What is found as a repeat among the names of a list is the first one. -/
theorem firstRepeat_sound {seen names : List String} {name : String}
    (h : firstRepeat seen names = some name) :
    ∃ before after, names = before ++ name :: after ∧ before.Nodup ∧
      (∀ other ∈ before, other ∉ seen) ∧ (name ∈ seen ∨ name ∈ before) := by
  induction names generalizing seen with
  | nil => exact nomatch h
  | cons first rest ih =>
    by_cases hfirst : first ∈ seen
    · rw [firstRepeat, if_pos hfirst] at h
      cases h
      exact ⟨[], rest, rfl, List.nodup_nil, by simp, .inl hfirst⟩
    · rw [firstRepeat, if_neg hfirst] at h
      obtain ⟨before, after, rfl, hnodup, hnew, hmet⟩ := ih h
      have hnotFirst : first ∉ before := fun hmem => hnew first hmem List.mem_cons_self
      refine ⟨first :: before, after, rfl, List.nodup_cons.2 ⟨hnotFirst, hnodup⟩, ?_, ?_⟩
      · intro other hother
        rcases List.mem_cons.1 hother with rfl | hother
        · exact hfirst
        · exact fun hseen => hnew other hother (List.mem_cons_of_mem _ hseen)
      · simp only [List.mem_cons] at hmet ⊢
        tauto

/-! ## The walk through a namespace -/

/-- A name that is met within a namespace. -/
inductive MetName where
  /-- The name of a declaration. -/
  | declaration (name : String)
  /-- The name of a property of the declaration of this name. -/
  | property (owner name : String)
  deriving DecidableEq

/-- The error for a name that is met again. -/
def MetName.repeated (namespaceName : String) : MetName → ModelError
  | .declaration name => .repeatedDeclaration namespaceName name
  | .property owner name => .repeatedProperty namespaceName owner name

/-- The names of a declaration, its own before those of its properties. -/
def Declaration.metNames (declaration : Declaration) : List MetName :=
  .declaration declaration.name ::
    (declaration.members.map (·.name)).map (.property declaration.name)

/-- The names of a namespace in the order in which they are met. -/
def ModelFile.metNames (file : ModelFile) : List MetName :=
  file.declarations.flatMap Declaration.metNames

/-- Declarations have distinct names, and so do the properties of each. -/
def ModelFile.DistinctNames (file : ModelFile) : Prop :=
  (file.declarations.map (·.name)).Nodup ∧
    ∀ declaration ∈ file.declarations, (declaration.members.map (·.name)).Nodup

instance (file : ModelFile) : Decidable file.DistinctNames :=
  inferInstanceAs (Decidable (_ ∧ _))

/-- All names that are met are distinct exactly if those of declarations are and
those of the properties of each. -/
theorem ModelFile.nodup_metNames_iff (file : ModelFile) :
    file.metNames.Nodup ↔ file.DistinctNames := by
  have hown (declaration : Declaration) :
      declaration.metNames.Nodup ↔ (declaration.members.map (·.name)).Nodup := by
    have hinjective : Function.Injective (MetName.property declaration.name) :=
      fun _ _ h => (MetName.property.inj h).2
    rw [Declaration.metNames, List.nodup_cons, List.nodup_map_iff hinjective]
    simp
  have hapart (declaration other : Declaration) :
      List.Disjoint declaration.metNames other.metNames ↔ declaration.name ≠ other.name := by
    constructor
    · intro hdisjoint heq
      exact hdisjoint (List.mem_cons_self) (heq ▸ List.mem_cons_self)
    · intro hne met hmet hmet'
      simp only [Declaration.metNames, List.mem_cons, List.mem_map] at hmet hmet'
      grind
  have hdistinct : (file.declarations.map (·.name)).Nodup ↔
      file.declarations.Pairwise fun declaration other => declaration.name ≠ other.name :=
    List.pairwise_map
  have hwalk : file.declarations.Pairwise (Function.onFun List.Disjoint Declaration.metNames) ↔
      file.declarations.Pairwise fun declaration other => declaration.name ≠ other.name :=
    List.Pairwise.iff fun {declaration other} => hapart declaration other
  rw [metNames, List.nodup_flatMap, DistinctNames, hdistinct, hwalk, and_comm]
  simp only [hown]

/-- Names that are met up to some properties of a new declaration are distinct if
those met before it are and those of the properties. -/
theorem nodup_append_metNames {met : List MetName} {owner : String} {names : List String}
    (hmet : met.Nodup) (hnames : names.Nodup) (hnew : MetName.declaration owner ∉ met)
    (hnone : ∀ name, MetName.property owner name ∉ met) :
    (met ++ MetName.declaration owner :: names.map (MetName.property owner)).Nodup := by
  have hinjective : Function.Injective (MetName.property owner) :=
    fun _ _ h => (MetName.property.inj h).2
  refine hmet.append (List.nodup_cons.2 ⟨by simp, hnames.map hinjective⟩) ?_
  intro name hname hmem
  rcases List.mem_cons.1 hmem with rfl | hmem
  · exact hnew hname
  · obtain ⟨property, -, rfl⟩ := List.mem_map.1 hmem
    exact hnone property hname

/-- What is found among declarations, given the names met before them, is the
first repeat of the whole walk; without one all names on it are distinct. -/
theorem ModelFile.repeatAmong?_spec (namespaceName : String) (seen : List String)
    (declarations : List Declaration) (met : List MetName) (hmet : met.Nodup)
    (hseen : ∀ name, MetName.declaration name ∈ met ↔ name ∈ seen)
    (howner : ∀ owner name, MetName.property owner name ∈ met → owner ∈ seen) :
    (repeatAmong? namespaceName seen declarations = none →
      (met ++ declarations.flatMap Declaration.metNames).Nodup) ∧
    ∀ error, repeatAmong? namespaceName seen declarations = some error →
      ∃ name, FirstRepeat (met ++ declarations.flatMap Declaration.metNames) name ∧
        error = name.repeated namespaceName := by
  induction declarations generalizing seen met with
  | nil => simpa [repeatAmong?] using hmet
  | cons declaration rest ih =>
    by_cases hagain : declaration.name ∈ seen
    · simp only [repeatAmong?, if_pos hagain]
      refine ⟨fun hnone => absurd hnone (Option.some_ne_none _), ?_⟩
      rintro error ⟨⟩
      have hwalk : met ++ (declaration :: rest).flatMap Declaration.metNames =
          met ++ .declaration declaration.name :: _ := rfl
      exact ⟨_, ⟨met, _, hwalk, hmet, (hseen _).2 hagain⟩, rfl⟩
    · have hnew : MetName.declaration declaration.name ∉ met := fun h => hagain ((hseen _).1 h)
      have hnone (name : String) : MetName.property declaration.name name ∉ met :=
        fun h => hagain (howner _ _ h)
      simp only [repeatAmong?, if_neg hagain]
      cases hrepeat : firstRepeat [] (declaration.members.map (·.name)) with
      | some property =>
        refine ⟨fun hnone => absurd hnone (Option.some_ne_none _), ?_⟩
        rintro error ⟨⟩
        obtain ⟨before, after, hsplit, hnodup, -, hmet'⟩ := firstRepeat_sound hrepeat
        have hmem : property ∈ before := hmet'.resolve_left List.not_mem_nil
        have hbefore := nodup_append_metNames hmet hnodup hnew hnone
        have hmem' : MetName.property declaration.name property ∈
            met ++ .declaration declaration.name :: before.map (.property declaration.name) := by
          simp [hmem]
        have hwalk : met ++ (declaration :: rest).flatMap Declaration.metNames =
            (met ++ .declaration declaration.name :: before.map (.property declaration.name)) ++
              .property declaration.name property ::
                (after.map (.property declaration.name) ++
                  rest.flatMap Declaration.metNames) := by
          simp [Declaration.metNames, hsplit]
        exact ⟨_, ⟨_, _, hwalk, hbefore, hmem'⟩, rfl⟩
      | none =>
        have hnames := ((firstRepeat_eq_none_iff [] _).1 hrepeat).1
        have hbefore := nodup_append_metNames hmet hnames hnew hnone
        have hseen' (name : String) : MetName.declaration name ∈ met ++ declaration.metNames ↔
            name ∈ declaration.name :: seen := by
          simp [Declaration.metNames, hseen, or_comm]
        have howner' (owner name : String)
            (howned : MetName.property owner name ∈ met ++ declaration.metNames) :
            owner ∈ declaration.name :: seen := by
          rcases List.mem_append.1 howned with hmem | hmem
          · exact List.mem_cons_of_mem _ (howner owner name hmem)
          · have howned' : declaration.name = owner := by
              simp only [Declaration.metNames, List.mem_cons, List.mem_map, reduceCtorEq,
                false_or, MetName.property.injEq] at hmem
              obtain ⟨-, -, heq, -⟩ := hmem
              exact heq
            exact howned' ▸ List.mem_cons_self
        simpa only [List.flatMap_cons, List.append_assoc] using
          ih (declaration.name :: seen) (met ++ declaration.metNames) hbefore hseen' howner'

/-- A namespace is refused for the first repeat on the walk through it. -/
theorem ModelFile.repeat?_eq_some_iff (file : ModelFile) (error : ModelError) :
    file.repeat? = some error ↔
      ∃ name, FirstRepeat file.metNames name ∧ error = name.repeated file.namespaceName := by
  have hspec := repeatAmong?_spec file.namespaceName [] file.declarations [] List.nodup_nil
    (by simp) (by simp)
  constructor
  · exact hspec.2 error
  · intro hfirst
    rcases hfirst with ⟨name, hname, rfl⟩
    cases hrepeat : file.repeat? with
    | none => exact absurd (hspec.1 hrepeat) hname.not_nodup
    | some found =>
      obtain ⟨other, hother, rfl⟩ := hspec.2 found hrepeat
      rw [hname.unique hother]

/-- No repeat is found exactly if all names are distinct. -/
theorem ModelFile.repeat?_eq_none_iff (file : ModelFile) :
    file.repeat? = none ↔ file.DistinctNames := by
  have hspec := repeatAmong?_spec file.namespaceName [] file.declarations [] List.nodup_nil
    (by simp) (by simp)
  rw [← file.nodup_metNames_iff]
  refine ⟨hspec.1, fun hnodup => ?_⟩
  cases hrepeat : file.repeat? with
  | none => rfl
  | some error =>
    obtain ⟨name, hname, -⟩ := hspec.2 error hrepeat
    exact absurd hnodup hname.not_nodup

/-! ## Refusals -/

/-- Why a registry refuses a namespace: its own name is taken, or else a name
repeats within it, the first one counting. -/
inductive Registry.Refuses (registry : Registry) (file : ModelFile) : ModelError → Prop where
  /-- The namespace is registered already, whatever repeats within the new one. -/
  | taken (h : file.namespaceName ∈ registry.namespaces) :
      Refuses registry file (.namespaceTaken file.namespaceName)
  /-- A name was met before on the walk through a new namespace. -/
  | repeats {name : MetName} (hnew : file.namespaceName ∉ registry.namespaces)
      (h : FirstRepeat file.metNames name) :
      Refuses registry file (name.repeated file.namespaceName)

namespace Registry

/-- Registering a namespace fails exactly with the error it is refused for. -/
theorem add_eq_error_iff (registry : Registry) (file : ModelFile) (error : ModelError) :
    registry.add file = .error error ↔ registry.Refuses file error := by
  by_cases htaken : file.namespaceName ∈ registry.namespaces
  · have hadd : registry.add file = .error (.namespaceTaken file.namespaceName) := by
      rw [add_eq, if_pos htaken]
    rw [hadd, Except.error.injEq]
    constructor
    · rintro rfl
      exact .taken htaken
    · intro hrefuses
      cases hrefuses with
      | taken => rfl
      | repeats hnew => exact absurd htaken hnew
  · have hadd : registry.add file = .error error ↔ file.repeat? = some error := by
      cases hrepeat : file.repeat? <;> simp [add_eq, htaken, hrepeat]
    rw [hadd, file.repeat?_eq_some_iff]
    constructor
    · intro hrepeat
      rcases hrepeat with ⟨name, hname, rfl⟩
      exact .repeats htaken hname
    · intro hrefuses
      cases hrefuses with
      | taken h => exact absurd h htaken
      | repeats _ hname => exact ⟨_, hname, rfl⟩

/-- There is an error exactly if the namespace is taken or a name repeats within
it. -/
theorem exists_refuses_iff (registry : Registry) (file : ModelFile) :
    (∃ error, registry.Refuses file error) ↔
      file.namespaceName ∈ registry.namespaces ∨ ¬file.DistinctNames := by
  simp only [← add_eq_error_iff, ← file.repeat?_eq_none_iff]
  by_cases htaken : file.namespaceName ∈ registry.namespaces
  · simp [add_eq, htaken]
  · cases hrepeat : file.repeat? <;> simp [add_eq, htaken, hrepeat]

end Registry

end ModelTagging
