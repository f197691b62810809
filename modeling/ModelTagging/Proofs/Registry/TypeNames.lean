import ModelTagging.Proofs.Registry.Repeats
import ModelTagging.Proofs.Tagging.Reachable

/-!
# What type names stand for

A registry declares a qualified name if one of its namespaces, a dot and the name of
a declaration in that namespace make it up, and that last name has no dot. Dots in
the namespace are no obstacle. In a reachable registry a text is declared once at
most, looking it up finds just the declaration it is declared for, and a type name
is refused exactly if it is neither primitive nor declared. A declaration whose own
name has a dot is not declared under any text, though it is registered.
-/

namespace ModelTagging

/-- Among things of distinct keys, the one found under a key is the one there is. -/
theorem List.find?_key_eq_some_iff {α : Type} {key : α → String} {items : List α}
    (hkeys : (items.map key).Nodup) {k : String} {a : α} :
    items.find? (key · == k) = some a ↔ a ∈ items ∧ key a = k := by
  constructor
  · intro h
    exact ⟨List.mem_of_find?_eq_some h, by simpa using List.find?_some h⟩
  · rintro ⟨hmem, rfl⟩
    cases hfind : items.find? (key · == key a) with
    | none => simpa using List.find?_eq_none.1 hfind a hmem
    | some b =>
      have hb : b ∈ items := List.mem_of_find?_eq_some hfind
      have hkey : key b = key a := by simpa using List.find?_some hfind
      rw [List.inj_on_of_nodup_map hkeys hb hmem hkey]

namespace Registry

/-- The registry declares the text as the qualified name of a declaration: the name
of the namespace that holds it and its own name, which has no dot, are joined in
it. -/
structure Declares (registry : Registry) (qualifiedName : String) (file : ModelFile)
    (declaration : Declaration) : Prop where
  /-- The namespace is registered. -/
  file_mem : file ∈ registry.files
  /-- The namespace holds the declaration. -/
  declaration_mem : declaration ∈ file.declarations
  /-- The name of the declaration has no dot. -/
  no_dot : '.' ∉ declaration.name.toList
  /-- The text is made up of both names. -/
  eq_join : qualifiedName = Qualified.join file.namespaceName declaration.name

/-- A type name stands for something if it is primitive or declared. -/
def IsType (registry : Registry) (typeName : String) : Prop :=
  typeName ∈ primitiveTypes ∨ ∃ file declaration, registry.Declares typeName file declaration

namespace WellFormed

variable {registry : Registry} (h : registry.WellFormed)

include h

/-- In a well-formed registry the namespace found under a name is the one there
is. -/
theorem file?_eq_some_iff {namespaceName : String} {file : ModelFile} :
    registry.file? namespaceName = some file ↔
      file ∈ registry.files ∧ file.namespaceName = namespaceName :=
  List.find?_key_eq_some_iff h.1

/-- The declaration found in a namespace of it is the one there is. -/
theorem declaration?_file_eq_some_iff {file : ModelFile} (hfile : file ∈ registry.files)
    {name : String} {declaration : Declaration} :
    file.declaration? name = some declaration ↔
      declaration ∈ file.declarations ∧ declaration.name = name :=
  List.find?_key_eq_some_iff (file.repeat?_eq_none_iff.1 (h.2 file hfile).2).1

/-- A declaration is found under a qualified name exactly if that is declared for it.
The empty namespace, in which names without a dot are looked up, is not there. -/
theorem declaration?_eq_some_iff {qualifiedName : String} {declaration : Declaration} :
    registry.declaration? qualifiedName = some declaration ↔
      ∃ file, registry.Declares qualifiedName file declaration := by
  constructor
  · intro hfound
    rcases hsplit : Qualified.split qualifiedName with ⟨namespaceName, name⟩
    rw [declaration?, hsplit] at hfound
    obtain ⟨file, hfile, hdeclaration⟩ := Option.bind_eq_some_iff.1 hfound
    obtain ⟨hfileMem, rfl⟩ := h.file?_eq_some_iff.1 hfile
    obtain ⟨hmem, rfl⟩ := (h.declaration?_file_eq_some_iff hfileMem).1 hdeclaration
    obtain ⟨hdot, hjoin | ⟨hempty, -⟩⟩ := (Qualified.split_eq_iff _ _ _).1 hsplit
    · exact ⟨file, hfileMem, hmem, hdot, hjoin⟩
    · exact absurd hempty (h.2 file hfileMem).1.1
  · rintro ⟨file, hdeclares⟩
    have hfile := h.file?_eq_some_iff.2 ⟨hdeclares.file_mem, rfl⟩
    rw [hdeclares.eq_join, registry.declaration?_join _ _ hdeclares.no_dot, hfile]
    exact (h.declaration?_file_eq_some_iff hdeclares.file_mem).2
      ⟨hdeclares.declaration_mem, rfl⟩

/-- Nothing is found under a text exactly if it is not declared. -/
theorem declaration?_eq_none_iff {qualifiedName : String} :
    registry.declaration? qualifiedName = none ↔
      ∀ file declaration, ¬registry.Declares qualifiedName file declaration := by
  rw [Option.eq_none_iff_forall_ne_some]
  simp only [ne_eq, h.declaration?_eq_some_iff, not_exists]
  exact forall_comm

/-- No text is declared twice. -/
theorem declares_unique {qualifiedName : String} {file file' : ModelFile}
    {declaration declaration' : Declaration}
    (hdeclares : registry.Declares qualifiedName file declaration)
    (hdeclares' : registry.Declares qualifiedName file' declaration') :
    file = file' ∧ declaration = declaration' := by
  have hsplit := Qualified.split_join file.namespaceName declaration.name hdeclares.no_dot
  rw [← hdeclares.eq_join, hdeclares'.eq_join,
    Qualified.split_join file'.namespaceName declaration'.name hdeclares'.no_dot] at hsplit
  have hnamespace : file'.namespaceName = file.namespaceName := (Prod.mk.inj hsplit).1
  have hfile : file = file' :=
    (List.inj_on_of_nodup_map h.1 hdeclares'.file_mem hdeclares.file_mem hnamespace).symm
  refine ⟨hfile, ?_⟩
  have hfound := h.declaration?_eq_some_iff.2 ⟨file, hdeclares⟩
  rw [h.declaration?_eq_some_iff.2 ⟨file', hdeclares'⟩] at hfound
  exact (Option.some.inj hfound).symm

/-- Looking a qualified name up gives a declaration exactly if it is declared for
it. -/
theorem declaration_eq_ok_iff {qualifiedName : String} {declaration : Declaration} :
    registry.declaration qualifiedName = .ok declaration ↔
      ∃ file, registry.Declares qualifiedName file declaration := by
  rw [← h.declaration?_eq_some_iff, Registry.declaration]
  cases registry.declaration? qualifiedName <;> simp

/-- A type name resolves exactly if it stands for something. -/
theorem resolves_iff {typeName : String} :
    registry.resolves typeName = true ↔ registry.IsType typeName := by
  have hdeclared : (registry.declaration? typeName).isSome = true ↔
      ∃ file declaration, registry.Declares typeName file declaration := by
    rw [Option.isSome_iff_exists, exists_comm]
    simp only [h.declaration?_eq_some_iff]
  rw [resolves, Bool.or_eq_true, hdeclared, List.contains_iff_mem, IsType]

end WellFormed

/-- A text stands for one declaration at most. It is found exactly if the text is
declared, also where namespaces or names of declarations have dots, and otherwise the
text is reported. A type name resolves exactly if it is primitive or found, and
otherwise is reported with what it was looked up for. -/
theorem type_names_unambiguous {registry : Registry} (hr : registry.Reachable)
    (qualifiedName : String) :
    (∀ declaration, registry.declaration qualifiedName = .ok declaration ↔
      ∃ file, registry.Declares qualifiedName file declaration) ∧
    (∀ file declaration file' declaration',
      registry.Declares qualifiedName file declaration →
        registry.Declares qualifiedName file' declaration' →
          file = file' ∧ declaration = declaration') ∧
    ((¬∃ file declaration, registry.Declares qualifiedName file declaration) →
      registry.declaration qualifiedName = .error ⟨qualifiedName, none⟩) ∧
    (∀ file ∈ registry.files, ∀ declaration ∈ file.declarations,
      '.' ∉ declaration.name.toList →
        registry.declaration (Qualified.join file.namespaceName declaration.name) =
          .ok declaration) ∧
    (∀ declaration, registry.declaration qualifiedName = .ok declaration →
      '.' ∉ declaration.name.toList) ∧
    ∀ context,
      (registry.resolve context qualifiedName = .ok qualifiedName ↔
        qualifiedName ∈ primitiveTypes ∨
          ∃ declaration, registry.declaration qualifiedName = .ok declaration) ∧
      (¬(qualifiedName ∈ primitiveTypes ∨
          ∃ declaration, registry.declaration qualifiedName = .ok declaration) →
        registry.resolve context qualifiedName = .error ⟨qualifiedName, some context⟩) := by
  have h := hr.wellFormed
  have htype : (qualifiedName ∈ primitiveTypes ∨
      ∃ declaration, registry.declaration qualifiedName = .ok declaration) ↔
        registry.resolves qualifiedName = true := by
    simp only [h.resolves_iff, IsType, h.declaration_eq_ok_iff]
    rw [exists_comm]
  refine ⟨fun declaration => h.declaration_eq_ok_iff, fun _ _ _ _ => h.declares_unique, ?_, ?_,
    ?_, fun context => ?_⟩
  · intro hnone
    have hmissing : registry.declaration? qualifiedName = none :=
      h.declaration?_eq_none_iff.2 fun file declaration hdeclares =>
        hnone ⟨file, declaration, hdeclares⟩
    rw [declaration, hmissing]
  · intro file hfile declaration hdeclaration hdot
    exact h.declaration_eq_ok_iff.2 ⟨file, hfile, hdeclaration, hdot, rfl⟩
  · intro declaration hfound
    obtain ⟨file, hdeclares⟩ := h.declaration_eq_ok_iff.1 hfound
    exact hdeclares.no_dot
  · rw [htype, resolve]
    cases registry.resolves qualifiedName <;> simp

end Registry

namespace Sample

/-- Two namespaces, the longer name going on where the shorter one ends; the first
declares a name with a dot that the second one spells without. -/
def dottedRegistry : Registry :=
  ⟨[⟨"org.acme", [], [Builtin.concept "hr.Person" none [], Builtin.concept "Person" none []]⟩,
    ⟨"org.acme.hr", [], [Builtin.concept "Person" (some "org.acme.Person") []]⟩]⟩

end Sample

namespace Registry

/-- Of two declarations whose names are spelled alike when they are qualified the one
without a dot is found, and a text that ends with its dot stands for none. -/
theorem type_names_unambiguous_sample :
    Sample.dottedRegistry.declaration "org.acme.hr.Person" =
        .ok (Builtin.concept "Person" (some "org.acme.Person") []) ∧
      Sample.dottedRegistry.declaration "org.acme.Person" =
        .ok (Builtin.concept "Person" none []) ∧
      Sample.dottedRegistry.resolve "here" "org.acme." = .error ⟨"org.acme.", some "here"⟩ := by
  have hr : Sample.dottedRegistry.Reachable := (reachable_iff_wellFormed _).2 (by decide)
  refine ⟨?_, ?_, ?_⟩
  · exact ((type_names_unambiguous hr _).1 _).2
      ⟨_, List.mem_cons_of_mem _ List.mem_cons_self, List.mem_cons_self, by decide, rfl⟩
  · exact ((type_names_unambiguous hr _).1 _).2
      ⟨_, List.mem_cons_self, List.mem_cons_of_mem _ List.mem_cons_self, by decide, rfl⟩
  · refine ((type_names_unambiguous hr _).2.2.2.2.2 "here").2 ?_
    rintro (hprimitive | ⟨declaration, hfound⟩)
    · exact absurd hprimitive (by decide)
    · exact nomatch hfound

end Registry

end ModelTagging
