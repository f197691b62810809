import ModelTagging.Proofs.Command.Parsed
import ModelTagging.Proofs.Tagging.Retag
import ModelTagging.Tagging.Decorate

/-!
# Reachable registries

The registries that a sequence of operations builds from documents. They are
exactly the well-formed ones, and in those decorating a model comes down to
preparing the command set and running it: copying the model and rebuilding the
registry can neither fail nor change anything.
-/

namespace ModelTagging

/-! ## Decorating a well-formed registry -/

/-- What is prepared is the command set of the source. -/
theorem CommandSet.set_of_prepare {registry : Registry} {source : CommandSource}
    {options : Options} {set : CommandSet}
    (h : prepare registry source options = .ok set) : source.set = .ok set := by
  unfold prepare at h
  split at h
  · obtain ⟨joined, -, h⟩ := Except.bind_eq_ok_iff.1 h
    obtain ⟨checked, hchecked, h⟩ := Except.bind_eq_ok_iff.1 h
    have heq : checked = set := by
      split at h
      · obtain ⟨_, -, h⟩ := Except.bind_eq_ok_iff.1 h
        exact Except.ok.inj h
      · exact Except.ok.inj h
    subst heq
    rw [Except.mapError_eq_ok_iff, CommandSource.checkedSet] at hchecked
    split at hchecked
    · next found hfound =>
      split at hchecked
      · exact nomatch hchecked
      · cases hchecked
        exact hfound
    · exact nomatch hchecked
  · exact Except.mapError_eq_ok_iff.1 h

namespace Registry

/-- Decorating a well-formed registry is running the prepared commands. -/
theorem WellFormed.decorate_eq {registry : Registry} (h : registry.WellFormed)
    {source : CommandSource} (hsource : source.WellFormed) (options : Options) :
    registry.decorate source options =
      (CommandSet.prepare registry source options).map fun set =>
        registry.decorated set.commands := by
  unfold decorate
  cases hset : CommandSet.prepare registry source options with
  | error error => rfl
  | ok set =>
    have hcommands := hsource set (CommandSet.set_of_prepare hset)
    have hcopy : registry.copyTree = .ok registry.tree := h.ofValue_toValue_tree
    have hrebuild : ofFiles (registry.tree.applyAll set.commands).element.files =
        .ok (registry.decorated set.commands) :=
      (h.decorated hcommands).ofFiles_files
    rw [hcopy]
    simp only [bind, Except.bind, Except.mapError, hrebuild, Except.map]

/-- Decorating a well-formed registry gives what the prepared commands make of
it. -/
theorem WellFormed.decorate_eq_ok_iff {registry : Registry} (h : registry.WellFormed)
    {source : CommandSource} (hsource : source.WellFormed) {options : Options} {result : Registry} :
    registry.decorate source options = .ok result ↔
      ∃ set, CommandSet.prepare registry source options = .ok set ∧
        result = registry.decorated set.commands := by
  rw [h.decorate_eq hsource]
  cases CommandSet.prepare registry source options <;> simp [Except.map, eq_comm]

/-- Without checks the commands of the source are run, and that succeeds. -/
theorem WellFormed.decorate_of_unchecked {registry : Registry} (h : registry.WellFormed)
    {source : CommandSource} (hsource : source.WellFormed) {set : CommandSet}
    (hset : source.set = .ok set) {options : Options} (hoptions : options.validateShape = false) :
    registry.decorate source options = .ok (registry.decorated set.commands) := by
  have hprepare : CommandSet.prepare registry source options = .ok set := by
    simp [CommandSet.prepare, hoptions, hset, Except.mapError]
  rw [h.decorate_eq hsource, hprepare, Except.map]

/-- Two parsed sets that make the same of a registry succeed alike without checks. -/
theorem WellFormed.decorate_alike {registry : Registry} (h : registry.WellFormed)
    {set other : CommandSet} (hset : set.Parsed) (hother : other.Parsed)
    (hsame : registry.decorated other.commands = registry.decorated set.commands)
    {options : Options} (hoptions : options.validateShape = false) :
    ∃ result, registry.decorate (.parsed set) options = .ok result ∧
      registry.decorate (.parsed other) options = .ok result := by
  have hresult := h.decorate_of_unchecked (CommandSource.valid_parsed hset).wellFormed rfl hoptions
  have hagain := h.decorate_of_unchecked (CommandSource.valid_parsed hother).wellFormed rfl hoptions
  rw [hsame] at hagain
  exact ⟨_, hresult, hagain⟩

/-- What decorating gives is well-formed again. -/
theorem WellFormed.of_decorate {registry : Registry} (h : registry.WellFormed)
    {source : CommandSource} (hsource : source.WellFormed) {options : Options} {result : Registry}
    (hresult : registry.decorate source options = .ok result) : result.WellFormed := by
  obtain ⟨set, hset, rfl⟩ := (h.decorate_eq_ok_iff hsource).1 hresult
  exact h.decorated (hsource set (CommandSet.set_of_prepare hset))

end Registry

/-! ## Sequences of operations -/

/-- The namespace comes from some document. -/
def ModelFile.FromDocument (file : ModelFile) : Prop := ∃ v, ModelFile.read v = .accepted file

/-- The namespaces that come from documents are the well-formed ones. -/
theorem ModelFile.fromDocument_iff (file : ModelFile) : file.FromDocument ↔ file.WellFormed := by
  constructor
  · intro hdocument
    rcases hdocument with ⟨v, h⟩
    exact ModelFile.read_ensures v file h
  · intro h
    exact ⟨file.toValue .omitted, (ModelFile.read_restores .omitted file h).2⟩

namespace Registry

/-- The registries that operations build, starting from documents. An operation
that fails builds nothing. -/
inductive Reachable : Registry → Prop where
  /-- Namespaces are registered together. -/
  | ofFiles {files : List ModelFile} {registry : Registry}
      (hfiles : ∀ file ∈ files, file.FromDocument) (h : Registry.ofFiles files = .ok registry) :
      Reachable registry
  /-- A namespace is added. -/
  | add {registry result : Registry} {file : ModelFile} (hr : Reachable registry)
      (hfile : file.FromDocument) (h : registry.add file = .ok result) : Reachable result
  /-- A model is read from a document. -/
  | ofValue {v : Value} {registry : Registry} (h : Registry.ofValue v = .ok registry) :
      Reachable registry
  /-- A new registry is made of a model and further namespaces. -/
  | extend {registry result : Registry} {files : List ModelFile} (hr : Reachable registry)
      (hfiles : ∀ file ∈ files, file.FromDocument) (h : registry.extend files = .ok result) :
      Reachable result
  /-- A model is decorated. -/
  | decorate {registry result : Registry} {source : CommandSource} {options : Options}
      (hr : Reachable registry) (hsource : source.Valid)
      (h : registry.decorate source options = .ok result) : Reachable result

/-- Every operation keeps registries well-formed. -/
theorem Reachable.wellFormed {registry : Registry} (h : registry.Reachable) :
    registry.WellFormed := by
  induction h with
  | ofFiles hfiles h =>
    exact wellFormed_of_ofFiles (fun file hfile => (file.fromDocument_iff).1 (hfiles file hfile)) h
  | @add _ _ file _ hfile h ih => exact ih.add (file.fromDocument_iff.1 hfile) h
  | ofValue h => exact wellFormed_of_ofValue h
  | extend _ hfiles h ih =>
    rw [ih.extend_eq] at h
    exact ih.addAll (fun file hfile => (file.fromDocument_iff).1 (hfiles file hfile)) h
  | decorate _ hsource h ih => exact ih.of_decorate hsource.wellFormed h

/-- The reachable registries are the well-formed ones. -/
theorem reachable_iff_wellFormed (registry : Registry) :
    registry.Reachable ↔ registry.WellFormed := by
  constructor
  · exact Reachable.wellFormed
  · intro h
    exact .ofFiles (fun file hfile => (file.fromDocument_iff).2 (h.2 file hfile).1) h.ofFiles_files

end Registry

/-! ## A small model and commands for it -/

namespace Sample

/-- A concept with two properties and a map, some of them tagged. -/
def registry : Registry :=
  ⟨[⟨"org.acme", [],
    [⟨.concept, "Person", none,
      some [⟨.field, "name", some "String", false, true, some [⟨"Hide", none⟩]⟩,
        ⟨.relationship, "boss", some "org.acme.Person", false, true, none⟩],
      none, none, none,
      some [⟨"Pii", none⟩, ⟨"Key", some [.text "id"]⟩, ⟨"Pii", some [.boolean true]⟩]⟩,
     ⟨.map, "Book", none, none, none, some ⟨"String", some [⟨"Pii", none⟩]⟩,
      some ⟨"org.acme.Person", none⟩, none⟩]⟩]⟩

/-- A tag that refers to a type. -/
def tag (name typeName : String) : Decorator := ⟨name, some [.typeReference typeName false]⟩

/-- The command that replaces a tag of the concept and one that appends to it. -/
def personCommands : List Command :=
  [⟨⟨some "org.acme", some "Person", none, none⟩, tag "Pii" "Long", .upsert⟩,
   ⟨⟨none, some "Person", none, none⟩, tag "Pii" "org.acme.Book", .append⟩]

/-- The command that tags every text of the model. -/
def textCommands : List Command :=
  [⟨⟨none, none, none, some "String"⟩, tag "Mask" "String", .upsert⟩]

/-- The command set of some commands. -/
def set (commands : List Command) : CommandSet := ⟨"privacy", "1.0.0", none, commands⟩

/-- The model is reachable. -/
theorem reachable_registry : registry.Reachable :=
  (Registry.reachable_iff_wellFormed registry).2 (by decide)

/-- The set of the commands for the concept is parsed from its document. -/
theorem parsed_personSet : (set personCommands).Parsed :=
  ⟨(set personCommands).toValue .omitted, rfl⟩

/-- So is that of the command for texts. -/
theorem parsed_textSet : (set textCommands).Parsed :=
  ⟨(set textCommands).toValue .omitted, rfl⟩

/-- So is the set of all commands. -/
theorem parsed_set : (set (personCommands ++ textCommands)).Parsed :=
  ⟨(set (personCommands ++ textCommands)).toValue .omitted, rfl⟩

end Sample

end ModelTagging
