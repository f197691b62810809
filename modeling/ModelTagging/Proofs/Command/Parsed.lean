import ModelTagging.Command.Parse
import ModelTagging.Proofs.Command.RoundTrip

/-!
# Parsed command sets

A command set that was parsed comes from some document. These are exactly the
well-formed sets, since what is written of such a set parses to it again. All
that decorating a model has to know about a set is that its commands attach
well-formed decorators.
-/

namespace ModelTagging

namespace CommandSet

/-- The set comes from parsing some document. -/
def Parsed (set : CommandSet) : Prop := ∃ document, parse document = .ok set

/-- A document parses to a set exactly if it is an object that is read as it. -/
theorem parse_eq_ok_iff {document : Value} {set : CommandSet} :
    parse document = .ok set ↔ CommandSet.read document = .accepted set := by
  cases document with
  | object fields =>
    rw [parse]
    cases CommandSet.read (.object fields) <;> simp
  | _ => simp [parse, CommandSet.read, Reader.object, Decoded.fail]

/-- The parsed sets are the well-formed ones. -/
theorem parsed_iff_wellFormed (set : CommandSet) : set.Parsed ↔ set.WellFormed := by
  constructor
  · intro hparsed
    obtain ⟨document, hparse⟩ := hparsed
    exact CommandSet.read_ensures _ _ (parse_eq_ok_iff.1 hparse)
  · intro hwf
    have hread : CommandSet.read (set.toValue .omitted) = .accepted set :=
      (CommandSet.read_restores .omitted set hwf).2
    exact ⟨set.toValue .omitted, parse_eq_ok_iff.2 hread⟩

/-- The commands of a parsed set attach well-formed decorators. -/
theorem Parsed.wellFormed {set : CommandSet} (h : set.Parsed) :
    ∀ command ∈ set.commands, command.decorator.WellFormed := by
  have hwf : set.WellFormed := (parsed_iff_wellFormed set).1 h
  exact fun command hcommand => (hwf.2.2.2 command hcommand).2

/-- With other well-formed commands a parsed set is still a parsed one. -/
theorem Parsed.withCommands {set : CommandSet} (h : set.Parsed) {commands : List Command}
    (hcommands : ∀ command ∈ commands, command.WellFormed) :
    CommandSet.Parsed { set with commands := commands } := by
  obtain ⟨hname, hversion, hincludes, -⟩ := (parsed_iff_wellFormed set).1 h
  exact (parsed_iff_wellFormed _).2 ⟨hname, hversion, hincludes, hcommands⟩

end CommandSet

namespace CommandSource

/-- The source is any document, or a set that was parsed before. -/
def Valid : CommandSource → Prop
  | .document _ => True
  | .parsed set => set.Parsed

/-- Any document is a valid source. -/
theorem valid_document (document : Value) : (CommandSource.document document).Valid := trivial

/-- So is any parsed set. -/
theorem valid_parsed {set : CommandSet} (h : set.Parsed) : (parsed set).Valid := h

/-- Whatever set the source gives, its commands attach well-formed decorators. -/
def WellFormed (source : CommandSource) : Prop :=
  ∀ set, source.set = .ok set → ∀ command ∈ set.commands, command.decorator.WellFormed

/-- A source that gives a parsed set is well-formed. -/
theorem wellFormed_of_set {source : CommandSource} {set : CommandSet}
    (hset : source.set = .ok set) (hparsed : set.Parsed) : source.WellFormed := by
  intro other hother
  rw [hset] at hother
  cases hother
  exact hparsed.wellFormed

/-- Valid sources are well-formed. -/
theorem Valid.wellFormed {source : CommandSource} (h : source.Valid) : source.WellFormed := by
  cases source with
  | document value =>
    intro set hset
    exact CommandSet.Parsed.wellFormed ⟨value, hset⟩
  | parsed set => exact wellFormed_of_set rfl h

end CommandSource

end ModelTagging
