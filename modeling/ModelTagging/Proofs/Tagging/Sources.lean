import ModelTagging.Proofs.Tagging.Reachable
import ModelTagging.Session.Decorate

/-!
# Sources of a command set

A decoration sees nothing of a source but the set it gives, outside of a session and
within one. A parsed set can therefore be handed on in several ways: as it is, or
written as a document again, whether or not absent fields are written. Parsing such a
document gives the set back, so that all of these decorate alike. Documents that a
host writes in another way are no subject here.
-/

namespace ModelTagging

namespace CommandSource

variable {source other : CommandSource}

/-- A check sees nothing of a source but its set. -/
theorem checkedSet_congr (h : source.set = other.set) (registry : Registry) :
    source.checkedSet registry = other.checkedSet registry := by
  rw [checkedSet, checkedSet, h]

/-- Neither does a preparation. -/
theorem prepare_congr (h : source.set = other.set) (registry : Registry) (options : Options) :
    CommandSet.prepare registry source options = CommandSet.prepare registry other options := by
  simp only [CommandSet.prepare, h, checkedSet_congr h]

/-- Nor a decoration. -/
theorem decorate_congr (h : source.set = other.set) (registry : Registry) (options : Options) :
    registry.decorate source options = registry.decorate other options := by
  rw [Registry.decorate, Registry.decorate, prepare_congr h]

/-- The same holds within a session: the records and the spans are the same ones. -/
theorem decorating_congr (h : source.set = other.set) (registry : Registry)
    (options : Options) :
    registry.decorating source options = registry.decorating other options := by
  have hpreparing : CommandSet.preparing registry source options =
      CommandSet.preparing registry other options := by
    simp only [CommandSet.preparing, CommandSet.checking, h, checkedSet_congr h]
  rw [Registry.decorating, Registry.decorating, hpreparing]

end CommandSource

namespace CommandSet

/-- What is written of a parsed set parses to the set. -/
theorem Parsed.parse_toValue {set : CommandSet} (h : set.Parsed) (absent : AbsentFields) :
    parse (set.toValue absent) = .ok set :=
  parse_eq_ok_iff.2 (read_restores absent set ((parsed_iff_wellFormed set).1 h)).2

/-- No two parsed sets are written alike, be it with absent fields or without. -/
theorem Parsed.eq_of_toValue_eq {set other : CommandSet} (h : set.Parsed) (hother : other.Parsed)
    {absent absent' : AbsentFields} (heq : set.toValue absent = other.toValue absent') :
    set = other := by
  have hparse := h.parse_toValue absent
  rw [heq, hother.parse_toValue absent'] at hparse
  exact (Except.ok.inj hparse).symm

end CommandSet

namespace Sample

/-- A document that leaves fields out, names absent ones and spells an integer by a
text. -/
def document : Value :=
  .object [("version", .str "1"), ("name", .str "tags"), ("includes", .list []),
    ("commands", .list [
      .object [("type", .str "APPEND"), ("decorator", .object [("name", .str "Limit"),
        ("arguments", .list [.object [("kind", .str "number"), ("value", .str "00")],
          .object [("kind", .str "number"), ("value", .float (.finite false .zero))]])])],
      .object [("type", .str "UPSERT"), ("target", .object [("type", .str "String")]),
        ("decorator", .object [("name", .str "Mask"), ("arguments", .list [])])],
      .object [("type", .str "UPSERT"), ("target", .object [("property", .null)]),
        ("decorator", .object [("name", .str "Mask"), ("arguments", .null)])]])]

/-- The command set that the document spells. -/
def documentSet : CommandSet :=
  ⟨"tags", "1", some [],
    [⟨.anything, ⟨"Limit", some [.number (.whole 0), .number (.real false .zero)]⟩, .append⟩,
      ⟨⟨none, none, none, some "String"⟩, ⟨"Mask", some []⟩, .upsert⟩,
      ⟨.anything, ⟨"Mask", none⟩, .upsert⟩]⟩

end Sample

namespace CommandSet

/-- A set that a document parses to is given back by its own documents, with absent
fields and without. They tell it from every other parsed set, and decorating with the
document, with the set or with either of its documents comes to the same for every
registry, all options and every session. -/
theorem parsed_again {document : Value} {set : CommandSet} (h : parse document = .ok set) :
    (∀ absent, parse (set.toValue absent) = .ok set) ∧
      (∀ other : CommandSet, other.Parsed → ∀ absent absent',
        other.toValue absent = set.toValue absent' → other = set) ∧
      ∀ source ∈ [CommandSource.parsed set, .document (set.toValue .kept),
          .document (set.toValue .omitted)],
        ∀ (registry : Registry) (options : Options),
          registry.decorate source options = registry.decorate (.document document) options ∧
            ∀ session, (registry.decorating source options).outcome session =
              (registry.decorating (.document document) options).outcome session := by
  have hparsed : set.Parsed := ⟨document, h⟩
  refine ⟨hparsed.parse_toValue, fun other hother _ _ => hother.eq_of_toValue_eq hparsed, ?_⟩
  intro source hsource registry options
  have hset : source.set = (CommandSource.document document).set := by
    simp only [List.mem_cons, List.not_mem_nil, or_false] at hsource
    rw [CommandSource.set, h]
    rcases hsource with rfl | rfl | rfl
    · rfl
    · exact hparsed.parse_toValue .kept
    · exact hparsed.parse_toValue .omitted
  exact ⟨CommandSource.decorate_congr hset registry options,
    fun session => by rw [CommandSource.decorating_congr hset]⟩

/-- A text that spells an integer, a double of the same size, an empty and an absent
list of arguments and a target that is left out stay apart when the set is written
and parsed again. -/
theorem parsed_again_sample :
    parse Sample.document = .ok Sample.documentSet ∧
      parse (Sample.documentSet.toValue .kept) = .ok Sample.documentSet ∧
      parse (Sample.documentSet.toValue .omitted) = .ok Sample.documentSet ∧
      Sample.registry.decorate (.document (Sample.documentSet.toValue .omitted)) ⟨true, true⟩ =
        Sample.registry.decorate (.document Sample.document) ⟨true, true⟩ := by
  have hparse : parse Sample.document = .ok Sample.documentSet := rfl
  obtain ⟨hagain, -, hsources⟩ := parsed_again hparse
  exact ⟨hparse, hagain .kept, hagain .omitted,
    (hsources (.document (Sample.documentSet.toValue .omitted)) (by simp) Sample.registry _).1⟩

end CommandSet

end ModelTagging
