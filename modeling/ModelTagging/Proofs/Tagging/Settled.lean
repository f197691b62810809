import Mathlib.Data.List.Induction
import ModelTagging.Proofs.Tagging.Elements
import ModelTagging.Proofs.Tagging.Reachable

/-!
# What a run of commands settles on

A closed form for the decorators that an element carries after a run. All tags
that reach the element are laid out in order: those it carried before, then
those of the commands that select it. For each name the last tag that came by
replacing decides: its decorator stands at the place of the first tag of the
name, everything else of the name up to it is dropped, and what comes later
stays. Names that nothing replaces keep all their tags.
-/

namespace ModelTagging

/-! ## The tags that reach an element -/

/-- A decorator that reaches an element. -/
structure Arrival where
  /-- The decorator. -/
  decorator : Decorator
  /-- Whether it comes to replace those of its name. -/
  replaces : Bool
  deriving DecidableEq

namespace Arrival

/-- The decorator of a command on its way to an element. -/
def ofCommand (command : Command) : Arrival := ⟨command.decorator, command.mode = .upsert⟩

/-- All tags of an element in order: those it carries, then those of commands. -/
def all (present : Decorators) (commands : List Command) : List Arrival :=
  (present.getD []).map (⟨·, false⟩) ++ commands.map ofCommand

/-- The decorator of the last tag of a name that comes to replace. -/
def lastReplacing? (name : String) (tags : List Arrival) : Option Decorator :=
  (tags.reverse.find? fun tag => tag.replaces && tag.decorator.name == name).map (·.decorator)

/-- What stands at the place of a tag in the end, given the names of the tags
before it and the tags after it. If it or a later tag of its name replaces, the
last one that does stands at the first place of the name and nowhere else. -/
def outcome? (earlier : List String) (tag : Arrival) (later : List Arrival) : Option Decorator :=
  match lastReplacing? tag.decorator.name (tag :: later) with
  | none => some tag.decorator
  | some last => if tag.decorator.name ∈ earlier then none else some last

/-- What is left of tags in the end, in their order, given the names of the tags
before them. -/
def settled (earlier : List String) : List Arrival → List Decorator
  | [] => []
  | tag :: later =>
    (tag.outcome? earlier later).toList ++ settled (tag.decorator.name :: earlier) later

/-- A further tag that replaces nothing of the name is passed over. -/
theorem lastReplacing?_append_of_not {name : String} (tags : List Arrival) {tag : Arrival}
    (h : ¬(tag.replaces = true ∧ tag.decorator.name = name)) :
    lastReplacing? name (tags ++ [tag]) = lastReplacing? name tags := by
  have htest : (tag.replaces && tag.decorator.name == name) = false := by
    simpa using h
  simp [lastReplacing?, htest]

/-- A further tag that replaces those of the name is the last one. -/
theorem lastReplacing?_append_self (tags : List Arrival) {tag : Arrival}
    (h : tag.replaces = true) :
    lastReplacing? tag.decorator.name (tags ++ [tag]) = some tag.decorator := by
  simp [lastReplacing?, h]

/-- The last replacing tag of a name has that name. -/
theorem name_of_lastReplacing? {name : String} {tags : List Arrival} {last : Decorator}
    (h : lastReplacing? name tags = some last) : last.name = name := by
  obtain ⟨tag, htag, rfl⟩ := Option.map_eq_some_iff.1 h
  have htest := List.find?_some htag
  simp only [Bool.and_eq_true, beq_iff_eq] at htest
  exact htest.2

/-- What stands at the place of a tag has its name. -/
theorem name_of_outcome? {earlier : List String} {tag : Arrival} {later : List Arrival}
    {left : Decorator} (h : tag.outcome? earlier later = some left) :
    left.name = tag.decorator.name := by
  rw [outcome?] at h
  split at h
  · exact (Option.some.inj h) ▸ rfl
  · next hlast =>
    split at h
    · exact nomatch h
    · exact Option.some.inj h ▸ name_of_lastReplacing? hlast

/-- At the first place of a name something is left. -/
theorem exists_outcome? {earlier : List String} {tag : Arrival} (later : List Arrival)
    (h : tag.decorator.name ∉ earlier) : ∃ left, tag.outcome? earlier later = some left := by
  rw [outcome?]
  split
  · exact ⟨_, rfl⟩
  · exact ⟨_, if_neg h⟩

/-- A further tag that replaces nothing of its name makes no difference. -/
theorem outcome?_append_of_not (earlier : List String) (tag : Arrival) (later : List Arrival)
    {last : Arrival}
    (h : ¬(last.replaces = true ∧ last.decorator.name = tag.decorator.name)) :
    tag.outcome? earlier (later ++ [last]) = tag.outcome? earlier later := by
  rw [outcome?, outcome?, ← List.cons_append, lastReplacing?_append_of_not _ h]

/-- A further tag that replaces takes the first place of its name. -/
theorem outcome?_append_self (earlier : List String) {tag : Arrival} (later : List Arrival)
    {last : Arrival} (h : last.replaces = true)
    (hname : last.decorator.name = tag.decorator.name) :
    tag.outcome? earlier (later ++ [last]) =
      if tag.decorator.name ∈ earlier then none else some last.decorator := by
  rw [outcome?, ← List.cons_append, ← hname, lastReplacing?_append_self _ h]

/-- A further tag that is appended stays at the end. -/
theorem settled_append_of_appends (earlier : List String) (tags : List Arrival)
    {last : Arrival} (h : last.replaces = false) :
    settled earlier (tags ++ [last]) = settled earlier tags ++ [last.decorator] := by
  induction tags generalizing earlier with
  | nil => simp [settled, outcome?, lastReplacing?, h]
  | cons tag later ih =>
    rw [List.cons_append, settled, settled, ih, outcome?_append_of_not _ _ _ (by simp [h]),
      List.append_assoc]

/-- A further tag that replaces, when its name was met before these tags, only
drops what is left of the name. -/
theorem settled_append_of_mem (earlier : List String) (tags : List Arrival) {last : Arrival}
    (h : last.replaces = true) (hmem : last.decorator.name ∈ earlier) :
    settled earlier (tags ++ [last]) =
      (settled earlier tags).filter (·.name ≠ last.decorator.name) := by
  induction tags generalizing earlier with
  | nil =>
    have hself := lastReplacing?_append_self [] h
    rw [List.nil_append] at hself
    simp [settled, outcome?, hself, hmem]
  | cons tag later ih =>
    have hrest := ih (tag.decorator.name :: earlier) (List.mem_cons_of_mem _ hmem)
    rw [List.cons_append, settled, settled, hrest, List.filter_append]
    congr 1
    by_cases hname : last.decorator.name = tag.decorator.name
    · rw [outcome?_append_self _ _ h hname, if_pos (hname ▸ hmem)]
      symm
      rw [Option.toList_none, List.filter_eq_nil_iff]
      intro left hleft
      simp [name_of_outcome? (Option.mem_toList.1 hleft), hname]
    · rw [outcome?_append_of_not _ _ _ fun hboth => hname hboth.2]
      symm
      rw [List.filter_eq_self]
      intro left hleft
      simpa [name_of_outcome? (Option.mem_toList.1 hleft)] using Ne.symm hname

/-- A further tag that replaces is put in place among what is left. -/
theorem settled_append_of_replaces (earlier : List String) (tags : List Arrival)
    {last : Arrival} (h : last.replaces = true) (hnot : last.decorator.name ∉ earlier) :
    settled earlier (tags ++ [last]) = last.decorator.replaceIn (settled earlier tags) := by
  induction tags generalizing earlier with
  | nil =>
    have hself := lastReplacing?_append_self [] h
    rw [List.nil_append] at hself
    simp [settled, outcome?, hself, hnot, Decorator.replaceIn]
  | cons tag later ih =>
    rw [List.cons_append, settled, settled]
    by_cases hname : last.decorator.name = tag.decorator.name
    · -- the first place of the name: everything of the name after it goes
      obtain ⟨left, hleft⟩ := exists_outcome? later (hname ▸ hnot)
      rw [outcome?_append_self _ _ h hname, if_neg (hname ▸ hnot), hleft,
        settled_append_of_mem _ _ h (by simp [hname])]
      simp [Decorator.replaceIn, name_of_outcome? hleft, hname]
    · have hrest := ih (tag.decorator.name :: earlier) (by simp [hname, hnot])
      rw [outcome?_append_of_not _ _ _ fun hboth => hname hboth.2, hrest]
      cases hleft : tag.outcome? earlier later with
      | none => rfl
      | some left =>
        have hne : left.name ≠ last.decorator.name := by
          rw [name_of_outcome? hleft]
          exact Ne.symm hname
        simp [Decorator.replaceIn, hne]

/-- Tags that an element carries already stay as they are. -/
theorem settled_present (earlier : List String) (present : List Decorator) :
    settled earlier (present.map (⟨·, false⟩)) = present := by
  induction present using List.reverseRecOn with
  | nil => rfl
  | append_singleton present decorator ih =>
    rw [List.map_append, List.map_singleton, settled_append_of_appends _ _ rfl, ih]

end Arrival

namespace Decorators

/-- The decorators of an element after commands that all select it, in closed
form. Without a command they stay, and an absent collection stays absent. -/
def settled (present : Decorators) (commands : List Command) : Decorators :=
  if commands = [] then present else some (Arrival.settled [] (Arrival.all present commands))

/-- Merging one decorator after the other leaves what the closed form says. -/
theorem getD_after (commands : List Command) (present : Decorators) :
    (after commands present).getD [] = Arrival.settled [] (Arrival.all present commands) := by
  -- The last command is the one merged in last, so the induction takes it off.
  induction commands using List.reverseRecOn with
  | nil => simp [Arrival.all, Arrival.settled_present]
  | append_singleton commands command ih =>
    have hall : Arrival.all present (commands ++ [command]) =
        Arrival.all present commands ++ [.ofCommand command] := by
      simp [Arrival.all]
    rw [after_append, hall, after_cons, after_nil, Option.getD_some]
    cases hmode : command.mode with
    | upsert =>
      have hreplaces : (Arrival.ofCommand command).replaces = true := by
        simp [Arrival.ofCommand, hmode]
      rw [Arrival.settled_append_of_replaces _ _ hreplaces (by simp), ← ih]
      rfl
    | append =>
      have hreplaces : (Arrival.ofCommand command).replaces = false := by
        simp [Arrival.ofCommand, hmode]
      rw [Arrival.settled_append_of_appends _ _ hreplaces, ← ih]
      rfl

/-- A run of commands settles on the closed form. -/
theorem after_eq_settled (commands : List Command) (present : Decorators) :
    after commands present = settled present commands := by
  cases commands with
  | nil => rfl
  | cons command rest =>
    obtain ⟨found, hfound⟩ := exists_after_cons command rest present
    have hgetD := getD_after (command :: rest) present
    rw [hfound, Option.getD_some] at hgetD
    rw [hfound, settled, if_neg (List.cons_ne_nil _ _), hgetD]

end Decorators

/-! ## Decorating without checks -/

namespace Registry

/-- Without checks a decoration succeeds, and every declaration and every
property ends with the closed form of the commands that select it. Nothing else
changes, so an element that no command selects is left as it was. -/
theorem decorate_eq_ok_settled {registry : Registry} (hr : registry.Reachable)
    {set : CommandSet} (hparsed : set.Parsed) {source : CommandSource}
    (hset : source.set = .ok set) {options : Options} (hoptions : options.validateShape = false) :
    registry.decorate source options = .ok (registry.retag
      (fun namespaceName declaration => Decorators.settled declaration.decorators
        (set.commands.filter (·.target.SelectsDeclaration namespaceName declaration)))
      (fun namespaceName declaration property => Decorators.settled property.decorators
        (set.commands.filter (·.target.SelectsProperty namespaceName declaration property)))) := by
  have hsource := CommandSource.wellFormed_of_set hset hparsed
  rw [hr.wellFormed.decorate_of_unchecked hsource hset hoptions, decorated_eq_retag]
  simp only [Declaration.decoratorsAfter, Property.decoratorsAfter, Decorators.after_eq_settled,
    ← Target.selectsDeclaration_eq_true_iff, ← Target.selectsProperty_eq_true_iff,
    Bool.decide_eq_true]

/-- Two commands reach the concept: the new tag stands at the first place of its
name, the second tag of the name is gone, and the appended one comes last. -/
theorem decorate_sample :
    Sample.registry.decorate (.parsed (Sample.set (Sample.personCommands ++ Sample.textCommands)))
        .unchecked =
      .ok ⟨[⟨"org.acme", [],
        [⟨.concept, "Person", none,
          some [⟨.field, "name", some "String", false, true,
              some [⟨"Hide", none⟩, Sample.tag "Mask" "String"]⟩,
            ⟨.relationship, "boss", some "org.acme.Person", false, true, none⟩],
          none, none, none,
          some [Sample.tag "Pii" "Long", ⟨"Key", some [.text "id"]⟩,
            Sample.tag "Pii" "org.acme.Book"]⟩,
         ⟨.map, "Book", none, none, none, some ⟨"String", some [⟨"Pii", none⟩]⟩,
          some ⟨"org.acme.Person", none⟩, none⟩]⟩]⟩ :=
  (decorate_eq_ok_settled Sample.reachable_registry Sample.parsed_set rfl rfl).trans
    (congrArg Except.ok (by decide))

end Registry

end ModelTagging
