import ModelTagging.Proofs.Session.History

/-!
# Numbers of spans

Every span that is opened gets the next number. So the activities that own spans are told
apart by those numbers, the owner around another one has a smaller number, and whatever
the host may note something on has a number that was given before. Main statement: this
holds at any moment of a history if it does when the history begins.
-/

namespace ModelTagging

open Activity

namespace Event

/-- The event refers to activities only that are among the first ones. -/
def Before (n : Nat) : Event → Prop
  | entered entry => ∀ activity ∈ entry.around, activity.serial < n
  | noted _ _ activity => activity.serial < n
  | left _ _ => True

/-- It does so for any larger number of them. -/
theorem Before.mono {event : Event} {n n' : Nat} (h : event.Before n) (hn : n ≤ n') :
    event.Before n' := by
  cases event with
  | entered entry => exact fun activity hactivity => Nat.lt_of_lt_of_le (h activity hactivity) hn
  | noted _ _ activity => exact Nat.lt_of_lt_of_le h hn
  | left _ _ => trivial

/-- On an activity that is entered later nothing was noted, and nothing is within its
span. -/
theorem readings_eq_nil {events : List Event} {n : Nat} (h : ∀ event ∈ events, event.Before n)
    {activity : Activity} (hactivity : n ≤ activity.serial) :
    notes events activity = [] ∧ children events activity = [] ∧ blocks events activity = [] := by
  have haround : ∀ entry ∈ entries events, activity ∉ entry.around := by
    intro entry hentry hmem
    obtain ⟨event, hevent, hentry⟩ := List.mem_filterMap.1 hentry
    cases event with
    | entered _ =>
      cases hentry
      have := h _ hevent activity hmem
      omega
    | noted _ _ _ => cases hentry
    | left _ _ => cases hentry
  refine ⟨?_, ?_, ?_⟩
  · refine List.filterMap_eq_nil_iff.2 fun event hevent => ?_
    cases event with
    | entered _ => rfl
    | noted key value target =>
      refine if_neg fun hsame => ?_
      have hserial : target.serial < n := h _ hevent
      rw [hsame] at hserial
      omega
    | left _ _ => rfl
  · refine List.filter_eq_nil_iff.2 fun entry hentry hchild => ?_
    exact haround entry hentry (mem_of_owner (Entry.owner_of_isChildOf hchild))
  · refine List.filter_eq_nil_iff.2 fun entry hentry hblock => ?_
    exact haround entry hentry (mem_of_ownerCall (Entry.ownerCall_of_isBlockOf hblock))

/-- An activity that is entered last is the last of those that own a span, if it owns one. -/
theorem owners_entered (events : List Event) (entry : Entry) :
    owners (events ++ [.entered entry]) =
      owners events ++ if entry.owns then [entry] else [] := by
  rw [owners_append]
  cases howns : entry.owns <;> simp [owners, entries, entry?, howns]

end Event

/-- The span of the activity was opened before all these events, with a number below this
one, or in one of them. -/
def Known (base : Nat) (events : List Event) (activity : Activity) : Prop :=
  activity.opened < base ∨ ∃ entry ∈ Event.owners events, entry.activity = activity

/-- It then was so before more events, too. -/
theorem Known.mono {base : Nat} {events : List Event} {activity : Activity}
    (h : Known base events activity) (later : List Event) :
    Known base (events ++ later) activity := by
  rcases h with hbase | ⟨entry, hentry, hsame⟩
  · exact .inl hbase
  · refine .inr ⟨entry, ?_, hsame⟩
    rw [Event.owners_append]
    exact List.mem_append_left _ hentry

/-- What holds of the numbers of spans after some events, when these activities are under
way. The spans below `base` were opened before. -/
structure Numbered (base : Nat) (events : List Event) (around : List Activity)
    (moment : Moment) : Prop where
  /-- All that can be referred to was entered before. -/
  fits : moment.Fits around
  /-- So was all that the events refer to. -/
  before : ∀ event ∈ events, event.Before moment.entered
  /-- Numbers grow. -/
  le : base ≤ moment.opened
  /-- Those given in these events lie between. -/
  range : ∀ entry ∈ Event.owners events,
    base ≤ entry.activity.opened ∧ entry.activity.opened < moment.opened
  /-- No two activities have the same number. -/
  distinct : ∀ entry ∈ Event.owners events, ∀ other ∈ Event.owners events,
    entry.activity.opened = other.activity.opened → entry.activity = other.activity
  /-- An owner around has a smaller one. -/
  parents : ∀ entry ∈ Event.owners events, ∀ parent, owner entry.around = some parent →
    parent.opened < entry.activity.opened
  /-- The span of the owner around is open. -/
  owner : ∀ activity, owner around = some activity → Known base events activity
  /-- The spans that are held were opened. -/
  held : ∀ {name activity}, moment.held name = some activity → Known base events activity

namespace Numbered

variable {base : Nat} {events : List Event} {around : List Activity} {moment : Moment}

/-- What is known has a number that was given. -/
theorem opened_lt (h : Numbered base events around moment) {activity : Activity}
    (hknown : Known base events activity) : activity.opened < moment.opened := by
  have hle := h.le
  rcases hknown with hbase | ⟨entry, hentry, rfl⟩
  · omega
  · exact (h.range entry hentry).2

/-- It is told apart by that number from what was entered in these events. -/
theorem eq_of_opened_eq (h : Numbered base events around moment) {activity : Activity}
    (hknown : Known base events activity) {entry : Entry} (hentry : entry ∈ Event.owners events)
    (hsame : activity.opened = entry.activity.opened) : activity = entry.activity := by
  rcases hknown with hbase | ⟨other, hother, rfl⟩
  · have := (h.range entry hentry).1
    omega
  · exact h.distinct other hother entry hentry hsame

/-- A host may note something only on what is known and was entered before. -/
theorem of_held_or_owner (h : Numbered base events around moment) {activity : Activity}
    (hactivity : (∃ name, moment.held name = some activity) ∨
      Activity.owner around = some activity) :
    Known base events activity ∧ activity.serial < moment.entered := by
  rcases hactivity with ⟨name, hheld⟩ | howner
  · exact ⟨h.held hheld, h.fits.held hheld⟩
  · exact ⟨h.owner activity howner, h.fits.around activity (mem_of_owner howner)⟩

/-- Where nothing happens the numbers stay. -/
theorem quiet (h : Numbered base events around moment) {after : Moment}
    (hfollows : moment.Follows around after) : Numbered base events around after := by
  refine ⟨hfollows.fits h.fits, ?_, ?_, ?_, h.distinct, h.parents, h.owner, ?_⟩
  · rw [hfollows.entered]
    exact h.before
  · rw [hfollows.opened]
    exact h.le
  · rw [hfollows.opened]
    exact h.range
  · exact fun hheld => (h.of_held_or_owner (hfollows.held hheld)).1

/-- An event that enters nothing changes nothing about numbers. -/
theorem event (h : Numbered base events around moment) {event : Event}
    (hbefore : event.Before moment.entered) (hentry : event.entry? = none) :
    Numbered base (events ++ [event]) around moment := by
  have howners := Event.owners_concat_of_entry?_eq_none events hentry
  refine ⟨h.fits, ?_, h.le, ?_, ?_, ?_, ?_, ?_⟩
  · rw [List.forall_mem_append]
    exact ⟨h.before, by simpa using hbefore⟩
  · rw [howners]
    exact h.range
  · rw [howners]
    exact h.distinct
  · rw [howners]
    exact h.parents
  · exact fun activity howner => (h.owner activity howner).mono _
  · exact fun hheld => (h.held hheld).mono _

/-- An activity that is entered gets the next number if it owns a span. -/
theorem enter (h : Numbered base events around moment) {isCall : Bool} {name : String}
    {entry : Entry} (hentry : entry = ⟨moment.begin isCall name, around⟩)
    (held : Option String) :
    Numbered base (events ++ [.entered entry]) (entry.activity :: around)
      ((moment.enter entry).keep held entry.owned) := by
  have hopened : entry.activity.opened = moment.opened := by rw [hentry]; rfl
  have haround : entry.around = around := by rw [hentry]
  have hle := h.le
  have hmem {other : Entry} (hother : other ∈ Event.owners (events ++ [.entered entry])) :
      other ∈ Event.owners events ∨ entry.owns = true ∧ other = entry := by
    rw [Event.owners_entered] at hother
    cases howns : entry.owns with
    | false =>
      rw [howns, if_neg Bool.false_ne_true, List.append_nil] at hother
      exact .inl hother
    | true =>
      rw [howns, if_pos rfl] at hother
      rcases List.mem_append.1 hother with hother | hother
      · exact .inl hother
      · exact .inr ⟨rfl, List.mem_singleton.1 hother⟩
  have hgiven : ((moment.enter entry).keep held entry.owned).opened =
      if entry.owns then moment.opened + 1 else moment.opened := rfl
  have hself (howns : entry.owns = true) :
      Known base (events ++ [.entered entry]) entry.activity := by
    refine .inr ⟨entry, ?_, rfl⟩
    rw [Event.owners_entered, howns]
    exact List.mem_append_right _ (List.mem_singleton_self entry)
  refine ⟨History.fits_enter hentry h.fits, ?_, ?_, ?_, ?_, ?_, ?_, ?_⟩
  · have hentered : moment.entered ≤ ((moment.enter entry).keep held entry.owned).entered :=
      Nat.le_succ _
    rw [List.forall_mem_append]
    refine ⟨fun event hevent => (h.before event hevent).mono hentered, ?_⟩
    intro event hevent
    rw [List.mem_singleton.1 hevent]
    have hbefore : (Event.entered entry).Before moment.entered := by
      rw [Event.Before, haround]
      exact h.fits.around
    exact hbefore.mono hentered
  · rw [hgiven]
    split <;> omega
  · intro other hother
    rw [hgiven]
    rcases hmem hother with hother | ⟨howns, rfl⟩
    · have := h.range other hother
      split <;> omega
    · rw [howns, if_pos rfl]
      omega
  · intro first hfirst second hsecond hsame
    rcases hmem hfirst with hfirst | ⟨-, hfirst⟩ <;>
      rcases hmem hsecond with hsecond | ⟨-, hsecond⟩
    · exact h.distinct first hfirst second hsecond hsame
    · have := h.range first hfirst
      rw [hsecond] at hsame
      omega
    · have := h.range second hsecond
      rw [hfirst] at hsame
      omega
    · rw [hfirst, hsecond]
  · intro other hother parent hparent
    rcases hmem hother with hother | ⟨-, rfl⟩
    · exact h.parents other hother parent hparent
    · rw [haround] at hparent
      have := h.opened_lt (h.owner parent hparent)
      omega
  · intro activity howner
    rw [← haround, Entry.owner_cons] at howner
    rcases Option.or_eq_some_iff.1 howner with howned | ⟨-, howner⟩
    · rw [Entry.owned] at howned
      split at howned
      · next howns =>
        cases howned
        exact hself howns
      · cases howned
    · rw [haround] at howner
      exact (h.owner activity howner).mono _
  · intro other activity hheld
    rcases Moment.held_keep hheld with howned | hheld
    · rw [Entry.owned] at howned
      split at howned
      · next howns =>
        cases howned
        exact hself howns
      · cases howned
    · exact (h.held hheld).mono _

/-- When an activity is left the owner around it is still known. -/
theorem leave (h : Numbered base events around moment) {entry : Entry} {inside : Moment}
    {later : List Event} (succeeded : Bool)
    (hinside : Numbered base (events ++ later) (entry.activity :: around) inside) :
    Numbered base (events ++ later ++ [.left entry succeeded]) around inside := by
  have hbefore : (Event.left entry succeeded).Before inside.entered := trivial
  have hinside' := hinside.event hbefore rfl
  have haround : ∀ activity ∈ around, activity.serial < inside.entered :=
    fun activity hactivity => hinside.fits.around activity (List.mem_cons_of_mem _ hactivity)
  refine ⟨⟨haround, hinside.fits.held⟩, hinside'.before, hinside'.le, hinside'.range,
    hinside'.distinct, hinside'.parents, ?_, hinside'.held⟩
  intro activity howner
  have hknown := (h.owner activity howner).mono (later ++ [.left entry succeeded])
  rw [← List.append_assoc] at hknown
  exact hknown

/-- What holds of numbers is kept by all that a history is made of. -/
theorem closed (base : Nat) : History.Closed fun around moment history =>
    ∀ {events}, Numbered base events around moment →
      Numbered base (events ++ history.events) around history.after where
  quiet _ hfollows events h := by
    rw [List.append_nil]
    exact h.quiet hfollows
  noted _ _ hactivity events h := h.event (h.of_held_or_owner hactivity).2 rfl
  wrapped {_ _ inner} _ _ held entry hentry hinner events h := by
    have hinside := hinner (h.enter hentry held)
    rw [List.append_assoc] at hinside
    have hleft := h.leave inner.thrown.isNone hinside
    rw [List.append_assoc, List.append_assoc] at hleft
    exact hleft
  appended hfirst hsecond events h := by
    rw [History.append, ← List.append_assoc]
    exact hsecond (hfirst h)
  caught h := h

end Numbered

end ModelTagging
