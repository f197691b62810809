import ModelTagging.Proofs.Session.Activities

/-!
# Histories of activities

What a host does as far as spans are concerned, and the history of it: which
activities are entered and left, and what is noted on which of them meanwhile. A
history knows no spans. It only says which activities own one, and on whose span a note
is put: on that of the owner around while telemetry is on, or on one that the host holds
on to, whatever happened to its owner in the meantime. Main statements: what holds of all
that a history is made of holds of every history, and every traced owner is left exactly
once, after all that it is around.
-/

namespace ModelTagging

/-- One thing a host does that concerns spans or may end early. -/
inductive Work where
  /-- Switch telemetry on or off. -/
  | switch (on : Bool)
  /-- Run a traced activity that returns a value. -/
  | call (name : String) (body : List Work) (returns : Value)
  /-- Run an activity in a span of its own, and hold on to that span if there is a name
  for it. -/
  | block (held : Option String) (name : String) (body : List Work)
  /-- Note something on the active span. -/
  | note (key : String) (value : Value)
  /-- Hold on to the active span under a name. -/
  | hold (held : String)
  /-- Note something on the span that is held under a name. -/
  | noteOn (held : String) (key : String) (value : Value)
  /-- Look at the active span. -/
  | look
  /-- Give up. -/
  | throw (message : String)
  /-- Run an activity and recover from giving up within it. -/
  | attempt (body : List Work)

namespace Work

mutual

/-- The step of a program that does this. -/
def step : Work → Step
  | switch on => .telemetry on
  | call name body returns => .traced name (steps body) returns
  | block held name body => .span name (steps body) held
  | note key value => .annotate key value
  | hold held => .hold held
  | noteOn held key value => .annotateHeld held key value
  | look => .current
  | throw message => .throw message
  | attempt body => .attempt (steps body)

/-- The steps of a program that does these things. -/
def steps : List Work → List Step
  | [] => []
  | work :: rest => work.step :: steps rest

end

end Work

/-! ## Histories -/

/-- How far a history has got. -/
structure Moment where
  /-- The number of activities that have been entered. -/
  entered : Nat
  /-- The number of spans that have been opened. -/
  opened : Nat
  /-- Whether telemetry is on. -/
  enabled : Bool
  /-- The activities whose spans the host holds on to. -/
  held : Held Activity

namespace Moment

/-- The activity that is entered next. -/
def begin (isCall : Bool) (name : String) (moment : Moment) : Activity :=
  ⟨moment.entered, moment.opened, isCall, name, moment.enabled⟩

/-- The moment after an activity was entered. -/
def enter (entry : Entry) (moment : Moment) : Moment :=
  { moment with
    entered := moment.entered + 1
    opened := if entry.owns then moment.opened + 1 else moment.opened }

/-- The activity whose span is the active one. -/
def active (around : List Activity) (moment : Moment) : Option Activity :=
  if moment.enabled then Activity.owner around else none

/-- Hold on to a span, if there is a name for it. -/
def keep (name : Option String) (span : Option Activity) (moment : Moment) : Moment :=
  { moment with held := moment.held.keep name span }

/-- All activities that can be referred to were entered before. -/
structure Fits (around : List Activity) (moment : Moment) : Prop where
  /-- Those under way. -/
  around : ∀ activity ∈ around, activity.serial < moment.entered
  /-- Those whose spans are held. -/
  held : ∀ {name activity}, moment.held name = some activity → activity.serial < moment.entered

/-- Nothing was entered from one moment to the other, and what is held was held or
active. -/
structure Follows (around : List Activity) (before after : Moment) : Prop where
  /-- No activity was entered. -/
  entered : after.entered = before.entered
  /-- No span was opened. -/
  opened : after.opened = before.opened
  /-- What is held was held or active. -/
  held : ∀ {name activity}, after.held name = some activity →
    (∃ name, before.held name = some activity) ∨ Activity.owner around = some activity

/-- A moment follows itself. -/
theorem Follows.refl (around : List Activity) (moment : Moment) : Follows around moment moment :=
  ⟨rfl, rfl, fun hheld => .inl ⟨_, hheld⟩⟩

/-- What can be referred to afterwards was entered before, too. -/
theorem Follows.fits {around : List Activity} {before after : Moment}
    (h : Follows around before after) (hfits : before.Fits around) : after.Fits around := by
  constructor
  · rw [h.entered]
    exact hfits.around
  · intro name activity hheld
    rw [h.entered]
    rcases h.held hheld with ⟨other, hother⟩ | howner
    · exact hfits.held hother
    · exact hfits.around activity (Activity.mem_of_owner howner)

/-- The active one is the owner around. -/
theorem owner_of_active {around : List Activity} {moment : Moment} {activity : Activity}
    (h : moment.active around = some activity) : Activity.owner around = some activity := by
  rw [active] at h
  split at h
  · exact h
  · cases h

/-- What is held after holding on to a span is that one or was held before. -/
theorem held_keep {name : Option String} {span : Option Activity} {moment : Moment}
    {other : String} {activity : Activity}
    (h : (moment.keep name span).held other = some activity) :
    span = some activity ∨ moment.held other = some activity := by
  cases name with
  | none => exact .inr h
  | some name =>
    rw [keep, Held.keep] at h
    by_cases hname : other = name
    · exact .inl ((if_pos hname).symm.trans h)
    · exact .inr ((if_neg hname).symm.trans h)

/-- Holding on to the active span enters nothing. -/
theorem follows_keep (around : List Activity) (moment : Moment) (name : String) :
    Follows around moment (moment.keep (some name) (moment.active around)) := by
  refine ⟨rfl, rfl, fun hheld => ?_⟩
  rcases held_keep hheld with hactive | hheld
  · exact .inr (owner_of_active hactive)
  · exact .inl ⟨_, hheld⟩

end Moment

/-- What happened while things were done, and how it was afterwards. -/
structure History where
  /-- What happened, in order. -/
  events : List Event
  /-- How far it got. -/
  after : Moment
  /-- With which message the host gave up, if it did. -/
  thrown : Option String

namespace History

/-- Whether the host gave up, as an action shows it. -/
def result (history : History) : Except Interruption Unit :=
  match history.thrown with
  | none => .ok ()
  | some message => .error (.thrown message)

/-- The history of an activity with this one inside. -/
def wrap (entry : Entry) (inner : History) : History :=
  { inner with events := .entered entry :: (inner.events ++ [.left entry inner.thrown.isNone]) }

/-- One history and another one after it. -/
def append (first second : History) : History :=
  { second with events := first.events ++ second.events }

/-- One history and the next, which does not begin when the host gave up. -/
def andThen (first : History) (next : Moment → History) : History :=
  match first.thrown with
  | none => first.append (next first.after)
  | some _ => first

/-- The history of a note that is meant for an activity, if there is one. -/
def noting (key : String) (value : Value) (activity : Option Activity) (moment : Moment) :
    History :=
  ⟨(activity.map (Event.noted key value)).toList, moment, none⟩

/-- A history with giving up recovered from. -/
def caught (history : History) : History := { history with thrown := none }

end History

namespace Work

mutual

/-- The history of a thing done while these activities are under way. -/
def history (around : List Activity) (moment : Moment) : Work → History
  | switch on => ⟨[], { moment with enabled := on }, none⟩
  | call name body _ =>
    let entry : Entry := ⟨moment.begin true name, around⟩
    (histories (entry.activity :: around) (moment.enter entry) body).wrap entry
  | block held name body =>
    let entry : Entry := ⟨moment.begin false name, around⟩
    (histories (entry.activity :: around) ((moment.enter entry).keep held entry.owned) body).wrap
      entry
  | note key value => .noting key value (moment.active around) moment
  | hold held => ⟨[], moment.keep (some held) (moment.active around), none⟩
  | noteOn held key value => .noting key value (moment.held held) moment
  | look => ⟨[], moment, none⟩
  | throw message => ⟨[], moment, some message⟩
  | attempt body => (histories around moment body).caught

/-- The history of several things done one after the other. -/
def histories (around : List Activity) (moment : Moment) : List Work → History
  | [] => ⟨[], moment, none⟩
  | work :: rest => (work.history around moment).andThen fun moment =>
      histories around moment rest

end

end Work

/-! ## What holds of every history -/

namespace History

/-- What holds of all that a history is made of: quiet parts, single notes, activities with
a history inside, two parts one after the other, and parts after which the host recovers. -/
structure Closed (motive : List Activity → Moment → History → Prop) : Prop where
  /-- Parts without events. -/
  quiet : ∀ {around moment after} thrown, moment.Follows around after →
    motive around moment ⟨[], after, thrown⟩
  /-- A note on the owner around or on what is held. -/
  noted : ∀ {around moment activity} key value,
    (∃ name, moment.held name = some activity) ∨ Activity.owner around = some activity →
      motive around moment ⟨[.noted key value activity], moment, none⟩
  /-- An activity whose span may be held. -/
  wrapped : ∀ {around moment inner} isCall name held (entry : Entry),
    entry = ⟨moment.begin isCall name, around⟩ →
      motive (entry.activity :: around) ((moment.enter entry).keep held entry.owned) inner →
        motive around moment (inner.wrap entry)
  /-- Two parts. -/
  appended : ∀ {around moment first second}, motive around moment first →
    motive around first.after second → motive around moment (first.append second)
  /-- Recovering. -/
  caught : ∀ {around moment history}, motive around moment history →
    motive around moment history.caught

variable {motive : List Activity → Moment → History → Prop}

/-- A note that is meant for the owner around or for what is held. -/
theorem Closed.noting (h : Closed motive) (key : String) (value : Value)
    {around : List Activity} {moment : Moment} {activity : Option Activity}
    (hactivity : ∀ a, activity = some a →
      (∃ name, moment.held name = some a) ∨ Activity.owner around = some a) :
    motive around moment (.noting key value activity moment) := by
  cases activity with
  | none => exact h.quiet none (Moment.Follows.refl around moment)
  | some a => exact h.noted key value (hactivity a rfl)

end History

namespace Work

variable {motive : List Activity → Moment → History → Prop}

mutual

/-- What holds of all that a history is made of holds of every history. -/
theorem history_induction (h : History.Closed motive) (work : Work) (around : List Activity)
    (moment : Moment) : motive around moment (work.history around moment) :=
  match work with
  | switch _ => h.quiet none ⟨rfl, rfl, fun hheld => .inl ⟨_, hheld⟩⟩
  | call name body _ => h.wrapped true name none _ rfl (histories_induction h body _ _)
  | block held name body => h.wrapped false name held _ rfl (histories_induction h body _ _)
  | note key value => h.noting key value fun _ hactive => .inr (Moment.owner_of_active hactive)
  | hold held => h.quiet none (Moment.follows_keep around moment held)
  | noteOn held key value => h.noting key value fun _ hheld => .inl ⟨held, hheld⟩
  | look => h.quiet none (Moment.Follows.refl around moment)
  | throw message => h.quiet (some message) (Moment.Follows.refl around moment)
  | attempt body => h.caught (histories_induction h body around moment)

/-- So it does of several things done one after the other. -/
theorem histories_induction (h : History.Closed motive) (works : List Work)
    (around : List Activity) (moment : Moment) :
    motive around moment (histories around moment works) :=
  match works with
  | [] => h.quiet none (Moment.Follows.refl around moment)
  | work :: rest => by
    have hfirst := history_induction h work around moment
    rw [histories, History.andThen]
    split
    · exact h.appended hfirst (histories_induction h rest around _)
    · exact hfirst

end

end Work

/-! ## Every owner is left once, after what is inside -/

namespace History

/-- An activity is entered before those inside. -/
theorem entries_wrap (entry : Entry) (inner : History) :
    Event.entries (inner.wrap entry).events = entry :: Event.entries inner.events := by
  simp [wrap, Event.entries, Event.entry?]

/-- Its span may be directly within another one, and comes first there. -/
theorem children_wrap (entry : Entry) (inner : History) (parent : Activity) :
    Event.children (inner.wrap entry).events parent =
      (if entry.isChildOf parent then [entry] else []) ++ Event.children inner.events parent := by
  rw [Event.children, entries_wrap, List.filter_cons, Event.children]
  cases entry.isChildOf parent <;> rfl

/-- It may be part of the span of a traced activity, and comes first there, too. -/
theorem blocks_wrap (entry : Entry) (inner : History) (call : Activity) :
    Event.blocks (inner.wrap entry).events call =
      (if entry.isBlockOf call then [entry] else []) ++ Event.blocks inner.events call := by
  rw [Event.blocks, entries_wrap, List.filter_cons, Event.blocks]
  cases entry.isBlockOf call <;> rfl

/-- A traced owner is entered before those inside. -/
theorem calls_wrap (entry : Entry) (inner : History) :
    Event.calls (inner.wrap entry).events =
      (if entry.isOwnerCall then [entry] else []) ++ Event.calls inner.events := by
  rw [Event.calls, entries_wrap, List.filter_cons, Event.calls]
  cases entry.isOwnerCall <;> rfl

/-- It is left after those inside. -/
theorem leftCalls_wrap (entry : Entry) (inner : History) :
    Event.leftCalls (inner.wrap entry).events =
      Event.leftCalls inner.events ++ if entry.isOwnerCall then [entry] else [] := by
  rw [wrap, Event.leftCalls, List.filterMap_cons_none rfl, List.filterMap_append]
  cases h : entry.isOwnerCall <;> simp [Event.leftCalls, Event.leftCall?, h]

/-- What holds of every history: the activities that it is about were entered in it or
are around it, and its traced owners are all left, each before those around it. -/
structure Sound (around : List Activity) (moment : Moment) (history : History) : Prop where
  /-- Serial numbers grow. -/
  le : moment.entered ≤ history.after.entered
  /-- All that can be referred to afterwards was entered before. -/
  fits : history.after.Fits around
  /-- Every event is about activities from the history or around it. -/
  within : ∀ event ∈ history.events, event.Within around moment.entered history.after.entered
  /-- Every traced owner is left exactly once. -/
  left : (Event.leftCalls history.events).Perm (Event.calls history.events)
  /-- Nothing is left before what is inside it. -/
  inner_first : (Event.leftCalls history.events).Pairwise fun first later =>
    first.activity ∉ later.around

variable {around : List Activity} {moment : Moment}

/-- A history without events is sound. -/
theorem sound_quiet {after : Moment} (thrown : Option String)
    (h : moment.Follows around after) (hfits : moment.Fits around) :
    Sound around moment ⟨[], after, thrown⟩ :=
  ⟨Nat.le_of_eq h.entered.symm, h.fits hfits, nofun, .nil, .nil⟩

/-- So is one of a note. -/
theorem sound_noted {activity : Activity} (key : String) (value : Value)
    (h : (∃ name, moment.held name = some activity) ∨ Activity.owner around = some activity)
    (hfits : moment.Fits around) :
    Sound around moment ⟨[.noted key value activity], moment, none⟩ := by
  have hserial : activity.serial < moment.entered := by
    rcases h with ⟨name, hheld⟩ | howner
    · exact hfits.held hheld
    · exact hfits.around activity (Activity.mem_of_owner howner)
  refine ⟨Nat.le_refl _, hfits, fun event hevent => ?_, .nil, .nil⟩
  rw [List.mem_singleton.1 hevent]
  exact hserial

/-- All that can be referred to within an activity was entered before what is inside. -/
theorem fits_enter {isCall : Bool} {name : String} {held : Option String} {entry : Entry}
    (hentry : entry = ⟨moment.begin isCall name, around⟩) (hfits : moment.Fits around) :
    ((moment.enter entry).keep held entry.owned).Fits (entry.activity :: around) := by
  subst hentry
  have hself : (moment.begin isCall name).serial < moment.entered + 1 := Nat.lt_succ_self _
  constructor
  · intro activity hactivity
    rcases List.mem_cons.1 hactivity with rfl | hactivity
    · exact hself
    · exact Nat.lt_succ_of_lt (hfits.around activity hactivity)
  · intro other activity hheld
    rcases Moment.held_keep hheld with howned | hheld
    · rw [Entry.owned] at howned
      split at howned
      · cases howned
        exact hself
      · cases howned
    · exact Nat.lt_succ_of_lt (hfits.held hheld)

/-- A sound history may be that of an activity. -/
theorem Sound.wrap {isCall : Bool} {name : String} {held : Option String} {entry : Entry}
    {inner : History} (hentry : entry = ⟨moment.begin isCall name, around⟩)
    (h : inner.Sound (entry.activity :: around) ((moment.enter entry).keep held entry.owned))
    (hfits : moment.Fits around) : (inner.wrap entry).Sound around moment := by
  have hserial : entry.activity.serial = moment.entered := by rw [hentry]; rfl
  have haround : entry.around = around := by rw [hentry]
  have hle : moment.entered + 1 ≤ inner.after.entered := h.le
  have hwithin : ∀ event ∈ inner.events,
      event.Within (entry.activity :: around) (entry.activity.serial + 1) inner.after.entered := by
    rw [hserial]
    exact h.within
  have hself : entry.Within around moment.entered inner.after.entered :=
    ⟨by omega, [], haround, by simp⟩
  refine ⟨by exact Nat.le_of_succ_le hle, ⟨?_, h.fits.held⟩, ?_, ?_, ?_⟩
  · exact fun activity hactivity => h.fits.around activity (List.mem_cons_of_mem _ hactivity)
  · intro event hevent
    rcases List.mem_cons.1 hevent with rfl | hevent
    · exact hself
    · rcases List.mem_append.1 hevent with hevent | hevent
      · have hinner := (hwithin event hevent).of_cons (by omega)
        rw [hserial] at hinner
        exact hinner
      · rw [List.mem_singleton.1 hevent]
        exact hself
  · rw [leftCalls_wrap, calls_wrap]
    exact List.perm_append_comm.trans (h.left.append_left _)
  · rw [leftCalls_wrap]
    refine List.pairwise_append.2 ⟨h.inner_first, ?_, ?_⟩
    · cases entry.isOwnerCall <;> simp
    · intro first hfirst later hlater hmem
      have hlater' : later = entry := by
        cases hcall : entry.isOwnerCall <;> simp [hcall] at hlater
        exact hlater
      have hrange := (Event.within_of_mem_leftCalls hwithin hfirst).1
      rw [hlater', haround] at hmem
      have := hfits.around _ hmem
      omega

/-- Sound histories follow each other. -/
theorem Sound.append {first second : History} (h : first.Sound around moment)
    (hsecond : second.Sound around first.after) (hfits : moment.Fits around) :
    (first.append second).Sound around moment := by
  have hle := h.le
  have hle' := hsecond.le
  refine ⟨Nat.le_trans hle hle', hsecond.fits, ?_, ?_, ?_⟩
  · intro event hevent
    rcases List.mem_append.1 hevent with hevent | hevent
    · exact (h.within event hevent).mono (Nat.le_refl _) hle'
    · exact (hsecond.within event hevent).mono hle (Nat.le_refl _)
  · rw [History.append, Event.leftCalls_append, Event.calls_append]
    exact h.left.append hsecond.left
  · rw [History.append, Event.leftCalls_append]
    refine List.pairwise_append.2 ⟨h.inner_first, hsecond.inner_first, ?_⟩
    intro exit hexit later hlater hmem
    have hexit' := (Event.within_of_mem_leftCalls h.within hexit).1
    obtain ⟨-, inner, haround, hinner⟩ := Event.within_of_mem_leftCalls hsecond.within hlater
    rw [haround] at hmem
    rcases List.mem_append.1 hmem with hmem | hmem
    · have := hinner _ hmem
      omega
    · have := hfits.around _ hmem
      omega

end History

end ModelTagging
