import Mathlib.Data.List.Forall2
import ModelTagging.Proofs.Session.Numbered
import ModelTagging.Proofs.Session.SpanTrees

/-!
# Spans against histories

What telemetry does for a program of nested activities, read off the history of the
program. The same span is the innermost open one before and after everything done, whether
it comes to its end or not. The records told are those of the traced owners, in the order
in which they are left, each with whether it came to its end. The span in such a record
is a tree of the activities that belong to it: they stand in the order in which they
were entered, each directly within the span of its owner, with the notes put there before
the traced owner was left. It does not matter where a note came from: from the activity
itself, from one inside it, with telemetry off, or after the activity had been left.
-/

namespace ModelTagging

open Activity

/-! ## What is done leaves the innermost open span what it was -/

namespace Action

variable {ε α β : Type}

/-- Whatever comes of the action, the innermost open span is the same as before. -/
def Restores (action : Action ε α) : Prop :=
  ∀ session, (action.outcome session).2.telemetry.current = session.telemetry.current

/-- A change of the session does so if it leaves that span alone. -/
theorem restores_change {f : Session → Session}
    (h : ∀ session, (f session).telemetry.current = session.telemetry.current) :
    Restores (change f : Action ε Unit) := h

/-- Looking at the session does so. -/
theorem restores_look (view : Session → α) : Restores (look view : Action ε α) := fun _ => rfl

/-- So does doing one thing after another if each of them does. -/
theorem Restores.bind {first : Action ε α} {next : α → Action ε β} (hfirst : Restores first)
    (hnext : ∀ a, Restores (next a)) : Restores (first >>= next) := by
  intro session
  have hmiddle := hfirst session
  rw [Attempt.outcome_bind]
  revert hmiddle
  rcases first.outcome session with ⟨failure | a, middle⟩ <;> intro hmiddle
  · exact hmiddle
  · exact (hnext a middle).trans hmiddle

/-- So does anything in a span of its own if it does so without. -/
theorem Restores.inSpan {body : Option Nat → Action ε α} (h : Restores (body none))
    (name : String) : Restores (inSpan name body) := by
  intro session
  rw [Action.inSpan, Attempt.outcome_ofOutcome]
  cases session.telemetry.active with
  | none => exact h session
  | some parent => rfl

/-- So does anything in an outermost span. -/
theorem Restores.traced {body : Action ε α} (h : Restores body) (name : String) :
    Restores (traced name body) := by
  intro session
  rw [Action.traced, Attempt.outcome_ofOutcome]
  cases session.telemetry.enabled with
  | false => exact h session
  | true =>
    rw [if_pos rfl]
    dsimp only
    unfold finishRoot
    split <;> rfl

/-- Recovering does so if what it recovers from does. -/
theorem Restores.recover {body : Action Interruption Unit} (h : Restores body) :
    Restores (recover body) := by
  intro session
  have hbody := h session
  rw [Action.recover, Attempt.outcome_bind, settle, Attempt.outcome_ofOutcome]
  revert hbody
  rcases body.outcome session with ⟨failure | _, after⟩ <;> intro hbody
  · cases failure <;> exact hbody
  · exact hbody

/-- Noting something does so. -/
theorem restores_noteOn (find : Session → Option Nat) (key : String) (value : Value) :
    Restores (noteOn find key value) := by
  refine (restores_look find).bind fun span => ?_
  have hnoted : Restores (annotate span key value : Action Interruption Unit) :=
    restores_change fun session => (session.telemetry.update_frame span _).2
  exact hnoted.bind fun _ => restores_change fun _ => rfl

/-- What is done after a span was held on to finds it held. -/
theorem outcome_hold_bind (name : Option String) (span : Option Nat) (body : Action ε α)
    (session : Session) :
    (do hold name span; body).outcome session = body.outcome (session.hold name span) := by
  rw [Attempt.outcome_bind]
  rfl

end Action

namespace Work

mutual

/-- Everything done leaves the innermost open span what it was. -/
theorem restores (work : Work) : work.step.action.Restores :=
  match work with
  | switch _ => fun _ => rfl
  | call name body _ => ((restores_all body).traced name).bind fun _ => fun _ => rfl
  | block held name body => by
    have hbody : Action.Restores (Step.actions (steps body)) := restores_all body
    rw [step, Step.action]
    refine (Action.restores_look _).bind fun outer => Action.Restores.inSpan ?_ name
    have hheld : Action.Restores (Action.hold held none : Action Interruption Unit) := fun _ => rfl
    exact hheld.bind fun _ => Action.Restores.bind (fun _ => rfl) fun _ => hbody
  | note key value => Action.restores_noteOn _ key value
  | hold _ => fun _ => rfl
  | noteOn _ key value => Action.restores_noteOn _ key value
  | look => fun _ => rfl
  | throw _ => fun _ => rfl
  | attempt body => (restores_all body).recover

/-- So do several things done one after the other. -/
theorem restores_all (works : List Work) : (Step.actions (steps works)).Restores :=
  match works with
  | [] => fun _ => rfl
  | work :: rest => (restores work).bind fun _ => restores_all rest

end

end Work

/-! ## What events make of spans -/

namespace Event

/-- What the events so far make of the span of an activity. -/
def kept (events : List Event) (activity : Activity) : KeptSpan :=
  ⟨activity.name, Fields.putAll (notes events activity) [],
    (children events activity).map fun child => child.activity.opened⟩

/-- A note is put on the span that it is meant for. -/
theorem kept_noted (events : List Event) (key : String) (value : Value)
    (target activity : Activity) :
    kept (events ++ [.noted key value target]) activity =
      if target = activity then (kept events activity).annotate key value
      else kept events activity := by
  have hchildren : children (events ++ [.noted key value target]) activity =
      children events activity := children_concat_of_entry?_eq_none events rfl activity
  have hnotes : notes (events ++ [.noted key value target]) activity =
      notes events activity ++ if target = activity then [(key, value)] else [] := by
    rw [notes_append]
    by_cases h : target = activity <;> simp [notes, noteOn?, h]
  rw [kept, hchildren, hnotes]
  by_cases h : target = activity
  · simp [kept, h, KeptSpan.annotate, Fields.putAll]
  · simp [kept, h]

/-- An activity that is entered last is the last one within the span of its owner. -/
theorem kept_entered (events : List Event) (entry : Entry) (activity : Activity) :
    kept (events ++ [.entered entry]) activity =
      if entry.isChildOf activity then (kept events activity).adopt entry.activity.opened
      else kept events activity := by
  have hnotes : notes (events ++ [.entered entry]) activity = notes events activity := by
    rw [notes_append]
    exact List.append_nil _
  rw [kept, hnotes, children_append]
  cases h : entry.isChildOf activity <;>
    simp [kept, children, entries, entry?, h, KeptSpan.adopt]

/-- Leaving an activity changes nothing about spans. -/
theorem kept_left (events : List Event) (entry : Entry) (succeeded : Bool)
    (activity : Activity) : kept (events ++ [.left entry succeeded]) activity =
      kept events activity := by
  have hnotes : notes (events ++ [.left entry succeeded]) activity = notes events activity := by
    rw [notes_append]
    exact List.append_nil _
  have hchildren : children (events ++ [.left entry succeeded]) activity =
      children events activity := children_concat_of_entry?_eq_none events rfl activity
  rw [kept, hnotes, hchildren, kept]

end Event

/-- The state of telemetry, and what the host holds on to, are what these events make of
them while these activities are under way. -/
structure Tracks (events : List Event) (around : List Activity) (moment : Moment)
    (telemetry : Telemetry) (held : Held Nat) : Prop where
  /-- Telemetry is as it was switched last. -/
  enabled : telemetry.enabled = moment.enabled
  /-- The innermost open span is that of the owner around. -/
  current : telemetry.current = (owner around).map Activity.opened
  /-- The spans of the same activities are held. -/
  held : held = fun name => (moment.held name).map Activity.opened
  /-- As many spans were opened. -/
  next : telemetry.next = moment.opened
  /-- Each span is kept as the events made it. -/
  kept : ∀ entry ∈ Event.owners events,
    telemetry.spans[entry.activity.opened]? = some (Event.kept events entry.activity)

namespace Tracks

variable {base : Nat} {events : List Event} {around : List Activity} {moment : Moment}
  {telemetry : Telemetry} {held : Held Nat}

/-- The active span is that of the active one. -/
theorem active (h : Tracks events around moment telemetry held) :
    telemetry.active = (moment.active around).map Activity.opened := by
  rw [Telemetry.active, Moment.active, h.enabled, h.current]
  cases moment.enabled <;> rfl

/-- A note that is meant for an activity is put on its span. -/
theorem noted (h : Tracks events around moment telemetry held)
    (hnumbered : Numbered base events around moment) {target : Option Activity}
    (hknown : ∀ activity, target = some activity → Known base events activity) (key : String)
    (value : Value) :
    Tracks (events ++ (target.map (Event.noted key value)).toList) around moment
      (telemetry.annotate (target.map Activity.opened) key value) held := by
  cases target with
  | none =>
    rw [Option.map_none, Option.toList_none, List.append_nil]
    exact h
  | some target =>
    have hframe := telemetry.update_frame (some target.opened) (.annotate key value)
    have howners : Event.owners (events ++ [.noted key value target]) = Event.owners events :=
      Event.owners_concat_of_entry?_eq_none events rfl
    refine ⟨hframe.1.trans h.enabled, hframe.2.trans h.current, h.held,
      (telemetry.next_update _ _).trans h.next, ?_⟩
    intro entry hentry
    rw [Option.map_some, Option.toList_some, howners] at hentry
    have hsame : (some target.opened = some entry.activity.opened) ↔ target = entry.activity := by
      constructor
      · intro hopened
        exact hnumbered.eq_of_opened_eq (hknown target rfl) hentry (Option.some.inj hopened)
      · exact fun heq => congrArg (fun activity => some activity.opened) heq
    rw [Option.map_some, Option.map_some, Option.toList_some, Telemetry.annotate,
      Telemetry.getElem?_update,
      h.kept entry hentry, Option.map_some, Event.kept_noted]
    simp only [hsame]

/-- What the host holds on to is held. -/
theorem keep (h : Tracks events around moment telemetry held) (name : Option String)
    (span : Option Activity) :
    Tracks events around (moment.keep name span) telemetry
      (held.keep name (span.map Activity.opened)) := by
  refine ⟨h.enabled, h.current, ?_, h.next, h.kept⟩
  rw [h.held, Moment.keep, Held.map_keep]

/-- An activity that owns a span opens it within that of its owner, if it is not an
outermost one. -/
theorem enter (h : Tracks events around moment telemetry held)
    (hnumbered : Numbered base events around moment) {isCall : Bool} {name : String}
    {entry : Entry} (hentry : entry = ⟨moment.begin isCall name, around⟩)
    (howns : entry.owns = true) {parent : Option Activity}
    (hparent : ∀ activity, entry.isChildOf activity = true ↔ parent = some activity) :
    Tracks (events ++ [.entered entry]) (entry.activity :: around) (moment.enter entry)
      (telemetry.enter (parent.map Activity.opened) name) held := by
  have hopened : entry.activity.opened = telemetry.next := by rw [hentry, h.next]; rfl
  have hserial : moment.entered = entry.activity.serial := by rw [hentry]; rfl
  have haround : entry.around = around := by rw [hentry]
  have hnew : Event.kept (events ++ [.entered entry]) entry.activity = .start name := by
    have hnotWithin : entry.isChildOf entry.activity = false := by
      rw [Bool.eq_false_iff]
      intro hchild
      have hmem := mem_of_owner (Entry.owner_of_isChildOf hchild)
      rw [haround] at hmem
      have := hnumbered.fits.around _ hmem
      omega
    obtain ⟨hnotes, hchildren, -⟩ :=
      Event.readings_eq_nil hnumbered.before (Nat.le_of_eq hserial)
    have hname : entry.activity.name = name := by rw [hentry]; rfl
    rw [Event.kept_entered, hnotWithin, if_neg Bool.false_ne_true, Event.kept, hnotes, hchildren,
      hname]
    rfl
  refine ⟨?_, ?_, h.held, ?_, ?_⟩
  · exact (telemetry.update_frame _ _).1.trans h.enabled
  · rw [← haround, Entry.owner_cons_of_owns howns, Option.map_some, hopened]
    rfl
  · have hgiven : (moment.enter entry).opened = moment.opened + 1 := if_pos howns
    rw [Telemetry.next_enter, h.next, hgiven]
  · intro other hother
    rw [Event.owners_entered, howns, if_pos rfl] at hother
    rcases List.mem_append.1 hother with hother | hother
    · have hlt : other.activity.opened < telemetry.next := by
        rw [h.next]
        exact (hnumbered.range other hother).2
      have hsame : parent.map Activity.opened = some other.activity.opened ↔
          entry.isChildOf other.activity = true := by
        rw [hparent other.activity]
        constructor
        · intro hmap
          obtain ⟨activity, hactivity, hnumber⟩ := Option.map_eq_some_iff.1 hmap
          have howner := Entry.owner_of_isChildOf ((hparent activity).2 hactivity)
          rw [haround] at howner
          rw [hactivity, hnumbered.eq_of_opened_eq (hnumbered.owner activity howner) hother hnumber]
        · intro hactivity
          rw [hactivity, Option.map_some]
      rw [Telemetry.getElem?_enter_of_lt _ _ hlt, h.kept other hother, Option.map_some,
        Event.kept_entered, hopened]
      simp only [hsame]
    · rw [List.mem_singleton.1 hother, hopened, Telemetry.getElem?_enter_next, ← hnew]

/-- An activity that owns no span opens none. -/
theorem enter_plain (h : Tracks events around moment telemetry held) {entry : Entry}
    (haround : entry.around = around) (hplain : entry.owns = false) :
    Tracks (events ++ [.entered entry]) (entry.activity :: around) (moment.enter entry)
      telemetry held := by
  refine ⟨h.enabled, ?_, h.held, ?_, ?_⟩
  · rw [← haround, Entry.owner_cons_of_not_owns hplain, haround]
    exact h.current
  · rw [Moment.enter, hplain, if_neg Bool.false_ne_true]
    exact h.next
  · intro other hother
    rw [Event.owners_entered, hplain, if_neg Bool.false_ne_true, List.append_nil] at hother
    rw [h.kept other hother, Event.kept_entered, (Entry.apart_of_not_owns hplain _).2,
      if_neg Bool.false_ne_true]

/-- When an activity is left the innermost open span is that of the owner around it. -/
theorem leave {inside : List Activity} (h : Tracks events inside moment telemetry held)
    (around : List Activity) (entry : Entry) (succeeded : Bool) :
    Tracks (events ++ [.left entry succeeded]) around moment
      (telemetry.restore ((owner around).map Activity.opened)) held := by
  refine ⟨h.enabled, rfl, h.held, h.next, ?_⟩
  intro other hother
  rw [Event.owners_concat_of_entry?_eq_none events rfl] at hother
  rw [Event.kept_left]
  exact h.kept other hother

mutual

/-- A tree of what the events put within each other is read off as its span. -/
theorem read_tree (h : Tracks events around moment telemetry held)
    (hnumbered : Numbered base events around moment) (tree : SpanTree)
    (hroot : tree.root ∈ Event.owners events) (hmirror : tree.Mirrors events) :
    telemetry.read tree.root.activity.opened = some (tree.span events) :=
  match tree, hroot, hmirror with
  | .node entry within, hroot, ⟨hchildren, hwithin⟩ => by
    have hroots : ∀ tree ∈ within, tree.root ∈ Event.children events entry.activity := by
      intro tree htree
      rw [hchildren]
      exact List.mem_map_of_mem htree
    refine Telemetry.read_eq_some (h.kept entry hroot) ?_
    rw [Event.kept, hchildren, List.map_map, List.map_map]
    rw [← read_trees h hnumbered within hroots hwithin]
    refine List.map_congr_left fun tree htree => ?_
    -- Whatever is within a span was opened later.
    obtain ⟨hentered, hchild⟩ := List.mem_filter.1 (hroots tree htree)
    have howns : tree.root ∈ Event.owners events :=
      List.mem_filter.2 ⟨hentered, Entry.owns_of_isChildOf hchild⟩
    have hlt := hnumbered.parents tree.root howns entry.activity
      (Entry.owner_of_isChildOf hchild)
    exact if_pos hlt

/-- So are several of them. -/
theorem read_trees (h : Tracks events around moment telemetry held)
    (hnumbered : Numbered base events around moment) (trees : List SpanTree) {parent : Activity}
    (hroots : ∀ tree ∈ trees, tree.root ∈ Event.children events parent)
    (hmirror : SpanTree.AllMirror events trees) :
    (trees.map fun tree => telemetry.read tree.root.activity.opened) =
      (SpanTree.spans events trees).map some :=
  match trees, hroots, hmirror with
  | [], _, _ => rfl
  | tree :: rest, hroots, hmirror => by
    rw [List.forall_mem_cons] at hroots
    obtain ⟨hentered, hchild⟩ := List.mem_filter.1 hroots.1
    have howns : tree.root ∈ Event.owners events :=
      List.mem_filter.2 ⟨hentered, Entry.owns_of_isChildOf hchild⟩
    rw [List.map_cons, SpanTree.spans, List.map_cons, read_tree h hnumbered tree howns hmirror.1,
      read_trees h hnumbered rest hroots.2 hmirror.2]

end

end Tracks

/-! ## What is told -/

/-- The record tells that a traced owner was left, and of its span. The tree of the
span has exactly the activities that belong to it, as they were entered, each directly
within the one that owns the span around it, with the notes that were put on it before the
owner was left. -/
def Exit.ToldBy (exit : Exit) (record : LogRecord) : Prop :=
  ∃ within, SpanTree.entriesAll within = Event.blocks exit.before exit.entry.activity ∧
    SpanTree.AllStandIn exit.entry.activity within ∧
    record = Action.spanRecord exit.succeeded
      ((SpanTree.node exit.entry within).span exit.before)

/-- What was done came to what the history says, after these events and records. -/
structure History.Recorded (history : History) (events : List Event) (around : List Activity)
    (before : List LogRecord) (outcome : Except Interruption Unit × Session) : Prop where
  /-- The host gave up just then. -/
  result : outcome.1 = history.result
  /-- Spans are what the events made of them. -/
  tracks : Tracks (events ++ history.events) around history.after outcome.2.telemetry
    outcome.2.held
  /-- Of each traced owner that was left, and of nothing else, a record tells. -/
  told : ∃ records, outcome.2.records = before ++ records ∧
    List.Forall₂ Exit.ToldBy (Event.exitsFrom events history.events) records

namespace History

variable {base : Nat} {events : List Event} {around : List Activity} {moment : Moment}
  {history : History} {session : Session}

/-- Where no activity is left nothing is told. -/
theorem recorded_of_untold {outcome : Except Interruption Unit × Session}
    (hresult : outcome.1 = history.result)
    (htracks : Tracks (events ++ history.events) around history.after outcome.2.telemetry
      outcome.2.held)
    (hrecords : outcome.2.records = session.records)
    (hexits : Event.exitsFrom events history.events = []) :
    history.Recorded events around session.records outcome := by
  refine ⟨hresult, htracks, [], ?_, ?_⟩
  · rw [hrecords, List.append_nil]
  · rw [hexits]
    exact .nil

/-- A note is recorded on the activity that it is meant for. -/
theorem recorded_noteOn (htracks : Tracks events around moment session.telemetry session.held)
    (hnumbered : Numbered base events around moment) {find : Session → Option Nat}
    {target : Option Activity} (hfind : find session = target.map Activity.opened)
    (hknown : ∀ activity, target = some activity →
      (∃ name, moment.held name = some activity) ∨ owner around = some activity)
    (key : String) (value : Value) :
    (History.noting key value target moment).Recorded events around session.records
      ((Action.noteOn find key value).outcome session) := by
  have hnoted := htracks.noted hnumbered
    (fun activity htarget => (hnumbered.of_held_or_owner (hknown activity htarget)).1) key value
  rw [← hfind] at hnoted
  refine recorded_of_untold rfl hnoted rfl ?_
  cases target <;> rfl

/-- What the host sees before does not matter. -/
theorem Recorded.afterObserve {body : Action Interruption Unit} (observation : Observation)
    (hbody : ∀ inside : Session, Tracks events around moment inside.telemetry inside.held →
      history.Recorded events around inside.records (body.outcome inside))
    (inside : Session) (htracks : Tracks events around moment inside.telemetry inside.held) :
    history.Recorded events around inside.records
      ((do Action.observe observation; body).outcome inside) :=
  hbody (inside.observe observation) htracks

/-- What the host sees afterwards does not matter. -/
theorem Recorded.thenObserve {action : Action Interruption Unit} {before : List LogRecord}
    (h : history.Recorded events around before (action.outcome session))
    (observation : Observation) :
    history.Recorded events around before
      ((do action; Action.observe observation).outcome session) := by
  rw [Attempt.outcome_bind]
  revert h
  rcases action.outcome session with ⟨failure | _, after⟩
  · exact id
  · exact fun h => ⟨h.result, h.tracks, h.told⟩

/-- Recovering from giving up is not recorded. -/
theorem Recorded.recover {body : Action Interruption Unit} {before : List LogRecord}
    (h : history.Recorded events around before (body.outcome session)) :
    history.caught.Recorded events around before ((Action.recover body).outcome session) := by
  have hresult := h.result
  rw [History.result] at hresult
  rw [Action.recover, Attempt.outcome_bind, Action.settle, Attempt.outcome_ofOutcome]
  revert h hresult
  rcases body.outcome session with ⟨failure | _, after⟩ <;> intro h hresult
  · cases hthrown : history.thrown with
    | none =>
      rw [hthrown] at hresult
      cases hresult
    | some message =>
      rw [hthrown] at hresult
      cases hresult
      exact ⟨rfl, h.tracks, h.told⟩
  · exact ⟨rfl, h.tracks, h.told⟩

/-- Steps done one after the other come to what their histories say one after the
other. -/
theorem Recorded.andThen {first : History} {next : Moment → History}
    {action rest : Action Interruption Unit} {before : List LogRecord}
    (hfirst : first.Recorded events around before (action.outcome session))
    (hnext : ∀ middle : Session,
      Tracks (events ++ first.events) around first.after middle.telemetry middle.held →
        (next first.after).Recorded (events ++ first.events) around middle.records
          (rest.outcome middle)) :
    (first.andThen next).Recorded events around before
      ((do action; rest).outcome session) := by
  rw [Attempt.outcome_bind, History.andThen]
  revert hfirst
  rcases action.outcome session with ⟨failure | _, middle⟩ <;> intro hfirst <;>
    have hresult := hfirst.result <;> rw [History.result] at hresult
  · cases hthrown : first.thrown with
    | none =>
      rw [hthrown] at hresult
      cases hresult
    | some message => exact hfirst
  · cases hthrown : first.thrown with
    | some message =>
      rw [hthrown] at hresult
      cases hresult
    | none =>
      have hsecond := hnext middle hfirst.tracks
      obtain ⟨records, hrecords, htold⟩ := hfirst.told
      obtain ⟨records', hrecords', htold'⟩ := hsecond.told
      refine ⟨hsecond.result, ?_, records ++ records', ?_, ?_⟩
      · rw [History.append, ← List.append_assoc]
        exact hsecond.tracks
      · have hmiddle : middle.records = before ++ records := hrecords
        rw [hrecords', hmiddle, List.append_assoc]
      · rw [History.append, Event.exitsFrom_append]
        exact List.rel_append htold htold'

/-- When an activity is left the span of the owner around is the innermost open one again,
and just then its own span is told of if it is a traced owner. -/
theorem Recorded.wrap {entry : Entry} {inner : History} {before : List LogRecord}
    {result : Except Interruption Unit} {after final : Session} {told : List LogRecord}
    (h : inner.Recorded (events ++ [.entered entry]) (entry.activity :: around) before
      (result, after))
    (htelemetry : final.telemetry =
      after.telemetry.restore ((owner around).map Activity.opened))
    (hheld : final.held = after.held) (hrecords : final.records = after.records ++ told)
    (htold : List.Forall₂ Exit.ToldBy
      (if entry.isOwnerCall then
        [⟨entry, inner.thrown.isNone, events ++ [.entered entry] ++ inner.events⟩] else []) told) :
    (inner.wrap entry).Recorded events around before (result, final) := by
  have hevents : events ++ (inner.wrap entry).events =
      events ++ [.entered entry] ++ inner.events ++ [.left entry inner.thrown.isNone] := by
    simp [History.wrap]
  obtain ⟨records, hinner, htoldInner⟩ := h.told
  have hafter : after.records = before ++ records := hinner
  refine ⟨h.result, ?_, records ++ told, ?_, ?_⟩
  · rw [hevents, htelemetry, hheld]
    exact h.tracks.leave around entry inner.thrown.isNone
  · rw [hrecords, hafter, List.append_assoc]
  · have hexits : Event.exitsFrom events (inner.wrap entry).events =
        Event.exitsFrom (events ++ [.entered entry]) inner.events ++
          if entry.isOwnerCall then
            [⟨entry, inner.thrown.isNone, events ++ [.entered entry] ++ inner.events⟩]
          else [] := by
      show Event.exitsFrom (events ++ [.entered entry])
        (inner.events ++ [.left entry inner.thrown.isNone]) = _
      rw [Event.exitsFrom_append]
      rfl
    rw [hexits]
    exact List.rel_append htoldInner htold

/-- Leaving an activity that owns no span is not told of and changes no span. -/
theorem Recorded.wrap_plain {entry : Entry} {inner : History} {before : List LogRecord}
    {outcome : Except Interruption Unit × Session}
    (h : inner.Recorded (events ++ [.entered entry]) (entry.activity :: around) before outcome)
    (haround : entry.around = around) (hplain : entry.owns = false) :
    (inner.wrap entry).Recorded events around before outcome := by
  have hcall := Entry.isOwnerCall_of_not_owns hplain
  have hcurrent := h.tracks.current
  rw [← haround, Entry.owner_cons_of_not_owns hplain, haround] at hcurrent
  refine Recorded.wrap h ?_ rfl (List.append_nil _).symm ?_
  · rw [← hcurrent]
    rfl
  · rw [hcall]
    exact .nil

/-- A traced owner is told of just when it is left, with all that was noted until then. -/
theorem Recorded.told_of_call {entry : Entry} {inner : History} {telemetry : Telemetry}
    {held : Held Nat} {inside : Moment} (hcall : entry.isOwnerCall = true)
    (hserial : moment.entered ≤ entry.activity.serial)
    (hinside : entry.activity.serial < inside.entered)
    (hnumbered : Numbered base events around moment)
    (hafter : Numbered base (events ++ [.entered entry] ++ inner.events)
      (entry.activity :: entry.around) inner.after)
    (htracks : Tracks (events ++ [.entered entry] ++ inner.events)
      (entry.activity :: entry.around) inner.after telemetry held)
    (hsound : inner.Sound (entry.activity :: entry.around) inside)
    (hgrows : inner.Grows (entry.activity :: entry.around)) (succeeded : Bool) :
    ∃ span, telemetry.read entry.activity.opened = some span ∧
      Exit.ToldBy ⟨entry, succeeded, events ++ [.entered entry] ++ inner.events⟩
        (Action.spanRecord succeeded span) := by
  have howns := Entry.owns_of_isOwnerCall hcall
  have hownerCall : ownerCall (entry.activity :: entry.around) = some entry.activity := by
    rw [Entry.ownerCall_cons, if_pos hcall]
  have howner := Entry.owner_cons_of_owns howns
  obtain ⟨within, hentries, hstand, hchildren, hmirror⟩ := hgrows hownerCall howner
  -- Nothing from before the activity is within what was entered with it or inside it.
  have hsame (activity : Activity) (hactivity : moment.entered ≤ activity.serial) :
      Event.children (events ++ [.entered entry] ++ inner.events) activity =
          Event.children inner.events activity ∧
        Event.blocks (events ++ [.entered entry] ++ inner.events) activity =
          Event.blocks inner.events activity := by
    obtain ⟨-, hnoChildren, hnoBlocks⟩ := Event.readings_eq_nil hnumbered.before hactivity
    obtain ⟨hnotBlock, hnotChild⟩ := Entry.apart_of_isOwnerCall hcall activity
    constructor
    · rw [Event.children_append, Event.children_append, hnoChildren]
      simp [Event.children, Event.entries, Event.entry?, hnotChild]
    · rw [Event.blocks_append, Event.blocks_append, hnoBlocks]
      simp [Event.blocks, Event.entries, Event.entry?, hnotBlock]
  have hroot : entry ∈ Event.owners (events ++ [.entered entry] ++ inner.events) := by
    rw [Event.owners_append, Event.owners_entered, howns]
    simp
  have hmirrors : (SpanTree.node entry within).Mirrors
      (events ++ [.entered entry] ++ inner.events) := by
    refine ⟨(hsame entry.activity hserial).1.trans hchildren, ?_⟩
    refine hmirror.congr fun other hother => (hsame other.activity ?_).1
    rw [hentries] at hother
    have := (hsound.serial_of_mem_blocks hother).1
    omega
  refine ⟨_, htracks.read_tree hafter (.node entry within) hroot hmirrors, within, ?_, hstand, rfl⟩
  exact hentries.trans (hsame entry.activity hserial).2.symm

/-- Running a traced activity is recorded, whatever telemetry is. -/
theorem Recorded.traced {name : String} {entry : Entry} {inner : History}
    {body : Action Interruption Unit} (hentry : entry = ⟨moment.begin true name, around⟩)
    (htracks : Tracks events around moment session.telemetry session.held)
    (hnumbered : Numbered base events around moment)
    (hafter : Numbered base (events ++ [.entered entry] ++ inner.events)
      (entry.activity :: around) inner.after)
    (hsound : inner.Sound (entry.activity :: around) (moment.enter entry))
    (hgrows : inner.Grows (entry.activity :: around))
    (hbody : ∀ inside : Session, Tracks (events ++ [.entered entry]) (entry.activity :: around)
      (moment.enter entry) inside.telemetry inside.held →
        inner.Recorded (events ++ [.entered entry]) (entry.activity :: around) inside.records
          (body.outcome inside)) :
    (inner.wrap entry).Recorded events around session.records
      ((Action.traced name body).outcome session) := by
  have haround : entry.around = around := by rw [hentry]
  rw [Action.traced, Attempt.outcome_ofOutcome, htracks.enabled]
  cases henabled : moment.enabled with
  | false =>
    have hplain : entry.owns = false := by simp [hentry, Entry.owns, Moment.begin, henabled]
    rw [if_neg Bool.false_ne_true]
    exact (hbody session (htracks.enter_plain haround hplain)).wrap_plain haround hplain
  | true =>
    have hcall : entry.isOwnerCall = true := by
      simp [hentry, Entry.isOwnerCall, Moment.begin, henabled]
    have hparent (activity : Activity) :
        entry.isChildOf activity = true ↔ none = some activity := by
      simp [(Entry.apart_of_isOwnerCall hcall activity).2]
    have hinside := hbody (session.onTelemetry (Telemetry.enter none name))
      (htracks.enter hnumbered hentry (Entry.owns_of_isOwnerCall hcall) hparent)
    rw [if_pos rfl]
    revert hinside
    rcases body.outcome (session.onTelemetry (Telemetry.enter none name)) with ⟨result, after⟩
    intro hinside
    have hserial : entry.activity.serial = moment.entered := by rw [hentry]; rfl
    have hopened : session.telemetry.next = entry.activity.opened := by
      rw [hentry, htracks.next]
      rfl
    have hsucceeds : Action.succeeds result = inner.thrown.isNone := by
      have hresult : result = inner.result := hinside.result
      rw [hresult, History.result]
      cases inner.thrown <;> rfl
    rw [← haround] at hafter hsound hgrows
    obtain ⟨span, hread, htold⟩ := told_of_call hcall (Nat.le_of_eq hserial.symm)
      (by rw [hserial]; exact Nat.lt_succ_self _) hnumbered hafter
      (by rw [haround]; exact hinside.tracks) hsound hgrows inner.thrown.isNone
    dsimp only
    rw [Action.finishRoot, hopened, hread, hsucceeds]
    refine hinside.wrap ?_ rfl rfl ?_
    · rw [← htracks.current]
      rfl
    · rw [if_pos hcall]
      exact .cons htold .nil

/-- Whatever is entered in a span of its own gets one just if there is an active one, and
is directly within that. -/
theorem owns_begin {name : String} {entry : Entry}
    (hentry : entry = ⟨moment.begin false name, around⟩) :
    entry.owns = (moment.active around).isSome ∧
      ∀ activity, entry.isChildOf activity = true ↔ moment.active around = some activity := by
  cases henabled : moment.enabled <;>
    simp [hentry, Entry.owns, Entry.isChildOf, Moment.begin, Moment.active, henabled]

/-- Running something in a span of its own, and holding on to that if there is a name for
it, is recorded, whether there is an active span or not. -/
theorem Recorded.inSpan {name : String} {kept : Option String} {entry : Entry}
    {inner : History} {body : Action Interruption Unit}
    (hentry : entry = ⟨moment.begin false name, around⟩)
    (htracks : Tracks events around moment session.telemetry session.held)
    (hnumbered : Numbered base events around moment)
    (hbody : ∀ inside : Session, Tracks (events ++ [.entered entry]) (entry.activity :: around)
      ((moment.enter entry).keep kept entry.owned) inside.telemetry inside.held →
        inner.Recorded (events ++ [.entered entry]) (entry.activity :: around) inside.records
          (body.outcome inside)) :
    (inner.wrap entry).Recorded events around session.records
      ((Action.inSpan name fun span => do
        Action.hold kept span
        body).outcome session) := by
  have haround : entry.around = around := by rw [hentry]
  obtain ⟨howns, hparent⟩ := owns_begin hentry
  have hactive := htracks.active
  rw [Action.inSpan, Attempt.outcome_ofOutcome]
  cases hspan : moment.active around with
  | none =>
    rw [hspan] at howns hactive
    have hplain : entry.owns = false := howns
    have howned : entry.owned = none := if_neg (by simp [hplain])
    have hinside := (htracks.enter_plain haround hplain).keep kept entry.owned
    rw [hactive]
    have hheld := hbody (session.hold kept none) (by
      rw [howned] at hinside ⊢
      exact hinside)
    exact hheld.wrap_plain haround hplain
  | some parent =>
    rw [hspan] at howns hactive hparent
    have hnext : session.telemetry.next = entry.activity.opened := by
      rw [hentry, htracks.next]
      rfl
    have howned : entry.owned = some entry.activity := if_pos howns
    have hcall : entry.isOwnerCall = false := by simp [hentry, Entry.isOwnerCall, Moment.begin]
    have hinside := (htracks.enter hnumbered hentry howns hparent).keep kept entry.owned
    have hheld := hbody ((session.onTelemetry
      (Telemetry.enter (some parent.opened) name)).hold kept (some session.telemetry.next)) (by
        rw [howned] at hinside ⊢
        rw [hnext]
        exact hinside)
    rw [hactive, Option.map_some]
    dsimp only
    rw [Action.outcome_hold_bind]
    generalize body.outcome _ = outcome at hheld ⊢
    rcases outcome with ⟨result, after⟩
    refine hheld.wrap ?_ rfl (List.append_nil _).symm ?_
    · rw [← htracks.current]
      rfl
    · rw [hcall]
      exact .nil

end History

namespace Work

mutual

/-- What is done comes to what its history says. -/
theorem recorded (work : Work) {base : Nat} {events : List Event} {around : List Activity}
    {moment : Moment} {session : Session}
    (htracks : Tracks events around moment session.telemetry session.held)
    (hnumbered : Numbered base events around moment) :
    (work.history around moment).Recorded events around session.records
      (work.step.action.outcome session) :=
  match work with
  | switch on => by
    refine History.recorded_of_untold rfl ?_ rfl rfl
    have hswitched := htracks
    rw [← List.append_nil events] at hswitched
    exact ⟨rfl, hswitched.current, hswitched.held, hswitched.next, hswitched.kept⟩
  | call name body _ => by
    have hentry : (⟨moment.begin true name, around⟩ : Entry) = ⟨moment.begin true name, around⟩ :=
      rfl
    have hinside := hnumbered.enter hentry none
    have hafter := histories_induction (Numbered.closed base) body _ _ hinside
    obtain ⟨hsound, hgrows⟩ := histories_induction History.closed_grows body _ _ hinside.fits
    rw [history, step, Step.action]
    refine (History.Recorded.traced hentry htracks hnumbered hafter hsound hgrows ?_).thenObserve _
    exact fun inside htracks' => recorded_all body htracks' hinside
  | block held name body => by
    have hentry : (⟨moment.begin false name, around⟩ : Entry) =
      ⟨moment.begin false name, around⟩ := rfl
    have hinside := hnumbered.enter hentry held
    rw [history, step, Step.action, Attempt.outcome_bind]
    exact History.Recorded.inSpan hentry htracks hnumbered
      (History.Recorded.afterObserve _ fun inside htracks' => recorded_all body htracks' hinside)
  | note key value => by
    rw [history, step, Step.action]
    exact History.recorded_noteOn htracks hnumbered htracks.active
      (fun _ hactive => .inr (Moment.owner_of_active hactive)) key value
  | hold held => by
    have hkept := htracks.keep (some held) (moment.active around)
    rw [← htracks.active, ← List.append_nil events] at hkept
    exact History.recorded_of_untold rfl hkept rfl rfl
  | noteOn held key value => by
    rw [history, step, Step.action]
    exact History.recorded_noteOn htracks hnumbered (congrFun htracks.held held)
      (fun _ hheld => .inl ⟨held, hheld⟩) key value
  | look => by
    rw [← List.append_nil events] at htracks
    exact History.recorded_of_untold rfl htracks rfl rfl
  | throw message => by
    rw [← List.append_nil events] at htracks
    exact History.recorded_of_untold rfl htracks rfl rfl
  | attempt body => by
    rw [history, step, Step.action]
    exact (recorded_all body htracks hnumbered).recover

/-- So do several things one after the other. -/
theorem recorded_all (works : List Work) {base : Nat} {events : List Event}
    {around : List Activity} {moment : Moment} {session : Session}
    (htracks : Tracks events around moment session.telemetry session.held)
    (hnumbered : Numbered base events around moment) :
    (histories around moment works).Recorded events around session.records
      ((Step.actions (steps works)).outcome session) :=
  match works with
  | [] => by
    rw [← List.append_nil events] at htracks
    exact History.recorded_of_untold rfl htracks rfl rfl
  | work :: rest => by
    have hafter := history_induction (Numbered.closed base) work around moment hnumbered
    rw [histories, steps, Step.actions]
    refine (recorded work htracks hnumbered).andThen fun middle htracks' => ?_
    exact recorded_all rest htracks' hafter

end

end Work

/-! ## Whole programs -/

/-- The owner of a span that was opened before a program began. -/
def Activity.earlier (n : Nat) : Activity := ⟨0, n, true, "", true⟩

namespace Session

/-- What is under way when a program begins in a session with an open span. -/
def around (session : Session) : List Activity :=
  (session.telemetry.current.map Activity.earlier).toList

/-- How far things have got when a program begins. -/
def moment (session : Session) : Moment :=
  ⟨1, session.telemetry.next, session.telemetry.enabled,
    fun name => (session.held name).map Activity.earlier⟩

end Session

namespace Work

end Work

end ModelTagging
