import ModelTagging.Session.Program

/-!
# Activities and events

Activities of a host that are entered and left, and what is noted on them meanwhile. An
activity may own a span: a traced one does if telemetry is on when it is entered, and any
other does if there is such an owner around it as well. Events say what happened, in order;
from a list of them it is read off which activities own a span, which spans are directly
within which, what was noted on each, and which traced owners were left.
-/

namespace ModelTagging

/-! ## Activities and who owns a span -/

/-- An activity that is entered, and left later. -/
structure Activity where
  /-- The number of activities entered before it. -/
  serial : Nat
  /-- The number of spans opened before it. -/
  opened : Nat
  /-- Whether it is a traced one. -/
  isCall : Bool
  /-- The name of the work. -/
  name : String
  /-- Whether telemetry is on when it is entered. -/
  enabled : Bool
  deriving DecidableEq

namespace Activity

/-- Among the activities under way, the innermost first, the innermost that owns a
span. -/
def owner : List Activity → Option Activity
  | [] => none
  | activity :: around =>
    if activity.enabled && (activity.isCall || (owner around).isSome) then some activity
    else owner around

/-- The innermost traced one among them that owns a span. -/
def ownerCall (around : List Activity) : Option Activity :=
  around.find? fun activity => activity.isCall && activity.enabled

/-- There is an owner exactly if there is a traced one. -/
theorem isSome_owner (around : List Activity) :
    (owner around).isSome = (ownerCall around).isSome := by
  induction around with
  | nil => rfl
  | cons activity around ih =>
    rw [owner, ownerCall, List.find?_cons]
    rw [ownerCall] at ih
    cases activity.isCall <;> cases activity.enabled <;>
      cases hfound : (around.find? fun activity => activity.isCall && activity.enabled).isSome <;>
        simp_all

/-- The owner among more activities is one of those or the one it was. -/
theorem mem_or_owner_of_append {inner around : List Activity} {activity : Activity}
    (h : owner (inner ++ around) = some activity) :
    activity ∈ inner ∨ owner around = some activity := by
  induction inner with
  | nil => exact .inr h
  | cons first inner ih =>
    rw [List.cons_append, owner] at h
    split at h
    · exact .inl (List.mem_cons.2 (.inl (Option.some.inj h).symm))
    · exact (ih h).imp_left (List.mem_cons_of_mem first)

/-- An owner is under way. -/
theorem mem_of_owner {around : List Activity} {activity : Activity}
    (h : owner around = some activity) : activity ∈ around := by
  rw [← List.append_nil around] at h
  exact (mem_or_owner_of_append h).resolve_right nofun

/-- The traced owner among more activities is one of those or the one it was, too. -/
theorem mem_or_ownerCall_of_append {inner around : List Activity} {activity : Activity}
    (h : ownerCall (inner ++ around) = some activity) :
    activity ∈ inner ∨ ownerCall around = some activity := by
  rw [ownerCall, List.find?_append] at h
  exact (Option.or_eq_some_iff.1 h).imp List.mem_of_find?_eq_some And.right

/-- A traced owner is under way. -/
theorem mem_of_ownerCall {around : List Activity} {activity : Activity}
    (h : ownerCall around = some activity) : activity ∈ around :=
  List.mem_of_find?_eq_some h

end Activity

/-- An activity that was entered, and those under way then, the innermost first. -/
structure Entry where
  /-- The activity. -/
  activity : Activity
  /-- The activities around it. -/
  around : List Activity

namespace Entry

open Activity

/-- Whether the activity owns a span. -/
def owns (entry : Entry) : Bool :=
  entry.activity.enabled && (entry.activity.isCall || (owner entry.around).isSome)

/-- The activity, if it owns a span. -/
def owned (entry : Entry) : Option Activity := if entry.owns then some entry.activity else none

/-- Whether the activity is a traced owner. -/
def isOwnerCall (entry : Entry) : Bool := entry.activity.isCall && entry.activity.enabled

/-- Whether the activity is one of those that the span of a traced one is made of: it
is no traced one itself, telemetry was on, and this is the traced owner around it. -/
def isBlockOf (call : Activity) (entry : Entry) : Bool :=
  !entry.activity.isCall && entry.activity.enabled && ownerCall entry.around == some call

/-- Whether its span is directly within that of another one: it is no traced one,
telemetry was on, and the other one is the owner around it. -/
def isChildOf (parent : Activity) (entry : Entry) : Bool :=
  !entry.activity.isCall && entry.activity.enabled && owner entry.around == some parent

/-- The traced activity is then the traced owner around. -/
theorem ownerCall_of_isBlockOf {call : Activity} {entry : Entry}
    (h : entry.isBlockOf call = true) : ownerCall entry.around = some call := by
  simp only [isBlockOf, Bool.and_eq_true, beq_iff_eq] at h
  exact h.2

/-- The other one is then the owner around. -/
theorem owner_of_isChildOf {parent : Activity} {entry : Entry}
    (h : entry.isChildOf parent = true) : owner entry.around = some parent := by
  simp only [isChildOf, Bool.and_eq_true, beq_iff_eq] at h
  exact h.2

/-- An activity whose span is directly within another one owns it. -/
theorem owns_of_isChildOf {parent : Activity} {entry : Entry}
    (h : entry.isChildOf parent = true) : entry.owns = true := by
  have howner := owner_of_isChildOf h
  simp only [isChildOf, Bool.and_eq_true] at h
  simp [owns, howner, h.1.2]

/-- So does one that is part of the span of a traced one. -/
theorem owns_of_isBlockOf {call : Activity} {entry : Entry}
    (h : entry.isBlockOf call = true) : entry.owns = true := by
  have howner : (owner entry.around).isSome = true := by
    rw [isSome_owner, ownerCall_of_isBlockOf h]
    rfl
  simp only [isBlockOf, Bool.and_eq_true] at h
  simp [owns, howner, h.1.2]

/-- So does a traced owner. -/
theorem owns_of_isOwnerCall {entry : Entry} (h : entry.isOwnerCall = true) :
    entry.owns = true := by
  simp only [isOwnerCall, Bool.and_eq_true] at h
  simp [owns, h.1, h.2]

/-- A traced owner is part of no other span. -/
theorem apart_of_isOwnerCall {entry : Entry} (h : entry.isOwnerCall = true)
    (activity : Activity) :
    entry.isBlockOf activity = false ∧ entry.isChildOf activity = false := by
  simp only [isOwnerCall, Bool.and_eq_true] at h
  simp [isBlockOf, isChildOf, h.1]

/-- An activity that owns no span is no traced owner. -/
theorem isOwnerCall_of_not_owns {entry : Entry} (h : entry.owns = false) :
    entry.isOwnerCall = false := by
  rw [Bool.eq_false_iff]
  intro hcall
  rw [owns_of_isOwnerCall hcall] at h
  cases h

/-- Nor is it part of another span. -/
theorem apart_of_not_owns {entry : Entry} (h : entry.owns = false) (activity : Activity) :
    entry.isBlockOf activity = false ∧ entry.isChildOf activity = false := by
  constructor <;> rw [Bool.eq_false_iff] <;> intro hpart
  · rw [owns_of_isBlockOf hpart] at h
    cases h
  · rw [owns_of_isChildOf hpart] at h
    cases h

/-- An activity that owns a span but is no traced owner has an owner and a traced owner
around it, and is part of the spans of both. -/
theorem exists_parent {entry : Entry} (howns : entry.owns = true)
    (hcall : entry.isOwnerCall = false) :
    ∃ parent call, owner entry.around = some parent ∧ ownerCall entry.around = some call ∧
      entry.isChildOf parent = true ∧ entry.isBlockOf call = true := by
  have henabled : entry.activity.enabled = true := by
    rw [owns, Bool.and_eq_true] at howns
    exact howns.1
  have hblock : entry.activity.isCall = false := by
    rw [isOwnerCall, henabled, Bool.and_true] at hcall
    exact hcall
  have howner : (owner entry.around).isSome = true := by
    rw [owns, henabled, hblock] at howns
    simpa using howns
  have hownerCall := howner
  rw [isSome_owner] at hownerCall
  obtain ⟨parent, hparent⟩ := Option.isSome_iff_exists.1 howner
  obtain ⟨call, hcall⟩ := Option.isSome_iff_exists.1 hownerCall
  refine ⟨parent, call, hparent, hcall, ?_, ?_⟩
  · simp [isChildOf, henabled, hblock, hparent]
  · simp [isBlockOf, henabled, hblock, hcall]

/-- With one that owns a span the owner is this one, otherwise it stays. -/
theorem owner_cons (entry : Entry) :
    owner (entry.activity :: entry.around) = entry.owned.or (owner entry.around) := by
  rw [owner, owned, owns]
  cases entry.activity.enabled && (entry.activity.isCall || (owner entry.around).isSome) <;> rfl

/-- So the owner is an activity that owns a span. -/
theorem owner_cons_of_owns {entry : Entry} (h : entry.owns = true) :
    owner (entry.activity :: entry.around) = some entry.activity := by
  have howned : entry.owned = some entry.activity := if_pos h
  rw [owner_cons, howned, Option.some_or]

/-- And it stays with one that owns none. -/
theorem owner_cons_of_not_owns {entry : Entry} (h : entry.owns = false) :
    owner (entry.activity :: entry.around) = owner entry.around := by
  rw [owner_cons, owned, h, if_neg Bool.false_ne_true, Option.none_or]

/-- With a traced owner the traced owner is this one, otherwise it stays. -/
theorem ownerCall_cons (entry : Entry) :
    ownerCall (entry.activity :: entry.around) =
      if entry.isOwnerCall then some entry.activity else ownerCall entry.around := by
  rw [ownerCall, List.find?_cons, isOwnerCall]
  cases entry.activity.isCall && entry.activity.enabled <;> rfl

end Entry

/-! ## Events -/

/-- One event in a history. -/
inductive Event where
  /-- An activity was entered. -/
  | entered (entry : Entry)
  /-- Something was noted on the span of an activity. -/
  | noted (key : String) (value : Value) (activity : Activity)
  /-- An activity was left, and whether it came to its end. -/
  | left (entry : Entry) (succeeded : Bool)

/-- A traced owner that was left. -/
structure Exit where
  /-- The owner, as it was entered. -/
  entry : Entry
  /-- Whether it came to its end. -/
  succeeded : Bool
  /-- What had happened until then. -/
  before : List Event

namespace Event

/-- What the event notes on the span of an activity. -/
def noteOn? (activity : Activity) : Event → Option (String × Value)
  | noted key value target => if target = activity then some (key, value) else none
  | _ => none

/-- The activity that was entered. -/
def entry? : Event → Option Entry
  | entered entry => some entry
  | _ => none

/-- The traced owner that was left. -/
def leftCall? : Event → Option Entry
  | left entry _ => if entry.isOwnerCall then some entry else none
  | _ => none

/-- The notes on the span of an activity, in their order. -/
def notes (events : List Event) (activity : Activity) : Fields :=
  events.filterMap (noteOn? activity)

/-- The activities, as they were entered. -/
def entries (events : List Event) : List Entry := events.filterMap entry?

/-- The activities that own a span, as they were entered. -/
def owners (events : List Event) : List Entry := (entries events).filter Entry.owns

/-- The activities whose spans are directly within that of another one, as they were
entered. -/
def children (events : List Event) (parent : Activity) : List Entry :=
  (entries events).filter (Entry.isChildOf parent)

/-- The activities whose spans are within that of a traced one, as they were
entered. -/
def blocks (events : List Event) (call : Activity) : List Entry :=
  (entries events).filter (Entry.isBlockOf call)

/-- The traced owners, as they were entered. -/
def calls (events : List Event) : List Entry := (entries events).filter Entry.isOwnerCall

/-- The traced owners, as they were left. -/
def leftCalls (events : List Event) : List Entry := events.filterMap leftCall?

/-- The traced owners that were left after some other events had happened. -/
def exitsFrom (before : List Event) : List Event → List Exit
  | [] => []
  | left entry succeeded :: rest =>
    let exits := exitsFrom (before ++ [left entry succeeded]) rest
    if entry.isOwnerCall then ⟨entry, succeeded, before⟩ :: exits else exits
  | event :: rest => exitsFrom (before ++ [event]) rest

/-- The traced owners that were left, each with what had happened until then. -/
def exits (events : List Event) : List Exit := exitsFrom [] events

/-- Activities that are entered later come after earlier ones. -/
@[simp] theorem entries_append (first second : List Event) :
    entries (first ++ second) = entries first ++ entries second :=
  List.filterMap_append

/-- So do notes. -/
@[simp] theorem notes_append (first second : List Event) (activity : Activity) :
    notes (first ++ second) activity = notes first activity ++ notes second activity :=
  List.filterMap_append

/-- So do activities that own a span. -/
@[simp] theorem owners_append (first second : List Event) :
    owners (first ++ second) = owners first ++ owners second := by
  rw [owners, entries_append, List.filter_append]
  rfl

/-- So do those directly within a span. -/
@[simp] theorem children_append (first second : List Event) (parent : Activity) :
    children (first ++ second) parent = children first parent ++ children second parent := by
  rw [children, entries_append, List.filter_append]
  rfl

/-- So do those within a span at all. -/
@[simp] theorem blocks_append (first second : List Event) (call : Activity) :
    blocks (first ++ second) call = blocks first call ++ blocks second call := by
  rw [blocks, entries_append, List.filter_append]
  rfl

/-- An event that enters nothing adds no activity that owns a span. -/
theorem owners_concat_of_entry?_eq_none (events : List Event) {event : Event}
    (h : event.entry? = none) : owners (events ++ [event]) = owners events := by
  simp [owners, entries, h]

/-- Nor does it add one within a span. -/
theorem children_concat_of_entry?_eq_none (events : List Event) {event : Event}
    (h : event.entry? = none) (parent : Activity) :
    children (events ++ [event]) parent = children events parent := by
  simp [children, entries, h]

/-- So do traced owners. -/
@[simp] theorem calls_append (first second : List Event) :
    calls (first ++ second) = calls first ++ calls second := by
  rw [calls, entries_append, List.filter_append]
  rfl

/-- So do those that are left. -/
@[simp] theorem leftCalls_append (first second : List Event) :
    leftCalls (first ++ second) = leftCalls first ++ leftCalls second :=
  List.filterMap_append

/-- What happens first has happened before what comes later. -/
theorem exitsFrom_append (before first second : List Event) :
    exitsFrom before (first ++ second) =
      exitsFrom before first ++ exitsFrom (before ++ first) second := by
  induction first generalizing before with
  | nil => rw [List.append_nil]; rfl
  | cons event rest ih =>
    have hrest := ih (before ++ [event])
    rw [List.append_assoc, List.singleton_append] at hrest
    cases event with
    | entered _ => exact hrest
    | noted _ _ _ => exact hrest
    | left entry succeeded =>
      rw [List.cons_append, exitsFrom, exitsFrom, hrest]
      cases entry.isOwnerCall <;> rfl

end Event

/-! ## Where events belong -/

/-- The activities are those around with others inside, which were entered in this
range. -/
def Activity.Inside (around : List Activity) (first last : Nat) (underWay : List Activity) :
    Prop :=
  ∃ inner, underWay = inner ++ around ∧
    ∀ activity ∈ inner, first ≤ activity.serial ∧ activity.serial < last

/-- The activity was entered in this range, inside those around. -/
def Entry.Within (around : List Activity) (first last : Nat) (entry : Entry) : Prop :=
  (first ≤ entry.activity.serial ∧ entry.activity.serial < last) ∧
    Activity.Inside around first last entry.around

namespace Entry.Within

variable {around : List Activity} {entry : Entry} {first last : Nat}

/-- So it was in a larger range. -/
theorem mono (h : entry.Within around first last) {first' last' : Nat} (hfirst : first' ≤ first)
    (hlast : last ≤ last') : entry.Within around first' last' := by
  obtain ⟨hrange, inner, haround, hinner⟩ := h
  refine ⟨by omega, inner, haround, fun activity hactivity => ?_⟩
  have := hinner activity hactivity
  omega

/-- What is inside an activity is inside those around it. -/
theorem of_cons {activity : Activity}
    (h : entry.Within (activity :: around) (activity.serial + 1) last)
    (hlast : activity.serial < last) : entry.Within around activity.serial last := by
  obtain ⟨hrange, inner, haround, hinner⟩ := h
  refine ⟨by omega, inner ++ [activity], ?_, fun other hother => ?_⟩
  · rw [haround, List.append_assoc, List.singleton_append]
  · rcases List.mem_append.1 hother with hother | hother
    · have := hinner other hother
      omega
    · rw [List.mem_singleton.1 hother]
      exact ⟨Nat.le_refl _, hlast⟩

/-- An activity that is neither in the range nor the owner around is not that of what is
inside. -/
theorem owner_ne (h : entry.Within around first last) {activity : Activity}
    (hrange : ¬(first ≤ activity.serial ∧ activity.serial < last))
    (howner : Activity.owner around ≠ some activity) :
    Activity.owner entry.around ≠ some activity := by
  obtain ⟨-, inner, haround, hinner⟩ := h
  rw [haround]
  intro hsome
  rcases Activity.mem_or_owner_of_append hsome with hmem | hsome
  · exact hrange (hinner activity hmem)
  · exact howner hsome

/-- A traced one that is neither is not the traced owner of what is inside. -/
theorem ownerCall_ne (h : entry.Within around first last) {call : Activity}
    (hrange : ¬(first ≤ call.serial ∧ call.serial < last))
    (howner : Activity.ownerCall around ≠ some call) :
    Activity.ownerCall entry.around ≠ some call := by
  obtain ⟨-, inner, haround, hinner⟩ := h
  rw [haround]
  intro hsome
  rcases Activity.mem_or_ownerCall_of_append hsome with hmem | hsome
  · exact hrange (hinner call hmem)
  · exact howner hsome

end Entry.Within

namespace Event

/-- The event is one of an activity that was entered in this range, inside those around,
or a note on an activity that was entered before the end of the range. -/
def Within (around : List Activity) (first last : Nat) : Event → Prop
  | entered entry => entry.Within around first last
  | noted _ _ activity => activity.serial < last
  | left entry _ => entry.Within around first last

/-- So it is in a larger range. -/
theorem Within.mono {around : List Activity} {event : Event} {first last first' last' : Nat}
    (h : event.Within around first last) (hfirst : first' ≤ first) (hlast : last ≤ last') :
    event.Within around first' last' := by
  cases event with
  | entered _ => exact Entry.Within.mono h hfirst hlast
  | noted _ _ _ => exact Nat.lt_of_lt_of_le h hlast
  | left _ _ => exact Entry.Within.mono h hfirst hlast

/-- Events within an activity are within those around it. -/
theorem Within.of_cons {activity : Activity} {around : List Activity} {event : Event}
    {last : Nat} (h : event.Within (activity :: around) (activity.serial + 1) last)
    (hlast : activity.serial < last) : event.Within around activity.serial last := by
  cases event with
  | entered _ => exact Entry.Within.of_cons h hlast
  | noted _ _ _ => exact h
  | left _ _ => exact Entry.Within.of_cons h hlast

variable {events : List Event} {around : List Activity} {first last : Nat}

/-- The activities of such events were entered in the range. -/
theorem within_of_mem_entries (hevents : ∀ event ∈ events, event.Within around first last)
    {entry : Entry} (h : entry ∈ entries events) : entry.Within around first last := by
  obtain ⟨event, hevent, hentry⟩ := List.mem_filterMap.1 h
  cases event with
  | entered _ =>
    cases hentry
    exact hevents _ hevent
  | noted _ _ _ => cases hentry
  | left _ _ => cases hentry

/-- So were the traced owners that were left. -/
theorem within_of_mem_leftCalls (hevents : ∀ event ∈ events, event.Within around first last)
    {entry : Entry} (h : entry ∈ leftCalls events) : entry.Within around first last := by
  obtain ⟨event, hevent, hentry⟩ := List.mem_filterMap.1 h
  cases event with
  | entered _ => cases hentry
  | noted _ _ _ => cases hentry
  | left other _ =>
    rw [leftCall?] at hentry
    split at hentry
    · cases hentry
      exact hevents _ hevent
    · cases hentry

/-- No span is directly within that of an activity which is neither in the range nor the
owner around. -/
theorem children_eq_nil (hevents : ∀ event ∈ events, event.Within around first last)
    {parent : Activity} (hrange : ¬(first ≤ parent.serial ∧ parent.serial < last))
    (howner : Activity.owner around ≠ some parent) : children events parent = [] := by
  refine List.filter_eq_nil_iff.2 fun entry hentry hchild => ?_
  have hwithin := within_of_mem_entries hevents hentry
  exact hwithin.owner_ne hrange howner (Entry.owner_of_isChildOf hchild)

/-- Nothing is part of the span of such a traced one. -/
theorem blocks_eq_nil (hevents : ∀ event ∈ events, event.Within around first last)
    {call : Activity} (hrange : ¬(first ≤ call.serial ∧ call.serial < last))
    (howner : Activity.ownerCall around ≠ some call) : blocks events call = [] := by
  refine List.filter_eq_nil_iff.2 fun entry hentry hblock => ?_
  have hwithin := within_of_mem_entries hevents hentry
  exact hwithin.ownerCall_ne hrange howner (Entry.ownerCall_of_isBlockOf hblock)

end Event

end ModelTagging
