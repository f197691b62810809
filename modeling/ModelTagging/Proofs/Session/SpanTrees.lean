import ModelTagging.Proofs.Session.History

/-!
# Trees of spans

The activities whose spans are within that of a traced one form a tree: each stands
directly within the span of its owner, and in the tree they stand in the order in which
they were entered. Main statement: what is done while a traced activity is under way adds
such trees to the span of the owner around, and they have all that was added to the span
of the traced one.
-/

namespace ModelTagging

/-- The fields with some notes put among them, one after the other. -/
def Fields.putAll (notes fields : Fields) : Fields :=
  notes.foldl (fun fields note => Fields.put note.1 note.2 fields) fields

/-- An activity with a span, and those whose spans are within. -/
inductive SpanTree where
  | node (entry : Entry) (within : List SpanTree)

namespace SpanTree

/-- The activity that the others are within. -/
def root : SpanTree → Entry
  | node entry _ => entry

mutual

/-- The activities of a tree, each before those within. -/
def entries : SpanTree → List Entry
  | node entry within => entry :: entriesAll within

/-- The activities of some trees, in their order. -/
def entriesAll : List SpanTree → List Entry
  | [] => []
  | tree :: rest => tree.entries ++ entriesAll rest

end

mutual

/-- The span of a tree, with the notes among these events. -/
def span (events : List Event) : SpanTree → Span
  | node entry within =>
    ⟨entry.activity.name, Fields.putAll (Event.notes events entry.activity) [],
      spans events within⟩

/-- The spans of some trees. -/
def spans (events : List Event) : List SpanTree → List Span
  | [] => []
  | tree :: rest => tree.span events :: spans events rest

end

mutual

/-- The tree stands directly within the span of an activity: it begins with one that
has this owner, and the others stand within that one likewise. -/
def StandsIn (parent : Activity) : SpanTree → Prop
  | node entry within =>
    Activity.owner entry.around = some parent ∧ AllStandIn entry.activity within

/-- All of these trees stand directly within the span of an activity. -/
def AllStandIn (parent : Activity) : List SpanTree → Prop
  | [] => True
  | tree :: rest => tree.StandsIn parent ∧ AllStandIn parent rest

end

mutual

/-- The tree has directly within each activity those that the events put there. -/
def Mirrors (events : List Event) : SpanTree → Prop
  | node entry within =>
    Event.children events entry.activity = within.map root ∧ AllMirror events within

/-- All of these trees have those. -/
def AllMirror (events : List Event) : List SpanTree → Prop
  | [] => True
  | tree :: rest => tree.Mirrors events ∧ AllMirror events rest

end

/-- The activities of more trees come after those of the first. -/
theorem entriesAll_append (first second : List SpanTree) :
    entriesAll (first ++ second) = entriesAll first ++ entriesAll second := by
  induction first with
  | nil => rfl
  | cons tree rest ih => simp [entriesAll, ih]

/-- More trees stand within an activity if all of them do. -/
theorem AllStandIn.append {parent : Activity} {first second : List SpanTree}
    (hfirst : AllStandIn parent first) (hsecond : AllStandIn parent second) :
    AllStandIn parent (first ++ second) := by
  induction first with
  | nil => exact hsecond
  | cons tree rest ih => exact ⟨hfirst.1, ih hfirst.2⟩

/-- More trees have what the events put there if all of them do. -/
theorem AllMirror.append {events : List Event} {first second : List SpanTree}
    (hfirst : AllMirror events first) (hsecond : AllMirror events second) :
    AllMirror events (first ++ second) := by
  induction first with
  | nil => exact hsecond
  | cons tree rest ih => exact ⟨hfirst.1, ih hfirst.2⟩

mutual

/-- Whether a tree has what the events put there depends only on what they put within its
activities. -/
theorem Mirrors.congr {events events' : List Event} {tree : SpanTree}
    (h : tree.Mirrors events) (hsame : ∀ entry ∈ tree.entries,
      Event.children events' entry.activity = Event.children events entry.activity) :
    tree.Mirrors events' :=
  match tree, h, hsame with
  | node entry within, h, hsame => by
    rw [entries, List.forall_mem_cons] at hsame
    exact ⟨hsame.1.trans h.1, h.2.congr hsame.2⟩

/-- So it is with several trees. -/
theorem AllMirror.congr {events events' : List Event} {trees : List SpanTree}
    (h : AllMirror events trees) (hsame : ∀ entry ∈ entriesAll trees,
      Event.children events' entry.activity = Event.children events entry.activity) :
    AllMirror events' trees :=
  match trees, h, hsame with
  | [], _, _ => trivial
  | tree :: rest, h, hsame => by
    rw [entriesAll, List.forall_mem_append] at hsame
    exact ⟨h.1.congr hsame.1, AllMirror.congr h.2 hsame.2⟩

end

end SpanTree

/-! ## What a history adds to the spans around it -/

namespace History

open Activity Event SpanTree

/-- Within the span of the owner around there are new trees. They have the activities that
are new in the span of the traced one around, as they were entered, each directly within
its owner, and nothing else is within any of them. -/
def Grows (around : List Activity) (history : History) : Prop :=
  ∀ {call parent : Activity}, ownerCall around = some call → owner around = some parent →
    ∃ within, entriesAll within = blocks history.events call ∧ AllStandIn parent within ∧
      children history.events parent = within.map root ∧ AllMirror history.events within

variable {around : List Activity} {moment : Moment}

/-- Where nothing is entered nothing is added. -/
theorem grows_of_entries_eq_nil {history : History} (h : entries history.events = []) :
    history.Grows around := by
  intro call parent _ _
  refine ⟨[], ?_, trivial, ?_, trivial⟩
  · rw [blocks, h]
    rfl
  · rw [children, h]
    rfl

/-- Activities that are part of a span were entered in the history. -/
theorem Sound.serial_of_mem_blocks {history : History} (h : history.Sound around moment)
    {call : Activity} {entry : Entry} (hentry : entry ∈ blocks history.events call) :
    moment.entered ≤ entry.activity.serial ∧
      entry.activity.serial < history.after.entered :=
  (within_of_mem_entries h.within (List.mem_filter.1 hentry).1).1

/-- Nothing is directly within an activity from elsewhere, unless it is the owner around. -/
theorem Sound.children_eq_nil {history : History} (h : history.Sound around moment)
    {parent : Activity}
    (hrange : ¬(moment.entered ≤ parent.serial ∧ parent.serial < history.after.entered))
    (howner : owner around ≠ some parent) : children history.events parent = [] :=
  Event.children_eq_nil h.within hrange howner

/-- An activity that is entered later is not the owner around. -/
theorem owner_ne_of_le {activity : Activity} (hfits : moment.Fits around)
    (h : moment.entered ≤ activity.serial) : owner around ≠ some activity := by
  intro howner
  have := hfits.around activity (mem_of_owner howner)
  omega

/-- What two histories add stands side by side. -/
theorem Grows.append {first second : History} (hfirst : first.Grows around)
    (hsecond : second.Grows around) (hsound : first.Sound around moment)
    (hsound' : second.Sound around first.after) (hfits : moment.Fits around) :
    (first.append second).Grows around := by
  intro call parent hcall hparent
  obtain ⟨within, hentries, hstand, hchildren, hmirror⟩ := hfirst hcall hparent
  obtain ⟨within', hentries', hstand', hchildren', hmirror'⟩ := hsecond hcall hparent
  have hle := hsound.le
  refine ⟨within ++ within', ?_, hstand.append hstand', ?_, ?_⟩
  · rw [entriesAll_append, hentries, hentries', History.append, blocks_append]
  · rw [History.append, children_append, hchildren, hchildren', List.map_append]
  · -- What is within an activity of the one history was entered in that history.
    have hleft : AllMirror (first.append second).events within := by
      refine hmirror.congr fun entry hentry => ?_
      rw [hentries] at hentry
      have hserial := hsound.serial_of_mem_blocks hentry
      have howner := owner_ne_of_le hfits hserial.1
      rw [History.append, children_append,
        hsound'.children_eq_nil (by omega) howner, List.append_nil]
    have hright : AllMirror (first.append second).events within' := by
      refine hmirror'.congr fun entry hentry => ?_
      rw [hentries'] at hentry
      have hserial := hsound'.serial_of_mem_blocks hentry
      have howner := owner_ne_of_le hfits (Nat.le_trans hle hserial.1)
      rw [History.append, children_append,
        hsound.children_eq_nil (by omega) howner, List.nil_append]
    exact hleft.append hright

section Wrapped

variable {entry : Entry} {inner : History} {inside : Moment} (haround : entry.around = around)
  (hserial : entry.activity.serial = moment.entered)
  (hinside : inside.entered = moment.entered + 1)
  (hsound : inner.Sound (entry.activity :: around) inside) (hfits : moment.Fits around)

include haround hserial hinside hsound hfits

/-- What is done inside an activity that owns a span adds nothing directly within the span
of the owner around. -/
theorem children_inner_eq_nil (howns : entry.owns = true) {parent : Activity}
    (hparent : owner around = some parent) : children inner.events parent = [] := by
  subst haround
  have hparentSerial := hfits.around parent (mem_of_owner hparent)
  refine hsound.children_eq_nil (by omega) fun hsame => ?_
  rw [Entry.owner_cons_of_owns howns] at hsame
  cases hsame
  omega

/-- A traced owner adds nothing to the span around it. -/
theorem grows_wrap_call (hcall : entry.isOwnerCall = true) :
    (inner.wrap entry).Grows around := by
  intro call parent hownerCall hparent
  have hchildren := children_inner_eq_nil haround hserial hinside hsound hfits
    (Entry.owns_of_isOwnerCall hcall) hparent
  obtain ⟨hnotBlock, -⟩ := Entry.apart_of_isOwnerCall hcall call
  obtain ⟨-, hnotChild⟩ := Entry.apart_of_isOwnerCall hcall parent
  have hcallSerial := hfits.around call (mem_of_ownerCall hownerCall)
  have hblocks : blocks inner.events call = [] := by
    subst haround
    refine blocks_eq_nil hsound.within (by omega) fun hsame => ?_
    rw [Entry.ownerCall_cons, if_pos hcall] at hsame
    cases hsame
    omega
  refine ⟨[], ?_, trivial, ?_, trivial⟩
  · rw [blocks_wrap, hnotBlock, hblocks]
    rfl
  · rw [children_wrap, hnotChild, hchildren]
    rfl

/-- Any other activity that owns a span adds that, with what is added within it. -/
theorem Grows.wrap_block (h : inner.Grows (entry.activity :: around)) (howns : entry.owns = true)
    (hblock : entry.isOwnerCall = false) : (inner.wrap entry).Grows around := by
  intro call parent hcall hparent
  have hnothing := children_inner_eq_nil haround hserial hinside hsound hfits howns hparent
  subst haround
  have hownerCall : ownerCall (entry.activity :: entry.around) = some call := by
    rw [Entry.ownerCall_cons, hblock, if_neg Bool.false_ne_true, hcall]
  obtain ⟨parent', call', hparent', hcall', hisChild, hisBlock⟩ :=
    Entry.exists_parent howns hblock
  obtain rfl := Option.some.inj (hparent'.symm.trans hparent)
  obtain rfl := Option.some.inj (hcall'.symm.trans hcall)
  obtain ⟨within, hentries, hstand, hchildren, hmirror⟩ :=
    h hownerCall (Entry.owner_cons_of_owns howns)
  -- The activity itself is not within one that is entered with it or later.
  have hnotChild (other : Activity) (hother : moment.entered ≤ other.serial) :
      children (inner.wrap entry).events other = children inner.events other := by
    have hnot : entry.isChildOf other = false := by
      rw [Bool.eq_false_iff]
      exact fun hchild => owner_ne_of_le hfits hother (Entry.owner_of_isChildOf hchild)
    rw [children_wrap, hnot]
    rfl
  refine ⟨[node entry within], ?_, ⟨⟨hparent, hstand⟩, trivial⟩, ?_, ⟨⟨?_, ?_⟩, trivial⟩⟩
  · rw [blocks_wrap, if_pos hisBlock, ← hentries]
    simp [entriesAll, SpanTree.entries]
  · rw [children_wrap, if_pos hisChild, hnothing]
    rfl
  · rw [hnotChild entry.activity (Nat.le_of_eq hserial.symm), hchildren]
  · refine hmirror.congr fun other hother => hnotChild other.activity ?_
    rw [hentries] at hother
    have := (hsound.serial_of_mem_blocks hother).1
    omega

end Wrapped

/-- An activity that owns no span adds what is added inside. -/
theorem Grows.wrap_plain {entry : Entry} {inner : History}
    (h : inner.Grows (entry.activity :: around)) (hplain : entry.owns = false)
    (haround : entry.around = around) : (inner.wrap entry).Grows around := by
  subst haround
  intro call parent hcall hparent
  have hownerCall : ownerCall (entry.activity :: entry.around) = some call := by
    rw [Entry.ownerCall_cons, Entry.isOwnerCall_of_not_owns hplain,
      if_neg Bool.false_ne_true, hcall]
  have howner : owner (entry.activity :: entry.around) = some parent := by
    rw [Entry.owner_cons_of_not_owns hplain, hparent]
  have hchildren (other : Activity) :
      children (inner.wrap entry).events other = children inner.events other := by
    rw [children_wrap, (Entry.apart_of_not_owns hplain other).2]
    rfl
  obtain ⟨within, hentries, hstand, hroots, hmirror⟩ := h hownerCall howner
  refine ⟨within, ?_, hstand, ?_, hmirror.congr fun other _ => hchildren other.activity⟩
  · rw [blocks_wrap, (Entry.apart_of_not_owns hplain call).1, hentries]
    rfl
  · rw [hchildren, hroots]

/-- What is added to spans is kept track of by all that a history is made of. -/
theorem closed_grows : Closed fun around moment history =>
    moment.Fits around → history.Sound around moment ∧ history.Grows around where
  quiet thrown h hfits := ⟨sound_quiet thrown h hfits, grows_of_entries_eq_nil rfl⟩
  noted key value h hfits := ⟨sound_noted key value h hfits, grows_of_entries_eq_nil rfl⟩
  wrapped isCall name held entry hentry h hfits := by
    obtain ⟨hsound, hgrows⟩ := h (fits_enter hentry hfits)
    have haround : entry.around = _ := congrArg Entry.around hentry
    have hserial : entry.activity.serial = _ := congrArg (fun e => e.activity.serial) hentry
    refine ⟨hsound.wrap hentry hfits, ?_⟩
    cases howns : entry.owns with
    | false => exact hgrows.wrap_plain howns haround
    | true =>
      cases hcall : entry.isOwnerCall with
      | false => exact hgrows.wrap_block haround hserial rfl hsound hfits howns hcall
      | true => exact grows_wrap_call haround hserial rfl hsound hfits hcall
  appended hfirst hsecond hfits := by
    obtain ⟨hsound, hgrows⟩ := hfirst hfits
    obtain ⟨hsound', hgrows'⟩ := hsecond hsound.fits
    exact ⟨hsound.append hsound' hfits, hgrows.append hgrows' hsound hsound' hfits⟩
  caught h hfits := by
    obtain ⟨hsound, hgrows⟩ := h hfits
    exact ⟨⟨hsound.le, hsound.fits, hsound.within, hsound.left, hsound.inner_first⟩, hgrows⟩

end History

end ModelTagging
