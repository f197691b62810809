import ModelTagging.Document.Value

/-!
# Spans

A span is a named stretch of work with annotations and the spans within it. The
spans of a session are kept in the order in which they were opened, and a span is
referred to by its place there, its number. So whoever has the number of a span can
note something on it at any time, whether it is the innermost one or not, and whether
or not spans are recorded just then. How long spans take is not kept. Main statement:
a span that is read off has the spans within it that its numbers refer to.
-/

namespace ModelTagging

/-- A span as it is shown. -/
structure Span where
  /-- The name of the work. -/
  name : String
  /-- What was noted on it. -/
  annotations : Fields
  /-- The spans within it, in the order in which they were opened. -/
  children : List Span

namespace Span

/-- A field for annotations or children, left out when there are none. -/
def unlessEmpty {α : Type} (name : String) (parts : List α) (value : Value) : Fields :=
  if parts.isEmpty then [] else [(name, value)]

mutual

/-- The fields of a span. -/
def toFields : Span → Fields
  | ⟨name, annotations, children⟩ =>
    ("name", .str name) :: unlessEmpty "annotations" annotations (.object annotations) ++
      unlessEmpty "children" children (.list (toValues children))

/-- The document values of some spans. -/
def toValues : List Span → List Value
  | [] => []
  | span :: rest => .object span.toFields :: toValues rest

end

end Span

/-- A span as it is kept, while it is open and afterwards. -/
structure KeptSpan where
  /-- The name of the work. -/
  name : String
  /-- What was noted on it so far. -/
  annotations : Fields
  /-- The numbers of the spans within it, in the order in which they were opened. -/
  children : List Nat
  deriving Inhabited

namespace KeptSpan

/-- A span that was just opened. -/
def start (name : String) : KeptSpan := ⟨name, [], []⟩

/-- The span with a note, which replaces an earlier one under the same key. -/
def annotate (key : String) (value : Value) (span : KeptSpan) : KeptSpan :=
  { span with annotations := Fields.put key value span.annotations }

/-- The span with one more span within it. -/
def adopt (child : Nat) (span : KeptSpan) : KeptSpan :=
  { span with children := span.children ++ [child] }

/-- Kept spans as they are shown, the first of them with this number. A span within
another was opened later than that one. -/
def showAll (first : Nat) : List KeptSpan → List Span
  | [] => []
  | span :: rest =>
    let later := showAll (first + 1) rest
    ⟨span.name, span.annotations, span.children.filterMap fun n =>
      if first < n then later[n - (first + 1)]? else none⟩ :: later

/-- Each of them has those spans within it that its numbers refer to. -/
theorem getElem?_showAll (spans : List KeptSpan) (first i : Nat) :
    (showAll first spans)[i]? = spans[i]?.map fun span =>
      ⟨span.name, span.annotations, span.children.filterMap fun n =>
        if first + i < n then (showAll first spans)[n - first]? else none⟩ := by
  induction spans generalizing first i with
  | nil => rfl
  | cons span rest ih =>
    -- Numbers above that of the first one refer to the same spans among the others.
    have hsame (last : Nat) (hlast : first ≤ last) :
        (fun n => if last < n then (showAll (first + 1) rest)[n - (first + 1)]? else none) =
          fun n => if last < n then (showAll first (span :: rest))[n - first]? else none := by
      funext n
      by_cases hn : last < n
      · have hplace : n - first = n - (first + 1) + 1 := by omega
        rw [if_pos hn, if_pos hn, hplace, showAll, List.getElem?_cons_succ]
      · rw [if_neg hn, if_neg hn]
    cases i with
    | zero =>
      rw [Nat.add_zero, List.getElem?_cons_zero, Option.map_some, ← hsame first (Nat.le_refl _),
        showAll, List.getElem?_cons_zero]
    | succ i =>
      have hlast : first + (i + 1) = first + 1 + i := by omega
      have hih := ih (first + 1) i
      rw [hsame (first + 1 + i) (by omega)] at hih
      rw [hlast, List.getElem?_cons_succ, ← hih, showAll, List.getElem?_cons_succ]

end KeptSpan

/-- The state of span telemetry. -/
structure Telemetry where
  /-- Whether spans are recorded. -/
  enabled : Bool
  /-- The number of the innermost open span. It stays while telemetry is switched off. -/
  current : Option Nat
  /-- All spans that were opened, each at its number. -/
  spans : List KeptSpan

namespace Telemetry

/-- Telemetry before anything happened. -/
def initial : Telemetry := ⟨false, none, []⟩

/-- The innermost open span, as long as spans are recorded. -/
def active (telemetry : Telemetry) : Option Nat :=
  if telemetry.enabled then telemetry.current else none

/-- The number of the span that is opened next. -/
def next (telemetry : Telemetry) : Nat := telemetry.spans.length

/-- Change a span, if there is one. -/
def update (span : Option Nat) (change : KeptSpan → KeptSpan) (telemetry : Telemetry) :
    Telemetry :=
  match span with
  | none => telemetry
  | some n => { telemetry with spans := telemetry.spans.modify n change }

/-- Open a span, within another one if there is one, and make it the innermost one. -/
def enter (parent : Option Nat) (name : String) (telemetry : Telemetry) : Telemetry :=
  { telemetry.update parent (.adopt telemetry.next) with
    current := some telemetry.next
    spans := (telemetry.update parent (.adopt telemetry.next)).spans ++ [.start name] }

/-- Make this the innermost open span. -/
def restore (outer : Option Nat) (telemetry : Telemetry) : Telemetry :=
  { telemetry with current := outer }

/-- Note something on a span, if there is one. -/
def annotate (span : Option Nat) (key : String) (value : Value) (telemetry : Telemetry) :
    Telemetry :=
  telemetry.update span (.annotate key value)

/-- Switch telemetry on or off. -/
def switch (on : Bool) (telemetry : Telemetry) : Telemetry := { telemetry with enabled := on }

/-- A change is one of that span only. -/
theorem getElem?_update (span : Option Nat) (change : KeptSpan → KeptSpan)
    (telemetry : Telemetry) (n : Nat) :
    (telemetry.update span change).spans[n]? =
      telemetry.spans[n]?.map fun kept => if span = some n then change kept else kept := by
  cases span with
  | none => simp [update]
  | some m => simp [update, List.getElem?_modify]

/-- It opens no span. -/
@[simp] theorem next_update (span : Option Nat) (change : KeptSpan → KeptSpan)
    (telemetry : Telemetry) : (telemetry.update span change).next = telemetry.next := by
  cases span with
  | none => rfl
  | some n => exact List.length_modify change telemetry.spans n

/-- It neither switches telemetry nor changes which span is the innermost one. -/
theorem update_frame (span : Option Nat) (change : KeptSpan → KeptSpan)
    (telemetry : Telemetry) :
    (telemetry.update span change).enabled = telemetry.enabled ∧
      (telemetry.update span change).current = telemetry.current := by
  cases span <;> exact ⟨rfl, rfl⟩

/-- Entering a span opens one. -/
@[simp] theorem next_enter (parent : Option Nat) (name : String) (telemetry : Telemetry) :
    (telemetry.enter parent name).next = telemetry.next + 1 := by
  have hnext : (telemetry.update parent (.adopt telemetry.next)).spans.length = telemetry.next :=
    next_update parent _ telemetry
  rw [enter, next, List.length_append, hnext, List.length_singleton]

/-- It is the last one. -/
theorem getElem?_enter_next (parent : Option Nat) (name : String) (telemetry : Telemetry) :
    (telemetry.enter parent name).spans[telemetry.next]? = some (.start name) := by
  have hnext : (telemetry.update parent (.adopt telemetry.next)).spans.length = telemetry.next :=
    next_update parent _ telemetry
  rw [enter, List.getElem?_append_right (Nat.le_of_eq hnext), hnext, Nat.sub_self,
    List.getElem?_cons_zero]

/-- Of the others the one around it gets its number. -/
theorem getElem?_enter_of_lt (parent : Option Nat) (name : String) {telemetry : Telemetry}
    {n : Nat} (h : n < telemetry.next) :
    (telemetry.enter parent name).spans[n]? =
      telemetry.spans[n]?.map fun kept =>
        if parent = some n then kept.adopt telemetry.next else kept := by
  have hn : n < (telemetry.update parent (.adopt telemetry.next)).spans.length := by
    have hnext := next_update parent (.adopt telemetry.next) telemetry
    rw [next] at hnext
    omega
  rw [enter, List.getElem?_append_left hn, getElem?_update]

/-- The span with this number as far as it has got. -/
def read (telemetry : Telemetry) (n : Nat) : Option Span :=
  (KeptSpan.showAll 0 telemetry.spans)[n]?

/-- A span that is read off has the spans within it that its numbers refer to. -/
theorem read_eq (telemetry : Telemetry) (n : Nat) :
    telemetry.read n = telemetry.spans[n]?.map fun span =>
      ⟨span.name, span.annotations, span.children.filterMap fun m =>
        if n < m then telemetry.read m else none⟩ := by
  rw [read, KeptSpan.getElem?_showAll]
  simp only [Nat.zero_add, Nat.sub_zero, read]

/-- It is shown with these spans within it, if each of its numbers refers to the span at
the same place among them and was given later. -/
theorem read_eq_some {telemetry : Telemetry} {n : Nat} {kept : KeptSpan} {children : List Span}
    (hkept : telemetry.spans[n]? = some kept)
    (hchildren : (kept.children.map fun m => if n < m then telemetry.read m else none) =
      children.map some) :
    telemetry.read n = some ⟨kept.name, kept.annotations, children⟩ := by
  have hshown : (kept.children.filterMap fun m => if n < m then telemetry.read m else none) =
      children := by
    have hmap := congrArg (List.filterMap id) hchildren
    rw [List.filterMap_map, List.filterMap_map] at hmap
    exact hmap.trans (List.filterMap_some)
  rw [read_eq, hkept, Option.map_some, hshown]

/-- The name of the active span. -/
def activeName (telemetry : Telemetry) : Option String :=
  telemetry.active.bind fun n => telemetry.spans[n]?.map (·.name)

/-- The active span as far as it has got. -/
def activeSpan (telemetry : Telemetry) : Option Span := telemetry.active.bind telemetry.read

end Telemetry

/-- References that are kept under names. -/
abbrev Held (α : Type) := String → Option α

namespace Held

variable {α β : Type}

/-- Keep a reference, or that there is none, under a name, if a name is given. -/
def keep (held : Held α) (name : Option String) (kept : Option α) : Held α :=
  match name with
  | none => held
  | some name => fun other => if other = name then kept else held other

/-- What is kept refers to the same after the references are seen as others. -/
theorem map_keep (f : α → β) (held : Held α) (name : Option String) (kept : Option α) :
    (fun other => (held.keep name kept other).map f) =
      keep (fun other => (held other).map f) name (kept.map f) := by
  cases name with
  | none => rfl
  | some name =>
    funext other
    by_cases h : other = name <;> simp [keep, h]

end Held

end ModelTagging
