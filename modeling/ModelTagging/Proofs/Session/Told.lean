import ModelTagging.Session.Decorate

/-!
# What actions tell

An action of the library logs records and changes the state of telemetry, and both
are the same in every session. This is kept track of in one statement about an
action, which goes along with doing one thing after the other, with spans and with
outermost spans. Observations of a host and its handlers are not touched by such
actions and are no subject here.
-/

namespace ModelTagging

namespace Session

/-- Make some log records, one after the other. -/
def logAll (records : List LogRecord) (session : Session) : Session :=
  records.foldl (fun session record => session.log record) session

/-- Records are made in their order. -/
theorem logAll_append (first second : List LogRecord) (session : Session) :
    session.logAll (first ++ second) = (session.logAll first).logAll second :=
  List.foldl_append

/-- Records are added after those made before. -/
@[simp] theorem records_logAll (records : List LogRecord) (session : Session) :
    (session.logAll records).records = session.records ++ records := by
  induction records generalizing session with
  | nil => exact (List.append_nil _).symm
  | cons record rest ih =>
    have hfirst : (session.log record).records = session.records ++ [record] := rfl
    have hrest := ih (session.log record)
    rw [hfirst, List.append_assoc, List.singleton_append] at hrest
    exact hrest

/-- Making records leaves telemetry alone. -/
@[simp] theorem telemetry_logAll (records : List LogRecord) (session : Session) :
    (session.logAll records).telemetry = session.telemetry := by
  induction records generalizing session with
  | nil => rfl
  | cons record rest ih => exact ih (session.log record)

/-- A change of telemetry can be made before the records or after them. -/
theorem onTelemetry_logAll (change : Telemetry → Telemetry) (records : List LogRecord)
    (session : Session) :
    (session.logAll records).onTelemetry change = (session.onTelemetry change).logAll records := by
  induction records generalizing session with
  | nil => rfl
  | cons record rest ih => exact ih (session.log record)

end Session

/-- The first item after some others is the one at the place that they leave. -/
theorem modify_length_append {α : Type} (old : List α) (item : α) (rest : List α)
    (change : α → α) :
    (old ++ item :: rest).modify old.length change = old ++ change item :: rest := by
  induction old with
  | nil => rfl
  | cons first old ih =>
    rw [List.cons_append, List.length_cons, List.modify_succ_cons, ih, List.cons_append]

/-- A span of this name with these notes and with none within it. -/
def Span.leaf (stage : String × Fields) : Span := ⟨stage.1, stage.2, []⟩

/-- It is kept with no numbers. -/
def KeptSpan.leaf (stage : String × Fields) : KeptSpan := ⟨stage.1, stage.2, []⟩

namespace Telemetry

/-- The change that a span of this name makes whose work, which is handed the span, makes
the given one. -/
def within (name : String) (change : Option Nat → Telemetry → Telemetry)
    (telemetry : Telemetry) : Telemetry :=
  match telemetry.active with
  | none => change none telemetry
  | some parent =>
    (change (some telemetry.next) (telemetry.enter (some parent) name)).restore telemetry.current

/-- The change that a span makes which gets this name and these notes, and none within
it. -/
def host (stage : String × Fields) (telemetry : Telemetry) : Telemetry :=
  match telemetry.active with
  | none => telemetry
  | some parent =>
    { telemetry with
      spans := (telemetry.update (some parent) (.adopt telemetry.next)).spans ++ [.leaf stage] }

/-- The change that several such spans make, one after the other. -/
def hostAll (stages : List (String × Fields)) (telemetry : Telemetry) : Telemetry :=
  stages.foldl (fun telemetry stage => telemetry.host stage) telemetry

/-- With telemetry off nothing is hosted. -/
theorem hostAll_of_disabled {telemetry : Telemetry} (h : telemetry.enabled = false)
    (stages : List (String × Fields)) : telemetry.hostAll stages = telemetry := by
  induction stages with
  | nil => rfl
  | cons stage rest ih =>
    have hfirst : telemetry.host stage = telemetry := by simp [host, active, h]
    rw [hostAll, List.foldl_cons, hfirst]
    exact ih

/-- Hosting switches telemetry neither on nor off, and the innermost open span stays. -/
theorem host_frame (stage : String × Fields) (telemetry : Telemetry) :
    (telemetry.host stage).enabled = telemetry.enabled ∧
      (telemetry.host stage).current = telemetry.current := by
  unfold host
  cases telemetry.active <;> exact ⟨rfl, rfl⟩

/-- So it is with several. -/
theorem enabled_hostAll (stages : List (String × Fields)) (telemetry : Telemetry) :
    (telemetry.hostAll stages).enabled = telemetry.enabled := by
  induction stages generalizing telemetry with
  | nil => rfl
  | cons stage rest ih => exact (ih (telemetry.host stage)).trans (host_frame stage telemetry).1

/-- A span as it is kept with these stages within it, which follow it. -/
def staged (name : String) (root : Nat) (stages : List (String × Fields)) : List KeptSpan :=
  ⟨name, [], List.range' (root + 1) stages.length⟩ :: stages.map .leaf

/-- With telemetry on the innermost open span gets all of them within it. -/
theorem spans_hostAll {telemetry : Telemetry} {old : List KeptSpan} {name : String}
    {done : List (String × Fields)} (henabled : telemetry.enabled = true)
    (hcurrent : telemetry.current = some old.length)
    (hspans : telemetry.spans = old ++ staged name old.length done)
    (stages : List (String × Fields)) :
    (telemetry.hostAll stages).spans = old ++ staged name old.length (done ++ stages) := by
  induction stages generalizing telemetry done with
  | nil => simpa [hostAll] using hspans
  | cons stage rest ih =>
    have hactive : telemetry.active = some old.length := by simp [active, henabled, hcurrent]
    have hnext : telemetry.next = old.length + 1 + done.length := by
      rw [next, hspans, staged, List.length_append, List.length_cons, List.length_map]
      omega
    have hhosted : (telemetry.host stage).spans =
        old ++ staged name old.length (done ++ [stage]) := by
      simp only [host, hactive, update]
      rw [hspans, staged, modify_length_append, hnext, KeptSpan.adopt, ← List.range'_1_concat]
      simp [staged]
    have hrest := ih ((host_frame stage telemetry).1.trans henabled)
      ((host_frame stage telemetry).2.trans hcurrent) hhosted
    rw [List.append_cons]
    exact hrest

/-- It is then read off with them within it. -/
theorem read_of_staged {telemetry : Telemetry} {old : List KeptSpan} {name : String}
    {stages : List (String × Fields)}
    (h : telemetry.spans = old ++ staged name old.length stages) :
    telemetry.read old.length = some ⟨name, [], stages.map .leaf⟩ := by
  have hroot : telemetry.spans[old.length]? =
      some ⟨name, [], List.range' (old.length + 1) stages.length⟩ := by
    simp [h, staged]
  refine read_eq_some hroot (List.ext_getElem (by simp) fun i hi hi' => ?_)
  have hstage : i < stages.length := by simpa using hi
  have hkept : telemetry.spans[old.length + 1 + i]? = some (.leaf stages[i]) := by
    rw [h, List.getElem?_append_right (by omega), Nat.add_assoc, Nat.add_sub_cancel_left,
      Nat.add_comm 1 i, staged, List.getElem?_cons_succ, List.getElem?_map,
      List.getElem?_eq_getElem hstage, Option.map_some]
  have hleaf : telemetry.read (old.length + 1 + i) = some (.leaf stages[i]) :=
    read_eq_some hkept rfl
  simp [hleaf]
  omega

end Telemetry

namespace Action

variable {ε ε' α β : Type}

/-- In every session the action comes to this result, makes this change of telemetry
and makes these records. -/
def Tells (action : Action ε α) (result : Except ε α) (records : List LogRecord)
    (change : Telemetry → Telemetry) : Prop :=
  ∀ session, action.outcome session = (result, (session.onTelemetry change).logAll records)

/-- After a success the next action tells what it does. -/
theorem Tells.bind {first : Action ε α} {next : α → Action ε β} {a : α}
    {result : Except ε β} {records records' : List LogRecord}
    {change change' : Telemetry → Telemetry} (hfirst : Tells first (.ok a) records change)
    (hnext : Tells (next a) result records' change') :
    Tells (first >>= next) result (records ++ records') (change' ∘ change) := by
  intro session
  rw [Attempt.outcome_bind, hfirst]
  dsimp only
  rw [hnext, Session.onTelemetry_logAll, Session.logAll_append]
  rfl

/-- After a failure nothing more is told. -/
theorem Tells.bind_error {first : Action ε α} {error : ε} {records : List LogRecord}
    {change : Telemetry → Telemetry} (hfirst : Tells first (.error error) records change)
    (next : α → Action ε β) : Tells (first >>= next) (.error error) records change := by
  intro session
  rw [Attempt.outcome_bind, hfirst]

/-- Seeing failures as others changes nothing of what is told. -/
theorem Tells.mapError {action : Action ε α} {result : Except ε α} {records : List LogRecord}
    {change : Telemetry → Telemetry} (h : Tells action result records change) (f : ε → ε') :
    Tells (action.mapError f) (result.mapError f) records change := by
  intro session
  have hmapped : (action.mapError f).outcome session =
      ((action.outcome session).1.mapError f, (action.outcome session).2) := rfl
  rw [hmapped, h]

/-- A span tells what its work does. -/
theorem Tells.inSpan {body : Option Nat → Action ε α} {result : Except ε α}
    {records : List LogRecord} {change : Option Nat → Telemetry → Telemetry}
    (h : ∀ span, Tells (body span) result records (change span)) (name : String) :
    Tells (inSpan name body) result records (Telemetry.within name change) := by
  intro session
  unfold Action.inSpan
  rw [Attempt.outcome_ofOutcome]
  cases hactive : session.telemetry.active with
  | none =>
    have hchange : session.onTelemetry (Telemetry.within name change) =
        session.onTelemetry (change none) := by
      simp [Session.onTelemetry, Telemetry.within, hactive]
    rw [hchange]
    exact h none session
  | some parent =>
    have hchange : session.onTelemetry (Telemetry.within name change) =
        ((session.onTelemetry (Telemetry.enter (some parent) name)).onTelemetry
          (change (some session.telemetry.next))).onTelemetry
            (Telemetry.restore session.telemetry.current) := by
      simp [Session.onTelemetry, Telemetry.within, hactive]
    dsimp only
    rw [h, hchange, Session.onTelemetry_logAll]

/-- A traced action whose work goes through stages leaves telemetry switched as it was
and the innermost open span what it was. With telemetry on it tells last of its own
span with the stages in it, and with telemetry off it tells of no span. -/
theorem Tells.traced {body : Action ε α} {result : Except ε α} {records : List LogRecord}
    {stages : List (String × Fields)} (h : Tells body result records (Telemetry.hostAll stages))
    (name : String) (session : Session) :
    ((traced name body).outcome session).1 = result ∧
      ((traced name body).outcome session).2.telemetry.enabled = session.telemetry.enabled ∧
      ((traced name body).outcome session).2.telemetry.current = session.telemetry.current ∧
      ((traced name body).outcome session).2.records = session.records ++ (records ++
        if session.telemetry.enabled then
          [spanRecord (succeeds result) ⟨name, [], stages.map .leaf⟩] else []) := by
  unfold Action.traced
  rw [Attempt.outcome_ofOutcome]
  cases henabled : session.telemetry.enabled with
  | false =>
    have hsame : session.onTelemetry (Telemetry.hostAll stages) = session := by
      rw [Session.onTelemetry, Telemetry.hostAll_of_disabled henabled]
    simp [h session, hsame, henabled]
  | true =>
    have htelemetry : (((session.onTelemetry (Telemetry.enter none name)).onTelemetry
        (Telemetry.hostAll stages)).logAll records).telemetry =
          (session.telemetry.enter none name).hostAll stages := Session.telemetry_logAll _ _
    have hstaged : ((session.telemetry.enter none name).hostAll stages).spans =
        session.telemetry.spans ++
          Telemetry.staged name session.telemetry.spans.length ([] ++ stages) :=
      Telemetry.spans_hostAll (by exact henabled) rfl rfl stages
    have hroot : (((session.onTelemetry (Telemetry.enter none name)).onTelemetry
        (Telemetry.hostAll stages)).logAll records).telemetry.read session.telemetry.next =
          some ⟨name, [], stages.map .leaf⟩ := by
      rw [htelemetry]
      exact Telemetry.read_of_staged hstaged
    have hrecords : (((session.onTelemetry (Telemetry.enter none name)).onTelemetry
        (Telemetry.hostAll stages)).logAll records).records = session.records ++ records :=
      Session.records_logAll records _
    rw [if_pos rfl, h]
    dsimp only
    rw [finishRoot, hroot]
    dsimp only
    refine ⟨rfl, ?_, rfl, ?_⟩
    · have henabled' := Telemetry.enabled_hostAll stages (session.telemetry.enter none name)
      rw [← htelemetry] at henabled'
      exact henabled'.trans henabled
    · rw [if_pos rfl, ← List.append_assoc, ← hrecords]
      rfl

/-- In every session the action comes to this result, leaves telemetry alone and makes
the same records, each of which has the property. -/
def Reports (action : Action ε α) (result : Except ε α) (p : LogRecord → Prop) : Prop :=
  ∃ records, (∀ record ∈ records, p record) ∧ Tells action result records id

variable {p : LogRecord → Prop}

/-- The results of one action after another are those of both in turn. -/
theorem Reports.bind {first : Action ε α} {next : α → Action ε β} {result : Except ε α}
    {results : α → Except ε β} (hfirst : Reports first result p)
    (hnext : ∀ a, Reports (next a) (results a) p) :
    Reports (first >>= next) (result >>= results) p := by
  obtain ⟨records, hrecords, htells⟩ := hfirst
  cases result with
  | error error => exact ⟨records, hrecords, htells.bind_error next⟩
  | ok a =>
    obtain ⟨records', hrecords', htells'⟩ := hnext a
    exact ⟨records ++ records', List.forall_mem_append.2 ⟨hrecords, hrecords'⟩,
      htells.bind htells'⟩

/-- Seeing failures as others makes no record. -/
theorem Reports.mapError {action : Action ε α} {result : Except ε α}
    (h : Reports action result p) (f : ε → ε') :
    Reports (action.mapError f) (result.mapError f) p := by
  obtain ⟨records, hrecords, htells⟩ := h
  exact ⟨records, hrecords, htells.mapError f⟩

end Action

end ModelTagging
