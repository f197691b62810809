import ModelTagging.Session.Observation

/-!
# Actions of a session

A session is what lasts while a host works with the library: the state of
telemetry and of logging, the spans that the host holds on to, and what has been
logged and seen so far. An action may fail and may change the session, and it does
both independently: what it changed before it failed stays changed.
-/

namespace ModelTagging

/-- What lasts from one action to the next. -/
structure Session where
  /-- The state of span telemetry. -/
  telemetry : Telemetry
  /-- The numbers of the spans that the host holds on to. -/
  held : Held Nat
  /-- The state of logging. -/
  logging : Logging
  /-- The records made so far. -/
  records : List LogRecord
  /-- Whether the host collects structured records in the first place. -/
  collects : Bool
  /-- Whether the host collects structured records now. -/
  collecting : Bool
  /-- The structured records that the host has collected so far. -/
  collected : List LogRecord
  /-- The lines written so far. -/
  lines : List LogLine
  /-- What the host has seen so far. -/
  observations : List Observation

namespace Session

/-- The session before anything happened. -/
def initial (collects : Bool) : Session :=
  ⟨.initial, fun _ => none, .initial, [], collects, collects, [], [], []⟩

/-- Whether the host collects a record. -/
def takes (session : Session) (record : LogRecord) : Bool :=
  session.collecting && record.isStructured

/-- Make a log record. One that the host collects is not written. -/
def log (record : LogRecord) (session : Session) : Session :=
  { session with
    records := session.records ++ [record]
    collected := session.collected ++ if session.takes record then [record] else []
    lines := session.lines ++
      if session.takes record then [] else session.logging.lines record }

/-- Why a host cannot have a record logged. A structured record that goes
through the channels cannot have a source of its own, and one that goes past
them must have text where its lines are to be shown. -/
def misuse? (session : Session) (record : LogRecord) : Option LogMisuse :=
  match record.takenName? with
  | some name => some (.takenName name)
  | none =>
    if session.takes record then none
    else if session.logging.routesStructured then
      if record.namesSource then some .unknownSource else none
    else (LogText.notText? record.directFields).map .notText

/-- Configure logging. From then on structured records go through the channels
and are not collected by the host. -/
def configure (options : LogOptions) (session : Session) : LogHandler × Session :=
  let (handler, logging) := session.logging.configure options
  (handler, { session with logging := logging, collecting := false })

/-- Let the host see something. -/
def observe (observation : Observation) (session : Session) : Session :=
  { session with observations := session.observations ++ [observation] }

/-- Change the state of telemetry. -/
def onTelemetry (change : Telemetry → Telemetry) (session : Session) : Session :=
  { session with telemetry := change session.telemetry }

/-- Let the host hold on to a span, if it has a name for it. -/
def hold (name : Option String) (span : Option Nat) (session : Session) : Session :=
  { session with held := session.held.keep name span }

end Session

/-- Something to do in a session, with a result or a failure. -/
abbrev Action (ε α : Type) := Attempt Session ε α

namespace Action

variable {ε ε' α : Type}

/-- Hand on a result or a failure. -/
def ofExcept (result : Except ε α) : Action ε α :=
  Attempt.ofOutcome fun session => (result, session)

/-- The action with its failures seen as others. -/
def mapError (f : ε → ε') (action : Action ε α) : Action ε' α :=
  Attempt.ofOutcome fun session =>
    let (result, after) := action.outcome session
    (result.mapError f, after)

/-- Change the session. -/
def change (f : Session → Session) : Action ε Unit :=
  Attempt.ofOutcome fun session => (.ok (), f session)

/-- Make a log record. -/
def log (record : LogRecord) : Action ε Unit := change (Session.log record)

/-- Let the host see something. -/
def observe (observation : Observation) : Action ε Unit := change (Session.observe observation)

/-- Look at the session. -/
def look (view : Session → α) : Action ε α :=
  Attempt.ofOutcome fun session => (.ok (view session), session)

/-- Note something on a span, if there is one. -/
def annotate (span : Option Nat) (key : String) (value : Value) : Action ε Unit :=
  change (Session.onTelemetry (Telemetry.annotate span key value))

/-- Let the host hold on to a span, if it has a name for it. -/
def hold (name : Option String) (span : Option Nat) : Action ε Unit :=
  change (Session.hold name span)

/-- Do something in a span of its own within the active span. What is done is handed
the new span. Without an active span there is no new one either. -/
def inSpan (name : String) (body : Option Nat → Action ε α) : Action ε α :=
  Attempt.ofOutcome fun session =>
    match session.telemetry.active with
    | none => (body none).outcome session
    | some parent =>
      let (result, after) := (body (some session.telemetry.next)).outcome
        (session.onTelemetry (Telemetry.enter (some parent) name))
      (result, after.onTelemetry (Telemetry.restore session.telemetry.current))

/-- The logger of span telemetry. -/
def spanLogger : String := "modeldeco.services.telemetry"

/-- The record of a finished outermost span, which shows the span as it is then. -/
def spanRecord (succeeded : Bool) (span : Span) : LogRecord :=
  ⟨spanLogger, .debug, "span.complete", some (("ok", .bool succeeded) :: span.toFields), false⟩

/-- Make the span that was innermost before a finished one so again, and make the record
of the finished one. -/
def finishRoot (outer : Option Nat) (root : Nat) (succeeded : Bool) (session : Session) :
    Session :=
  let finished := session.onTelemetry (Telemetry.restore outer)
  match session.telemetry.read root with
  | some span => finished.log (spanRecord succeeded span)
  | none => finished

/-- Whether a result is no failure. -/
def succeeds : Except ε α → Bool
  | .ok _ => true
  | .error _ => false

/-- Do something in a new outermost span, which is logged when it ends. The
span that was innermost before is so again afterwards. With telemetry off
there is no span. -/
def traced (name : String) (body : Action ε α) : Action ε α :=
  Attempt.ofOutcome fun session =>
    if session.telemetry.enabled then
      let (result, after) := body.outcome (session.onTelemetry (Telemetry.enter none name))
      (result, finishRoot session.telemetry.current session.telemetry.next (succeeds result) after)
    else body.outcome session

end Action

end ModelTagging
