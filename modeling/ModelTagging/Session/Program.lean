import ModelTagging.Session.Decorate

/-!
# Programs of a host

What a host may do with the library, as data: switch telemetry, run activities
that are traced or are spans of their own, note something on a span, be it the
active one or one that the host holds on to, give up and recover, decorate
models, and configure and use logging. A program is a list of steps; each of its
outermost steps is reported on its own, and the session goes on after a step
that ended early.
-/

namespace ModelTagging

/-- One thing a host does. -/
inductive Step where
  /-- Switch telemetry on or off. -/
  | telemetry (on : Bool)
  /-- Run a traced activity that returns a value. -/
  | traced (name : String) (body : List Step) (returns : Value)
  /-- Run an activity in a span of its own, and hold on to that span if there is a
  name for it. -/
  | span (name : String) (body : List Step) (held : Option String := none)
  /-- Note something on the active span. -/
  | annotate (key : String) (value : Value)
  /-- Hold on to the active span under a name. -/
  | hold (held : String)
  /-- Note something on the span that is held under a name. -/
  | annotateHeld (held : String) (key : String) (value : Value)
  /-- Look at the active span. -/
  | current
  /-- Give up. -/
  | throw (message : String)
  /-- Run an activity and recover from giving up within it. -/
  | attempt (body : List Step)
  /-- Read a model and decorate it. -/
  | decorate (model document options : Value)
  /-- Check a command set against a registered model. -/
  | check (model document : Value)
  /-- Configure logging. -/
  | configure (options : Value)
  /-- Read settings and apply them. -/
  | applySettings (environment : List (String × String)) (given : Fields)
  /-- Attach a silent handler of the host. -/
  | attachForeign
  /-- Make a plain log record, or a structured one with further fields, under a
  word for its severity. -/
  | log (logger word event : String) (fields : Option Value)
  deriving Inhabited

namespace Action

/-- Run an action and take its failure as a result. -/
def settle {ε ε' α : Type} (action : Action ε α) : Action ε' (Except ε α) :=
  Attempt.ofOutcome fun session =>
    let (result, after) := action.outcome session
    (.ok result, after)

/-- Note something on a span that is found in the session, and see whether there is
one. -/
def noteOn (find : Session → Option Nat) (key : String) (value : Value) :
    Action Interruption Unit := do
  let span ← look find
  annotate span key value
  observe (.annotated span.isSome)

/-- Read a model and register it. -/
def registeredModel (model : Value) : Action Interruption Registry :=
  (Registry.registeringValue model).mapError .model

/-- Read options; when no option is given, nothing is checked. -/
def readOptions (value : Value) : Action Interruption Options :=
  if value.holds then ofExcept ((Options.read value).toExcept.mapError .options)
  else return .unchecked

/-- Decorate a model and see its namespaces. -/
def decorateModel (model document options : Value) : Action Interruption Unit := do
  let registry ← registeredModel model
  let options ← readOptions options
  let result ← settle (registry.decorating (.document document) options)
  observe (.decorated (result.map Registry.namespaces))

/-- Check a command set against a model and see the name of the set. A model
that cannot be joined with the built-in namespaces ends the activity. -/
def checkDocument (model document : Value) : Action Interruption Unit := do
  let registry ← registeredModel model
  let joined ← registry.joiningBuiltin.mapError .model
  let result ← settle (CommandSet.checking joined (.document document))
  observe (.checked (result.map CommandSet.name))

/-- Configure logging and see its state. -/
def configureLogging (options : LogOptions) : Action Interruption Unit :=
  change fun session =>
    let (handler, after) := session.configure options
    after.observe (.configured after.logging.status (after.logging.owned == [handler]))

/-- Apply settings to logging and telemetry. -/
def applySettings (settings : Settings) : Action Interruption Unit := change fun session =>
  (session.configure ⟨settings.verbose, settings.logJson⟩).2.onTelemetry
    (Telemetry.switch settings.verbose)

/-- See the state that applied settings led to. -/
def observeApplied (settings : Settings) : Action Interruption Unit := change fun session =>
  session.observe (.applied settings session.telemetry.enabled session.logging.status)

/-- Make a record of the host. -/
def logFromHost (record : LogRecord) : Action Interruption Unit := do
  match ← look fun session => session.misuse? record with
  | some misuse => ofExcept (.error (.log misuse))
  | none => log record

/-- Recover from giving up, and see the message. -/
def recover (body : Action Interruption Unit) : Action Interruption Unit := do
  match ← settle body with
  | .error (.thrown message) => observe (.caught message)
  | .error other => ofExcept (.error other)
  | .ok () => return

end Action

namespace Step

mutual

/-- What doing a step comes to. -/
def action : Step → Action Interruption Unit
  | .telemetry on => .change (Session.onTelemetry (Telemetry.switch on))
  | .traced name body returns => do
    Action.traced name (actions body)
    Action.observe (.returned returns)
  | .span name body held => do
    let outer ← Action.look fun session => session.telemetry.activeName
    Action.inSpan name fun span => do
      Action.hold held span
      Action.observe (.entered (outer.map fun outerName => (name, outerName)))
      actions body
  | .annotate key value => .noteOn (fun session => session.telemetry.active) key value
  | .hold held => do
    let active ← Action.look fun session => session.telemetry.active
    Action.hold (some held) active
  | .annotateHeld held key value => .noteOn (fun session => session.held held) key value
  | .current => do
    let active ← Action.look fun session => session.telemetry.activeSpan
    Action.observe (.current active)
  | .throw message => .ofExcept (.error (.thrown message))
  | .attempt body => .recover (actions body)
  | .decorate model document options => .decorateModel model document options
  | .check model document => .checkDocument model document
  | .configure options => do
    let options ← Action.ofExcept ((LogOptions.ofValue options).mapError .log)
    Action.configureLogging options
  | .applySettings environment given => do
    let settings ← Action.ofExcept ((Settings.read environment given).mapError .settings)
    Action.applySettings settings
    Action.observeApplied settings
  | .attachForeign => do
    .change fun session => { session with logging := session.logging.attachForeign }
    let status ← Action.look fun session => session.logging.status
    Action.observe (.handlers status)
  | .log logger word event fields => do
    let record ← Action.ofExcept ((LogRecord.ofWord logger word event fields).mapError .log)
    Action.logFromHost record

/-- What doing steps one after the other comes to. -/
def actions : List Step → Action Interruption Unit
  | [] => return
  | step :: rest => do
    step.action
    actions rest

end

end Step

/-- What came of one outermost step. -/
structure StepReport where
  /-- What the host saw. -/
  observations : List Observation
  /-- The structured records that the host collected. -/
  collected : List LogRecord
  /-- The lines that were written. -/
  lines : List LogLine
  /-- Why the step ended early, if it did. -/
  interruption : Option Interruption

namespace Session

/-- The session with nothing logged and nothing seen yet. A host that collects
structured records does so anew. -/
def cleared (session : Session) : Session :=
  { session with
    records := []
    collecting := session.collects
    collected := []
    lines := []
    observations := [] }

/-- Do one outermost step and report on it. -/
def report (session : Session) (step : Step) : StepReport × Session :=
  let (result, after) := step.action.outcome session.cleared
  (⟨after.observations, after.collected, after.lines,
    match result with
    | .ok () => none
    | .error interruption => some interruption⟩, after)

/-- Do the steps of a program and report on each. -/
def reports (session : Session) : List Step → List StepReport
  | [] => []
  | step :: rest =>
    let (first, after) := session.report step
    first :: after.reports rest

end Session

end ModelTagging
