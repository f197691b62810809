import Mathlib.Data.List.Induction
import ModelTagging.Session.Program

/-!
# Handlers of the library and of the host

Logging is set up by calls of the library, in any number and order, while the host
attaches and detaches handlers of its own on the library's channel and on the root
channel. A call takes away whatever has the name of the library's handler and puts a
new one last; a call that is refused changes nothing at all. Main statement: exactly one
handler has that name after each call, the host's handlers and the root channel are what
the host alone would have made of them, and the rest of the channel and the switch of
telemetry are as the last call wants them.
-/

namespace ModelTagging

/-! ## Swapping handlers -/

namespace LogChannel

/-- Going through handlers, those that are kept stay where they are, in front of those
that are still to come. -/
theorem handlers_foldl_detachIfNamed (name : String) {kept rest : List LogHandler}
    {channel : LogChannel} (hchannel : channel.handlers = kept ++ rest)
    (hkept : ∀ handler ∈ kept, handler.name ≠ some name) :
    (rest.foldl (detachIfNamed name) channel).handlers =
      kept ++ rest.filter (·.name ≠ some name) := by
  -- None of those kept has the name, so the first place where a handler of the name stands
  -- is the one that is gone through.
  induction rest generalizing kept channel with
  | nil => simpa using hchannel
  | cons handler rest ih =>
    rw [List.foldl_cons]
    by_cases hname : handler.name = some name
    · have hnew : handler ∉ kept := fun hmem => hkept handler hmem hname
      have hleft : (detachIfNamed name channel handler).handlers = kept ++ rest := by
        rw [detachIfNamed, if_pos hname, detach, hchannel, List.erase_append_right _ hnew,
          List.erase_cons_head]
      rw [ih hleft hkept, List.filter_cons_of_neg (by simpa using hname)]
    · have hleft : (detachIfNamed name channel handler).handlers =
          (kept ++ [handler]) ++ rest := by
        rw [detachIfNamed, if_neg hname, hchannel, List.append_assoc, List.singleton_append]
      have hkept' : ∀ other ∈ kept ++ [handler], other.name ≠ some name :=
        List.forall_mem_append.2 ⟨hkept, by simpa using hname⟩
      rw [ih hleft hkept', List.filter_cons_of_pos (by simpa using hname), List.append_assoc,
        List.singleton_append]

/-- Detaching a name leaves just the handlers that do not have it, in their order, however
often any of the others stands there. -/
theorem handlers_detachNamed (name : String) (channel : LogChannel) :
    (channel.detachNamed name).handlers = channel.handlers.filter (·.name ≠ some name) := by
  have hnone : ∀ handler ∈ ([] : List LogHandler), handler.name ≠ some name := by simp
  exact handlers_foldl_detachIfNamed name (List.nil_append _).symm hnone

/-- A handler that is not there is attached last. -/
theorem handlers_attach_of_not_mem {handler : LogHandler} {channel : LogChannel}
    (h : handler ∉ channel.handlers) :
    (channel.attach handler).handlers = channel.handlers ++ [handler] := by
  rw [attach, if_neg h]

/-- Attaching changes nothing but the handlers. -/
theorem attach_eq (handler : LogHandler) (channel : LogChannel) :
    channel.attach handler = { channel with handlers := (channel.attach handler).handlers } := by
  rw [attach]
  split <;> rfl

/-- The handlers of the channel are among this many that were made first. -/
def Below (channel : LogChannel) (count : Nat) : Prop :=
  ∀ handler ∈ channel.handlers, handler.serial < count

instance (channel : LogChannel) (count : Nat) : Decidable (channel.Below count) :=
  inferInstanceAs (Decidable (∀ handler ∈ channel.handlers, handler.serial < count))

/-- They are among more as well. -/
theorem Below.mono {channel : LogChannel} {count count' : Nat} (h : channel.Below count)
    (hle : count ≤ count') : channel.Below count' :=
  fun handler hmem => Nat.lt_of_lt_of_le (h handler hmem) hle

/-- They still are when one of these is attached. -/
theorem Below.attach {channel : LogChannel} {count : Nat} (h : channel.Below count)
    {handler : LogHandler} (hhandler : handler.serial < count) :
    (channel.attach handler).Below count := by
  by_cases hthere : handler ∈ channel.handlers
  · rw [LogChannel.attach, if_pos hthere]
    exact h
  · rw [Below, handlers_attach_of_not_mem hthere]
    exact List.forall_mem_append.2 ⟨h, by simpa using hhandler⟩

/-- They still are when a handler is detached. -/
theorem Below.detach {channel : LogChannel} {count : Nat} (h : channel.Below count)
    (handler : LogHandler) : (channel.detach handler).Below count :=
  fun other hmem => h other (List.mem_of_mem_erase hmem)

section

variable {p : LogHandler → Bool} {handler : LogHandler} {channel other : LogChannel}

/-- Attaching a handler of some kind, as far as handlers of that kind go. -/
theorem filter_handlers_attach_of_pos (h : p handler) :
    (channel.attach handler).handlers.filter p =
      if handler ∈ channel.handlers.filter p then channel.handlers.filter p
      else channel.handlers.filter p ++ [handler] := by
  have hmem : handler ∈ channel.handlers.filter p ↔ handler ∈ channel.handlers := by
    simp [h]
  by_cases hthere : handler ∈ channel.handlers
  · rw [if_pos (hmem.2 hthere), attach, if_pos hthere]
  · rw [if_neg (mt hmem.1 hthere), handlers_attach_of_not_mem hthere, List.filter_append,
      List.filter_cons_of_pos h, List.filter_nil]

/-- Attaching a handler of another kind changes none of them. -/
theorem filter_handlers_attach_of_neg (h : ¬p handler) :
    (channel.attach handler).handlers.filter p = channel.handlers.filter p := by
  by_cases hthere : handler ∈ channel.handlers
  · rw [attach, if_pos hthere]
  · rw [handlers_attach_of_not_mem hthere, List.filter_append, List.filter_cons_of_neg h,
      List.filter_nil, List.append_nil]

/-- Detaching a handler, as far as handlers of some kind go. -/
theorem filter_handlers_detach :
    (channel.detach handler).handlers.filter p = (channel.handlers.filter p).erase handler :=
  List.erase_filter.symm

/-- Detaching a handler of another kind changes none of them. -/
theorem filter_handlers_detach_of_neg (h : ¬p handler) :
    (channel.detach handler).handlers.filter p = channel.handlers.filter p := by
  rw [filter_handlers_detach]
  exact List.erase_of_not_mem fun hmem => h (List.mem_filter.1 hmem).2

/-- Channels with the same handlers of a kind have the same after one of that kind is
attached to both. -/
theorem filter_handlers_attach_congr
    (hsame : channel.handlers.filter p = other.handlers.filter p) (h : p handler) :
    (channel.attach handler).handlers.filter p = (other.attach handler).handlers.filter p := by
  rw [filter_handlers_attach_of_pos h, filter_handlers_attach_of_pos h, hsame]

/-- They have the same after a handler is detached from both. -/
theorem filter_handlers_detach_congr
    (hsame : channel.handlers.filter p = other.handlers.filter p) :
    (channel.detach handler).handlers.filter p = (other.detach handler).handlers.filter p := by
  rw [filter_handlers_detach, filter_handlers_detach, hsame]

end

end LogChannel

namespace Logging

/-- The handlers of the library's channel that the library does not own. -/
def foreign (logging : Logging) : List LogHandler :=
  logging.library.handlers.filter (·.name ≠ some handlerName)

/-- Every handler that is attached anywhere was made before. -/
structure Counted (logging : Logging) : Prop where
  /-- Those on the library's channel were. -/
  library : logging.library.Below logging.made
  /-- Those on the root channel were. -/
  root : logging.root.Below logging.made

/-- Configuring puts the new handler behind those of the host and takes away all
others. -/
theorem library_configure (options : LogOptions) (logging : Logging) :
    (logging.configure options).2.library =
      ⟨some options.threshold, logging.foreign ++ [(logging.configure options).1], false⟩ := by
  have hdetached := logging.library.handlers_detachNamed handlerName
  have hnew : (logging.configure options).1 ∉
      (logging.library.detachNamed handlerName).handlers := by
    rw [hdetached]
    exact fun hmem => of_decide_eq_true (List.mem_filter.1 hmem).2 rfl
  have hattached := LogChannel.handlers_attach_of_not_mem hnew
  rw [hdetached] at hattached
  exact congrArg (LogChannel.mk (some options.threshold) · false) hattached

/-- The new handler is the only owned one. -/
theorem owned_configure (options : LogOptions) (logging : Logging) :
    (logging.configure options).2.owned = [(logging.configure options).1] := by
  have hnone : logging.foreign.filter (·.name = some handlerName) = [] := by
    rw [foreign, List.filter_filter]
    exact List.filter_eq_nil_iff.2 fun handler _ => by simp
  rw [owned, library_configure, List.filter_append, hnone]
  rfl

/-- The handlers of the host are those they were. -/
theorem foreign_configure (options : LogOptions) (logging : Logging) :
    (logging.configure options).2.foreign = logging.foreign := by
  have hown : [(logging.configure options).1].filter (·.name ≠ some handlerName) = [] := rfl
  rw [foreign, library_configure, List.filter_append, hown, List.append_nil, foreign,
    List.filter_filter]
  simp

/-- The new handler is counted, too. -/
theorem Counted.configure {logging : Logging} (h : logging.Counted) (options : LogOptions) :
    (logging.configure options).2.Counted := by
  constructor
  · rw [library_configure]
    refine List.forall_mem_append.2 ⟨fun handler hmem => ?_, ?_⟩
    · exact Nat.lt_succ_of_lt (h.library handler (List.mem_filter.1 hmem).1)
    · exact List.forall_mem_singleton.2 (Nat.lt_succ_self logging.made)
  · exact h.root.mono (Nat.le_succ logging.made)

end Logging

/-! ## Calls of the library -/

/-- A call of the library that sets logging up. -/
inductive SetupCall where
  /-- Configure logging with these options. -/
  | configure (options : Value)
  /-- Apply settings, which are given directly or else found in the environment. -/
  | applySettings (environment : List (String × String)) (given : Fields)

namespace SetupCall

/-- The step of a program that makes the call. -/
def step : SetupCall → Step
  | configure options => .configure options
  | applySettings environment given => .applySettings environment given

/-- The settings that the call applies. -/
def settings? : SetupCall → Option Settings
  | configure _ => none
  | applySettings environment given => (Settings.read environment given).toOption

/-- The options with which the call configures logging, or why it is refused. -/
def asked : SetupCall → Except Interruption LogOptions
  | configure options => (LogOptions.ofValue options).mapError .log
  | applySettings environment given =>
    ((Settings.read environment given).mapError .settings).map fun settings =>
      ⟨settings.verbose, settings.logJson⟩

variable {call : SetupCall}

/-- A call that is not refused returns, and configures logging as asked. -/
theorem outcome_of_asked {options : LogOptions} (h : call.asked = .ok options)
    (session : Session) :
    (call.step.action.outcome session).1 = .ok () ∧
      (call.step.action.outcome session).2.logging = (session.logging.configure options).2 := by
  cases call with
  | configure value =>
    rw [asked] at h
    rw [step, Step.action, h]
    exact ⟨rfl, rfl⟩
  | applySettings environment given =>
    rw [asked] at h
    rw [step, Step.action]
    cases hread : (Settings.read environment given).mapError Interruption.settings with
    | error error => rw [hread] at h; cases h
    | ok settings => rw [hread] at h; cases h; exact ⟨rfl, rfl⟩

/-- A call that is refused says why and changes nothing. -/
theorem outcome_of_refused {error : Interruption} (h : call.asked = .error error)
    (session : Session) : call.step.action.outcome session = (.error error, session) := by
  cases call with
  | configure value =>
    rw [asked] at h
    rw [step, Step.action, h]
    rfl
  | applySettings environment given =>
    rw [asked] at h
    rw [step, Step.action]
    cases hread : (Settings.read environment given).mapError Interruption.settings with
    | error error => rw [hread] at h; cases h; rfl
    | ok settings => rw [hread] at h; cases h

/-- A call switches telemetry only by the settings that it applies. -/
theorem enabled_outcome (call : SetupCall) (session : Session) :
    (call.step.action.outcome session).2.telemetry.enabled =
      (call.settings?.map Settings.verbose).getD session.telemetry.enabled := by
  cases call with
  | configure value =>
    rw [step, Step.action]
    cases LogOptions.ofValue value <;> rfl
  | applySettings environment given =>
    rw [settings?, step, Step.action]
    cases Settings.read environment given <;> rfl

end SetupCall

/-! ## Doings of the host -/

/-- A handler of the host, which does not have the name of the library's own. -/
structure HostHandler where
  /-- The handler. -/
  handler : LogHandler
  /-- Its name is another one, or it has none. -/
  name_ne : handler.name ≠ some Logging.handlerName := by decide

/-- The channel on which the host does something. -/
inductive HostPlace where
  /-- The channel of the library. -/
  | library
  /-- The channel of the host. -/
  | root

/-- One thing that the host does with a handler of its own. -/
inductive HostChange where
  /-- Attach it. -/
  | attach (place : HostPlace) (own : HostHandler)
  /-- Detach it. -/
  | detach (place : HostPlace) (own : HostHandler)

namespace HostChange

/-- Logging after that. A handler that the host attaches was made before. -/
def applied : HostChange → Logging → Logging
  | attach .library own, logging =>
    { logging with
      library := logging.library.attach own.handler
      made := max logging.made (own.handler.serial + 1) }
  | attach .root own, logging =>
    { logging with
      root := logging.root.attach own.handler
      made := max logging.made (own.handler.serial + 1) }
  | detach .library own, logging => { logging with library := logging.library.detach own.handler }
  | detach .root own, logging => { logging with root := logging.root.detach own.handler }

/-- The silent handler of a program is attached like any other of the host. -/
theorem applied_attach_silent (logging : Logging) :
    (attach .library ⟨⟨logging.made, none, none⟩, nofun⟩).applied logging =
      logging.attachForeign := by
  rw [applied, Nat.max_eq_right (Nat.le_succ logging.made)]
  rfl

/-- The handlers that the library owns stay as they are. -/
theorem owned_applied (change : HostChange) (logging : Logging) :
    (change.applied logging).owned = logging.owned := by
  cases change with
  | attach place own =>
    cases place with
    | library => exact LogChannel.filter_handlers_attach_of_neg (by simpa using own.name_ne)
    | root => rfl
  | detach place own =>
    cases place with
    | library => exact LogChannel.filter_handlers_detach_of_neg (by simpa using own.name_ne)
    | root => rfl

/-- So does all of the library's channel but its handlers. -/
theorem library_applied (change : HostChange) (logging : Logging) :
    (change.applied logging).library =
      { logging.library with handlers := (change.applied logging).library.handlers } := by
  cases change with
  | attach place own =>
    cases place with
    | library => exact LogChannel.attach_eq own.handler logging.library
    | root => rfl
  | detach place own => cases place <;> rfl

/-- Only handlers that were made before are attached afterwards. -/
theorem counted_applied (change : HostChange) {logging : Logging} (h : logging.Counted) :
    (change.applied logging).Counted := by
  cases change with
  | attach place own =>
    have hle := Nat.le_max_left logging.made (own.handler.serial + 1)
    have hown := Nat.le_max_right logging.made (own.handler.serial + 1)
    cases place with
    | library => exact ⟨(h.library.mono hle).attach hown, h.root.mono hle⟩
    | root => exact ⟨h.library.mono hle, (h.root.mono hle).attach hown⟩
  | detach place own =>
    cases place with
    | library => exact ⟨h.library.detach own.handler, h.root⟩
    | root => exact ⟨h.library, h.root.detach own.handler⟩

end HostChange

namespace Logging

/-- What a host has put into the channels is the same in both. -/
structure AlikeForHost (first second : Logging) : Prop where
  /-- Its handlers on the library's channel are the same. -/
  foreign : first.foreign = second.foreign
  /-- The root channel is the same. -/
  root : first.root = second.root

/-- It stays so when the host does the same in both. -/
theorem AlikeForHost.applied {first second : Logging} (h : first.AlikeForHost second)
    (change : HostChange) : (change.applied first).AlikeForHost (change.applied second) := by
  obtain ⟨hforeign, hroot⟩ := h
  cases change with
  | attach place own =>
    cases place with
    | library =>
      have hown := decide_eq_true own.name_ne
      exact ⟨LogChannel.filter_handlers_attach_congr hforeign hown, hroot⟩
    | root => exact ⟨hforeign, congrArg (LogChannel.attach own.handler) hroot⟩
  | detach place own =>
    cases place with
    | library => exact ⟨LogChannel.filter_handlers_detach_congr hforeign, hroot⟩
    | root => exact ⟨hforeign, congrArg (LogChannel.detach own.handler) hroot⟩

end Logging

/-! ## Runs -/

/-- One thing that is done to logging. -/
inductive LoggingStep where
  /-- The library is called. -/
  | call (setup : SetupCall)
  /-- The host does something on its own. -/
  | host (change : HostChange)

namespace LoggingStep

/-- The session afterwards. -/
def after : LoggingStep → Session → Session
  | call setup, session => (setup.step.action.outcome session).2
  | host change, session => { session with logging := change.applied session.logging }

/-- The options with which logging is configured, unless the host does something or the
call is refused. -/
def options? : LoggingStep → Option LogOptions
  | call setup => setup.asked.toOption
  | host _ => none

/-- The settings that are applied, likewise. -/
def settings? : LoggingStep → Option Settings
  | call setup => setup.settings?
  | host _ => none

/-- Whether the host does something. -/
def isHost : LoggingStep → Bool
  | call _ => false
  | host _ => true

/-- The session after several steps. -/
def run (steps : List LoggingStep) (session : Session) : Session :=
  steps.foldl (fun session step => step.after session) session

/-- The last that some steps tell. -/
def last? {α : Type} (view : LoggingStep → Option α) (steps : List LoggingStep) : Option α :=
  steps.reverse.findSome? view

/-- What the steps before tell counts only if the last one tells nothing. -/
theorem last?_concat {α : Type} (view : LoggingStep → Option α) (steps : List LoggingStep)
    (step : LoggingStep) :
    last? view (steps ++ [step]) = (view step).or (last? view steps) := by
  rw [last?, List.reverse_concat, List.findSome?_cons]
  cases view step <;> rfl

/-- The last step is done after all others. -/
theorem run_concat (steps : List LoggingStep) (step : LoggingStep) (session : Session) :
    run (steps ++ [step]) session = step.after (run steps session) := by
  rw [run, List.foldl_append]
  rfl

/-- A call configures logging, or else it is refused and leaves logging as it was. -/
theorem logging_after_call (setup : SetupCall) (session : Session) :
    ((call setup).after session).logging =
      match setup.asked with
      | .ok options => (session.logging.configure options).2
      | .error _ => session.logging := by
  rw [after]
  cases h : setup.asked with
  | ok options => exact (SetupCall.outcome_of_asked h session).2
  | error error => rw [SetupCall.outcome_of_refused h session]

/-- A step attaches only handlers that were made before. -/
theorem counted_after (step : LoggingStep) {session : Session} (h : session.logging.Counted) :
    (step.after session).logging.Counted := by
  cases step with
  | call setup =>
    rw [logging_after_call]
    cases setup.asked with
    | ok options => exact h.configure options
    | error _ => exact h
  | host change => exact change.counted_applied h

/-- So do several steps. -/
theorem counted_run (steps : List LoggingStep) {session : Session} (h : session.logging.Counted) :
    (run steps session).logging.Counted := by
  induction steps generalizing session with
  | nil => exact h
  | cons step rest ih => exact ih (step.counted_after h)

/-- A call changes nothing that a host has put into the channels. -/
theorem alikeForHost_after_call (setup : SetupCall) {session : Session} {logging : Logging}
    (h : session.logging.AlikeForHost logging) :
    ((call setup).after session).logging.AlikeForHost logging := by
  rw [logging_after_call]
  cases setup.asked with
  | ok options => exact ⟨(session.logging.foreign_configure options).trans h.foreign, h.root⟩
  | error _ => exact h

/-- What a host has put into the channels is the same as if there had been no calls. -/
theorem alikeForHost_run (steps : List LoggingStep) {first second : Session}
    (h : first.logging.AlikeForHost second.logging) :
    (run steps first).logging.AlikeForHost (run (steps.filter isHost) second).logging := by
  induction steps generalizing first second with
  | nil => exact h
  | cons step rest ih =>
    cases step with
    | call setup => exact ih (alikeForHost_after_call setup h)
    | host change => exact ih (h.applied change)

end LoggingStep

/-- The library's channel is as these options want it. -/
structure Logging.SetUpFor (options : LogOptions) (logging : Logging) : Prop where
  /-- It lets records of all severities through, or else those from warnings on. -/
  threshold : logging.library.threshold = some (if options.verbose then .debug else .warning)
  /-- No record goes on to the root. -/
  propagates : logging.library.propagates = false
  /-- Exactly one handler is owned, and it writes objects or else text. -/
  formats : logging.owned.map LogHandler.format =
    [some (if options.objects then .objects else .text)]

/-- Configuring sets it up. -/
theorem Logging.setUpFor_configure (options : LogOptions) (logging : Logging) :
    (logging.configure options).2.SetUpFor options := by
  constructor
  · exact congrArg LogChannel.threshold (library_configure options logging)
  · exact congrArg LogChannel.propagates (library_configure options logging)
  · rw [owned_configure]
    rfl

/-- The host does not change that. -/
theorem Logging.SetUpFor.applied {options : LogOptions} {logging : Logging}
    (h : logging.SetUpFor options) (change : HostChange) :
    (change.applied logging).SetUpFor options := by
  have hlibrary := change.library_applied logging
  constructor
  · rw [hlibrary]
    exact h.threshold
  · rw [hlibrary]
    exact h.propagates
  · rw [change.owned_applied]
    exact h.formats

namespace LoggingStep

/-- After several steps the library's channel is as the last call wants it that was not
refused. -/
theorem setUpFor_run (steps : List LoggingStep) (session : Session) {options : LogOptions}
    (h : last? options? steps = some options) :
    (run steps session).logging.SetUpFor options := by
  -- Steps before the last one matter only as far as that one leaves things to them.
  induction steps using List.reverseRecOn with
  | nil => cases h
  | append_singleton steps step ih =>
    rw [last?_concat] at h
    rw [run_concat]
    cases step with
    | host change => exact (ih h).applied change
    | call setup =>
      rw [logging_after_call]
      rw [options?] at h
      cases hasked : setup.asked with
      | ok asked =>
        rw [hasked] at h
        cases h
        exact Logging.setUpFor_configure options _
      | error _ =>
        rw [hasked] at h
        exact ih h

/-- Telemetry is on or off as the settings want it that were applied last. -/
theorem enabled_run (steps : List LoggingStep) (session : Session) :
    (run steps session).telemetry.enabled =
      ((last? settings? steps).map Settings.verbose).getD session.telemetry.enabled := by
  induction steps using List.reverseRecOn with
  | nil => rfl
  | append_singleton steps step ih =>
    rw [last?_concat, run_concat]
    cases step with
    | host change => exact ih
    | call setup =>
      rw [after, setup.enabled_outcome, ih, settings?]
      cases setup.settings? <;> rfl

end LoggingStep

/-! ## After each call -/

/-- What a call that asks for these options makes of logging. -/
structure Logging.Swapped (options : LogOptions) (before after : Logging) : Prop where
  /-- The handlers of the host stay, in their order, and the new handler stands last. -/
  handlers : after.library.handlers = before.foreign ++ [(before.configure options).1]
  /-- It is the only one that has the library's name. -/
  owned : after.owned = [(before.configure options).1]
  /-- It was made after all handlers that were attached anywhere. -/
  newer : before.library.Below (before.configure options).1.serial ∧
    before.root.Below (before.configure options).1.serial
  /-- The root channel stays as it is. -/
  root : after.root = before.root

/-- Configuring swaps the handler of the library. -/
theorem Logging.Counted.swapped {logging : Logging} (h : logging.Counted) (options : LogOptions) :
    logging.Swapped options (logging.configure options).2 where
  handlers := congrArg LogChannel.handlers (logging.library_configure options)
  owned := logging.owned_configure options
  newer := ⟨h.library, h.root⟩
  root := rfl

namespace LoggingStep

/-- In every run each call that is not refused returns and swaps the handler of the
library, and each one that is refused changes nothing. After the run the handlers of the
host and the root channel are those of the same run without calls, the library's channel
is as the last call wants it, and telemetry is switched as the settings applied last say. -/
theorem handlers_swapped (steps : List LoggingStep) {session : Session}
    (hcounted : session.logging.Counted) :
    (∀ earlier setup later, steps = earlier ++ call setup :: later →
      (∀ options, setup.asked = .ok options →
        (setup.step.action.outcome (run earlier session)).1 = .ok () ∧
        (run earlier session).logging.Swapped options
          (run (earlier ++ [call setup]) session).logging) ∧
      ∀ error, setup.asked = .error error →
        setup.step.action.outcome (run earlier session) = (.error error, run earlier session)) ∧
    (run steps session).logging.AlikeForHost (run (steps.filter isHost) session).logging ∧
    (∀ options, last? options? steps = some options →
      (run steps session).logging.SetUpFor options) ∧
    (run steps session).telemetry.enabled =
      ((last? settings? steps).map Settings.verbose).getD session.telemetry.enabled := by
  refine ⟨fun earlier setup later _ => ⟨fun options hasked => ?_, fun error hasked => ?_⟩,
    alikeForHost_run steps ⟨rfl, rfl⟩, fun options hlast => setUpFor_run steps session hlast,
    enabled_run steps session⟩
  · have hreturns := (SetupCall.outcome_of_asked hasked (run earlier session)).1
    have hswapped := (counted_run earlier hcounted).swapped options
    refine ⟨hreturns, ?_⟩
    rw [run_concat, logging_after_call, hasked]
    exact hswapped
  · exact SetupCall.outcome_of_refused hasked (run earlier session)

namespace Sample

/-- A handler with the library's name that was there from the start. -/
def early : LogHandler := ⟨0, some Logging.handlerName, some .objects⟩

/-- A handler of the host that has a name. -/
def file : HostHandler := { handler := ⟨1, some "host.file", none⟩ }

/-- A handler of the host that has none. -/
def console : HostHandler := { handler := ⟨2, none, some .text⟩ }

/-- Telemetry is on, and handlers with the library's name stand around one of the host. -/
def session : Session :=
  { (Session.initial false).onTelemetry (.switch true) with
    logging :=
      ⟨⟨none, [early, file.handler, ⟨3, some Logging.handlerName, none⟩, early], true⟩,
        ⟨some .warning, [console.handler], false⟩, false, 4⟩ }

/-- Settings are applied, then a call is refused, and then logging is configured; meanwhile
the host moves handlers. -/
def steps : List LoggingStep :=
  [host (.attach .library console),
    call (.applySettings [("MODELDECO_VERBOSE", "no")] []),
    call (.configure (.object [("level", .int 10)])),
    host (.detach .root console),
    call (.configure (.object [("verbose", .bool true)])),
    host (.attach .root file)]

end Sample

/-- Of the three handlers with the library's name, two of which are one, none is left.
Telemetry is off by the settings, while records of all severities come through and are
written as text by the call after them. -/
theorem handlers_swapped_sample :
    Sample.session.logging.Counted ∧
    (run (Sample.steps.take 4) Sample.session).logging.Swapped ⟨true, false⟩
      (run (Sample.steps.take 5) Sample.session).logging ∧
    (run Sample.steps Sample.session).logging.foreign =
      [Sample.file.handler, Sample.console.handler] ∧
    (run Sample.steps Sample.session).logging.root.handlers = [Sample.file.handler] ∧
    (run Sample.steps Sample.session).logging.SetUpFor ⟨true, false⟩ ∧
    (run Sample.steps Sample.session).telemetry.enabled = false := by
  have hcounted : Sample.session.logging.Counted := ⟨by decide, by decide⟩
  have hoptions : last? options? Sample.steps = some ⟨true, false⟩ := rfl
  have hsettings : last? settings? Sample.steps = some ⟨false, false, false, false⟩ := by
    decide +kernel
  obtain ⟨hcalls, halike, hsetUp, henabled⟩ := handlers_swapped Sample.steps hcounted
  obtain ⟨-, hswapped⟩ := (hcalls (Sample.steps.take 4) _ _ rfl).1 ⟨true, false⟩ rfl
  rw [hsettings] at henabled
  exact ⟨hcounted, hswapped, halike.foreign.trans rfl,
    (congrArg LogChannel.handlers halike.root).trans rfl, hsetUp _ hoptions, henabled⟩

end LoggingStep

end ModelTagging
