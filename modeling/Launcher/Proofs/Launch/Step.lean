import Launcher.Launch
import Launcher.Proofs.Session.Operations
import Launcher.Proofs.Trap

/-!
# The steps of a launch

A step of a launch is a request with the answer it got. Everything that a launch leaves behind is a
function of the steps it has taken: its own events, what it holds, and how it ends.

- `Launch.Step`: the steps; `Guarded`: how a call under the trap ended.
- `Step.events`: the events of a step.
- `Step.verdict`, `Launch.decision`: what a step says about the launch, and what all of them say. The
  first one that does not succeed decides.
- `Holdings.after`, `Holdings.releaseEvents`: what is held after a step, and how it is released.
-/

namespace Launcher

/-- An answer with its value changed; failures and panics stay. -/
def Ending.lift {α β : Type} (f : α → β) : Ending (Except Failure α) → Ending (Except Failure β) :=
  Ending.map (Except.map f)

@[simp] theorem Ending.lift_ok {α β : Type} (f : α → β) (a : α) :
    Ending.lift f (.returned (.ok a)) = .returned (.ok (f a)) := rfl

@[simp] theorem Ending.lift_error {α β : Type} (f : α → β) (failure : Failure) :
    Ending.lift f (.returned (.error failure)) = .returned (.error failure) := rfl

@[simp] theorem Ending.lift_panicked {α β : Type} (f : α → β) (p : Panic) :
    Ending.lift f (.panicked p) = .panicked p := rfl

@[simp] theorem Ending.lift_id {α : Type} (e : Ending (Except Failure α)) : e.lift id = e := by
  rcases e with (_ | _) | _ <;> rfl

/-- An answer without its value. -/
abbrev Ending.forget {α : Type} : Ending (Except Failure α) → Ending (Except Failure Unit) :=
  Ending.lift fun _ => ()

@[simp] theorem Ending.forget_unit (e : Ending (Except Failure Unit)) : e.forget = e := by
  rcases e with (_ | _) | _ <;> rfl

/-- How a call under the trap ended, and how far its fault was captured and reported. -/
inductive Guarded
  | panicked (panic : Panic)
  | returned
  /-- A fault escaped, and describing it panicked. -/
  | undescribed (fault : Fault) (panic : Panic)
  /-- A fault was described, and listing its call sites panicked. -/
  | untraced (fault : Fault) (message : String) (panic : Panic)
  /-- A fault was captured and reported, and stopping in the debugger panicked. -/
  | unbroken (fault : Fault) (record : FaultRecord) (panic : Panic)
  /-- A fault was captured and reported. -/
  | faulted (fault : Fault) (record : FaultRecord)

namespace Launch

open Log

variable {σ ω : Type}

/-- The events of telling people about a failure. A fault has been reported already. -/
def diagnoseEvents (sink : Sink ω) (w : ω) (failure : Failure) : List Event :=
  if failure.isFault then []
  else
    (sink.writeLines [diagnostic failure] w).2.1 ++
      match (sink.writeLines [diagnostic failure] w).1 with
      | none => []
      | some error => [.log (diagnosticErrorRecord failure error)]

end Launch

namespace Guarded

open Log

variable {ω : Type}

/-- The answer of the guarded call itself. -/
def called : Guarded → Ending (Option Fault)
  | panicked p => .panicked p
  | returned => .returned none
  | undescribed fault _ | untraced fault _ _ | unbroken fault _ _ | faulted fault _ =>
    .returned (some fault)

/-- The events after the guarded call. -/
def aftermath (topic : Topic) (done : Record) (sink : Sink ω) (w : ω) : Guarded → List Event
  | panicked p => [.panic p]
  | returned => [.log done]
  | undescribed fault p => [.call (.describeFault fault (.panicked p)), .panic p]
  | untraced fault message p =>
    [.call (.describeFault fault (.returned message)), .call (.exceptionStack (.panicked p)),
      .panic p]
  | unbroken fault record p =>
    [.call (.describeFault fault (.returned record.message)),
      .call (.exceptionStack (.returned record.stack)), .log (Trap.caughtRecord topic record)] ++
      Trap.reportEvents sink w record ++ [.call (.debugBreak (.panicked p)), .panic p]
  | faulted fault record =>
    [.call (.describeFault fault (.returned record.message)),
      .call (.exceptionStack (.returned record.stack)), .log (Trap.caughtRecord topic record)] ++
      Trap.reportEvents sink w record ++ [.call (.debugBreak (.returned ()))]

/-- The answer of a guarded call to the launch. -/
def answer : Guarded → Ending (Except Failure Unit)
  | returned => .returned (.ok ())
  | faulted _ record => .returned (.error (.uncaught record))
  | panicked p | undescribed _ p | untraced _ _ p | unbroken _ _ p => .panicked p

/-- The calls that captured a fault and stopped in the debugger. -/
def captureCalls : Guarded → List Vm.Call
  | panicked _ | returned => []
  | undescribed fault p => [.describeFault fault (.panicked p)]
  | untraced fault message p =>
    [.describeFault fault (.returned message), .exceptionStack (.panicked p)]
  | unbroken fault record p =>
    [.describeFault fault (.returned record.message), .exceptionStack (.returned record.stack),
      .debugBreak (.panicked p)]
  | faulted fault record =>
    [.describeFault fault (.returned record.message), .exceptionStack (.returned record.stack),
      .debugBreak (.returned ())]

/-- The stream after a guarded call. -/
def stream (sink : Sink ω) (w : ω) : Guarded → ω
  | unbroken _ record _ | faulted _ record => (record.write sink w).2.2
  | _ => w

end Guarded

namespace Launch

open Log

variable {σ ω : Type}

/-! ## Steps -/

/-- A step of a launch with the answer it got. -/
inductive Step
  | start (answer : Except String Unit)
  | load (path : Path) (loading : Loading)
  | allocate (code : ParsedCode) (answer : Ending (Option ModuleId))
  | link (module : ModuleId) (options : HostOptions) (answer : Ending (Except String Unit))
  | compact (module : ModuleId) (code : ParsedCode)
  | resolve (library symbol : String) (answer : Ending (Except Failure Hook))
  | setup (hook : Hook) (options : HostOptions) (guarded : Guarded)
  | entry (module : ModuleId) (answer : Ending (Except String Closure))
  | call (closure : Closure) (guarded : Guarded)

/-- The answer of building a module. -/
def builtAnswer : Ending (Option ModuleId) → Ending (Except Failure ModuleId)
  | .returned (some m) => .returned (.ok m)
  | .returned none => .returned (.error (.allocation Session.noModule))
  | .panicked p => .panicked p

namespace Step

/-- The launch's own events of a step that finds the diagnostics stream as it is. -/
def events (sink : Sink ω) (w : ω) : Step → List Event
  | start answer => Session.startEvents answer
  | load path loading => Session.loadEvents path loading
  | allocate code answer => Session.allocateEvents code (.answered answer)
  | link m options answer => Session.linkEvents m options answer
  | compact _ code => [.call (.compact code.id)]
  | resolve library symbol answer => .resolve library symbol answer :: answer.panicEvents
  | setup hook options guarded =>
    .call (.callSetup hook options guarded.called) ::
      guarded.aftermath .extensionSetup (Trap.setupRecord hook) sink w
  | entry m answer => Session.entryEvents m answer
  | call closure guarded =>
    .call (.call closure guarded.called) :: guarded.aftermath .entrypoint Trap.runRecord sink w

/-- What a step says about the launch: it may go on, has failed, or has panicked. -/
def verdict : Step → Ending (Except Failure Unit)
  | start answer => .forget (.returned (Session.startAnswer answer))
  | load path loading => (Session.loadAnswer path loading).forget
  | allocate _ answer => (builtAnswer answer).forget
  | link _ _ answer => Session.linkAnswer answer
  | compact .. => .returned (.ok ())
  | resolve _ _ answer => answer.forget
  | setup _ _ guarded => guarded.answer
  | entry _ answer => (Session.linkAnswer answer).forget
  | call _ guarded => guarded.answer

/-- The diagnostics stream after a step. -/
def stream (sink : Sink ω) (w : ω) : Step → ω
  | setup _ _ guarded | call _ guarded => guarded.stream sink w
  | _ => w

/-- The calls across the seam of a step. -/
def calls : Step → List Vm.Call
  | start answer => [.globalInit answer]
  | load path loading => Event.calls (Session.loadEvents path loading)
  | allocate code answer => Event.calls (Session.allocateEvents code (.answered answer))
  | link m options answer => [.link m options answer]
  | compact _ code => [.compact code.id]
  | resolve .. => []
  | setup hook options guarded => .callSetup hook options guarded.called :: guarded.captureCalls
  | entry m answer => [.entryClosure m answer]
  | call closure guarded => .call closure guarded.called :: guarded.captureCalls

end Step

/-- What a step asks for. -/
inductive Kind
  | start
  | load
  | allocate
  | link
  | compact
  | resolve
  | setup
  | entry
  | call
  deriving DecidableEq

namespace Step

/-- What a step asks for. -/
def kind : Step → Kind
  | start .. => .start
  | load .. => .load
  | allocate .. => .allocate
  | link .. => .link
  | compact .. => .compact
  | resolve .. => .resolve
  | setup .. => .setup
  | entry .. => .entry
  | call .. => .call

/-- Whether the launch may go on after a step. -/
def Succeeds (step : Step) : Prop := step.verdict = .returned (.ok ())

end Step

/-- What a launch asks for, in order. -/
def agenda : List Kind :=
  [.start, .load, .allocate, .link, .compact, .resolve, .setup, .entry, .call]

/-- Whether a row of steps attempts an agenda from its beginning: one step for each item, up to and
with the first step that does not succeed. -/
def Attempts : List Kind → List Step → Prop
  | [], steps => steps = []
  | kind :: agenda, steps => ∃ step rest, steps = step :: rest ∧ step.kind = kind ∧
    (step.Succeeds → Attempts agenda rest) ∧ (¬ step.Succeeds → rest = [])

/-- What the steps of a launch say about it: the first one that does not succeed decides. -/
def decision : List Step → Ending (Except Failure Unit)
  | [] => .returned (.ok ())
  | step :: rest =>
    match step.verdict with
    | .returned (.ok ()) => decision rest
    | verdict => verdict

/-! ## What is held -/

/-- What a launch holds after a step. -/
def after (held : Holdings) : Step → Holdings
  | .start (.ok ()) => { held with session := some ⟨false⟩ }
  | .allocate code (.returned (some m)) =>
    { held with session := some ⟨true⟩, module := some ⟨some m, code⟩ }
  | .compact m code => { held with module := some ⟨some m, { code with compacted := true }⟩ }
  | .resolve _ _ (.returned (.ok hook)) => { held with hook := some hook }
  | _ => held

/-- What a launch holds after its steps. -/
def heldAfter (steps : List Step) : Holdings := steps.foldl after .none

end Launch

namespace Holdings

/-- The events of freeing the module, if one is held. -/
def moduleEvents (held : Holdings) : List Event :=
  match held.session, held.module with
  | some _, some module => Session.freeEvents module
  | _, _ => []

/-- The events of releasing the global state, if it is held. -/
def sessionEvents (held : Holdings) : List Event :=
  match held.session with
  | some _ => Session.finishEvents
  | .none => []

/-- The events of giving the hook up, if one is held. -/
def hookEvents (held : Holdings) : List Event :=
  match held.hook with
  | some hook => [.dropHook hook]
  | .none => []

/-- The events of releasing what is held: the module with its program, the global state, the
hook. -/
def releaseEvents (held : Holdings) : List Event :=
  held.moduleEvents ++ held.sessionEvents ++ held.hookEvents

end Holdings

/-- What happens while something is given up: calls, the end of a hook, and records that say no more
than that it is done. -/
inductive Event.Releasing : Event → Prop
  | call (c : Vm.Call) : Releasing (.call c)
  | dropHook (hook : Hook) : Releasing (.dropHook hook)
  | log (level : Log.Level) (topic : Log.Topic) (hlevel : level ≠ .error)
    (htopic : topic ≠ .bootstrap) : Releasing (.log ⟨level, topic, .context, .ok, []⟩)

theorem Session.releasing_dropEvents (code : ParsedCode) :
    ∀ e ∈ dropEvents code, e.Releasing := by
  have hrelease : ∀ e ∈ [.call (.release code.id), .log (.debug .codeRelease .context .ok [])],
      Event.Releasing e :=
    List.forall_mem_cons.2
      ⟨.call _, List.forall_mem_singleton.2 (.log _ _ (by decide) (by decide))⟩
  unfold dropEvents compactEvents
  split
  · exact hrelease
  · exact List.forall_mem_cons.2 ⟨.call _, hrelease⟩

theorem Session.releasing_freeEvents (module : LoadedModule) :
    ∀ e ∈ freeEvents module, e.Releasing := by
  obtain ⟨_ | m, code⟩ := module
  · exact releasing_dropEvents code
  · exact List.forall_mem_cons.2 ⟨.call _, List.forall_mem_cons.2
      ⟨.log _ _ (by decide) (by decide), releasing_dropEvents code⟩⟩

theorem Session.releasing_finishEvents : ∀ e ∈ finishEvents, e.Releasing :=
  List.forall_mem_cons.2
    ⟨.call _, List.forall_mem_singleton.2 (.log _ _ (by decide) (by decide))⟩

theorem Holdings.releasing_releaseEvents (held : Holdings) :
    ∀ e ∈ held.releaseEvents, e.Releasing := by
  have hnone : ∀ e ∈ ([] : List Event), e.Releasing := List.forall_mem_nil _
  obtain ⟨session, module, hook⟩ := held
  refine List.forall_mem_append.2 ⟨List.forall_mem_append.2 ⟨?_, ?_⟩, ?_⟩
  · cases session <;> cases module <;>
      first | exact hnone | exact Session.releasing_freeEvents _
  · cases session <;> first | exact hnone | exact Session.releasing_finishEvents
  · cases hook <;> first | exact hnone | exact List.forall_mem_singleton.2 (.dropHook _)

namespace Launch

variable {σ ω : Type}

/-! ## The calls among the events -/

@[simp] theorem calls_diagnoseEvents (sink : Sink ω) (w : ω) (failure : Failure) :
    Event.calls (diagnoseEvents sink w failure) = [] := by
  unfold diagnoseEvents
  split
  · rfl
  · rw [Event.calls_append, Sink.calls_writeLines]
    split <;> rfl

@[simp] theorem calls_aftermath (guarded : Guarded) (topic : Log.Topic) (done : Log.Record)
    (sink : Sink ω) (w : ω) :
    Event.calls (guarded.aftermath topic done sink w) = guarded.captureCalls := by
  cases guarded <;> simp [Guarded.aftermath, Guarded.captureCalls]

/-- The calls of a step do not depend on the diagnostics stream. -/
@[simp] theorem calls_events (step : Step) (sink : Sink ω) (w : ω) :
    Event.calls (step.events sink w) = step.calls := by
  cases step <;> simp [Step.events, Step.calls]

end Launch

end Launcher
