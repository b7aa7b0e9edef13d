import Launcher.Proofs.Seam.Own
import Launcher.Trap

/-!
# What the trap leaves

The events and the answer of a call under the trap, and of the report of a captured fault, as a
function of the answers that the VM gave.

- `Trap.guard`: what the two guarded calls have in common.
- `Trap.capture_spec`: how far a fault can be captured.
- `Trap.report_spec`: a report leaves its text and one call of the debugger.
-/

namespace Launcher

/-! ## Writing for people -/

namespace Sink

variable {ω : Type}

/-- Writing lines leaves writes and flushes only. -/
theorem writeLines_events (sink : Sink ω) (lines : List String) (w : ω) :
    ∀ e ∈ (sink.writeLines lines w).2.1,
      (∃ bytes error, e = .write bytes error) ∨ ∃ error, e = .flush error := by
  induction lines generalizing w with
  | nil =>
    intro e he
    exact .inr ⟨_, List.mem_singleton.1 he⟩
  | cons line rest ih =>
    intro e he
    unfold Sink.writeLines at he
    cases hw : (sink.write line w).1 with
    | none =>
      rw [Quiet.bind_apply, hw] at he
      rcases List.mem_append.1 he with he | he
      · exact .inl ⟨_, _, List.mem_singleton.1 he⟩
      · exact ih _ e he
    | some error =>
      rw [Quiet.bind_apply, hw] at he
      rcases List.mem_append.1 he with he | he
      · exact .inl ⟨_, _, List.mem_singleton.1 he⟩
      · cases he

@[simp] theorem own_writeLines (sink : Sink ω) (lines : List String) (w : ω) :
    Event.own (sink.writeLines lines w).2.1 = (sink.writeLines lines w).2.1 := by
  refine List.filter_eq_self.2 fun e he => ?_
  rcases writeLines_events sink lines w e he with ⟨bytes, error, rfl⟩ | ⟨error, rfl⟩ <;> rfl

@[simp] theorem calls_writeLines (sink : Sink ω) (lines : List String) (w : ω) :
    Event.calls (sink.writeLines lines w).2.1 = [] := by
  refine List.filterMap_eq_nil_iff.2 fun e he => ?_
  rcases writeLines_events sink lines w e he with ⟨bytes, error, rfl⟩ | ⟨error, rfl⟩ <;> rfl

end Sink

namespace Console

variable {σ ω α : Type}

@[simp] theorem atSeam_apply (act : Act Event (Seam σ) α) (c : Console σ ω) :
    atSeam act c =
      ⟨(act c.seam).ending, (act c.seam).trace, { c with seam := (act c.seam).state }⟩ := by
  simp [atSeam]

@[simp] theorem atSink_apply (act : Quiet Event ω α) (c : Console σ ω) :
    atSink act c = ((act c.sink).1, (act c.sink).2.1, { c with sink := (act c.sink).2.2 }) := by
  simp [atSink]

end Console

namespace Trap

variable {σ ω : Type}

/-- The events of reporting a fault to a stream. -/
def reportEvents (sink : Sink ω) (w : ω) (record : FaultRecord) : List Event :=
  (record.write sink w).2.1 ++
    match (record.write sink w).1 with
    | none => []
    | some error => [.log (reportErrorRecord error)]

@[simp] theorem calls_reportEvents (sink : Sink ω) (w : ω) (record : FaultRecord) :
    Event.calls (reportEvents sink w record) = [] := by
  unfold reportEvents FaultRecord.write
  rw [Event.calls_append, Sink.calls_writeLines]
  split <;> rfl

/-! ## Guarded calls -/

/-- The record of a setup hook that returned. -/
def setupRecord (hook : Hook) : Log.Record :=
  .info .extensionSetup .trap .ok [.detail "library" hook.library, .detail "symbol" hook.symbol]

/-- The record of an entrypoint that returned. -/
def runRecord : Log.Record := .info .entrypoint .trap .ok []

/-- A call under the trap. The two guarded calls are of this form. -/
def guard (vm : Vm σ) (topic : Log.Topic) (done : Log.Record)
    (call : Act Event (Seam σ) (Option Fault)) : Act Event (Seam σ) TrapOutcome := do
  match ← call with
  | none =>
    Act.emit (.log done)
    return .disarmed
  | some fault => capture vm topic fault

theorem setup_eq (vm : Vm σ) (hook : Hook) (options : HostOptions) :
    setup vm hook options =
      guard vm .extensionSetup (setupRecord hook) (Seam.callSetup vm hook options) := rfl

theorem run_eq (vm : Vm σ) (closure : Closure) :
    run vm closure = guard vm .entrypoint runRecord (Seam.call vm closure) := rfl

/-- A fault is captured, unless the VM panics when it is asked about it. -/
theorem capture_spec (vm : Vm σ) (topic : Log.Topic) (fault : Fault) (s : Seam σ) :
    (∃ p, (capture vm topic fault s).ending = .panicked p ∧
      Event.own (capture vm topic fault s).trace =
        [.call (.describeFault fault (.panicked p)), .panic p]) ∨
    (∃ message p, (capture vm topic fault s).ending = .panicked p ∧
      Event.own (capture vm topic fault s).trace =
        [.call (.describeFault fault (.returned message)), .call (.exceptionStack (.panicked p)),
          .panic p]) ∨
    ∃ record : FaultRecord, (capture vm topic fault s).ending = .returned (.triggered record) ∧
      Event.own (capture vm topic fault s).trace =
        [.call (.describeFault fault (.returned record.message)),
          .call (.exceptionStack (.returned record.stack)), .log (caughtRecord topic record)] := by
  have hdescribe := Seam.own_describeFault vm fault s
  unfold capture
  rcases hmessage : (Seam.describeFault vm fault s).ending with message | p
  · have hstack := Seam.own_exceptionStack vm (Seam.describeFault vm fault s).state
    rw [Act.bind_returned _ hmessage]
    rcases hlabels : (Seam.exceptionStack vm (Seam.describeFault vm fault s).state).ending with
      stack | p
    · rw [Act.bind_returned _ hlabels]
      refine .inr (.inr ⟨⟨message, stack⟩, rfl, ?_⟩)
      simp [hdescribe, hmessage, hstack, hlabels, Ending.panicEvents]
    · rw [Act.bind_panicked _ hlabels]
      refine .inr (.inl ⟨message, p, rfl, ?_⟩)
      simp [hdescribe, hmessage, hstack, hlabels, Ending.panicEvents]
  · rw [Act.bind_panicked _ hmessage]
    refine .inl ⟨p, rfl, ?_⟩
    simp [hdescribe, hmessage, Ending.panicEvents]

/-- A report leaves its events and a call of the debugger. -/
theorem report_spec (vm : Vm σ) (sink : Sink ω) (record : FaultRecord) (c : Console σ ω) :
    ∃ answer : Ending Unit, (report vm sink record c).ending = answer ∧
      Event.own (report vm sink record c).trace =
        reportEvents sink c.sink record ++
          .call (.debugBreak answer) :: answer.panicEvents ∧
      (report vm sink record c).state.sink = (record.write sink c.sink).2.2 := by
  have hbreak := Seam.own_debugBreak vm c.seam
  have hwrite : Event.own (record.write sink c.sink).2.1 = (record.write sink c.sink).2.1 :=
    Sink.own_writeLines ..
  refine ⟨(Seam.debugBreak vm c.seam).ending, ?_⟩
  unfold report reportEvents
  cases h : (record.write sink c.sink).1 with
  | none => simp [h, hbreak, hwrite]
  | some error => simp [h, hbreak, hwrite]

end Trap

end Launcher
