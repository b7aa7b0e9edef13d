import Launcher.Proofs.Launch.FirstFailure
import Launcher.Proofs.Launch.Release
import Launcher.Proofs.Rehearsal.ScriptedWriter
import Mathlib.Data.List.Basic

/-!
# What people are told

A launch tells people about its failure once: a fault when it is captured, with its call sites, and
any other failure at the end. So everything that happens on the diagnostics stream follows from the
result, and a scripted writer has taken as much of one text as it had room for. The exception is a
fault that the resolver answers with: it was never captured, and at the end faults count as told.

- `Event.diagnostics`: the events of the diagnostics stream.
- `Launch.report`: the text that goes with a result.
- `Launch.run_told`: what happens on the stream follows from the result, whatever the stream does.
- `Launch.told_by_result`: what a scripted writer has taken, and how its failure is logged.
- `Launch.told_otherwise`: nobody is told about a fault of the resolver.
-/

namespace Launcher

/-- Whether a record says that the diagnostics stream failed. -/
def Log.Record.isStreamError (r : Log.Record) : Bool :=
  r.status = .error && (r.topic = .faultReport || r.topic = .diagnostics)

namespace Event

/-- Whether an event belongs to the diagnostics stream: a write, a flush, or the record of a
failure of either. -/
def isDiagnostic : Event → Bool
  | .write .. | .flush _ => true
  | .log r => r.isStreamError
  | _ => false

/-- The events of the diagnostics stream, in order. -/
def diagnostics (trace : List Event) : List Event := trace.filter isDiagnostic

@[simp] theorem diagnostics_nil : diagnostics [] = [] := rfl

@[simp] theorem diagnostics_append (t u : List Event) :
    diagnostics (t ++ u) = diagnostics t ++ diagnostics u :=
  List.filter_append ..

@[simp] theorem diagnostics_call (c : Vm.Call) (t : List Event) :
    diagnostics (.call c :: t) = diagnostics t := rfl

@[simp] theorem diagnostics_panic (p : Panic) (t : List Event) :
    diagnostics (.panic p :: t) = diagnostics t := rfl

@[simp] theorem diagnostics_dropHook (hook : Hook) (t : List Event) :
    diagnostics (.dropHook hook :: t) = diagnostics t := rfl

@[simp] theorem diagnostics_resolve (library symbol : String)
    (answer : Ending (Except Failure Hook)) (t : List Event) :
    diagnostics (.resolve library symbol answer :: t) = diagnostics t := rfl

theorem diagnostics_log {r : Log.Record} (h : r.isStreamError = false) (t : List Event) :
    diagnostics (.log r :: t) = diagnostics t := by
  simp [diagnostics, isDiagnostic, h]

theorem mem_diagnostics {e : Event} (h : e.isDiagnostic = true) {t : List Event} :
    e ∈ diagnostics t ↔ e ∈ t := by
  simp [diagnostics, h]

@[simp] theorem diagnostics_panicEvents {α : Type} (ending : Ending α) :
    diagnostics ending.panicEvents = [] := by
  cases ending <;> rfl

/-- Nothing that is noted beyond the seam happens on the diagnostics stream. -/
@[simp] theorem diagnostics_own (t : List Event) : diagnostics (own t) = diagnostics t := by
  rw [diagnostics, own, List.filter_filter]
  refine List.filter_congr fun e _ => ?_
  cases e <;> simp [isDiagnostic, isNote]

theorem diagnostics_of_own {t u : List Event} (h : own t = u) : diagnostics t = diagnostics u := by
  rw [← h, diagnostics_own]

end Event

@[simp] theorem Sink.diagnostics_writeLines {ω : Type} (sink : Sink ω) (lines : List String)
    (w : ω) :
    Event.diagnostics (sink.writeLines lines w).2.1 = (sink.writeLines lines w).2.1 := by
  refine List.filter_eq_self.2 fun e he => ?_
  rcases sink.writeLines_events lines w e he with ⟨bytes, error, rfl⟩ | ⟨error, rfl⟩ <;> rfl

/-- Lines are written one after the other, and then flushed, or up to the first write that fails. -/
theorem Sink.writeLines_cases {ω : Type} (sink : Sink ω) (lines : List String) (w : ω) :
    (∃ error : Option IoError, (sink.writeLines lines w).1 = error ∧
      (sink.writeLines lines w).2.1 =
        lines.map (fun line => .write (Text.Utf8.encode line) none) ++ [.flush error]) ∨
    ∃ (before after : List String) (line : String) (error : IoError),
      lines = before ++ line :: after ∧ (sink.writeLines lines w).1 = some error ∧
      (sink.writeLines lines w).2.1 =
        before.map (fun line => .write (Text.Utf8.encode line) none) ++
          [.write (Text.Utf8.encode line) (some error)] := by
  -- on the lines: each is written before the others, in the state that the writer is left in
  induction lines generalizing w with
  | nil => exact .inl ⟨_, rfl, rfl⟩
  | cons line rest ih =>
    unfold Sink.writeLines
    have hevent : (sink.write line w).2.1 =
        [.write (Text.Utf8.encode line) (sink.write line w).1] := rfl
    cases hw : (sink.write line w).1 with
    | some error =>
      refine .inr ⟨[], rest, line, error, rfl, ?_, ?_⟩
      · simp [hw]
      · simp [hw, hevent]
    | none =>
      rcases ih (sink.write line w).2.2 with
        ⟨error, herror, htrace⟩ | ⟨before, after, bad, error, rfl, herror, htrace⟩
      · refine .inl ⟨error, ?_, ?_⟩
        · simp [hw, herror]
        · simp [hw, hevent, htrace]
      · refine .inr ⟨line :: before, after, bad, error, rfl, ?_, ?_⟩
        · simp [hw, herror]
        · simp [hw, hevent, htrace]

/-- The resolver has answered with a fault. It has escaped from no call of the launch, so the trap
has neither captured nor reported it. -/
def Event.ForeignFault (record : FaultRecord) (trace : List Event) : Prop :=
  ∃ library symbol, .resolve library symbol (.returned (.error (.uncaught record))) ∈ trace

/-- The lines in which people are told about a failure. -/
def Failure.lines : Failure → List String
  | .uncaught record => record.lines
  | failure => [Launch.diagnostic failure]

theorem Failure.lines_of_not_fault {failure : Failure} (h : failure.isFault = false) :
    failure.lines = [Launch.diagnostic failure] := by
  cases failure <;> first | rfl | cases h

/-- The record of a fault that a failure is. -/
def Failure.record? : Failure → Option FaultRecord
  | .uncaught record => some record
  | _ => none

theorem Failure.fault_cases (failure : Failure) :
    (∃ record, failure = .uncaught record) ∨ failure.isFault = false ∧ failure.record? = none := by
  cases failure with
  | uncaught record => exact .inl ⟨record, rfl⟩
  | _ => exact .inr ⟨rfl, rfl⟩

namespace Launch

open Log

variable {σ ω : Type}

/-- The text that people are told a result in: nothing for a success, a fault with its call sites,
and the message of any other failure on a line of its own. -/
def report : Except Failure Unit → String
  | .ok () => ""
  | .error (.uncaught record) => record.report
  | .error failure => failure.message ++ FaultRecord.newline

theorem encode_report (failure : Failure) :
    Text.Utf8.encode (report (.error failure)) = failure.lines.flatMap Text.Utf8.encode := by
  cases failure with
  | uncaught record => exact Text.Utf8.encode_join record.lines
  | _ => exact (List.append_nil _).symm

/-- The record of a stream on which people could not be told about a failure. -/
def streamErrorRecord (error : IoError) : Failure → Record
  | .uncaught _ => Trap.reportErrorRecord error
  | failure => diagnosticErrorRecord failure error

/-! ## Telling people -/

/-- The events of telling people a result. -/
def tellEvents (sink : Sink ω) (w : ω) : Except Failure Unit → List Event
  | .ok () => []
  | .error failure =>
    (sink.writeLines failure.lines w).2.1 ++
      ((sink.writeLines failure.lines w).1.toList.map fun error =>
        .log (streamErrorRecord error failure))

/-- The stream after people were told a result. -/
def streamAfter (sink : Sink ω) (w : ω) : Except Failure Unit → ω
  | .ok () => w
  | .error failure => (sink.writeLines failure.lines w).2.2

theorem tellEvents_uncaught (sink : Sink ω) (w : ω) (record : FaultRecord) :
    tellEvents sink w (.error (.uncaught record)) = Trap.reportEvents sink w record := by
  unfold tellEvents Trap.reportEvents FaultRecord.write
  cases h : (sink.writeLines record.lines w).1 <;> simp [Failure.lines, h, streamErrorRecord]

theorem tellEvents_other (sink : Sink ω) (w : ω) {failure : Failure}
    (h : failure.isFault = false) :
    tellEvents sink w (.error failure) = diagnoseEvents sink w failure := by
  have hrecord : ∀ error,
      streamErrorRecord error failure = diagnosticErrorRecord failure error := by
    intro error
    cases failure <;> first | rfl | cases h
  simp only [tellEvents, diagnoseEvents, Failure.lines_of_not_fault h, h, hrecord]
  cases (sink.writeLines [diagnostic failure] w).1 <;> rfl

theorem diagnostics_tellEvents (sink : Sink ω) (w : ω) (result : Except Failure Unit) :
    Event.diagnostics (tellEvents sink w result) = tellEvents sink w result := by
  have hrecord : ∀ error failure, (streamErrorRecord error failure).isStreamError = true := by
    intro error failure
    cases failure <;> rfl
  rcases result with failure | _
  · simp only [tellEvents, Event.diagnostics_append, Sink.diagnostics_writeLines]
    cases (sink.writeLines failure.lines w).1 with
    | none => rfl
    | some error => simp [Event.diagnostics, Event.isDiagnostic, hrecord]
  · rfl

theorem diagnostics_reportEvents (sink : Sink ω) (w : ω) (record : FaultRecord) :
    Event.diagnostics (Trap.reportEvents sink w record) = Trap.reportEvents sink w record := by
  rw [← tellEvents_uncaught, diagnostics_tellEvents]

theorem diagnostics_diagnoseEvents (sink : Sink ω) (w : ω) (failure : Failure) :
    Event.diagnostics (diagnoseEvents sink w failure) = diagnoseEvents sink w failure := by
  cases hf : failure.isFault with
  | true => simp [diagnoseEvents, hf]
  | false => rw [← tellEvents_other sink w hf, diagnostics_tellEvents]

/-! ## What is told by the steps -/

end Launch

/-- The fault that was reported after a guarded call. -/
def Guarded.reported : Guarded → Option FaultRecord
  | unbroken _ record _ | faulted _ record => some record
  | _ => none

namespace Launch

variable {σ ω : Type}

/-- The fault that was reported in a step. -/
def Step.reported : Step → Option FaultRecord
  | setup _ _ guarded | call _ guarded => guarded.reported
  | _ => none

theorem diagnostics_aftermath (guarded : Guarded) {topic : Log.Topic} {done : Log.Record}
    (hdone : done.isStreamError = false)
    (hcaught : ∀ record, (Trap.caughtRecord topic record).isStreamError = false) (sink : Sink ω)
    (w : ω) :
    Event.diagnostics (guarded.aftermath topic done sink w) =
      guarded.reported.toList.flatMap (Trap.reportEvents sink w) := by
  cases guarded <;>
    simp [Guarded.aftermath, Guarded.reported, Event.diagnostics_log, hdone, hcaught,
      diagnostics_reportEvents]

/-- Nothing is told while something is given up. -/
theorem diagnostics_of_releasing {t : List Event} (h : ∀ e ∈ t, e.Releasing) :
    Event.diagnostics t = [] := by
  refine List.filter_eq_nil_iff.2 fun e he => ?_
  cases h e he <;> exact Bool.false_ne_true

@[simp] theorem diagnostics_dropEvents (code : ParsedCode) :
    Event.diagnostics (Session.dropEvents code) = [] :=
  diagnostics_of_releasing (Session.releasing_dropEvents code)

/-- Of the events of a step, the report of a fault belongs to the diagnostics stream. -/
theorem diagnostics_events (step : Step) (sink : Sink ω) (w : ω) :
    Event.diagnostics (step.events sink w) =
      step.reported.toList.flatMap (Trap.reportEvents sink w) := by
  cases step with
  | start answer => cases answer <;> rfl
  | load path loading => rcases loading with _ | _ | ⟨_, (_ | _) | _⟩ <;> rfl
  | allocate code answer =>
    rcases answer with (_ | _) | _
    · exact diagnostics_dropEvents code
    · rfl
    · exact diagnostics_dropEvents code
  | link m options answer => rcases answer with (_ | _) | _ <;> rfl
  | compact => rfl
  | resolve library symbol answer => exact Event.diagnostics_panicEvents answer
  | setup hook options guarded =>
    exact diagnostics_aftermath guarded rfl (fun _ => rfl) sink w
  | entry m answer => exact Event.diagnostics_panicEvents answer
  | call closure guarded => exact diagnostics_aftermath guarded rfl (fun _ => rfl) sink w

/-- A step writes to the diagnostics stream to report a fault. -/
theorem stream_eq (step : Step) (sink : Sink ω) (w : ω) :
    step.stream sink w =
      step.reported.toList.foldl (fun w record => (record.write sink w).2.2) w := by
  cases step with
  | setup hook options guarded => cases guarded <;> rfl
  | call closure guarded => cases guarded <;> rfl
  | _ => rfl

/-- A step that succeeds has reported no fault. -/
theorem Step.Succeeds.reported {step : Step} (h : step.Succeeds) : step.reported = none := by
  have hguarded : ∀ guarded : Guarded, guarded.answer = .returned (.ok ()) →
      guarded.reported = none := by
    intro guarded hg
    cases guarded <;> first | rfl | cases hg
  cases step with
  | setup hook options guarded => exact hguarded guarded h
  | call closure guarded => exact hguarded guarded h
  | _ => rfl

/-- A step has reported the fault that it fails with, if that is how it fails and the fault is not
the resolver's. -/
theorem Step.FailsWith.reported {step : Step} {failure : Failure} (h : step.FailsWith failure)
    (hread : ∀ path failure, step = .load path (.unread failure) → Image.Unreadable path failure)
    (hforeign : ∀ library symbol record,
      step ≠ .resolve library symbol (.returned (.error (.uncaught record)))) :
    step.reported = failure.record? := by
  cases h with
  | unread path failure => cases hread path failure rfl <;> rfl
  | resolve library symbol failure =>
    cases failure with
    | uncaught record => exact absurd rfl (hforeign library symbol record)
    | _ => rfl
  | _ => rfl

/-- The faults that were reported in the steps of a launch that returns: the one it fails with. -/
theorem Course.reported {l : Launch σ ω} {options : HostOptions} {steps : List Step}
    (h : l.Course options steps)
    (hforeign : ∀ library symbol record,
      .resolve library symbol (.returned (.error (.uncaught record))) ∉ steps)
    {result : Except Failure Unit} (hd : decision steps = .returned result) :
    steps.flatMap (fun step => step.reported.toList) =
      match result with
      | .ok () => []
      | .error failure => failure.record?.toList := by
  have hattempts := Course.attempts l h
  have hnone : ∀ steps : List Step, (∀ step ∈ steps, step.Succeeds) →
      steps.flatMap (fun step => step.reported.toList) = [] := by
    intro steps hs
    refine List.flatMap_eq_nil_iff.2 fun step hstep => ?_
    rw [(hs step hstep).reported]
    rfl
  rcases result with failure | _
  · -- the steps before the last succeeded and reported nothing
    obtain ⟨before, step, rfl, hbefore, hfails⟩ := (hattempts.decision_error_iff failure).1 hd
    have hstep : step ∈ before ++ [step] := List.mem_append_right _ List.mem_cons_self
    have hreported := hfails.reported (h.unreadable step hstep) fun library symbol record heq =>
      hforeign library symbol record (heq ▸ hstep)
    simp [hnone before hbefore, hreported]
  · exact hnone steps (hattempts.decision_ok_iff.1 hd).2

/-- The events of the steps on the diagnostics stream: the report of each reported fault. -/
theorem diagnostics_steps (steps : List Step) (sink : Sink ω) (w : ω) :
    Event.diagnostics (steps.flatMap (Step.events sink w)) =
      (steps.flatMap fun step => step.reported.toList).flatMap (Trap.reportEvents sink w) := by
  rw [List.flatMap_assoc, Event.diagnostics, List.filter_flatMap]
  exact congrArg (List.flatMap · steps) (funext fun step => diagnostics_events step sink w)

/-- The stream after the steps: each reported fault was written to it. -/
theorem stream_steps (steps : List Step) (sink : Sink ω) (w : ω) :
    steps.foldl (Step.stream sink) w =
      (steps.flatMap fun step => step.reported.toList).foldl
        (fun w record => (record.write sink w).2.2) w := by
  rw [List.foldl_flatMap]
  exact congrArg (List.foldl · w steps)
    (funext fun w => funext fun step => stream_eq step sink w)

/-! ## What is told by a launch -/

@[simp] theorem diagnostics_releaseEvents (held : Holdings) :
    Event.diagnostics held.releaseEvents = [] :=
  diagnostics_of_releasing held.releasing_releaseEvents

/-- Telling people about a failure leaves its events and changes nothing but the stream. -/
theorem diagnose_apply (l : Launch σ ω) (s : Stage σ ω) (failure : Failure) :
    l.diagnose failure s =
      ⟨.returned (), diagnoseEvents l.sink s.console.sink failure,
        { s with console.sink :=
            if failure.isFault then s.console.sink
            else (l.sink.writeLines [diagnostic failure] s.console.sink).2.2 }⟩ := by
  unfold diagnose diagnoseEvents
  by_cases hf : failure.isFault = true
  · simp [hf]
  simp only [if_neg hf]
  cases hw : (l.sink.writeLines [diagnostic failure] s.console.sink).1 <;> simp [hw]

/-- A launch that returns goes through its steps and their release after its first record. After
that it logs its result, and tells people about a failure that is no fault. -/
theorem run_returned (l : Launch σ ω) (options : HostOptions) (console : Console σ ω)
    (result : Except Failure Unit) :
    (l.run options (.bare console)).ending = .returned result →
      (l.sequence options (.bare console)).ending = .returned result ∧
        (l.run options (.bare console)).trace =
          .log l.startRecord :: ((l.sequence options (.bare console)).trace ++
            l.closingEvents (l.sequence options (.bare console)).state.console.sink
              (.returned result)) ∧
        (l.run options (.bare console)).state.console.sink =
          match result with
          | .ok () => (l.sequence options (.bare console)).state.console.sink
          | .error failure =>
            (l.diagnose failure (l.sequence options (.bare console)).state).state.console.sink := by
  intro h
  unfold run at h ⊢
  rw [Act.emit_bind] at h ⊢
  rcases hsequence : (l.sequence options (.bare console)).ending with (failure | _) | p
  · -- telling people cannot panic, so the ending is that of the steps
    have hdiagnose := l.diagnose_apply (l.sequence options (.bare console)).state failure
    rw [Act.bind_returned _ hsequence] at h ⊢
    simp only [Act.emit_bind] at h ⊢
    rw [Act.bind_returned _ (congrArg Outcome.ending hdiagnose)] at h ⊢
    cases h
    simp [hdiagnose, closingEvents]
  · rw [Act.bind_returned _ hsequence] at h ⊢
    cases h
    exact ⟨rfl, rfl, rfl⟩
  · rw [Act.bind_panicked _ hsequence] at h
    cases h

/-- A launch fails with the fault that its resolver answers with. -/
theorem run_of_foreign (l : Launch σ ω) (options : HostOptions) (console : Console σ ω)
    {record : FaultRecord}
    (h : Event.ForeignFault record (l.run options (.bare console)).trace) :
    (l.run options (.bare console)).ending = .returned (.error (.uncaught record)) := by
  obtain ⟨steps, hcourse, hending, hown, -⟩ := l.run_course options console
  obtain ⟨library, symbol, hmem⟩ := h
  exact hending.trans
    ((Course.attempts l hcourse).decision_of_mem (resolve_mem_steps hown hmem) nofun)

/-- What happens on the diagnostics stream of a launch that returns is that people are told the
result, once, unless that is a fault of the resolver. -/
theorem run_told (l : Launch σ ω) (options : HostOptions) (console : Console σ ω)
    (hforeign : ∀ record, ¬ Event.ForeignFault record (l.run options (.bare console)).trace)
    {result : Except Failure Unit}
    (h : (l.run options (.bare console)).ending = .returned result) :
    Event.diagnostics (l.run options (.bare console)).trace =
        tellEvents l.sink console.sink result ∧
      (l.run options (.bare console)).state.console.sink =
        streamAfter l.sink console.sink result := by
  obtain ⟨steps, hcourse, hending, hown, -, hsink⟩ := l.sequence_course options console
  obtain ⟨hsequence, htrace, hstream⟩ := l.run_returned options console result h
  have hsteps := Event.diagnostics_of_own hown
  rw [Event.diagnostics_append, diagnostics_steps, diagnostics_releaseEvents,
    List.append_nil] at hsteps
  -- a step with such an answer would have left it in the trace
  have hresolved : ∀ library symbol record,
      .resolve library symbol (.returned (.error (.uncaught record))) ∉ steps := by
    intro library symbol record hmem
    refine hforeign record ⟨library, symbol, ?_⟩
    have hevent := List.mem_append_left (heldAfter steps).releaseEvents
      (resolve_mem_flatMap l.sink console.sink hmem)
    rw [← hown, Event.mem_own rfl] at hevent
    rw [htrace]
    exact List.mem_cons_of_mem _ (List.mem_append_left _ hevent)
  have hreported := hcourse.reported hresolved (hending.symm.trans hsequence)
  rw [stream_steps, hreported] at hsink
  rw [hreported] at hsteps
  rw [htrace, hstream, Event.diagnostics_log rfl, Event.diagnostics_append, hsteps]
  rcases result with failure | _
  · have hclosing : ∀ t, Event.diagnostics (.log (failureRecord failure) :: t) =
        Event.diagnostics t := Event.diagnostics_log rfl
    simp only [closingEvents, hclosing, diagnose_apply, diagnostics_diagnoseEvents, hsink]
    rcases failure.fault_cases with ⟨record, rfl⟩ | ⟨hfault, hrecord⟩
    · -- a fault was told when it was captured
      rw [tellEvents_uncaught]
      simp [Failure.record?, Failure.isFault, diagnoseEvents, streamAfter, Failure.lines,
        FaultRecord.write]
    · rw [tellEvents_other _ _ hfault]
      simp [hrecord, hfault, streamAfter, Failure.lines_of_not_fault hfault]
  · exact ⟨rfl, hsink⟩

/-! ## Failing streams -/

/-- After a write that failed, people are told nothing more: there is only a log record left. -/
theorem tellEvents_stops (sink : Sink ω) (w : ω) {result : Except Failure Unit}
    {before after : List Event} {bytes : List UInt8} {error : IoError}
    (h : tellEvents sink w result = before ++ .write bytes (some error) :: after) :
    ∀ e ∈ after, ∃ r, e = .log r := by
  rcases result with failure | _
  · simp only [tellEvents] at h
    have hlogs : .write bytes (some error) ∉ (sink.writeLines failure.lines w).1.toList.map
        fun error => Event.log (streamErrorRecord error failure) := by
      simp
    have hwritten : ∀ lines : List String, .write bytes (some error) ∉
        lines.map fun line => Event.write (Text.Utf8.encode line) none := by
      simp
    rcases sink.writeLines_cases failure.lines w with
      ⟨flushed, -, htrace⟩ | ⟨lines, rest, line, failed, -, -, htrace⟩ <;> rw [htrace] at h
    · -- no write failed
      have hmem := h ▸ List.mem_append_right before List.mem_cons_self
      rcases List.mem_append.1 hmem with hmem | hmem
      · simp at hmem
      · exact absurd hmem hlogs
    · rw [List.append_assoc, List.singleton_append,
        List.append_cons_inj_of_notMem (hwritten lines) hlogs] at h
      obtain ⟨-, -, rfl⟩ := h
      simp
  · cases before <;> cases h

open Log

/-- The records of failures of the diagnostics stream, in order. -/
def streamErrors (trace : List Event) : List Record :=
  (Event.diagnostics trace).filterMap Event.record?

/-- A failure is logged with the error that ended the report of it. -/
theorem streamErrors_tellEvents (sink : Sink ω) (w : ω) (failure : Failure) :
    streamErrors (tellEvents sink w (.error failure)) =
      (sink.writeLines failure.lines w).1.toList.map (streamErrorRecord · failure) := by
  have hwritten : (sink.writeLines failure.lines w).2.1.filterMap Event.record? = [] := by
    refine List.filterMap_eq_nil_iff.2 fun e he => ?_
    rcases sink.writeLines_events failure.lines w e he with
      ⟨bytes, error, rfl⟩ | ⟨error, rfl⟩ <;> rfl
  rw [streamErrors, diagnostics_tellEvents]
  simp only [tellEvents, List.filterMap_append, hwritten, List.nil_append]
  cases (sink.writeLines failure.lines w).1 <;> rfl

/-- A failure of the stream is logged if a write or the flush failed, and only then. -/
theorem streamErrors_ne_nil_iff (sink : Sink ω) (w : ω) (result : Except Failure Unit) :
    streamErrors (tellEvents sink w result) ≠ [] ↔
      (∃ bytes error, .write bytes (some error) ∈ tellEvents sink w result) ∨
        ∃ error, .flush (some error) ∈ tellEvents sink w result := by
  rcases result with failure | _
  · rw [streamErrors_tellEvents]
    simp only [tellEvents]
    rcases sink.writeLines_cases failure.lines w with
      ⟨flushed, hflushed, htrace⟩ | ⟨lines, rest, line, failed, -, hfailed, htrace⟩
    · rw [htrace, hflushed]
      cases flushed <;> simp
    · rw [htrace, hfailed]
      simp
  · simp [tellEvents, streamErrors]

open Rehearsal (ScriptedWriter)

/-- The records of the trouble that a scripted writer makes when people are told a result. -/
def troubleRecords (w : ScriptedWriter) : Except Failure Unit → List Record
  | .ok () => []
  | .error failure =>
    (w.trouble (Text.Utf8.encode (report (.error failure)))).toList.map
      (streamErrorRecord · failure)

/-- What people have been told of a result through a scripted writer. -/
structure Told (w : ScriptedWriter) (result : Except Failure Unit)
    (o : Outcome Event (Stage σ ScriptedWriter) (Except Failure Unit)) : Prop where
  /-- The writer has taken as much of the report as it had room for, and nothing else. -/
  taken : o.state.console.sink.taken = w.taken ++ w.admitted (Text.Utf8.encode (report result))
  /-- It would have taken the same of the report in any other pieces. -/
  pieces : ∀ pieces : List (List UInt8), pieces.flatten = Text.Utf8.encode (report result) →
    (ScriptedWriter.writePieces pieces w).2.taken = o.state.console.sink.taken
  /-- It was flushed once if it has taken a whole report, and otherwise never. -/
  flushes : o.state.console.sink.flushes =
    w.flushes + if report result ≠ "" ∧ w.fits (Text.Utf8.encode (report result)) then 1 else 0
  /-- Nothing is written or flushed after a write that failed. -/
  stops : ∀ (before after : List Event) (bytes : List UInt8) (error : IoError),
    Event.diagnostics o.trace = before ++ .write bytes (some error) :: after →
      ∀ e ∈ after, ∃ r, e = .log r
  /-- A failure of the stream is logged once. -/
  errors : streamErrors o.trace = troubleRecords w result
  /-- It is logged if a write or the flush failed, and only then. -/
  logged : streamErrors o.trace ≠ [] ↔
    (∃ bytes error, .write bytes (some error) ∈ o.trace) ∨ ∃ error, .flush (some error) ∈ o.trace

theorem report_ne_empty (failure : Failure) : report (.error failure) ≠ "" := by
  cases failure <;>
    simp [report, FaultRecord.report, FaultRecord.lines, FaultRecord.heading, FaultRecord.newline]

/-- A launch that returns tells people its result once. Its writer takes as much of the report as
it has room for, in whatever pieces the report comes, and is flushed if that was all of it. A
failure of the writer is logged and ends the report. All this if the resolver answers with no fault
of its own. -/
theorem told_by_result {l : Launch σ ScriptedWriter} (hl : l.sink = ScriptedWriter.sink)
    (options : HostOptions) (console : Console σ ScriptedWriter) (hw : console.sink.GetsOn)
    (hforeign : ∀ record, ¬ Event.ForeignFault record (l.run options (.bare console)).trace)
    {result : Except Failure Unit}
    (h : (l.run options (.bare console)).ending = .returned result) :
    Told console.sink result (l.run options (.bare console)) := by
  obtain ⟨htrace, hstream⟩ := l.run_told options console hforeign h
  rw [hl] at htrace hstream
  have htold : streamErrors (tellEvents ScriptedWriter.sink console.sink result) =
      streamErrors (l.run options (.bare console)).trace := by
    rw [streamErrors, diagnostics_tellEvents, ← htrace]
    rfl
  have htaken : (l.run options (.bare console)).state.console.sink.taken =
      console.sink.taken ++ console.sink.admitted (Text.Utf8.encode (report result)) := by
    rw [hstream]
    -- the pieces in which a report is written make no difference to such a writer
    rcases result with failure | _
    · rw [encode_report]
      simp only [streamAfter, (ScriptedWriter.writeLines_spec hw failure.lines).2]
      rfl
    · show console.sink.taken = console.sink.taken ++ console.sink.admitted []
      cases hb : console.sink.budget <;> simp [ScriptedWriter.admitted, hb]
  constructor
  case taken => exact htaken
  case pieces =>
    intro pieces hpieces
    rw [ScriptedWriter.writePieces_eq hw, hpieces, ScriptedWriter.writeAll_eq hw, htaken]
    rfl
  case flushes =>
    rw [hstream]
    rcases result with failure | _
    · rw [encode_report]
      simp only [streamAfter, (ScriptedWriter.writeLines_spec hw failure.lines).2]
      simp [ScriptedWriter.reporting, report_ne_empty]
    · simp [report, streamAfter]
  case stops =>
    intro before after bytes error hsplit
    exact tellEvents_stops _ _ (htrace.symm.trans hsplit)
  case errors =>
    rw [← htold]
    rcases result with failure | _
    · rw [streamErrors_tellEvents, (ScriptedWriter.writeLines_spec hw failure.lines).1,
        ← encode_report]
      rfl
    · rfl
  case logged =>
    have hmem : ∀ e : Event, e.isDiagnostic = true → (e ∈ (l.run options (.bare console)).trace ↔
        e ∈ tellEvents ScriptedWriter.sink console.sink result) := by
      intro e he
      rw [← htrace, Event.mem_diagnostics he]
    simp only [← htold, streamErrors_ne_nil_iff, hmem (.write _ _) rfl, hmem (.flush _) rfl]

/-- A writer that is interrupted at first, takes two octets at a time, and five in all. -/
def shortWriter : ScriptedWriter := ⟨some 5, none, none, 2, some 2, [], 0⟩

/-- A launch without its image that tells such a writer. -/
def misplaced : Launch Rehearsal.ScriptedVm ScriptedWriter :=
  { rehearsal with sink := ScriptedWriter.sink, opening := fun _ => .error .nulInPath }

/-- The image is not found, and five octets of the message are taken. -/
theorem told_by_result_rehearsal :
    Told shortWriter (.error (.imageNotFound .empty .nulInPath))
        (misplaced.run .null (.bare { rehearsalConsole with sink := shortWriter })) ∧
      (misplaced.run .null
        (.bare { rehearsalConsole with sink := shortWriter })).state.console.sink.taken =
        Text.Utf8.encode "File " := by
  have hending : (misplaced.run .null
      (.bare { rehearsalConsole with sink := shortWriter })).ending =
      .returned (.error (.imageNotFound .empty .nulInPath)) := rfl
  have hhooks : Event.hooks (misplaced.run .null
      (.bare { rehearsalConsole with sink := shortWriter })).trace = [] := rfl
  have htold := told_by_result (l := misplaced) rfl .null
    { rehearsalConsole with sink := shortWriter } ⟨fun n h => by cases h; decide, nofun⟩
    (fun record hforeign => ?asked) hending
  case asked =>
    -- no hook is asked for without an image
    obtain ⟨library, symbol, hmem⟩ := hforeign
    rw [← Event.mem_hooks rfl, hhooks] at hmem
    cases hmem
  refine ⟨htold, ?_⟩
  rw [htold.taken]
  rfl

/-- A launch whose resolver answers that a fault escaped. -/
def unguarded : Launch Rehearsal.ScriptedVm ScriptedWriter :=
  { rehearsal with
    resolver := ⟨fun _ _ s => ⟨.returned (.error (.uncaught ⟨"boom", []⟩)), [], s⟩,
      fun _ s => ((), [], s)⟩
    sink := ScriptedWriter.sink }

/-- A writer that takes everything and cannot be flushed. -/
def cloggedWriter : ScriptedWriter :=
  ⟨none, none, some (.reported .brokenPipe "clogged"), 0, none, [], 0⟩

/-- Nobody is told about a fault that the resolver answers with, although the writer would take
everything. And a failure of the stream is logged where every write succeeded: that of the flush. -/
theorem told_otherwise :
    let fault := unguarded.run .null (.bare { rehearsalConsole with sink := cloggedWriter })
    let flush := misplaced.run .null (.bare { rehearsalConsole with sink := cloggedWriter })
    (cloggedWriter.budget = none ∧ cloggedWriter.GetsOn) ∧
    (fault.ending = .returned (.error (.uncaught ⟨"boom", []⟩)) ∧
      report (.error (.uncaught ⟨"boom", []⟩)) = "Uncaught exception: boom\n" ∧
      fault.state.console.sink.taken = [] ∧ fault.state.console.sink.flushes = 0) ∧
    flush.ending = .returned (.error (.imageNotFound .empty .nulInPath)) ∧
      (∀ bytes error, .write bytes (some error) ∉ flush.trace) ∧
      (streamErrors flush.trace).length = 1 := by
  refine ⟨⟨rfl, nofun, nofun⟩, ⟨rfl, by decide, rfl, rfl⟩, rfl, fun bytes error hmem => ?_, rfl⟩
  have hdiagnostics : Event.diagnostics (misplaced.run .null
      (.bare { rehearsalConsole with sink := cloggedWriter })).trace =
      [.write (Text.Utf8.encode "File not found ''\n") none, .flush cloggedWriter.flushError,
        .log (diagnosticErrorRecord (.imageNotFound .empty .nulInPath)
          (.reported .brokenPipe "clogged"))] := rfl
  rw [← Event.mem_diagnostics rfl, hdiagnostics] at hmem
  simp at hmem

end Launch

end Launcher
