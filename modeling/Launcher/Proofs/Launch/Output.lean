import Launcher.Proofs.HashLink.Refinement

/-!
# What a launch adds to standard output

A panic that begins in a launch is the one that the launch ends with. Over a loaded VM library,
which does not panic in the debugger, nobody is told anything before a panic; so on a stream that
takes everything a launch that returns writes the report of its result, and one that panics nothing.

- `Event.panics`, `Launch.run_panics`: the panics that begin in a launch.
- `Event.ownOutput`: what the launcher itself adds to standard output.
- `Launch.run_output`: what a launch over a loaded library adds.
-/

namespace Launcher

/-- The panic of an ending that is one. -/
def Ending.panic? {α : Type} : Ending α → Option Panic
  | .returned _ => none
  | .panicked p => some p

/-! ## Panics -/

namespace Event

/-- The panic that begins with an event. -/
def panic? : Event → Option Panic
  | .panic p => some p
  | _ => none

/-- The panics that begin in a trace, in order. -/
def panics (trace : List Event) : List Panic := trace.filterMap panic?

@[simp] theorem panics_nil : panics [] = [] := rfl

@[simp] theorem panics_append (t u : List Event) : panics (t ++ u) = panics t ++ panics u :=
  List.filterMap_append ..

@[simp] theorem panics_call (c : Vm.Call) (t : List Event) : panics (.call c :: t) = panics t := rfl

@[simp] theorem panics_log (r : Log.Record) (t : List Event) : panics (.log r :: t) = panics t :=
  rfl

@[simp] theorem panics_panic (p : Panic) (t : List Event) :
    panics (.panic p :: t) = p :: panics t := rfl

@[simp] theorem panics_resolve (library symbol : String)
    (answer : Ending (Except Failure Hook)) (t : List Event) :
    panics (.resolve library symbol answer :: t) = panics t := rfl

@[simp] theorem panics_dropHook (hook : Hook) (t : List Event) :
    panics (.dropHook hook :: t) = panics t := rfl

@[simp] theorem panics_panicEvents {α : Type} (ending : Ending α) :
    panics ending.panicEvents = ending.panic?.toList := by
  cases ending <;> rfl

/-- No panic begins on the diagnostics stream. -/
theorem panics_diagnostics (t : List Event) : panics (diagnostics t) = [] := by
  refine List.filterMap_eq_nil_iff.2 fun e he => ?_
  have hdiagnostic := List.of_mem_filter he
  cases e <;> first | rfl | cases hdiagnostic

/-- No panic is noted beyond the seam. -/
@[simp] theorem panics_own (t : List Event) : panics (own t) = panics t := by
  induction t with
  | nil => rfl
  | cons e t ih =>
    cases e <;> first | exact ih | exact congrArg (_ :: ·) ih

end Event

namespace Launch

variable {σ τ ω : Type}

theorem panics_reportEvents (sink : Sink ω) (w : ω) (record : FaultRecord) :
    Event.panics (Trap.reportEvents sink w record) = [] := by
  rw [← diagnostics_reportEvents, Event.panics_diagnostics]

theorem panics_aftermath (guarded : Guarded) (topic : Log.Topic) (done : Log.Record)
    (sink : Sink ω) (w : ω) :
    Event.panics (guarded.aftermath topic done sink w) = guarded.answer.panic?.toList := by
  cases guarded <;> simp [Guarded.aftermath, Guarded.answer, panics_reportEvents, Ending.panic?]

/-- No panic begins while something is given up. -/
theorem panics_of_releasing {t : List Event} (h : ∀ e ∈ t, e.Releasing) : Event.panics t = [] := by
  refine List.filterMap_eq_nil_iff.2 fun e he => ?_
  cases h e he <;> rfl

theorem panics_dropEvents (code : ParsedCode) : Event.panics (Session.dropEvents code) = [] :=
  panics_of_releasing (Session.releasing_dropEvents code)

/-- The panic that begins in a step is the one that it ends with. -/
theorem panics_events (step : Step) (sink : Sink ω) (w : ω) :
    Event.panics (step.events sink w) = step.verdict.panic?.toList := by
  cases step with
  | start answer => cases answer <;> rfl
  | load path loading => rcases loading with _ | _ | ⟨_, (_ | _) | _⟩ <;> rfl
  | allocate code answer =>
    rcases answer with (_ | _) | p
    · exact panics_dropEvents code
    · rfl
    · exact congrArg (p :: ·) (panics_dropEvents code)
  | link m options answer => rcases answer with (_ | _) | _ <;> rfl
  | compact => rfl
  | resolve library symbol answer => rcases answer with (_ | _) | _ <;> rfl
  | setup hook options guarded => exact panics_aftermath guarded _ _ sink w
  | entry m answer => rcases answer with (_ | _) | _ <;> rfl
  | call closure guarded => exact panics_aftermath guarded _ _ sink w

/-- The panic that begins in a row of steps is the one that decides. -/
theorem Attempts.panics {agenda : List Kind} {steps : List Step} (h : Attempts agenda steps) :
    steps.flatMap (fun step => step.verdict.panic?.toList) = (decision steps).panic?.toList := by
  induction agenda generalizing steps with
  | nil =>
    obtain rfl : steps = [] := h
    rfl
  | cons kind agenda ih =>
    obtain ⟨step, rest, rfl, -, hon, hstop⟩ := h
    -- a step that succeeds did not panic, and the first other one is the last
    by_cases hs : step.Succeeds
    · rw [decision_cons_success hs, ← ih (hon hs), List.flatMap_cons,
        show step.verdict = .returned (.ok ()) from hs]
      rfl
    · rw [hstop hs, decision_singleton]
      simp

theorem panics_releaseEvents (held : Holdings) : Event.panics held.releaseEvents = [] :=
  panics_of_releasing held.releasing_releaseEvents

/-- The panic that begins in a launch, if there is one, is the one that it ends with. -/
theorem run_panics (l : Launch σ ω) (options : HostOptions) (console : Console σ ω) :
    Event.panics (l.run options (.bare console)).trace =
      (l.run options (.bare console)).ending.panic?.toList := by
  obtain ⟨steps, hcourse, hending, hown, -⟩ := l.run_course options console
  have hsteps : Event.panics (steps.flatMap (Step.events l.sink console.sink)) =
      (decision steps).panic?.toList := by
    rw [← Attempts.panics (Course.attempts l hcourse), Event.panics, List.filterMap_flatMap]
    exact congrArg (List.flatMap · steps)
      (funext fun step => panics_events step l.sink console.sink)
  have hclosing : Event.panics (l.closingEvents console.sink (decision steps)) = [] := by
    unfold closingEvents
    split
    · rfl
    · rw [Event.panics_log, ← diagnostics_diagnoseEvents, Event.panics_diagnostics]
    · rfl
  rw [← Event.panics_own, hown, hending, runEvents]
  simp [hsteps, panics_releaseEvents, hclosing]

end Launch

/-! ## Output -/

namespace Event

/-- Whether an event is a line that is printed. -/
def isPrint : Event → Bool
  | .print .. => true
  | _ => false

/-- What the launcher itself adds to standard output. -/
def ownOutput (trace : List Event) : List UInt8 := (own trace).flatMap output

@[simp] theorem ownOutput_nil : ownOutput [] = [] := rfl

@[simp] theorem ownOutput_append (t u : List Event) :
    ownOutput (t ++ u) = ownOutput t ++ ownOutput u := by
  simp [ownOutput]

@[simp] theorem ownOutput_log (r : Log.Record) (t : List Event) :
    ownOutput (.log r :: t) = ownOutput t := rfl

@[simp] theorem ownOutput_print (text : String) (t : List Event) :
    ownOutput (.print .output text :: t) = Text.Utf8.encode text ++ ownOutput t := rfl

/-- Where nothing is printed, the output is what was written to the diagnostics stream. -/
theorem ownOutput_of_diagnostics {t : List Event} (h : ∀ e ∈ t, e.isPrint = false) :
    ownOutput t = (diagnostics t).flatMap output := by
  induction t with
  | nil => rfl
  | cons e t ih =>
    obtain ⟨he, ht⟩ := List.forall_mem_cons.1 h
    have hrest := ih ht
    cases e with
    | print => cases he
    | write bytes error => exact congrArg (Event.output (.write bytes error) ++ ·) hrest
    | log r =>
      -- such a record may belong to the stream, but adds nothing to what was written
      cases hr : r.isStreamError with
      | true =>
        have hcons : diagnostics (.log r :: t) = .log r :: diagnostics t := by
          simp [diagnostics, isDiagnostic, hr]
        rw [hcons]
        exact hrest
      | false =>
        rw [diagnostics_log hr]
        exact hrest
    | _ => exact hrest

end Event

/-- Nothing is printed at the seam. -/
theorem Crossing.not_print {σ : Type} {vm : Vm σ} {resolver : Resolver σ} {s s' : Seam σ}
    {t : List Event} (h : Crossing vm resolver s t s') : ∀ e ∈ t, e.isPrint = false := by
  have hown : ∀ e ∈ Event.own t, e.isPrint = false := by
    have hpanics : ∀ {α : Type} {ending : Ending α},
        ∀ e ∈ ending.panicEvents, e.isPrint = false := by
      intro α ending e he
      cases ending with
      | returned => cases he
      | panicked p => rw [List.mem_singleton.1 he]; rfl
    cases h with
    | globalInit => simp [Event.isPrint]
    | globalTeardown => simp [Event.isPrint]
    | work work =>
      obtain ⟨c, panics, hown, -⟩ := work.own_perform vm s
      simp [hown, Event.isPrint]
    | resolve library symbol =>
      rw [Seam.own_resolve]
      exact List.forall_mem_cons.2 ⟨rfl, hpanics⟩
    | dropHook hook => simp [Event.isPrint]
    | internal e he =>
      cases e <;> first | (simp [Event.own, Event.isNote, Event.isPrint]; done) | cases he
  -- what is noted beyond the seam is not printed by the launcher
  intro e he
  cases hnote : e.isNote with
  | true =>
    cases e <;> first | rfl | cases hnote
  | false => exact hown e ((Event.mem_own hnote).2 he)

theorem Trail.not_print {σ : Type} {vm : Vm σ} {resolver : Resolver σ} {s s' : Seam σ}
    {t : List Event} (h : Trail vm resolver s t s') : ∀ e ∈ t, e.isPrint = false := by
  induction h with
  | nil => exact List.forall_mem_nil _
  | cons hcrossing _ ih => exact List.forall_mem_append.2 ⟨hcrossing.not_print, ih⟩

/-- A stream that takes everything is given all lines. -/
theorem Sink.output_writeLines {ω : Type} {sink : Sink ω}
    (h : ∀ bytes w, (sink.writeAll bytes w).1 = none) (lines : List String) (w : ω) :
    (sink.writeLines lines w).2.1.flatMap Event.output = lines.flatMap Text.Utf8.encode := by
  induction lines generalizing w with
  | nil => rfl
  | cons line rest ih =>
    have hw : (sink.write line w).1 = none := h _ w
    have hevent : (sink.write line w).2.1 = [.write (Text.Utf8.encode line) none] :=
      congrArg (fun error => [Event.write (Text.Utf8.encode line) error]) hw
    unfold Sink.writeLines
    simp [hw, hevent, ih, Event.output]

namespace Launch

variable {τ ω : Type}

/-- On a stream that takes everything, telling people a result writes its report. -/
theorem output_tellEvents {sink : Sink ω} (h : ∀ bytes w, (sink.writeAll bytes w).1 = none) (w : ω)
    (result : Except Failure Unit) :
    (tellEvents sink w result).flatMap Event.output = Text.Utf8.encode (report result) := by
  rcases result with failure | _
  · rw [tellEvents, List.flatMap_append, Sink.output_writeLines h, encode_report]
    cases (sink.writeLines failure.lines w).1 <;> simp [Event.output]
  · rfl

/-- Unless stopping in the debugger panics, a launch that panics has reported no fault. -/
theorem Attempts.reported_of_panic {agenda : List Kind} {steps : List Step}
    (h : Attempts agenda steps) {p : Panic} (hd : decision steps = .panicked p)
    (hbreak : ∀ step ∈ steps, .debugBreak (.panicked p) ∉ step.calls) :
    steps.flatMap (fun step => step.reported.toList) = [] := by
  have hguarded : ∀ guarded : Guarded, guarded.answer = .panicked p →
      .debugBreak (.panicked p) ∉ guarded.captureCalls → guarded.reported = none := by
    intro guarded hanswer hcalls
    cases guarded with
    | unbroken fault record q =>
      cases hanswer
      simp [Guarded.captureCalls] at hcalls
    | faulted => cases hanswer
    | _ => rfl
  refine List.flatMap_eq_nil_iff.2 fun step hstep => ?_
  by_cases hs : step.Succeeds
  · rw [hs.reported]
    rfl
  have hv : step.verdict = .panicked p := (h.decision_of_mem hstep hs).symm.trans hd
  have hcalls := hbreak step hstep
  cases step with
  | setup hook options guarded =>
    have hreported := hguarded guarded hv fun hmem => hcalls (List.mem_cons_of_mem _ hmem)
    simp [Step.reported, hreported]
  | call closure guarded =>
    have hreported := hguarded guarded hv fun hmem => hcalls (List.mem_cons_of_mem _ hmem)
    simp [Step.reported, hreported]
  | _ => rfl

variable (l : Launch (HashLink.State τ) ω) (api : HashLink.Api τ) (runtime : HashLink.Runtime)
  (options : HostOptions) (console : Console (HashLink.State τ) ω)

/-- A launch over a loaded library that panics has told nobody anything. -/
theorem diagnostics_of_panic {p : Panic}
    (h : ((l.over api runtime).run options (.bare console)).ending = .panicked p) :
    Event.diagnostics ((l.over api runtime).run options (.bare console)).trace = [] := by
  obtain ⟨steps, hcourse, hending, hown, -⟩ := (l.over api runtime).run_course options console
  have hdecision := hending.symm.trans h
  have htranslated := HashLink.run_translated api runtime l options console
  have hcalls := calls_of_runEvents hown
  -- the library answers whoever stops in the debugger
  have hbreak : ∀ step ∈ steps, .debugBreak (.panicked p) ∉ step.calls := by
    intro step hstep hmem
    have hcall : .debugBreak (.panicked p) ∈
        Event.calls ((l.over api runtime).run options (.bare console)).trace := by
      rw [hcalls]
      exact List.mem_append_left _ (List.mem_flatMap.2 ⟨step, hstep, hmem⟩)
    obtain ⟨calls, hrenders⟩ := htranslated.exists_calls hcall
    cases hrenders
  have hreported := (Course.attempts _ hcourse).reported_of_panic hdecision hbreak
  rw [Event.diagnostics_of_own hown, runEvents, Event.diagnostics_log rfl]
  simp [diagnostics_steps, hreported, hdecision, closingEvents]

/-- What a launch over a loaded library adds to standard output, where that is the stream it tells
people on: the report of its result, and nothing if it panicked. -/
theorem run_output (hresolver : l.resolver.AnswersNoFault)
    (htakes : ∀ bytes w, (l.sink.writeAll bytes w).1 = none) :
    Event.ownOutput ((l.over api runtime).run options (.bare console)).trace =
      match ((l.over api runtime).run options (.bare console)).ending with
      | .returned result => Text.Utf8.encode (report result)
      | .panicked _ => [] := by
  rw [Event.ownOutput_of_diagnostics
    ((l.over api runtime).run_trail options (.bare console)).not_print]
  cases h : ((l.over api runtime).run options (.bare console)).ending with
  | returned result =>
    have hforeign := (l.over api runtime).run_not_foreign hresolver options (.bare console)
    rw [((l.over api runtime).run_told options console hforeign h).1]
    exact output_tellEvents htakes _ result
  | panicked p =>
    rw [l.diagnostics_of_panic api runtime options console h]
    rfl

end Launch

end Launcher
