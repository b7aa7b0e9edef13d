import Launcher.Proofs.HashLink.Refinement
import Launcher.Proofs.Launch.Diagnostics

/-!
# Faults are captured and reported

What the VM knows about a fault it knows until something is released. So a fault that escapes from
a guarded call is described and its call sites are listed directly after the call, then people are
told and the debugger is called, whether or not the diagnostics stream took the report; only then
the module is freed. Where no fault escapes, nobody asks for one, and the result is a fault only if
the resolver has answered with it.

- `Trap.Request`, `Trap.serveAll`: calls under one trap, one after the other.
- `Trap.serveAll_reflects`: each of them is triggered by its own fault, whatever the others came to.
- `Launch.Captured`: a launch around the guarded call from which a fault escaped.
- `Launch.faults_captured`: every fault is captured, reported and returned, and nothing else is but
  a fault of the resolver.
- `Launch.faulted_uncalled`: a launch that returns one.
-/

namespace Launcher

/-! ## One trap, many calls -/

namespace Trap

variable {σ : Type}

/-- A call that is asked for under a trap. -/
inductive Request
  | setup (hook : Hook) (options : HostOptions)
  | run (closure : Closure)

/-- The trap serves a request. -/
def Request.serve (vm : Vm σ) : Request → Act Event (Seam σ) TrapOutcome
  | setup hook options => Trap.setup vm hook options
  | run closure => Trap.run vm closure

/-- The trap serves requests one after the other. A panic is the end of its own request only. -/
def serveAll (vm : Vm σ) : List Request → Quiet Event (Seam σ) (List (Ending TrapOutcome))
  | [] => return []
  | request :: rest => do
    let outcome ← (request.serve vm).caught
    let outcomes ← serveAll vm rest
    return outcome :: outcomes

end Trap

/-- The request that a call across the seam answers, with the answer, if it is a guarded call. -/
def Vm.Call.guarded? : Vm.Call → Option (Trap.Request × Ending (Option Fault))
  | .callSetup hook options answer => some (.setup hook options, answer)
  | .call closure answer => some (.run closure, answer)
  | _ => none

/-- The guarded calls of a trace, with their answers. -/
def Event.guardedCalls (trace : List Event) : List (Trap.Request × Ending (Option Fault)) :=
  (calls trace).filterMap Vm.Call.guarded?

namespace Trap

variable {σ : Type}

/-- An outcome that says of a guarded call just what its answer was. -/
structure Reflects (answer : Ending (Option Fault)) (outcome : Ending TrapOutcome) : Prop where
  /-- The trap is triggered if a fault escaped from the call, and only then. -/
  triggered_iff : ∀ o, outcome = .returned o →
    ((∃ record, o = .triggered record) ↔ ∃ fault, answer = .returned (some fault))
  /-- It panics if the call did, or while it captures a fault that escaped. -/
  panicked : ∀ p, outcome = .panicked p →
    answer = .panicked p ∨ ∃ fault, answer = .returned (some fault)

theorem guardedCalls_append (t u : List Event) :
    Event.guardedCalls (t ++ u) = Event.guardedCalls t ++ Event.guardedCalls u := by
  simp [Event.guardedCalls]

/-- Capturing a fault makes no guarded call. -/
theorem guardedCalls_capture (vm : Vm σ) (topic : Log.Topic) (fault : Fault) (s : Seam σ) :
    Event.guardedCalls (capture vm topic fault s).trace = [] := by
  rcases capture_spec vm topic fault s with
    ⟨p, -, hown⟩ | ⟨message, p, -, hown⟩ | ⟨record, -, hown⟩ <;>
    simp [Event.guardedCalls, Event.calls_of_own hown, Vm.Call.guarded?]

/-- A call under the trap is made once, and the outcome reflects its answer. -/
theorem guard_reflects (vm : Vm σ) (topic : Log.Topic) (done : Log.Record) (s : Seam σ)
    {call : Act Event (Seam σ) (Option Fault)} {traced : Ending (Option Fault) → Vm.Call}
    {request : Request}
    (hcall : Event.own (call s).trace =
      .call (traced (call s).ending) :: (call s).ending.panicEvents)
    (htraced : ∀ answer, (traced answer).guarded? = some (request, answer)) :
    Event.guardedCalls (guard vm topic done call s).trace = [(request, (call s).ending)] ∧
      Reflects (call s).ending (guard vm topic done call s).ending := by
  have hmade : Event.guardedCalls (call s).trace = [(request, (call s).ending)] := by
    simp [Event.guardedCalls, Event.calls_of_own hcall, htraced]
  unfold guard
  rcases h : (call s).ending with (_ | fault) | p
  · -- no fault escaped
    rw [Act.bind_returned _ h]
    refine ⟨?_, ?_, nofun⟩
    · rw [guardedCalls_append, hmade, h]
      rfl
    · rintro _ ⟨⟩
      constructor <;> rintro ⟨_, ⟨⟩⟩
  · -- capturing makes no further guarded call, whether or not it panics
    rw [Act.bind_returned _ h]
    refine ⟨?_, ?_, fun p _ => .inr ⟨fault, rfl⟩⟩
    · rw [guardedCalls_append, hmade, h, guardedCalls_capture, List.append_nil]
    · intro o ho
      rcases capture_spec vm topic fault (call s).state with
        ⟨p, hending, -⟩ | ⟨message, p, hending, -⟩ | ⟨record, hending, -⟩
      · cases hending.symm.trans ho
      · cases hending.symm.trans ho
      · cases hending.symm.trans ho
        exact ⟨fun _ => ⟨fault, rfl⟩, fun _ => ⟨record, rfl⟩⟩
  · rw [Act.bind_panicked _ h]
    refine ⟨hmade.trans (by rw [h]), nofun, ?_⟩
    rintro _ ⟨⟩
    exact .inl rfl

theorem serve_reflects (vm : Vm σ) (request : Request) (s : Seam σ) :
    ∃ answer, Event.guardedCalls (request.serve vm s).trace = [(request, answer)] ∧
      Reflects answer (request.serve vm s).ending := by
  cases request with
  | setup hook options =>
    exact ⟨_, guard_reflects vm _ _ s (Seam.own_callSetup vm hook options s) fun _ => rfl⟩
  | run closure =>
    exact ⟨_, guard_reflects vm _ _ s (Seam.own_guardedCall vm closure s) fun _ => rfl⟩

/-- However many calls are made under one trap, and whatever became of those before, each outcome
reflects the answer of its own call. -/
theorem serveAll_reflects (vm : Vm σ) (requests : List Request) (s : Seam σ) :
    ∃ answers : List (Ending (Option Fault)), answers.length = requests.length ∧
      Event.guardedCalls (serveAll vm requests s).2.1 = requests.zip answers ∧
      List.Forall₂ Reflects answers (serveAll vm requests s).1 := by
  induction requests generalizing s with
  | nil => exact ⟨[], rfl, rfl, .nil⟩
  | cons request rest ih =>
    obtain ⟨answer, hmade, hreflects⟩ := serve_reflects vm request s
    obtain ⟨answers, hlength, hrest, hall⟩ := ih (request.serve vm s).state
    refine ⟨answer :: answers, congrArg Nat.succ hlength, ?_, ?_⟩
    · simp [serveAll, guardedCalls_append, hmade, hrest]
    · exact .cons hreflects hall

end Trap

/-! ## What a launch does about a fault -/

namespace Vm.Call

/-- Whether a call has to do with a fault: it asks about one, or stops in the debugger. -/
def concernsFault : Vm.Call → Bool
  | .describeFault .. | .exceptionStack _ | .debugBreak _ => true
  | _ => false

/-- Whether a call releases something for good: a module, a program or the global state. -/
def releases : Vm.Call → Bool
  | .freeModule _ | .release _ | .globalTeardown => true
  | _ => false

theorem asks_of_fault {c : Vm.Call} {fault : Fault} (h : c.fault? = some fault) :
    c.asks = true := by
  cases c <;> first | rfl | cases h

end Vm.Call

/-- A fault that was captured or reported has escaped from the guarded call. -/
theorem Guarded.fault_of_capture {guarded : Guarded}
    (h : guarded.captureCalls ≠ [] ∨ guarded.reported ≠ none) :
    ∃ fault, guarded.called = .returned (some fault) := by
  cases guarded with
  | panicked | returned => simp [Guarded.captureCalls, Guarded.reported] at h
  | undescribed fault | untraced fault | unbroken fault | faulted fault => exact ⟨fault, rfl⟩

namespace Launch

variable {σ ω : Type}

/-- A launch around a guarded call from which a fault escaped: the events before the call, the
record of the fault, the module that is freed after the report, and the events from then on. -/
structure Captured (l : Launch σ ω) (w : ω)
    (o : Outcome Event (Stage σ ω) (Except Failure Unit)) (c : Vm.Call) (fault : Fault)
    (before : List Event) (record : FaultRecord) (m : ModuleId) (rest : List Event) : Prop where
  /-- Directly after the call that very fault is described and its call sites are listed. The record
  has what was answered, is logged and reported, and the debugger is called. Then the module
  goes. -/
  course : ∃ topic, Event.own o.trace = before ++
    [.call c, .call (.describeFault fault (.returned record.message)),
      .call (.exceptionStack (.returned record.stack)), .log (Trap.caughtRecord topic record)] ++
    Trap.reportEvents l.sink w record ++
    [.call (.debugBreak (.returned ())), .call (.freeModule m)] ++ rest
  /-- Nothing has been released by then. -/
  unreleased : ∀ released ∈ Event.calls before, released.releases = false
  /-- The VM is asked about no other fault, and the debugger is not called again. -/
  once : ∀ other ∈ Event.calls (before ++ rest), other.concernsFault = false
  /-- Nothing happens on the diagnostics stream but the report. -/
  alone : Event.diagnostics (before ++ rest) = []
  told : o.state.console.sink = (record.write l.sink w).2.2
  /-- The launch fails with the record as it was captured. -/
  result : o.ending = .returned (.error (.uncaught record))

/-- A launch in which nobody has anything to do with a fault, but for the resolver. -/
structure Faultless (o : Outcome Event (Stage σ ω) (Except Failure Unit)) : Prop where
  unasked : ∀ c ∈ Event.calls o.trace, c.concernsFault = false
  /-- The launch fails with a fault just if that is what the resolver has answered. -/
  result : ∀ record, o.ending = .returned (.error (.uncaught record)) ↔
    Event.ForeignFault record o.trace

/-! ### What the steps and the release have to do with faults -/

/-- A step from whose call a fault escaped goes on with what became of the fault. -/
theorem Step.events_of_fault {step : Step} {c : Vm.Call} {fault : Fault}
    (hasked : step.asked = some c) (hfault : c.fault? = some fault) :
    ∃ (guarded : Guarded) (topic : Log.Topic) (done : Log.Record),
      guarded.called = .returned (some fault) ∧ step.verdict = guarded.answer ∧
        step.kind ∉ [.start, .load, .allocate] ∧
        ∀ (sink : Sink ω) (w : ω),
          step.events sink w = .call c :: guarded.aftermath topic done sink w := by
  have hcalled : ∀ answer : Ending (Option Fault),
      (∀ hook options, c = .callSetup hook options answer → answer = .returned (some fault)) ∧
      ∀ closure, c = .call closure answer → answer = .returned (some fault) := by
    intro answer
    constructor
    · rintro hook options rfl
      cases answer <;> simp_all [Vm.Call.fault?]
    · rintro closure rfl
      cases answer <;> simp_all [Vm.Call.fault?]
  cases step with
  | setup hook options guarded =>
    cases hasked
    exact ⟨guarded, _, _, (hcalled _).1 hook options rfl, rfl, by simp [Step.kind], fun _ _ => rfl⟩
  | call closure guarded =>
    cases hasked
    exact ⟨guarded, _, _, (hcalled _).2 closure rfl, rfl, by simp [Step.kind], fun _ _ => rfl⟩
  | load path loading =>
    rcases loading with _ | _ | _ <;> cases hasked
    cases hfault
  | _ => cases hasked <;> cases hfault

/-- Nobody asks about a fault when a program is given up. -/
theorem concernsFault_drop (code : ParsedCode) :
    ∀ c ∈ Event.calls (Session.dropEvents code), c.concernsFault = false := by
  obtain ⟨id, _ | _⟩ := code <;> simp [Vm.Call.concernsFault]

/-- Nobody asks about a fault while things are released. -/
theorem concernsFault_release (held : Holdings) :
    ∀ c ∈ Event.calls held.releaseEvents, c.concernsFault = false := by
  obtain ⟨_ | session, _ | ⟨_ | m, ⟨id, _ | _⟩⟩, _ | hook⟩ := held <;>
    simp [Holdings.releaseEvents, Holdings.moduleEvents, Holdings.sessionEvents,
      Holdings.hookEvents, Session.freeEvents, Vm.Call.concernsFault]

/-- A step has to do with a fault only if one escaped from a call in it. -/
theorem Step.fault_of_mem {step : Step} {c : Vm.Call} (hc : c ∈ step.calls)
    (h : c.concernsFault = true) : ∃ d ∈ step.calls, ∃ fault, d.fault? = some fault := by
  have hcaptured : ∀ guarded : Guarded, c ∈ guarded.captureCalls →
      ∃ fault, guarded.called = .returned (some fault) := by
    intro guarded hmem
    exact guarded.fault_of_capture (.inl (List.ne_nil_of_mem hmem))
  cases step with
  | load path loading =>
    rcases loading with _ | _ | ⟨image, answer⟩ <;> simp [Step.calls] at hc
    subst hc
    cases h
  | allocate code answer =>
    by_cases hbuilt : ∃ m, answer = .returned (some m)
    · obtain ⟨m, rfl⟩ := hbuilt
      cases List.mem_singleton.1 hc
      cases h
    · rw [Step.calls, Session.calls_allocateEvents_failed code fun m hm => hbuilt ⟨m, hm⟩] at hc
      rcases List.mem_cons.1 hc with rfl | hc
      · cases h
      · cases (concernsFault_drop code c hc).symm.trans h
  | resolve => cases hc
  | setup hook options guarded =>
    rcases List.mem_cons.1 hc with rfl | hc
    · cases h
    · -- whoever asks about a fault does so behind the call from which it escaped
      obtain ⟨fault, hcalled⟩ := hcaptured guarded hc
      exact ⟨_, List.mem_cons_self, fault, by rw [hcalled]; rfl⟩
  | call closure guarded =>
    rcases List.mem_cons.1 hc with rfl | hc
    · cases h
    · obtain ⟨fault, hcalled⟩ := hcaptured guarded hc
      exact ⟨_, List.mem_cons_self, fault, by rw [hcalled]; rfl⟩
  | _ =>
    cases List.mem_singleton.1 hc
    cases h

/-- A fault was reported in a step only if one escaped from a call in it. -/
theorem Step.fault_of_reported {step : Step} {record : FaultRecord}
    (h : step.reported = some record) : ∃ d ∈ step.calls, ∃ fault, d.fault? = some fault := by
  have hreported : ∀ guarded : Guarded, guarded.reported = some record →
      ∃ fault, guarded.called = .returned (some fault) := by
    intro guarded hg
    exact guarded.fault_of_capture (.inr (by simp [hg]))
  cases step with
  | setup hook options guarded =>
    obtain ⟨fault, hcalled⟩ := hreported guarded h
    exact ⟨_, List.mem_cons_self, fault, by rw [hcalled]; rfl⟩
  | call closure guarded =>
    obtain ⟨fault, hcalled⟩ := hreported guarded h
    exact ⟨_, List.mem_cons_self, fault, by rw [hcalled]; rfl⟩
  | _ => cases h

/-- No fault escapes in a step that succeeds, so nobody asks about one. -/
theorem Step.Succeeds.unconcerned {step : Step} (h : step.Succeeds) :
    ∀ c ∈ step.calls, c.concernsFault = false := by
  intro c hc
  refine Bool.eq_false_iff.2 fun hconcerns => ?_
  obtain ⟨d, hd, fault, hfault⟩ := Step.fault_of_mem hc hconcerns
  obtain ⟨guarded, hcalled, -, hverdict⟩ :=
    Step.of_fault (asked_of_mem hd (Vm.Call.asks_of_fault hfault)) hfault
  exact guarded.not_ok hcalled (hverdict.symm.trans h)

/-- Nothing is released in a step that succeeds. -/
theorem Step.Succeeds.unreleased {step : Step} (h : step.Succeeds) :
    ∀ c ∈ step.calls, c.releases = false := by
  have hcapture : ∀ guarded : Guarded, ∀ c ∈ guarded.captureCalls, c.releases = false := by
    intro guarded
    cases guarded <;> simp [Guarded.captureCalls, Vm.Call.releases]
  cases step with
  | load path loading =>
    rcases loading with _ | _ | ⟨image, answer⟩ <;> simp [Step.calls, Vm.Call.releases]
  | allocate code answer =>
    -- the program would be given up if there was no module
    rcases answer with (_ | m) | p
    · cases h
    · exact List.forall_mem_singleton.2 rfl
    · cases h
  | resolve => exact List.forall_mem_nil _
  | setup hook options guarded => exact List.forall_mem_cons.2 ⟨rfl, hcapture guarded⟩
  | call closure guarded => exact List.forall_mem_cons.2 ⟨rfl, hcapture guarded⟩
  | _ => exact List.forall_mem_singleton.2 rfl

/-! ### What is held when a fault escapes -/

/-- A module is held until the steps are over. -/
theorem module_kept (steps : List Step) {held : Holdings}
    (h : ∃ m code, Holds held (some ⟨some m, code⟩)) :
    ∃ m code, Holds (steps.foldl after held) (some ⟨some m, code⟩) := by
  induction steps generalizing held with
  | nil => exact h
  | cons step rest ih =>
    -- a step may exchange the module that is held, but frees none
    refine ih ?_
    obtain ⟨m, code, hheld⟩ := h
    cases step with
    | start answer =>
      rcases answer with _ | _
      · exact ⟨m, code, hheld⟩
      · exact ⟨m, code, rfl, hheld.module⟩
    | allocate other answer =>
      rcases answer with (_ | n) | _
      · exact ⟨m, code, hheld⟩
      · exact ⟨n, other, rfl, rfl⟩
      · exact ⟨m, code, hheld⟩
    | compact n other => exact ⟨n, _, hheld.session, rfl⟩
    | resolve library symbol answer => exact ⟨m, code, hheld.resolve library symbol answer⟩
    | _ => exact ⟨m, code, hheld⟩

/-- A request and what follows it: nothing, unless its answer has a value. -/
theorem Then.cases {α γ : Type} {step : α → Step} {value : α → Ending (Except Failure γ)}
    {next : γ → List Step → Prop} {steps : List Step} (h : Then step value next steps) :
    (∃ a, steps = [step a]) ∨
      ∃ a c rest, steps = step a :: rest ∧ value a = .returned (.ok c) ∧ next c rest := by
  obtain ⟨a, rest, rfl, hrest⟩ := h
  rcases hvalue : value a with (failure | c) | p <;> rw [hvalue] at hrest
  · exact .inl ⟨a, congrArg _ hrest⟩
  · exact .inr ⟨a, c, rest, rfl, hvalue, hrest⟩
  · exact .inl ⟨a, congrArg _ hrest⟩

/-- Once a fault can escape, a module is held. -/
theorem Course.holds {l : Launch σ ω} {options : HostOptions} {steps : List Step}
    (h : l.Course options steps) {step : Step} (hstep : step ∈ steps)
    (hkind : step.kind ∉ [.start, .load, .allocate]) :
    ∃ m code, Holds (heldAfter steps) (some ⟨some m, code⟩) := by
  have hother : ∀ other : Step, other.kind ∈ [Kind.start, .load, .allocate] → step ≠ other := by
    rintro other hother rfl
    exact hkind hother
  rcases Then.cases h with ⟨a, rfl⟩ | ⟨a, _, rest, rfl, -, h⟩
  · exact absurd (List.mem_singleton.1 hstep) (hother _ (by simp [Step.kind]))
  replace hstep := (List.mem_cons.1 hstep).resolve_left (hother _ (by simp [Step.kind]))
  rcases Then.cases h with ⟨b, rfl⟩ | ⟨b, code, rest, rfl, -, h⟩
  · exact absurd (List.mem_singleton.1 hstep) (hother _ (by simp [Step.kind]))
  replace hstep := (List.mem_cons.1 hstep).resolve_left (hother _ (by simp [Step.kind]))
  rcases Then.cases h with ⟨built, rfl⟩ | ⟨built, m, rest, rfl, hbuilt, -⟩
  · exact absurd (List.mem_singleton.1 hstep) (hother _ (by simp [Step.kind]))
  -- the module that was built is held from here on
  rcases built with (_ | n) | p <;> cases hbuilt
  exact module_kept rest ⟨m, code, rfl, rfl⟩

/-- What is released begins with the module, if one is held. -/
theorem releaseEvents_of_module {held : Holdings} {m : ModuleId} {code : ParsedCode}
    (h : Holds held (some ⟨some m, code⟩)) :
    ∃ rest, held.releaseEvents = .call (.freeModule m) :: rest := by
  obtain ⟨session, hsession⟩ := Option.isSome_iff_exists.1 h.session
  simp [Holdings.releaseEvents, Holdings.moduleEvents, hsession, h.module, Session.freeEvents]

/-! ### Faults and results -/

variable (l : Launch σ ω) (options : HostOptions) (console : Console σ ω)
  {result : Except Failure Unit}

/-- A fault that escapes in a launch that returns is captured. -/
theorem captured_of_fault (h : (l.run options (.bare console)).ending = .returned result)
    {c : Vm.Call} {fault : Fault} (hc : .call c ∈ (l.run options (.bare console)).trace)
    (hfault : c.fault? = some fault) :
    ∃ before record m rest, Captured l console.sink (l.run options (.bare console)) c fault before
      record m rest := by
  obtain ⟨steps, hcourse, hending, hown, -⟩ := l.run_course options console
  have hattempts := Course.attempts l hcourse
  have hdecision := hending.symm.trans h
  have hmem : c ∈ stepCalls .none steps := by
    rw [← calls_of_runEvents hown]
    exact Event.mem_calls.2 hc
  obtain ⟨step, hstep, hasked⟩ := step_of_asked hmem (Vm.Call.asks_of_fault hfault)
  obtain ⟨guarded, topic, done, hcalled, hverdict, hkind, hevents⟩ :=
    step.events_of_fault (ω := ω) hasked hfault
  have hfails : ¬ step.Succeeds := fun hs => guarded.not_ok hcalled (hverdict.symm.trans hs)
  have hanswer : guarded.answer = .returned result := by
    rw [← hverdict, ← hattempts.decision_of_mem hstep hfails, hdecision]
  -- the launch returned, so the fault was captured and reported
  obtain ⟨record, rfl, rfl⟩ : ∃ record, guarded = .faulted fault record ∧
      result = .error (.uncaught record) := by
    cases guarded <;> cases hcalled <;> cases hanswer
    exact ⟨_, rfl, rfl⟩
  obtain ⟨m, code, hheld⟩ := hcourse.holds hstep hkind
  obtain ⟨rest, hrelease⟩ := releaseEvents_of_module hheld
  obtain ⟨before, late, rfl⟩ := List.append_of_mem hstep
  obtain rfl := hattempts.stops rfl hfails
  have hbefore := hattempts.succeeds rfl
  have hreported : before.flatMap (fun step => step.reported.toList) = [] :=
    List.flatMap_eq_nil_iff.2 fun earlier hearlier => by
      rw [(hbefore earlier hearlier).reported]
      rfl
  have hclosing : l.closingEvents console.sink (.returned (.error (.uncaught record))) =
      [.log (failureRecord (.uncaught record))] := rfl
  refine ⟨.log l.startRecord :: before.flatMap (Step.events l.sink console.sink), record, m,
    rest ++ [.log (failureRecord (.uncaught record))], ?_⟩
  constructor
  case course =>
    refine ⟨topic, ?_⟩
    rw [hown, runEvents, hdecision, hrelease, hclosing]
    simp [hevents, Guarded.aftermath]
  case unreleased =>
    rw [Event.calls_log, calls_flatMap_events]
    intro released hmem
    obtain ⟨earlier, hearlier, hmem⟩ := List.mem_flatMap.1 hmem
    exact (hbefore earlier hearlier).unreleased released hmem
  case once =>
    have hlater := concernsFault_release (heldAfter (before ++ [step]))
    rw [hrelease, Event.calls_call, List.forall_mem_cons] at hlater
    have hall : Event.calls
        ((.log l.startRecord :: before.flatMap (Step.events l.sink console.sink)) ++
          (rest ++ [.log (failureRecord (.uncaught record))])) =
        before.flatMap Step.calls ++ Event.calls rest := by
      simp [calls_flatMap_events]
    rw [hall]
    refine List.forall_mem_append.2 ⟨fun other hmem => ?_, hlater.2⟩
    obtain ⟨earlier, hearlier, hmem⟩ := List.mem_flatMap.1 hmem
    exact (hbefore earlier hearlier).unconcerned other hmem
  case alone =>
    have hlater := diagnostics_releaseEvents (heldAfter (before ++ [step]))
    rw [hrelease, Event.diagnostics_call] at hlater
    rw [Event.diagnostics_append, Event.diagnostics_append, Event.diagnostics_log rfl,
      diagnostics_steps, hreported, hlater, Event.diagnostics_log rfl]
    rfl
  case told =>
    -- the resolver has answered with a hook, or nothing would have been called after it
    have hforeign : ∀ other, ¬ Event.ForeignFault other (l.run options (.bare console)).trace := by
      rintro other ⟨library, symbol, hresolved⟩
      rcases List.mem_append.1 (resolve_mem_steps hown hresolved) with hearlier | hlast
      · cases hbefore _ hearlier
      · obtain rfl := List.mem_singleton.1 hlast
        cases hasked
    exact (l.run_told options console hforeign h).2
  case result => exact h

/-- A launch in which no fault escapes has nothing to do with one, but for what its resolver says. -/
theorem faultless_of_no_fault
    (hnone : ∀ c, .call c ∈ (l.run options (.bare console)).trace → c.fault? = none) :
    Faultless (l.run options (.bare console)) := by
  obtain ⟨steps, hcourse, hending, hown, -⟩ := l.run_course options console
  have hcalls := calls_of_runEvents hown
  have hsteps : ∀ step ∈ steps, ∀ d ∈ step.calls, d.fault? = none := by
    intro step hstep d hd
    have hmem : d ∈ Event.calls (l.run options (.bare console)).trace := by
      rw [hcalls]
      exact List.mem_append_left _ (List.mem_flatMap.2 ⟨step, hstep, hd⟩)
    exact hnone d (Event.mem_calls.1 hmem)
  constructor
  · intro c hc
    refine Bool.eq_false_iff.2 fun hconcerns => ?_
    rw [hcalls] at hc
    rcases List.mem_append.1 hc with hc | hc
    · obtain ⟨step, hstep, hc⟩ := List.mem_flatMap.1 hc
      obtain ⟨d, hd, fault, hfault⟩ := Step.fault_of_mem hc hconcerns
      cases (hsteps step hstep d hd).symm.trans hfault
    · cases (concernsFault_release _ c hc).symm.trans hconcerns
  · intro record
    refine ⟨fun h => Classical.byContradiction fun hnone => ?_, l.run_of_foreign options console⟩
    have hforeign : ∀ library symbol other,
        .resolve library symbol (.returned (.error (.uncaught other))) ∉ steps := by
      intro library symbol other hmem
      have hother : Event.ForeignFault other (l.run options (.bare console)).trace :=
        ⟨library, symbol, resolve_mem_trace hown hmem⟩
      cases (l.run_of_foreign options console hother).symm.trans h
      exact hnone hother
    -- the record would have been reported in a step
    have hreported : record ∈ steps.flatMap fun step => step.reported.toList := by
      rw [hcourse.reported hforeign (hending.symm.trans h)]
      simp [Failure.record?]
    obtain ⟨step, hstep, hmem⟩ := List.mem_flatMap.1 hreported
    obtain ⟨d, hd, fault, hfault⟩ := Step.fault_of_reported (Option.mem_toList.1 hmem)
    cases (hsteps step hstep d hd).symm.trans hfault

/-- A fault that escapes in a launch that returns is captured directly after the call, reported and
returned, whatever the diagnostics stream does. Where none escapes, nobody asks for one, and the
launch fails with a fault only if the resolver has answered with it. And a trap keeps nothing of the
faults it has captured: each call under it is triggered by its own. -/
theorem faults_captured (h : (l.run options (.bare console)).ending = .returned result) :
    (∀ c fault, .call c ∈ (l.run options (.bare console)).trace → c.fault? = some fault →
      ∃ before record m rest, Captured l console.sink (l.run options (.bare console)) c fault
        before record m rest) ∧
    ((∀ c, .call c ∈ (l.run options (.bare console)).trace → c.fault? = none) →
      Faultless (l.run options (.bare console))) ∧
    ∀ (requests : List Trap.Request) (s : Seam σ), ∃ answers : List (Ending (Option Fault)),
      answers.length = requests.length ∧
        Event.guardedCalls (Trap.serveAll l.vm requests s).2.1 = requests.zip answers ∧
        List.Forall₂ Trap.Reflects answers (Trap.serveAll l.vm requests s).1 :=
  ⟨fun _ _ hc hfault => l.captured_of_fault options console h hc hfault,
    fun hnone => l.faultless_of_no_fault options console hnone,
    fun requests s => Trap.serveAll_reflects l.vm requests s⟩

/-- A launch to rehearse with, whose diagnostics cannot be written. -/
def mute : Launch Rehearsal.ScriptedVm Unit :=
  { rehearsal with sink := ⟨fun _ w => (some .nulInPath, w), fun w => (none, w)⟩ }

/-- The console before a rehearsal in which a fault escapes from the setup hook. -/
def faultyConsole : Console Rehearsal.ScriptedVm Unit :=
  ⟨.fresh (.fresh (.fresh none)
    ⟨[], [], [], [], [], [], [some ⟨"boom", ["Main.hx:7", "Main.hx:2"]⟩]⟩), ()⟩

/-- The fault is captured although nothing of the report can be written. -/
theorem faults_captured_mute :
    (∃ before record m rest, Captured mute () (mute.run .null (.bare faultyConsole))
      (.callSetup ⟨"", "setup", .builtIn, none⟩ .null (.returned (some ⟨0⟩))) ⟨0⟩ before record m
        rest) ∧
      (mute.run .null (.bare faultyConsole)).ending =
        .returned (.error (.uncaught ⟨"boom", ["Main.hx:7", "Main.hx:2"]⟩)) := by
  have hending : (mute.run .null (.bare faultyConsole)).ending =
      .returned (.error (.uncaught ⟨"boom", ["Main.hx:7", "Main.hx:2"]⟩)) := rfl
  have hcalls : Event.calls (mute.run .null (.bare faultyConsole)).trace =
      [.globalInit (.ok ()), .parse [] (.returned (.ok ⟨0⟩)),
        .allocate ⟨0⟩ (.returned (some ⟨0⟩)), .link ⟨0⟩ .null (.returned (.ok ())),
        .compact ⟨0⟩, .callSetup ⟨"", "setup", .builtIn, none⟩ .null (.returned (some ⟨0⟩)),
        .describeFault ⟨0⟩ (.returned "boom"),
        .exceptionStack (.returned ["Main.hx:7", "Main.hx:2"]), .debugBreak (.returned ()),
        .freeModule ⟨0⟩, .release ⟨0⟩, .globalTeardown] := rfl
  refine ⟨(faults_captured mute .null faultyConsole hending).1 _ _ (Event.mem_calls.1 ?_) rfl,
    hending⟩
  rw [hcalls]
  simp

/-- No fault escapes from a call, and yet the launch fails with one: its resolver says so. -/
theorem faulted_uncalled :
    let o := unguarded.run .null (.bare { rehearsalConsole with sink := cloggedWriter })
    (∀ c ∈ Event.calls o.trace, c.fault? = none) ∧
      o.ending = .returned (.error (.uncaught ⟨"boom", []⟩)) := by
  have hcalls : Event.calls (unguarded.run .null
      (.bare { rehearsalConsole with sink := cloggedWriter })).trace =
      [.globalInit (.ok ()), .parse [] (.returned (.ok ⟨0⟩)),
        .allocate ⟨0⟩ (.returned (some ⟨0⟩)), .link ⟨0⟩ .null (.returned (.ok ())),
        .compact ⟨0⟩, .freeModule ⟨0⟩, .release ⟨0⟩, .globalTeardown] := rfl
  refine ⟨?_, rfl⟩
  rw [hcalls]
  decide

end Launch

end Launcher
