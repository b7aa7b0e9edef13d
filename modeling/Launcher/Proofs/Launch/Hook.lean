import Launcher.Proofs.Launch.Course

/-!
# The hook outlives the global state

The setup hook belongs to a library that the VM may still call into while its global state is
released. So a launch that was given a hook gives it up once, however the launch ends, and only
after the release of the global state.

- `Event.hooks`: the events in which a hook is asked for or given up.
- `Launch.hook_held`: a launch holds the hook it was given until its steps are over.
- `Launch.hook_dropped`: it is given up once, last of all that is held.
-/

namespace Launcher

namespace Event

/-- Whether a hook is asked for or given up. -/
def isHook : Event → Bool
  | .resolve .. | .dropHook _ => true
  | _ => false

/-- The events in which a hook is asked for or given up, in order. -/
def hooks (trace : List Event) : List Event := trace.filter isHook

@[simp] theorem hooks_nil : hooks [] = [] := rfl

@[simp] theorem hooks_append (t u : List Event) : hooks (t ++ u) = hooks t ++ hooks u :=
  List.filter_append ..

@[simp] theorem hooks_call (c : Vm.Call) (t : List Event) : hooks (.call c :: t) = hooks t := rfl

@[simp] theorem hooks_log (r : Log.Record) (t : List Event) : hooks (.log r :: t) = hooks t := rfl

@[simp] theorem hooks_panic (p : Panic) (t : List Event) : hooks (.panic p :: t) = hooks t := rfl

@[simp] theorem hooks_resolve (library symbol : String) (answer : Ending (Except Failure Hook))
    (t : List Event) :
    hooks (.resolve library symbol answer :: t) = .resolve library symbol answer :: hooks t := rfl

@[simp] theorem hooks_panicEvents {α : Type} (ending : Ending α) : hooks ending.panicEvents = [] := by
  cases ending <;> rfl

@[simp] theorem hooks_writeLines {ω : Type} (sink : Sink ω) (lines : List String) (w : ω) :
    hooks (sink.writeLines lines w).2.1 = [] := by
  refine List.filter_eq_nil_iff.2 fun e he => ?_
  rcases sink.writeLines_events lines w e he with ⟨bytes, error, rfl⟩ | ⟨error, rfl⟩ <;> simp [isHook]

theorem mem_hooks {e : Event} (h : e.isHook = true) {t : List Event} : e ∈ hooks t ↔ e ∈ t := by
  simp [hooks, h]

end Event

namespace Launch

variable {σ ω : Type}

/-! ## Where hooks are asked for -/

@[simp] theorem hooks_dropEvents (code : ParsedCode) :
    Event.hooks (Session.dropEvents code) = [] := by
  unfold Session.dropEvents Session.compactEvents
  split <;> rfl

@[simp] theorem hooks_aftermath (guarded : Guarded) (topic : Log.Topic) (done : Log.Record)
    (sink : Sink ω) (w : ω) : Event.hooks (guarded.aftermath topic done sink w) = [] := by
  have hreport : ∀ record : FaultRecord,
      Event.hooks (Trap.reportEvents sink w record) = [] := by
    intro record
    unfold Trap.reportEvents FaultRecord.write
    rw [Event.hooks_append, Event.hooks_writeLines]
    split <;> rfl
  cases guarded <;> simp [Guarded.aftermath, hreport]

/-- A step asks for a hook only to resolve it, and gives none up. -/
theorem hooks_events {step : Step} (h : step.kind ≠ .resolve) (sink : Sink ω) (w : ω) :
    Event.hooks (step.events sink w) = [] := by
  cases step with
  | start answer => cases answer <;> simp [Step.events, Session.startEvents]
  | load path loading =>
    rcases loading with _ | _ | ⟨_, (_ | _) | _⟩ <;> simp [Step.events, Session.loadEvents]
  | allocate code answer =>
    rcases answer with (_ | _) | _ <;> simp [Step.events, Session.allocateEvents]
  | link m options answer =>
    rcases answer with (_ | _) | _ <;> simp [Step.events, Session.linkEvents]
  | compact => simp [Step.events]
  | resolve => exact absurd rfl h
  | setup => simp [Step.events]
  | entry => simp [Step.events, Session.entryEvents]
  | call => simp [Step.events]

theorem hooks_closingEvents (l : Launch σ ω) (w : ω) (ending : Ending (Except Failure Unit)) :
    Event.hooks (l.closingEvents w ending) = [] := by
  have hdiagnose : ∀ failure, Event.hooks (diagnoseEvents l.sink w failure) = [] := by
    intro failure
    unfold diagnoseEvents
    split
    · rfl
    · rw [Event.hooks_append, Event.hooks_writeLines]
      split <;> rfl
  unfold closingEvents
  split <;> simp [hdiagnose]

/-! ## Holding the hook -/

/-- Steps that do not resolve a hook leave the one that is held. -/
theorem hook_kept {steps : List Step} (h : ∀ step ∈ steps, step.kind ≠ .resolve)
    (held : Holdings) : (steps.foldl after held).hook = held.hook := by
  induction steps generalizing held with
  | nil => rfl
  | cons step rest ih =>
    obtain ⟨hstep, hrest⟩ := List.forall_mem_cons.1 h
    rw [List.foldl_cons, ih hrest]
    cases step with
    | start answer => cases answer <;> rfl
    | allocate code answer => rcases answer with (_ | _) | _ <;> rfl
    | resolve => exact absurd rfl hstep
    | _ => rfl

/-- Among steps of which none is taken twice, the hook that was given is held at the end. -/
theorem hook_held {steps : List Step} (hnodup : (steps.map Step.kind).Nodup)
    {library symbol : String} {hook : Hook}
    (hmem : .resolve library symbol (.returned (.ok hook)) ∈ steps) (held : Holdings) :
    (steps.foldl after held).hook = some hook := by
  induction steps generalizing held with
  | nil => cases hmem
  | cons step rest ih =>
    rw [List.map_cons, List.nodup_cons] at hnodup
    rcases List.mem_cons.1 hmem with rfl | hmem
    · have hrest : ∀ step ∈ rest, step.kind ≠ .resolve := fun step hstep hkind =>
        hnodup.1 (List.mem_map.2 ⟨step, hstep, hkind⟩)
      rw [List.foldl_cons, hook_kept hrest]
      rfl
    · exact ih hnodup.2 hmem _

/-- The global state is held until the steps are over. -/
theorem session_kept (steps : List Step) {held : Holdings} (h : held.session.isSome) :
    (steps.foldl after held).session.isSome := by
  induction steps generalizing held with
  | nil => exact h
  | cons step rest ih =>
    refine ih ?_
    cases step with
    | start answer => cases answer <;> first | rfl | exact h
    | allocate code answer => rcases answer with (_ | _) | _ <;> first | rfl | exact h
    | resolve library symbol answer => rcases answer with (_ | _) | _ <;> exact h
    | _ => exact h

/-! ## Giving the hook up -/

/-- Among the events of steps, the ones about a hook are its resolutions. -/
theorem hook_event {sink : Sink ω} {w : ω} {steps : List Step} {e : Event}
    (hmem : e ∈ steps.flatMap (Step.events sink w)) (hhook : e.isHook = true) :
    ∃ library symbol answer, e = .resolve library symbol answer ∧
      .resolve library symbol answer ∈ steps := by
  obtain ⟨step, hstep, hmem⟩ := List.mem_flatMap.1 hmem
  have hfirst := (Event.mem_hooks hhook).2 hmem
  by_cases hkind : step.kind = .resolve
  · cases step with
    | resolve library symbol answer =>
      exact ⟨library, symbol, answer, by simpa [Step.events] using hfirst, hstep⟩
    | _ => cases hkind
  · rw [hooks_events hkind] at hfirst
    cases hfirst

/-- A step that asks for a hook leaves the event for it. -/
theorem resolve_mem_flatMap (sink : Sink ω) (w : ω) {steps : List Step} {library symbol : String}
    {answer : Ending (Except Failure Hook)} (h : .resolve library symbol answer ∈ steps) :
    .resolve library symbol answer ∈ steps.flatMap (Step.events sink w) :=
  List.mem_flatMap.2 ⟨_, h, List.mem_cons_self⟩

/-- What is held is released in this order. -/
theorem releaseEvents_of_hook {held : Holdings} {hook : Hook} (hsession : held.session.isSome)
    (hhook : held.hook = some hook) :
    held.releaseEvents = held.moduleEvents ++ Session.finishEvents ++ [.dropHook hook] := by
  obtain ⟨session, hsession⟩ := Option.isSome_iff_exists.1 hsession
  simp [Holdings.releaseEvents, Holdings.sessionEvents, Holdings.hookEvents, hsession, hhook]

theorem hooks_moduleEvents (held : Holdings) : Event.hooks held.moduleEvents = [] := by
  unfold Holdings.moduleEvents Session.freeEvents
  split
  · split <;> simp
  · rfl

theorem hooks_sessionEvents (held : Holdings) : Event.hooks held.sessionEvents = [] := by
  unfold Holdings.sessionEvents Session.finishEvents
  split <;> simp

/-- Nothing is resolved while something is released. -/
theorem resolve_mem_events {sink : Sink ω} {w : ω} {steps : List Step} {held : Holdings}
    {library symbol : String} {answer : Ending (Except Failure Hook)}
    (h : .resolve library symbol answer ∈
      steps.flatMap (Step.events sink w) ++ held.releaseEvents) :
    .resolve library symbol answer ∈ steps := by
  rcases List.mem_append.1 h with hmem | hmem
  · obtain ⟨_, _, _, heq, hmem⟩ := hook_event hmem rfl
    cases heq
    exact hmem
  · rw [← Event.mem_hooks rfl] at hmem
    simp only [Holdings.releaseEvents, Event.hooks_append, hooks_moduleEvents, hooks_sessionEvents,
      List.nil_append] at hmem
    unfold Holdings.hookEvents at hmem
    split at hmem <;> simp [Event.hooks, Event.isHook] at hmem

/-- A launch resolves nothing but in its steps. -/
theorem resolve_mem_steps {l : Launch σ ω} {steps : List Step} {w : ω} {trace : List Event}
    (htrace : Event.own trace = l.runEvents w steps) {library symbol : String}
    {answer : Ending (Except Failure Hook)} (h : .resolve library symbol answer ∈ trace) :
    .resolve library symbol answer ∈ steps := by
  have hown := (Event.mem_own rfl).2 h
  rw [htrace, ← Event.mem_hooks rfl] at hown
  simp only [runEvents, Event.hooks_log, Event.hooks_append, hooks_closingEvents,
    List.append_nil] at hown
  rw [← Event.hooks_append, Event.mem_hooks rfl] at hown
  exact resolve_mem_events hown

/-- What it resolves in its steps it leaves in its trace. -/
theorem resolve_mem_trace {l : Launch σ ω} {steps : List Step} {w : ω} {trace : List Event}
    (htrace : Event.own trace = l.runEvents w steps) {library symbol : String}
    {answer : Ending (Except Failure Hook)} (h : .resolve library symbol answer ∈ steps) :
    .resolve library symbol answer ∈ trace := by
  rw [← Event.mem_own rfl, htrace]
  exact List.mem_cons_of_mem _
    (List.mem_append_left _ (List.mem_append_left _ (resolve_mem_flatMap l.sink w h)))

/-- A launch that was given a hook gives it up after the global state, and gives up no other. -/
theorem hook_dropped {l : Launch σ ω} {options : HostOptions} {steps : List Step} {w : ω}
    {trace : List Event} (h : l.Course options steps)
    (htrace : Event.own trace = l.runEvents w steps) {library symbol : String} {hook : Hook}
    (hresolved : .resolve library symbol (.returned (.ok hook)) ∈ trace) :
    ∃ before rest, Event.own trace = before ++ .dropHook hook :: rest ∧
      .call .globalTeardown ∈ before ∧ ∀ other, .dropHook other ∉ before ++ rest := by
  have hmem := resolve_mem_steps htrace hresolved
  have hhook : (heldAfter steps).hook = some hook :=
    hook_held ((Course.attempts l h).kinds.sublist.nodup (by decide)) hmem _
  -- a hook was resolved, so the session had been opened and is held to the end
  have hsession : (heldAfter steps).session.isSome := by
    obtain ⟨answer, rest, rfl, hrest⟩ := id h
    cases answer with
    | error reason =>
      obtain rfl : rest = [] := hrest
      cases List.mem_singleton.1 hmem
    | ok => exact session_kept rest rfl
  refine ⟨.log l.startRecord :: (steps.flatMap (Step.events l.sink w) ++
    ((heldAfter steps).moduleEvents ++ Session.finishEvents)), l.closingEvents w (decision steps),
    ?_, ?_, fun other hother => ?_⟩
  · rw [htrace, runEvents, releaseEvents_of_hook hsession hhook]
    simp
  · simp [Session.finishEvents]
  · -- among the events about hooks, the others are those of the steps, which resolve only
    rw [← Event.mem_hooks rfl] at hother
    simp only [List.cons_append, Event.hooks_log, Event.hooks_append, hooks_moduleEvents,
      hooks_closingEvents, Session.finishEvents, Event.hooks_call, Event.hooks_nil,
      List.append_nil] at hother
    obtain ⟨_, _, _, heq, -⟩ := hook_event ((Event.mem_hooks rfl).1 hother) rfl
    cases heq

end Launch

end Launcher
