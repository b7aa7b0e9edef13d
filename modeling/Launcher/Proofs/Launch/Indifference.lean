import Launcher.Proofs.Launch.Diagnostics

/-!
# The diagnostics stream decides nothing

Two launches that differ in their diagnostics stream only do the same, apart from what happens on
the stream itself: neither the stream's answers nor the state it is in are ever asked about.

- `Launch.Alike`: outcomes that differ in what happened on the stream at most.
- `Launch.Indifferent`: acts that have such outcomes at stages with different streams.
- `Launch.runs_alike`: launches one after the other, on any two streams.
-/

namespace Launcher

namespace Event

/-- A trace without the events of the diagnostics stream. -/
def withoutDiagnostics (trace : List Event) : List Event := trace.filter fun e => !e.isDiagnostic

@[simp] theorem withoutDiagnostics_nil : withoutDiagnostics [] = [] := rfl

@[simp] theorem withoutDiagnostics_append (t u : List Event) :
    withoutDiagnostics (t ++ u) = withoutDiagnostics t ++ withoutDiagnostics u :=
  List.filter_append ..

/-- Nothing is left of what happens on the stream alone. -/
theorem withoutDiagnostics_of_diagnostics {t : List Event} (h : diagnostics t = t) :
    withoutDiagnostics t = [] := by
  refine List.filter_eq_nil_iff.2 fun e he => ?_
  simp [List.filter_eq_self.1 h e he]

end Event

namespace Launch

variable {σ ω₁ ω₂ α β : Type}

/-- Outcomes of two launches that differ in what happened on the diagnostics stream at most. -/
structure Alike (o₁ : Outcome Event (Stage σ ω₁) α) (o₂ : Outcome Event (Stage σ ω₂) α) :
    Prop where
  ending : o₁.ending = o₂.ending
  trace : Event.withoutDiagnostics o₁.trace = Event.withoutDiagnostics o₂.trace
  seam : o₁.state.console.seam = o₂.state.console.seam
  held : o₁.state.held = o₂.state.held

/-- Acts that come to the same at stages that differ in the diagnostics stream at most. -/
def Indifferent (act₁ : Act Event (Stage σ ω₁) α) (act₂ : Act Event (Stage σ ω₂) α) : Prop :=
  ∀ s₁ s₂, s₁.console.seam = s₂.console.seam → s₁.held = s₂.held → Alike (act₁ s₁) (act₂ s₂)

/-! ## On the stream -/

/-- A report leaves its events, whatever becomes of them, and one call of the debugger. -/
theorem report_apply (vm : Vm σ) (sink : Sink ω₁) (record : FaultRecord) (c : Console σ ω₁) :
    Trap.report vm sink record c =
      ⟨(Seam.debugBreak vm c.seam).ending,
        Trap.reportEvents sink c.sink record ++ (Seam.debugBreak vm c.seam).trace,
        ⟨(Seam.debugBreak vm c.seam).state, (record.write sink c.sink).2.2⟩⟩ := by
  unfold Trap.report Trap.reportEvents
  cases h : (record.write sink c.sink).1 <;> simp [h]

namespace Indifferent

/-! ## Composed acts -/

theorem pure (a : α) :
    Indifferent (Pure.pure a : Act Event (Stage σ ω₁) α) (Pure.pure a : Act Event (Stage σ ω₂) α) :=
  fun _ _ hseam hheld => ⟨rfl, rfl, hseam, hheld⟩

theorem emit (e : Event) :
    Indifferent (Act.emit e : Act Event (Stage σ ω₁) Unit)
      (Act.emit e : Act Event (Stage σ ω₂) Unit) :=
  fun _ _ hseam hheld => ⟨rfl, rfl, hseam, hheld⟩

theorem bind {act₁ : Act Event (Stage σ ω₁) α} {act₂ : Act Event (Stage σ ω₂) α}
    {f₁ : α → Act Event (Stage σ ω₁) β} {f₂ : α → Act Event (Stage σ ω₂) β}
    (hact : Indifferent act₁ act₂) (hf : ∀ a, Indifferent (f₁ a) (f₂ a)) :
    Indifferent (act₁ >>= f₁) (act₂ >>= f₂) := by
  intro s₁ s₂ hseam hheld
  have hfirst := hact s₁ s₂ hseam hheld
  cases h : (act₁ s₁).ending with
  | returned a =>
    rw [Act.bind_returned f₁ h, Act.bind_returned f₂ (hfirst.ending ▸ h)]
    have hsecond := hf a _ _ hfirst.seam hfirst.held
    refine ⟨hsecond.ending, ?_, hsecond.seam, hsecond.held⟩
    rw [Event.withoutDiagnostics_append, Event.withoutDiagnostics_append, hfirst.trace,
      hsecond.trace]
  | panicked p =>
    rw [Act.bind_panicked f₁ h, Act.bind_panicked f₂ (hfirst.ending ▸ h)]
    exact ⟨rfl, hfirst.trace, hfirst.seam, hfirst.held⟩

theorem attempt {δ : Type} {act₁ : Act Event (Stage σ ω₁) (Except δ α)}
    {act₂ : Act Event (Stage σ ω₂) (Except δ α)} {f₁ : α → Act Event (Stage σ ω₁) (Except δ β)}
    {f₂ : α → Act Event (Stage σ ω₂) (Except δ β)} (hact : Indifferent act₁ act₂)
    (hf : ∀ a, Indifferent (f₁ a) (f₂ a)) :
    Indifferent (act₁.attempt f₁) (act₂.attempt f₂) := by
  refine bind hact fun a => ?_
  cases a with
  | ok a => exact hf a
  | error e => exact pure _

theorem ensuring {act₁ : Act Event (Stage σ ω₁) α} {act₂ : Act Event (Stage σ ω₂) α}
    {cleanUp₁ : Quiet Event (Stage σ ω₁) Unit} {cleanUp₂ : Quiet Event (Stage σ ω₂) Unit}
    (hact : Indifferent act₁ act₂)
    (hcleanUp : Indifferent (Act.ofQuiet cleanUp₁) (Act.ofQuiet cleanUp₂)) :
    Indifferent (act₁.ensuring cleanUp₁) (act₂.ensuring cleanUp₂) := by
  intro s₁ s₂ hseam hheld
  have hfirst := hact s₁ s₂ hseam hheld
  have hsecond := hcleanUp _ _ hfirst.seam hfirst.held
  refine ⟨hfirst.ending, ?_, hsecond.seam, hsecond.held⟩
  rw [Act.ensuring_apply, Act.ensuring_apply, Event.withoutDiagnostics_append,
    Event.withoutDiagnostics_append, hfirst.trace]
  exact congrArg _ hsecond.trace

theorem bindQuiet {q₁ : Quiet Event (Stage σ ω₁) α} {q₂ : Quiet Event (Stage σ ω₂) α}
    {f₁ : α → Quiet Event (Stage σ ω₁) β} {f₂ : α → Quiet Event (Stage σ ω₂) β}
    (hq : Indifferent (Act.ofQuiet q₁) (Act.ofQuiet q₂))
    (hf : ∀ a, Indifferent (Act.ofQuiet (f₁ a)) (Act.ofQuiet (f₂ a))) :
    Indifferent (Act.ofQuiet (q₁ >>= f₁)) (Act.ofQuiet (q₂ >>= f₂)) :=
  bind hq hf

/-! ## Acts at a stage -/

theorem atSeam (act : Act Event (Seam σ) α) :
    Indifferent (Stage.atSeam act : Act Event (Stage σ ω₁) α)
      (Stage.atSeam act : Act Event (Stage σ ω₂) α) := by
  intro s₁ s₂ hseam hheld
  rw [Stage.atSeam_apply, Stage.atSeam_apply, hseam]
  exact ⟨rfl, rfl, rfl, hheld⟩

theorem atSeamQuiet (act : Quiet Event (Seam σ) α) :
    Indifferent (Act.ofQuiet (Stage.atSeamQuiet act) : Act Event (Stage σ ω₁) α)
      (Act.ofQuiet (Stage.atSeamQuiet act) : Act Event (Stage σ ω₂) α) := by
  intro s₁ s₂ hseam hheld
  rw [Act.ofQuiet_apply, Act.ofQuiet_apply, Stage.atSeamQuiet_apply, Stage.atSeamQuiet_apply, hseam]
  exact ⟨rfl, rfl, rfl, hheld⟩

theorem hold (change : Holdings → Holdings) :
    Indifferent (Stage.hold change : Act Event (Stage σ ω₁) Unit)
      (Stage.hold change : Act Event (Stage σ ω₂) Unit) :=
  fun _ _ hseam hheld => ⟨rfl, rfl, hseam, congrArg change hheld⟩

/-- What is reported of a fault goes to the stream; then the debugger is called in any case. -/
theorem report (vm : Vm σ) (sink₁ : Sink ω₁) (sink₂ : Sink ω₂) (record : FaultRecord) :
    Indifferent (Stage.atConsole (Trap.report vm sink₁ record))
      (Stage.atConsole (Trap.report vm sink₂ record)) := by
  intro s₁ s₂ hseam hheld
  simp only [Stage.atConsole, Act.within_apply, report_apply, List.map_id, hseam]
  refine ⟨rfl, ?_, rfl, hheld⟩
  rw [Event.withoutDiagnostics_append, Event.withoutDiagnostics_append,
    Event.withoutDiagnostics_of_diagnostics (diagnostics_reportEvents ..),
    Event.withoutDiagnostics_of_diagnostics (diagnostics_reportEvents ..)]

/-- What is told about a failure goes to the stream. -/
theorem diagnose (l₁ : Launch σ ω₁) (l₂ : Launch σ ω₂) (failure : Failure) :
    Indifferent (l₁.diagnose failure) (l₂.diagnose failure) := by
  intro s₁ s₂ hseam hheld
  rw [diagnose_apply, diagnose_apply]
  refine ⟨rfl, ?_, hseam, hheld⟩
  rw [Event.withoutDiagnostics_of_diagnostics (diagnostics_diagnoseEvents ..),
    Event.withoutDiagnostics_of_diagnostics (diagnostics_diagnoseEvents ..)]

end Indifferent

/-! ## The steps of a launch -/

/-- A launch with another diagnostics stream. -/
def redirected (l : Launch σ ω₁) (sink : Sink ω₂) : Launch σ ω₂ := { l with sink }

variable (l : Launch σ ω₁) (sink : Sink ω₂)

theorem indifferent_startSession : Indifferent l.startSession (l.redirected sink).startSession := by
  refine .bind (.atSeamQuiet _) fun answer => ?_
  cases answer with
  | ok session => exact .bind (.hold _) fun _ => .pure _
  | error failure => exact .pure _

theorem indifferent_buildModule (session : Session) (code : ParsedCode) :
    Indifferent (l.buildModule session code) ((l.redirected sink).buildModule session code) := by
  refine .bind (.atSeam _) fun answer => ?_
  cases answer with
  | ok built => exact .bind (.hold _) fun _ => .pure _
  | error failure => exact .pure _

theorem indifferent_compactModule (module : LoadedModule) :
    Indifferent (l.compactModule module) ((l.redirected sink).compactModule module) :=
  .bind (.atSeamQuiet _) fun _ => .bind (.hold _) fun _ => .pure _

theorem indifferent_resolveHook : Indifferent l.resolveHook (l.redirected sink).resolveHook := by
  refine .bind (.atSeam _) fun answer => ?_
  cases answer with
  | ok hook => exact .bind (.hold _) fun _ => .pure _
  | error unresolved => exact .pure _

theorem indifferent_settle (outcome : TrapOutcome) :
    Indifferent (l.settle outcome) ((l.redirected sink).settle outcome) := by
  cases outcome with
  | disarmed => exact .pure _
  | triggered record => exact .bind (.report l.vm l.sink sink record) fun _ => .pure _

theorem indifferent_forward (options : HostOptions) :
    Indifferent (l.forward options) ((l.redirected sink).forward options) := by
  -- step by step, as no step reads the stream
  refine .attempt (l.indifferent_startSession sink) fun session => ?_
  refine .attempt (.atSeam _) fun code => ?_
  refine .attempt (l.indifferent_buildModule sink session code) fun module => ?_
  refine .attempt (.atSeam _) fun _ => ?_
  refine .attempt (l.indifferent_compactModule sink module) fun module => ?_
  refine .attempt (l.indifferent_resolveHook sink) fun hook => ?_
  refine .attempt (.bind (.atSeam _) (l.indifferent_settle sink)) fun _ => ?_
  refine .attempt (.atSeam _) fun closure => ?_
  exact .bind (.atSeam _) (l.indifferent_settle sink)

theorem indifferent_releaseAll :
    Indifferent (Act.ofQuiet l.releaseAll) (Act.ofQuiet (l.redirected sink).releaseAll) := by
  have hheld : Indifferent (Act.ofQuiet (Quiet.gets Stage.held) : Act Event (Stage σ ω₁) Holdings)
      (Act.ofQuiet (Quiet.gets Stage.held) : Act Event (Stage σ ω₂) Holdings) :=
    fun _ _ hseam hheld => ⟨congrArg _ hheld, rfl, hseam, hheld⟩
  refine .bindQuiet hheld fun held => ?_
  obtain ⟨session, module, hook⟩ := held
  refine .bindQuiet ?_ fun _ => .bindQuiet ?_ fun _ => .bindQuiet ?_ fun _ => ?_
  · cases session <;> cases module <;>
      first | exact .bindQuiet (.atSeamQuiet _) fun _ => .pure _ | exact .pure _
  · cases session <;> first | exact .atSeamQuiet _ | exact .pure _
  · cases hook <;> first | exact .atSeamQuiet _ | exact .pure _
  · exact fun _ _ hseam _ => ⟨rfl, rfl, hseam, rfl⟩

/-! ## Whole launches -/

theorem indifferent_run (options : HostOptions) :
    Indifferent (l.run options) ((l.redirected sink).run options) := by
  refine .bind (.emit _) fun _ => ?_
  refine .bind (.ensuring (l.indifferent_forward sink options) (l.indifferent_releaseAll sink))
    fun result => ?_
  cases result with
  | ok => exact .bind (.emit _) fun _ => .pure _
  | error failure =>
    exact .bind (.emit _) fun _ => .bind (.diagnose l (l.redirected sink) failure) fun _ => .pure _

theorem runs_alike_from (turns : List (Opening × HostOptions)) (s₁ : Stage σ ω₁) (s₂ : Stage σ ω₂)
    (hseam : s₁.console.seam = s₂.console.seam) (hheld : s₁.held = s₂.held) :
    List.Forall₂ Alike (l.runs turns s₁) ((l.redirected sink).runs turns s₂) := by
  -- on the launches: each leaves the VM and what is held alike to the next
  induction turns generalizing s₁ s₂ with
  | nil => exact .nil
  | cons turn rest ih =>
    obtain ⟨opening, options⟩ := turn
    have halike := indifferent_run { l with opening } sink options s₁ s₂ hseam hheld
    exact .cons halike (ih _ _ halike.seam halike.held)

/-- Launches one after the other do the same whatever stream their diagnostics go to, and whatever
state it is in: each of them ends alike, with the same calls of the VM and of the resolver in the
same order and the same log but for the failures of the stream, and leaves the VM and what is held
as they would be with any other stream. The VM may panic, save while state is set up or released. -/
theorem runs_alike (turns : List (Opening × HostOptions)) (seam : Seam σ) (w₁ : ω₁) (w₂ : ω₂) :
    List.Forall₂ Alike (l.runs turns (.bare ⟨seam, w₁⟩))
      ((l.redirected sink).runs turns (.bare ⟨seam, w₂⟩)) :=
  l.runs_alike_from sink turns _ _ rfl rfl

end Launch

end Launcher
