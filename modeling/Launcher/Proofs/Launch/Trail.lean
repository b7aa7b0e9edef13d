import Launcher.Proofs.HashLink.GlobalState
import Launcher.Proofs.Image.Reading
import Launcher.Proofs.Launch.Diagnostics

/-!
# The trail of a launch at the seam

Whatever a launch does at the seam is one operation of the VM or of the resolver after the other,
with nothing but its own records, panics and writes in between. So a law of what crosses the seam,
notes and state included, need only be proved of each operation.

- `Crossing`: the operations, each with the trace that it leaves.
- `Trail`: one after the other.
- `Launch.run_trail`: a launch leaves a trail.
- `Launch.run_not_foreign`: what a launch is told of a hook, its resolver has answered.
-/

namespace Launcher

/-- Whether the parser takes an image that is given to it as work. -/
def HashLink.Work.Sized : HashLink.Work → Prop
  | .parse image => image.bytes.length ≤ Image.maxSize
  | _ => True

/-- Whether a call creates the global state or releases it. -/
def Vm.Call.isGlobal : Vm.Call → Bool
  | .globalInit _ | .globalTeardown => true
  | _ => false

/-- Work is one call across the seam, after which a panic may begin. It neither creates the global
state nor releases it. -/
theorem HashLink.Work.own_perform {σ : Type} (vm : Vm σ) (work : HashLink.Work) (s : Seam σ) :
    ∃ (c : Vm.Call) (panics : List Panic),
      Event.own (work.perform vm s).1 = .call c :: panics.map Event.panic ∧ c.isGlobal = false := by
  have hanswered : ∀ {α : Type} {t : List Event} {c : Vm.Call} (ending : Ending α),
      Event.own t = .call c :: ending.panicEvents → c.isGlobal = false →
      ∃ (c : Vm.Call) (panics : List Panic),
        Event.own t = .call c :: panics.map Event.panic ∧ c.isGlobal = false := by
    intro α t c ending hown hc
    cases ending with
    | returned => exact ⟨c, [], hown, hc⟩
    | panicked p => exact ⟨c, [p], hown, hc⟩
  cases work with
  | parse image => exact hanswered _ (Seam.own_parse vm image s) rfl
  | compact code => exact ⟨_, [], Seam.own_compact vm code s, rfl⟩
  | release code => exact ⟨_, [], Seam.own_release vm code s, rfl⟩
  | allocate code => exact hanswered _ (Seam.own_allocate vm code s) rfl
  | link module options => exact hanswered _ (Seam.own_link vm module options s) rfl
  | freeModule module => exact ⟨_, [], Seam.own_freeModule vm module s, rfl⟩
  | entryClosure module => exact hanswered _ (Seam.own_entryClosure vm module s) rfl
  | call closure => exact hanswered _ (Seam.own_guardedCall vm closure s) rfl
  | callSetup hook options => exact hanswered _ (Seam.own_callSetup vm hook options s) rfl
  | describeFault fault => exact hanswered _ (Seam.own_describeFault vm fault s) rfl
  | exceptionStack => exact hanswered _ (Seam.own_exceptionStack vm s) rfl
  | debugBreak => exact hanswered _ (Seam.own_debugBreak vm s) rfl

/-- Whether an event is the launcher's own and has nothing to do with the seam. -/
def Event.isInternal : Event → Bool
  | .log _ | .panic _ | .write .. | .flush _ => true
  | _ => false

variable {σ ω α β : Type}

/-- An operation at the seam: the state that it finds, the trace and the state that it leaves. -/
inductive Crossing (vm : Vm σ) (resolver : Resolver σ) :
    Seam σ → List Event → Seam σ → Prop
  | globalInit (s : Seam σ) :
    Crossing vm resolver s (Seam.globalInit vm s).2.1 (Seam.globalInit vm s).2.2
  | globalTeardown (s : Seam σ) :
    Crossing vm resolver s (Seam.globalTeardown vm s).2.1 (Seam.globalTeardown vm s).2.2
  | work (work : HashLink.Work) (sized : work.Sized) (s : Seam σ) :
    Crossing vm resolver s (work.perform vm s).1 (work.perform vm s).2
  | resolve (library symbol : String) (s : Seam σ) :
    Crossing vm resolver s (Seam.resolve resolver library symbol s).trace
      (Seam.resolve resolver library symbol s).state
  | dropHook (hook : Hook) (s : Seam σ) :
    Crossing vm resolver s (Seam.dropHook resolver hook s).2.1 (Seam.dropHook resolver hook s).2.2
  | internal (e : Event) (he : e.isInternal = true) (s : Seam σ) : Crossing vm resolver s [e] s

/-- Operations at the seam, one after the other. -/
inductive Trail (vm : Vm σ) (resolver : Resolver σ) : Seam σ → List Event → Seam σ → Prop
  | nil (s : Seam σ) : Trail vm resolver s [] s
  | cons {s s' s'' : Seam σ} {t u : List Event} : Crossing vm resolver s t s' →
      Trail vm resolver s' u s'' → Trail vm resolver s (t ++ u) s''

namespace Trail

variable {vm : Vm σ} {resolver : Resolver σ} {s s' s'' : Seam σ} {t u : List Event}

theorem single (h : Crossing vm resolver s t s') : Trail vm resolver s t s' := by
  simpa using cons h (nil s')

theorem trans (h : Trail vm resolver s t s') (h' : Trail vm resolver s' u s'') :
    Trail vm resolver s (t ++ u) s'' := by
  induction h with
  | nil => exact h'
  | cons hcrossing _ ih =>
    rw [List.append_assoc]
    exact cons hcrossing (ih h')

/-- Internal events may stand anywhere. -/
theorem internal (h : ∀ e ∈ t, e.isInternal = true) : Trail vm resolver s t s := by
  induction t with
  | nil => exact nil s
  | cons e t ih =>
    obtain ⟨he, ht⟩ := List.forall_mem_cons.1 h
    exact cons (.internal e he s) (ih ht)

/-- What happens on the diagnostics stream has nothing to do with the seam. -/
theorem diagnostics (h : Event.diagnostics t = t) : Trail vm resolver s t s := by
  refine internal fun e he => ?_
  have hdiagnostic := List.filter_eq_self.1 h e he
  cases e <;> first | rfl | cases hdiagnostic

end Trail

/-! ## What the resolver answers -/

/-- Whatever is resolved at the seam has the answer that the resolver gave. -/
theorem Crossing.exists_resolve {vm : Vm σ} {resolver : Resolver σ} {s s' : Seam σ}
    {t : List Event} (h : Crossing vm resolver s t s') {library symbol : String}
    {answer : Ending (Except Failure Hook)} (hmem : .resolve library symbol answer ∈ t) :
    ∃ beyond, answer = (resolver.resolve library symbol beyond).ending := by
  rw [← Event.mem_own rfl] at hmem
  cases h with
  | globalInit => simp at hmem
  | globalTeardown => simp at hmem
  | dropHook => simp at hmem
  | work work =>
    obtain ⟨c, panics, hown, -⟩ := work.own_perform vm s
    simp [hown] at hmem
  -- only resolving leaves such an event, and a panic behind it is none
  | resolve asked name =>
    rw [Seam.own_resolve] at hmem
    rcases List.mem_cons.1 hmem with heq | hpanic
    · cases heq
      exact ⟨s.beyond, rfl⟩
    · cases hending : (Seam.resolve resolver asked name s).ending <;>
        simp [hending, Ending.panicEvents] at hpanic
  | internal e he =>
    rw [Event.mem_own rfl] at hmem
    cases List.mem_singleton.1 hmem
    cases he

theorem Trail.exists_resolve {vm : Vm σ} {resolver : Resolver σ} {s s' : Seam σ}
    {t : List Event} (h : Trail vm resolver s t s') {library symbol : String}
    {answer : Ending (Except Failure Hook)} (hmem : .resolve library symbol answer ∈ t) :
    ∃ beyond, answer = (resolver.resolve library symbol beyond).ending := by
  induction h with
  | nil => cases hmem
  | cons hcrossing _ ih =>
    rcases List.mem_append.1 hmem with hmem | hmem
    · exact hcrossing.exists_resolve hmem
    · exact ih hmem

/-- A resolver that never says that a fault escaped. -/
def Resolver.AnswersNoFault (resolver : Resolver σ) : Prop :=
  ∀ library symbol s record,
    (resolver.resolve library symbol s).ending ≠ .returned (.error (.uncaught record))

/-- A resolver over a loader has two failures, neither of which is a fault. -/
theorem Resolver.answersNoFault_ofLoader (loader : Loader) (dir : SearchDir)
    (lastWord : Quiet Note σ Unit) : (Resolver.ofLoader loader dir lastWord).AnswersNoFault := by
  intro library symbol s record h
  simp only [ofLoader, Extension.resolveLibrary] at h
  split at h
  · cases h
  · split at h <;> cases h

/-! ## Acts that leave a trail -/

/-- An act on a state that the seam is part of, and that it changes by a trail only. -/
def Trails {S : Type} (vm : Vm σ) (resolver : Resolver σ) (seam : S → Seam σ)
    (act : Act Event S α) : Prop :=
  ∀ s, Trail vm resolver (seam s) (act s).trace (seam (act s).state)

namespace Trails

variable {S : Type} {vm : Vm σ} {resolver : Resolver σ} {seam : S → Seam σ}

theorem pure (a : α) : Trails vm resolver seam (Pure.pure a : Act Event S α) :=
  fun s => .nil (seam s)

theorem log (r : Log.Record) : Trails vm resolver seam (Act.emit (.log r)) :=
  fun s => .single (.internal _ rfl (seam s))

theorem bind {act : Act Event S α} {f : α → Act Event S β} (hact : Trails vm resolver seam act)
    (hf : ∀ a, Trails vm resolver seam (f a)) : Trails vm resolver seam (act >>= f) := by
  intro s
  cases h : (act s).ending with
  | returned a =>
    rw [Act.bind_returned f h]
    exact (hact s).trans (hf a _)
  | panicked p =>
    rw [Act.bind_panicked f h]
    exact hact s

theorem attempt {δ : Type} {act : Act Event S (Except δ α)} {f : α → Act Event S (Except δ β)}
    (hact : Trails vm resolver seam act) (hf : ∀ a, Trails vm resolver seam (f a)) :
    Trails vm resolver seam (act.attempt f) := by
  refine bind hact fun a => ?_
  cases a with
  | ok a => exact hf a
  | error e => exact pure _

theorem bindQuiet {q : Quiet Event S α} {f : α → Quiet Event S β}
    (hq : Trails vm resolver seam (Act.ofQuiet q))
    (hf : ∀ a, Trails vm resolver seam (Act.ofQuiet (f a))) :
    Trails vm resolver seam (Act.ofQuiet (q >>= f)) :=
  bind hq hf

theorem onPanic {act : Act Event S α} {cleanUp : Quiet Event S Unit}
    (hact : Trails vm resolver seam act)
    (hcleanUp : Trails vm resolver seam (Act.ofQuiet cleanUp)) :
    Trails vm resolver seam (act.onPanic cleanUp) := by
  intro s
  cases h : (act s).ending with
  | returned a =>
    rw [Act.onPanic_returned cleanUp h]
    exact hact s
  | panicked p =>
    rw [Act.onPanic_panicked cleanUp h]
    exact (hact s).trans (hcleanUp _)

theorem ensuring {act : Act Event S α} {cleanUp : Quiet Event S Unit}
    (hact : Trails vm resolver seam act)
    (hcleanUp : Trails vm resolver seam (Act.ofQuiet cleanUp)) :
    Trails vm resolver seam (act.ensuring cleanUp) :=
  fun s => (hact s).trans (hcleanUp _)

/-- Carried out on a larger state, an act leaves the same trail. -/
theorem within {T : Type} {get : T → S} {put : S → T → T} {act : Act Event S α}
    (hact : Trails vm resolver seam act) (hput : ∀ a t, get (put a t) = a) :
    Trails vm resolver (fun t => seam (get t)) (act.within get put id) := by
  intro t
  have htrail := hact (get t)
  simpa [hput] using htrail

/-- Work for the VM. -/
theorem work {act : Act Event (Seam σ) α} (w : HashLink.Work) (hw : w.Sized)
    (h : ∀ s, w.perform vm s = HashLink.footprint act s) : Trails vm resolver id act := by
  intro s
  have hcrossing : Crossing vm resolver s _ _ := .work w hw s
  rw [h] at hcrossing
  exact .single hcrossing

end Trails

/-! ## Sessions -/

namespace Session

variable {vm : Vm σ} {resolver : Resolver σ}

theorem trails_start : Trails vm resolver id (Act.ofQuiet (start vm)) := by
  refine .bindQuiet (fun s => .single (.globalInit s)) fun answer => ?_
  cases answer with
  | ok => exact .bindQuiet (.log _) fun _ => .pure _
  | error reason => exact .bindQuiet (.log _) fun _ => .pure _

theorem trails_finish : Trails vm resolver id (Act.ofQuiet (finish vm)) :=
  .bindQuiet (fun s => .single (.globalTeardown s)) fun _ => .log _

theorem trails_parse (path : Path) {image : Image} (h : image.bytes.length ≤ Image.maxSize) :
    Trails vm resolver id (parse vm path image) := by
  refine .bind (.work (.parse image) h fun _ => rfl) fun answer => ?_
  cases answer with
  | ok id => exact .bind (.log _) fun _ => .pure _
  | error reason => exact .bind (.log _) fun _ => .pure _

theorem trails_load (opening : Opening) (path : Path) :
    Trails vm resolver id (load vm opening path) := by
  refine .bind (.log _) fun _ s => ?_
  rcases hread : Image.read opening path with (failure | image) | p
  · rw [Act.conclude_returned_bind]
    exact Trails.bind (.log _) (fun _ => .pure _) s
  · rw [Act.conclude_returned_bind]
    exact trails_parse path (Image.length_of_read hread) s
  · rw [Act.conclude_panicked_bind]
    exact .single (.internal _ rfl s)

theorem trails_compact (code : ParsedCode) :
    Trails vm resolver id (Act.ofQuiet (compact vm code)) := by
  unfold compact
  split
  · exact .pure _
  · exact .bindQuiet (.work (.compact code.id) trivial fun _ => rfl) fun _ => .pure _

theorem trails_dropCode (code : ParsedCode) :
    Trails vm resolver id (Act.ofQuiet (dropCode vm code)) := by
  refine .bindQuiet (trails_compact code) fun code => ?_
  exact .bindQuiet (.work (.release code.id) trivial fun _ => rfl) fun _ => .log _

theorem trails_allocate (session : Session) (code : ParsedCode) :
    Trails vm resolver id (allocate vm session code) := by
  have hdrop : Trails vm resolver id (Act.ofQuiet (dropCode vm code)) := trails_dropCode code
  unfold allocate
  split
  · exact .bind hdrop fun _ => .pure _
  · refine .bind (.onPanic (.work (.allocate code.id) trivial fun _ => rfl) hdrop) fun made => ?_
    cases made with
    | some id => exact .bind (.log _) fun _ => .pure _
    | none => exact .bind (.log _) fun _ => .bind hdrop fun _ => .pure _

theorem trails_link (module : LoadedModule) (options : HostOptions) :
    Trails vm resolver id (link vm module options) := by
  unfold link
  split
  · exact .pure _
  · rename_i m _
    refine .bind (.work (.link m options) trivial fun _ => rfl) fun answer => ?_
    cases answer with
    | ok => exact .bind (.log _) fun _ => .pure _
    | error reason => exact .bind (.log _) fun _ => .pure _

theorem trails_compactModule (module : LoadedModule) :
    Trails vm resolver id (Act.ofQuiet (compactModule vm module)) :=
  .bindQuiet (trails_compact module.code) fun _ => .pure _

theorem trails_entryClosure (module : LoadedModule) :
    Trails vm resolver id (entryClosure vm module) := by
  unfold entryClosure
  split
  · exact .pure _
  · rename_i m _
    refine .bind (.work (.entryClosure m) trivial fun _ => rfl) fun answer => ?_
    cases answer <;> exact .pure _

theorem trails_free (session : Session) (module : LoadedModule) :
    Trails vm resolver id (Act.ofQuiet (free vm session module)) := by
  have hdrop : Trails vm resolver id (Act.ofQuiet (dropCode vm module.code)) :=
    trails_dropCode module.code
  unfold free
  split
  · exact .bindQuiet hdrop fun _ => .pure _
  · rename_i m _
    refine .bindQuiet (.work (.freeModule m) trivial fun _ => rfl) fun _ => ?_
    exact .bindQuiet (.log _) fun _ => .bindQuiet hdrop fun _ => .pure _

end Session

/-! ## The trap -/

namespace Trap

variable {vm : Vm σ} {resolver : Resolver σ}

theorem trails_guard (topic : Log.Topic) (done : Log.Record)
    {call : Act Event (Seam σ) (Option Fault)} (hcall : Trails vm resolver id call) :
    Trails vm resolver id (guard vm topic done call) := by
  refine .bind hcall fun answer => ?_
  cases answer with
  | none => exact .bind (.log _) fun _ => .pure _
  | some fault =>
    refine .bind (.work (.describeFault fault) trivial fun _ => rfl) fun message => ?_
    refine .bind (.work .exceptionStack trivial fun _ => rfl) fun stack => ?_
    exact .bind (.log _) fun _ => .pure _

theorem trails_report (sink : Sink ω) (record : FaultRecord) :
    Trails vm resolver Console.seam (report vm sink record) := by
  have hwrite : Trails vm resolver (Console.seam : Console σ ω → Seam σ)
      (Act.ofQuiet (Console.atSink (record.write sink))) := by
    intro c
    rw [Act.ofQuiet_apply, Console.atSink_apply]
    exact .diagnostics (sink.diagnostics_writeLines record.lines c.sink)
  have hbreak : Trails vm resolver (Console.seam : Console σ ω → Seam σ)
      (Console.atSeam (Seam.debugBreak vm)) :=
    .within (.work .debugBreak trivial fun _ => rfl) fun _ _ => rfl
  refine .bind hwrite fun written => ?_
  cases written with
  | none => exact hbreak
  | some error => exact .bind (.log _) fun _ => hbreak

end Trap

/-! ## Launches -/

namespace Stage

/-- The seam of a stage. -/
def seam (s : Stage σ ω) : Seam σ := s.console.seam

variable {vm : Vm σ} {resolver : Resolver σ}

theorem trails_atSeam {act : Act Event (Seam σ) α} (h : Trails vm resolver id act) :
    Trails vm resolver (seam : Stage σ ω → Seam σ) (atSeam act) :=
  .within (.within h fun _ _ => rfl) fun _ _ => rfl

theorem trails_atSeamQuiet {act : Quiet Event (Seam σ) α}
    (h : Trails vm resolver id (Act.ofQuiet act)) :
    Trails vm resolver (seam : Stage σ ω → Seam σ) (Act.ofQuiet (atSeamQuiet act)) := by
  intro s
  rw [Act.ofQuiet_apply, atSeamQuiet_apply]
  exact h s.seam

theorem trails_hold (change : Holdings → Holdings) :
    Trails vm resolver (seam : Stage σ ω → Seam σ) (hold change) :=
  fun s => .nil s.seam

end Stage

namespace Launch

variable (l : Launch σ ω)

theorem trails_startSession : Trails l.vm l.resolver Stage.seam l.startSession := by
  refine .bind (Stage.trails_atSeamQuiet Session.trails_start) fun answer => ?_
  cases answer with
  | ok session => exact .bind (Stage.trails_hold _) fun _ => .pure _
  | error failure => exact .pure _

theorem trails_buildModule (session : Session) (code : ParsedCode) :
    Trails l.vm l.resolver Stage.seam (l.buildModule session code) := by
  refine .bind (Stage.trails_atSeam (Session.trails_allocate session code)) fun answer => ?_
  cases answer with
  | ok built => exact .bind (Stage.trails_hold _) fun _ => .pure _
  | error failure => exact .pure _

theorem trails_compactModule (module : LoadedModule) :
    Trails l.vm l.resolver Stage.seam (l.compactModule module) :=
  .bind (Stage.trails_atSeamQuiet (Session.trails_compactModule module)) fun _ =>
    .bind (Stage.trails_hold _) fun _ => .pure _

theorem trails_resolveHook : Trails l.vm l.resolver Stage.seam l.resolveHook := by
  refine .bind (Stage.trails_atSeam fun s => .single (.resolve _ _ s)) fun answer => ?_
  cases answer with
  | ok hook => exact .bind (Stage.trails_hold _) fun _ => .pure _
  | error unresolved => exact .pure _

theorem trails_settle (outcome : TrapOutcome) :
    Trails l.vm l.resolver Stage.seam (l.settle outcome) := by
  cases outcome with
  | disarmed => exact .pure _
  | triggered record =>
    exact .bind (.within (Trap.trails_report l.sink record) fun _ _ => rfl) fun _ => .pure _

theorem trails_forward (options : HostOptions) :
    Trails l.vm l.resolver Stage.seam (l.forward options) := by
  refine .attempt l.trails_startSession fun session => ?_
  refine .attempt (Stage.trails_atSeam (Session.trails_load _ _)) fun code => ?_
  refine .attempt (l.trails_buildModule session code) fun module => ?_
  refine .attempt (Stage.trails_atSeam (Session.trails_link module options)) fun _ => ?_
  refine .attempt (l.trails_compactModule module) fun module => ?_
  refine .attempt l.trails_resolveHook fun hook => ?_
  have hsetup : Trails l.vm l.resolver id (Seam.callSetup l.vm hook options) :=
    .work (.callSetup hook options) trivial fun _ => rfl
  refine .attempt (.bind (Stage.trails_atSeam (Trap.trails_guard _ _ hsetup))
    l.trails_settle) fun _ => ?_
  refine .attempt (Stage.trails_atSeam (Session.trails_entryClosure module)) fun closure => ?_
  have hcall : Trails l.vm l.resolver id (Seam.call l.vm closure) :=
    .work (.call closure) trivial fun _ => rfl
  exact .bind (Stage.trails_atSeam (Trap.trails_guard _ _ hcall)) l.trails_settle

theorem trails_releaseAll : Trails l.vm l.resolver Stage.seam (Act.ofQuiet l.releaseAll) := by
  refine .bindQuiet (fun s => .nil s.seam) fun held => ?_
  refine .bindQuiet ?_ fun _ => .bindQuiet ?_ fun _ => .bindQuiet ?_ fun _ => ?_
  · unfold releaseModule
    split
    · exact .bindQuiet (Stage.trails_atSeamQuiet (Session.trails_free _ _)) fun _ => .pure _
    · exact .pure _
  · unfold releaseSession
    split
    · exact Stage.trails_atSeamQuiet Session.trails_finish
    · exact .pure _
  · unfold releaseHook
    split
    · exact Stage.trails_atSeamQuiet fun s => .single (.dropHook _ s)
    · exact .pure _
  · exact fun s => .nil s.seam

theorem trails_diagnose (failure : Failure) :
    Trails l.vm l.resolver Stage.seam (l.diagnose failure) := by
  intro s
  rw [diagnose_apply]
  exact .diagnostics (diagnostics_diagnoseEvents ..)

/-- A launch leaves a trail at the seam. -/
theorem run_trail (options : HostOptions) (s : Stage σ ω) :
    Trail l.vm l.resolver s.seam (l.run options s).trace (l.run options s).state.seam := by
  have hrun : Trails l.vm l.resolver Stage.seam (l.run options) := by
    refine .bind (.log _) fun _ => ?_
    refine .bind (.ensuring (l.trails_forward options) l.trails_releaseAll) fun result => ?_
    cases result with
    | ok => exact .bind (.log _) fun _ => .pure _
    | error failure =>
      exact .bind (.log _) fun _ => .bind (l.trails_diagnose failure) fun _ => .pure _
  exact hrun s

/-- A launch whose resolver answers with no fault finds none among the answers. -/
theorem run_not_foreign (hresolver : l.resolver.AnswersNoFault) (options : HostOptions)
    (s : Stage σ ω) (record : FaultRecord) :
    ¬ Event.ForeignFault record (l.run options s).trace := by
  rintro ⟨library, symbol, hmem⟩
  obtain ⟨beyond, hanswer⟩ := (l.run_trail options s).exists_resolve hmem
  exact hresolver library symbol beyond record hanswer.symm

end Launch

end Launcher
