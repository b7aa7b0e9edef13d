import Launcher.Proofs.Launch.Diagnostics

/-!
# Milestones in the log

What a launch acquires and what it releases stands in its log: once for each call that did it, and
in the order of the calls. As every launch releases what it has acquired, every acquisition in the
log is followed by its release, the last one first.

- `Milestone`: what can be acquired and released; `Event.logged`, `Event.reached`: the milestones in
  the log and among the calls.
- `Launch.Step.milestones`: what a step reaches.
- `Launch.Course.milestones`: the milestones of a course and of the release after it.
- `Launch.run_milestones`: the milestones of a launch.
-/

namespace Launcher

/-- Something that is acquired or released. -/
inductive Milestone
  | globalInit
  | imageLoad
  | moduleAlloc
  | moduleFree
  | codeRelease
  | globalTeardown
  deriving DecidableEq

namespace Milestone

/-- The milestone that a record says has been reached. -/
def ofRecord? (r : Log.Record) : Option Milestone :=
  match r.status, r.topic with
  | .ok, .globalInit => some globalInit
  | .ok, .imageLoad => some imageLoad
  | .ok, .moduleAlloc => some moduleAlloc
  | .ok, .moduleFree => some moduleFree
  | .ok, .codeRelease => some codeRelease
  | .ok, .globalTeardown => some globalTeardown
  | _, _ => none

/-- The milestone that a call has reached, if it was answered with success. -/
def ofCall? : Vm.Call → Option Milestone
  | .globalInit (.ok ()) => some globalInit
  | .parse _ (.returned (.ok _)) => some imageLoad
  | .allocate _ (.returned (some _)) => some moduleAlloc
  | .freeModule _ => some moduleFree
  | .release _ => some codeRelease
  | .globalTeardown => some globalTeardown
  | _ => none

/-- What is acquired, in order, each with its release. -/
def pairs : List (Milestone × Milestone) :=
  [(globalInit, globalTeardown), (imageLoad, codeRelease), (moduleAlloc, moduleFree)]

/-- The first acquisitions, and then their releases in reverse order. -/
def balanced (n : Nat) : List Milestone :=
  (pairs.take n).map Prod.fst ++ ((pairs.take n).map Prod.snd).reverse

end Milestone

namespace Event

/-- The milestone that an event logs. -/
def logged? : Event → Option Milestone
  | .log r => Milestone.ofRecord? r
  | _ => none

/-- The milestone that an event reaches. -/
def reached? : Event → Option Milestone
  | .call c => Milestone.ofCall? c
  | _ => none

/-- The milestones that the launcher has logged, in order. -/
def logged (t : List Event) : List Milestone := t.filterMap logged?

/-- The milestones that calls have reached, in order. -/
def reached (t : List Event) : List Milestone := t.filterMap reached?

/-- Events in which some milestones are reached and logged. -/
structure Marks (t : List Event) (milestones : List Milestone) : Prop where
  logged : logged t = milestones
  reached : reached t = milestones

theorem Marks.append {t u : List Event} {m n : List Milestone} (ht : Marks t m)
    (hu : Marks u n) : Marks (t ++ u) (m ++ n) where
  logged := by rw [Event.logged, List.filterMap_append, ← ht.logged, ← hu.logged]; rfl
  reached := by rw [Event.reached, List.filterMap_append, ← ht.reached, ← hu.reached]; rfl

theorem Marks.nil : Marks [] [] := ⟨rfl, rfl⟩

/-- Events of which none is about a milestone. -/
theorem Marks.of_none {t : List Event} (h : ∀ e ∈ t, e.logged? = none ∧ e.reached? = none) :
    Marks t [] where
  logged := List.filterMap_eq_nil_iff.2 fun e he => (h e he).1
  reached := List.filterMap_eq_nil_iff.2 fun e he => (h e he).2

end Event

namespace Launch

open Event

variable {σ ω : Type}

/-! ## Steps -/

/-- The milestones of a step. -/
def Step.milestones : Step → List Milestone
  | .start (.ok ()) => [.globalInit]
  | .load _ (.parsed _ (.returned (.ok _))) => [.imageLoad]
  | .allocate _ (.returned (some _)) => [.moduleAlloc]
  | .allocate .. => [.codeRelease]
  | _ => []

theorem marks_dropEvents (code : ParsedCode) : Marks (Session.dropEvents code) [.codeRelease] := by
  unfold Session.dropEvents Session.compactEvents
  split <;> exact ⟨rfl, rfl⟩

theorem marks_freeEvents (m : ModuleId) (code : ParsedCode) :
    Marks (Session.freeEvents ⟨some m, code⟩) [.moduleFree, .codeRelease] :=
  .append (t := [.call (.freeModule m), .log (.debug .moduleFree .context .ok [])])
    (m := [.moduleFree]) ⟨rfl, rfl⟩ (marks_dropEvents code)

/-- What happens on the diagnostics stream is no milestone. -/
theorem marks_diagnostics {t : List Event} (h : diagnostics t = t) : Marks t [] := by
  refine .of_none fun e he => ?_
  have hdiagnostic := List.filter_eq_self.1 h e he
  cases e with
  | log r =>
    refine ⟨?_, rfl⟩
    obtain ⟨level, topic, component, status, fields⟩ := r
    cases status with
    | ok => cases hdiagnostic
    | _ => rfl
  | write | flush => exact ⟨rfl, rfl⟩
  | _ => cases hdiagnostic

/-- Nor is a fault that is captured and reported. -/
theorem marks_aftermath (guarded : Guarded) {topic : Log.Topic} {done : Log.Record}
    (hdone : Milestone.ofRecord? done = none) (sink : Sink ω) (w : ω) :
    Marks (guarded.aftermath topic done sink w) [] := by
  have hreport : ∀ record, Marks (Trap.reportEvents sink w record) [] := fun record =>
    marks_diagnostics (diagnostics_reportEvents sink w record)
  cases guarded with
  | panicked => exact ⟨rfl, rfl⟩
  | returned => exact .of_none fun e he => by rw [List.mem_singleton.1 he]; exact ⟨hdone, rfl⟩
  | undescribed => exact ⟨rfl, rfl⟩
  | untraced => exact ⟨rfl, rfl⟩
  | unbroken fault record p =>
    exact .append (.append ⟨rfl, rfl⟩ (hreport record)) ⟨rfl, rfl⟩
  | faulted fault record =>
    exact .append (.append ⟨rfl, rfl⟩ (hreport record)) ⟨rfl, rfl⟩

/-- A step logs what it has reached. -/
theorem marks_events (step : Step) (sink : Sink ω) (w : ω) :
    Marks (step.events sink w) step.milestones := by
  cases step with
  | start answer => rcases answer with _ | _ <;> exact ⟨rfl, rfl⟩
  | load path loading => rcases loading with _ | _ | ⟨_, (_ | _) | _⟩ <;> exact ⟨rfl, rfl⟩
  | allocate code answer =>
    rcases answer with (_ | m) | p
    · exact .append (t := [_, _]) (m := []) ⟨rfl, rfl⟩ (marks_dropEvents code)
    · exact ⟨rfl, rfl⟩
    · exact .append (t := [_, _]) (m := []) ⟨rfl, rfl⟩ (marks_dropEvents code)
  | link m options answer => rcases answer with (_ | _) | _ <;> exact ⟨rfl, rfl⟩
  | compact => exact ⟨rfl, rfl⟩
  | resolve library symbol answer => cases answer <;> exact ⟨rfl, rfl⟩
  | setup hook options guarded =>
    exact .append (t := [_]) (m := []) ⟨rfl, rfl⟩ (marks_aftermath guarded rfl sink w)
  | entry m answer => cases answer <;> exact ⟨rfl, rfl⟩
  | call closure guarded =>
    exact .append (t := [_]) (m := []) ⟨rfl, rfl⟩ (marks_aftermath guarded rfl sink w)

/-! ## The release -/

/-- The release of a module, its program and the global state. -/
theorem marks_releaseEvents {held : Holdings} {module : Option LoadedModule}
    (h : Holds held module) {ms : List Milestone}
    (hmodule : Marks (module.elim [] Session.freeEvents) ms) :
    Marks held.releaseEvents (ms ++ [.globalTeardown]) := by
  obtain ⟨session, held, hook⟩ := held
  obtain ⟨hsession, rfl⟩ := h
  obtain ⟨session, rfl⟩ := Option.isSome_iff_exists.1 hsession
  have hhook : Marks (Holdings.hookEvents ⟨some session, held, hook⟩) [] := by
    cases hook <;> exact ⟨rfl, rfl⟩
  have hfree : Holdings.moduleEvents ⟨some session, held, hook⟩ =
      held.elim [] Session.freeEvents := by
    cases held <;> rfl
  have hwhole := (hmodule.append (⟨rfl, rfl⟩ : Marks Session.finishEvents [.globalTeardown])).append
    hhook
  rw [List.append_nil] at hwhole
  rw [Holdings.releaseEvents, hfree]
  exact hwhole

/-- Steps that reach some milestones before what is held after them is released. -/
def Reaches (sink : Sink ω) (w : ω) (held : Holdings) (steps : List Step)
    (milestones : List Milestone) : Prop :=
  Marks (steps.flatMap (Step.events sink w) ++ (steps.foldl after held).releaseEvents) milestones

variable {sink : Sink ω} {w : ω} {held : Holdings}

theorem Reaches.cons {step : Step} {rest : List Step} {ms : List Milestone}
    (h : Reaches sink w (after held step) rest ms) :
    Reaches sink w held (step :: rest) (step.milestones ++ ms) := by
  unfold Reaches
  rw [List.flatMap_cons, List.append_assoc]
  exact .append (marks_events step sink w) h

/-- The global state alone is released. -/
theorem reaches_session (h : Holds held none) : Reaches sink w held [] [.globalTeardown] :=
  marks_releaseEvents h .nil

/-- A module goes with its program and the global state. -/
theorem reaches_module {m : ModuleId} {code : ParsedCode} (h : Holds held (some ⟨some m, code⟩)) :
    Reaches sink w held [] [.moduleFree, .codeRelease, .globalTeardown] :=
  marks_releaseEvents h (marks_freeEvents m code)

/-! ## Courses -/

/-- Steps after which a module is still held, and that reach nothing before it is released. -/
def Step.Keeps (m : ModuleId) (step : Step) : Prop :=
  step.milestones = [] ∧ ∀ held code, Holds held (some ⟨some m, code⟩) →
    ∃ code, Holds (after held step) (some ⟨some m, code⟩)

theorem reaches_of_keeps {m : ModuleId} {code : ParsedCode} {steps : List Step}
    (h : ∀ step ∈ steps, step.Keeps m) (hheld : Holds held (some ⟨some m, code⟩)) :
    Reaches sink w held steps [.moduleFree, .codeRelease, .globalTeardown] := by
  induction steps generalizing held code with
  | nil => exact reaches_module hheld
  | cons step rest ih =>
    obtain ⟨⟨hnone, hkeeps⟩, hrest⟩ := List.forall_mem_cons.1 h
    obtain ⟨code, hheld⟩ := hkeeps held code hheld
    have hreaches := (ih hrest hheld).cons
    rwa [hnone] at hreaches

/-- Once a module has been built, every step keeps it. -/
theorem ModuleCourse.keeps {l : Launch σ ω} {options : HostOptions} {m : ModuleId}
    {code : ParsedCode} {steps : List Step} (h : l.ModuleCourse options m code steps) :
    ∀ step ∈ steps, step.Keeps m := by
  refine Then.forall_mem h (fun _ => ⟨rfl, fun _ code h => ⟨code, h⟩⟩) fun _ _ h => ?_
  refine Then.forall_mem h (fun _ => ⟨rfl, fun _ _ h => ⟨_, h.session, rfl⟩⟩) fun _ _ h => ?_
  refine Then.forall_mem h (fun _ => ⟨rfl, fun _ code h => ⟨code, h.resolve _ _ _⟩⟩)
    fun hook _ h => ?_
  refine Then.forall_mem h (fun _ => ⟨rfl, fun _ code h => ⟨code, h⟩⟩) fun _ _ h => ?_
  refine Then.forall_mem h (fun _ => ⟨rfl, fun _ code h => ⟨code, h⟩⟩) fun closure _ h => ?_
  refine Then.forall_mem h (fun _ => ⟨rfl, fun _ code h => ⟨code, h⟩⟩) fun _ rest h => ?_
  rw [h]
  exact List.forall_mem_nil _

/-- However far a course gets, it reaches the acquisitions up to there and then their releases. -/
theorem Course.milestones {l : Launch σ ω} {options : HostOptions} {steps : List Step}
    (h : l.Course options steps) :
    ∃ n, Reaches sink w .none steps (Milestone.balanced n) := by
  obtain ⟨started, rest, rfl, h⟩ := h
  rcases started with reason | _
  · obtain rfl : rest = [] := h
    exact ⟨0, .cons .nil⟩
  obtain ⟨answer, rest, rfl, h⟩ := h
  dsimp only at h ⊢
  generalize Loading.ofImage (Image.read l.opening l.settings.image) answer = loading at h ⊢
  rcases loading with failure | p | ⟨image, (reason | c) | p⟩
  case parsed.returned.ok =>
    obtain ⟨built, rest, rfl, h⟩ := h
    rcases built with (_ | m) | p
    case returned.some =>
      refine ⟨3, ?_⟩
      show Reaches sink w .none _ [.globalInit, .imageLoad, .moduleAlloc, .moduleFree, .codeRelease,
        .globalTeardown]
      exact .cons (.cons (.cons (reaches_of_keeps (ModuleCourse.keeps h) ⟨rfl, rfl⟩)))
    -- without a module the program has been given up already
    all_goals
      obtain rfl : rest = [] := h
      refine ⟨2, ?_⟩
      show Reaches sink w .none _ [.globalInit, .imageLoad, .codeRelease, .globalTeardown]
      exact .cons (.cons (.cons (reaches_session ⟨rfl, rfl⟩)))
  -- without a program the global state is all there is
  all_goals
    obtain rfl : rest = [] := h
    refine ⟨1, ?_⟩
    show Reaches sink w .none _ [.globalInit, .globalTeardown]
    exact .cons (.cons (reaches_session ⟨rfl, rfl⟩))

end Launch

end Launcher
