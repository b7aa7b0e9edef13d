import Launcher.Proofs.Launch.Hook
import Launcher.Proofs.Session.Owing
import Launcher.Rehearsal.ScriptedVm

/-!
# The release discipline of launches

Whatever the answers, also when one of them is a panic, a launch releases what it has acquired: the
bodies of a program and then the program once, a module once, after it was asked to link and before
its program is released, and the global state last. Nothing is mentioned after its release. The hook
goes after the global state.

- `Released`: the discipline, as a property of a trace.
- `Launch.Closes`: steps that end with nothing left in the ledger of their calls.
- `Launch.runs_released`: every one of any number of launches, one after the other, is disciplined.
-/

namespace Launcher

/-- Everything that the calls of a trace acquire is released, in order, and once. -/
structure Released (trace : List Event) : Prop where
  /-- A global state that was refused is the only call; otherwise its release is the last call. -/
  session :
    (∃ reason, Event.calls trace = [.globalInit (.error reason)] ∧
      ∀ library symbol answer, .resolve library symbol answer ∉ trace) ∨
    ∃ between, Event.calls trace = .globalInit (.ok ()) :: (between ++ [.globalTeardown]) ∧
      .globalTeardown ∉ between
  /-- The bodies of a program are dropped once, and later it is released once. -/
  programs : ∀ image c, .parse image (.returned (.ok c)) ∈ Event.calls trace →
    (Event.calls trace).filter (Vm.Call.ends c) = [.compact c, .release c]
  /-- A module is freed once, after it was asked to link and before its program is released. -/
  modules : ∀ c m, .allocate c (.returned (some m)) ∈ Event.calls trace →
    (Event.calls trace).filter (Vm.Call.frees m) = [.freeModule m] ∧
      ∃ before rest, Event.calls trace = before ++ .freeModule m :: rest ∧
        (∃ options answer, .link m options answer ∈ before) ∧ .release c ∈ rest
  /-- A module that was freed is not mentioned again. -/
  freed : ∀ before rest m, Event.calls trace = before ++ .freeModule m :: rest →
    ∀ call ∈ rest, ¬ call.MentionsModule m
  /-- A program that was released is not mentioned again. -/
  released : ∀ before rest c, Event.calls trace = before ++ .release c :: rest →
    ∀ call ∈ rest, ¬ call.MentionsCode c
  /-- A hook that was resolved is given up once, after the global state, and no other is. -/
  hooks : ∀ library symbol hook, .resolve library symbol (.returned (.ok hook)) ∈ trace →
    ∃ before rest, Event.own trace = before ++ .dropHook hook :: rest ∧
      .call .globalTeardown ∈ before ∧ ∀ other, .dropHook other ∉ before ++ rest

namespace Launch

variable {σ ω : Type}

/-! ## The calls of a launch -/

/-- The calls of steps and of the release of what they acquired. -/
def stepCalls (held : Holdings) (steps : List Step) : List Vm.Call :=
  steps.flatMap Step.calls ++ Event.calls (steps.foldl after held).releaseEvents

theorem calls_flatMap_events (sink : Sink ω) (w : ω) (steps : List Step) :
    Event.calls (steps.flatMap (Step.events sink w)) = steps.flatMap Step.calls := by
  induction steps with
  | nil => rfl
  | cons step rest ih => rw [List.flatMap_cons, Event.calls_append, calls_events, ih]; rfl

theorem calls_runEvents (l : Launch σ ω) (w : ω) (steps : List Step) :
    Event.calls (l.runEvents w steps) = stepCalls .none steps := by
  have hclosing : Event.calls (l.closingEvents w (decision steps)) = [] := by
    unfold closingEvents
    split <;> simp
  simp [runEvents, hclosing, calls_flatMap_events, stepCalls, heldAfter]

theorem calls_of_runEvents {l : Launch σ ω} {w : ω} {steps : List Step} {trace : List Event}
    (h : Event.own trace = l.runEvents w steps) : Event.calls trace = stepCalls .none steps :=
  (Event.calls_of_own h).trans (calls_runEvents l w steps)

/-! ## Closing -/

/-- Steps whose calls, with the release of what is held after them, are in order and leave nothing
behind. -/
structure Closes (L : Ledger) (held : Holdings) (steps : List Step) : Prop where
  accepts : L.Accepts (stepCalls held steps)
  settled : (L.run (stepCalls held steps)).Settled
  gone : (L.run (stepCalls held steps)).state = .gone

variable {L : Ledger} {held : Holdings}

/-- A step in order before steps that close. -/
theorem Closes.cons {step : Step} {rest : List Step} (hstep : L.Accepts step.calls)
    (h : Closes (L.run step.calls) (after held step) rest) : Closes L held (step :: rest) := by
  have hcalls : stepCalls held (step :: rest) = step.calls ++ stepCalls (after held step) rest := by
    simp [stepCalls]
  constructor
  · rw [hcalls, Ledger.accepts_append]
    exact ⟨hstep, h.accepts⟩
  · rw [hcalls, Ledger.run_append]
    exact h.settled
  · rw [hcalls, Ledger.run_append]
    exact h.gone

/-- A step that changes nothing before steps that close. -/
theorem Closes.cons_idle {step : Step} {rest : List Step} (hstep : L.Idles step.calls)
    (h : Closes L (after held step) rest) : Closes L held (step :: rest) :=
  .cons hstep.accepts (hstep.run.symm ▸ h)

/-- What is held, without the hook. -/
structure Holds (held : Holdings) (module : Option LoadedModule) : Prop where
  session : held.session.isSome
  module : held.module = module

theorem calls_releaseEvents {module : Option LoadedModule} (h : Holds held module) :
    Event.calls held.releaseEvents =
      (module.elim [] fun module => Event.calls (Session.freeEvents module)) ++
        [.globalTeardown] := by
  obtain ⟨session, held, hook⟩ := held
  obtain ⟨hsession, rfl⟩ := h
  obtain ⟨session, rfl⟩ := Option.isSome_iff_exists.1 hsession
  have hhook : Event.calls (Holdings.hookEvents ⟨some session, held, hook⟩) = [] := by
    cases hook <;> rfl
  cases held <;> simp [Holdings.releaseEvents, Holdings.moduleEvents, Holdings.sessionEvents, hhook]

/-- The global state alone can be released. -/
theorem closes_session (h : Holds held none) (howes : L.Owes [] none) : Closes L held [] := by
  have hcalls : stepCalls held [] = [.globalTeardown] := by
    simp [stepCalls, calls_releaseEvents h]
  constructor <;> rw [hcalls]
  · exact ⟨howes.finish, trivial⟩
  · exact howes.settled
  · rfl

/-- A module, its program and the global state can be released. -/
theorem closes_module {m : ModuleId} {code : ParsedCode} (h : Holds held (some ⟨some m, code⟩))
    (howes : L.Owes [code] (some (m, code.id))) : Closes L held [] := by
  obtain ⟨hfree, hfreed⟩ := howes.freeModule
  obtain ⟨hdrop, hdropped⟩ := hfreed.drop nofun
  have hcalls : stepCalls held [] =
      .freeModule m :: (Event.calls (Session.dropEvents code) ++ [.globalTeardown]) := by
    simp [stepCalls, calls_releaseEvents h]
  constructor <;> rw [hcalls]
  · rw [Ledger.accepts_cons, Ledger.accepts_append]
    exact ⟨hfree, hdrop, hdropped.finish, trivial⟩
  · rw [Ledger.run_cons, Ledger.run_append]
    exact hdropped.settled
  · rw [Ledger.run_cons, Ledger.run_append]
    rfl

/-! ## Courses close -/

/-- A request that changes nothing, whatever the answer, before steps that close. -/
theorem Then.closes {α γ : Type} {step : α → Step} {value : α → Ending (Except Failure γ)}
    {next : γ → List Step → Prop} {steps : List Step} {m : ModuleId} {code : ParsedCode}
    (h : Then step value next steps) (howes : L.Owes [code] (some (m, code.id)))
    (hidle : ∀ a, L.Idles (step a).calls)
    (hkeeps : ∀ a, Holds (after held (step a)) (some ⟨some m, code⟩))
    (hnext : ∀ c rest held, Holds held (some ⟨some m, code⟩) → next c rest → Closes L held rest) :
    Closes L held steps := by
  obtain ⟨a, rest, rfl, hrest⟩ := h
  refine .cons_idle (hidle a) ?_
  rcases hvalue : value a with (failure | c) | p <;> rw [hvalue] at hrest
  · rw [hrest]
    exact closes_module (hkeeps a) howes
  · exact hnext c rest _ (hkeeps a) hrest
  · rw [hrest]
    exact closes_module (hkeeps a) howes

/-- Dropping the bodies of the program of the module, before steps that close. -/
theorem Then.closes_compact {next : Unit → List Step → Prop} {steps : List Step} {m : ModuleId}
    {code : ParsedCode}
    (h : Then (fun () => .compact m code) (fun () => .returned (.ok ())) next steps)
    (howes : L.Owes [code] (some (m, code.id))) (hwhole : code.compacted = false)
    (hheld : Holds held (some ⟨some m, code⟩))
    (hnext : ∀ L rest held, L.Owes [{ code with compacted := true }] (some (m, code.id)) →
      Holds held (some ⟨some m, { code with compacted := true }⟩) → next () rest →
      Closes L held rest) :
    Closes L held steps := by
  obtain ⟨⟨⟩, rest, rfl, hrest⟩ := h
  obtain ⟨hstrip, hstripped⟩ := howes.strip
  -- the bodies are still there, so the call is made
  rw [Session.calls_compactEvents, hwhole] at hstrip hstripped
  exact .cons hstrip (hnext _ rest _ hstripped ⟨hheld.session, rfl⟩ hrest)

/-- A call under the trap changes nothing, however it ends. -/
theorem idles_guarded (hlive : L.state = .live) (guarded : Guarded) :
    L.Idles guarded.captureCalls := by
  cases guarded <;> exact ⟨by simp [Guarded.captureCalls, Ledger.Allows, Ledger.after, hlive], rfl⟩

/-- Resolving the hook changes nothing but the hook. -/
theorem Holds.resolve {module : Option LoadedModule} (h : Holds held module)
    (library symbol : String) (answer : Ending (Except Failure Hook)) :
    Holds (after held (.resolve library symbol answer)) module := by
  rcases answer with (_ | hook) | _
  · exact h
  · exact ⟨h.session, h.module⟩
  · exact h

/-- Once a module has been built, every course closes. -/
theorem ModuleCourse.closes {l : Launch σ ω} {options : HostOptions} {m : ModuleId}
    {code : ParsedCode} {steps : List Step} (h : l.ModuleCourse options m code steps)
    (hwhole : code.compacted = false) (hheld : Holds held (some ⟨some m, code⟩))
    (howes : L.Owes [code] (some (m, code.id))) : Closes L held steps := by
  refine Then.closes h howes (Ledger.idles_link howes.live howes.module_alive options)
    (fun _ => hheld) fun _ rest held hheld h => ?_
  refine Then.closes_compact h howes hwhole hheld fun L rest held howes hheld h => ?_
  have hguarded := idles_guarded howes.live
  refine Then.closes h howes (fun _ => ⟨trivial, rfl⟩) (hheld.resolve _ _)
    fun hook rest held hheld h => ?_
  refine Then.closes h howes
    (fun guarded => ⟨⟨howes.live, (hguarded guarded).accepts⟩, (hguarded guarded).run⟩)
    (fun _ => hheld) fun _ rest held hheld h => ?_
  refine Then.closes h howes (Ledger.idles_entryClosure howes.live howes.module_alive)
    (fun _ => hheld) fun closure rest held hheld h => ?_
  refine Then.closes h howes
    (fun guarded => ⟨⟨howes.live, (hguarded guarded).accepts⟩, (hguarded guarded).run⟩)
    (fun _ => hheld) fun _ rest held hheld h => ?_
  obtain rfl : rest = [] := h
  exact closes_module hheld howes

/-- Asking for a module, before steps that close. Without a module the program is given up. -/
theorem Then.closes_allocate {next : ModuleId → List Step → Prop} {steps : List Step}
    {code : ParsedCode} (h : Then (.allocate code) builtAnswer next steps)
    (howes : L.Owes [code] none) (hunknown : ∀ m, L.module m = .unknown) (hheld : Holds held none)
    (hnext : ∀ L m rest held, L.Owes [code] (some (m, code.id)) →
      Holds held (some ⟨some m, code⟩) → next m rest → Closes L held rest) :
    Closes L held steps := by
  obtain ⟨answer, rest, rfl, hrest⟩ := h
  have hasked : L.Allows (.allocate code.id answer) :=
    howes.ask List.mem_cons_self fun m _ => hunknown m
  by_cases hbuilt : ∃ m, answer = .returned (some m)
  · obtain ⟨m, rfl⟩ := hbuilt
    exact .cons ⟨hasked, trivial⟩
      (hnext _ m rest _ (howes.allocate (hunknown m)) ⟨rfl, rfl⟩ hrest)
  -- the program is given up, and the session is all that is left
  have hfailed : ∀ m, answer ≠ .returned (some m) := fun m hm => hbuilt ⟨m, hm⟩
  obtain rfl : rest = [] := by
    rcases answer with (_ | m) | p
    · exact hrest
    · exact absurd rfl (hfailed m)
    · exact hrest
  have hkept : Holds (after held (.allocate code answer)) none := by
    rcases answer with (_ | m) | p
    · exact hheld
    · exact absurd rfl (hfailed m)
    · exact hheld
  obtain ⟨hdrop, hdropped⟩ := howes.drop nofun
  have hcalls : (Step.allocate code answer).calls =
      .allocate code.id answer :: Event.calls (Session.dropEvents code) :=
    Session.calls_allocateEvents_failed code hfailed
  have hafter := L.after_allocate_failed code.id hfailed
  refine .cons ?_ (closes_session hkept ?_)
  · rw [hcalls, Ledger.accepts_cons, hafter]
    exact ⟨hasked, hdrop⟩
  · rw [hcalls, Ledger.run_cons, hafter]
    exact hdropped

/-- Loading an image, before steps that close. -/
theorem Then.closes_load {next : ParsedCode → List Step → Prop} {steps : List Step} {path : Path}
    {loading : Ending (Except String CodeId) → Loading}
    (h : Then (fun a => .load path (loading a)) (fun a => Session.loadAnswer path (loading a)) next
      steps)
    (howes : L.Owes [] none) (hunknown : ∀ c, L.code c = .unknown) (hheld : Holds held none)
    (hnext : ∀ image code rest, code.compacted = false →
      (L.after (.parse image (.returned (.ok code.id)))).Owes [code] none → next code rest →
      Closes (L.after (.parse image (.returned (.ok code.id)))) held rest) :
    Closes L held steps := by
  obtain ⟨a, rest, rfl, hrest⟩ := h
  by_cases hloaded : ∃ code, Session.loadAnswer path (loading a) = .returned (.ok code)
  · obtain ⟨code, hcode⟩ := hloaded
    obtain ⟨⟨image, himage⟩, hwhole⟩ := Session.parsed_of_loadAnswer hcode
    obtain ⟨hparse, hparsed⟩ := howes.parse (hunknown code.id) image.bytes
    simp only [hcode] at hrest
    simp only [himage]
    refine .cons ⟨hparse, trivial⟩ (hnext image.bytes code rest hwhole ?_ hrest)
    rwa [← hwhole] at hparsed
  · obtain rfl : rest = [] := by
      rcases hvalue : Session.loadAnswer path (loading a) with (failure | code) | p <;>
        simp only [hvalue] at hrest
      · exact hrest
      · exact absurd ⟨code, hvalue⟩ hloaded
      · exact hrest
    -- without a program nothing is owed but the session
    exact .cons_idle (Ledger.idles_load howes.live fun code hcode => hloaded ⟨code, hcode⟩)
      (closes_session hheld howes)

/-- Once the global state has been created, every course closes. -/
theorem Course.closes {l : Launch σ ω} {options : HostOptions} {rest : List Step}
    (h : l.Course options (.start (.ok ()) :: rest)) :
    Closes .empty .none (.start (.ok ()) :: rest) := by
  obtain ⟨answer, rest, heq, h⟩ := h
  obtain ⟨heq, rfl⟩ := List.cons.inj heq
  cases heq
  refine .cons ⟨rfl, trivial⟩ ?_
  refine Then.closes_load h Ledger.owes_nothing (fun _ => rfl) ⟨rfl, rfl⟩
    fun image code rest hwhole howes h => ?_
  refine Then.closes_allocate h howes (fun _ => rfl) ⟨rfl, rfl⟩
    fun L m rest held howes hheld h => ?_
  exact ModuleCourse.closes h hwhole hheld howes

/-! ## Linking comes after building -/

/-- A module is asked for by the step that is to build it, and by no other. -/
theorem allocate_not_mem_calls {step : Step} (h : step.kind ≠ .allocate) (c : CodeId)
    (answer : Ending (Option ModuleId)) : .allocate c answer ∉ step.calls := by
  have hguarded : ∀ guarded : Guarded, .allocate c answer ∉ guarded.captureCalls := by
    intro guarded
    cases guarded <;> simp [Guarded.captureCalls]
  cases step with
  | allocate => exact absurd rfl h
  | load path loading => cases loading <;> simp [Step.calls]
  | setup hook options guarded => simp [Step.calls, hguarded guarded]
  | call closure guarded => simp [Step.calls, hguarded guarded]
  | _ => simp [Step.calls]

/-- Steps among whose calls every module that is built is asked to link at once. -/
def Linked (options : HostOptions) (steps : List Step) : Prop :=
  ∀ c m, .allocate c (.returned (some m)) ∈ steps.flatMap Step.calls →
    ∃ before answer rest, steps.flatMap Step.calls =
      before ++ .allocate c (.returned (some m)) :: .link m options answer :: rest

theorem Linked.cons {options : HostOptions} {step : Step} {rest : List Step}
    (hstep : step.kind ≠ .allocate) (h : Linked options rest) : Linked options (step :: rest) := by
  intro c m hm
  rw [List.flatMap_cons] at hm ⊢
  obtain ⟨before, answer, rest, heq⟩ :=
    h c m ((List.mem_append.1 hm).resolve_left (allocate_not_mem_calls hstep c _))
  exact ⟨step.calls ++ before, answer, rest, by rw [heq, List.append_assoc]⟩

theorem Then.linked {α γ : Type} {options : HostOptions} {step : α → Step}
    {value : α → Ending (Except Failure γ)} {next : γ → List Step → Prop} {steps : List Step}
    (h : Then step value next steps) (hkind : ∀ a, (step a).kind ≠ .allocate)
    (hnext : ∀ c rest, next c rest → Linked options rest) : Linked options steps := by
  have hnil : Linked options [] := fun _ _ hm => nomatch hm
  obtain ⟨a, rest, rfl, hrest⟩ := h
  refine .cons (hkind a) ?_
  rcases hvalue : value a with (failure | c) | p <;> simp only [hvalue] at hrest
  · rwa [hrest]
  · exact hnext c rest hrest
  · rwa [hrest]

theorem Course.linked {l : Launch σ ω} {options : HostOptions} {steps : List Step}
    (h : l.Course options steps) : Linked options steps := by
  refine Then.linked h (fun _ => nofun) fun _ _ h => ?_
  refine Then.linked h (fun _ => nofun) fun code _ h => ?_
  obtain ⟨built, rest, rfl, h⟩ := h
  rcases built with (_ | n) | p
  · obtain rfl : rest = [] := h
    intro c m hm
    simp [Step.calls, Session.calls_allocateEvents_failed] at hm
  · have hattempts := ModuleCourse.attempts l h
    obtain ⟨answer, others, rfl, -⟩ := h
    intro c m hm
    rw [List.flatMap_cons] at hm ⊢
    rcases List.mem_append.1 hm with hm | hm
    · cases List.mem_singleton.1 hm
      exact ⟨[], answer, others.flatMap Step.calls, rfl⟩
    · obtain ⟨step, hstep, hm⟩ := List.mem_flatMap.1 hm
      -- a course allocates once, and that step is behind us
      refine absurd hm (allocate_not_mem_calls (fun hkind => ?_) c _)
      have hmem := hattempts.kinds.subset (List.mem_map_of_mem hstep)
      rw [hkind] at hmem
      exact absurd hmem (by decide)
  · obtain rfl : rest = [] := h
    intro c m hm
    simp [Step.calls, Session.calls_allocateEvents_failed] at hm

/-! ## Launches one after the other -/

/-- No module is asked for when things are released. -/
theorem allocate_not_mem_release (held : Holdings) (c : CodeId) (answer : Ending (Option ModuleId)) :
    .allocate c answer ∉ Event.calls held.releaseEvents := by
  obtain ⟨_ | session, _ | ⟨_ | m, code⟩, _ | hook⟩ := held <;>
    simp [Holdings.releaseEvents, Holdings.moduleEvents, Holdings.sessionEvents,
      Holdings.hookEvents, Session.freeEvents]

/-- A launch whose global state was refused asks for nothing else. -/
theorem released_of_refused {l : Launch σ ω} {reason : String} {w : ω} {trace : List Event}
    (htrace : Event.own trace = l.runEvents w [.start (.error reason)]) : Released trace := by
  have hcalls : Event.calls trace = [.globalInit (.error reason)] := by
    rw [Event.calls_of_own htrace, calls_runEvents]
    rfl
  have hresolve : ∀ library symbol answer, .resolve library symbol answer ∉ trace := by
    intro library symbol answer hmem
    cases List.mem_singleton.1 (resolve_mem_steps htrace hmem)
  constructor
  case session => exact .inl ⟨reason, hcalls, hresolve⟩
  case programs =>
    intro image c hp
    simp [hcalls] at hp
  case modules =>
    intro c m hm
    simp [hcalls] at hm
  case freed =>
    intro before rest m hsplit
    rw [hcalls] at hsplit
    cases before <;> simp at hsplit
  case released =>
    intro before rest c hsplit
    rw [hcalls] at hsplit
    cases before <;> simp at hsplit
  case hooks => exact fun library symbol hook hmem => absurd hmem (hresolve library symbol _)

/-- A launch whose steps close releases what it acquired. -/
theorem released_of_closes {l : Launch σ ω} {options : HostOptions} {rest : List Step} {w : ω}
    {trace : List Event} (h : l.Course options (.start (.ok ()) :: rest))
    (htrace : Event.own trace = l.runEvents w (.start (.ok ()) :: rest)) : Released trace := by
  have hcalls : Event.calls trace = stepCalls .none (.start (.ok ()) :: rest) := by
    rw [Event.calls_of_own htrace, calls_runEvents]
  obtain ⟨haccepts, hsettled, hgone⟩ := h.closes
  rw [← hcalls] at haccepts hsettled hgone
  constructor
  case session =>
    refine .inr ?_
    obtain ⟨before, hbefore, hlast⟩ :=
      Ledger.teardown_last haccepts (by simp [Ledger.empty]) hgone
    -- the refusal is excluded, so creating the global state is the first call
    have hfirst : Event.calls trace = .globalInit (.ok ()) ::
        stepCalls (after .none (.start (.ok ()))) rest := hcalls
    cases before with
    | nil => cases hfirst.symm.trans hbefore
    | cons call between =>
      obtain ⟨rfl, -⟩ := List.cons.inj (hfirst.symm.trans hbefore)
      exact ⟨between, hbefore, fun hmem => hlast (List.mem_cons_of_mem _ hmem)⟩
  case programs => exact fun image c hp => Ledger.ended_once haccepts hsettled hp
  case modules =>
    intro c m hm
    have hfrees := Ledger.freed_once haccepts hsettled hm
    refine ⟨hfrees, ?_⟩
    have hfree : .freeModule m ∈ Event.calls trace :=
      (List.mem_filter.1 (hfrees.symm ▸ List.mem_singleton.2 rfl)).1
    obtain ⟨before, rest, hsplit⟩ := List.append_of_mem hfree
    refine ⟨before, rest, hsplit, ?_, ?_⟩
    · -- linking follows at once on building, so it comes before the module is freed
      have hbuilt := hm
      rw [hcalls] at hbuilt
      obtain ⟨first, answer, last, heq⟩ := h.linked c m
        ((List.mem_append.1 hbuilt).resolve_right (allocate_not_mem_release _ c _))
      rw [stepCalls, heq, List.append_assoc, List.cons_append, List.cons_append] at hcalls
      rw [hcalls] at haccepts hsplit
      exact ⟨options, answer, Ledger.before_free haccepts ⟨by simp, by simp⟩ hsplit⟩
    · have hrelease := Ledger.released_of_allocated haccepts hsettled hm
      rw [hsplit] at haccepts hm hrelease
      have hlate := Ledger.freed_before_released haccepts hm
      rcases List.mem_append.1 hrelease with hmem | hmem
      · exact absurd hmem hlate
      · exact (List.mem_cons.1 hmem).resolve_left (by simp)
  case freed =>
    intro before rest m hsplit
    rw [hsplit] at haccepts
    exact Ledger.not_mentions_after_free haccepts
  case released =>
    intro before rest c hsplit
    rw [hsplit] at haccepts
    exact Ledger.not_mentions_after_release haccepts
  case hooks => exact fun library symbol hook hmem => hook_dropped h htrace hmem

/-- What a launch leaves is disciplined. -/
theorem released_of_course {l : Launch σ ω} {options : HostOptions} {steps : List Step} {w : ω}
    {trace : List Event} (h : l.Course options steps)
    (htrace : Event.own trace = l.runEvents w steps) : Released trace := by
  obtain ⟨answer, rest, rfl, hrest⟩ := id h
  cases answer with
  | error reason =>
    obtain rfl : rest = [] := hrest
    exact released_of_refused htrace
  | ok => exact released_of_closes h htrace

/-- Launches one after the other, each with the files as they are by then and the options that it is
given. A launch that panicked leaves its stage to the next one. -/
def runs (l : Launch σ ω) : List (Opening × HostOptions) → Stage σ ω →
    List (Outcome Event (Stage σ ω) (Except Failure Unit))
  | [], _ => []
  | (opening, options) :: rest, s =>
    let outcome := run { l with opening } options s
    outcome :: runs l rest outcome.state

/-- Every launch of a row of them is disciplined, however the launches before it ended. Panics end
them too, but by the types of `Vm` none while state is set up or released. -/
theorem runs_released (l : Launch σ ω) (turns : List (Opening × HostOptions))
    (console : Console σ ω) :
    ∀ outcome ∈ l.runs turns (.bare console), Released outcome.trace := by
  induction turns generalizing console with
  | nil => exact List.forall_mem_nil _
  | cons turn rest ih =>
    obtain ⟨opening, options⟩ := turn
    obtain ⟨steps, hcourse, -, hown, hheld⟩ := run_course { l with opening } options console
    refine List.forall_mem_cons.2 ⟨released_of_course hcourse hown, ?_⟩
    -- nothing is held after a launch, so the next one begins as the first did
    rw [Stage.eq_bare hheld]
    exact ih _

/-- A launch to rehearse with, whose VM follows a script and whose diagnostics nobody reads. -/
def rehearsal : Launch Rehearsal.ScriptedVm Unit where
  vm := Rehearsal.ScriptedVm.vm
  resolver := Rehearsal.resolver .builtIn
  sink := ⟨fun _ w => (none, w), fun w => (none, w)⟩
  opening := fun _ => .ok ⟨.ok 0, []⟩
  settings := ⟨.empty, "", "setup", "", false, "", none⟩

/-- The console before a rehearsal in which the VM answers everything. -/
def rehearsalConsole : Console Rehearsal.ScriptedVm Unit :=
  ⟨.fresh (.fresh (.fresh none) ⟨[], [], [], [], [], [], []⟩), ()⟩

/-- Two launches, of which the first does not find its image. -/
theorem runs_released_rehearsal :
    ∃ outcome ∈ rehearsal.runs
        [(fun _ => .error .nulInPath, .null), (rehearsal.opening, .null)] (.bare rehearsalConsole),
      Event.calls outcome.trace =
        [.globalInit (.ok ()), .parse [] (.returned (.ok ⟨0⟩)),
          .allocate ⟨0⟩ (.returned (some ⟨0⟩)), .link ⟨0⟩ .null (.returned (.ok ())),
          .compact ⟨0⟩, .callSetup ⟨"", "setup", .builtIn, none⟩ .null (.returned none),
          .entryClosure ⟨0⟩ (.returned (.ok ⟨some 7, 0, false⟩)),
          .call ⟨some 7, 0, false⟩ (.returned none), .freeModule ⟨0⟩, .release ⟨0⟩,
          .globalTeardown] ∧
      Released outcome.trace := by
  refine ⟨_, List.mem_cons_of_mem _ List.mem_cons_self, rfl, ?_⟩
  exact rehearsal.runs_released
    [(fun _ => .error .nulInPath, .null), (rehearsal.opening, .null)] rehearsalConsole _
    (List.mem_cons_of_mem _ List.mem_cons_self)

end Launch

end Launcher
