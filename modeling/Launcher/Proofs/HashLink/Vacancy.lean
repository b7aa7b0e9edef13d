import Launcher.Proofs.HashLink.Refinement

/-!
# The global state before and after a launch

The process keeps one flag for the global state of the VM library. A call that creates the global
state is refused just if the flag is set; creating and releasing it are all that change the flag. A
launch that finds no global state therefore is not refused, and since it releases what it has
created however it ends, it leaves none.

- `HashLink.Shifts`: the flag before and after calls across the seam.
- `Launch.run_shifts`: the flag follows the calls of a launch.
- `Launch.run_vacant`: a launch that finds no global state leaves none.
-/

namespace Launcher

/-- A resolver that leaves the flag for the global state alone. -/
structure Resolver.Aside {τ : Type} (resolver : Resolver (HashLink.State τ)) : Prop where
  resolve : ∀ library symbol s, (resolver.resolve library symbol s).state.active = s.active
  dropHook : ∀ hook s, (resolver.dropHook hook s).2.2.active = s.active

/-- Resolving through a loader leaves the flag alone if the last words of libraries do. -/
theorem Resolver.aside_ofLoader {τ : Type} (loader : Loader) (dir : SearchDir)
    {lastWord : Quiet Note (HashLink.State τ) Unit}
    (h : ∀ s, (lastWord s).2.2.active = s.active) :
    (Resolver.ofLoader loader dir lastWord).Aside where
  resolve _ _ _ := rfl
  dropHook hook s := by
    obtain ⟨library, symbol, entry, _ | path⟩ := hook
    · rfl
    · exact h s

namespace HashLink

variable {τ ω : Type}

/-- Whether the global state exists before calls across the seam and after them, if it is the flag
that answers. -/
inductive Shifts : Bool → List Vm.Call → Bool → Prop
  | nil (active : Bool) : Shifts active [] active
  | created {calls : List Vm.Call} {active : Bool} : Shifts true calls active →
      Shifts false (.globalInit (.ok ()) :: calls) active
  | refused (reason : String) {calls : List Vm.Call} {active : Bool} : Shifts true calls active →
      Shifts true (.globalInit (.error reason) :: calls) active
  | released (before : Bool) {calls : List Vm.Call} {active : Bool} : Shifts false calls active →
      Shifts before (.globalTeardown :: calls) active
  | kept {c : Vm.Call} (h : c.isGlobal = false) {before : Bool} {calls : List Vm.Call}
      {active : Bool} : Shifts before calls active → Shifts before (c :: calls) active

namespace Shifts

variable {before active after : Bool} {calls more : List Vm.Call}

theorem append (h : Shifts before calls active) (h' : Shifts active more after) :
    Shifts before (calls ++ more) after := by
  induction h with
  | nil => exact h'
  | created _ ih => exact .created (ih h')
  | refused reason _ ih => exact .refused reason (ih h')
  | released before _ ih => exact .released before (ih h')
  | kept hc _ ih => exact .kept hc (ih h')

/-- After a release there is no global state. -/
theorem of_teardown (h : Shifts before (calls ++ [.globalTeardown]) after) : after = false := by
  -- the flag before the calls does not matter, so each of them may be passed over
  induction calls generalizing before with
  | nil =>
    cases h with
    | released _ h =>
      cases h
      rfl
    | kept hc => cases hc
  | cons c calls ih =>
    cases h with
    | created h => exact ih h
    | refused _ h => exact ih h
    | released _ h => exact ih h
    | kept _ h => exact ih h

/-- Where there is no global state, the next one who asks for it gets it. -/
theorem not_refused {reason : String} :
    ¬ Shifts false (.globalInit (.error reason) :: calls) after := by
  intro h
  cases h with
  | kept hc => cases hc

end Shifts

section Trail

variable {api : Api τ} {runtime : Runtime} {resolver : Resolver (State τ)} {s s' : Seam (State τ)}
  {t : List Event}

/-- The global state is refused just if the flag is set, and then the flag is set in any case. -/
theorem shifts_globalInit (api : Api τ) (runtime : Runtime) (s : Seam (State τ)) :
    Shifts s.beyond.active (Event.calls (Seam.globalInit (vm api runtime) s).2.1)
      (Seam.globalInit (vm api runtime) s).2.2.beyond.active := by
  rw [Event.calls_of_own (Seam.own_globalInit (vm api runtime) s)]
  cases hactive : s.beyond.active with
  | true =>
    have hrefused : Shifts true [.globalInit (.error alreadyActive)] true := .refused _ (.nil true)
    simpa [Seam.globalInit, Seam.crossQuiet, vm, globalInit, hactive] using hrefused
  | false =>
    have hcreated : Shifts false [.globalInit (.ok ())] true := .created (.nil true)
    simpa [Seam.globalInit, Seam.crossQuiet, vm, globalInit, tell, hactive] using hcreated

/-- The flag follows the calls of each operation at the seam. -/
theorem Shifts.crossing (hresolver : resolver.Aside)
    (h : Crossing (vm api runtime) resolver s t s') :
    Shifts s.beyond.active (Event.calls t) s'.beyond.active := by
  cases h with
  | globalInit => exact shifts_globalInit api runtime s
  | globalTeardown =>
    rw [Event.calls_of_own (Seam.own_globalTeardown (vm api runtime) s)]
    exact .released _ (.nil false)
  | work work =>
    -- a panic of the VM is no call, and does not touch the flag either
    obtain ⟨c, panics, hown, hc⟩ := work.own_perform (vm api runtime) s
    have hpanics : Event.calls (panics.map Event.panic) = [] := by
      simp [Event.calls, Event.call?]
    rw [Event.calls_of_own hown, Event.calls_call, hpanics,
      (work.perform_spares api runtime s).active]
    exact .kept hc (.nil _)
  | resolve library symbol =>
    have hkeeps : (Seam.resolve resolver library symbol s).state.beyond.active = s.beyond.active :=
      hresolver.resolve library symbol s.beyond
    rw [Event.calls_of_own (Seam.own_resolve resolver library symbol s), hkeeps]
    simpa using Shifts.nil s.beyond.active
  | dropHook hook =>
    have hkeeps : (Seam.dropHook resolver hook s).2.2.beyond.active = s.beyond.active :=
      hresolver.dropHook hook s.beyond
    rw [Event.calls_of_own (Seam.own_dropHook resolver hook s), hkeeps]
    exact .nil _
  | internal e he =>
    cases e <;> first | exact .nil _ | cases he

/-- The flag follows the calls of a trail. -/
theorem Shifts.trail (hresolver : resolver.Aside) (h : Trail (vm api runtime) resolver s t s') :
    Shifts s.beyond.active (Event.calls t) s'.beyond.active := by
  induction h with
  | nil => exact .nil _
  | cons hcrossing _ ih =>
    rw [Event.calls_append]
    exact (Shifts.crossing hresolver hcrossing).append ih

end Trail

end HashLink

namespace Launch

/-- The global state is asked for in the first step, and in no other. -/
theorem Course.start_first {σ ω : Type} {l : Launch σ ω} {options : HostOptions}
    {steps : List Step} (h : l.Course options steps) {answer : Except String Unit}
    (hmem : .start answer ∈ steps) : ∃ rest, steps = .start answer :: rest := by
  have hkinds := (Course.attempts l h).kinds
  obtain ⟨first, rest, rfl, -⟩ := h
  refine ⟨rest, ?_⟩
  rcases List.mem_cons.1 hmem with hfirst | hlater
  · rw [hfirst]
  · -- no other item of the agenda is the start
    rw [List.map_cons, agenda, List.cons_prefix_cons] at hkinds
    have hkind := hkinds.2.subset (List.mem_map_of_mem hlater)
    simp [Step.kind] at hkind

variable {τ ω : Type} (l : Launch (HashLink.State τ) ω) (api : HashLink.Api τ)
  (runtime : HashLink.Runtime) (options : HostOptions) (console : Console (HashLink.State τ) ω)

/-- The flag follows the calls of a launch. -/
theorem run_shifts (hresolver : l.resolver.Aside) :
    HashLink.Shifts console.seam.beyond.active
      (Event.calls ((l.over api runtime).run options (.bare console)).trace)
      ((l.over api runtime).run options (.bare console)).state.console.seam.beyond.active :=
  HashLink.Shifts.trail hresolver ((l.over api runtime).run_trail options (.bare console))

/-- A launch that finds no global state is not refused one, and leaves none, however it ends. -/
theorem run_vacant (hresolver : l.resolver.Aside) (hvacant : console.seam.beyond.active = false) :
    ((l.over api runtime).run options (.bare console)).state.console.seam.beyond.active = false ∧
      ∀ reason, .call (.globalInit (.error reason)) ∉
        ((l.over api runtime).run options (.bare console)).trace := by
  have hshifts := l.run_shifts api runtime options console hresolver
  rw [hvacant] at hshifts
  obtain ⟨steps, hcourse, -, hown, -⟩ := (l.over api runtime).run_course options console
  constructor
  · -- the release of the global state is the last call, unless creating it was refused
    rcases (released_of_course hcourse hown).session with
      ⟨reason, hcalls, -⟩ | ⟨between, hcalls, -⟩ <;> rw [hcalls] at hshifts
    · exact absurd hshifts HashLink.Shifts.not_refused
    · rw [← List.cons_append] at hshifts
      exact hshifts.of_teardown
  · intro reason hmem
    have hcalls := calls_of_runEvents hown
    have hc : .globalInit (.error reason) ∈
        Event.calls ((l.over api runtime).run options (.bare console)).trace :=
      List.mem_filterMap.2 ⟨_, hmem, rfl⟩
    rw [hcalls] at hc hshifts
    obtain ⟨step, hstep, hasked⟩ := step_of_asked hc rfl
    obtain rfl : step = .start (.error reason) := by
      cases step with
      | start answer =>
        cases hasked
        rfl
      | load path loading => rcases loading with _ | _ | _ <;> cases hasked
      | _ => cases hasked
    -- who is refused is refused at once
    obtain ⟨rest, rfl⟩ := hcourse.start_first hstep
    exact hshifts.not_refused

end Launch

end Launcher
