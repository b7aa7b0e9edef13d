import Launcher.Proofs.Launch.Course

/-!
# The first failure decides

A launch attempts its agenda in order and stops after the first step that does not succeed. It
succeeds if every step of the agenda did, and its failure is that of the step that failed; the
release that follows changes neither.

- `Step.FailsWith`: the failure that each kind of step can lead to.
- `Launch.first_failure_decides`: the steps of a launch and its result.
-/

namespace Launcher

/-- The failures of an image that could not be read. -/
inductive Image.Unreadable (path : Path) : Failure → Prop
  | notFound (source : IoError) : Unreadable path (.imageNotFound path source)
  | unread (expected read : Nat) (source : Option IoError) :
    Unreadable path (.imageUnread path expected read source)
  | malformed (reason : String) : Unreadable path (.imageMalformed path reason)

theorem Image.unreadable_of_read {opening : Opening} {path : Path} {failure : Failure}
    (h : Image.read opening path = .returned (.error failure)) : Unreadable path failure := by
  unfold Image.read Image.reading at h
  rcases hopen : opening path with e | source <;> simp only [hopen] at h
  · cases h
    exact .notFound e
  rcases hsize : source.size with e | size <;> simp only [hsize] at h
  · cases h
    exact .unread 0 0 (some e)
  split at h
  · cases h
    exact .malformed _
  · simp only [Image.readFrom] at h
    rcases hread : (readExact size source.steps).1 with (short | bytes) | p <;>
      rw [hread] at h <;> cases h
    exact .unread size short.read short.source

namespace Launch

variable {σ ω : Type}

/-- The failure of a step, by what was asked for and what the answer was. -/
inductive Step.FailsWith : Step → Failure → Prop
  | start (reason : String) : FailsWith (.start (.error reason)) (.runtimeUnavailable reason)
  | unread (path : Path) (failure : Failure) : FailsWith (.load path (.unread failure)) failure
  | malformed (path : Path) (image : Image) (reason : String) :
    FailsWith (.load path (.parsed image (.returned (.error reason))))
      (.imageMalformed path reason)
  | allocate (code : ParsedCode) :
    FailsWith (.allocate code (.returned none)) (.allocation Session.noModule)
  | link (m : ModuleId) (options : HostOptions) (reason : String) :
    FailsWith (.link m options (.returned (.error reason))) (.link reason)
  | resolve (library symbol : String) (failure : Failure) :
    FailsWith (.resolve library symbol (.returned (.error failure))) failure
  | setup (hook : Hook) (options : HostOptions) (fault : Fault) (record : FaultRecord) :
    FailsWith (.setup hook options (.faulted fault record)) (.uncaught record)
  | entry (m : ModuleId) (reason : String) :
    FailsWith (.entry m (.returned (.error reason))) (.link reason)
  | call (closure : Closure) (fault : Fault) (record : FaultRecord) :
    FailsWith (.call closure (.faulted fault record)) (.uncaught record)

theorem Step.failsWith_iff (step : Step) (failure : Failure) :
    step.FailsWith failure ↔ step.verdict = .returned (.error failure) := by
  constructor
  · intro h
    cases h <;> rfl
  · intro h
    -- the verdict computes once the answer is known, so the cases are the answers
    cases step with
    | start answer =>
      rcases answer with reason | _ <;> cases h
      exact .start reason
    | load path loading =>
      rcases loading with failure | p | ⟨image, (reason | _) | _⟩ <;> cases h
      · exact .unread path _
      · exact .malformed path image reason
    | allocate code answer =>
      rcases answer with (_ | _) | _ <;> cases h
      exact .allocate code
    | link m options answer =>
      rcases answer with (reason | _) | _ <;> cases h
      exact .link m options reason
    | compact m code => cases h
    | resolve library symbol answer =>
      rcases answer with (failure | _) | _ <;> cases h
      exact .resolve library symbol _
    | setup hook options guarded =>
      cases guarded <;> cases h
      exact .setup hook options _ _
    | entry m answer =>
      rcases answer with (reason | _) | _ <;> cases h
      exact .entry m reason
    | call closure guarded =>
      cases guarded <;> cases h
      exact .call closure _ _

section Attempts

variable {agenda : List Kind} {steps : List Step}

/-- Nothing is attempted after a step that does not succeed. -/
theorem Attempts.stops (h : Attempts agenda steps) {before rest : List Step} {step : Step}
    (hsplit : steps = before ++ step :: rest) (hs : ¬ step.Succeeds) : rest = [] := by
  induction agenda generalizing steps before with
  | nil =>
    obtain rfl : steps = [] := h
    simp at hsplit
  | cons kind agenda ih =>
    obtain ⟨first, others, rfl, -, hon, hstop⟩ := h
    cases before with
    | nil =>
      obtain ⟨rfl, rfl⟩ := List.cons.inj hsplit
      exact hstop hs
    | cons other before =>
      obtain ⟨rfl, rfl⟩ := List.cons.inj hsplit
      by_cases hfirst : first.Succeeds
      · exact ih (hon hfirst) rfl
      · have hnone := hstop hfirst
        simp at hnone

/-- Whatever is attempted before something else succeeds. -/
theorem Attempts.succeeds (h : Attempts agenda steps) {before rest : List Step} {step : Step}
    (hsplit : steps = before ++ step :: rest) : ∀ earlier ∈ before, earlier.Succeeds := by
  intro earlier hmem
  obtain ⟨first, between, rfl⟩ := List.append_of_mem hmem
  refine Classical.byContradiction fun hfails => ?_
  have hnone := h.stops (by rw [hsplit, List.append_assoc, List.cons_append]) hfails
  simp at hnone

/-- The launch succeeds if it went through the whole agenda and every step succeeded. -/
theorem Attempts.decision_ok_iff (h : Attempts agenda steps) :
    decision steps = .returned (.ok ()) ↔
      steps.map Step.kind = agenda ∧ ∀ step ∈ steps, step.Succeeds := by
  induction agenda generalizing steps with
  | nil =>
    obtain rfl : steps = [] := h
    simp [decision]
  | cons kind agenda ih =>
    obtain ⟨step, rest, rfl, rfl, hon, hstop⟩ := h
    by_cases hs : step.Succeeds
    · rw [decision_cons_success hs, ih (hon hs)]
      simp [hs]
    · rw [hstop hs, decision_singleton]
      simp [hs, show step.verdict ≠ .returned (.ok ()) from hs]

/-- The launch fails with the failure of its last step, if all steps before succeeded. -/
theorem Attempts.decision_error_iff (h : Attempts agenda steps) (failure : Failure) :
    decision steps = .returned (.error failure) ↔
      ∃ before step, steps = before ++ [step] ∧ (∀ earlier ∈ before, earlier.Succeeds) ∧
        step.FailsWith failure := by
  induction agenda generalizing steps with
  | nil =>
    obtain rfl : steps = [] := h
    simp [decision]
  | cons kind agenda ih =>
    obtain ⟨step, rest, rfl, -, hon, hstop⟩ := h
    by_cases hs : step.Succeeds
    · rw [decision_cons_success hs, ih (hon hs)]
      constructor
      · rintro ⟨before, last, rfl, hbefore, hlast⟩
        exact ⟨step :: before, last, rfl, List.forall_mem_cons.2 ⟨hs, hbefore⟩, hlast⟩
      · rintro ⟨before, last, hsplit, hbefore, hlast⟩
        cases before with
        | nil =>
          -- the only step would be one that succeeds and fails
          obtain ⟨rfl, rfl⟩ := List.cons.inj hsplit
          cases ((step.failsWith_iff failure).1 hlast).symm.trans hs
        | cons other before =>
          obtain ⟨rfl, rfl⟩ := List.cons.inj hsplit
          exact ⟨before, last, rfl, (List.forall_mem_cons.1 hbefore).2, hlast⟩
    · rw [hstop hs, decision_singleton, ← step.failsWith_iff]
      constructor
      · intro hfails
        exact ⟨[], step, rfl, List.forall_mem_nil _, hfails⟩
      · rintro ⟨before, last, hsplit, -, hlast⟩
        cases before with
        | nil =>
          obtain ⟨rfl, -⟩ := List.cons.inj hsplit
          exact hlast
        | cons other before => simp at hsplit

/-- The step that does not succeed decides. -/
theorem Attempts.decision_of_mem (h : Attempts agenda steps) {step : Step} (hmem : step ∈ steps)
    (hs : ¬ step.Succeeds) : decision steps = step.verdict := by
  induction agenda generalizing steps with
  | nil =>
    obtain rfl : steps = [] := h
    cases hmem
  | cons kind agenda ih =>
    obtain ⟨first, rest, rfl, -, hon, hstop⟩ := h
    by_cases hfirst : first.Succeeds
    · rw [decision_cons_success hfirst]
      rcases List.mem_cons.1 hmem with rfl | hmem
      · exact absurd hfirst hs
      · exact ih (hon hfirst) hmem
    · rw [hstop hfirst] at hmem ⊢
      rw [List.mem_singleton.1 hmem, decision_singleton]

end Attempts

/-- The image that a course loads is that of the settings. -/
theorem Course.load {l : Launch σ ω} {options : HostOptions} {steps : List Step}
    (h : l.Course options steps) :
    ∀ step ∈ steps, ∀ path loading, step = .load path loading →
      path = l.settings.image ∧
        ∃ answer, loading = .ofImage (Image.read l.opening l.settings.image) answer := by
  refine Then.forall_mem h (fun a => nofun) fun _ _ h => ?_
  refine Then.forall_mem h (fun a path loading heq => ?_) fun code _ h => ?_
  · obtain ⟨rfl, rfl⟩ := Step.load.inj heq
    exact ⟨rfl, a, rfl⟩
  refine Then.forall_mem h (fun a => nofun) fun m _ h => ?_
  refine Then.forall_mem h (fun a => nofun) fun _ _ h => ?_
  refine Then.forall_mem h (fun a => nofun) fun _ _ h => ?_
  refine Then.forall_mem h (fun a => nofun) fun hook _ h => ?_
  refine Then.forall_mem h (fun a => nofun) fun _ _ h => ?_
  refine Then.forall_mem h (fun a => nofun) fun closure _ h => ?_
  refine Then.forall_mem h (fun a => nofun) fun _ rest h => ?_
  rw [h]
  exact List.forall_mem_nil _

/-- An image that a course could not read has a failure of its own. -/
theorem Course.unreadable {l : Launch σ ω} {options : HostOptions} {steps : List Step}
    (h : l.Course options steps) :
    ∀ step ∈ steps, ∀ path failure, step = .load path (.unread failure) →
      Image.Unreadable path failure := by
  intro step hmem path failure heq
  obtain ⟨rfl, answer, hunread⟩ := h.load step hmem path _ heq
  rcases hread : Image.read l.opening l.settings.image with (e | image) | p <;>
    rw [hread] at hunread <;> cases hunread
  exact Image.unreadable_of_read hread

/-- A launch attempts the steps of a course, in the order of its agenda and each of them once, up to
and with the first that does not succeed. It succeeds if all of them did, and otherwise its failure
is that of the step that failed, whatever is released afterwards. The release cannot panic, by the
types of `Vm`. -/
theorem first_failure_decides (l : Launch σ ω) (options : HostOptions) (console : Console σ ω) :
    ∃ steps, l.Course options steps ∧
      Event.own (l.run options (.bare console)).trace = l.runEvents console.sink steps ∧
      steps.map Step.kind <+: agenda ∧
      (∀ before step rest, steps = before ++ step :: rest → ¬ step.Succeeds → rest = []) ∧
      ((l.run options (.bare console)).ending = .returned (.ok ()) ↔
        steps.map Step.kind = agenda ∧ ∀ step ∈ steps, step.Succeeds) ∧
      (∀ failure, (l.run options (.bare console)).ending = .returned (.error failure) ↔
        ∃ before step, steps = before ++ [step] ∧ (∀ earlier ∈ before, earlier.Succeeds) ∧
          step.FailsWith failure) ∧
      ∀ step ∈ steps, ∀ path failure, step = .load path (.unread failure) →
        Image.Unreadable path failure := by
  obtain ⟨steps, hcourse, hending, hown, -⟩ := l.run_course options console
  have hattempts := Course.attempts l hcourse
  refine ⟨steps, hcourse, hown, hattempts.kinds, fun _ _ _ hsplit hs => hattempts.stops hsplit hs,
    ?_, fun failure => ?_, hcourse.unreadable⟩
  · rw [hending]
    exact hattempts.decision_ok_iff
  · rw [hending]
    exact hattempts.decision_error_iff failure

end Launch

end Launcher
