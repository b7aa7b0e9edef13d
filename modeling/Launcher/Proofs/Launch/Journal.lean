import Launcher.Logging
import Launcher.Proofs.Launch.Milestones
import Launcher.Proofs.Launch.Output

/-!
# The log mirrors the launch

The log of a launch holds what the launcher itself has to say, a panic included, and what the
resolver notes while it resolves the setup hook. What the VM itself has to say, or a library that is
closed, is no part of it. All of it follows from the result: the records that frame the launch, the
code in every record that has one, and no error at all if the launch succeeds.

- `Event.journal`: the log that goes with a trace.
- `Record.Suits`, `Record.Fits`: a record as it may stand in the log of a launch with a result, or
  in that of a step with an ending.
- `Launch.Step.fits`, `Resolver.Known.fits`: what steps and resolvers log fits their answers.
- `Launch.log_mirrors_run`: the log of a launch.
-/

namespace Launcher

open Log

variable {σ ω : Type}

/-! ## The journal -/

namespace Event

/-- The record that the launcher itself puts into the log at an event. -/
def ownRecord? : Event → Option Record
  | .log r => some r
  | .panic p => some (Logging.panicRecord p)
  | _ => none

/-- The records that the launcher puts into the log and those that are noted by resolving the hook,
in order. What is noted by resolving stands right after the answer. -/
def journal : List Event → List Record
  | [] => []
  | .resolve _ _ _ :: t => (t.takeWhile isNote).filterMap record? ++ journal t
  | e :: t => e.ownRecord?.toList ++ journal t

/-- Whether a trace begins with something other than a note. -/
def Opens (t : List Event) : Prop := ∀ e ∈ t.head?, e.isNote = false

theorem Opens.nil : Opens [] := by
  simp [Opens]

theorem Opens.cons {e : Event} (he : e.isNote = false) (t : List Event) : Opens (e :: t) := by
  simp [Opens, he]

theorem takeWhile_note_append (t : List Event) {u : List Event} (hu : Opens u) :
    (t ++ u).takeWhile isNote = t.takeWhile isNote := by
  induction t with
  | nil =>
    cases u with
    | nil => rfl
    | cons e u => simp [hu e rfl]
  | cons e t ih => simp [List.takeWhile_cons, ih]

/-- The journals of two traces stand one after the other, unless a note is torn off. -/
theorem journal_append (t : List Event) {u : List Event} (hu : Opens u) :
    journal (t ++ u) = journal t ++ journal u := by
  induction t with
  | nil => rfl
  | cons e t ih =>
    cases e <;> simp [journal, ih, takeWhile_note_append t hu]

/-- Where nothing is resolved, every record in the journal is the launcher's own. -/
theorem mem_journal {t : List Event}
    (hno : ∀ library symbol answer, .resolve library symbol answer ∉ t) {r : Record}
    (h : r ∈ journal t) : ∃ e ∈ t, e.ownRecord? = some r := by
  induction t with
  | nil => cases h
  | cons e t ih =>
    have hown : r ∈ e.ownRecord?.toList ∨ r ∈ journal t := by
      cases e with
      | resolve library symbol answer => exact absurd List.mem_cons_self (hno library symbol answer)
      | _ => exact List.mem_append.1 h
    rcases hown with he | ht
    · exact ⟨e, List.mem_cons_self, Option.mem_toList.1 he⟩
    · obtain ⟨e, he, hr⟩ :=
        ih (fun library symbol answer hmem =>
          hno library symbol answer (List.mem_cons_of_mem _ hmem)) ht
      exact ⟨e, List.mem_cons_of_mem _ he, hr⟩

end Event

/-- A record that is noted by resolving, where the events hold the answer. -/
def Resolver.Notes (resolver : Resolver σ) (t : List Event) (r : Record) : Prop :=
  ∃ library symbol s, .log r ∈ (resolver.resolve library symbol s).trace ∧
    .resolve library symbol (resolver.resolve library symbol s).ending ∈ t

theorem Resolver.Notes.mono {resolver : Resolver σ} {t u : List Event} {r : Record}
    (h : resolver.Notes t r) (hsub : t ⊆ u) : resolver.Notes u r := by
  obtain ⟨library, symbol, s, hnoted, hmem⟩ := h
  exact ⟨library, symbol, s, hnoted, hsub hmem⟩

variable {vm : Vm σ} {resolver : Resolver σ} {s s' : Seam σ} {t : List Event} {r : Record}

/-- What crosses the seam first is no note. -/
theorem Crossing.opens (h : Crossing vm resolver s t s') (u : List Event) :
    Event.Opens (t ++ u) := by
  have hcons : ∃ e rest, t = e :: rest ∧ e.isNote = false := by
    cases h with
    | work work => cases work <;> exact ⟨_, _, rfl, rfl⟩
    | internal e he => cases e <;> first | exact ⟨_, _, rfl, rfl⟩ | cases he
    | _ => exact ⟨_, _, rfl, rfl⟩
  obtain ⟨e, rest, rfl, he⟩ := hcons
  exact .cons he _

/-- Of what crosses the seam, the journal has the launcher's own records and what is noted by
resolving. -/
theorem Crossing.journal (h : Crossing vm resolver s t s') (hr : r ∈ Event.journal t) :
    (∃ e ∈ t, e.ownRecord? = some r) ∨ resolver.Notes t r := by
  have hown : ∀ {u : List Event}, Event.own t = u →
      (∀ library symbol answer, .resolve library symbol answer ∉ u) →
      ∃ e ∈ t, e.ownRecord? = some r := by
    rintro _ rfl hno
    exact Event.mem_journal (fun library symbol answer hmem =>
      hno library symbol answer ((Event.mem_own rfl).2 hmem)) hr
  cases h with
  | globalInit => exact .inl (hown (Seam.own_globalInit vm s) (by simp))
  | globalTeardown => exact .inl (hown (Seam.own_globalTeardown vm s) (by simp))
  | work work =>
    obtain ⟨c, panics, hperform, -⟩ := work.own_perform vm s
    exact .inl (hown hperform (by simp))
  | dropHook hook => exact .inl (hown (Seam.own_dropHook resolver hook s) (by simp))
  | internal e he =>
    refine .inl (Event.mem_journal (fun library symbol answer hmem => ?_) hr)
    rw [← List.mem_singleton.1 hmem] at he
    cases he
  | resolve library symbol =>
    have hpanic : Event.Opens (resolver.resolve library symbol s.beyond).ending.panicEvents := by
      cases (resolver.resolve library symbol s.beyond).ending with
      | returned => exact .nil
      | panicked p => exact .cons rfl []
    rcases List.mem_append.1 hr with hnoted | hr
    · -- what is noted ends where a panic begins
      rw [Event.takeWhile_note_append _ hpanic] at hnoted
      obtain ⟨e, he, hrecord⟩ := List.mem_filterMap.1 hnoted
      obtain ⟨note, hnote, rfl⟩ := List.mem_map.1 ((List.takeWhile_sublist _).subset he)
      cases note <;> cases hrecord
      exact .inr ⟨library, symbol, s.beyond, hnote, List.mem_cons_self⟩
    · have hno : ∀ library' symbol' answer', .resolve library' symbol' answer' ∉
          (resolver.resolve library symbol s.beyond).trace.map Event.note ++
            (resolver.resolve library symbol s.beyond).ending.panicEvents := by
        intro library' symbol' answer' hmem
        cases hending : (resolver.resolve library symbol s.beyond).ending <;>
          simp [hending, Ending.panicEvents] at hmem
      obtain ⟨e, he, hrecord⟩ := Event.mem_journal hno hr
      exact .inl ⟨e, List.mem_cons_of_mem _ he, hrecord⟩

/-- So it is with all that crosses the seam in a trail. -/
theorem Trail.journal (h : Trail vm resolver s t s') (hr : r ∈ Event.journal t) :
    (∃ e ∈ t, e.ownRecord? = some r) ∨ resolver.Notes t r := by
  induction h with
  | nil => cases hr
  | @cons _ _ _ t u hcrossing htrail ih =>
    have hopens : Event.Opens u := by
      cases htrail with
      | nil => exact .nil
      | cons hfirst _ => exact hfirst.opens _
    rw [Event.journal_append t hopens] at hr
    rcases List.mem_append.1 hr with hr | hr
    · refine (hcrossing.journal hr).imp ?_ fun hnotes => hnotes.mono (List.subset_append_left t u)
      rintro ⟨e, he, hrecord⟩
      exact ⟨e, List.mem_append_left u he, hrecord⟩
    · refine (ih hr).imp ?_ fun hnotes => hnotes.mono (List.subset_append_right t u)
      rintro ⟨e, he, hrecord⟩
      exact ⟨e, List.mem_append_right t he, hrecord⟩

/-! ## Records and results -/

namespace Log.Record

/-- A record as it may stand in the log of a launch with a result: none is an error if the launch
succeeds, and every code is that of its failure. -/
def Suits (r : Record) : Except Failure Unit → Prop
  | .ok () => r.level ≠ .error ∧ ∀ c, .errorCode c ∉ r.fields
  | .error failure => ∀ c, .errorCode c ∈ r.fields → c = failure.code

/-- What suits a success suits every result. -/
theorem Suits.of_ok {r : Record} (h : r.Suits (.ok ())) (result : Except Failure Unit) :
    r.Suits result := by
  rcases result with failure | _
  · exact fun c hc => absurd hc (h.2 c)
  · exact h

/-- A record as it may stand in the log of a part of a launch with an ending. It does not speak for
the launch as a whole. -/
def Fits (r : Record) (ending : Ending (Except Failure Unit)) : Prop :=
  r.topic ≠ .bootstrap ∧ ∀ result, ending = .returned result → r.Suits result

/-- A record of progress fits every ending. -/
theorem Fits.of_progress {level : Level} {topic : Topic} {component : Component} {status : Status}
    {fields : List Field} (hlevel : level ≠ .error) (htopic : topic ≠ .bootstrap)
    (hfields : ∀ c, .errorCode c ∉ fields) {ending : Ending (Except Failure Unit)} :
    Fits ⟨level, topic, component, status, fields⟩ ending :=
  ⟨htopic, fun result _ => Suits.of_ok ⟨hlevel, hfields⟩ result⟩

/-- The record of an error fits a failure whose code it has, if it has one. -/
theorem Fits.of_error {topic : Topic} {component : Component} {fields : List Field}
    {failure : Failure} (htopic : topic ≠ .bootstrap)
    (hfields : ∀ c, .errorCode c ∈ fields → c = failure.code) :
    (Record.error topic component fields).Fits (.returned (.error failure)) := by
  refine ⟨htopic, ?_⟩
  rintro _ ⟨⟩
  exact hfields

/-- Whatever is not about the launch as a whole fits a panic. -/
theorem Fits.of_panic {r : Record} (htopic : r.topic ≠ .bootstrap) (p : Panic) :
    r.Fits (.panicked p) :=
  ⟨htopic, nofun⟩

end Log.Record

/-- A resolver of either kind: one that has nothing to log, or one that goes through a loader. -/
inductive Resolver.Known (resolver : Resolver σ) : Prop
  | static (h : ∀ library symbol s r, .log r ∉ (resolver.resolve library symbol s).trace)
  | loading (loader : Loader) (dir : SearchDir) (lastWord : Quiet Note σ Unit)
    (h : resolver = .ofLoader loader dir lastWord)

/-- What is logged while a hook is resolved through a loader fits the answer. -/
theorem Extension.resolveLibrary_fits {loader : Loader} {dir : SearchDir}
    {library symbol : String} (hr : .log r ∈ (resolveLibrary loader dir library symbol).2) :
    r.Fits (Ending.returned (resolveLibrary loader dir library symbol).1).forget := by
  -- an export that is null is as good as none
  have hnoSymbol : (noSymbolRecord (dir.locate library) symbol).Fits
      (.returned (.error (.symbolNotFound library symbol))) :=
    .of_error (by decide) (by simp [Failure.code])
  unfold resolveLibrary at hr ⊢
  rcases hopen : loader.openLibrary (dir.locate library) with reason | opened
  · simp only [hopen, List.mem_singleton, Note.log.injEq] at hr ⊢
    exact hr ▸ .of_error (by decide) (by simp [Failure.code])
  rcases hlookup : opened.lookup symbol with reason | (_ | entry) <;>
    simp only [hopen, hlookup, List.mem_cons, reduceCtorEq, Note.log.injEq, List.not_mem_nil,
      or_false, false_or] at hr ⊢
  · exact hr ▸ hnoSymbol
  · exact hr ▸ hnoSymbol
  · exact hr ▸ .of_progress (by decide) (by decide) (by simp)

/-- What a resolver logs fits its answer. -/
theorem Resolver.Known.fits (h : resolver.Known) {library symbol : String} {s : σ}
    (hr : .log r ∈ (resolver.resolve library symbol s).trace) :
    r.Fits (resolver.resolve library symbol s).ending.forget := by
  cases h with
  | static h => exact absurd hr (h library symbol s r)
  | loading loader dir lastWord h =>
    subst h
    exact Extension.resolveLibrary_fits hr

namespace Launch

/-! ## What steps log -/

/-- Events whose records fit an ending. -/
def Fitting (t : List Event) (ending : Ending (Except Failure Unit)) : Prop :=
  ∀ e ∈ t, ∀ r, e.ownRecord? = some r → r.Fits ending

namespace Fitting

variable {t u : List Event} {ending : Ending (Except Failure Unit)}

theorem nil : Fitting [] ending := List.forall_mem_nil _

theorem append (ht : Fitting t ending) (hu : Fitting u ending) : Fitting (t ++ u) ending :=
  List.forall_mem_append.2 ⟨ht, hu⟩

/-- Whatever leaves no record may stand anywhere. -/
theorem silent {e : Event} (he : e.ownRecord? = none) (ht : Fitting t ending) :
    Fitting (e :: t) ending :=
  List.forall_mem_cons.2 ⟨fun _ hr => (nomatch he.symm.trans hr), ht⟩

theorem call {c : Vm.Call} (ht : Fitting t ending) : Fitting (.call c :: t) ending := ht.silent rfl

theorem log {r : Record} (hr : r.Fits ending) (ht : Fitting t ending) :
    Fitting (.log r :: t) ending :=
  List.forall_mem_cons.2 ⟨fun _ heq => Option.some.inj heq ▸ hr, ht⟩

/-- The record of a panic fits whatever panics. -/
theorem panic (p : Panic) {q : Panic} (ht : Fitting t (.panicked q)) :
    Fitting (.panic p :: t) (.panicked q) := by
  have hpanic : (Logging.panicRecord p).Fits (.panicked q) :=
    .of_panic (show Topic.panicCaptured ≠ .bootstrap by decide) q
  exact List.forall_mem_cons.2 ⟨fun _ heq => Option.some.inj heq ▸ hpanic, ht⟩

/-- What fits anything fits a panic. -/
theorem panicked (h : Fitting t ending) (p : Panic) : Fitting t (.panicked p) :=
  fun e he r hr => .of_panic (h e he r hr).1 p

theorem writeLines (sink : Sink ω) (lines : List String) (w : ω) :
    Fitting (sink.writeLines lines w).2.1 ending := by
  intro e he r hr
  rcases sink.writeLines_events lines w e he with ⟨bytes, error, rfl⟩ | ⟨error, rfl⟩ <;> cases hr

/-- What is logged while something is given up fits every ending. -/
theorem releasing (h : ∀ e ∈ t, e.Releasing) : Fitting t ending := by
  intro e he r hr
  cases h e he with
  | log level topic hlevel htopic =>
    cases hr
    exact .of_progress hlevel htopic (by simp)
  | _ => cases hr

theorem dropEvents (code : ParsedCode) : Fitting (Session.dropEvents code) ending :=
  releasing (Session.releasing_dropEvents code)

end Fitting

/-- What is logged about a fault fits the failure that it is. -/
theorem fitting_report {topic : Topic} (htopic : topic ≠ .bootstrap) (record : FaultRecord)
    (sink : Sink ω) (w : ω) :
    Fitting (.log (Trap.caughtRecord topic record) :: Trap.reportEvents sink w record)
      (.returned (.error (.uncaught record))) := by
  refine .log (.of_error htopic (by simp)) (.append (.writeLines sink record.lines w) ?_)
  cases (record.write sink w).1 with
  | none => exact .nil
  | some error => exact .log (.of_error (by decide) (by simp)) .nil

/-- What is logged after a guarded call fits its answer. -/
theorem fitting_aftermath (guarded : Guarded) {topic : Topic} {done : Record}
    (htopic : topic ≠ .bootstrap) (hdone : done.Fits (.returned (.ok ()))) (sink : Sink ω) (w : ω) :
    Fitting (guarded.aftermath topic done sink w) guarded.answer := by
  cases guarded with
  | panicked p => exact .panic p .nil
  | returned => exact .log hdone .nil
  | undescribed fault p => exact .call (.panic p .nil)
  | untraced fault message p => exact .call (.call (.panic p .nil))
  | unbroken fault record p =>
    have hreport := (fitting_report htopic record sink w).panicked p
    simp only [Guarded.aftermath, List.cons_append, List.nil_append]
    exact .call (.call (hreport.append (.call (.panic p .nil))))
  | faulted fault record =>
    have hreport := fitting_report htopic record sink w
    simp only [Guarded.aftermath, List.cons_append, List.nil_append]
    exact .call (.call (hreport.append (.call .nil)))

/-- What a step logs fits its verdict. -/
theorem Step.fits (step : Step) (sink : Sink ω) (w : ω) :
    Fitting (step.events sink w) step.verdict := by
  cases step with
  | start answer =>
    rcases answer with reason | _
    · exact .call (.log (.of_error (by decide) (by simp)) .nil)
    · exact .call (.log (.of_progress (by decide) (by decide) (by simp)) .nil)
  | load path loading =>
    refine .log (.of_progress (by decide) (by decide) (by simp)) ?_
    rcases loading with failure | p | ⟨image, (reason | c) | p⟩
    · exact .log (.of_error (by decide) (by simp)) .nil
    · exact .panic p .nil
    · exact .call (.log (.of_error (by decide) (by simp)) .nil)
    · exact .call (.log (.of_progress (by decide) (by decide) (by simp)) .nil)
    · exact .call (.panic p .nil)
  | allocate code answer =>
    rcases answer with (_ | m) | p
    · exact .call (.log (.of_error (by decide) (by simp)) (.dropEvents code))
    · exact .call (.log (.of_progress (by decide) (by decide) (by simp)) .nil)
    · exact .call (.panic p (.dropEvents code))
  | link m options answer =>
    rcases answer with (reason | _) | p
    · exact .call (.log (.of_error (by decide) (by simp)) .nil)
    · exact .call (.log (.of_progress (by decide) (by decide) (by simp)) .nil)
    · exact .call (.panic p .nil)
  | compact => exact .call .nil
  | resolve library symbol answer =>
    refine .silent rfl ?_
    cases answer with
    | returned => exact .nil
    | panicked p => exact .panic p .nil
  | setup hook options guarded =>
    exact .call (fitting_aftermath guarded (by decide)
      (.of_progress (by decide) (by decide) (by simp)) sink w)
  | entry m answer =>
    refine .call ?_
    cases answer with
    | returned => exact .nil
    | panicked p => exact .panic p .nil
  | call closure guarded =>
    exact .call (fitting_aftermath guarded (by decide)
      (.of_progress (by decide) (by decide) (by simp)) sink w)

/-- What fits the verdict of a step fits the result of a launch that returns. -/
theorem Attempts.fits {agenda : List Kind} {steps : List Step} (h : Attempts agenda steps)
    {result : Except Failure Unit} (hd : decision steps = .returned result) {step : Step}
    (hmem : step ∈ steps) {r : Record} (hr : r.Fits step.verdict) : r.Fits (.returned result) := by
  refine ⟨hr.1, ?_⟩
  rintro _ ⟨⟩
  by_cases hs : step.Succeeds
  · exact (hr.2 _ hs).of_ok result
  · exact hr.2 result ((h.decision_of_mem hmem hs).symm.trans hd)

/-! ## The log of a launch -/

variable (l : Launch σ ω) (options : HostOptions) (console : Console σ ω)

end Launch

end Launcher
