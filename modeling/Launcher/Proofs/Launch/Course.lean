import Launcher.Proofs.Launch.Step

/-!
# The course of a launch

Which steps a launch takes is settled by the answers it gets: after a success comes the next of nine
steps, with the values that the answers so far have given; after anything else there is none
(`Launch.Course`). Every launch, whatever the VM, the resolver, the files and the diagnostics stream
do, takes the steps of a course, leaves the events of these steps and of the release of what they
acquired, and ends as they say (`Launch.run_course`).
-/

namespace Launcher

/-- What came of loading an image that was read, or not, and would be parsed with an answer. -/
def Loading.ofImage (read : Ending (Except Failure Image))
    (answer : Ending (Except String CodeId)) : Loading :=
  match read with
  | .returned (.ok image) => .parsed image answer
  | .returned (.error failure) => .unread failure
  | .panicked p => .broken p

namespace Launch

variable {σ ω : Type}

/-- The rows of steps that begin with a request, whatever the answer, and go on as `next` says if the
answer has a value. -/
def Then {α γ : Type} (step : α → Step) (value : α → Ending (Except Failure γ))
    (next : γ → List Step → Prop) (steps : List Step) : Prop :=
  ∃ answer rest, steps = step answer :: rest ∧
    match value answer with
    | .returned (.ok c) => next c rest
    | _ => rest = []

/-- The rows of steps that a launch may take once it has built a module from a program. -/
def ModuleCourse (l : Launch σ ω) (options : HostOptions) (m : ModuleId) (code : ParsedCode) :
    List Step → Prop :=
  Then (.link m options) Session.linkAnswer fun () =>
  Then (fun () => .compact m code) (fun () => .returned (.ok ())) fun () =>
  Then (.resolve l.settings.extension l.settings.symbol) id fun hook =>
  Then (.setup hook options) Guarded.answer fun () =>
  Then (.entry m) Session.linkAnswer fun closure =>
  Then (.call closure) Guarded.answer fun () steps => steps = []

/-- The rows of steps that a launch with the given host options may take. -/
def Course (l : Launch σ ω) (options : HostOptions) : List Step → Prop :=
  Then .start (fun answer => .returned (Session.startAnswer answer)) fun _ =>
  Then (fun answer => .load l.settings.image
      (.ofImage (Image.read l.opening l.settings.image) answer))
    (fun answer => Session.loadAnswer l.settings.image
      (.ofImage (Image.read l.opening l.settings.image) answer)) fun code =>
  Then (.allocate code) builtAnswer fun m =>
  l.ModuleCourse options m code

/-! ## What acts take -/

/-- An act that finds a stage and takes some steps there, with an answer. -/
structure Takes {β : Type} (sink : Sink ω) (s : Stage σ ω)
    (o : Outcome Event (Stage σ ω) (Except Failure β)) (steps : List Step)
    (answer : Ending (Except Failure β)) : Prop where
  own : Event.own o.trace = steps.flatMap (Step.events sink s.console.sink)
  ending : o.ending = answer
  held : o.state.held = steps.foldl after s.held
  stream : o.state.console.sink = steps.foldl (Step.stream sink) s.console.sink

/-- A step that succeeds leaves the diagnostics stream alone. -/
theorem stream_of_success (sink : Sink ω) (w : ω) {step : Step}
    (h : step.verdict = .returned (.ok ())) : step.stream sink w = w := by
  have hguarded : ∀ guarded : Guarded, guarded.answer = .returned (.ok ()) →
      guarded.stream sink w = w := by
    intro guarded hg
    cases guarded <;> first | rfl | cases hg
  cases step with
  | setup hook options guarded => exact hguarded guarded h
  | call closure guarded => exact hguarded guarded h
  | _ => rfl

theorem decision_cons_success {step : Step} (h : step.verdict = .returned (.ok ()))
    (rest : List Step) : decision (step :: rest) = decision rest := by
  simp [decision, h]

theorem decision_singleton (step : Step) : decision [step] = step.verdict := by
  rcases h : step.verdict with (_ | _) | _ <;> simp [decision, h]

theorem decision_of_failure {step : Step} {failure : Failure}
    (h : step.verdict = .returned (.error failure)) (rest : List Step) :
    decision (step :: rest) = .returned (.error failure) := by
  simp [decision, h]

theorem decision_of_panic {step : Step} {p : Panic} (h : step.verdict = .panicked p)
    (rest : List Step) : decision (step :: rest) = .panicked p := by
  simp [decision, h]

/-- An act that takes one step goes on as the next act does if the step succeeds, and otherwise
takes no more steps and is decided. -/
theorem Takes.attempt {α β γ : Type} {sink : Sink ω} {s : Stage σ ω}
    {act : Act Event (Stage σ ω) (Except Failure β)}
    {f : β → Act Event (Stage σ ω) (Except Failure Unit)} {step : α → Step}
    {value : α → Ending (Except Failure γ)} {next : γ → List Step → Prop} (embed : γ → β)
    (hverdict : ∀ a, (step a).verdict = (value a).forget)
    (hact : ∃ a, Takes sink s (act s) [step a] ((value a).lift embed))
    (hnext : ∀ c, (∃ a, value a = .returned (.ok c)) →
      ∀ s, ∃ rest, next c rest ∧ Takes sink s (f (embed c) s) rest (decision rest)) :
    ∃ steps, Then step value next steps ∧
      Takes sink s (act.attempt f s) steps (decision steps) := by
  obtain ⟨a, hact⟩ := hact
  have hv := hverdict a
  have hstream : (act s).state.console.sink = (step a).stream sink s.console.sink := hact.stream
  have hending := hact.ending
  rcases hvalue : value a with (failure | c) | p
  · rw [hvalue] at hv hending
    refine ⟨[step a], ⟨a, [], rfl, by rw [hvalue]⟩, ?_⟩
    rw [decision_of_failure hv, Act.attempt_error f hending]
    exact ⟨hact.own, rfl, hact.held, hact.stream⟩
  · rw [hvalue] at hv hending
    -- the next act finds the stream as the step found it
    rw [stream_of_success sink _ hv] at hstream
    obtain ⟨rest, hrest, htakes⟩ := hnext c ⟨a, hvalue⟩ (act s).state
    refine ⟨step a :: rest, ⟨a, rest, rfl, by rw [hvalue]; exact hrest⟩, ?_⟩
    rw [decision_cons_success hv, Act.attempt_ok f hending]
    refine ⟨?_, htakes.ending, ?_, ?_⟩
    · have hown : Event.own (act s).trace = (step a).events sink s.console.sink := by
        simpa using hact.own
      rw [Event.own_append, hown, htakes.own, hstream, List.flatMap_cons]
    · have hheld : (act s).state.held = after s.held (step a) := hact.held
      rw [htakes.held, hheld, List.foldl_cons]
    · rw [htakes.stream, hstream, List.foldl_cons, stream_of_success sink _ hv]
  · rw [hvalue] at hv hending
    refine ⟨[step a], ⟨a, [], rfl, by rw [hvalue]⟩, ?_⟩
    rw [decision_of_panic hv, Act.attempt_panicked f hending]
    exact ⟨hact.own, rfl, hact.held, hact.stream⟩

/-- The same for an act that hands the value of the step on as it is. -/
theorem Takes.attempt_value {α γ : Type} {sink : Sink ω} {s : Stage σ ω}
    {act : Act Event (Stage σ ω) (Except Failure γ)}
    {f : γ → Act Event (Stage σ ω) (Except Failure Unit)} {step : α → Step}
    {value : α → Ending (Except Failure γ)} {next : γ → List Step → Prop}
    (hverdict : ∀ a, (step a).verdict = (value a).forget)
    (hact : ∃ a, Takes sink s (act s) [step a] (value a))
    (hnext : ∀ c, (∃ a, value a = .returned (.ok c)) →
      ∀ s, ∃ rest, next c rest ∧ Takes sink s (f c s) rest (decision rest)) :
    ∃ steps, Then step value next steps ∧
      Takes sink s (act.attempt f s) steps (decision steps) :=
  Takes.attempt id hverdict (by simpa using hact) hnext

/-- The same for an act after which there is none. -/
theorem Takes.last {α : Type} {sink : Sink ω} {s : Stage σ ω}
    {o : Outcome Event (Stage σ ω) (Except Failure Unit)} {step : α → Step}
    {value : α → Ending (Except Failure Unit)} (hverdict : ∀ a, (step a).verdict = (value a).forget)
    (ho : ∃ a, Takes sink s o [step a] (value a)) :
    ∃ steps, Then step value (fun _ steps => steps = []) steps ∧
      Takes sink s o steps (decision steps) := by
  obtain ⟨a, ho⟩ := ho
  have hdecision : decision [step a] = value a := by
    rw [decision_singleton, hverdict, Ending.forget_unit]
  refine ⟨[step a], ⟨a, [], rfl, ?_⟩, hdecision ▸ ho⟩
  rcases value a with (_ | _) | _ <;> rfl

end Launch

namespace Stage

variable {σ ω α β : Type}

theorem eq_bare {s : Stage σ ω} (h : s.held = .none) : s = bare s.console := by
  rw [bare, ← h]

@[simp] theorem atSeam_apply (act : Act Event (Seam σ) α) (s : Stage σ ω) :
    atSeam act s =
      ⟨(act s.console.seam).ending, (act s.console.seam).trace,
        { s with console.seam := (act s.console.seam).state }⟩ := by
  simp [atSeam, Console.atSeam]

@[simp] theorem atSeamQuiet_apply (act : Quiet Event (Seam σ) α) (s : Stage σ ω) :
    atSeamQuiet act s =
      ((act s.console.seam).1, (act s.console.seam).2.1,
        { s with console.seam := (act s.console.seam).2.2 }) := by
  simp [atSeamQuiet]

@[simp] theorem hold_bind (change : Holdings → Holdings) (f : Unit → Act Event (Stage σ ω) β)
    (s : Stage σ ω) :
    (hold change >>= f) s = f () { s with held := change s.held } := rfl

end Stage

namespace Launch

variable {σ ω : Type} (l : Launch σ ω) (s : Stage σ ω)

theorem takes_start :
    ∃ a, Takes l.sink s (l.startSession s) [.start a] (.returned (Session.startAnswer a)) := by
  refine ⟨(l.vm.globalInit s.console.seam.beyond).1, ?_⟩
  have hown := Session.own_start l.vm s.console.seam
  have hvalue := Session.start_value l.vm s.console.seam
  unfold startSession
  cases h : (l.vm.globalInit s.console.seam.beyond).1 with
  | error reason =>
    rw [h] at hown hvalue
    constructor <;>
      simp [hown, hvalue, Session.startAnswer, Step.events, after, Step.stream]
  | ok =>
    rw [h] at hown hvalue
    constructor <;>
      simp [hown, hvalue, Session.startAnswer, Step.events, after, Step.stream]

/-- An act at the seam that holds nothing and writes nothing. -/
theorem takes_atSeam {β : Type} (sink : Sink ω) {s : Stage σ ω}
    {act : Act Event (Seam σ) (Except Failure β)} {step : Step}
    {answer : Ending (Except Failure β)}
    (hown : Event.own (act s.console.seam).trace = step.events sink s.console.sink)
    (hending : (act s.console.seam).ending = answer) (hheld : after s.held step = s.held)
    (hstream : step.stream sink s.console.sink = s.console.sink) :
    Takes sink s (Stage.atSeam act s) [step] answer := by
  constructor <;> simp [hown, hending, hheld, hstream]

theorem takes_load :
    ∃ a, Takes l.sink s (l.loadCode s)
      [.load l.settings.image (.ofImage (Image.read l.opening l.settings.image) a)]
      (Session.loadAnswer l.settings.image
        (.ofImage (Image.read l.opening l.settings.image) a)) := by
  have hloading : ∃ a, Session.loading l.vm l.opening l.settings.image s.console.seam =
      .ofImage (Image.read l.opening l.settings.image) a := by
    unfold Session.loading Loading.ofImage
    rcases Image.read l.opening l.settings.image with (failure | image) | p
    · exact ⟨.panicked ⟨none⟩, rfl⟩
    · exact ⟨_, rfl⟩
    · exact ⟨.panicked ⟨none⟩, rfl⟩
  obtain ⟨a, ha⟩ := hloading
  refine ⟨a, takes_atSeam l.sink ?_ ?_ rfl rfl⟩
  · rw [Session.own_load, ha]
    rfl
  · rw [Session.load_ending, ha]

theorem takes_allocate (code : ParsedCode) :
    ∃ a, Takes l.sink s (l.buildModule ⟨false⟩ code s) [.allocate code a]
      ((builtAnswer a).lift fun m => ⟨some m, code⟩) := by
  obtain ⟨hown, hending, -⟩ := Session.allocate_spec l.vm ⟨false⟩ code s.console.seam
  rw [show Session.allocation l.vm ⟨false⟩ code s.console.seam =
    .answered (Seam.allocate l.vm code.id s.console.seam).ending from rfl] at hown hending
  refine ⟨(Seam.allocate l.vm code.id s.console.seam).ending, ?_⟩
  generalize (Seam.allocate l.vm code.id s.console.seam).ending = a at hown hending
  have hseam : (Stage.atSeam (Session.allocate l.vm ⟨false⟩ code) s).ending =
      Session.allocateAnswer ⟨false⟩ code (.answered a) := by
    simpa using hending
  unfold buildModule
  rcases a with (_ | m) | p
  · rw [Act.bind_returned _ hseam]
    constructor <;> simp [hown, builtAnswer, Step.events, after, Step.stream]
  · rw [Act.bind_returned _ hseam]
    constructor <;> simp [hown, builtAnswer, Step.events, after, Step.stream]
  · rw [Act.bind_panicked _ hseam]
    constructor <;> simp [hown, builtAnswer, Step.events, after, Step.stream]

theorem takes_link (m : ModuleId) (code : ParsedCode) (options : HostOptions) :
    ∃ a, Takes l.sink s (l.linkModule ⟨some m, code⟩ options s) [.link m options a]
      (Session.linkAnswer a) := by
  obtain ⟨hown, hending, -⟩ := Session.link_spec l.vm m code options s.console.seam
  exact ⟨_, takes_atSeam l.sink hown hending rfl rfl⟩

theorem takes_compact (m : ModuleId) {code : ParsedCode} (hcode : code.compacted = false) :
    Takes l.sink s (l.compactModule ⟨some m, code⟩ s) [.compact m code]
      (.returned (.ok ⟨some m, { code with compacted := true }⟩)) := by
  constructor <;>
    simp [compactModule, Session.compactEvents, hcode, Step.events, after, Step.stream]

theorem takes_resolve :
    ∃ a, Takes l.sink s (l.resolveHook s) [.resolve l.settings.extension l.settings.symbol a]
      a := by
  have hown := Seam.own_resolve l.resolver l.settings.extension l.settings.symbol s.console.seam
  refine ⟨(Seam.resolve l.resolver l.settings.extension l.settings.symbol s.console.seam).ending,
    ?_⟩
  have hseam : (Stage.atSeam (Seam.resolve l.resolver l.settings.extension l.settings.symbol)
      s).ending = _ := congrArg Outcome.ending (Stage.atSeam_apply ..)
  unfold resolveHook
  rcases h : (Seam.resolve l.resolver l.settings.extension l.settings.symbol
    s.console.seam).ending with (failure | hook) | p
  · rw [Act.bind_returned _ (hseam.trans h)]
    constructor <;> simp [hown, h, Step.events, after, Step.stream]
  · rw [Act.bind_returned _ (hseam.trans h)]
    constructor <;> simp [hown, h, Step.events, after, Step.stream]
  · rw [Act.bind_panicked _ (hseam.trans h)]
    constructor <;> simp [hown, h, Step.events, after, Step.stream]

/-- A captured fault is reported and fails the launch, unless stopping in the debugger panics. -/
theorem settle_triggered (record : FaultRecord) :
    ∃ answer : Ending Unit,
      (l.settle (.triggered record) s).ending =
        answer.map (fun _ => .error (.uncaught record)) ∧
      Event.own (l.settle (.triggered record) s).trace =
        Trap.reportEvents l.sink s.console.sink record ++
          .call (.debugBreak answer) :: answer.panicEvents ∧
      (l.settle (.triggered record) s).state.held = s.held ∧
      (l.settle (.triggered record) s).state.console.sink =
        (record.write l.sink s.console.sink).2.2 := by
  obtain ⟨answer, hending, hown, hsink⟩ := Trap.report_spec l.vm l.sink record s.console
  have hconsole : (Stage.atConsole (Trap.report l.vm l.sink record) s).ending = answer := hending
  refine ⟨answer, ?_⟩
  simp only [settle]
  -- the report is written before the debugger is called, so a panic there keeps it
  cases answer with
  | returned _ =>
    rw [Act.bind_returned _ hconsole]
    simp [Stage.atConsole, hown, hsink]
  | panicked p =>
    rw [Act.bind_panicked _ hconsole]
    simp [Stage.atConsole, hown, hsink]

/-- A call under the trap, with the report of its fault. -/
theorem takes_guarded {step : Guarded → Step} {topic : Log.Topic} {done : Log.Record}
    {call : Act Event (Seam σ) (Option Fault)} {traced : Ending (Option Fault) → Vm.Call}
    (hcall : Event.own (call s.console.seam).trace =
      .call (traced (call s.console.seam).ending) :: (call s.console.seam).ending.panicEvents)
    (hevents : ∀ guarded w, (step guarded).events l.sink w =
      .call (traced guarded.called) :: guarded.aftermath topic done l.sink w)
    (hheld : ∀ guarded, after s.held (step guarded) = s.held)
    (hstream : ∀ guarded w, (step guarded).stream l.sink w = guarded.stream l.sink w) :
    ∃ guarded, Takes l.sink s
      ((Stage.atSeam (Trap.guard l.vm topic done call) >>= l.settle) s) [step guarded]
      guarded.answer := by
  have hseam : ∀ {e}, (Trap.guard l.vm topic done call s.console.seam).ending = e →
      (Stage.atSeam (Trap.guard l.vm topic done call) s).ending = e := by
    intro e he
    simpa using he
  rcases h : (call s.console.seam).ending with (_ | fault) | p
  · -- no fault escaped
    have hguard : Trap.guard l.vm topic done call s.console.seam =
        ⟨.returned .disarmed, (call s.console.seam).trace ++ [.log done],
          (call s.console.seam).state⟩ :=
      Act.bind_returned _ h
    rw [Act.bind_returned _ (hseam (congrArg _ hguard))]
    refine ⟨.returned, ?_⟩
    constructor <;> simp [settle, hguard, hcall, h, hevents, hheld, hstream, Guarded.called,
      Guarded.aftermath, Guarded.answer, Guarded.stream, Ending.panicEvents]
  · -- a fault escaped, and any of the three calls that report it may panic
    have hguard : Trap.guard l.vm topic done call s.console.seam =
        ⟨(Trap.capture l.vm topic fault (call s.console.seam).state).ending,
          (call s.console.seam).trace ++
            (Trap.capture l.vm topic fault (call s.console.seam).state).trace,
          (Trap.capture l.vm topic fault (call s.console.seam).state).state⟩ :=
      Act.bind_returned _ h
    rcases Trap.capture_spec l.vm topic fault (call s.console.seam).state with
      ⟨p, hending, hown⟩ | ⟨message, p, hending, hown⟩ | ⟨record, hending, hown⟩
    · rw [Act.bind_panicked _ (hseam (by rw [hguard, hending]))]
      refine ⟨.undescribed fault p, ?_⟩
      constructor <;> simp [hguard, hcall, hown, h, hevents, hheld, hstream, Guarded.called,
        Guarded.aftermath, Guarded.answer, Guarded.stream, Ending.panicEvents]
    · rw [Act.bind_panicked _ (hseam (by rw [hguard, hending]))]
      refine ⟨.untraced fault message p, ?_⟩
      constructor <;> simp [hguard, hcall, hown, h, hevents, hheld, hstream, Guarded.called,
        Guarded.aftermath, Guarded.answer, Guarded.stream, Ending.panicEvents]
    · rw [Act.bind_returned _ (hseam (by rw [hguard, hending]))]
      obtain ⟨answer, hsettled, hreport, hkept, hwritten⟩ := l.settle_triggered
        { s with console.seam := (Trap.capture l.vm topic fault (call s.console.seam).state).state }
        record
      cases answer with
      | panicked p =>
        refine ⟨.unbroken fault record p, ?_⟩
        constructor <;> simp [hsettled, hreport, hkept, hwritten, hguard, hcall, hown, h, hevents,
          hheld, hstream, Guarded.called, Guarded.aftermath, Guarded.answer, Guarded.stream,
          Ending.panicEvents]
      | returned _ =>
        refine ⟨.faulted fault record, ?_⟩
        constructor <;> simp [hsettled, hreport, hkept, hwritten, hguard, hcall, hown, h, hevents,
          hheld, hstream, Guarded.called, Guarded.aftermath, Guarded.answer, Guarded.stream,
          Ending.panicEvents]
  · -- the call itself panicked, so nothing was captured
    have hguard : Trap.guard l.vm topic done call s.console.seam =
        ⟨.panicked p, (call s.console.seam).trace, (call s.console.seam).state⟩ :=
      Act.bind_panicked _ h
    rw [Act.bind_panicked _ (hseam (congrArg _ hguard))]
    refine ⟨.panicked p, ?_⟩
    constructor <;> simp [hguard, hcall, h, hevents, hheld, hstream, Guarded.called,
      Guarded.aftermath, Guarded.answer, Guarded.stream, Ending.panicEvents]

theorem takes_setup (hook : Hook) (options : HostOptions) :
    ∃ guarded, Takes l.sink s (l.callSetup hook options s) [.setup hook options guarded]
      guarded.answer := by
  unfold callSetup
  rw [Trap.setup_eq]
  exact l.takes_guarded s (Seam.own_callSetup l.vm hook options s.console.seam) (fun _ _ => rfl)
    (fun _ => rfl) fun _ _ => rfl

theorem takes_call (closure : Closure) :
    ∃ guarded, Takes l.sink s (l.callEntry closure s) [.call closure guarded] guarded.answer := by
  unfold callEntry
  rw [Trap.run_eq]
  exact l.takes_guarded s (Seam.own_guardedCall l.vm closure s.console.seam) (fun _ _ => rfl)
    (fun _ => rfl) fun _ _ => rfl

theorem takes_entry (m : ModuleId) (code : ParsedCode) :
    ∃ a, Takes l.sink s (l.findEntry ⟨some m, code⟩ s) [.entry m a] (Session.linkAnswer a) := by
  obtain ⟨hown, hending, -⟩ := Session.entryClosure_spec l.vm m code s.console.seam
  exact ⟨_, takes_atSeam l.sink hown hending rfl rfl⟩

/-! ## The whole launch -/

/-- The steps of a launch are those of a course, and they decide how it ends. -/
theorem forward_course (options : HostOptions) :
    ∃ steps, l.Course options steps ∧
      Takes l.sink s (l.forward options s) steps (decision steps) := by
  -- one request after the other, each at whatever stage the one before has left
  refine Takes.attempt_value (fun _ => rfl) (l.takes_start s) fun session hsession s => ?_
  obtain rfl : session = ⟨false⟩ := by
    obtain ⟨_ | _, ha⟩ := hsession
    · cases ha
    · exact (Except.ok.inj (Ending.returned.inj ha)).symm
  refine Takes.attempt_value (fun _ => rfl) (l.takes_load s) fun code hcode s => ?_
  have hwhole : code.compacted = false := by
    obtain ⟨a, ha⟩ := hcode
    exact (Session.parsed_of_loadAnswer ha).2
  refine Takes.attempt (fun m => ⟨some m, code⟩) (fun _ => rfl) (l.takes_allocate s code)
    fun m _ s => ?_
  refine Takes.attempt_value (fun _ => (Ending.forget_unit _).symm)
    (l.takes_link s m code options) fun _ _ s => ?_
  refine Takes.attempt (fun _ => ⟨some m, { code with compacted := true }⟩) (fun _ => rfl)
    ⟨(), l.takes_compact s m hwhole⟩ fun _ _ s => ?_
  refine Takes.attempt_value (fun _ => rfl) (l.takes_resolve s) fun hook _ s => ?_
  refine Takes.attempt_value (fun _ => (Ending.forget_unit _).symm)
    (l.takes_setup s hook options) fun _ _ s => ?_
  refine Takes.attempt_value (fun _ => rfl) (l.takes_entry s m _) fun closure _ s => ?_
  exact Takes.last (fun _ => (Ending.forget_unit _).symm) (l.takes_call s closure)

/-- A launch releases what it holds, the hook last, and then holds nothing. -/
theorem own_releaseAll :
    Event.own (l.releaseAll s).2.1 = s.held.releaseEvents ∧
      (l.releaseAll s).2.2.held = .none ∧
      (l.releaseAll s).2.2.console.sink = s.console.sink := by
  obtain ⟨console, session, module, hook⟩ := s
  unfold releaseAll releaseModule releaseSession releaseHook Holdings.releaseEvents
    Holdings.moduleEvents Holdings.sessionEvents Holdings.hookEvents
  cases session <;> cases module <;> cases hook <;>
    simp [Session.own_free, Session.own_finish]

/-- One request of a course attempts one item of the agenda. -/
theorem Then.attempts {α γ : Type} {step : α → Step} {value : α → Ending (Except Failure γ)}
    {next : γ → List Step → Prop} {kind : Kind} {agenda : List Kind} {steps : List Step}
    (h : Then step value next steps) (hkind : ∀ a, (step a).kind = kind)
    (hverdict : ∀ a, (step a).verdict = (value a).forget)
    (hnext : ∀ c rest, next c rest → Attempts agenda rest) : Attempts (kind :: agenda) steps := by
  obtain ⟨a, rest, rfl, hrest⟩ := h
  have hv := hverdict a
  refine ⟨step a, rest, rfl, hkind a, ?_⟩
  rcases hvalue : value a with (failure | c) | p <;> rw [hvalue] at hrest hv
  · exact ⟨(fun hs => nomatch hv.symm.trans hs), fun _ => hrest⟩
  · exact ⟨fun _ => hnext c rest hrest, fun hn => absurd hv hn⟩
  · exact ⟨(fun hs => nomatch hv.symm.trans hs), fun _ => hrest⟩

/-- What holds of every step that a course can take holds of the steps that it takes. -/
theorem Then.forall_mem {α γ : Type} {step : α → Step} {value : α → Ending (Except Failure γ)}
    {next : γ → List Step → Prop} {P : Step → Prop} {steps : List Step}
    (h : Then step value next steps) (hstep : ∀ a, P (step a))
    (hnext : ∀ c rest, next c rest → ∀ other ∈ rest, P other) : ∀ other ∈ steps, P other := by
  obtain ⟨a, rest, rfl, hrest⟩ := h
  refine List.forall_mem_cons.2 ⟨hstep a, ?_⟩
  rcases hvalue : value a with (failure | c) | p <;> rw [hvalue] at hrest
  · rw [hrest]
    exact List.forall_mem_nil _
  · exact hnext c rest hrest
  · rw [hrest]
    exact List.forall_mem_nil _

/-- What is attempted is the beginning of the agenda, each item once. -/
theorem Attempts.kinds {agenda : List Kind} {steps : List Step} (h : Attempts agenda steps) :
    steps.map Step.kind <+: agenda := by
  induction agenda generalizing steps with
  | nil =>
    obtain rfl : steps = [] := h
    exact List.prefix_rfl
  | cons kind agenda ih =>
    obtain ⟨step, rest, rfl, rfl, hon, hstop⟩ := h
    rw [List.map_cons, List.cons_prefix_cons]
    refine ⟨rfl, ?_⟩
    by_cases hs : step.Succeeds
    · exact ih (hon hs)
    · rw [hstop hs]
      exact List.nil_prefix

theorem ModuleCourse.attempts {options : HostOptions} {m : ModuleId} {code : ParsedCode}
    {steps : List Step} (h : l.ModuleCourse options m code steps) :
    Attempts [.link, .compact, .resolve, .setup, .entry, .call] steps := by
  refine Then.attempts h (fun _ => rfl) (fun _ => (Ending.forget_unit _).symm) fun _ _ h => ?_
  refine Then.attempts h (fun _ => rfl) (fun _ => rfl) fun _ _ h => ?_
  refine Then.attempts h (fun _ => rfl) (fun _ => rfl) fun hook _ h => ?_
  refine Then.attempts h (fun _ => rfl) (fun _ => (Ending.forget_unit _).symm) fun _ _ h => ?_
  refine Then.attempts h (fun _ => rfl) (fun _ => rfl) fun closure _ h => ?_
  exact Then.attempts h (fun _ => rfl) (fun _ => (Ending.forget_unit _).symm) fun _ _ h => h

/-- The steps of a course attempt the agenda. -/
theorem Course.attempts {options : HostOptions} {steps : List Step}
    (h : l.Course options steps) : Attempts agenda steps := by
  refine Then.attempts h (fun _ => rfl) (fun _ => rfl) fun _ _ h => ?_
  refine Then.attempts h (fun _ => rfl) (fun _ => rfl) fun code _ h => ?_
  refine Then.attempts h (fun _ => rfl) (fun _ => rfl) fun m _ h => ?_
  exact ModuleCourse.attempts l h

/-- A launch that fails without a fault has written nothing by then. -/
theorem stream_of_failure (sink : Sink ω) (w : ω) {agenda : List Kind} {steps : List Step}
    {failure : Failure} (h : Attempts agenda steps)
    (hd : decision steps = .returned (.error failure)) (hf : failure.isFault = false) :
    steps.foldl (Step.stream sink) w = w := by
  induction agenda generalizing steps with
  | nil =>
    obtain rfl : steps = [] := h
    rfl
  | cons kind agenda ih =>
    obtain ⟨step, rest, rfl, -, hon, hstop⟩ := h
    by_cases hs : step.Succeeds
    · rw [decision_cons_success hs] at hd
      rw [List.foldl_cons, stream_of_success sink w hs]
      exact ih (hon hs) hd
    · obtain rfl := hstop hs
      have hguarded : ∀ guarded : Guarded, guarded.answer = .returned (.error failure) →
          guarded.stream sink w = w := by
        intro guarded hg
        cases guarded <;> cases hg
        cases hf
      have hv : step.verdict = .returned (.error failure) := by
        rw [← decision_singleton, hd]
      -- only guarded calls write, and those that end without a fault do not
      cases step with
      | setup hook options guarded => exact hguarded guarded hv
      | call closure guarded => exact hguarded guarded hv
      | _ => rfl

/-- The events after the release. -/
def closingEvents (w : ω) : Ending (Except Failure Unit) → List Event
  | .returned (.ok ()) => [.log successRecord]
  | .returned (.error failure) => .log (failureRecord failure) :: diagnoseEvents l.sink w failure
  | .panicked _ => []

/-- The events of a launch that finds the diagnostics stream as it is and takes some steps. -/
def runEvents (w : ω) (steps : List Step) : List Event :=
  .log l.startRecord :: (steps.flatMap (Step.events l.sink w) ++
    (heldAfter steps).releaseEvents ++ l.closingEvents w (decision steps))

theorem own_diagnose (failure : Failure) :
    (l.diagnose failure s).ending = .returned () ∧
      Event.own (l.diagnose failure s).trace = diagnoseEvents l.sink s.console.sink failure ∧
      (l.diagnose failure s).state.held = s.held := by
  unfold diagnose diagnoseEvents
  by_cases hf : failure.isFault = true
  · simp [hf]
  rw [if_neg hf, if_neg hf]
  cases hw : (l.sink.writeLines [diagnostic failure] s.console.sink).1 with
  | none => simp [hw]
  | some error => simp [hw]

/-- The steps of a launch, the release of what they acquired, and how it ended. -/
theorem sequence_course (options : HostOptions) (console : Console σ ω) :
    ∃ steps, l.Course options steps ∧
      (l.sequence options (.bare console)).ending = decision steps ∧
      Event.own (l.sequence options (.bare console)).trace =
        steps.flatMap (Step.events l.sink console.sink) ++ (heldAfter steps).releaseEvents ∧
      (l.sequence options (.bare console)).state.held = .none ∧
      (l.sequence options (.bare console)).state.console.sink =
        steps.foldl (Step.stream l.sink) console.sink := by
  obtain ⟨steps, hcourse, htakes⟩ := l.forward_course (.bare console) options
  obtain ⟨hown, hheld, hsink⟩ := l.own_releaseAll (l.forward options (.bare console)).state
  refine ⟨steps, hcourse, htakes.ending, ?_, hheld, hsink.trans htakes.stream⟩
  simp only [sequence, Act.ensuring_apply, Event.own_append]
  rw [htakes.own, hown, htakes.held]
  rfl

/-- A launch takes the steps of a course, leaves their events, releases what they acquired, and ends
as they say. -/
theorem run_course (options : HostOptions) (console : Console σ ω) :
    ∃ steps, l.Course options steps ∧
      (l.run options (.bare console)).ending = decision steps ∧
      Event.own (l.run options (.bare console)).trace = l.runEvents console.sink steps ∧
      (l.run options (.bare console)).state.held = .none := by
  obtain ⟨steps, hcourse, hending, hown, hheld, hsink⟩ := l.sequence_course options console
  refine ⟨steps, hcourse, ?_⟩
  unfold run runEvents
  rw [Act.emit_bind]
  rcases h : (l.sequence options (.bare console)).ending with (failure | _) | p
  · rw [Act.bind_returned _ h]
    obtain ⟨hreturned, hdiagnosed, hkept⟩ :=
      l.own_diagnose (l.sequence options (.bare console)).state failure
    have hdecision := hending.symm.trans h
    -- the diagnostic is written only if no report of a fault has been
    have hsame : diagnoseEvents l.sink (steps.foldl (Step.stream l.sink) console.sink) failure =
        diagnoseEvents l.sink console.sink failure := by
      by_cases hf : failure.isFault = true
      · simp [diagnoseEvents, hf]
      · rw [stream_of_failure l.sink console.sink (Course.attempts l hcourse) hdecision
          (by simpa using hf)]
    rw [hsink, hsame] at hdiagnosed
    simp only [Act.emit_bind]
    rw [Act.bind_returned _ hreturned]
    simp [hown, hdiagnosed, hkept, hheld, hdecision, closingEvents]
  · have hdecision := hending.symm.trans h
    rw [Act.bind_returned _ h]
    simp [hown, hheld, hdecision, closingEvents]
  · have hdecision := hending.symm.trans h
    rw [Act.bind_panicked _ h]
    simp [hown, hheld, hdecision, closingEvents]

end Launch

end Launcher
