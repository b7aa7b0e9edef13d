import Launcher.CommandLine
import Launcher.Proofs.HostEntry

/-!
# Two ways into one launch

The host's initializer and the command line each ask for the log, load the VM library, launch, and
tell what came of it. Given the same settings they do the same: the same calls, the same search for
the extension, the same result, the same diagnostics. What differs is where notices are printed, one
record of the initializer, and the line with which the command line sums a failed launch up.

- `Event.deeds`: what is done in a trace, apart from the launcher's own records and printed lines.
- `HostEntry.initExtension`: what the initializer does with settings, and `HostEntry.enter_initExtension`.
- `CommandLine.traces`: both runs, side by side.
- `CommandLine.same_bootstrap`: what is the same, and what is not.
-/

namespace Launcher

open Log

variable {τ : Type}

namespace Event

/-- What an event prints, and where. -/
def printed? : Event → Option (Stream × String)
  | .print stream text => some (stream, text)
  | _ => none

/-- What is printed in a trace. -/
def printed (t : List Event) : List (Stream × String) := t.filterMap printed?

/-- Whether an event is a record of the launcher's or a line that it prints. -/
def isTold : Event → Bool
  | .log _ | .print .. => true
  | _ => false

/-- What is done in a trace, whatever the launcher logs or prints meanwhile. -/
def deeds (t : List Event) : List Event := t.filter fun e => !e.isTold

theorem printed_append (t u : List Event) : printed (t ++ u) = printed t ++ printed u :=
  List.filterMap_append ..

theorem deeds_append (t u : List Event) : deeds (t ++ u) = deeds t ++ deeds u :=
  List.filter_append ..

theorem printed_records (records : List Record) : printed (records.map Event.log) = [] := by
  simp [printed, printed?]

theorem printed_lines (stream : Stream) (lines : List String) :
    printed (lines.map (Event.print stream)) = lines.map (stream, ·) := by
  induction lines with
  | nil => rfl
  | cons line rest ih => exact congrArg ((stream, line) :: ·) ih

theorem deeds_lines (stream : Stream) (lines : List String) :
    deeds (lines.map (Event.print stream)) = [] := by
  simp [deeds, isTold]

/-- Redirection changes where something is printed, not what. -/
theorem printed_redirect (stream : Stream) (t : List Event) :
    printed (t.map (redirect stream)) = (printed t).map fun line => (stream, line.2) := by
  induction t with
  | nil => rfl
  | cons e t ih =>
    cases e with
    | print _ text => exact congrArg ((stream, text) :: ·) ih
    | _ => exact ih

theorem deeds_redirect (stream : Stream) (t : List Event) :
    deeds (t.map (redirect stream)) = deeds t := by
  induction t with
  | nil => rfl
  | cons e t ih =>
    cases e with
    | log | print => exact ih
    | _ => exact congrArg (_ :: ·) ih

theorem map_redirect_records (stream : Stream) (records : List Record) :
    (records.map Event.log).map (redirect stream) = records.map Event.log := by
  rw [List.map_map]
  rfl

/-- The last redirection counts. -/
theorem map_redirect_redirect (stream other : Stream) (t : List Event) :
    (t.map (redirect other)).map (redirect stream) = t.map (redirect stream) := by
  rw [List.map_map]
  refine List.map_congr_left fun e _ => ?_
  cases e <;> rfl

/-- Where nothing is printed, there is nothing to redirect. -/
theorem redirect_of_not_print {t : List Event} (h : ∀ e ∈ t, e.isPrint = false) (stream : Stream) :
    t.map (redirect stream) = t := by
  refine (List.map_congr_left fun e he => ?_).trans (List.map_id t)
  cases e with
  | print => cases h _ he
  | _ => rfl

/-- Whatever can be seen in what is done can be seen in the whole trace. -/
theorem filterMap_deeds {α : Type} {f : Event → Option α}
    (h : ∀ e : Event, e.isTold = true → f e = none) (t : List Event) :
    (deeds t).filterMap f = t.filterMap f := by
  unfold deeds
  rw [List.filterMap_filter]
  refine congrFun (congrArg _ (funext fun e => ?_)) t
  cases htold : e.isTold with
  | true => rw [h e htold]; rfl
  | false => rfl

/-- Lines on standard error add nothing to standard output. -/
theorem output_of_printed {t : List Event} (h : ∀ line ∈ printed t, line.1 = .error) :
    t.flatMap output = (deeds t).flatMap output := by
  induction t with
  | nil => rfl
  | cons e t ih =>
    cases e with
    | log => exact ih h
    | print stream text =>
      obtain ⟨rfl, hrest⟩ := List.forall_mem_cons.1 h
      exact ih hrest
    | _ => exact congrArg (_ ++ ·) (ih h)

theorem printed_of_not_print {t : List Event} (h : ∀ e ∈ t, e.isPrint = false) :
    printed t = [] := by
  refine List.filterMap_eq_nil_iff.2 fun e he => ?_
  cases e with
  | print => cases h _ he
  | _ => rfl

end Event

/-- Loading the VM library fails in one way only. -/
theorem Installation.loadRuntime_error {partners : Installation.Partners τ} {settings : Settings}
    {p : Installation τ} {failure : Failure}
    (h : (Installation.loadRuntime partners settings p).1 = .error failure) :
    ∃ reason, failure = .runtimeUnavailable reason := by
  obtain ⟨-, -, hfails⟩ :=
    HashLink.load_spec (partners.loader p.files) settings.runtime true settings.hotReload
  exact hfails failure h

/-- A launch prints nothing. -/
theorem Installation.launch_not_print (partners : Installation.Partners τ) (settings : Settings)
    (runtime : HashLink.Runtime) (options : HostOptions) (p : Installation τ) :
    ∀ e ∈ (Installation.launch partners settings runtime options p).trace, e.isPrint = false := by
  intro e he
  rw [Installation.launch, Act.within_apply, List.map_id] at he
  exact ((Installation.launchOf partners p.files settings runtime).run_trail options
    (.bare ⟨p.seam, ()⟩)).not_print e he

namespace HostEntry

/-- What the initializer does with settings: it asks for the log, whatever comes of that, loads the
VM library and launches. -/
def initExtension (partners : Installation.Partners τ) (settings : Settings) (options : HostOptions) :
    Act Event (Installation τ) (Except Failure Unit) := do
  Act.ofQuiet (Installation.announceLogging partners .output settings)
  loadAndLaunch partners settings options

theorem initExtension_apply (partners : Installation.Partners τ) (settings : Settings)
    (options : HostOptions) (p : Installation τ) :
    initExtension partners settings options p =
      let (_, told, ready) := Installation.announceLogging partners .output settings p
      let boot := loadAndLaunch partners settings options ready
      ⟨boot.ending, told ++ boot.trace, boot.state⟩ := rfl

/-- A call of the initializer does this with the settings of the process, and tells at its end that
it failed or panicked. -/
theorem enter_initExtension (partners : Installation.Partners τ) (options : HostOptions)
    (p : Installation τ) :
    ∃ logging, enter partners options p =
      let settings := settingsOf p
      let o := initExtension partners settings options { p with settings := some settings }
      ((), o.trace ++ closing o.ending, { o.state with logging }) := by
  unfold enter
  rw [Quiet.bind_apply, resolveSettings_apply, Quiet.bind_apply, Installation.logged_apply,
    Quiet.bind_apply, Act.caught_apply]
  simp only [initExtension_apply]
  -- the ending is a value by now, so that a panic is just one more case
  obtain ⟨(failure | _) | _, trace, state⟩ := loadAndLaunch partners (settingsOf p) options
    (Installation.announceLogging partners .output (settingsOf p)
      { p with settings := some (settingsOf p) }).2.2
  · exact ⟨_, by simp [closing]; rfl⟩
  · exact ⟨_, by simp [closing]; rfl⟩
  · exact ⟨_, by simp [closing]; rfl⟩

section

variable (partners : Installation.Partners τ) {settings : Settings} (options : HostOptions)
  {p : Installation τ} {events : List Event}

theorem loadAndLaunch_unavailable {failure : Failure}
    (h : Installation.loadRuntime partners settings p = (.error failure, events, p)) :
    loadAndLaunch partners settings options p = ⟨.returned (.error failure),
      .log (startRecord options) :: (events ++ [.print .output (failure.message ++ "\n")]), p⟩ := by
  simp [loadAndLaunch, h]

theorem loadAndLaunch_loaded {runtime : HashLink.Runtime}
    (h : Installation.loadRuntime partners settings p = (.ok runtime, events, p)) :
    loadAndLaunch partners settings options p =
      let o := Installation.launch partners settings runtime options p
      ⟨o.ending, .log (startRecord options) :: (events ++ o.trace), o.state⟩ := by
  simp [loadAndLaunch, h]

end

end HostEntry

namespace CommandLine

/-- The exit code for the ending of a launch. -/
def exitOf : Ending (Except Failure Unit) → ExitCode
  | .returned (.ok ()) => .success
  | .returned (.error _) => .failure
  | .panicked _ => .panic

/-- The line with which the command line sums up a failure. -/
def summaryLine (failure : Failure) : String :=
  "hlboot 0.1.0: " ++ failure.code ++ " (" ++ failure.message ++ ")\n"

/-- The summary of a launch: a line if it failed. -/
def summaries : Option (Ending (Except Failure Unit)) → List String
  | some (.returned (.error failure)) => [summaryLine failure]
  | _ => []

theorem summary_eq (failure : Failure) : summary failure ++ "\n" = summaryLine failure := by
  unfold summary summaryLine Logging.version
  simp only [String.reduceAppend]
  exact String.append_assoc

section

variable (partners : Installation.Partners τ) {settings : Settings} {p : Installation τ}
  {events : List Event}

theorem loadAndLaunch_unavailable {failure : Failure}
    (h : Installation.loadRuntime partners settings p = (.error failure, events, p)) :
    loadAndLaunch partners settings p =
      (.failure, events ++ [.print .error (failure.message ++ "\n")], p) := by
  simp [loadAndLaunch, h]

theorem loadAndLaunch_loaded {runtime : HashLink.Runtime}
    (h : Installation.loadRuntime partners settings p = (.ok runtime, events, p)) :
    loadAndLaunch partners settings p =
      let o := Installation.launch partners settings runtime .null p
      (exitOf o.ending, events ++ (o.trace ++ (summaries (some o.ending)).map (Event.print .error)),
        o.state) := by
  unfold loadAndLaunch
  rw [Quiet.bind_apply, h]
  simp only [Quiet.bind_apply, Act.caught_apply]
  rcases (Installation.launch partners settings runtime .null p).ending with (failure | _) | _
  · simp [summaries, ← summary_eq, exitOf]
  · rfl
  · rfl

end

/-- What the launch proper comes to, if the VM library can be loaded. -/
def launched? (partners : Installation.Partners τ) (settings : Settings) (p : Installation τ) :
    Option (Ending (Except Failure Unit)) :=
  let ready := (Installation.announceLogging partners .output settings p).2.2
  match (Installation.loadRuntime partners settings ready).1 with
  | .error _ => none
  | .ok runtime => some (Installation.launch partners settings runtime .null ready).ending

/-- What either way in has to tell people beyond the diagnostics: why the log was not started, and
why the VM library could not be loaded. -/
def notices (partners : Installation.Partners τ) (settings : Settings) (p : Installation τ) :
    List String :=
  let ready := (Installation.announceLogging partners .output settings p).2.2
  (match p.logAnswer partners settings with
    | .ok _ => []
    | .error refusal => [HostEntry.disabled ++ refusal.message ++ "\n"]) ++
  match (Installation.loadRuntime partners settings ready).1 with
  | .ok _ => []
  | .error failure => [failure.message ++ "\n"]

/-- Both runs, side by side. -/
theorem traces (partners : Installation.Partners τ) (settings : Settings) (p : Installation τ) :
    let host := HostEntry.initExtension partners settings .null p
    let line := runSettings partners settings p
    ∃ before after, host.trace = before ++ .log (HostEntry.startRecord .null) :: after ∧
      line.2.1 = (before ++ after).map (Event.redirect .error) ++
        (summaries (launched? partners settings p)).map (Event.print .error) ∧
      Event.printed (before ++ after) = (notices partners settings p).map (.output, ·) ∧
      line.1 = exitOf host.ending ∧ { line.2.2 with logging := host.state.logging } = host.state ∧
      (launched? partners settings p = some host.ending ∨ launched? partners settings p = none ∧
        ∃ reason, host.ending = .returned (.error (.runtimeUnavailable reason))) := by
  obtain ⟨records, logging, hlog⟩ := HostEntry.announceLogging_on partners settings p
  obtain ⟨loading, hloading, hfails⟩ :=
    HashLink.load_spec (partners.loader logging.store.files) settings.runtime true settings.hotReload
  have hnotice : Event.printed
      ((HostEntry.logEvents (p.logAnswer partners settings)).map (Event.redirect .output)) =
        (match p.logAnswer partners settings with
          | .ok _ => []
          | .error refusal => [HostEntry.disabled ++ refusal.message ++ "\n"]).map (.output, ·) := by
    cases p.logAnswer partners settings <;> rfl
  intro host line
  refine ⟨records.map Event.log ++
    (HostEntry.logEvents (p.logAnswer partners settings)).map (Event.redirect .output), ?_⟩
  simp only [host, line, HostEntry.initExtension_apply, runSettings, Quiet.bind_apply,
    Installation.logged_apply, launched?, notices, hlog]
  -- the two part where the library is loaded: only one of them sums the failure up
  cases hload : (HashLink.load (partners.loader logging.store.files) settings.runtime true
    settings.hotReload).1 with
  | error failure =>
    obtain ⟨reason, rfl⟩ := hfails failure hload
    have hruntime : Installation.loadRuntime partners settings { p with logging } =
        (.error (.runtimeUnavailable reason), loading.map Event.log, { p with logging }) := by
      rw [← hload, ← hloading]
      rfl
    simp only [HostEntry.loadAndLaunch_unavailable partners .null hruntime,
      loadAndLaunch_unavailable partners hruntime, hruntime]
    refine ⟨_, rfl, ?_, ?_, by trivial, by trivial, .inr ⟨by trivial, reason, rfl⟩⟩
    · simp only [List.map_append, Event.map_redirect_records, Event.map_redirect_redirect,
        List.append_assoc]
      rfl
    · simp only [Event.printed_append, Event.printed_records, hnotice, List.map_append,
        List.nil_append]
      rfl
  | ok runtime =>
    have hruntime : Installation.loadRuntime partners settings { p with logging } =
        (.ok runtime, loading.map Event.log, { p with logging }) := by
      rw [← hload, ← hloading]
      rfl
    -- a launch prints nothing, so redirecting what is printed leaves it alone
    have hprint := Installation.launch_not_print partners settings runtime .null { p with logging }
    simp only [HostEntry.loadAndLaunch_loaded partners .null hruntime,
      loadAndLaunch_loaded partners hruntime, hruntime]
    refine ⟨_, rfl, ?_, ?_, by trivial, by trivial, .inl (by trivial)⟩
    · simp only [List.map_append, Event.map_redirect_records, Event.map_redirect_redirect,
        Event.redirect_of_not_print hprint, List.append_assoc]
    · simp only [Event.printed_append, Event.printed_records, hnotice, List.map_append,
        Event.printed_of_not_print hprint, List.nil_append]
      rfl

/-- How the summary of a launch begins. -/
theorem summary_start (failure : Failure) :
    (summaryLine failure).toList.take 7 = "hlboot ".toList := by
  show ("hlboot 0.1.0: " ++ failure.code ++ " (" ++ failure.message ++ ")\n").toList.take 7 = _
  simp only [String.toList_append]
  rfl

theorem disabled_ne_summary (text : String) (failure : Failure) :
    HostEntry.disabled ++ text ++ "\n" ≠ summaryLine failure := by
  intro h
  have hstart := summary_start failure
  rw [← h] at hstart
  simp [HostEntry.disabled] at hstart

theorem unavailable_ne_summary (reason : String) (failure : Failure) :
    (Failure.runtimeUnavailable reason).message ++ "\n" ≠ summaryLine failure := by
  have hmessage : (Failure.runtimeUnavailable reason).message =
      "VM runtime unavailable: " ++ reason := rfl
  intro h
  have hstart := summary_start failure
  rw [← h, hmessage] at hstart
  simp at hstart

/-- No notice is taken for the summary of a launch. -/
theorem notices_ne_summary {partners : Installation.Partners τ} {settings : Settings}
    {p : Installation τ} {line : String} (h : line ∈ notices partners settings p)
    (failure : Failure) : line ≠ summaryLine failure := by
  intro heq
  -- every summary begins with the name of the program, and no notice does
  unfold notices at h
  rcases List.mem_append.1 h with hmem | hmem
  · cases hanswer : p.logAnswer partners settings with
    | ok =>
      rw [hanswer] at hmem
      cases hmem
    | error refusal =>
      rw [hanswer] at hmem
      exact disabled_ne_summary _ failure ((List.mem_singleton.1 hmem).symm.trans heq)
  · cases hload : (Installation.loadRuntime partners settings
        (Installation.announceLogging partners .output settings p).2.2).1 with
    | ok =>
      rw [hload] at hmem
      cases hmem
    | error other =>
      rw [hload] at hmem
      obtain ⟨reason, rfl⟩ := Installation.loadRuntime_error hload
      exact unavailable_ne_summary reason failure ((List.mem_singleton.1 hmem).symm.trans heq)

/-- What the initializer and the command line have in common when they are given the same settings,
and what they have not: `host` is the one and `line` the other. -/
structure SameBootstrap (partners : Installation.Partners τ) (settings : Settings)
    (p : Installation τ) (host : Outcome Event (Installation τ) (Except Failure Unit))
    (line : ExitCode × List Event × Installation τ) : Prop where
  /-- The events are the same and in the same order, but for one record that only the initializer
  leaves, the stream for notices, and the summary at the end. -/
  trace : ∃ before after, host.trace = before ++ .log (HostEntry.startRecord .null) :: after ∧
    line.2.1 = (before ++ after).map (Event.redirect .error) ++
      (summaries (launched? partners settings p)).map (Event.print .error)
  /-- Both do the same: calls, the search for the extension, diagnostics, panics. -/
  deeds : Event.deeds line.2.1 = Event.deeds host.trace
  calls : Event.calls line.2.1 = Event.calls host.trace
  libraryCalls : line.2.1.filterMap Event.libraryCall? = host.trace.filterMap Event.libraryCall?
  /-- The command line puts nothing on standard output but what both put there. -/
  output : line.2.1.flatMap Event.output = (Event.deeds host.trace).flatMap Event.output
  /-- The initializer prints its notices on standard output, -/
  hostPrinted : Event.printed host.trace = (notices partners settings p).map (.output, ·)
  /-- and the command line prints the same ones and its summary on standard error. -/
  linePrinted : Event.printed line.2.1 =
    (notices partners settings p ++ summaries (launched? partners settings p)).map (.error, ·)
  /-- A launch is summed up just if it failed, and not if there was none. -/
  summedUp : (∃ failure, (.error, summaryLine failure) ∈ Event.printed line.2.1) ↔
    ∃ failure, launched? partners settings p = some (.returned (.error failure))
  /-- There is no launch just if the VM library could not be loaded. -/
  result : launched? partners settings p = some host.ending ∨
    launched? partners settings p = none ∧
      ∃ reason, host.ending = .returned (.error (.runtimeUnavailable reason))
  /-- The exit code tells how the initializer would have ended. -/
  exit : line.1 = exitOf host.ending
  success : line.1 = .success ↔ host.ending = .returned (.ok ())
  failure : line.1 = .failure ↔ ∃ failure, host.ending = .returned (.error failure)
  /-- Nothing but the log is left different. -/
  state : { line.2.2 with logging := host.state.logging } = host.state

/-- Given the same settings and the same surroundings, the host's initializer without options and the
command line go through the same launch. -/
theorem same_bootstrap (partners : Installation.Partners τ) (settings : Settings)
    (p : Installation τ) :
    SameBootstrap partners settings p (HostEntry.initExtension partners settings .null p)
      (runSettings partners settings p) := by
  obtain ⟨before, after, hhost, hline, hprinted, hexit, hstate, hresult⟩ :=
    traces partners settings p
  generalize HostEntry.initExtension partners settings .null p = host at hhost hexit hstate hresult
  generalize runSettings partners settings p = line at hline hexit hstate
  -- they differ in what is printed or logged only, which is no deed
  have hdeeds : Event.deeds line.2.1 = Event.deeds host.trace := by
    rw [hline, hhost, Event.deeds_append, Event.deeds_redirect, Event.deeds_lines, List.append_nil,
      Event.deeds_append, Event.deeds_append]
    rfl
  have hlinePrinted : Event.printed line.2.1 =
      (notices partners settings p ++ summaries (launched? partners settings p)).map (.error, ·) := by
    rw [hline, Event.printed_append, Event.printed_redirect, hprinted, Event.printed_lines,
      List.map_map, List.map_append]
    rfl
  constructor
  case trace => exact ⟨before, after, hhost, hline⟩
  case deeds => exact hdeeds
  case calls =>
    have htold : ∀ e : Event, e.isTold = true → e.call? = none := fun e he => by
      cases e <;> first | rfl | cases he
    rw [Event.calls, Event.calls, ← Event.filterMap_deeds htold, hdeeds,
      Event.filterMap_deeds htold]
  case libraryCalls =>
    have htold : ∀ e : Event, e.isTold = true → e.libraryCall? = none := fun e he => by
      cases e <;> first | rfl | cases he
    rw [← Event.filterMap_deeds htold, hdeeds, Event.filterMap_deeds htold]
  case output =>
    -- all that the command line prints itself goes to the error stream
    rw [Event.output_of_printed, hdeeds]
    intro l hl
    rw [hlinePrinted] at hl
    obtain ⟨_, -, rfl⟩ := List.mem_map.1 hl
    rfl
  case hostPrinted =>
    rw [hhost, ← hprinted, Event.printed_append, Event.printed_append]
    rfl
  case linePrinted => exact hlinePrinted
  case summedUp =>
    constructor
    · rintro ⟨failure, hmem⟩
      rw [hlinePrinted] at hmem
      obtain ⟨text, htext, heq⟩ := List.mem_map.1 hmem
      -- a line that reads like a summary is one, as no notice begins like it
      obtain rfl : text = summaryLine failure := (Prod.mk.inj heq).2
      rcases List.mem_append.1 htext with hnotice | hsummary
      · exact absurd rfl (notices_ne_summary hnotice failure)
      · rcases hlaunched : launched? partners settings p with _ | (other | _) | _
        · simp [hlaunched, summaries] at hsummary
        · exact ⟨other, rfl⟩
        · simp [hlaunched, summaries] at hsummary
        · simp [hlaunched, summaries] at hsummary
    · rintro ⟨failure, hlaunched⟩
      refine ⟨failure, ?_⟩
      rw [hlinePrinted, hlaunched]
      exact List.mem_map_of_mem (List.mem_append_right _ List.mem_cons_self)
  case result => exact hresult
  case exit => exact hexit
  case success =>
    rw [hexit]
    rcases host.ending with (_ | _) | _ <;> simp [exitOf]
  case failure =>
    rw [hexit]
    rcases host.ending with (_ | _) | _ <;> simp [exitOf]
  case state => exact hstate

end CommandLine

end Launcher
