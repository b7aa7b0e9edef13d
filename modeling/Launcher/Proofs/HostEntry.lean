import Launcher.HostEntry
import Launcher.Proofs.HashLink.Vacancy
import Launcher.Proofs.Launch.Output
import Launcher.Rehearsal.ScriptedLibrary

/-!
# The initializer over a whole process

A host may call the initializer any number of times, and between two calls everything around the
process may change. What lasts from one call to the next is the settings, the log and the flag for
the global state of the VM library.

- `HostEntry.Turn`, `HostEntry.calls`: what each call finds, and the calls of a process.
- `HostEntry.loadAndLaunch_boots`: one launch from loading the library on, whatever comes of it.
- `HostEntry.enter_apply`: a call, from its beginning to its end.
- `HostEntry.calls_served`: every call of a process uses the settings of the first one, returns,
  tells how it ended, and leaves no global state behind.
-/

namespace Launcher

open Log

variable {τ α : Type}

namespace Installation

@[simp] theorem logged_apply (act : Quiet Event (Installation τ) α) (p : Installation τ) :
    logged act p = ((act p).1, (act p).2.1,
      { (act p).2.2 with logging := LogStore.record (act p).2.2.logging (act p).2.1 }) := rfl

@[simp] theorem print_apply (stream : Stream) (text : String) (p : Installation τ) :
    print stream text p = ((), [.print stream (text ++ "\n")], p) := rfl

/-- What came of starting the log that settings name. -/
def logAnswer (p : Installation τ) (partners : Partners τ) (settings : Settings) :
    Except Logging.Refusal Bool :=
  (Logging.initFromSettings partners.backend settings p.logging).1

end Installation

namespace Logging

/-- Starting the log leaves nothing but log records. -/
theorem initFromSettings_records {σ : Type} (backend : Backend σ) (settings : Settings)
    (logging : Logging σ) :
    ∃ records : List Record,
      (initFromSettings backend settings logging).2.1 = records.map Event.log := by
  have hstart : ∀ asked, ∃ records : List Record,
      (start backend asked logging).2.1 = records.map Event.log := by
    intro asked
    unfold start
    split
    · exact ⟨[], rfl⟩
    · split
      · exact ⟨[], rfl⟩
      · exact ⟨[_], rfl⟩
  have hinit : ∀ level dir, ∃ records : List Record,
      (init backend level dir logging).2.1 = records.map Event.log := by
    intro level dir
    unfold init
    split
    · exact ⟨[], rfl⟩
    · split
      · exact ⟨[], rfl⟩
      · split
        · exact ⟨[], rfl⟩
        · exact hstart _
  unfold initFromSettings
  cases settings.logDir with
  | none => exact ⟨[], rfl⟩
  | some dir =>
    obtain ⟨records, hrecords⟩ := hinit settings.logLevel dir
    refine ⟨records, ?_⟩
    cases h : (init backend settings.logLevel dir logging).1 <;> simp [h, hrecords]

end Logging

namespace HashLink

/-- Loading the VM library leaves nothing but log records, and fails in one way only. -/
theorem load_spec (loader : Loader) (name : String) (stackTop hotReload : Bool) :
    ∃ records : List Record, (load loader name stackTop hotReload).2 = records.map Event.log ∧
      ∀ failure, (load loader name stackTop hotReload).1 = .error failure →
        ∃ reason, failure = .runtimeUnavailable reason := by
  unfold load
  split
  · exact ⟨[], rfl, fun failure h => ⟨_, (Except.error.inj h).symm⟩⟩
  · split
    · exact ⟨[], rfl, fun failure h => ⟨_, (Except.error.inj h).symm⟩⟩
    · exact ⟨[_], rfl, nofun⟩

end HashLink

namespace Event

theorem panics_records (records : List Record) : panics (records.map Event.log) = [] := by
  simp [panics, panic?]

theorem ownOutput_records (records : List Record) : ownOutput (records.map Event.log) = [] := by
  simp [ownOutput, own, output, isNote]

/-- What is printed, put on one stream; everything else stays. -/
def redirect (stream : Stream) : Event → Event
  | .print _ text => .print stream text
  | e => e

end Event

namespace HostEntry

/-! ## The log -/

/-- The words before the reason for which the log was not started. -/
def disabled : String := "hlboot: file logging disabled: "

/-- What is told about the log: why it was not started. -/
def logNotice : Except Logging.Refusal Bool → String
  | .ok _ => ""
  | .error refusal => disabled ++ refusal.message ++ "\n"

/-- Where what is told about the log is printed. -/
def logEvents : Except Logging.Refusal Bool → List Event
  | .ok _ => []
  | .error refusal => [.print .output (disabled ++ refusal.message ++ "\n")]

/-- Starting the log changes the log and nothing else, and is told about if it was refused. Where it
is told makes no other difference. -/
theorem announceLogging_on (partners : Installation.Partners τ) (settings : Settings)
    (p : Installation τ) :
    ∃ (records : List Record) (logging : Logging LogStore), ∀ stream,
      Installation.announceLogging partners stream settings p =
        ((), records.map Event.log ++
          (logEvents (p.logAnswer partners settings)).map (Event.redirect stream),
          { p with logging }) := by
  obtain ⟨records, hrecords⟩ :=
    Logging.initFromSettings_records partners.backend settings p.logging
  refine ⟨records, (Installation.announceLogging partners .output settings p).2.2.logging,
    fun stream => ?_⟩
  unfold Installation.announceLogging Installation.logAnswer
  rw [Quiet.bind_apply, Quiet.bind_apply, Installation.logged_apply, Quiet.within_apply, hrecords]
  cases (Logging.initFromSettings partners.backend settings p.logging).1 with
  | ok => simp [logEvents]
  | error refusal => simp [logEvents, disabled, Event.redirect]

theorem announceLogging_apply (partners : Installation.Partners τ) (settings : Settings)
    (p : Installation τ) :
    ∃ (records : List Record) (logging : Logging LogStore),
      Installation.announceLogging partners .output settings p =
        ((), records.map Event.log ++ logEvents (p.logAnswer partners settings),
          { p with logging }) := by
  obtain ⟨records, logging, hlog⟩ := announceLogging_on partners settings p
  refine ⟨records, logging, ?_⟩
  rw [hlog .output]
  cases p.logAnswer partners settings <;> rfl

/-! ## One launch -/

/-- What a launch that finds an installation leaves, from loading the VM library on: it changes the
seam only, the panic that begins in it is the one that it ends with, it tells people its result, and
if there was no global state it is not refused one and leaves none. -/
structure Boots (p : Installation τ) (o : Outcome Event (Installation τ) (Except Failure Unit)) :
    Prop where
  state : o.state = { p with seam := o.state.seam }
  panics : Event.panics o.trace = o.ending.panic?.toList
  output : Event.ownOutput o.trace =
    match o.ending with
    | .returned result => Text.Utf8.encode (Launch.report result)
    | .panicked _ => []
  prints : ∀ text, .print .output text ∈ o.trace →
    ∃ reason, text = (Failure.runtimeUnavailable reason).message ++ "\n"
  vacant : p.seam.beyond.active = false → o.state.seam.beyond.active = false
  accepted : p.seam.beyond.active = false →
    ∀ reason, .call (.globalInit (.error reason)) ∉ o.trace

/-- A launch over a library that was loaded. -/
theorem launch_boots (partners : Installation.Partners τ)
    (haside : ∀ s, (partners.lastWord s).2.2.active = s.active) (settings : Settings)
    (runtime : HashLink.Runtime) (options : HostOptions) (p : Installation τ) :
    Boots p (Installation.launch partners settings runtime options p) := by
  have hresolver : (Installation.launchOf partners p.files settings runtime).resolver.Aside :=
    Resolver.aside_ofLoader _ _ haside
  have hvacant := (Installation.launchOf partners p.files settings runtime).run_vacant partners.api
    runtime options ⟨p.seam, ()⟩ hresolver
  have hpanics := (Installation.launchOf partners p.files settings runtime).run_panics options
    ⟨p.seam, ()⟩
  have houtput := (Installation.launchOf partners p.files settings runtime).run_output partners.api
    runtime options ⟨p.seam, ()⟩ (Resolver.answersNoFault_ofLoader _ _ _) fun _ _ => rfl
  have hprint := ((Installation.launchOf partners p.files settings runtime).run_trail options
    (.bare ⟨p.seam, ()⟩)).not_print
  -- within the process the launch has the same events and the same ending
  unfold Installation.launch
  simp only [Act.within_apply, List.map_id]
  exact {
    state := rfl
    panics := hpanics
    output := houtput
    prints := fun text hmem => nomatch hprint _ hmem
    vacant := fun h => (hvacant h).1
    accepted := fun h => (hvacant h).2 }

/-- Log records before it make no difference. -/
theorem Boots.logged {p : Installation τ}
    {o : Outcome Event (Installation τ) (Except Failure Unit)} (h : Boots p o)
    (records : List Record) :
    Boots p ⟨o.ending, records.map Event.log ++ o.trace, o.state⟩ where
  state := h.state
  panics := by
    rw [Event.panics_append, Event.panics_records]
    exact h.panics
  output := by
    rw [Event.ownOutput_append, Event.ownOutput_records]
    exact h.output
  prints text hmem := by
    simp only [List.mem_append, List.mem_map] at hmem
    obtain ⟨_, _, ⟨⟩⟩ | hmem := hmem
    exact h.prints text hmem
  vacant := h.vacant
  accepted hvacant reason hmem := by
    simp only [List.mem_append, List.mem_map] at hmem
    obtain ⟨_, _, ⟨⟩⟩ | hmem := hmem
    exact h.accepted hvacant reason hmem

/-- What is told when the VM library could not be loaded. -/
theorem boots_unavailable (p : Installation τ) (reason : String) :
    Boots p ⟨.returned (.error (.runtimeUnavailable reason)),
      [.print .output ((Failure.runtimeUnavailable reason).message ++ "\n")], p⟩ where
  state := rfl
  panics := rfl
  output := by
    simp only [Event.ownOutput_print, Event.ownOutput_nil, List.append_nil]
    rfl
  prints text hmem := by
    cases List.mem_singleton.1 hmem
    exact ⟨reason, rfl⟩
  vacant h := h
  accepted _ _ hmem := nomatch List.mem_singleton.1 hmem

/-- Loading the VM library and, if that succeeds, launching with it. -/
theorem loadAndLaunch_boots (partners : Installation.Partners τ)
    (haside : ∀ s, (partners.lastWord s).2.2.active = s.active) (settings : Settings)
    (options : HostOptions) (p : Installation τ) :
    Boots p (loadAndLaunch partners settings options p) := by
  obtain ⟨records, hrecords, hfails⟩ :=
    HashLink.load_spec (partners.loader p.files) settings.runtime true settings.hotReload
  cases h : (HashLink.load (partners.loader p.files) settings.runtime true settings.hotReload).1 with
  | error failure =>
    obtain ⟨reason, rfl⟩ := hfails failure h
    have hboots := (boots_unavailable p reason).logged (startRecord options :: records)
    simpa [loadAndLaunch, Installation.loadRuntime, h, hrecords] using hboots
  | ok runtime =>
    have hboots := (launch_boots partners haside settings runtime options p).logged
      (startRecord options :: records)
    simpa [loadAndLaunch, Installation.loadRuntime, h, hrecords] using hboots

/-! ## One call -/

/-- The events with which a call ends. -/
def closing : Ending (Except Failure Unit) → List Event
  | .returned (.ok ()) => []
  | .returned (.error failure) => [.log (failureRecord failure)]
  | .panicked _ => [.print .output (panicNotice ++ "\n")]

/-- What is told about a launch: its result, or that it panicked. -/
def launchNotice : Ending (Except Failure Unit) → String
  | .returned result => Launch.report result
  | .panicked _ => panicNotice ++ "\n"

/-- The settings that a call uses, by those that were resolved before and the environment. -/
def settingsOf (p : Installation τ) : Settings :=
  p.settings.getD (Settings.ofEnvironment p.environment)

/-- The installation once its settings are resolved and the log has been asked for. -/
def ready (partners : Installation.Partners τ) (settings : Settings) (p : Installation τ) :
    Installation τ :=
  (Installation.announceLogging partners .output settings { p with settings := some settings }).2.2

theorem resolveSettings_apply (p : Installation τ) :
    resolveSettings p = (settingsOf p, [], { p with settings := some (settingsOf p) }) := by
  unfold resolveSettings settingsOf
  obtain ⟨environment, logging, settings, seam⟩ := p
  cases settings <;> rfl

/-- A call from its beginning to its end: the log is asked for, the launch is made whatever came of
that, and the call goes on however the launch ended. -/
theorem enter_apply (partners : Installation.Partners τ) (options : HostOptions)
    (p : Installation τ) {boot : Outcome Event (Installation τ) (Except Failure Unit)}
    (hboot : loadAndLaunch partners (settingsOf p) options (ready partners (settingsOf p) p) =
      boot) :
    ∃ records : List Record, enter partners options p = ((),
      records.map Event.log ++ logEvents (p.logAnswer partners (settingsOf p)) ++
        (boot.trace ++ closing boot.ending),
      { boot.state with
        logging := LogStore.record boot.state.logging (boot.trace ++ closing boot.ending) }) := by
  obtain ⟨records, logging, hlog⟩ :=
    announceLogging_apply partners (settingsOf p) { p with settings := some (settingsOf p) }
  refine ⟨records, ?_⟩
  rw [ready, hlog] at hboot
  unfold enter
  rw [Quiet.bind_apply, resolveSettings_apply, Quiet.bind_apply, hlog, Installation.logged_apply,
    Quiet.bind_apply, Act.caught_apply, hboot]
  -- the ending is a value by now, so that a panic is just one more case
  obtain ⟨(failure | _) | _, trace, state⟩ := boot
  · simp [closing, Installation.logAnswer]
  · simp [closing, Installation.logAnswer]
  · simp [closing, Installation.logAnswer]

/-- The launch finds everything but the log as the call found it, whatever came of the log. -/
theorem ready_eq (partners : Installation.Partners τ) (settings : Settings)
    (p : Installation τ) : ready partners settings p =
      { p with settings := some settings, logging := (ready partners settings p).logging } := by
  obtain ⟨records, logging, hlog⟩ :=
    announceLogging_apply partners settings { p with settings := some settings }
  rw [ready, hlog]

/-- Texts that end a line end one together. -/
theorem join_line {texts : List String} (hne : texts ≠ [])
    (h : ∀ text ∈ texts, ∃ line, text = line ++ "\n") :
    ∃ line, String.join texts = line ++ "\n" := by
  induction texts with
  | nil => exact absurd rfl hne
  | cons text rest ih =>
    obtain ⟨hfirst, hrest⟩ := List.forall_mem_cons.1 h
    cases rest with
    | nil => simpa using hfirst
    | cons next others =>
      obtain ⟨line, hline⟩ := ih (List.cons_ne_nil _ _) hrest
      exact ⟨text ++ line, by rw [String.join_cons, hline, String.append_assoc]⟩

/-- Whatever is told about a launch that did not succeed ends a line. -/
theorem launchNotice_line {ending : Ending (Except Failure Unit)}
    (h : ending ≠ .returned (.ok ())) :
    ∃ line, launchNotice ending = line ++ "\n" := by
  rcases ending with (failure | _) | p
  · cases failure with
    | uncaught record =>
      refine join_line (List.cons_ne_nil _ _) fun text htext => ?_
      rcases List.mem_cons.1 htext with rfl | htext
      · exact ⟨_, rfl⟩
      · obtain ⟨site, -, rfl⟩ := List.mem_map.1 htext
        exact ⟨_, rfl⟩
    | _ => exact ⟨_, rfl⟩
  · exact absurd rfl h
  · exact ⟨_, rfl⟩

/-! ## The calls of a process -/

/-- What a call of the initializer finds that the process itself does not keep, and what the host
hands over. The last word of an extension does not reach the flag, which is the launcher's own. -/
structure Turn (τ : Type) where
  environment : Environment
  store : LogStore
  library : τ
  partners : Installation.Partners τ
  options : HostOptions
  aside : ∀ s, (partners.lastWord s).2.2.active = s.active

namespace Turn

/-- The installation that a call finds, by the one that the call before has left. -/
def find (turn : Turn τ) (p : Installation τ) : Installation τ where
  environment := turn.environment
  logging := { p.logging with store := turn.store }
  settings := p.settings
  seam := { p.seam with beyond := { p.seam.beyond with library := turn.library } }

/-- The installation of a process before its first call. -/
def fresh (turn : Turn τ) : Installation τ where
  environment := turn.environment
  logging := ⟨none, turn.store⟩
  settings := none
  seam := .fresh (.fresh turn.library)

end Turn

/-- A call of the initializer, with the installation that it finds. -/
structure Call (τ : Type) where
  turn : Turn τ
  found : Installation τ

namespace Call

/-- The events of a call. -/
def trace (call : Call τ) : List Event :=
  (enter call.turn.partners call.turn.options call.found).2.1

/-- The installation that a call leaves. -/
def left (call : Call τ) : Installation τ :=
  (enter call.turn.partners call.turn.options call.found).2.2

/-- What came of starting the log in a call that uses some settings. -/
def logAnswer (call : Call τ) (settings : Settings) : Except Logging.Refusal Bool :=
  call.found.logAnswer call.turn.partners settings

/-- The installation that the launch of a call finds. -/
def ready (call : Call τ) (settings : Settings) : Installation τ :=
  HostEntry.ready call.turn.partners settings call.found

/-- The launch of a call that uses some settings. -/
def boot (call : Call τ) (settings : Settings) :
    Outcome Event (Installation τ) (Except Failure Unit) :=
  loadAndLaunch call.turn.partners settings call.turn.options (call.ready settings)

end Call

/-- The calls of a process, each of which finds what the one before has left. -/
def calls (p : Installation τ) : List (Turn τ) → List (Call τ)
  | [] => []
  | turn :: rest => ⟨turn, turn.find p⟩ :: calls (Call.left ⟨turn, turn.find p⟩) rest

/-- A call that uses some settings, as the host and its user see it. -/
structure Served (settings : Settings) (call : Call τ) : Prop where
  /-- The log that the settings name is asked for, and then the launch is made. Whatever came of the
  log and however the launch ended, the call goes on to its end. -/
  returns : ∃ records : List Record, call.trace =
    records.map Event.log ++ logEvents (call.logAnswer settings) ++
      ((call.boot settings).trace ++ closing (call.boot settings).ending)
  /-- The launch finds everything but the log as the call did. -/
  boots : call.ready settings =
    { call.found with settings := some settings, logging := (call.ready settings).logging }
  /-- The panic that begins in a call, if there is one, ends the launch and gets no further. -/
  panics : Event.panics call.trace = (call.boot settings).ending.panic?.toList
  /-- The next call uses the same settings. -/
  remembers : call.left.settings = some settings
  /-- No global state is left. -/
  vacant : call.left.seam.beyond.active = false
  /-- Nor was one in the way. -/
  accepted : ∀ reason, .call (.globalInit (.error reason)) ∉ call.trace
  /-- The launcher tells why the log was not started, and how the launch ended. -/
  output : Event.ownOutput call.trace =
    Text.Utf8.encode (logNotice (call.logAnswer settings)) ++
      Text.Utf8.encode (launchNotice (call.boot settings).ending)
  /-- After a success it has told nothing else. -/
  silent : (call.boot settings).ending = .returned (.ok ()) →
    Event.ownOutput call.trace = Text.Utf8.encode (logNotice (call.logAnswer settings))
  /-- Otherwise it has told at least a line. -/
  told : (call.boot settings).ending ≠ .returned (.ok ()) → ∃ line, Event.ownOutput call.trace =
    Text.Utf8.encode (logNotice (call.logAnswer settings)) ++ Text.Utf8.encode (line ++ "\n")
  /-- People are told that the log is disabled just if it could not be started. -/
  warned : (∃ text, .print .output (disabled ++ text) ∈ call.trace) ↔
    ∃ refusal, call.logAnswer settings = .error refusal

theorem ownOutput_logEvents (answer : Except Logging.Refusal Bool) :
    Event.ownOutput (logEvents answer) = Text.Utf8.encode (logNotice answer) := by
  cases answer with
  | ok => rfl
  | error refusal => simp [logEvents, logNotice]

theorem mem_logEvents {answer : Except Logging.Refusal Bool} {e : Event}
    (h : e ∈ logEvents answer) : ∃ refusal, answer = .error refusal ∧
      e = .print .output (disabled ++ refusal.message ++ "\n") := by
  cases answer with
  | ok => cases h
  | error refusal => exact ⟨refusal, rfl, List.mem_singleton.1 h⟩

theorem mem_closing {ending : Ending (Except Failure Unit)} {e : Event} (h : e ∈ closing ending) :
    (∃ r, e = .log r) ∨ e = .print .output (panicNotice ++ "\n") := by
  rcases ending with (failure | _) | p
  · exact .inl ⟨_, List.mem_singleton.1 h⟩
  · cases h
  · exact .inr (List.mem_singleton.1 h)

/-- A line about the log is none about the VM library. -/
theorem disabled_ne_unavailable (text reason : String) :
    disabled ++ text ≠ (Failure.runtimeUnavailable reason).message ++ "\n" := by
  have hmessage : (Failure.runtimeUnavailable reason).message ++ "\n" =
      "VM runtime unavailable: " ++ (reason ++ "\n") := String.append_assoc
  rw [hmessage]
  intro h
  have hchars := congrArg String.toList h
  simp [disabled] at hchars

/-- Nor is it the notice of a panic. -/
theorem disabled_ne_panicNotice (text : String) : disabled ++ text ≠ panicNotice ++ "\n" := by
  intro h
  have hchars := congrArg String.toList h
  simp [disabled, panicNotice] at hchars

namespace Call

variable {call : Call τ} {settings : Settings}

/-- A call that uses some settings, from its beginning to its end. -/
theorem course (hsettings : settingsOf call.found = settings) :
    (∃ records : List Record, call.trace =
      records.map Event.log ++ logEvents (call.logAnswer settings) ++
        ((call.boot settings).trace ++ closing (call.boot settings).ending)) ∧
      call.left = { (call.boot settings).state with
        logging := LogStore.record (call.boot settings).state.logging
          ((call.boot settings).trace ++ closing (call.boot settings).ending) } := by
  subst hsettings
  have hboot : loadAndLaunch call.turn.partners (settingsOf call.found) call.turn.options
      (HostEntry.ready call.turn.partners (settingsOf call.found) call.found) =
        call.boot (settingsOf call.found) := rfl
  obtain ⟨records, henter⟩ := enter_apply call.turn.partners call.turn.options call.found hboot
  constructor
  · exact ⟨records, by rw [trace, henter]; rfl⟩
  · rw [left, henter]

/-- Whatever happens in a call is logged, told about the log, part of the launch or the notice of
its panic. -/
theorem mem_trace (hsettings : settingsOf call.found = settings) {e : Event}
    (h : e ∈ call.trace) : (∃ r, e = .log r) ∨ e ∈ logEvents (call.logAnswer settings) ∨
      e ∈ (call.boot settings).trace ∨ e = .print .output (panicNotice ++ "\n") := by
  obtain ⟨⟨records, htrace⟩, -⟩ := course hsettings
  rw [htrace] at h
  rcases List.mem_append.1 h with h | h <;> rcases List.mem_append.1 h with h | h
  · obtain ⟨r, -, rfl⟩ := List.mem_map.1 h
    exact .inl ⟨r, rfl⟩
  · exact .inr (.inl h)
  · exact .inr (.inr (.inl h))
  · exact (mem_closing h).imp_right fun hnotice => .inr (.inr hnotice)

theorem boots (call : Call τ) (settings : Settings) :
    Boots (call.ready settings) (call.boot settings) :=
  loadAndLaunch_boots call.turn.partners call.turn.aside settings call.turn.options _

/-- The launcher tells about the log, and then about the launch. -/
theorem output (hsettings : settingsOf call.found = settings) : Event.ownOutput call.trace =
    Text.Utf8.encode (logNotice (call.logAnswer settings)) ++
      Text.Utf8.encode (launchNotice (call.boot settings).ending) := by
  obtain ⟨⟨records, htrace⟩, -⟩ := course hsettings
  rw [htrace]
  simp only [Event.ownOutput_append, Event.ownOutput_records, ownOutput_logEvents,
    (call.boots settings).output, List.nil_append]
  rcases (call.boot settings).ending with (failure | _) | p <;> simp [closing, launchNotice]

/-- No panic begins but in the launch. -/
theorem panics (hsettings : settingsOf call.found = settings) :
    Event.panics call.trace = (call.boot settings).ending.panic?.toList := by
  obtain ⟨⟨records, htrace⟩, -⟩ := course hsettings
  have hlog : Event.panics (logEvents (call.logAnswer settings)) = [] := by
    cases call.logAnswer settings <;> rfl
  have hclosing : Event.panics (closing (call.boot settings).ending) = [] := by
    rcases (call.boot settings).ending with (_ | _) | _ <;> rfl
  rw [htrace]
  simp [Event.panics_records, hlog, hclosing, (call.boots settings).panics]

/-- People are told that the log is disabled just if it could not be started. -/
theorem warned (hsettings : settingsOf call.found = settings) :
    (∃ text, .print .output (disabled ++ text) ∈ call.trace) ↔
      ∃ refusal, call.logAnswer settings = .error refusal := by
  constructor
  · rintro ⟨text, hmem⟩
    rcases mem_trace hsettings hmem with ⟨r, ⟨⟩⟩ | hlog | hlaunch | hnotice
    · obtain ⟨refusal, hrefused, -⟩ := mem_logEvents hlog
      exact ⟨refusal, hrefused⟩
    · obtain ⟨reason, htext⟩ := (call.boots settings).prints _ hlaunch
      exact absurd htext (disabled_ne_unavailable text reason)
    · exact absurd (Event.print.inj hnotice).2 (disabled_ne_panicNotice text)
  · rintro ⟨refusal, hrefused⟩
    obtain ⟨⟨records, htrace⟩, -⟩ := course hsettings
    refine ⟨refusal.message ++ "\n", ?_⟩
    rw [htrace, hrefused, ← String.append_assoc]
    exact List.mem_append_left _ (List.mem_append_right _ List.mem_cons_self)

/-- A call that finds no global state is served with the settings that it finds. -/
theorem served (hsettings : settingsOf call.found = settings)
    (hvacant : call.found.seam.beyond.active = false) : Served settings call := by
  obtain ⟨hreturns, hleft⟩ := course hsettings
  have hready : call.ready settings = _ := ready_eq call.turn.partners settings call.found
  have hboots := call.boots settings
  have hfree : (call.ready settings).seam.beyond.active = false := by
    rw [hready]
    exact hvacant
  constructor
  case returns => exact hreturns
  case boots => exact hready
  case panics => exact panics hsettings
  case remembers => rw [hleft, hboots.state, hready]
  -- a launch that finds no global state leaves none, and the log does not touch it
  case vacant =>
    rw [hleft]
    exact hboots.vacant hfree
  case accepted =>
    intro reason hmem
    rcases mem_trace hsettings hmem with ⟨r, ⟨⟩⟩ | hlog | hlaunch | ⟨⟨⟩⟩
    · obtain ⟨refusal, -, ⟨⟩⟩ := mem_logEvents hlog
    · exact hboots.accepted hfree reason hlaunch
  case output => exact output hsettings
  case silent =>
    intro hok
    rw [output hsettings, hok]
    exact List.append_nil _
  case told =>
    intro hfails
    obtain ⟨line, hline⟩ := launchNotice_line hfails
    exact ⟨line, by rw [output hsettings, hline]⟩
  case warned => exact warned hsettings

end Call

/-- Once the settings are resolved, every call is served with them, and finds no global state. -/
theorem calls_served_with {settings : Settings} (turns : List (Turn τ)) {p : Installation τ}
    (hsettings : p.settings = some settings) (hvacant : p.seam.beyond.active = false) :
    ∀ call ∈ calls p turns, Served settings call := by
  induction turns generalizing p with
  | nil => exact List.forall_mem_nil _
  | cons turn rest ih =>
    have hfound : settingsOf (turn.find p) = settings := by
      simp [settingsOf, Turn.find, hsettings]
    have hserved : Served settings ⟨turn, turn.find p⟩ := Call.served hfound hvacant
    -- what a call remembers and does not leave behind is what the next one asks for
    exact List.forall_mem_cons.2 ⟨hserved, ih hserved.remembers hserved.vacant⟩

theorem turn_calls (turns : List (Turn τ)) (p : Installation τ) :
    (calls p turns).map Call.turn = turns := by
  induction turns generalizing p with
  | nil => rfl
  | cons turn rest ih => exact congrArg (turn :: ·) (ih _)

/-- However often the initializer is called in a process, and whatever changes around the process in
between, every call returns, uses the settings of the environment at the first one, tells how it
ended, and finds and leaves no global state of the VM library. A panic is told like a failure; by the
types of `Vm` none begins while state is set up or released. -/
theorem calls_served (first : Turn τ) (rest : List (Turn τ)) :
    (calls first.fresh (first :: rest)).map Call.turn = first :: rest ∧
      ∀ call ∈ calls first.fresh (first :: rest),
        Served (Settings.ofEnvironment first.environment) call := by
  refine ⟨turn_calls _ _, ?_⟩
  have hserved :
      Served (Settings.ofEnvironment first.environment) ⟨first, first.find first.fresh⟩ :=
    Call.served rfl rfl
  exact List.forall_mem_cons.2
    ⟨hserved, calls_served_with rest hserved.remembers hserved.vacant⟩

/-- A call among some files in the root directory, with a VM library and an extension that do what
they are asked. -/
def rehearsalTurn (environment : Environment) (files : List (String × Content)) :
    Turn Rehearsal.ScriptedLibrary where
  environment := environment
  store := ⟨⟨[], files.map fun file => ([Text.Utf8.encode file.1], .file file.2)⟩, false⟩
  library := .fresh (.fresh none) ⟨[], [], [], []⟩
  partners := ⟨Rehearsal.ScriptedLibrary.api, Rehearsal.unload, .ofFiles, LogStore.backend⟩
  options := .null
  aside s := by
    simp only [Rehearsal.unload]
    split <;> rfl

/-- A call that names its libraries by paths, where there is no image. -/
def rehearsalFirst : Turn Rehearsal.ScriptedLibrary :=
  rehearsalTurn
    [("HLBOOT_RUNTIME", Text.Utf8.encode "/libhl.so"),
      ("HLBOOT_EXTENSION", Text.Utf8.encode "/hlgodot.hdll")]
    [("libhl.so", .library (Rehearsal.exporting HashLink.requiredExports))]

/-- A call that names nothing, where everything is in place. -/
def rehearsalSecond : Turn Rehearsal.ScriptedLibrary :=
  rehearsalTurn []
    [("libhl.so", .library (Rehearsal.exporting HashLink.requiredExports)),
      ("hlgodot.hdll", .library Rehearsal.extensionObject), ("main.hl", .octets [])]

/-- The second call succeeds with the settings of the first one, which failed. -/
theorem calls_served_rehearsal :
    (∀ call ∈ calls rehearsalFirst.fresh [rehearsalFirst, rehearsalSecond],
      Served (Settings.ofEnvironment rehearsalFirst.environment) call) ∧
    (calls rehearsalFirst.fresh [rehearsalFirst, rehearsalSecond]).map
        (fun call => (call.boot (Settings.ofEnvironment rehearsalFirst.environment)).ending) =
      [.returned (.error (.imageNotFound (Path.ofString "main.hl") (.system .noEntry))),
        .returned (.ok ())] :=
  ⟨(calls_served rehearsalFirst [rehearsalSecond]).2, by decide +kernel⟩

end HostEntry

end Launcher
