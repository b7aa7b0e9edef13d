import Launcher.Proofs.Seam.Own
import Launcher.Session

/-!
# What the operations of a session leave

For every operation of a session: its own events, its answer and the numbers it used up, as a
function of the answers that the VM gave. Nothing else is known about the VM.

- `Loading`, `Allocation`: what the VM was asked for, and answered, while an image was loaded and
  while a module was built.
- `startEvents` … `freeEvents`: the events.
- `own_start` … `own_free`: that these are the events.
-/

namespace Launcher

/-- What came of loading an image. -/
inductive Loading
  /-- The image could not be read; nothing was parsed. -/
  | unread (failure : Failure)
  /-- Reading the image panicked; nothing was parsed. -/
  | broken (panic : Panic)
  /-- The image was read and parsed, with an answer. -/
  | parsed (image : Image) (answer : Ending (Except String CodeId))

/-- What came of asking for a module. -/
inductive Allocation
  /-- A module was alive; the VM was not asked. -/
  | refused
  | answered (answer : Ending (Option ModuleId))

namespace Session

open Log

variable {σ : Type}

/-! ## The global state -/

/-- The events of creating the global state. -/
def startEvents (answer : Except String Unit) : List Event :=
  .call (.globalInit answer) ::
    match answer with
    | .ok () => [.log (.info .globalInit .context .ok [])]
    | .error reason =>
      [.log (.error .globalInit .context
        [.errorCode (Failure.runtimeUnavailable reason).code, .detail "error" reason])]

/-- The answer of creating the global state. -/
def startAnswer : Except String Unit → Except Failure Session
  | .ok () => .ok ⟨false⟩
  | .error reason => .error (.runtimeUnavailable reason)

theorem own_start (vm : Vm σ) (s : Seam σ) :
    Event.own (start vm s).2.1 = startEvents (vm.globalInit s.beyond).1 := by
  unfold start startEvents
  cases h : (vm.globalInit s.beyond).1 <;> simp [h]

theorem start_value (vm : Vm σ) (s : Seam σ) :
    (start vm s).1 = startAnswer (vm.globalInit s.beyond).1 := by
  unfold start startAnswer
  cases h : (vm.globalInit s.beyond).1 <;> simp [h]

/-- The events of releasing the global state. -/
def finishEvents : List Event :=
  [.call .globalTeardown, .log (.info .globalTeardown .context .ok [])]

theorem own_finish (vm : Vm σ) (s : Seam σ) : Event.own (finish vm s).2.1 = finishEvents := by
  simp [finish, finishEvents]

/-! ## Programs -/

/-- What loading an image comes to. -/
def loading (vm : Vm σ) (opening : Opening) (path : Path) (s : Seam σ) : Loading :=
  match Image.read opening path with
  | .returned (.ok image) => .parsed image (Seam.parse vm image s).ending
  | .returned (.error failure) => .unread failure
  | .panicked p => .broken p

/-- The events of loading an image. -/
def loadEvents (path : Path) (loading : Loading) : List Event :=
  .log (.info .imageLoad .image .start [.detail "path" path.display]) ::
    match loading with
    | .unread failure => [.log (loadErrorRecord failure)]
    | .broken p => [.panic p]
    | .parsed image answer =>
      .call (.parse image.bytes answer) ::
        match answer with
        | .returned (.ok _) =>
          [.log (.info .imageLoad .image .ok
            [.duration, .detail "bytes" (toString image.bytes.length)])]
        | .returned (.error reason) => [.log (loadErrorRecord (.imageMalformed path reason))]
        | .panicked p => [.panic p]

/-- The answer of loading an image. -/
def loadAnswer (path : Path) : Loading → Ending (Except Failure ParsedCode)
  | .unread failure => .returned (.error failure)
  | .broken p => .panicked p
  | .parsed _ (.returned (.ok id)) => .returned (.ok ⟨id, false⟩)
  | .parsed _ (.returned (.error reason)) => .returned (.error (.imageMalformed path reason))
  | .parsed _ (.panicked p) => .panicked p

/-- Parsing an image that has been read. -/
theorem parse_spec (vm : Vm σ) (path : Path) (image : Image) (s : Seam σ) :
    Event.own (parse vm path image s).trace =
      (loadEvents path (.parsed image (Seam.parse vm image s).ending)).tail ∧
    (parse vm path image s).ending = loadAnswer path (.parsed image (Seam.parse vm image s).ending) ∧
    (parse vm path image s).state.numbers = (Seam.parse vm image s).state.numbers := by
  unfold parse
  have hown := Seam.own_parse vm image s
  rcases h : (Seam.parse vm image s).ending with (reason | id) | p
  · rw [Act.bind_returned _ h]
    simp [hown, h, loadEvents, loadAnswer, Ending.panicEvents]
  · rw [Act.bind_returned _ h]
    simp [hown, h, loadEvents, loadAnswer, Ending.panicEvents]
  · rw [Act.bind_panicked _ h]
    simp [hown, h, loadEvents, loadAnswer, Ending.panicEvents]

theorem own_load (vm : Vm σ) (opening : Opening) (path : Path) (s : Seam σ) :
    Event.own (load vm opening path s).trace = loadEvents path (loading vm opening path s) := by
  unfold load loading
  rcases h : Image.read opening path with (failure | image) | p
  · simp [loadEvents]
  · simp [parse_spec, loadEvents]
  · simp [loadEvents]

theorem load_ending (vm : Vm σ) (opening : Opening) (path : Path) (s : Seam σ) :
    (load vm opening path s).ending = loadAnswer path (loading vm opening path s) := by
  unfold load loading
  rcases h : Image.read opening path with (failure | image) | p
  · simp [loadAnswer]
  · simp [parse_spec]
  · simp [loadAnswer]

/-- A program that was loaded was parsed, and has its bodies. -/
theorem parsed_of_loadAnswer {path : Path} {loading : Loading} {code : ParsedCode}
    (h : loadAnswer path loading = .returned (.ok code)) :
    (∃ image, loading = .parsed image (.returned (.ok code.id))) ∧ code.compacted = false := by
  cases loading with
  | unread => cases h
  | broken => cases h
  | parsed image answer =>
    rcases answer with (_ | id) | _ <;> cases h
    exact ⟨⟨image, rfl⟩, rfl⟩

/-- A program that was loaded has the next number, and no number is used up without one. -/
theorem numbers_load (vm : Vm σ) (opening : Opening) (path : Path) (s : Seam σ) :
    ((∀ code, loadAnswer path (loading vm opening path s) ≠ .returned (.ok code)) ∧
      (load vm opening path s).state.numbers = s.numbers) ∨
    ∃ image, loading vm opening path s = .parsed image (.returned (.ok ⟨s.codes⟩)) ∧
      (load vm opening path s).state.numbers = (s.codes + 1, s.modules) := by
  unfold load loading
  rcases h : Image.read opening path with (failure | image) | p
  · exact .inl ⟨(fun code hc => nomatch hc), by simp⟩
  · have hnumbers := (parse_spec vm path image s).2.2
    rcases Seam.numbers_parse vm image s with ⟨p, hp, hn⟩ | ⟨reason, hr, hn⟩ | ⟨hok, hn⟩
    · exact .inl ⟨fun code hc => by simp [hp, loadAnswer] at hc, by simp [hnumbers, hn]⟩
    · exact .inl ⟨fun code hc => by simp [hr, loadAnswer] at hc, by simp [hnumbers, hn]⟩
    · exact .inr ⟨image, by simp [hok], by simp [hnumbers, hn]⟩
  · exact .inl ⟨(fun code hc => nomatch hc), by simp⟩

/-- The events of dropping the bodies of a program. -/
def compactEvents (code : ParsedCode) : List Event :=
  if code.compacted then [] else [.call (.compact code.id)]

@[simp] theorem own_compact (vm : Vm σ) (code : ParsedCode) (s : Seam σ) :
    Event.own (compact vm code s).2.1 = compactEvents code := by
  unfold compact compactEvents
  by_cases h : code.compacted = true <;> simp [h]

@[simp] theorem compact_value (vm : Vm σ) (code : ParsedCode) (s : Seam σ) :
    (compact vm code s).1 = { code with compacted := true } := by
  unfold compact
  by_cases h : code.compacted = true
  · obtain ⟨id, compacted⟩ := code
    obtain rfl : compacted = true := h
    simp
  · simp [h]

@[simp] theorem numbers_compact (vm : Vm σ) (code : ParsedCode) (s : Seam σ) :
    (compact vm code s).2.2.numbers = s.numbers := by
  unfold compact
  by_cases h : code.compacted = true <;> simp [h]

/-- The events of giving a program up. -/
def dropEvents (code : ParsedCode) : List Event :=
  compactEvents code ++ [.call (.release code.id), .log (.debug .codeRelease .context .ok [])]

@[simp] theorem own_dropCode (vm : Vm σ) (code : ParsedCode) (s : Seam σ) :
    Event.own (dropCode vm code s).2.1 = dropEvents code := by
  simp [dropCode, dropEvents]

@[simp] theorem numbers_dropCode (vm : Vm σ) (code : ParsedCode) (s : Seam σ) :
    (dropCode vm code s).2.2.numbers = s.numbers := by
  simp [dropCode]

/-! ## Modules -/

/-- What asking for a module comes to. -/
def allocation (vm : Vm σ) (session : Session) (code : ParsedCode) (s : Seam σ) : Allocation :=
  if session.moduleLive then .refused else .answered (Seam.allocate vm code.id s).ending

/-- The events of building a module. Without a module the program is given up. -/
def allocateEvents (code : ParsedCode) : Allocation → List Event
  | .refused => dropEvents code
  | .answered answer =>
    .call (.allocate code.id answer) ::
      match answer with
      | .returned (some _) => [.log (.debug .moduleAlloc .context .ok [])]
      | .returned none =>
        .log (.error .moduleAlloc .context [.errorCode (Failure.allocation noModule).code]) ::
          dropEvents code
      | .panicked p => .panic p :: dropEvents code

/-- The answer of building a module. -/
def allocateAnswer (session : Session) (code : ParsedCode) :
    Allocation → Ending (Except Failure (LoadedModule × Session))
  | .refused => .returned (.error (.allocation moduleAlive))
  | .answered (.returned (some id)) =>
    .returned (.ok (⟨some id, code⟩, { session with moduleLive := true }))
  | .answered (.returned none) => .returned (.error (.allocation noModule))
  | .answered (.panicked p) => .panicked p

theorem allocate_spec (vm : Vm σ) (session : Session) (code : ParsedCode) (s : Seam σ) :
    Event.own (allocate vm session code s).trace =
      allocateEvents code (allocation vm session code s) ∧
    (allocate vm session code s).ending =
      allocateAnswer session code (allocation vm session code s) ∧
    (allocate vm session code s).state.numbers =
      if session.moduleLive then s.numbers else (Seam.allocate vm code.id s).state.numbers := by
  unfold allocate allocation
  by_cases hlive : session.moduleLive = true
  · simp [hlive, allocateEvents, allocateAnswer]
  rw [if_neg hlive, if_neg hlive, if_neg hlive]
  have hown := Seam.own_allocate vm code.id s
  rcases h : (Seam.allocate vm code.id s).ending with (_ | id) | p
  · have hguarded := Act.onPanic_returned (dropCode vm code) h
    rw [Act.bind_returned _ (hguarded ▸ h), hguarded]
    simp [hown, h, allocateEvents, allocateAnswer, Ending.panicEvents]
  · have hguarded := Act.onPanic_returned (dropCode vm code) h
    rw [Act.bind_returned _ (hguarded ▸ h), hguarded]
    simp [hown, h, allocateEvents, allocateAnswer, Ending.panicEvents]
  · have hguarded := Act.onPanic_panicked (dropCode vm code) h
    rw [Act.bind_panicked (p := p) _ (by rw [hguarded]), hguarded]
    simp [hown, h, allocateEvents, allocateAnswer, Ending.panicEvents]

/-- A module that was built has the next number, and no number is used up without one. -/
theorem numbers_allocate (vm : Vm σ) (session : Session) (code : ParsedCode) (s : Seam σ) :
    ((∀ built, allocateAnswer session code (allocation vm session code s) ≠ .returned (.ok built)) ∧
      (allocate vm session code s).state.numbers = s.numbers) ∨
    (session.moduleLive = false ∧
      allocation vm session code s = .answered (.returned (some ⟨s.modules⟩)) ∧
      (allocate vm session code s).state.numbers = (s.codes, s.modules + 1)) := by
  have hnumbers := (allocate_spec vm session code s).2.2
  unfold allocation
  by_cases hlive : session.moduleLive = true
  · exact .inl ⟨fun built hb => by simp [hlive, allocateAnswer] at hb, by simp [hnumbers, hlive]⟩
  rw [if_neg hlive] at hnumbers
  rw [if_neg hlive]
  rcases Seam.numbers_allocate vm code.id s with ⟨p, hp, hn⟩ | ⟨ho, hn⟩ | ⟨hok, hn⟩
  · exact .inl ⟨fun built hb => by simp [hp, allocateAnswer] at hb, hnumbers.trans hn⟩
  · exact .inl ⟨fun built hb => by simp [ho, allocateAnswer] at hb, hnumbers.trans hn⟩
  · exact .inr ⟨by simpa using hlive, by rw [hok], hnumbers.trans hn⟩

/-- The events of linking a module. -/
def linkEvents (module : ModuleId) (options : HostOptions) (answer : Ending (Except String Unit)) :
    List Event :=
  .call (.link module options answer) ::
    match answer with
    | .returned (.ok ()) => [.log (.info .moduleInit .context .ok [])]
    | .returned (.error reason) =>
      [.log (.error .moduleInit .context
        [.errorCode (Failure.link reason).code, .detail "error" reason])]
    | .panicked p => [.panic p]

/-- The answer of linking a module, or of looking its entrypoint up. -/
def linkAnswer {α : Type} : Ending (Except String α) → Ending (Except Failure α)
  | .returned (.ok a) => .returned (.ok a)
  | .returned (.error reason) => .returned (.error (.link reason))
  | .panicked p => .panicked p

theorem link_spec (vm : Vm σ) (m : ModuleId) (code : ParsedCode) (options : HostOptions)
    (s : Seam σ) :
    Event.own (link vm ⟨some m, code⟩ options s).trace =
      linkEvents m options (Seam.link vm m options s).ending ∧
    (link vm ⟨some m, code⟩ options s).ending = linkAnswer (Seam.link vm m options s).ending ∧
    (link vm ⟨some m, code⟩ options s).state.numbers = s.numbers := by
  simp only [link]
  have hown := Seam.own_link vm m options s
  rcases h : (Seam.link vm m options s).ending with (reason | _) | p
  · rw [Act.bind_returned _ h]
    simp [hown, h, linkEvents, linkAnswer, Ending.panicEvents]
  · rw [Act.bind_returned _ h]
    simp [hown, h, linkEvents, linkAnswer, Ending.panicEvents]
  · rw [Act.bind_panicked _ h]
    simp [hown, h, linkEvents, linkAnswer, Ending.panicEvents]

@[simp] theorem own_compactModule (vm : Vm σ) (module : LoadedModule) (s : Seam σ) :
    Event.own (compactModule vm module s).2.1 = compactEvents module.code := by
  simp [compactModule]

@[simp] theorem compactModule_value (vm : Vm σ) (module : LoadedModule) (s : Seam σ) :
    (compactModule vm module s).1 = { module with code.compacted := true } := by
  simp [compactModule]

@[simp] theorem numbers_compactModule (vm : Vm σ) (module : LoadedModule) (s : Seam σ) :
    (compactModule vm module s).2.2.numbers = s.numbers := by
  simp [compactModule]

/-- The events of looking the entrypoint of a module up. -/
def entryEvents (module : ModuleId) (answer : Ending (Except String Closure)) : List Event :=
  .call (.entryClosure module answer) :: answer.panicEvents

theorem entryClosure_spec (vm : Vm σ) (m : ModuleId) (code : ParsedCode) (s : Seam σ) :
    Event.own (entryClosure vm ⟨some m, code⟩ s).trace =
      entryEvents m (Seam.entryClosure vm m s).ending ∧
    (entryClosure vm ⟨some m, code⟩ s).ending = linkAnswer (Seam.entryClosure vm m s).ending ∧
    (entryClosure vm ⟨some m, code⟩ s).state.numbers = s.numbers := by
  simp only [entryClosure]
  have hown := Seam.own_entryClosure vm m s
  rcases h : (Seam.entryClosure vm m s).ending with (reason | closure) | p
  · rw [Act.bind_returned _ h]
    simp [hown, h, entryEvents, linkAnswer, Ending.panicEvents]
  · rw [Act.bind_returned _ h]
    simp [hown, h, entryEvents, linkAnswer, Ending.panicEvents]
  · rw [Act.bind_panicked _ h]
    simp [hown, h, entryEvents, linkAnswer, Ending.panicEvents]

/-- The events of freeing a module, unless that has been done, and of giving its program up. -/
def freeEvents (module : LoadedModule) : List Event :=
  match module.id with
  | none => dropEvents module.code
  | some m =>
    .call (.freeModule m) :: .log (.debug .moduleFree .context .ok []) :: dropEvents module.code

theorem own_free (vm : Vm σ) (session : Session) (module : LoadedModule) (s : Seam σ) :
    Event.own (free vm session module s).2.1 = freeEvents module := by
  unfold free freeEvents
  cases module.id <;> simp

theorem free_value (vm : Vm σ) (session : Session) (m : ModuleId) (code : ParsedCode) (s : Seam σ) :
    (free vm session ⟨some m, code⟩ s).1 = { session with moduleLive := false } := by
  simp [free]

theorem numbers_free (vm : Vm σ) (session : Session) (module : LoadedModule) (s : Seam σ) :
    (free vm session module s).2.2.numbers = s.numbers := by
  unfold free
  cases module.id <;> simp

/-! ## The calls among the events -/

@[simp] theorem calls_startEvents (answer : Except String Unit) :
    Event.calls (startEvents answer) = [.globalInit answer] := by
  cases answer <;> rfl

@[simp] theorem calls_finishEvents : Event.calls finishEvents = [.globalTeardown] := rfl

@[simp] theorem calls_loadEvents_unread (path : Path) (failure : Failure) :
    Event.calls (loadEvents path (.unread failure)) = [] := rfl

@[simp] theorem calls_loadEvents_broken (path : Path) (p : Panic) :
    Event.calls (loadEvents path (.broken p)) = [] := rfl

@[simp] theorem calls_loadEvents_parsed (path : Path) (image : Image)
    (answer : Ending (Except String CodeId)) :
    Event.calls (loadEvents path (.parsed image answer)) = [.parse image.bytes answer] := by
  rcases answer with (_ | _) | _ <;> rfl

/-- Without a program, nothing was parsed, or not with success. -/
theorem calls_loadEvents_failed {path : Path} {loading : Loading}
    (h : ∀ code, loadAnswer path loading ≠ .returned (.ok code)) :
    Event.calls (loadEvents path loading) = [] ∨
    ∃ image answer, Event.calls (loadEvents path loading) = [.parse image answer] ∧
      ∀ c, answer ≠ .returned (.ok c) := by
  cases loading with
  | unread failure => exact .inl rfl
  | broken p => exact .inl rfl
  | parsed image answer =>
    refine .inr ⟨image.bytes, answer, calls_loadEvents_parsed .., fun c hc => ?_⟩
    rw [hc] at h
    exact h ⟨c, false⟩ rfl

@[simp] theorem calls_compactEvents (code : ParsedCode) :
    Event.calls (compactEvents code) = if code.compacted then [] else [.compact code.id] := by
  unfold compactEvents
  split <;> rfl

@[simp] theorem calls_dropEvents (code : ParsedCode) :
    Event.calls (dropEvents code) = Event.calls (compactEvents code) ++ [.release code.id] := by
  simp [dropEvents, Event.calls, Event.call?]

@[simp] theorem calls_allocateEvents_built (code : ParsedCode) (m : ModuleId) :
    Event.calls (allocateEvents code (.answered (.returned (some m)))) =
      [.allocate code.id (.returned (some m))] := rfl

/-- Without a module, the program is given up. -/
theorem calls_allocateEvents_failed (code : ParsedCode) {answer : Ending (Option ModuleId)}
    (h : ∀ m, answer ≠ .returned (some m)) :
    Event.calls (allocateEvents code (.answered answer)) =
      .allocate code.id answer :: Event.calls (dropEvents code) := by
  rcases answer with (_ | m) | p
  · rfl
  · exact absurd rfl (h m)
  · rfl

@[simp] theorem calls_linkEvents (m : ModuleId) (options : HostOptions)
    (answer : Ending (Except String Unit)) :
    Event.calls (linkEvents m options answer) = [.link m options answer] := by
  rcases answer with (_ | _) | _ <;> rfl

@[simp] theorem calls_entryEvents (m : ModuleId) (answer : Ending (Except String Closure)) :
    Event.calls (entryEvents m answer) = [.entryClosure m answer] := by
  rcases answer with (_ | _) | _ <;> rfl

@[simp] theorem calls_freeEvents (m : ModuleId) (code : ParsedCode) :
    Event.calls (freeEvents ⟨some m, code⟩) = .freeModule m :: Event.calls (dropEvents code) := rfl

end Session

end Launcher
