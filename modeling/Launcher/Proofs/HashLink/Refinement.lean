import Launcher.Proofs.Launch.Release
import Launcher.Proofs.Launch.Trail

/-!
# What a launch asks of the VM library

Behind the seam every call becomes a fixed row of calls into the VM library, and nulls, zeros and
flags become answers. So what a launch asks of the library is what it asks of the VM, translated
call by call; the order in which the library is asked to release things is that of the launch.

- `Event.served`: the calls across the seam, each with the calls into the library that it led to.
- `HashLink.Renders`: the translation of one call with its answer.
- `HashLink.run_refines`: every call of a launch is so translated, and what a null, a zero or a flag
  means for the launch.
-/

namespace Launcher

namespace Event

/-- The calls across the seam, each with the calls into the VM library that were noted while it was
answered. -/
def served : List Event → List (Vm.Call × List HashLink.Call)
  | [] => []
  | .call c :: rest => (c, libraryCalls (rest.takeWhile isNote)) :: served rest
  | _ :: rest => served rest

/-- The calls into the VM library with which the VM answered, in order. -/
def answering (trace : List Event) : List HashLink.Call := (served trace).flatMap Prod.snd

/-- Every call across the seam is served once, in its turn. -/
theorem served_calls (trace : List Event) : (served trace).map Prod.fst = calls trace := by
  induction trace with
  | nil => rfl
  | cons e rest ih => cases e <;> first | exact ih | exact congrArg (_ :: ·) ih

theorem served_cons {e : Event} (h : e.call? = none) (rest : List Event) :
    served (e :: rest) = served rest := by
  cases e <;> first | rfl | cases h

theorem served_append_of_not_call {t : List Event} (h : ∀ e ∈ t, e.call? = none)
    (u : List Event) : served (t ++ u) = served u := by
  induction t with
  | nil => rfl
  | cons e t ih =>
    obtain ⟨he, ht⟩ := List.forall_mem_cons.1 h
    rw [List.cons_append, served_cons he, ih ht]

end Event

/-- A resolver that asks nothing of the VM library itself. -/
structure Resolver.Aloof {τ : Type} (resolver : Resolver τ) : Prop where
  resolve : ∀ library symbol s call, .library call ∉ (resolver.resolve library symbol s).trace
  dropHook : ∀ hook s call, .library call ∉ (resolver.dropHook hook s).2.1

namespace HashLink

variable {τ ω α : Type}

/-- The hot reload argument of linking. -/
def Runtime.hot (runtime : Runtime) : Int32 := if runtime.hotReload then 1 else 0

/-- What a call across the seam, with its answer, comes to in calls into the VM library, with
theirs. -/
inductive Renders (runtime : Runtime) : Vm.Call → List Call → Prop
  | created : Renders runtime (.globalInit (.ok ())) [.globalInit, .registerThread runtime.stackTop]
  | exists : Renders runtime (.globalInit (.error alreadyActive)) []
  | released : Renders runtime .globalTeardown [.globalFree]
  | parsed (image : List UInt8) (id : CodeId) :
    Renders runtime (.parse image (.returned (.ok id)))
      [.codeRead image (Int32.ofNat image.length) (some id)]
  | refused (image : List UInt8) (reason : String) :
    Renders runtime (.parse image (.returned (.error reason)))
      [.codeRead image (Int32.ofNat image.length) none]
  | compacted (code : CodeId) : Renders runtime (.compact code) [.codeFree code]
  | freed (code : CodeId) : Renders runtime (.release code) [.free code]
  | allocated (code : CodeId) (made : Option ModuleId) :
    Renders runtime (.allocate code (.returned made)) [.moduleAlloc code made]
  | linked (m : ModuleId) (options : HostOptions) (status : Int32) (h : status ≠ 0) :
    Renders runtime (.link m options (.returned (.ok ()))) [.moduleInit m runtime.hot status]
  | notLinked (m : ModuleId) (options : HostOptions) :
    Renders runtime (.link m options (.returned (.error unlinked))) [.moduleInit m runtime.hot 0]
  | moduleFreed (m : ModuleId) : Renders runtime (.freeModule m) [.moduleFree m]
  | lookedUp (m : ModuleId) (answer : Ending (Except String Closure)) :
    Renders runtime (.entryClosure m answer) []
  | called (closure : Closure) :
    Renders runtime (.call closure (.returned none)) [.dynCallSafe (.entry closure) 0]
  | faulted (closure : Closure) (fault : Fault) (flag : UInt32) (h : flag ≠ 0) :
    Renders runtime (.call closure (.returned (some fault))) [.dynCallSafe (.entry closure) flag]
  | setUp (hook : Hook) (options : HostOptions) :
    Renders runtime (.callSetup hook options (.returned none))
      [.dynCallSafe (.setup hook options boundType) 0]
  | setUpFaulted (hook : Hook) (options : HostOptions) (fault : Fault) (flag : UInt32)
    (h : flag ≠ 0) :
    Renders runtime (.callSetup hook options (.returned (some fault)))
      [.dynCallSafe (.setup hook options boundType) flag]
  | described (fault : Fault) (text : String) :
    Renders runtime (.describeFault fault (.returned text)) [.toString fault]
  | traced (stack : List String) :
    Renders runtime (.exceptionStack (.returned stack)) [.exceptionStack]
  | broke : Renders runtime (.debugBreak (.returned ())) [.debugBreak]

/-! ## One call -/

/-- The trace of a call across the seam that was answered with a translation of it. -/
def Answers (runtime : Runtime) (t : List Event) : Prop :=
  ∃ (c : Vm.Call) (notes : List Note) (panics : List Panic),
    t = .call c :: (notes.map Event.note ++ panics.map Event.panic) ∧
      Renders runtime c (Event.libraryCalls (notes.map Event.note))

theorem answers_of_ending {runtime : Runtime} {c : Vm.Call} {notes : List Note} (ending : Ending α)
    (h : Renders runtime c (Event.libraryCalls (notes.map Event.note))) :
    Answers runtime (.call c :: (notes.map Event.note ++ ending.panicEvents)) := by
  cases ending with
  | returned => exact ⟨c, notes, [], rfl, h⟩
  | panicked p => exact ⟨c, notes, [p], rfl, h⟩

theorem answers_quiet {runtime : Runtime} {call : Vm.Call} (operation : Quiet Note (State τ) Unit)
    (s : Seam (State τ))
    (h : Renders runtime call (Event.libraryCalls ((operation s.beyond).2.1.map Event.note))) :
    Answers runtime (Seam.crossQuiet operation (fun _ => .call call) s).2.1 := by
  simpa [Seam.crossQuiet, Ending.panicEvents] using answers_of_ending (Ending.returned ()) h

theorem renders_parse (api : Api τ) (runtime : Runtime) {image : List UInt8}
    (h : image.length ≤ Image.maxSize) (id : CodeId) (s : State τ) :
    Renders runtime (.parse image (Seam.numbered id (.returned (parse api image id s).1)))
      (Event.libraryCalls ((parse api image id s).2.1.map Event.note)) := by
  rw [parse, if_neg (Nat.not_lt.2 h)]
  rcases hanswer : api.codeRead image (Int32.ofNat image.length) s.library with
    ⟨header | message, library⟩
  · simp only [hanswer]
    exact .parsed image id
  · simp only [hanswer]
    exact .refused image _

theorem renders_allocate (api : Api τ) (runtime : Runtime) (code : CodeId) (id : ModuleId)
    (s : State τ) :
    Renders runtime (.allocate code (Seam.allotted id (.returned (allocate api code id s).1)))
      (Event.libraryCalls ((allocate api code id s).2.1.map Event.note)) := by
  rw [allocate]
  rcases api.moduleAlloc code s.library with ⟨_ | _, library⟩
  · exact .allocated code none
  · exact .allocated code (some id)

theorem renders_link (api : Api τ) (runtime : Runtime) (module : ModuleId) (options : HostOptions)
    (s : State τ) :
    Renders runtime (.link module options (.returned (link api runtime module options s).1))
      (Event.libraryCalls ((link api runtime module options s).2.1.map Event.note)) := by
  rw [link]
  rcases hanswer : api.moduleInit module runtime.hot s.library with ⟨status, library⟩
  rw [Runtime.hot] at hanswer
  simp only [hanswer]
  by_cases hstatus : status = 0
  · rw [if_pos hstatus, hstatus]
    exact .notLinked module options
  · rw [if_neg hstatus]
    exact .linked module options status hstatus

/-- A guarded call leaves one call of the library and remarks, and any flag means a fault. -/
theorem guarded_calls (api : Api τ) (callee : Callee) (s : State τ) :
    ((guarded api callee s).1 = none ∧
      Event.libraryCalls ((guarded api callee s).2.1.map Event.note) = [.dynCallSafe callee 0]) ∨
    ∃ fault flag, flag ≠ 0 ∧ (guarded api callee s).1 = some fault ∧
      Event.libraryCalls ((guarded api callee s).2.1.map Event.note) =
        [.dynCallSafe callee flag] := by
  have hremarks : ∀ remarks : List Remark,
      Event.libraryCalls ((remarks.map Note.remark).map Event.note) = [] := by
    intro remarks
    induction remarks with
    | nil => rfl
    | cons remark rest ih => exact ih
  rw [guarded]
  rcases api.dynCallSafe callee s.library with ⟨⟨flag, fault⟩, remarks, library⟩
  simp only [List.map_cons, Event.libraryCalls_library, hremarks]
  by_cases hflag : flag = 0
  · rw [if_pos hflag, hflag]
    exact .inl ⟨rfl, rfl⟩
  · rw [if_neg hflag]
    exact .inr ⟨fault, flag, hflag, rfl, rfl⟩

theorem renders_call (api : Api τ) (runtime : Runtime) (closure : Closure) (s : State τ) :
    Renders runtime (.call closure (.returned (guarded api (.entry closure) s).1))
      (Event.libraryCalls ((guarded api (.entry closure) s).2.1.map Event.note)) := by
  rcases guarded_calls api (.entry closure) s with
    ⟨hnone, hcalls⟩ | ⟨fault, flag, hflag, hsome, hcalls⟩
  · rw [hnone, hcalls]
    exact .called closure
  · rw [hsome, hcalls]
    exact .faulted closure fault flag hflag

theorem renders_callSetup (api : Api τ) (runtime : Runtime) (hook : Hook) (options : HostOptions)
    (s : State τ) :
    Renders runtime (.callSetup hook options (.returned (callSetup api hook options s).1))
      (Event.libraryCalls ((callSetup api hook options s).2.1.map Event.note)) := by
  -- the record that comes first is no call
  change Renders runtime
    (.callSetup hook options (.returned (guarded api (.setup hook options boundType) s).1))
    (Event.libraryCalls ((guarded api (.setup hook options boundType) s).2.1.map Event.note))
  rcases guarded_calls api (.setup hook options boundType) s with
    ⟨hnone, hcalls⟩ | ⟨fault, flag, hflag, hsome, hcalls⟩
  · rw [hnone, hcalls]
    exact .setUp hook options
  · rw [hsome, hcalls]
    exact .setUpFaulted hook options fault flag hflag

/-- Looking the entrypoint up asks nothing of the library. -/
theorem entryClosure_calls (module : ModuleId) (s : State τ) :
    Event.libraryCalls ((entryClosure module s).trace.map Event.note) = [] := by
  unfold entryClosure
  split <;> rfl

/-- Any work for the VM is answered with its translation. -/
theorem answers_work (api : Api τ) (runtime : Runtime) (work : Work) (sized : work.Sized)
    (s : Seam (State τ)) : Answers runtime (work.perform (vm api runtime) s).1 := by
  cases work with
  | parse image => exact answers_of_ending _ (renders_parse api runtime sized _ _)
  | compact code => exact answers_quiet (tell _ (api.codeFree code)) s (.compacted code)
  | release code => exact answers_quiet (tell _ (api.free code)) s (.freed code)
  | allocate code => exact answers_of_ending _ (renders_allocate api runtime code _ _)
  | link module options =>
    exact answers_of_ending _ (renders_link api runtime module options s.beyond)
  | freeModule module =>
    exact answers_quiet (tell _ (api.moduleFree module)) s (.moduleFreed module)
  | entryClosure module =>
    have hrenders : Renders runtime
        (.entryClosure module (entryClosure module s.beyond).ending) [] := .lookedUp module _
    rw [← entryClosure_calls module s.beyond] at hrenders
    exact answers_of_ending _ hrenders
  | call closure => exact answers_of_ending _ (renders_call api runtime closure s.beyond)
  | callSetup hook options =>
    exact answers_of_ending _ (renders_callSetup api runtime hook options s.beyond)
  | describeFault fault => exact answers_of_ending _ (.described fault _)
  | exceptionStack => exact answers_of_ending _ (.traced _)
  | debugBreak => exact answers_of_ending _ .broke

/-- The global state is created, with the thread registered, or nothing is asked for. -/
theorem answers_globalInit (api : Api τ) (runtime : Runtime) (s : Seam (State τ)) :
    Answers runtime (Seam.globalInit (vm api runtime) s).2.1 := by
  cases hactive : s.beyond.active with
  | true =>
    refine ⟨.globalInit (.error alreadyActive), [], [], ?_, .exists⟩
    simp [Seam.globalInit, Seam.crossQuiet, vm, globalInit, hactive]
  | false =>
    refine ⟨.globalInit (.ok ()), [.library .globalInit,
      .library (.registerThread runtime.stackTop)], [], ?_, .created⟩
    simp [Seam.globalInit, Seam.crossQuiet, vm, globalInit, tell, hactive]

theorem answers_globalTeardown (api : Api τ) (runtime : Runtime) (s : Seam (State τ)) :
    Answers runtime (Seam.globalTeardown (vm api runtime) s).2.1 :=
  answers_quiet (globalTeardown api) s .released

/-! ## A whole trail -/

/-- A trace all of whose calls across the seam are answered with their translation, and in which
nobody else asks anything of the library, unless the resolver does. -/
structure Translated (runtime : Runtime) (resolver : Resolver (State τ)) (t : List Event) :
    Prop where
  renders : ∀ served ∈ Event.served t, Renders runtime served.1 served.2
  calls : resolver.Aloof → Event.libraryCalls t = Event.answering t

variable {runtime : Runtime} {resolver : Resolver (State τ)} {t u : List Event}

/-- A call before a trace that does not go on with notes of its. -/
theorem Translated.answers (h : Answers runtime t) (hbegin : u.takeWhile Event.isNote = [])
    (hu : Translated runtime resolver u) : Translated runtime resolver (t ++ u) := by
  obtain ⟨c, notes, panics, rfl, hrenders⟩ := h
  -- the notes of a call are those right behind it, up to a panic or the next event
  have hnotes : (notes.map Event.note ++ (panics.map Event.panic ++ u)).takeWhile Event.isNote =
      notes.map Event.note := by
    rw [List.takeWhile_append_of_pos (by simp [Event.isNote])]
    cases panics <;> simp [hbegin, Event.isNote]
  have hrest : Event.served (notes.map Event.note ++ (panics.map Event.panic ++ u)) =
      Event.served u := by
    rw [Event.served_append_of_not_call (by simp [Event.call?]),
      Event.served_append_of_not_call (by simp [Event.call?])]
  have hserved : Event.served (.call c :: (notes.map Event.note ++ panics.map Event.panic) ++ u) =
      (c, Event.libraryCalls (notes.map Event.note)) :: Event.served u := by
    rw [List.cons_append, List.append_assoc, Event.served, hnotes, hrest]
  have hpanics : Event.libraryCalls (panics.map Event.panic) = [] := by
    simp [Event.libraryCalls, Event.libraryCall?]
  constructor
  · rw [hserved]
    exact List.forall_mem_cons.2 ⟨hrenders, hu.renders⟩
  · intro haloof
    rw [Event.answering, hserved, List.flatMap_cons, Event.libraryCalls_append, hu.calls haloof,
      Event.libraryCalls_call, Event.libraryCalls_append, hpanics, List.append_nil]
    rfl

/-- Events without a call, before a trace. -/
theorem Translated.idle (ht : ∀ e ∈ t, e.call? = none)
    (hcalls : resolver.Aloof → Event.libraryCalls t = [])
    (hu : Translated runtime resolver u) : Translated runtime resolver (t ++ u) := by
  have hserved := Event.served_append_of_not_call ht u
  constructor
  · rw [hserved]
    exact hu.renders
  · intro haloof
    rw [Event.libraryCalls_append, hcalls haloof, Event.answering, hserved]
    exact hu.calls haloof

/-- What is asked of the resolver, before a trace. -/
theorem Translated.noted {e : Event} (hcall : e.call? = none) (hlibrary : e.libraryCall? = none)
    {notes : List Note} (ending : Ending α)
    (hnotes : resolver.Aloof → ∀ call, .library call ∉ notes) (hu : Translated runtime resolver u) :
    Translated runtime resolver (e :: (notes.map Event.note ++ ending.panicEvents) ++ u) := by
  refine .idle (List.forall_mem_cons.2 ⟨hcall, fun other hother => ?_⟩) (fun haloof => ?_) hu
  · rcases List.mem_append.1 hother with hother | hother
    · obtain ⟨note, -, rfl⟩ := List.mem_map.1 hother
      rfl
    · cases ending with
      | returned => cases hother
      | panicked p =>
        obtain rfl := List.mem_singleton.1 hother
        rfl
  · have hnone : Event.libraryCalls (notes.map Event.note) = [] :=
      List.eq_nil_iff_forall_not_mem.2 fun call hmem =>
        hnotes haloof call (Event.mem_libraryCalls_notes.1 hmem)
    have hfirst : ∀ rest, Event.libraryCalls (e :: rest) = Event.libraryCalls rest :=
      fun rest => List.filterMap_cons_none hlibrary
    rw [hfirst, Event.libraryCalls_append, hnone, Event.libraryCalls_panicEvents]
    rfl

/-- Every operation at the seam begins with an event of the launcher. -/
theorem begins_crossing {σ : Type} {vm : Vm σ} {resolver : Resolver σ} {s s' : Seam σ}
    (h : Crossing vm resolver s t s') (u : List Event) :
    (t ++ u).takeWhile Event.isNote = [] := by
  cases h with
  | work work => cases work <;> rfl
  | internal e he => cases e <;> first | rfl | cases he
  | _ => rfl

theorem begins_trail {σ : Type} {vm : Vm σ} {resolver : Resolver σ} {s s' : Seam σ}
    (h : Trail vm resolver s t s') : t.takeWhile Event.isNote = [] := by
  cases h with
  | nil => rfl
  | cons hcrossing => exact begins_crossing hcrossing _

/-- One operation at the seam, before whatever follows. -/
theorem Translated.crossing {api : Api τ} {s s' : Seam (State τ)}
    (h : Crossing (vm api runtime) resolver s t s') (hbegin : u.takeWhile Event.isNote = [])
    (hu : Translated runtime resolver u) : Translated runtime resolver (t ++ u) := by
  cases h with
  | globalInit => exact .answers (answers_globalInit api runtime s) hbegin hu
  | globalTeardown => exact .answers (answers_globalTeardown api runtime s) hbegin hu
  | work work sized => exact .answers (answers_work api runtime work sized s) hbegin hu
  | resolve library symbol =>
    exact .noted rfl rfl _ (fun haloof => haloof.resolve library symbol s.beyond) hu
  | dropHook hook =>
    have hnoted : Translated runtime resolver (.dropHook hook :: (_ ++ []) ++ u) :=
      .noted rfl rfl (.returned ()) (fun haloof => haloof.dropHook hook s.beyond) hu
    rwa [List.append_nil] at hnoted
  | internal e he =>
    refine .idle (List.forall_mem_singleton.2 ?_) (fun _ => ?_) hu
    · cases e <;> first | rfl | cases he
    · cases e <;> first | rfl | cases he

/-- A trail is translated call by call. -/
theorem Translated.trail {api : Api τ} {s s' : Seam (State τ)}
    (h : Trail (vm api runtime) resolver s t s') : Translated runtime resolver t := by
  induction h with
  | nil => exact ⟨List.forall_mem_nil _, fun _ => rfl⟩
  | cons hcrossing hrest ih => exact ih.crossing hcrossing (begins_trail hrest)

end HashLink

/-! ## What answers mean for a launch -/

/-- Whether a call asks for something the launch goes on with. The others capture faults and release
things. -/
def Vm.Call.asks : Vm.Call → Bool
  | .globalInit _ | .parse .. | .allocate .. | .link .. | .entryClosure .. | .call ..
  | .callSetup .. => true
  | _ => false

/-- The failure that an answer of the VM means for a launch with an image, if it means one. -/
def Vm.Call.failure? (image : Path) : Vm.Call → Option Failure
  | .globalInit (.error reason) => some (.runtimeUnavailable reason)
  | .parse _ (.returned (.error reason)) => some (.imageMalformed image reason)
  | .allocate _ (.returned none) => some (.allocation Session.noModule)
  | .link _ _ (.returned (.error reason)) | .entryClosure _ (.returned (.error reason)) =>
    some (.link reason)
  | _ => none

namespace Launch

variable {σ ω : Type}

/-- What a step asks the VM for. -/
def Step.asked : Step → Option Vm.Call
  | start answer => some (.globalInit answer)
  | load _ (.parsed image answer) => some (.parse image.bytes answer)
  | allocate code answer => some (.allocate code.id answer)
  | link m options answer => some (.link m options answer)
  | setup hook options guarded => some (.callSetup hook options guarded.called)
  | entry m answer => some (.entryClosure m answer)
  | call closure guarded => some (.call closure guarded.called)
  | _ => none

theorem asks_dropEvents {c : Vm.Call} {code : ParsedCode}
    (h : c ∈ Event.calls (Session.dropEvents code)) : c.asks = false := by
  cases hcompacted : code.compacted <;> simp [hcompacted] at h
  · rcases h with rfl | rfl <;> rfl
  · rw [h]
    rfl

theorem asks_captureCalls {c : Vm.Call} {guarded : Guarded} (h : c ∈ guarded.captureCalls) :
    c.asks = false := by
  cases guarded <;> simp [Guarded.captureCalls] at h
  · rw [h]; rfl
  · rcases h with rfl | rfl <;> rfl
  · rcases h with rfl | rfl | rfl <;> rfl
  · rcases h with rfl | rfl | rfl <;> rfl

theorem asks_releaseEvents {c : Vm.Call} {held : Holdings}
    (h : c ∈ Event.calls held.releaseEvents) : c.asks = false := by
  obtain ⟨session, module, hook⟩ := held
  rw [Holdings.releaseEvents, Event.calls_append, Event.calls_append] at h
  rcases List.mem_append.1 h with h | h
  · rcases List.mem_append.1 h with h | h
    · unfold Holdings.moduleEvents at h
      split at h
      · rename_i module _ _
        obtain ⟨_ | m, code⟩ := module
        · exact asks_dropEvents h
        · rw [Session.calls_freeEvents] at h
          rcases List.mem_cons.1 h with rfl | h
          · rfl
          · exact asks_dropEvents h
      · cases h
    · cases session with
      | none => cases h
      | some _ =>
        rw [List.mem_singleton.1 h]
        rfl
  · cases hook <;> cases h

/-- A step asks the VM for one thing. -/
theorem asked_of_mem {step : Step} {c : Vm.Call} (h : c ∈ step.calls) (hasks : c.asks = true) :
    step.asked = some c := by
  cases step with
  | start answer =>
    rw [List.mem_singleton.1 h]
    rfl
  | load path loading =>
    rcases loading with _ | _ | ⟨image, answer⟩
    · cases h
    · cases h
    · simp [Step.calls] at h
      rw [h]
      rfl
  | allocate code answer =>
    -- what follows a refused allocation is the release of its program, which asks nothing
    have hfirst : ∀ {more : List Vm.Call}, (∀ d ∈ more, d.asks = false) →
        c ∈ .allocate code.id answer :: more → (Step.allocate code answer).asked = some c := by
      intro more hmore hc
      rcases List.mem_cons.1 hc with rfl | hc
      · rfl
      · cases (hmore c hc).symm.trans hasks
    by_cases hbuilt : ∃ m, answer = .returned (some m)
    · obtain ⟨m, rfl⟩ := hbuilt
      exact hfirst (List.forall_mem_nil _) h
    · rw [Step.calls, Session.calls_allocateEvents_failed code fun m hm => hbuilt ⟨m, hm⟩] at h
      exact hfirst (fun d => asks_dropEvents) h
  | link m options answer =>
    rw [List.mem_singleton.1 h]
    rfl
  | compact m code =>
    rw [List.mem_singleton.1 h] at hasks
    cases hasks
  | resolve library symbol answer => cases h
  | setup hook options guarded =>
    rcases List.mem_cons.1 h with rfl | h
    · rfl
    · cases (asks_captureCalls h).symm.trans hasks
  | entry m answer =>
    rw [List.mem_singleton.1 h]
    rfl
  | call closure guarded =>
    rcases List.mem_cons.1 h with rfl | h
    · rfl
    · cases (asks_captureCalls h).symm.trans hasks

/-- What a launch asks the VM for is asked in one of its steps. -/
theorem step_of_asked {steps : List Step} {held : Holdings} {c : Vm.Call}
    (h : c ∈ stepCalls held steps) (hasks : c.asks = true) :
    ∃ step ∈ steps, step.asked = some c := by
  rcases List.mem_append.1 h with h | h
  · obtain ⟨step, hstep, hc⟩ := List.mem_flatMap.1 h
    exact ⟨step, hstep, asked_of_mem hc hasks⟩
  · cases (asks_releaseEvents h).symm.trans hasks

/-- A step whose VM answers so fails accordingly. -/
theorem Step.verdict_of_asked {step : Step} {c : Vm.Call} (hasked : step.asked = some c)
    {image : Path} (himage : ∀ path loading, step = .load path loading → path = image)
    {failure : Failure} (hfailure : c.failure? image = some failure) :
    step.verdict = .returned (.error failure) := by
  cases step with
  | load path loading =>
    rcases loading with _ | _ | ⟨_, (reason | id) | p⟩ <;> cases hasked <;> cases hfailure
    rw [himage path _ rfl]
    rfl
  | start answer =>
    rcases answer with _ | _ <;> cases hasked <;> cases hfailure
    rfl
  | allocate code answer =>
    rcases answer with (_ | _) | _ <;> cases hasked <;> cases hfailure
    rfl
  | link m options answer =>
    rcases answer with (_ | _) | _ <;> cases hasked <;> cases hfailure
    rfl
  | entry m answer =>
    rcases answer with (_ | _) | _ <;> cases hasked <;> cases hfailure
    rfl
  | _ => cases hasked <;> cases hfailure

/-- An answer that is a failure decides the launch. -/
theorem decision_of_asked {l : Launch σ ω} {options : HostOptions} {steps : List Step}
    (h : l.Course options steps) {c : Vm.Call} (hc : c ∈ stepCalls .none steps)
    {failure : Failure} (hfailure : c.failure? l.settings.image = some failure) :
    decision steps = .returned (.error failure) := by
  have hasks : c.asks = true := by
    cases c <;> first | rfl | cases hfailure
  obtain ⟨step, hmem, hasked⟩ := step_of_asked hc hasks
  have hv := step.verdict_of_asked hasked (fun path loading hload => (h.load step hmem _ _ hload).1)
    hfailure
  rw [← hv]
  exact (Course.attempts l h).decision_of_mem hmem fun hs => nomatch hv.symm.trans hs

end Launch

/-- A launch over a loaded VM library. -/
def Launch.over {τ ω : Type} (l : Launch (HashLink.State τ) ω) (api : HashLink.Api τ)
    (runtime : HashLink.Runtime) : Launch (HashLink.State τ) ω :=
  { l with vm := HashLink.vm api runtime }

/-- The fault that escaped from a guarded call. -/
def Vm.Call.fault? : Vm.Call → Option Fault
  | .call _ (.returned fault) | .callSetup _ _ (.returned fault) => fault
  | _ => none

namespace Launch

/-- A step from whose call a fault escaped goes on with capturing it. -/
theorem Step.of_fault {step : Step} {c : Vm.Call} {fault : Fault} (hasked : step.asked = some c)
    (hfault : c.fault? = some fault) :
    ∃ guarded : Guarded, guarded.called = .returned (some fault) ∧
      step.calls = c :: guarded.captureCalls ∧ step.verdict = guarded.answer := by
  cases step with
  | setup hook options guarded =>
    cases hasked
    refine ⟨guarded, ?_, rfl, rfl⟩
    cases hcalled : guarded.called <;> simp_all [Vm.Call.fault?]
  | call closure guarded =>
    cases hasked
    refine ⟨guarded, ?_, rfl, rfl⟩
    cases hcalled : guarded.called <;> simp_all [Vm.Call.fault?]
  | load path loading =>
    rcases loading with _ | _ | _ <;> cases hasked
    cases hfault
  | _ => cases hasked <;> cases hfault

end Launch

/-- After a guarded call from which a fault escaped the launch does not go on. -/
theorem Guarded.not_ok {guarded : Guarded} {fault : Fault}
    (h : guarded.called = .returned (some fault)) : guarded.answer ≠ .returned (.ok ()) := by
  intro hok
  cases guarded with
  | returned => cases h
  | _ => cases hok

namespace Launch

/-- A fault that escaped from a call ends the launch. The call was made once; what follows it is the
capture of the fault, which decides, and the release. -/
theorem calls_of_fault {agenda : List Kind} {steps : List Step} (h : Attempts agenda steps)
    {c : Vm.Call} (hc : c ∈ stepCalls .none steps) (hasks : c.asks = true) {fault : Fault}
    (hfault : c.fault? = some fault) :
    ∃ (before late : List Vm.Call) (guarded : Guarded), guarded.called = .returned (some fault) ∧
      stepCalls .none steps = before ++ c :: (guarded.captureCalls ++ late) ∧
      c ∉ before ∧ c ∉ guarded.captureCalls ++ late ∧ decision steps = guarded.answer := by
  obtain ⟨step, hstep, hasked⟩ := step_of_asked hc hasks
  obtain ⟨guarded, hcalled, hstepCalls, hverdict⟩ := Step.of_fault hasked hfault
  have hfails : ∀ other : Step, other.asked = some c → ¬ other.Succeeds := by
    intro other hother hsucceeds
    obtain ⟨guarded, hcalled, -, hverdict⟩ := Step.of_fault hother hfault
    exact guarded.not_ok hcalled (hverdict.symm.trans hsucceeds)
  have hdecision := h.decision_of_mem hstep (hfails step hasked)
  -- whoever makes the call fails, so the step is the last one and the only one that makes it
  obtain ⟨before, rest, rfl⟩ := List.append_of_mem hstep
  obtain rfl : rest = [] := h.stops rfl (hfails step hasked)
  refine ⟨before.flatMap Step.calls, Event.calls (heldAfter (before ++ [step])).releaseEvents,
    guarded, hcalled, ?_, ?_, ?_, hdecision.trans hverdict⟩
  · simp [stepCalls, hstepCalls, heldAfter]
  · intro hearly
    obtain ⟨other, hother, hcalled⟩ := List.mem_flatMap.1 hearly
    exact hfails other (asked_of_mem hcalled hasks) (h.succeeds rfl other hother)
  · intro hlate
    rcases List.mem_append.1 hlate with hlate | hlate
    · cases (asks_captureCalls hlate).symm.trans hasks
    · cases (asks_releaseEvents hlate).symm.trans hasks

end Launch

namespace HashLink

variable {τ ω : Type}

/-! ## What the library's answers mean -/

section Renders

variable {runtime : Runtime} {c : Vm.Call} {calls : List Call}

theorem Renders.of_nullCode (h : Renders runtime c calls) {image : List UInt8} {size : Int32}
    (hmem : .codeRead image size none ∈ calls) :
    ∃ reason, c = .parse image (.returned (.error reason)) := by
  cases h <;> simp at hmem
  obtain ⟨rfl, rfl⟩ := hmem
  exact ⟨_, rfl⟩

theorem Renders.of_nullModule (h : Renders runtime c calls) {code : CodeId}
    (hmem : .moduleAlloc code none ∈ calls) : c = .allocate code (.returned none) := by
  cases h <;> simp at hmem
  obtain ⟨rfl, rfl⟩ := hmem
  rfl

theorem Renders.of_zeroStatus (h : Renders runtime c calls) {m : ModuleId} {hot : Int32}
    (hmem : .moduleInit m hot 0 ∈ calls) :
    ∃ options, c = .link m options (.returned (.error unlinked)) := by
  cases h <;> simp at hmem
  · rename_i hstatus
    exact absurd hmem.2.2.symm hstatus
  · obtain ⟨rfl, rfl⟩ := hmem
    exact ⟨_, rfl⟩

theorem Renders.of_flag (h : Renders runtime c calls) {callee : Callee} {flag : UInt32}
    (hflag : flag ≠ 0) (hmem : .dynCallSafe callee flag ∈ calls) :
    calls = [.dynCallSafe callee flag] ∧ c.asks = true ∧ ∃ fault, c.fault? = some fault := by
  cases h <;> simp at hmem
  · exact absurd hmem.2 hflag
  · obtain ⟨rfl, rfl⟩ := hmem
    exact ⟨rfl, rfl, _, rfl⟩
  · exact absurd hmem.2 hflag
  · obtain ⟨rfl, rfl⟩ := hmem
    exact ⟨rfl, rfl, _, rfl⟩

end Renders

/-- What a launch asks of the VM library, and what the library's answers mean for it. -/
structure Refines (runtime : Runtime) (l : Launch (State τ) ω)
    (o : Outcome Event (Stage (State τ) ω) (Except Failure Unit)) : Prop
    extends Translated runtime l.resolver o.trace where
  /-- A null program is a malformed image. -/
  nullCode : ∀ image size, .codeRead image size none ∈ Event.answering o.trace →
    ∃ reason, o.ending = .returned (.error (.imageMalformed l.settings.image reason))
  /-- A null module is a failed allocation. -/
  nullModule : ∀ code, .moduleAlloc code none ∈ Event.answering o.trace →
    o.ending = .returned (.error (.allocation Session.noModule))
  /-- A zero status is a failed link. -/
  zeroStatus : ∀ m hot, .moduleInit m hot 0 ∈ Event.answering o.trace →
    o.ending = .returned (.error (.link unlinked))
  /-- A flag that is not zero is a fault: its text and its call sites are asked for next, then the
  debugger is called, and the launch fails with what was captured. -/
  flag : ∀ callee flag, flag ≠ 0 → .dynCallSafe callee flag ∈ Event.answering o.trace →
    ∃ before after fault record, Event.answering o.trace =
        before ++ .dynCallSafe callee flag :: .toString fault :: .exceptionStack :: .debugBreak ::
          after ∧
      o.ending = .returned (.error (.uncaught record))

section Trace

variable {runtime : Runtime} {resolver : Resolver (State τ)} {t : List Event}

/-- A call of the library translates a call across the seam. -/
theorem Translated.exists_call (h : Translated runtime resolver t) {call : Call}
    (hmem : call ∈ Event.answering t) :
    ∃ c calls, c ∈ Event.calls t ∧ call ∈ calls ∧ Renders runtime c calls := by
  obtain ⟨⟨c, calls⟩, hserved, hcall⟩ := List.mem_flatMap.1 hmem
  refine ⟨c, calls, ?_, hcall, h.renders _ hserved⟩
  rw [← Event.served_calls]
  exact List.mem_map_of_mem hserved

/-- A call across the seam is translated. -/
theorem Translated.exists_calls (h : Translated runtime resolver t) {c : Vm.Call}
    (hmem : c ∈ Event.calls t) : ∃ calls, Renders runtime c calls := by
  rw [← Event.served_calls] at hmem
  obtain ⟨⟨c, calls⟩, hserved, rfl⟩ := List.mem_map.1 hmem
  exact ⟨calls, h.renders _ hserved⟩

/-- No fault of a translated launch gets lost while it is captured. -/
theorem Translated.faulted (h : Translated runtime resolver t) {guarded : Guarded} {fault : Fault}
    (hcalled : guarded.called = .returned (some fault))
    (hcalls : ∀ c ∈ guarded.captureCalls, c ∈ Event.calls t) :
    ∃ record, guarded = .faulted fault record := by
  cases guarded with
  | panicked => cases hcalled
  | returned => cases hcalled
  | undescribed _ p =>
    obtain ⟨calls, hrenders⟩ := h.exists_calls (hcalls _ List.mem_cons_self)
    cases hrenders
  | untraced _ message p =>
    obtain ⟨calls, hrenders⟩ := h.exists_calls (hcalls (.exceptionStack (.panicked p)) (by
      simp [Guarded.captureCalls]))
    cases hrenders
  | unbroken _ record p =>
    obtain ⟨calls, hrenders⟩ := h.exists_calls (hcalls (.debugBreak (.panicked p)) (by
      simp [Guarded.captureCalls]))
    cases hrenders
  | faulted _ record =>
    cases hcalled
    exact ⟨record, rfl⟩

/-- The capture of a fault, translated, before whatever follows. -/
theorem Translated.answering_capture (h : Translated runtime resolver t)
    {served : List (Vm.Call × List Call)} (hserved : ∀ pair ∈ served, pair ∈ Event.served t)
    {fault : Fault} {record : FaultRecord} {others : List Vm.Call}
    (hcalls : served.map Prod.fst = (Guarded.faulted fault record).captureCalls ++ others) :
    ∃ after, served.flatMap Prod.snd =
      .toString fault :: .exceptionStack :: .debugBreak :: after := by
  match served, hcalls with
  | (_, described) :: (_, traced) :: (_, broke) :: rest, hcalls =>
    cases hcalls
    cases h.renders _ (hserved _ List.mem_cons_self)
    cases h.renders _ (hserved _ (List.mem_cons_of_mem _ List.mem_cons_self))
    cases h.renders _ (hserved _ (.tail _ (.tail _ List.mem_cons_self)))
    exact ⟨rest.flatMap Prod.snd, rfl⟩

/-- After a flag that is not zero the fault is captured, and the launch fails with it. -/
theorem Translated.flagged (h : Translated runtime resolver t) {agenda : List Launch.Kind}
    {steps : List Launch.Step} (hattempts : Launch.Attempts agenda steps)
    (hcalls : Event.calls t = Launch.stepCalls .none steps) {callee : Callee} {flag : UInt32}
    (hflag : flag ≠ 0) (hmem : .dynCallSafe callee flag ∈ Event.answering t) :
    ∃ before after fault record, Event.answering t =
        before ++ .dynCallSafe callee flag :: .toString fault :: .exceptionStack :: .debugBreak ::
          after ∧
      Launch.decision steps = .returned (.error (.uncaught record)) := by
  obtain ⟨⟨c, calls⟩, hserved, hcall⟩ := List.mem_flatMap.1 hmem
  obtain ⟨rfl, hasks, fault, hfault⟩ := (h.renders _ hserved).of_flag hflag hcall
  have hc : c ∈ Event.calls t := by
    rw [← Event.served_calls]
    exact List.mem_map_of_mem hserved
  rw [hcalls] at hc
  obtain ⟨early, late, guarded, hcalled, hall, hearly, hlate, hdecision⟩ :=
    Launch.calls_of_fault hattempts hc hasks hfault
  rw [← hcalls] at hall
  -- the served calls are cut at the call, so what is served next is the capture of its fault
  obtain ⟨done, next, hsplit⟩ := List.append_of_mem hserved
  have hboth := hall
  rw [← Event.served_calls, hsplit, List.map_append, List.map_cons, eq_comm,
    List.append_cons_inj_of_notMem hearly hlate] at hboth
  obtain ⟨-, -, hnext⟩ := hboth
  obtain ⟨record, rfl⟩ := h.faulted hcalled fun d hd => by
    rw [hall]
    exact List.mem_append_right _ (List.mem_cons_of_mem _ (List.mem_append_left _ hd))
  have hsub : ∀ pair ∈ next, pair ∈ Event.served t := by
    intro pair hpair
    rw [hsplit]
    exact List.mem_append_right _ (List.mem_cons_of_mem _ hpair)
  obtain ⟨after, hafter⟩ := h.answering_capture hsub hnext.symm
  refine ⟨done.flatMap Prod.snd, after, fault, record, ?_, hdecision⟩
  rw [Event.answering, hsplit, List.flatMap_append, List.flatMap_cons, hafter]
  rfl

end Trace

/-- A launch over the library is translated. -/
theorem run_translated (api : Api τ) (runtime : Runtime) (l : Launch (State τ) ω)
    (options : HostOptions) (console : Console (State τ) ω) :
    Translated runtime l.resolver
      ((l.over api runtime).run options (.bare console)).trace :=
  .trail ((l.over api runtime).run_trail options (.bare console))

/-- Whatever the library, the resolver, the files and the diagnostics stream do, a launch over the
library asks of it what the translation of its calls says, call by call and in their order, and the
library's nulls, zeros and flags become its failures. -/
theorem run_refines (api : Api τ) (runtime : Runtime) (l : Launch (State τ) ω)
    (options : HostOptions) (console : Console (State τ) ω) :
    Refines runtime l ((l.over api runtime).run options (.bare console)) := by
  obtain ⟨steps, hcourse, hending, hown, -⟩ := (l.over api runtime).run_course options console
  have htranslated := run_translated api runtime l options console
  have hcalls := Launch.calls_of_runEvents hown
  -- a null, a zero or a flag fails the step that asked, and so the launch
  have hdecides : ∀ {c failure},
      c ∈ Event.calls ((l.over api runtime).run options (.bare console)).trace →
      c.failure? l.settings.image = some failure →
      ((l.over api runtime).run options (.bare console)).ending = .returned (.error failure) := by
    intro c failure hc hfailure
    rw [hcalls] at hc
    exact hending.trans (Launch.decision_of_asked hcourse hc hfailure)
  constructor
  case toTranslated => exact htranslated
  case nullCode =>
    intro image size hmem
    obtain ⟨c, calls, hc, hcall, hrenders⟩ := htranslated.exists_call hmem
    obtain ⟨reason, rfl⟩ := hrenders.of_nullCode hcall
    exact ⟨reason, hdecides hc rfl⟩
  case nullModule =>
    intro code hmem
    obtain ⟨c, calls, hc, hcall, hrenders⟩ := htranslated.exists_call hmem
    obtain rfl := hrenders.of_nullModule hcall
    exact hdecides hc rfl
  case zeroStatus =>
    intro m hot hmem
    obtain ⟨c, calls, hc, hcall, hrenders⟩ := htranslated.exists_call hmem
    obtain ⟨linked, rfl⟩ := hrenders.of_zeroStatus hcall
    exact hdecides hc rfl
  case flag =>
    intro callee flag hflag hmem
    rw [hending]
    exact htranslated.flagged (Launch.Course.attempts _ hcourse) hcalls hflag hmem

end HashLink

end Launcher
