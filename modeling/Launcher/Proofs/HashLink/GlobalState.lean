import Launcher.HashLink
import Launcher.Proofs.Seam.Own
import Launcher.Session
import Mathlib.Data.List.Chain

/-!
# One global state in a process

Whether the global state of the VM library exists is kept once for the whole process, and every
runtime that was loaded consults it; that only its creator releases it is up to the sessions. The
law needs both, so it is stated of a process in which sessions are opened, put to work and given up
in any order and over any runtimes.

- `Process`, `Process.Op`, `Process.run`: the open sessions of a process, and what happens to them.
- `Bracketed`: calls among which creating and releasing take turns, with the others in between.
- `Process.Settled`: what every operation preserves. There are as many open sessions as global
  states, none or one.
- `Process.run_exclusive`: what that comes to for whoever opens a session or gives one up.
-/

namespace Launcher

/-- The calls into the VM library, in order. -/
def Event.libraryCalls (trace : List Event) : List HashLink.Call := trace.filterMap libraryCall?

namespace Event

@[simp] theorem libraryCalls_nil : libraryCalls [] = [] := rfl

@[simp] theorem libraryCalls_append (t u : List Event) :
    libraryCalls (t ++ u) = libraryCalls t ++ libraryCalls u :=
  List.filterMap_append ..

@[simp] theorem libraryCalls_call (c : Vm.Call) (t : List Event) :
    libraryCalls (.call c :: t) = libraryCalls t := rfl

@[simp] theorem libraryCalls_log (r : Log.Record) (t : List Event) :
    libraryCalls (.log r :: t) = libraryCalls t := rfl

@[simp] theorem libraryCalls_library (c : HashLink.Call) (t : List Event) :
    libraryCalls (.note (.library c) :: t) = c :: libraryCalls t := rfl

theorem mem_libraryCalls_notes {c : HashLink.Call} {notes : List Note} :
    c ∈ libraryCalls (notes.map Event.note) ↔ Note.library c ∈ notes := by
  induction notes with
  | nil => simp
  | cons note notes ih => cases note <;> simp [← ih, libraryCalls, libraryCall?]

@[simp] theorem libraryCalls_panicEvents {α : Type} (ending : Ending α) :
    libraryCalls ending.panicEvents = [] := by
  cases ending <;> rfl

end Event

namespace HashLink

variable {σ τ α : Type}

/-! ## Work -/

/-- What an open session has its VM do. -/
inductive Work
  | parse (image : Image)
  | compact (code : CodeId)
  | release (code : CodeId)
  | allocate (code : CodeId)
  | link (module : ModuleId) (options : HostOptions)
  | freeModule (module : ModuleId)
  | entryClosure (module : ModuleId)
  | call (closure : Closure)
  | callSetup (hook : Hook) (options : HostOptions)
  | describeFault (fault : Fault)
  | exceptionStack
  | debugBreak

/-- The trace that an act leaves, and the state. -/
def footprint (act : Act Event (Seam σ) α) (s : Seam σ) : List Event × Seam σ :=
  ((act s).trace, (act s).state)

/-- Has the VM do it. -/
def Work.perform (vm : Vm σ) : Work → Seam σ → List Event × Seam σ
  | .parse image => footprint (Seam.parse vm image)
  | .compact code => footprint (Seam.compact vm code)
  | .release code => footprint (Seam.release vm code)
  | .allocate code => footprint (Seam.allocate vm code)
  | .link module options => footprint (Seam.link vm module options)
  | .freeModule module => footprint (Seam.freeModule vm module)
  | .entryClosure module => footprint (Seam.entryClosure vm module)
  | .call closure => footprint (Seam.call vm closure)
  | .callSetup hook options => footprint (Seam.callSetup vm hook options)
  | .describeFault fault => footprint (Seam.describeFault vm fault)
  | .exceptionStack => footprint (Seam.exceptionStack vm)
  | .debugBreak => footprint (Seam.debugBreak vm)

/-- What a call has to do with the global state. -/
inductive Call.Concern
  | creation
  | registration
  | release
  | work
  deriving DecidableEq

/-- What a call is about. -/
def Call.concern : Call → Concern
  | .globalInit => .creation
  | .registerThread _ => .registration
  | .globalFree => .release
  | _ => .work

/-- Calls among which the creation of the global state and its release take turns, beginning with a
creation; the thread is registered right after a creation, and whatever else is called is called
between a creation and the release. Whether the global state exists is `active`. -/
inductive Bracketed : (active : Bool) → List Call → Prop
  | none : Bracketed false []
  | created {calls : List Call} (stackTop : Bool) : Bracketed false calls →
      Bracketed true (calls ++ [.globalInit, .registerThread stackTop])
  | worked {calls : List Call} (call : Call) : call.concern = .work → Bracketed true calls →
      Bracketed true (calls ++ [call])
  | released {calls : List Call} : Bracketed true calls → Bracketed false (calls ++ [.globalFree])

/-- Any amount of work may be done while the global state exists. -/
theorem Bracketed.append_work {calls : List Call} (h : Bracketed true calls) {more : List Call}
    (hmore : ∀ c ∈ more, c.concern = .work) : Bracketed true (calls ++ more) := by
  induction more generalizing calls with
  | nil => simpa using h
  | cons c more ih =>
    have hc := h.worked c (hmore c (by simp))
    simpa using ih hc fun d hd => hmore d (by simp [hd])

/-- The creations and the releases among the calls, a creation as `true`. -/
def turns (calls : List Call) : List Bool :=
  calls.filterMap fun c =>
    match c.concern with
    | .creation => some true
    | .release => some false
    | .registration | .work => none

@[simp] theorem turns_append (calls more : List Call) :
    turns (calls ++ more) = turns calls ++ turns more :=
  List.filterMap_append ..

/-- Turns that alternate and begin with a creation, so that the last one tells whether the global
state exists. -/
structure Alternates (active : Bool) (turns : List Bool) : Prop where
  chain : turns.IsChain (· ≠ ·)
  first : turns.head? ≠ some false
  last : turns.getLast?.getD false = active

/-- Whose turn it is depends on whether the global state exists. -/
theorem Alternates.next {active : Bool} {turns : List Bool} (h : Alternates active turns) :
    Alternates (!active) (turns ++ [!active]) := by
  rcases turns.eq_nil_or_concat with rfl | ⟨before, last, rfl⟩
  · obtain rfl : false = active := h.last
    exact ⟨List.isChain_singleton _, by simp, rfl⟩
  · obtain rfl : last = active := by simpa using h.last
    refine ⟨List.isChain_append.mpr ⟨h.chain, List.isChain_singleton _, by simp⟩, ?_, by simp⟩
    simpa using h.first

/-- Creation and release alternate among bracketed calls. -/
theorem Bracketed.alternates {active : Bool} {calls : List Call} (h : Bracketed active calls) :
    Alternates active (turns calls) := by
  induction h with
  | none => exact ⟨List.isChain_nil, by simp [turns], rfl⟩
  | created stackTop _ ih =>
    rw [turns_append]
    exact ih.next
  | worked call hcall _ ih =>
    have hnone : turns [call] = [] := by simp [turns, hcall]
    rwa [turns_append, hnone, List.append_nil]
  | released _ ih =>
    rw [turns_append]
    exact ih.next

/-! ## What work leaves alone -/

/-- An operation that leaves the global state where it is. -/
def Aside (operation : Act Note (State τ) α) : Prop :=
  ∀ s, (operation s).state.active = s.active ∧
    ∀ c, Note.library c ∈ (operation s).trace → c.concern = .work

theorem aside_tell {call : Call} (h : call.concern = .work) (f : τ → τ) :
    Aside (Act.ofQuiet (tell call f)) := by
  intro s
  exact ⟨rfl, by simp [tell, h]⟩

theorem aside_parse (api : Api τ) (image : List UInt8) (id : CodeId) :
    Aside (Act.ofQuiet (parse api image id)) := by
  intro s
  rw [Act.ofQuiet_apply, parse]
  split
  · exact ⟨rfl, by simp⟩
  · simp only
    split <;> exact ⟨rfl, by simp [Call.concern]⟩

theorem aside_allocate (api : Api τ) (code : CodeId) (id : ModuleId) :
    Aside (Act.ofQuiet (allocate api code id)) := by
  intro s
  exact ⟨rfl, by simp [allocate, Call.concern]⟩

theorem aside_link (api : Api τ) (runtime : Runtime) (module : ModuleId) (options : HostOptions) :
    Aside (Act.ofQuiet (link api runtime module options)) := by
  intro s
  exact ⟨rfl, by simp [link, Call.concern]⟩

theorem aside_entryClosure (module : ModuleId) :
    Aside (entryClosure module : Act Note (State τ) (Except String Closure)) := by
  intro s
  rw [entryClosure]
  split <;> exact ⟨rfl, by simp⟩

theorem aside_guarded (api : Api τ) (callee : Callee) :
    Aside (Act.ofQuiet (guarded api callee)) := by
  intro s
  exact ⟨rfl, by simp [guarded, Call.concern]⟩

theorem aside_callSetup (api : Api τ) (hook : Hook) (options : HostOptions) :
    Aside (Act.ofQuiet (callSetup api hook options)) := by
  intro s
  obtain ⟨hactive, hcalls⟩ := aside_guarded api (.setup hook options boundType) s
  exact ⟨hactive, by simpa [callSetup] using hcalls⟩

theorem aside_describeFault (api : Api τ) (fault : Fault) :
    Aside (Act.ofQuiet (describeFault api fault)) := by
  intro s
  exact ⟨rfl, by simp [describeFault, Call.concern]⟩

theorem aside_exceptionStack (api : Api τ) : Aside (Act.ofQuiet (exceptionStack api)) := by
  intro s
  exact ⟨rfl, by simp [exceptionStack, Call.concern]⟩

/-- An operation of the seam that leaves the global state where it is. -/
structure Spares (s : Seam (State τ)) (done : List Event × Seam (State τ)) : Prop where
  active : done.2.beyond.active = s.beyond.active
  calls : ∀ c ∈ Event.libraryCalls done.1, c.concern = .work

/-- A call across the seam notes no more than the operation beyond it did. -/
theorem Aside.spares {operation : Act Note (State τ) α} (h : Aside operation) {s t : Seam (State τ)}
    (call : Vm.Call) {β : Type} (answer : Ending β)
    (ht : t.beyond = (operation s.beyond).state) :
    Spares s (.call call ::
      ((operation s.beyond).trace.map Event.note ++ answer.panicEvents), t) := by
  obtain ⟨hactive, hcalls⟩ := h s.beyond
  refine ⟨(congrArg State.active ht).trans hactive, fun c hc => hcalls c ?_⟩
  simpa [Event.mem_libraryCalls_notes] using hc

theorem Aside.cross {operation : Act Note (State τ) α} (h : Aside operation)
    (call : Ending α → Vm.Call) (s : Seam (State τ)) :
    Spares s (footprint (Seam.cross operation fun answer => .call (call answer)) s) :=
  h.spares _ _ rfl

theorem Aside.crossQuiet {operation : Quiet Note (State τ) α} (h : Aside (Act.ofQuiet operation))
    (call : α → Vm.Call) (s : Seam (State τ)) :
    Spares s (footprint (Seam.crossQuiet operation fun answer => .call (call answer)) s) := by
  have hspares := h.spares (t := (Seam.crossQuiet operation (fun a => .call (call a)) s).2.2)
    (call (operation s.beyond).1) (Ending.returned ()) rfl
  simpa [Ending.panicEvents, footprint, Seam.crossQuiet] using hspares

/-- Work leaves the global state where it is. -/
theorem Work.perform_spares (api : Api τ) (runtime : Runtime) (work : Work)
    (s : Seam (State τ)) : Spares s (work.perform (vm api runtime) s) := by
  cases work with
  | parse image => exact (aside_parse api image.bytes ⟨s.codes⟩).spares _ _ rfl
  | compact code => exact (aside_tell rfl _).crossQuiet _ s
  | release code => exact (aside_tell rfl _).crossQuiet _ s
  | allocate code => exact (aside_allocate api code ⟨s.modules⟩).spares _ _ rfl
  | link module options => exact (aside_link api runtime module options).cross _ s
  | freeModule module => exact (aside_tell rfl _).crossQuiet _ s
  | entryClosure module => exact (aside_entryClosure module).cross _ s
  | call closure => exact (aside_guarded api (.entry closure)).cross _ s
  | callSetup hook options => exact (aside_callSetup api hook options).cross _ s
  | describeFault fault => exact (aside_describeFault api fault).cross _ s
  | exceptionStack => exact (aside_exceptionStack api).cross _ s
  | debugBreak => exact (aside_tell rfl _).cross _ s

/-! ## Opening a session and giving it up -/

/-- While the global state exists, a session is refused, and nothing is asked of the library. -/
theorem start_active (api : Api τ) (runtime : Runtime) {s : Seam (State τ)}
    (h : s.beyond.active = true) :
    (Session.start (vm api runtime) s).1 = .error (.runtimeUnavailable alreadyActive) ∧
      Event.libraryCalls (Session.start (vm api runtime) s).2.1 = [] ∧
      (Session.start (vm api runtime) s).2.2 = s := by
  have hinit : Seam.globalInit (vm api runtime) s =
      (.error alreadyActive, [.call (.globalInit (.error alreadyActive))], s) := by
    simp [Seam.globalInit, Seam.crossQuiet, vm, globalInit, h]
  simp [Session.start, hinit]

/-- The state beyond the seam after the global state was created. -/
def State.created (api : Api τ) (runtime : Runtime) (s : State τ) : State τ :=
  { s with
    active := true
    library := api.registerThread runtime.stackTop (api.globalInit s.library) }

/-- Otherwise the session is opened: the global state is created and the thread registered. -/
theorem start_inactive (api : Api τ) (runtime : Runtime) {s : Seam (State τ)}
    (h : s.beyond.active = false) :
    (Session.start (vm api runtime) s).1 = .ok ⟨false⟩ ∧
      Event.libraryCalls (Session.start (vm api runtime) s).2.1 =
        [.globalInit, .registerThread runtime.stackTop] ∧
      (Session.start (vm api runtime) s).2.2.beyond.active = true := by
  have hinit : Seam.globalInit (vm api runtime) s =
      (.ok (), [.call (.globalInit (.ok ())), .note (.library .globalInit),
        .note (.library (.registerThread runtime.stackTop))],
        { s with beyond := s.beyond.created api runtime }) := by
    simp [Seam.globalInit, Seam.crossQuiet, vm, globalInit, tell, State.created, h]
  simp [Session.start, hinit, State.created]

/-- Giving a session up releases the global state. -/
theorem finish_spec (api : Api τ) (runtime : Runtime) (s : Seam (State τ)) :
    Event.libraryCalls (Session.finish (vm api runtime) s).2.1 = [.globalFree] ∧
      (Session.finish (vm api runtime) s).2.2.beyond.active = false := by
  simp [Session.finish, Seam.globalTeardown, Seam.crossQuiet, vm, globalTeardown, tell]

/-! ## Processes -/

/-- An open session, with the runtime that it was opened from. -/
structure Context (τ : Type) where
  api : Api τ
  runtime : Runtime
  session : Session

/-- A process: its open sessions, in the order in which they were opened, and what has happened. -/
structure Process (τ : Type) where
  contexts : List (Context τ)
  seam : Seam (State τ)
  trace : List Event

namespace Process

/-- One thing that happens in a process. An index at which no session stands does nothing. -/
inductive Op (τ : Type)
  /-- A session is asked for, from any runtime. -/
  | start (api : Api τ) (runtime : Runtime)
  /-- An open session is put to work. -/
  | work (index : Nat) (work : Work)
  /-- An open session is given up. -/
  | drop (index : Nat)

/-- A process in which nothing has happened. -/
def fresh (library : τ) : Process τ := ⟨[], Seam.fresh (State.fresh library), []⟩

/-- What happens in one operation. Whoever is refused a session holds nothing to give up. -/
def step (p : Process τ) : Op τ → Process τ
  | .start api runtime =>
    match Session.start (vm api runtime) p.seam with
    | (.ok session, trace, seam) =>
      ⟨p.contexts ++ [⟨api, runtime, session⟩], seam, p.trace ++ trace⟩
    | (.error _, trace, seam) => ⟨p.contexts, seam, p.trace ++ trace⟩
  | .work index work =>
    match p.contexts[index]? with
    | some context =>
      let (trace, seam) := work.perform (vm context.api context.runtime) p.seam
      ⟨p.contexts, seam, p.trace ++ trace⟩
    | none => p
  | .drop index =>
    match p.contexts[index]? with
    | some context =>
      let ((), trace, seam) := Session.finish (vm context.api context.runtime) p.seam
      ⟨p.contexts.eraseIdx index, seam, p.trace ++ trace⟩
    | none => p

/-- One operation after the other. -/
def run (p : Process τ) (ops : List (Op τ)) : Process τ := ops.foldl step p

/-- There are as many open sessions as global states, and the calls into the library are bracketed
accordingly. -/
structure Settled (p : Process τ) : Prop where
  count : p.contexts.length = p.seam.beyond.active.toNat
  bracketed : Bracketed p.seam.beyond.active (Event.libraryCalls p.trace)

theorem settled_fresh (library : τ) : Settled (fresh library) := ⟨rfl, .none⟩

variable {p : Process τ}

/-- The global state exists just while a session is open. -/
theorem Settled.active_iff (h : Settled p) : p.seam.beyond.active = true ↔ p.contexts ≠ [] := by
  have hcount := h.count
  cases hactive : p.seam.beyond.active <;>
    simp_all [← List.length_pos_iff]

theorem Settled.inactive_iff (h : Settled p) : p.seam.beyond.active = false ↔ p.contexts = [] := by
  rw [← Bool.not_eq_true, h.active_iff, not_not]

/-! ## Each operation -/

/-- While a session is open, another one is refused. -/
theorem step_start_refused (h : p.seam.beyond.active = true) (api : Api τ) (runtime : Runtime) :
    (p.step (.start api runtime)).contexts = p.contexts ∧
      (p.step (.start api runtime)).seam = p.seam ∧
      Event.libraryCalls (p.step (.start api runtime)).trace = Event.libraryCalls p.trace := by
  obtain ⟨hanswer, hcalls, hseam⟩ := start_active api runtime h
  simp only [step]
  split
  · simp_all
  · simp_all

/-- Otherwise a session is opened, from any runtime. -/
theorem step_start_opened (h : p.seam.beyond.active = false) (api : Api τ) (runtime : Runtime) :
    (p.step (.start api runtime)).contexts = p.contexts ++ [⟨api, runtime, ⟨false⟩⟩] ∧
      (p.step (.start api runtime)).seam.beyond.active = true ∧
      Event.libraryCalls (p.step (.start api runtime)).trace =
        Event.libraryCalls p.trace ++ [.globalInit, .registerThread runtime.stackTop] := by
  obtain ⟨hanswer, hcalls, hactive⟩ := start_inactive api runtime h
  simp only [step]
  split
  · simp_all
  · simp_all

/-- An open session that is given up takes the global state with it. -/
theorem step_drop {index : Nat} (hindex : index < p.contexts.length) :
    (p.step (.drop index)).contexts = p.contexts.eraseIdx index ∧
      (p.step (.drop index)).seam.beyond.active = false ∧
      Event.libraryCalls (p.step (.drop index)).trace =
        Event.libraryCalls p.trace ++ [.globalFree] := by
  have hget : p.contexts[index]? = some p.contexts[index] := List.getElem?_eq_getElem hindex
  obtain ⟨hcalls, hactive⟩ :=
    finish_spec p.contexts[index].api p.contexts[index].runtime p.seam
  simp only [step, hget]
  exact ⟨trivial, hactive, by simp [hcalls]⟩

theorem Settled.step (h : Settled p) (op : Op τ) : Settled (p.step op) := by
  cases op with
  | start api runtime =>
    cases hactive : p.seam.beyond.active with
    | true =>
      obtain ⟨hcontexts, hseam, hcalls⟩ := step_start_refused hactive api runtime
      exact ⟨by rw [hcontexts, hseam, h.count], by rw [hcalls, hseam]; exact h.bracketed⟩
    | false =>
      obtain ⟨hcontexts, hnow, hcalls⟩ := step_start_opened hactive api runtime
      have hempty : p.contexts = [] := h.inactive_iff.mp hactive
      have hbracketed := h.bracketed
      rw [hactive] at hbracketed
      exact ⟨by simp [hcontexts, hnow, hempty],
        by rw [hcalls, hnow]; exact hbracketed.created runtime.stackTop⟩
  | work index work =>
    cases hget : p.contexts[index]? with
    | none => simpa [Process.step, hget] using h
    | some context =>
      -- whoever works is open, so the calls fall between a creation and its release
      obtain ⟨hactive, hcalls⟩ := work.perform_spares context.api context.runtime p.seam
      have hexists : p.seam.beyond.active = true :=
        h.active_iff.mpr fun hempty => by simp [hempty] at hget
      have hbracketed := h.bracketed
      rw [hexists] at hbracketed
      simp only [Process.step, hget]
      refine ⟨by rw [hactive]; exact h.count, ?_⟩
      rw [hactive, hexists, Event.libraryCalls_append]
      exact hbracketed.append_work hcalls
  | drop index =>
    by_cases hindex : index < p.contexts.length
    · obtain ⟨hcontexts, hnow, hcalls⟩ := step_drop hindex
      have hexists : p.seam.beyond.active = true :=
        h.active_iff.mpr (List.ne_nil_of_length_pos (by omega))
      have hbracketed := h.bracketed
      have hcount := h.count
      rw [hexists] at hbracketed hcount
      -- it was the only one
      refine ⟨?_, by rw [hcalls, hnow]; exact hbracketed.released⟩
      rw [hcontexts, hnow, List.length_eraseIdx_of_lt hindex, hcount]
      rfl
    · have hget : p.contexts[index]? = none := List.getElem?_eq_none (by omega)
      simpa [Process.step, hget] using h

theorem Settled.run (h : Settled p) (ops : List (Op τ)) : Settled (p.run ops) := by
  induction ops generalizing p with
  | nil => exact h
  | cons op ops ih => exact ih (h.step op)

/-- The global state of the VM library has one user at a time. -/
structure Exclusive (p : Process τ) : Prop where
  /-- Its creations and releases take turns, and the library is called only in between. -/
  bracketed : Bracketed p.seam.beyond.active (Event.libraryCalls p.trace)
  alternates : Alternates p.seam.beyond.active (turns (Event.libraryCalls p.trace))
  /-- The process knows whether a session is open. -/
  active_iff : p.seam.beyond.active = true ↔ p.contexts ≠ []
  single : p.contexts.length ≤ 1
  /-- While one is open, another one is refused: the library is not called, the process stays as it
  is, and the refused attempt leaves nothing behind that could be given up. -/
  refuses : p.contexts ≠ [] → ∀ api runtime,
    (Session.start (vm api runtime) p.seam).1 = .error (.runtimeUnavailable alreadyActive) ∧
      Event.libraryCalls (Session.start (vm api runtime) p.seam).2.1 = [] ∧
      (p.step (.start api runtime)).seam = p.seam ∧
      (p.step (.start api runtime)).contexts = p.contexts
  /-- While none is open, any runtime opens one. -/
  opens : p.contexts = [] → ∀ api runtime,
    (Session.start (vm api runtime) p.seam).1 = .ok ⟨false⟩ ∧
      (p.step (.start api runtime)).contexts = [⟨api, runtime, ⟨false⟩⟩]
  /-- Once the open one was given up, none is open, and any runtime opens the next. -/
  reopens : ∀ index < p.contexts.length, (p.step (.drop index)).contexts = [] ∧
    ∀ api runtime, (Session.start (vm api runtime) (p.step (.drop index)).seam).1 = .ok ⟨false⟩

theorem Settled.exclusive (h : Settled p) : Exclusive p where
  bracketed := h.bracketed
  alternates := h.bracketed.alternates
  active_iff := h.active_iff
  single := h.count ▸ Bool.toNat_le _
  refuses hopen api runtime := by
    have hactive := h.active_iff.mpr hopen
    obtain ⟨hanswer, hcalls, -⟩ := start_active api runtime hactive
    obtain ⟨hcontexts, hseam, -⟩ := step_start_refused hactive api runtime
    exact ⟨hanswer, hcalls, hseam, hcontexts⟩
  opens hnone api runtime := by
    have hactive := h.inactive_iff.mpr hnone
    obtain ⟨hcontexts, -, -⟩ := step_start_opened hactive api runtime
    exact ⟨(start_inactive api runtime hactive).1, by rw [hcontexts, hnone, List.nil_append]⟩
  reopens index hindex := by
    obtain ⟨-, hactive, -⟩ := step_drop hindex
    exact ⟨(h.step (.drop index)).inactive_iff.mp hactive,
      fun api runtime => (start_inactive api runtime hactive).1⟩

/-- However sessions are opened, put to work and given up, over whichever runtimes: the global
state has one user at a time. -/
theorem run_exclusive (library : τ) (ops : List (Op τ)) : Exclusive ((fresh library).run ops) :=
  ((settled_fresh library).run ops).exclusive

end Process

end HashLink

end Launcher
