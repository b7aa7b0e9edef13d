import Launcher.Proofs.Session.Owing
import Launcher.Rehearsal.ScriptedVm

/-!
# Clients of a session

A client opens a session, then loads programs, builds modules, links them, drops bodies and gives
things up in any order that ownership admits: it uses what it holds, a program that goes into a
module is gone, and the session is finished when nothing is held any more. A panic of the VM ends one
operation; the client may go on with what it still holds.

- `Client.perform`: one operation. `Client.Reaches`: any number of them.
- `Client.Mirrors`: the invariant. What is held is what the ledger of the calls so far still owes.
- `Client.disciplined`: what this comes to for the VM, in every state that can be reached.
-/

namespace Launcher

/-- What a client of a session holds. -/
structure Client where
  session : Option Session
  codes : List ParsedCode
  modules : List LoadedModule

namespace Client

variable {σ : Type}

/-- An operation of a client. -/
inductive Op
  /-- Loads an image from files that may be different ones every time. -/
  | load (opening : Opening) (path : Path)
  | allocate (code : ParsedCode)
  | link (module : LoadedModule) (options : HostOptions)
  | compact (module : LoadedModule)
  | entryClosure (module : LoadedModule)
  | dropCode (code : ParsedCode)
  | free (module : LoadedModule)
  | finish

/-- Whether ownership admits an operation. -/
def Admits (client : Client) : Op → Prop
  | .load .. => True
  | .allocate code | .dropCode code => code ∈ client.codes
  | .link module _ | .compact module | .entryClosure module | .free module =>
    module ∈ client.modules
  | .finish => client.codes = [] ∧ client.modules = []

/-- Performs an operation in the session of a client; a panic ends the operation only. -/
def perform (vm : Vm σ) (session : Session) (client : Client) : Op → Quiet Event (Seam σ) Client
  | .load opening path => do
    match ← (Session.load vm opening path).caught with
    | .returned (.ok code) => return { client with codes := code :: client.codes }
    | _ => return client
  | .allocate code => do
    let codes := client.codes.erase code
    match ← (Session.allocate vm session code).caught with
    | .returned (.ok (module, session)) =>
      return { session := some session, codes, modules := module :: client.modules }
    | _ => return { client with codes }
  | .link module options => do
    let _ ← (Session.link vm module options).caught
    return client
  | .compact module => do
    let stripped ← Session.compactModule vm module
    return { client with modules := stripped :: client.modules.erase module }
  | .entryClosure module => do
    let _ ← (Session.entryClosure vm module).caught
    return client
  | .dropCode code => do
    Session.dropCode vm code
    return { client with codes := client.codes.erase code }
  | .free module => do
    let session ← Session.free vm session module
    return { client with session := some session, modules := client.modules.erase module }
  | .finish => do
    Session.finish vm
    return { client with session := none }

/-- The states that a client of a VM can come to, with the trace so far and the seam as it is. -/
inductive Reaches (vm : Vm σ) : Client → List Event → Seam σ → Prop
  | start {seam : Seam σ} {session : Session} :
    (Session.start vm seam).1 = .ok session →
    Reaches vm ⟨some session, [], []⟩ (Session.start vm seam).2.1 (Session.start vm seam).2.2
  | step {client : Client} {trace : List Event} {seam : Seam σ} {session : Session} {op : Op} :
    Reaches vm client trace seam → client.session = some session → client.Admits op →
    Reaches vm (perform vm session client op seam).1
      (trace ++ (perform vm session client op seam).2.1) (perform vm session client op seam).2.2

/-! ## The invariant -/

/-- A client holds what a ledger still owes, in one of three ways. -/
inductive Mirrors (L : Ledger) : Client → Prop
  /-- The session is open and no module is alive. -/
  | idle {codes : List ParsedCode} : L.Owes codes none → Mirrors L ⟨some ⟨false⟩, codes, []⟩
  /-- The session is open and a module is alive. -/
  | built {codes : List ParsedCode} {m : ModuleId} {code : ParsedCode} :
    L.Owes (code :: codes) (some (m, code.id)) →
    Mirrors L ⟨some ⟨true⟩, codes, [⟨some m, code⟩]⟩
  /-- The session has been finished. -/
  | finished : L.state = .gone → L.Settled → Mirrors L ⟨none, [], []⟩

/-- What an operation has to keep: its calls are in order, what is then held is what is then owed, and
the numbers not given out by then are not known. -/
structure Keeps (L : Ledger) (outcome : Client × List Event × Seam σ) : Prop where
  accepts : L.Accepts (Event.calls outcome.2.1)
  mirrors : Mirrors (L.run (Event.calls outcome.2.1)) outcome.1
  unused : (L.run (Event.calls outcome.2.1)).Unused outcome.2.2.numbers

variable {L : Ledger} {client : Client} {session : Session}

/-- An open session is live for the VM. -/
theorem Mirrors.live (h : Mirrors L client) (hopen : client.session = some session) :
    L.state = .live := by
  cases h with
  | idle howes => exact howes.live
  | built howes => exact howes.live
  | finished => cases hopen

/-- As long as the session has no module, none is held or owed. -/
theorem Mirrors.of_not_live (h : Mirrors L client) (hopen : client.session = some session)
    (hlive : session.moduleLive = false) :
    ∃ codes, client = ⟨some ⟨false⟩, codes, []⟩ ∧ L.Owes codes none := by
  cases h with
  | idle howes => exact ⟨_, rfl, howes⟩
  | built howes =>
    cases hopen
    cases hlive
  | finished => cases hopen

/-- A program that was parsed is held from then on. -/
theorem Mirrors.parse {c : CodeId} (h : Mirrors L client) (hopen : client.session = some session)
    (hc : L.code c = .unknown) (image : List UInt8) :
    L.Allows (.parse image (.returned (.ok c))) ∧
      Mirrors (L.after (.parse image (.returned (.ok c))))
        { client with codes := ⟨c, false⟩ :: client.codes } := by
  cases h with
  | idle howes =>
    obtain ⟨hallows, hafter⟩ := howes.parse hc image
    exact ⟨hallows, .idle hafter⟩
  | built howes =>
    obtain ⟨hallows, hafter⟩ := howes.parse hc image
    exact ⟨hallows, .built (hafter.perm (.swap ..))⟩
  | finished => cases hopen

/-- A program that is held can be given up. -/
theorem Mirrors.drop {code : ParsedCode} (h : Mirrors L client) (hcode : code ∈ client.codes) :
    L.Accepts (Event.calls (Session.dropEvents code)) ∧
      Mirrors (L.run (Event.calls (Session.dropEvents code)))
        { client with codes := client.codes.erase code } := by
  cases h with
  | idle howes =>
    obtain ⟨haccepts, hrun⟩ :=
      (howes.perm (List.perm_cons_erase hcode)).drop fun m hm => nomatch hm
    exact ⟨haccepts, .idle hrun⟩
  | @built codes m built howes =>
    -- the program of the module is another one
    have hne : built.id ≠ code.id := (howes.id_ne hcode).symm
    have hperm : (built :: codes).Perm (code :: built :: codes.erase code) :=
      ((List.perm_cons_erase hcode).cons built).trans (.swap ..)
    obtain ⟨haccepts, hrun⟩ := (howes.perm hperm).drop fun n hn => hne (by simp_all)
    exact ⟨haccepts, .built hrun⟩
  | finished => cases hcode

/-- Giving a program up gives out no number. -/
theorem gives_dropEvents (code : ParsedCode) :
    ∀ call ∈ Event.calls (Session.dropEvents code), call.gives = false := by
  intro call hcall
  rw [Session.calls_dropEvents, Session.calls_compactEvents] at hcall
  split at hcall <;> simp at hcall <;> rcases hcall with rfl | rfl <;> rfl

theorem gives_allocate_failed (c : CodeId) {answer : Ending (Option ModuleId)}
    (h : ∀ m, answer ≠ .returned (some m)) : (Vm.Call.allocate c answer).gives = false := by
  rcases answer with (_ | m) | _
  · rfl
  · exact absurd rfl (h m)
  · rfl

/-! ## One operation -/

variable {vm : Vm σ} {seam : Seam σ}

/-- Calls that give out no number and leave what is held mirrored are all that has to be kept. -/
theorem Keeps.of_calls {outcome : Client × List Event × Seam σ} {calls : List Vm.Call}
    (hcalls : Event.calls outcome.2.1 = calls) (hnumbers : outcome.2.2.numbers = seam.numbers)
    (hu : L.Unused seam.numbers) (hgives : ∀ call ∈ calls, call.gives = false)
    (haccepts : L.Accepts calls) (hmirrors : Mirrors (L.run calls) outcome.1) : Keeps L outcome := by
  subst hcalls
  exact ⟨haccepts, hmirrors, hnumbers ▸ hu.run haccepts hgives⟩

/-- Calls that change nothing keep what is held mirrored. -/
theorem Keeps.of_idle {trace : List Event} {after : Seam σ} {calls : List Vm.Call}
    (h : Mirrors L client) (hu : L.Unused seam.numbers) (hcalls : Event.calls trace = calls)
    (hidle : L.Idles calls) (hnumbers : after.numbers = seam.numbers) :
    Keeps L (client, trace, after) := by
  subst hcalls
  refine ⟨hidle.accepts, ?_, ?_⟩
  · rw [hidle.run]
    exact h
  · rw [hidle.run, hnumbers]
    exact hu

/-- A client that could not load a program holds what it held. -/
theorem perform_load_failed {opening : Opening} {path : Path}
    (h : ∀ code, (Session.load vm opening path seam).ending ≠ .returned (.ok code)) :
    perform vm session client (.load opening path) seam =
      (client, (Session.load vm opening path seam).trace,
        (Session.load vm opening path seam).state) := by
  rcases hend : (Session.load vm opening path seam).ending with (failure | code) | p
  · simp [perform, hend]
  · exact absurd hend (h code)
  · simp [perform, hend]

theorem keeps_load (h : Mirrors L client) (hopen : client.session = some session)
    (hu : L.Unused seam.numbers) (opening : Opening) (path : Path) :
    Keeps L (perform vm session client (.load opening path) seam) := by
  have hcalls : Event.calls (Session.load vm opening path seam).trace =
      Event.calls (Session.loadEvents path (Session.loading vm opening path seam)) :=
    Event.calls_of_own (Session.own_load vm opening path seam)
  have hend := Session.load_ending vm opening path seam
  rcases Session.numbers_load vm opening path seam with ⟨hnone, hnumbers⟩ | ⟨image, hl, hnumbers⟩
  · -- without a program nothing has changed
    rw [perform_load_failed (fun code hc => hnone code (hend ▸ hc))]
    exact .of_idle h hu hcalls (Ledger.idles_load (h.live hopen) hnone) hnumbers
  · rw [hl] at hcalls hend
    have hperform : perform vm session client (.load opening path) seam =
        ({ client with codes := ⟨⟨seam.codes⟩, false⟩ :: client.codes },
          (Session.load vm opening path seam).trace,
          (Session.load vm opening path seam).state) := by
      simp [perform, hend, Session.loadAnswer]
    have hnew : L.code ⟨seam.codes⟩ = .unknown := hu.code _ (Nat.le_refl _)
    obtain ⟨hallows, hafter⟩ := h.parse hopen hnew image.bytes
    rw [hperform]
    refine ⟨?_, ?_, ?_⟩
    · simpa [hcalls] using hallows
    · simpa [hcalls] using hafter
    · simpa [hcalls, hnumbers] using Ledger.Unused.parse hu image.bytes

/-- A client without a new module has used its program up all the same. -/
theorem perform_allocate_failed {code : ParsedCode}
    (h : ∀ built, (Session.allocate vm session code seam).ending ≠ .returned (.ok built)) :
    perform vm session client (.allocate code) seam =
      ({ client with codes := client.codes.erase code },
        (Session.allocate vm session code seam).trace,
        (Session.allocate vm session code seam).state) := by
  rcases hend : (Session.allocate vm session code seam).ending with (failure | built) | p
  · simp [perform, hend]
  · exact absurd hend (h built)
  · simp [perform, hend]

theorem keeps_allocate (h : Mirrors L client) (hopen : client.session = some session)
    (hu : L.Unused seam.numbers) {code : ParsedCode} (hcode : code ∈ client.codes) :
    Keeps L (perform vm session client (.allocate code) seam) := by
  obtain ⟨hown, hend, -⟩ := Session.allocate_spec vm session code seam
  have hcalls : Event.calls (Session.allocate vm session code seam).trace = Event.calls
      (Session.allocateEvents code (Session.allocation vm session code seam)) :=
    Event.calls_of_own hown
  obtain ⟨hdrop, hdropped⟩ := h.drop hcode
  rcases Session.numbers_allocate vm session code seam with
    ⟨hnone, hnumbers⟩ | ⟨hlive, hl, hnumbers⟩
  · rw [perform_allocate_failed (fun built hb => hnone built (hend ▸ hb))]
    by_cases hlive : session.moduleLive = true
    · -- the VM was not asked, and the program is given up
      rw [Session.allocation, if_pos hlive] at hcalls
      exact .of_calls hcalls hnumbers hu (gives_dropEvents code) hdrop hdropped
    -- the VM was asked, gave no module, and the program is given up
    rw [Session.allocation, if_neg hlive] at hcalls hnone
    obtain ⟨codes, rfl, howes⟩ := h.of_not_live hopen (by simpa using hlive)
    have hfailed : ∀ m, (Seam.allocate vm code.id seam).ending ≠ .returned (some m) := by
      intro m hm
      rw [hm] at hnone
      exact hnone _ rfl
    rw [Session.calls_allocateEvents_failed code hfailed] at hcalls
    have hafter := L.after_allocate_failed code.id hfailed
    refine .of_calls hcalls hnumbers hu ?_ ⟨?_, hafter.symm ▸ hdrop⟩ ?_
    · intro call hcall
      rcases List.mem_cons.1 hcall with rfl | hcall
      · exact gives_allocate_failed code.id hfailed
      · exact gives_dropEvents code call hcall
    · exact howes.ask hcode fun m hm => absurd hm (hfailed m)
    · rw [Ledger.run_cons, hafter]
      exact hdropped
  · rw [hl] at hcalls hend
    obtain ⟨codes, rfl, howes⟩ := h.of_not_live hopen hlive
    have hnew : L.module ⟨seam.modules⟩ = .unknown := hu.module _ (Nat.le_refl _)
    have hperform : perform vm session ⟨some ⟨false⟩, codes, []⟩ (.allocate code) seam =
        (⟨some ⟨true⟩, codes.erase code, [⟨some ⟨seam.modules⟩, code⟩]⟩,
          (Session.allocate vm session code seam).trace,
          (Session.allocate vm session code seam).state) := by
      simp [perform, hend, Session.allocateAnswer]
    rw [hperform]
    refine ⟨?_, ?_, ?_⟩
    · simpa [hcalls] using howes.ask hcode fun m hm => by cases hm; exact hnew
    · simpa [hcalls] using
        Mirrors.built ((howes.allocate hnew).perm (List.perm_cons_erase hcode))
    · simpa [hcalls, hnumbers] using Ledger.Unused.allocate hu code.id

/-- A module that is held is alive. -/
theorem Mirrors.held {module : LoadedModule} (h : Mirrors L client)
    (hmodule : module ∈ client.modules) :
    ∃ codes m code, module = ⟨some m, code⟩ ∧ client = ⟨some ⟨true⟩, codes, [⟨some m, code⟩]⟩ ∧
      L.Owes (code :: codes) (some (m, code.id)) := by
  cases h with
  | idle => cases hmodule
  | @built codes m code howes =>
    exact ⟨codes, m, code, List.mem_singleton.1 hmodule, rfl, howes⟩
  | finished => cases hmodule

theorem keeps_link (h : Mirrors L client) (hu : L.Unused seam.numbers) {module : LoadedModule}
    (hmodule : module ∈ client.modules) (options : HostOptions) :
    Keeps L (perform vm session client (.link module options) seam) := by
  obtain ⟨codes, m, code, rfl, -, howes⟩ := h.held hmodule
  obtain ⟨hown, -, hnumbers⟩ := Session.link_spec vm m code options seam
  have hidle := Ledger.idles_link howes.live howes.module_alive options
    (Seam.link vm m options seam).ending
  rw [show perform vm session client (.link ⟨some m, code⟩ options) seam =
    (client, (Session.link vm ⟨some m, code⟩ options seam).trace,
      (Session.link vm ⟨some m, code⟩ options seam).state) by simp [perform]]
  have hcalls := (Event.calls_of_own hown).trans (Session.calls_linkEvents ..)
  exact .of_idle h hu hcalls hidle hnumbers

theorem keeps_entryClosure (h : Mirrors L client) (hu : L.Unused seam.numbers)
    {module : LoadedModule} (hmodule : module ∈ client.modules) :
    Keeps L (perform vm session client (.entryClosure module) seam) := by
  obtain ⟨codes, m, code, rfl, -, howes⟩ := h.held hmodule
  obtain ⟨hown, -, hnumbers⟩ := Session.entryClosure_spec vm m code seam
  have hidle := Ledger.idles_entryClosure howes.live howes.module_alive
    (Seam.entryClosure vm m seam).ending
  rw [show perform vm session client (.entryClosure ⟨some m, code⟩) seam =
    (client, (Session.entryClosure vm ⟨some m, code⟩ seam).trace,
      (Session.entryClosure vm ⟨some m, code⟩ seam).state) by simp [perform]]
  have hcalls := (Event.calls_of_own hown).trans (Session.calls_entryEvents ..)
  exact .of_idle h hu hcalls hidle hnumbers

theorem keeps_compact (h : Mirrors L client) (hu : L.Unused seam.numbers) {module : LoadedModule}
    (hmodule : module ∈ client.modules) :
    Keeps L (perform vm session client (.compact module) seam) := by
  obtain ⟨codes, m, code, rfl, rfl, howes⟩ := h.held hmodule
  obtain ⟨haccepts, hrun⟩ := howes.strip
  have hcalls : Event.calls (perform vm session ⟨some ⟨true⟩, codes, [⟨some m, code⟩]⟩
      (.compact ⟨some m, code⟩) seam).2.1 = Event.calls (Session.compactEvents code) := by
    rw [← Event.calls_of_own (Session.own_compactModule vm ⟨some m, code⟩ seam)]
    simp [perform]
  refine .of_calls hcalls ?_ hu ?_ haccepts ?_
  · simp [perform]
  · rw [Session.calls_compactEvents]
    split <;> simp [Vm.Call.gives]
  · simpa [perform] using Mirrors.built hrun

theorem keeps_dropCode (h : Mirrors L client) (hu : L.Unused seam.numbers) {code : ParsedCode}
    (hcode : code ∈ client.codes) :
    Keeps L (perform vm session client (.dropCode code) seam) := by
  obtain ⟨hdrop, hdropped⟩ := h.drop hcode
  have hcalls : Event.calls (perform vm session client (.dropCode code) seam).2.1 =
      Event.calls (Session.dropEvents code) := by
    rw [← Event.calls_of_own (Session.own_dropCode vm code seam)]
    simp [perform]
  refine .of_calls hcalls ?_ hu (gives_dropEvents code) hdrop ?_
  · simp [perform]
  · simpa [perform] using hdropped

theorem keeps_free (h : Mirrors L client) (hopen : client.session = some session)
    (hu : L.Unused seam.numbers) {module : LoadedModule} (hmodule : module ∈ client.modules) :
    Keeps L (perform vm session client (.free module) seam) := by
  obtain ⟨codes, m, code, rfl, rfl, howes⟩ := h.held hmodule
  cases hopen
  -- the program may go only after the module that was built from it
  obtain ⟨hfree, hfreed⟩ := howes.freeModule
  obtain ⟨hdrop, hdropped⟩ := hfreed.drop fun n hn => nomatch hn
  have hcalls : Event.calls (perform vm ⟨true⟩ ⟨some ⟨true⟩, codes, [⟨some m, code⟩]⟩
      (.free ⟨some m, code⟩) seam).2.1 =
        .freeModule m :: Event.calls (Session.dropEvents code) := by
    rw [← Session.calls_freeEvents,
      ← Event.calls_of_own (Session.own_free vm ⟨true⟩ ⟨some m, code⟩ seam)]
    simp [perform]
  refine .of_calls hcalls ?_ hu ?_ ⟨hfree, hdrop⟩ ?_
  · simp [perform, Session.numbers_free]
  · intro call hcall
    rcases List.mem_cons.1 hcall with rfl | hcall
    · rfl
    · exact gives_dropEvents code call hcall
  · simpa [perform, Session.free_value] using Mirrors.idle hdropped

theorem keeps_finish (h : Mirrors L client) (hopen : client.session = some session)
    (hu : L.Unused seam.numbers) (hnothing : client.codes = [] ∧ client.modules = []) :
    Keeps L (perform vm session client .finish seam) := by
  obtain ⟨hcodes, hmodules⟩ := hnothing
  cases h with
  | @idle codes howes =>
    obtain rfl : codes = [] := hcodes
    have hcalls : Event.calls (perform vm session ⟨some ⟨false⟩, [], []⟩ .finish seam).2.1 =
        [.globalTeardown] := by
      rw [← Session.calls_finishEvents, ← Event.calls_of_own (Session.own_finish vm seam)]
      simp [perform]
    have hdone : Mirrors (L.after .globalTeardown) ⟨none, [], []⟩ := .finished rfl howes.settled
    refine .of_calls hcalls ?_ hu ?_ ⟨howes.finish, trivial⟩ ?_
    · simp [perform, Session.finish]
    · simp [Vm.Call.gives]
    · simpa [perform] using hdone
  | built => cases hmodules
  | finished => cases hopen

/-- Whatever operation ownership admits, what is held stays mirrored. -/
theorem keeps_perform {op : Op} (h : Mirrors L client) (hopen : client.session = some session)
    (hu : L.Unused seam.numbers) (hop : client.Admits op) :
    Keeps L (perform vm session client op seam) := by
  cases op with
  | load opening path => exact keeps_load h hopen hu opening path
  | allocate code => exact keeps_allocate h hopen hu hop
  | link module options => exact keeps_link h hu hop options
  | compact module => exact keeps_compact h hu hop
  | entryClosure module => exact keeps_entryClosure h hu hop
  | dropCode code => exact keeps_dropCode h hu hop
  | free module => exact keeps_free h hopen hu hop
  | finish => exact keeps_finish h hopen hu hop

/-! ## Every state -/

/-- The programs that are held, with a module or on their own. -/
def programs (client : Client) : List ParsedCode :=
  client.modules.map LoadedModule.code ++ client.codes

theorem Mirrors.program_iff (h : Mirrors L client) (c : CodeId) :
    c ∈ client.programs.map ParsedCode.id ↔ L.code c ≠ .unknown ∧ L.code c ≠ .released := by
  have howed : ∀ {programs : List ParsedCode} {module}, L.Owes programs module →
      (c ∈ programs.map ParsedCode.id ↔ L.code c ≠ .unknown ∧ L.code c ≠ .released) := by
    intro programs module howes
    constructor
    · intro hc
      obtain ⟨code, hcode, rfl⟩ := List.mem_map.1 hc
      rw [howes.held code hcode, ParsedCode.phase]
      split <;> simp
    · rintro ⟨hunknown, hreleased⟩
      by_contra hc
      exact (howes.others c hc).elim hunknown hreleased
  cases h with
  | idle howes => exact howed howes
  | built howes => exact howed howes
  | finished _ hsettled =>
    refine ⟨fun hc => absurd hc List.not_mem_nil, fun hk => ?_⟩
    exact ((hsettled.1 c).elim hk.1 hk.2).elim

theorem Mirrors.phase {code : ParsedCode} (h : Mirrors L client) (hcode : code ∈ client.programs) :
    L.code code.id = code.phase := by
  cases h with
  | idle howes => exact howes.held code hcode
  | built howes => exact howes.held code hcode
  | finished => cases hcode

theorem Mirrors.module_iff (h : Mirrors L client) (m : ModuleId) :
    some m ∈ client.modules.map LoadedModule.id ↔ ∃ c, L.module m = .alive c := by
  cases h with
  | idle howes => simp [howes.alive]
  | built howes => simp [howes.alive, eq_comm]
  | finished _ hsettled => simp [hsettled.2]

/-- In every state that a client can come to, its calls were in order and what it holds is what they
left. -/
theorem Reaches.keeps {trace : List Event} (h : Reaches vm client trace seam) :
    Keeps .empty (client, trace, seam) := by
  -- on the operations so far: each keeps the calls in order and what is held in step with them
  induction h with
  | @start seam session hok =>
    have hvalue := Session.start_value vm seam
    have hcalls : Event.calls (Session.start vm seam).2.1 =
        [.globalInit (vm.globalInit seam.beyond).1] := by
      rw [Event.calls_of_own (Session.own_start vm seam), Session.calls_startEvents]
    rw [hok] at hvalue
    cases hanswer : (vm.globalInit seam.beyond).1 with
    | error reason => simp [hanswer, Session.startAnswer] at hvalue
    | ok =>
      obtain rfl : session = ⟨false⟩ := by simpa [hanswer, Session.startAnswer] using hvalue
      rw [hanswer] at hcalls
      refine ⟨?_, ?_, ?_⟩
      · rw [hcalls]
        exact ⟨rfl, trivial⟩
      · simpa [hcalls] using Mirrors.idle Ledger.owes_nothing
      · rw [hcalls]
        exact ⟨fun _ _ => rfl, fun _ _ => rfl⟩
  | @step client trace seam session op _ hopen hop ih =>
    have hstep : Keeps _ (perform vm session client op seam) :=
      keeps_perform ih.mirrors hopen ih.unused hop
    refine ⟨?_, ?_, ?_⟩
    · simpa using ⟨ih.accepts, hstep.accepts⟩
    · simpa using hstep.mirrors
    · simpa using hstep.unused

/-- What the VM has seen of a client by now, and what the client can rely on. -/
structure Disciplined (vm : Vm σ) (client : Client) (trace : List Event) (seam : Seam σ) :
    Prop where
  one_module : client.modules.length ≤ 1
  /-- The session knows whether a module is held. -/
  live_iff : ∀ session, client.session = some session →
    (session.moduleLive = true ↔ client.modules ≠ [])
  /-- The modules that are held are those that were built and not freed. -/
  module_held : ∀ m, some m ∈ client.modules.map LoadedModule.id ↔
    (∃ c, .allocate c (.returned (some m)) ∈ Event.calls trace) ∧
      .freeModule m ∉ Event.calls trace
  /-- The programs that are held are those that were parsed and not released. -/
  program_held : ∀ c, c ∈ client.programs.map ParsedCode.id ↔
    (∃ image, .parse image (.returned (.ok c)) ∈ Event.calls trace) ∧
      .release c ∉ Event.calls trace
  /-- No module is asked for while another one is held. -/
  asked_alone : ∀ before rest c answer, Event.calls trace = before ++ .allocate c answer :: rest →
    ∀ d m, .allocate d (.returned (some m)) ∈ before → .freeModule m ∈ before
  /-- The bodies of a program that is held were dropped once, or not yet. -/
  ends_held : ∀ code ∈ client.programs, (Event.calls trace).filter (Vm.Call.ends code.id) =
    if code.compacted then [.compact code.id] else []
  /-- The bodies of a program that was released were dropped once before, and it was released once. -/
  ends_released : ∀ c, .release c ∈ Event.calls trace →
    (Event.calls trace).filter (Vm.Call.ends c) = [.compact c, .release c]
  /-- A program is released after the module that was built from it was freed. -/
  freed_first : ∀ before rest c, Event.calls trace = before ++ .release c :: rest →
    ∀ m, .allocate c (.returned (some m)) ∈ before → .freeModule m ∈ before
  /-- The global state is not released before the session is finished. -/
  teardown_later : client.session.isSome → .globalTeardown ∉ Event.calls trace
  /-- A session is finished when nothing is held, and its release is the last call, once. -/
  teardown_last : client.session = none → client.codes = [] ∧ client.modules = [] ∧
    ∃ before, Event.calls trace = before ++ [.globalTeardown] ∧ .globalTeardown ∉ before
  /-- Linking a module that is held and looking its entrypoint up get the answer of the VM. -/
  answers : ∀ module ∈ client.modules, ∃ m, module.id = some m ∧
    (∀ options, (Session.link vm module options seam).ending =
      Session.linkAnswer (Seam.link vm m options seam).ending) ∧
    (Session.entryClosure vm module seam).ending =
      Session.linkAnswer (Seam.entryClosure vm m seam).ending

/-- Every state that a client can come to is disciplined, also behind a panic, though by the types of
`Vm` none begins while state is set up or released. -/
theorem disciplined {trace : List Event} (h : Reaches vm client trace seam) :
    Disciplined vm client trace seam := by
  obtain ⟨haccepts, hmirrors, -⟩ := h.keeps
  simp only at haccepts hmirrors
  constructor
  case one_module => cases hmirrors <;> simp
  case live_iff =>
    intro session hopen
    cases hmirrors with
    | idle => cases hopen; simp
    | built => cases hopen; simp
    | finished => cases hopen
  case module_held => exact fun m => (hmirrors.module_iff m).trans (Ledger.alive_iff haccepts m)
  case program_held =>
    exact fun c => (hmirrors.program_iff c).trans (Ledger.unreleased_iff haccepts c)
  case asked_alone =>
    intro before rest c answer hsplit d m hm
    exact Ledger.allocated_alone (hsplit ▸ haccepts) hm
  case ends_held =>
    intro code hcode
    rw [Ledger.filter_ends haccepts code.id, hmirrors.phase hcode, ParsedCode.phase]
    split <;> rfl
  case ends_released =>
    intro c hc
    rw [Ledger.release_mem_iff haccepts] at hc
    rw [Ledger.filter_ends haccepts c, hc]
    rfl
  case freed_first =>
    intro before rest c hsplit m hm
    exact Ledger.released_after_freed (hsplit ▸ haccepts) hm
  case teardown_later =>
    intro hopen
    obtain ⟨session, hsession⟩ := Option.isSome_iff_exists.1 hopen
    exact Ledger.teardown_not_mem haccepts (by simp [hmirrors.live hsession])
  case teardown_last =>
    intro hclosed
    cases hmirrors with
    | idle => cases hclosed
    | built => cases hclosed
    | finished hgone =>
      exact ⟨rfl, rfl, Ledger.teardown_last haccepts (by simp [Ledger.empty]) hgone⟩
  case answers =>
    intro module hmodule
    obtain ⟨codes, m, code, rfl, -, -⟩ := hmirrors.held hmodule
    exact ⟨m, rfl, fun options => (Session.link_spec vm m code options seam).2.1,
      (Session.entryClosure_spec vm m code seam).2.1⟩

/-- A client that loads a program, builds a module from it, drops its bodies twice, frees it and
finishes. -/
theorem disciplined_rehearsal :
    ∃ client trace seam, client.session = none ∧
      Event.calls trace =
        [.globalInit (.ok ()), .parse [] (.returned (.ok ⟨0⟩)),
          .allocate ⟨0⟩ (.returned (some ⟨0⟩)), .compact ⟨0⟩, .freeModule ⟨0⟩, .release ⟨0⟩,
          .globalTeardown] ∧
      Disciplined Rehearsal.ScriptedVm.vm client trace seam := by
  have started : Reaches Rehearsal.ScriptedVm.vm _ _ _ :=
    .start (show (Session.start Rehearsal.ScriptedVm.vm (Seam.fresh
      (Rehearsal.ScriptedVm.fresh (.fresh none) ⟨[], [], [], [], [], [], []⟩))).1 =
        .ok ⟨false⟩ from rfl)
  have loaded := started.step rfl
    (show Admits _ (.load (fun _ => .ok ⟨.ok 0, []⟩) .empty) from trivial)
  have built := loaded.step rfl
    (show Admits _ (.allocate ⟨⟨0⟩, false⟩) from List.mem_singleton.2 rfl)
  have stripped := built.step rfl
    (show Admits _ (.compact ⟨some ⟨0⟩, ⟨⟨0⟩, false⟩⟩) from List.mem_singleton.2 rfl)
  have strippedTwice := stripped.step rfl
    (show Admits _ (.compact ⟨some ⟨0⟩, ⟨⟨0⟩, true⟩⟩) from List.mem_singleton.2 rfl)
  have freed := strippedTwice.step rfl
    (show Admits _ (.free ⟨some ⟨0⟩, ⟨⟨0⟩, true⟩⟩) from List.mem_singleton.2 rfl)
  have finished := freed.step rfl (show Admits _ .finish from ⟨rfl, rfl⟩)
  exact ⟨_, _, _, rfl, rfl, disciplined finished⟩

end Client

end Launcher
