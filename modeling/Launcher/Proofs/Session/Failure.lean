import Launcher.Proofs.Session.Client

/-!
# Operations that fail

Loading, building, linking and looking an entrypoint up may fail, with an error or with a panic. Such
a failure stays where it is: the session, the module that is held and the programs that are held are
as they were, but for the program that was handed over to become a module. It is given up, and no
other one.

What a client can do afterwards is what it could have done before without that program. Since the VM
may answer differently once it has failed, this is about the client alone: both are put before the
same VM in the same state (`Without`).

- `Client.Fails`, `Op.attempts`: when an operation fails, and what it asked the VM for by then.
- `Client.Performs`, `Client.Able`: several operations, one after the other.
- `Client.Contained`: what a failure leaves.
- `Client.failure_contained`: every failure is contained, in every state that can be reached.
-/

namespace Launcher

namespace Client

variable {σ : Type}

/-- An operation ends without what it is for. Giving things up does not fail. -/
def Fails (vm : Vm σ) (session : Session) (seam : Seam σ) : Op → Prop
  | .load opening path => ∀ code, (Session.load vm opening path seam).ending ≠ .returned (.ok code)
  | .allocate code => ∀ built, (Session.allocate vm session code seam).ending ≠ .returned (.ok built)
  | .link module options => (Session.link vm module options seam).ending ≠ .returned (.ok ())
  | .entryClosure module =>
    ∀ closure, (Session.entryClosure vm module seam).ending ≠ .returned (.ok closure)
  | .compact _ | .dropCode _ | .free _ | .finish => False

/-- The program that a client hands over to an operation. -/
def Op.spent : Op → Option ParsedCode
  | .allocate code | .dropCode code => some code
  | .load .. | .link .. | .compact _ | .entryClosure _ | .free _ | .finish => none

/-- A client that has handed over what an operation takes. -/
def spend (client : Client) (op : Op) : Client :=
  { client with codes := op.spent.elim client.codes client.codes.erase }

/-- What the VM is asked for by an operation that may fail. It is not asked to parse what was not read,
nor for a module while another one is held. -/
def Op.attempts (vm : Vm σ) (client : Client) (seam : Seam σ) : Op → List Vm.Call
  | .load opening path =>
    match Image.read opening path with
    | .returned (.ok image) => [.parse image.bytes (Seam.parse vm image seam).ending]
    | _ => []
  | .allocate code =>
    match client.modules with
    | [] => [.allocate code.id (Seam.allocate vm code.id seam).ending]
    | _ => []
  | .link module options =>
    (module.id.map fun m => .link m options (Seam.link vm m options seam).ending).toList
  | .entryClosure module =>
    (module.id.map fun m => .entryClosure m (Seam.entryClosure vm m seam).ending).toList
  | .compact _ | .dropCode _ | .free _ | .finish => []

/-- How a program is given up: its bodies are dropped, unless that has been done, and it is
released. -/
def givenUp (code : ParsedCode) : List Vm.Call :=
  if code.compacted then [.release code.id] else [.compact code.id, .release code.id]

/-- Operations one after the other. -/
inductive Performs (vm : Vm σ) : Client → Seam σ → List Op → Client → Seam σ → Prop
  | done {client : Client} {seam : Seam σ} : Performs vm client seam [] client seam
  | next {client later : Client} {seam laterSeam : Seam σ} {session : Session} {op : Op}
    {ops : List Op} :
    client.session = some session → client.Admits op →
    Performs vm (perform vm session client op seam).1 (perform vm session client op seam).2.2 ops
      later laterSeam →
    Performs vm client seam (op :: ops) later laterSeam

/-- A client can perform these operations: each is admitted when its turn comes. -/
def Able (vm : Vm σ) (client : Client) (seam : Seam σ) (ops : List Op) : Prop :=
  ∃ later laterSeam, Performs vm client seam ops later laterSeam

variable {vm : Vm σ} {client other later : Client} {seam laterSeam : Seam σ} {session : Session}
  {op : Op} {code : ParsedCode}

/-- Whatever is performed in a state that can be reached leads to another one. -/
theorem Reaches.performs {trace : List Event} {ops : List Op} (h : Reaches vm client trace seam)
    (hperforms : Performs vm client seam ops later laterSeam) :
    ∃ laterTrace, Reaches vm later laterTrace laterSeam := by
  induction hperforms generalizing trace with
  | done => exact ⟨trace, h⟩
  | next hopen hop _ ih => exact ih (h.step hopen hop)

/-! ## What a failure leaves -/

/-- What a failure leaves, and that it leaves everything else. -/
structure Contained (vm : Vm σ) (session : Session) (client : Client) (seam : Seam σ) (op : Op) :
    Prop where
  /-- The session and all that is held are as they were, but for what was handed over. -/
  left : (perform vm session client op seam).1 = client.spend op
  /-- The VM was asked for what failed, and what was handed over is given up. -/
  calls : Event.calls (perform vm session client op seam).2.1 =
    op.attempts vm client seam ++ op.spent.elim [] givenUp
  /-- Of the programs that are still held, none is stripped or released. -/
  programs_spared : ∀ kept ∈ (client.spend op).programs,
    ∀ call ∈ Event.calls (perform vm session client op seam).2.1, call.ends kept.id = false
  module_spared : ∀ m, ∀ call ∈ Event.calls (perform vm session client op seam).2.1,
    call.frees m = false
  /-- The client can do what it could have done before without what was handed over. -/
  able : ∀ {τ : Type} (future : Vm τ) (start : Seam τ) (ops : List Op),
    (∀ code, op.spent = some code → ∀ next ∈ ops, next.spent ≠ some code) →
    Able future client start ops → Able future (perform vm session client op seam).1 start ops
  /-- So it can what it could have done after giving that up of its own accord. -/
  able_after : ∀ {τ : Type} (future : Vm τ) (start : Seam τ) (code : ParsedCode) (ops : List Op),
    op.spent = some code → Able future client start (.dropCode code :: ops) →
    Able future (perform vm session client op seam).1
      (perform future session client (.dropCode code) start).2.2 ops
  /-- Whenever no module is held later on, the VM is asked for one again. -/
  asks : ∀ ops later laterSeam reopened code,
    Performs vm (perform vm session client op seam).1 (perform vm session client op seam).2.2 ops
      later laterSeam →
    later.session = some reopened → later.modules = [] →
    ∃ rest, Event.calls (perform vm reopened later (.allocate code) laterSeam).2.1 =
      .allocate code.id (Seam.allocate vm code.id laterSeam).ending :: rest

theorem calls_dropped (code : ParsedCode) :
    Event.calls (Session.dropEvents code) = givenUp code := by
  rw [Session.calls_dropEvents, Session.calls_compactEvents, givenUp]
  split <;> rfl

/-- A session is live exactly as long as a module is held. -/
theorem Mirrors.moduleLive_iff {L : Ledger} (h : Mirrors L client)
    (hopen : client.session = some session) : session.moduleLive = true ↔ client.modules ≠ [] := by
  cases h with
  | idle => cases hopen; simp
  | built => cases hopen; simp
  | finished => cases hopen

/-- No two of the programs that are held are the same. -/
theorem Mirrors.distinct {L : Ledger} (h : Mirrors L client) :
    (client.programs.map ParsedCode.id).Nodup := by
  cases h with
  | idle howes => exact howes.distinct
  | built howes => exact howes.distinct
  | finished => exact List.nodup_nil

/-! ### Operation by operation -/

theorem load_failed {opening : Opening} {path : Path}
    (hfails : Fails vm session seam (.load opening path)) :
    (perform vm session client (.load opening path) seam).1 = client ∧
      Event.calls (perform vm session client (.load opening path) seam).2.1 =
        Op.attempts vm client seam (.load opening path) := by
  rw [perform_load_failed hfails]
  refine ⟨rfl, ?_⟩
  rw [Event.calls_of_own (Session.own_load vm opening path seam), Session.loading, Op.attempts]
  rcases Image.read opening path with (failure | image) | p
  · rfl
  · exact Session.calls_loadEvents_parsed ..
  · rfl

theorem allocate_failed {L : Ledger} (h : Mirrors L client) (hopen : client.session = some session)
    (hfails : Fails vm session seam (.allocate code)) :
    (perform vm session client (.allocate code) seam).1 = client.spend (.allocate code) ∧
      Event.calls (perform vm session client (.allocate code) seam).2.1 =
        Op.attempts vm client seam (.allocate code) ++ givenUp code := by
  obtain ⟨hown, hending, -⟩ := Session.allocate_spec vm session code seam
  rw [perform_allocate_failed hfails]
  refine ⟨rfl, ?_⟩
  rw [Event.calls_of_own hown, Session.allocation, Op.attempts]
  rcases hmodules : client.modules with _ | ⟨module, modules⟩
  · -- no module is held, and the VM gave none
    have hlive : ¬session.moduleLive = true := fun hl => (h.moduleLive_iff hopen).1 hl hmodules
    rw [Session.allocation, if_neg hlive] at hending
    have hnone : ∀ m, (Seam.allocate vm code.id seam).ending ≠ .returned (some m) := by
      intro m hm
      rw [hm] at hending
      exact hfails _ hending
    rw [if_neg hlive, Session.calls_allocateEvents_failed code hnone, calls_dropped]
    rfl
  · have hlive : session.moduleLive = true := (h.moduleLive_iff hopen).2 (by simp [hmodules])
    rw [if_pos hlive]
    exact calls_dropped code

theorem link_failed {L : Ledger} (h : Mirrors L client) {module : LoadedModule}
    (hmodule : module ∈ client.modules) (options : HostOptions) :
    (perform vm session client (.link module options) seam).1 = client ∧
      Event.calls (perform vm session client (.link module options) seam).2.1 =
        Op.attempts vm client seam (.link module options) := by
  obtain ⟨codes, m, code, rfl, -, -⟩ := h.held hmodule
  obtain ⟨hown, -, -⟩ := Session.link_spec vm m code options seam
  refine ⟨by simp [perform], ?_⟩
  rw [show (perform vm session client (.link ⟨some m, code⟩ options) seam).2.1 =
    (Session.link vm ⟨some m, code⟩ options seam).trace by simp [perform]]
  exact (Event.calls_of_own hown).trans (Session.calls_linkEvents ..)

theorem entryClosure_failed {L : Ledger} (h : Mirrors L client) {module : LoadedModule}
    (hmodule : module ∈ client.modules) :
    (perform vm session client (.entryClosure module) seam).1 = client ∧
      Event.calls (perform vm session client (.entryClosure module) seam).2.1 =
        Op.attempts vm client seam (.entryClosure module) := by
  obtain ⟨codes, m, code, rfl, -, -⟩ := h.held hmodule
  obtain ⟨hown, -, -⟩ := Session.entryClosure_spec vm m code seam
  refine ⟨by simp [perform], ?_⟩
  rw [show (perform vm session client (.entryClosure ⟨some m, code⟩) seam).2.1 =
    (Session.entryClosure vm ⟨some m, code⟩ seam).trace by simp [perform]]
  exact (Event.calls_of_own hown).trans (Session.calls_entryEvents ..)

/-- A failed operation leaves what was not handed over, by what it asked for and by giving up the
rest. -/
theorem perform_failed {L : Ledger} (h : Mirrors L client) (hopen : client.session = some session)
    (hop : client.Admits op) (hfails : Fails vm session seam op) :
    (perform vm session client op seam).1 = client.spend op ∧
      Event.calls (perform vm session client op seam).2.1 =
        op.attempts vm client seam ++ op.spent.elim [] givenUp := by
  cases op with
  | load opening path => simpa [Op.spent, spend] using load_failed hfails
  | allocate code => exact allocate_failed h hopen hfails
  | link module options => simpa [Op.spent, spend] using link_failed h hop options
  | entryClosure module => simpa [Op.spent, spend] using entryClosure_failed h hop
  | compact | dropCode | free | finish => exact hfails.elim

/-- Asking the VM for something takes nothing away. -/
theorem attempts_spare {call : Vm.Call} (hcall : call ∈ op.attempts vm client seam) :
    (∀ c, call.ends c = false) ∧ ∀ m, call.frees m = false := by
  cases op with
  | load opening path =>
    rw [Op.attempts] at hcall
    split at hcall <;> simp at hcall
    subst hcall
    exact ⟨fun _ => rfl, fun _ => rfl⟩
  | allocate code =>
    rw [Op.attempts] at hcall
    split at hcall <;> simp at hcall
    subst hcall
    exact ⟨fun _ => rfl, fun _ => rfl⟩
  | link module options =>
    obtain ⟨m, -, rfl⟩ : ∃ m, module.id = some m ∧ _ = call := by
      simpa [Op.attempts] using hcall
    exact ⟨fun _ => rfl, fun _ => rfl⟩
  | entryClosure module =>
    obtain ⟨m, -, rfl⟩ : ∃ m, module.id = some m ∧ _ = call := by
      simpa [Op.attempts] using hcall
    exact ⟨fun _ => rfl, fun _ => rfl⟩
  | compact | dropCode | free | finish => cases hcall

/-- Giving a program up takes no other one away. -/
theorem givenUp_spare {call : Vm.Call} (hcall : call ∈ givenUp code) :
    (∀ c, c ≠ code.id → call.ends c = false) ∧ ∀ m, call.frees m = false := by
  have hcases : call = .compact code.id ∨ call = .release code.id := by
    rw [givenUp] at hcall
    split at hcall
    · exact .inr (List.mem_singleton.1 hcall)
    · simpa using hcall
  rcases hcases with rfl | rfl
  · exact ⟨fun c hc => by simp [Vm.Call.ends, hc.symm], fun _ => rfl⟩
  · exact ⟨fun c hc => by simp [Vm.Call.ends, hc.symm], fun _ => rfl⟩

/-- A failed operation takes nothing away but what was handed over. -/
theorem failed_spares {call : Vm.Call}
    (hcall : call ∈ op.attempts vm client seam ++ op.spent.elim [] givenUp) :
    (∀ c, (∀ code, op.spent = some code → c ≠ code.id) → call.ends c = false) ∧
      ∀ m, call.frees m = false := by
  rcases List.mem_append.1 hcall with hasked | hgiven
  · exact ⟨fun c _ => (attempts_spare hasked).1 c, (attempts_spare hasked).2⟩
  cases hspent : op.spent with
  | none =>
    rw [hspent] at hgiven
    cases hgiven
  | some code =>
    rw [hspent] at hgiven
    exact ⟨fun c hc => (givenUp_spare hgiven).1 c (hc code rfl), (givenUp_spare hgiven).2⟩

/-- What is handed over is held until then. -/
theorem Admits.mem_codes (hop : client.Admits op) (hspent : op.spent = some code) :
    code ∈ client.codes := by
  cases op <;> cases hspent <;> exact hop

/-- What is still held after something was handed over is something else. -/
theorem Mirrors.id_ne_spent {L : Ledger} {kept : ParsedCode} (h : Mirrors L client)
    (hop : client.Admits op) (hspent : op.spent = some code)
    (hkept : kept ∈ (client.spend op).programs) : kept.id ≠ code.id := by
  have hperm : client.programs.Perm (code :: (client.spend op).programs) := by
    rw [programs, programs, spend, hspent]
    exact ((List.perm_cons_erase (Admits.mem_codes hop hspent)).append_left _).trans List.perm_middle
  have hdistinct := ((hperm.map ParsedCode.id).nodup_iff).1 h.distinct
  intro he
  exact (List.nodup_cons.1 hdistinct).1 (he ▸ List.mem_map_of_mem hkept)

/-! ## What can still be done -/

/-- A client that differs from another one by not holding a program. -/
structure Without (code : ParsedCode) (client other : Client) : Prop where
  session : other.session = client.session
  modules : other.modules = client.modules
  codes : client.codes.Perm (code :: other.codes)

/-- What does not take the program is admitted without it. -/
theorem Without.admits (h : Without code client other) (hspent : op.spent ≠ some code)
    (hop : client.Admits op) : other.Admits op := by
  have hcodes : ∀ kept, kept ≠ code → kept ∈ client.codes → kept ∈ other.codes := by
    intro kept hne hkept
    exact (List.mem_cons.1 (h.codes.mem_iff.1 hkept)).resolve_left hne
  cases op with
  | load => trivial
  | allocate kept | dropCode kept => exact hcodes kept (fun he => hspent (he ▸ rfl)) hop
  | link | compact | entryClosure | free =>
    rw [Admits, h.modules]
    exact hop
  | finish =>
    -- as long as the program is held, the session is not finished
    have hcons := h.codes
    rw [hop.1] at hcons
    cases hcons.nil_eq

theorem Without.cons (h : Without code client other) (loaded : ParsedCode) :
    Without code { client with codes := loaded :: client.codes }
      { other with codes := loaded :: other.codes } :=
  ⟨h.session, h.modules, (h.codes.cons loaded).trans (.swap ..)⟩

theorem Without.erase (kept : ParsedCode) (h : Without code client other) (hne : kept ≠ code) :
    Without code { client with codes := client.codes.erase kept }
      { other with codes := other.codes.erase kept } := by
  refine ⟨h.session, h.modules, ?_⟩
  have herase := h.codes.erase kept
  rwa [List.erase_cons_tail (by simpa using hne.symm)] at herase

theorem Without.put (h : Without code client other) (session : Option Session)
    (modules : List LoadedModule) :
    Without code { client with session, modules } { other with session, modules } :=
  ⟨rfl, rfl, h.codes⟩

/-- An operation that does not take the program does the same without it. -/
theorem Without.perform (vm : Vm σ) (session : Session) (seam : Seam σ)
    (h : Without code client other) (hspent : op.spent ≠ some code) :
    (Client.perform vm session other op seam).2 = (Client.perform vm session client op seam).2 ∧
      Without code (Client.perform vm session client op seam).1
        (Client.perform vm session other op seam).1 := by
  cases op with
  | load opening path =>
    rcases hend : (Session.load vm opening path seam).ending with (failure | loaded) | p
    · simpa [Client.perform, hend] using h
    · simpa [Client.perform, hend] using h.cons loaded
    · simpa [Client.perform, hend] using h
  | allocate kept =>
    have herase := h.erase kept fun he => hspent (he ▸ rfl)
    rcases hend : (Session.allocate vm session kept seam).ending with (failure | built) | p
    · simpa [Client.perform, hend] using herase
    · simpa [Client.perform, hend, h.modules] using
        herase.put (some built.2) (built.1 :: client.modules)
    · simpa [Client.perform, hend] using herase
  | dropCode kept =>
    have herase := h.erase kept fun he => hspent (he ▸ rfl)
    simpa [Client.perform] using herase
  | link | entryClosure => simpa [Client.perform] using h
  | compact module => simpa [Client.perform, h.modules, h.session] using h.put client.session _
  | free module => simpa [Client.perform, h.modules] using h.put _ (client.modules.erase module)
  | finish => simpa [Client.perform, h.modules] using h.put none client.modules

/-- What never takes the program can be performed without it. -/
theorem Without.able {ops : List Op} (h : Without code client other)
    (hops : ∀ next ∈ ops, next.spent ≠ some code) (hable : Able vm client seam ops) :
    Able vm other seam ops := by
  obtain ⟨later, laterSeam, hperforms⟩ := hable
  induction hperforms generalizing other with
  | done => exact ⟨_, _, .done⟩
  | @next client later seam laterSeam session op ops hopen hop _ ih =>
    have hspent : op.spent ≠ some code := hops op List.mem_cons_self
    obtain ⟨hsame, hwithout⟩ := h.perform vm session seam hspent
    obtain ⟨last, lastSeam, hrest⟩ :=
      ih hwithout fun next hnext => hops next (List.mem_cons_of_mem _ hnext)
    rw [← hsame] at hrest
    exact ⟨last, lastSeam, .next (h.session.trans hopen) (h.admits hspent hop) hrest⟩

/-- What a client hands over is all that it is without. -/
theorem without_spend (hop : client.Admits op) (hspent : op.spent = some code) :
    Without code client (client.spend op) := by
  refine ⟨rfl, rfl, ?_⟩
  rw [spend, hspent]
  exact List.perm_cons_erase (Admits.mem_codes hop hspent)

/-- As long as no module is held, the VM is asked for one. -/
theorem Mirrors.asks {L : Ledger} (h : Mirrors L client) (hopen : client.session = some session)
    (hmodules : client.modules = []) (code : ParsedCode) (seam : Seam σ) :
    ∃ rest, Event.calls (perform vm session client (.allocate code) seam).2.1 =
      .allocate code.id (Seam.allocate vm code.id seam).ending :: rest := by
  have hlive : ¬session.moduleLive = true := fun hl => (h.moduleLive_iff hopen).1 hl hmodules
  obtain ⟨hown, -, -⟩ := Session.allocate_spec vm session code seam
  have htrace : (perform vm session client (.allocate code) seam).2.1 =
      (Session.allocate vm session code seam).trace := by
    rcases hend : (Session.allocate vm session code seam).ending with (failure | built) | p <;>
      simp [perform, hend]
  rw [htrace, Event.calls_of_own hown, Session.allocation, if_neg hlive]
  exact ⟨_, rfl⟩

/-- In every state that a client can come to, a failure is contained. -/
theorem failure_contained {trace : List Event} (h : Reaches vm client trace seam)
    (hopen : client.session = some session) (hop : client.Admits op)
    (hfails : Fails vm session seam op) : Contained vm session client seam op := by
  have hmirrors : Mirrors _ client := h.keeps.mirrors
  obtain ⟨hleft, hcalls⟩ := perform_failed hmirrors hopen hop hfails
  constructor
  case left => exact hleft
  case calls => exact hcalls
  case programs_spared =>
    rw [hcalls]
    intro kept hkept call hcall
    exact (failed_spares hcall).1 _ fun code hspent => hmirrors.id_ne_spent hop hspent hkept
  case module_spared =>
    rw [hcalls]
    intro m call hcall
    exact (failed_spares hcall).2 m
  case able =>
    intro τ future start ops hops hable
    rw [hleft]
    rcases hspent : op.spent with _ | code
    · rwa [spend, hspent]
    · exact (without_spend hop hspent).able (hops code hspent) hable
  case able_after =>
    rintro τ future start code ops hspent ⟨later, laterSeam, hperforms⟩
    cases hperforms with
    | next hopen' _ hrest =>
      cases hopen.symm.trans hopen'
      refine ⟨later, laterSeam, ?_⟩
      rw [hleft, spend, hspent]
      exact hrest
  case asks =>
    intro ops later laterSeam reopened code hperforms hreopened hmodules
    obtain ⟨laterTrace, hlater⟩ := (h.step hopen hop).performs hperforms
    exact hlater.keeps.mirrors.asks hreopened hmodules code laterSeam

/-- A client that asks for a second module: its program is given up, and nothing else. -/
theorem failure_contained_rehearsal :
    ∃ client trace seam,
      Reaches Rehearsal.ScriptedVm.vm client trace seam ∧ client.session = some ⟨true⟩ ∧
      client.Admits (.allocate ⟨⟨1⟩, false⟩) ∧
      Fails Rehearsal.ScriptedVm.vm ⟨true⟩ seam (.allocate ⟨⟨1⟩, false⟩) ∧
      Event.calls (perform Rehearsal.ScriptedVm.vm ⟨true⟩ client
        (.allocate ⟨⟨1⟩, false⟩) seam).2.1 = [.compact ⟨1⟩, .release ⟨1⟩] ∧
      Contained Rehearsal.ScriptedVm.vm ⟨true⟩ client seam (.allocate ⟨⟨1⟩, false⟩) := by
  have started : Reaches Rehearsal.ScriptedVm.vm _ _ _ :=
    .start (show (Session.start Rehearsal.ScriptedVm.vm (Seam.fresh
      (Rehearsal.ScriptedVm.fresh (.fresh none) ⟨[], [], [], [], [], [], []⟩))).1 =
        .ok ⟨false⟩ from rfl)
  have loaded := started.step rfl
    (show Admits _ (.load (fun _ => .ok ⟨.ok 0, []⟩) .empty) from trivial)
  have built := loaded.step rfl
    (show Admits _ (.allocate ⟨⟨0⟩, false⟩) from List.mem_singleton.2 rfl)
  have loadedAgain := built.step rfl
    (show Admits _ (.load (fun _ => .ok ⟨.ok 0, []⟩) .empty) from trivial)
  have hfails : ∀ seam, Fails Rehearsal.ScriptedVm.vm ⟨true⟩ seam (.allocate ⟨⟨1⟩, false⟩) :=
    fun _ _ => nofun
  exact ⟨_, _, _, loadedAgain, rfl, List.mem_singleton.2 rfl, hfails _, rfl,
    failure_contained loadedAgain rfl (List.mem_singleton.2 rfl) (hfails _)⟩

end Client

end Launcher
