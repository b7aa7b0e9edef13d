import Launcher.Proofs.Seam.Ledger
import Launcher.Proofs.Session.Operations
import Mathlib.Data.List.Perm.Basic

/-!
# What a session owes

A ledger owes a list of programs and a module when these are what is left to release in a live
session, no more and no less (`Ledger.Owes`). Every operation of a session takes one such ledger to
another, by calls that are in order; there is one lemma for each kind of call.

- `Idles`: calls that change nothing, such as those of an operation that failed.
- `Owes.parse`, `Owes.allocate`: what is acquired is owed.
- `Owes.strip`, `Owes.drop`, `Owes.freeModule`: what is released is owed no more.
- `Owes.finish`: the global state is released when nothing else is owed.
-/

namespace Launcher

/-- How far a held program has come. -/
def ParsedCode.phase (code : ParsedCode) : CodePhase :=
  if code.compacted then .stripped else .whole

namespace Ledger

/-- A live session has exactly these programs and this module, with its program, left to release. -/
structure Owes (L : Ledger) (programs : List ParsedCode) (module : Option (ModuleId × CodeId)) :
    Prop where
  live : L.state = .live
  distinct : (programs.map ParsedCode.id).Nodup
  held : ∀ code ∈ programs, L.code code.id = code.phase
  others : ∀ c, c ∉ programs.map ParsedCode.id → L.code c = .unknown ∨ L.code c = .released
  alive : ∀ m c, L.module m = .alive c ↔ module = some (m, c)

/-- A row of calls that is in order and changes nothing. -/
structure Idles (L : Ledger) (calls : List Vm.Call) : Prop where
  accepts : L.Accepts calls
  run : L.run calls = L

/-- Loading an image without success changes nothing. -/
theorem idles_load {L : Ledger} {path : Path} {loading : Loading} (hlive : L.state = .live)
    (h : ∀ code, Session.loadAnswer path loading ≠ .returned (.ok code)) :
    L.Idles (Event.calls (Session.loadEvents path loading)) := by
  rcases Session.calls_loadEvents_failed h with hnone | ⟨image, answer, hparse, hfailed⟩
  · rw [hnone]
    exact ⟨trivial, rfl⟩
  · rw [hparse]
    exact ⟨⟨⟨hlive, fun c hc => absurd hc (hfailed c)⟩, trivial⟩,
      L.after_parse_failed image hfailed⟩

/-- Linking a module that is alive changes nothing, whatever the answer. -/
theorem idles_link {L : Ledger} {m : ModuleId} {c : CodeId} (hlive : L.state = .live)
    (hm : L.module m = .alive c) (options : HostOptions) (answer : Ending (Except String Unit)) :
    L.Idles [.link m options answer] :=
  ⟨⟨⟨hlive, c, hm⟩, trivial⟩, rfl⟩

/-- Looking the entrypoint of a module up that is alive changes nothing, whatever the answer. -/
theorem idles_entryClosure {L : Ledger} {m : ModuleId} {c : CodeId} (hlive : L.state = .live)
    (hm : L.module m = .alive c) (answer : Ending (Except String Closure)) :
    L.Idles [.entryClosure m answer] :=
  ⟨⟨⟨hlive, c, hm⟩, trivial⟩, rfl⟩

/-- A session that has just been started owes nothing. -/
theorem owes_nothing : (empty.after (.globalInit (.ok ()))).Owes [] none where
  live := rfl
  distinct := List.nodup_nil
  held := fun _ h => nomatch h
  others := fun _ _ => .inl rfl
  alive := fun m c => by simp [after, empty]

namespace Owes

variable {L : Ledger} {programs : List ParsedCode} {module : Option (ModuleId × CodeId)}
  {code : ParsedCode}

/-- The order in which programs are owed does not matter. -/
theorem perm {others : List ParsedCode} (h : L.Owes programs module)
    (hperm : programs.Perm others) : L.Owes others module where
  live := h.live
  distinct := ((hperm.map _).nodup_iff).1 h.distinct
  held := fun code hc => h.held code (hperm.mem_iff.2 hc)
  others := fun c hc => h.others c fun hm => hc ((hperm.map _).mem_iff.1 hm)
  alive := h.alive

/-- No two programs that are owed are the same. -/
theorem id_ne {other : ParsedCode} (h : L.Owes (code :: programs) module)
    (hother : other ∈ programs) : other.id ≠ code.id := by
  intro he
  have hmem : other.id ∈ programs.map ParsedCode.id := List.mem_map_of_mem hother
  exact (List.nodup_cons.1 h.distinct).1 (he ▸ hmem)

/-- A program that was parsed is owed. -/
theorem parse {c : CodeId} (h : L.Owes programs module) (hc : L.code c = .unknown)
    (image : List UInt8) :
    L.Allows (.parse image (.returned (.ok c))) ∧
      (L.after (.parse image (.returned (.ok c)))).Owes (⟨c, false⟩ :: programs) module := by
  -- a program that is owed has come further than unknown
  have hnew : c ∉ programs.map ParsedCode.id := by
    intro hm
    obtain ⟨code, hcode, rfl⟩ := List.mem_map.1 hm
    rw [h.held code hcode, ParsedCode.phase] at hc
    split at hc <;> cases hc
  refine ⟨⟨h.live, fun d hd => by cases hd; exact hc⟩, h.live, ?_, ?_, ?_, h.alive⟩
  · exact List.nodup_cons.2 ⟨hnew, h.distinct⟩
  · intro code hcode
    rcases List.mem_cons.1 hcode with rfl | hcode
    · simp [after, ParsedCode.phase]
    · have hne : code.id ≠ c := fun he => hnew (he ▸ List.mem_map_of_mem hcode)
      simpa [after, hne] using h.held code hcode
  · intro d hd
    rw [List.map_cons, List.mem_cons, not_or] at hd
    simpa [after, hd.1] using h.others d hd.2

/-- Dropping the bodies of a program, unless that has been done, leaves it owed without them. -/
theorem strip (h : L.Owes (code :: programs) module) :
    L.Accepts (Event.calls (Session.compactEvents code)) ∧
      (L.run (Event.calls (Session.compactEvents code))).Owes
        ({ code with compacted := true } :: programs) module := by
  obtain ⟨id, compacted⟩ := code
  cases compacted with
  | true => simpa using h
  | false =>
    have hid : L.code id = .whole := h.held _ List.mem_cons_self
    refine ⟨by simpa [Allows] using ⟨h.live, hid⟩, h.live, h.distinct, ?_, ?_, h.alive⟩
    · intro code hcode
      rcases List.mem_cons.1 hcode with rfl | hcode
      · simp [after, ParsedCode.phase]
      · have hne : code.id ≠ id := h.id_ne hcode
        simpa [after, hne] using h.held code (List.mem_cons_of_mem _ hcode)
    · intro d hd
      have hne : d ≠ id := fun he => hd (he ▸ List.mem_cons_self)
      simpa [after, hne] using h.others d hd

/-- A program that no module needs can be given up, and is owed no more. -/
theorem drop (h : L.Owes (code :: programs) module) (hfree : ∀ m, module ≠ some (m, code.id)) :
    L.Accepts (Event.calls (Session.dropEvents code)) ∧
      (L.run (Event.calls (Session.dropEvents code))).Owes programs module := by
  obtain ⟨haccepts, hstripped⟩ := h.strip
  rw [Session.calls_dropEvents, accepts_append, run_append]
  generalize L.run (Event.calls (Session.compactEvents code)) = L' at haccepts hstripped
  have hid : L'.code code.id = .stripped := hstripped.held _ List.mem_cons_self
  have hdistinct := (List.nodup_cons.1 hstripped.distinct).2
  -- stripping comes first, as a program is released only when it has been stripped
  refine ⟨⟨haccepts, ⟨hstripped.live, hid, fun m hm => ?_⟩, trivial⟩,
    hstripped.live, hdistinct, ?_, ?_, hstripped.alive⟩
  · exact hfree m ((hstripped.alive m code.id).1 hm)
  · intro other hother
    have hne : other.id ≠ code.id := hstripped.id_ne hother
    simpa [after, hne] using hstripped.held other (List.mem_cons_of_mem _ hother)
  · intro d hd
    by_cases hne : d = code.id
    · simp [after, hne]
    · have hcons : d ∉ (({ code with compacted := true } : ParsedCode) :: programs).map
          ParsedCode.id := by
        simpa [hne] using hd
      simpa [after, hne] using hstripped.others d hcons

/-- A module may be asked for when none is alive. -/
theorem ask {answer : Ending (Option ModuleId)} (h : L.Owes programs none)
    (hcode : code ∈ programs) (hm : ∀ m, answer = .returned (some m) → L.module m = .unknown) :
    L.Allows (.allocate code.id answer) := by
  refine ⟨h.live, ?_, fun m d => by simp [h.alive], hm⟩
  rw [h.held code hcode, ParsedCode.phase]
  split
  · exact .inr rfl
  · exact .inl rfl

/-- A module that was built is owed, besides its program. -/
theorem allocate {m : ModuleId} (h : L.Owes programs none) (hm : L.module m = .unknown) :
    (L.after (.allocate code.id (.returned (some m)))).Owes programs (some (m, code.id)) := by
  refine ⟨h.live, h.distinct, h.held, h.others, fun n c => ?_⟩
  by_cases hn : n = m
  · subst hn
    simp [after]
  · have hnone : L.module n ≠ .alive c := by simp [h.alive]
    simp [after, hn, hnone, Ne.symm hn]

/-- A module that is freed is owed no more; its program still is. -/
theorem freeModule {m : ModuleId} {c : CodeId} (h : L.Owes programs (some (m, c))) :
    L.Allows (.freeModule m) ∧ (L.after (.freeModule m)).Owes programs none := by
  have hm : L.module m = .alive c := (h.alive m c).2 rfl
  have hafter : L.after (.freeModule m) =
      { L with module := Function.update L.module m (.freed c) } := by
    simp [after, hm]
  rw [hafter]
  refine ⟨⟨h.live, c, hm⟩, h.live, h.distinct, h.held, h.others, fun n d => ?_⟩
  by_cases hn : n = m
  · subst hn
    simp
  · have hnone : L.module n ≠ .alive d := by simp [h.alive, Ne.symm hn]
    simp [hn, hnone]

/-- What is alive can be linked and looked into. -/
theorem module_alive {m : ModuleId} {c : CodeId} (h : L.Owes programs (some (m, c))) :
    L.module m = .alive c :=
  (h.alive m c).2 rfl

theorem settled (h : L.Owes [] none) : L.Settled :=
  ⟨fun c => h.others c (List.not_mem_nil), fun m c => by simp [h.alive]⟩

/-- The global state can be released when nothing else is owed. -/
theorem finish (h : L.Owes [] none) : L.Allows .globalTeardown := ⟨h.live, h.settled⟩

end Owes

end Ledger

end Launcher
