import Launcher.Seam.Vm
import Mathlib.Logic.Function.Basic

/-!
# The ledger of a session

The calls across the seam are entered into a ledger: how far the global state, every program and
every module have come. The ledger says which call is in order next (`Ledger.Allows`), and a row of
calls is in order when each of them is allowed by the ledger that the calls before it left
(`Ledger.Accepts`). One module at most may be alive, a program is released after its bodies were
dropped and after the module built from it was freed, the global state when nothing else is left.

What an accepted row of calls looks like is derived here once, whoever makes the calls:

- `filter_ends`: the bodies of a program are dropped once, then the program is released once.
- `filter_frees`: a module is freed once.
- `released_after_freed`, `allocated_alone`: what has happened to a module before its program is
  released, and before another module is asked for.
- `not_mentions_of_released`, `not_mentions_of_freed`: what is gone is not mentioned again.
- `ended_once`, `freed_once`: when nothing is left, nothing was released twice or not at all.
- `teardown_last`: the release of the global state is the last call.
-/

namespace Launcher

/-- How far a program has come. -/
inductive CodePhase
  | unknown
  /-- Parsed, with its bodies. -/
  | whole
  /-- Its bodies have been dropped. -/
  | stripped
  | released
  deriving DecidableEq

/-- How far a module has come, and the program it was built from. -/
inductive ModulePhase
  | unknown
  | alive (code : CodeId)
  | freed (code : CodeId)
  deriving DecidableEq

/-- How far the global state has come. -/
inductive GlobalPhase
  | absent
  | live
  | gone
  deriving DecidableEq

/-- The calls that dropped the bodies of a program and released it, by how far it has come. -/
def CodePhase.past (c : CodeId) : CodePhase → List Vm.Call
  | .unknown | .whole => []
  | .stripped => [.compact c]
  | .released => [.compact c, .release c]

/-- The calls that freed a module, by how far it has come. -/
def ModulePhase.past (m : ModuleId) : ModulePhase → List Vm.Call
  | .unknown | .alive _ => []
  | .freed _ => [.freeModule m]

/-- The program that a module was built from. -/
def ModulePhase.code? : ModulePhase → Option CodeId
  | .unknown => none
  | .alive c | .freed c => some c

/-- What the calls so far have left. -/
structure Ledger where
  state : GlobalPhase
  code : CodeId → CodePhase
  module : ModuleId → ModulePhase

namespace Vm.Call

/-- Whether a call drops the bodies of a program or releases it. -/
def ends (c : CodeId) : Vm.Call → Bool
  | .compact d => d = c
  | .release d => d = c
  | _ => false

/-- Whether a call frees a module. -/
def frees (m : ModuleId) : Vm.Call → Bool
  | .freeModule n => n = m
  | _ => false

/-- Whether a call was answered with a new program or a new module. -/
def gives : Vm.Call → Bool
  | .parse _ (.returned (.ok _)) => true
  | .allocate _ (.returned (some _)) => true
  | _ => false

/-- Whether a call, or its answer, names a program. -/
def MentionsCode (c : CodeId) : Vm.Call → Prop
  | .parse _ answer => answer = .returned (.ok c)
  | .compact d => d = c
  | .release d => d = c
  | .allocate d _ => d = c
  | _ => False

/-- Whether a call, or its answer, names a module. -/
def MentionsModule (m : ModuleId) : Vm.Call → Prop
  | .allocate _ answer => answer = .returned (some m)
  | .link n _ _ => n = m
  | .freeModule n => n = m
  | .entryClosure n _ => n = m
  | _ => False

end Vm.Call

namespace Ledger

/-- The ledger before any call. -/
def empty : Ledger := ⟨.absent, fun _ => .unknown, fun _ => .unknown⟩

/-- No program and no module is left. -/
def Settled (L : Ledger) : Prop :=
  (∀ c, L.code c = .unknown ∨ L.code c = .released) ∧ ∀ m c, L.module m ≠ .alive c

/-- What a call changes. -/
def after (L : Ledger) : Vm.Call → Ledger
  | .globalInit (.ok ()) => { L with state := .live }
  | .globalTeardown => { L with state := .gone }
  | .parse _ (.returned (.ok c)) => { L with code := Function.update L.code c .whole }
  | .compact c => { L with code := Function.update L.code c .stripped }
  | .release c => { L with code := Function.update L.code c .released }
  | .allocate c (.returned (some m)) => { L with module := Function.update L.module m (.alive c) }
  | .freeModule m =>
    match L.module m with
    | .alive c => { L with module := Function.update L.module m (.freed c) }
    | _ => L
  | _ => L

/-- Whether a call is in order. -/
def Allows (L : Ledger) : Vm.Call → Prop
  | .globalInit _ => L.state = .absent
  | .globalTeardown => L.state = .live ∧ L.Settled
  | .parse _ answer => L.state = .live ∧ ∀ c, answer = .returned (.ok c) → L.code c = .unknown
  | .compact c => L.state = .live ∧ L.code c = .whole
  | .release c => L.state = .live ∧ L.code c = .stripped ∧ ∀ m, L.module m ≠ .alive c
  | .allocate c answer =>
    L.state = .live ∧ (L.code c = .whole ∨ L.code c = .stripped) ∧
      (∀ m d, L.module m ≠ .alive d) ∧ ∀ m, answer = .returned (some m) → L.module m = .unknown
  | .link m _ _ => L.state = .live ∧ ∃ c, L.module m = .alive c
  | .freeModule m => L.state = .live ∧ ∃ c, L.module m = .alive c
  | .entryClosure m _ => L.state = .live ∧ ∃ c, L.module m = .alive c
  | .call .. | .callSetup .. | .describeFault .. | .exceptionStack _ | .debugBreak _ =>
    L.state = .live

/-- The ledger after a row of calls. -/
def run (L : Ledger) (calls : List Vm.Call) : Ledger := calls.foldl after L

/-- Whether each call of a row is in order when its turn comes. -/
def Accepts : Ledger → List Vm.Call → Prop
  | _, [] => True
  | L, call :: rest => L.Allows call ∧ (L.after call).Accepts rest

@[simp] theorem run_nil (L : Ledger) : L.run [] = L := rfl

@[simp] theorem run_cons (L : Ledger) (call : Vm.Call) (rest : List Vm.Call) :
    L.run (call :: rest) = (L.after call).run rest := rfl

@[simp] theorem run_append (L : Ledger) (before rest : List Vm.Call) :
    L.run (before ++ rest) = (L.run before).run rest :=
  List.foldl_append

@[simp] theorem accepts_nil (L : Ledger) : L.Accepts [] := trivial

@[simp] theorem accepts_cons (L : Ledger) (call : Vm.Call) (rest : List Vm.Call) :
    L.Accepts (call :: rest) ↔ L.Allows call ∧ (L.after call).Accepts rest := Iff.rfl

@[simp] theorem accepts_append (L : Ledger) (before rest : List Vm.Call) :
    L.Accepts (before ++ rest) ↔ L.Accepts before ∧ (L.run before).Accepts rest := by
  induction before generalizing L with
  | nil => simp
  | cons call before ih => simp [ih, and_assoc]

/-! ## What one call can do -/

/-- A program changes by being parsed, stripped or released, and by nothing else. -/
theorem code_after (L : Ledger) (call : Vm.Call) (c : CodeId) :
    (L.after call).code c = L.code c ∨
    ((∃ image, call = .parse image (.returned (.ok c))) ∧ (L.after call).code c = .whole) ∨
    (call = .compact c ∧ (L.after call).code c = .stripped) ∨
    (call = .release c ∧ (L.after call).code c = .released) := by
  cases call with
  | parse image answer =>
    rcases answer with (_ | d) | _
    · exact .inl rfl
    · by_cases hd : c = d
      · subst hd
        exact .inr (.inl ⟨⟨image, rfl⟩, Function.update_self ..⟩)
      · exact .inl (Function.update_of_ne hd ..)
    · exact .inl rfl
  | compact d =>
    by_cases hd : c = d
    · subst hd
      exact .inr (.inr (.inl ⟨rfl, Function.update_self ..⟩))
    · exact .inl (Function.update_of_ne hd ..)
  | release d =>
    by_cases hd : c = d
    · subst hd
      exact .inr (.inr (.inr ⟨rfl, Function.update_self ..⟩))
    · exact .inl (Function.update_of_ne hd ..)
  | allocate d answer => rcases answer with (_ | m) | _ <;> exact .inl rfl
  | globalInit answer => cases answer <;> exact .inl rfl
  | freeModule m =>
    refine .inl ?_
    simp only [after]
    split <;> rfl
  | _ => exact .inl rfl

/-- A module changes by being built or freed, and by nothing else. -/
theorem module_after (L : Ledger) (call : Vm.Call) (m : ModuleId) :
    (L.after call).module m = L.module m ∨
    (∃ c, call = .allocate c (.returned (some m)) ∧ (L.after call).module m = .alive c) ∨
    (∃ c, call = .freeModule m ∧ L.module m = .alive c ∧ (L.after call).module m = .freed c) := by
  cases call with
  | parse image answer => rcases answer with (_ | d) | _ <;> exact .inl rfl
  | globalInit answer => cases answer <;> exact .inl rfl
  | allocate c answer =>
    rcases answer with (_ | n) | _
    · exact .inl rfl
    · by_cases hn : m = n
      · subst hn
        exact .inr (.inl ⟨c, rfl, Function.update_self ..⟩)
      · exact .inl (Function.update_of_ne hn ..)
    · exact .inl rfl
  | freeModule n =>
    simp only [after]
    split
    · rename_i c hc
      by_cases hn : m = n
      · subst hn
        exact .inr (.inr ⟨c, rfl, hc, Function.update_self ..⟩)
      · exact .inl (Function.update_of_ne hn ..)
    · exact .inl rfl
  | _ => exact .inl rfl

/-- An image that could not be parsed changes nothing. -/
theorem after_parse_failed (L : Ledger) (image : List UInt8)
    {answer : Ending (Except String CodeId)} (h : ∀ c, answer ≠ .returned (.ok c)) :
    L.after (.parse image answer) = L := by
  rcases answer with (_ | c) | _
  · rfl
  · exact absurd rfl (h c)
  · rfl

/-- A module that was not built changes nothing. -/
theorem after_allocate_failed (L : Ledger) (c : CodeId) {answer : Ending (Option ModuleId)}
    (h : ∀ m, answer ≠ .returned (some m)) : L.after (.allocate c answer) = L := by
  rcases answer with (_ | m) | _
  · rfl
  · exact absurd rfl (h m)
  · rfl

/-- A property that calls in order preserve holds after a row of them. -/
theorem run_stable {P : Ledger → Prop}
    (step : ∀ (L : Ledger) (call : Vm.Call), L.Allows call → P L → P (L.after call))
    {L : Ledger} {calls : List Vm.Call} (h : L.Accepts calls) (hL : P L) : P (L.run calls) := by
  induction calls generalizing L with
  | nil => exact hL
  | cons call rest ih => exact ih h.2 (step L call h.1 hL)

/-- What rules a call out, and is preserved by calls in order, rules it out for good. -/
theorem never_of_stable {P : Ledger → Prop} {Q : Vm.Call → Prop}
    (step : ∀ (L : Ledger) (call : Vm.Call), L.Allows call → P L → P (L.after call) ∧ ¬ Q call)
    {L : Ledger} {calls : List Vm.Call} (h : L.Accepts calls) (hL : P L) :
    ∀ call ∈ calls, ¬ Q call := by
  induction calls generalizing L with
  | nil => exact List.forall_mem_nil _
  | cons call rest ih =>
    obtain ⟨hkept, hnot⟩ := step L call h.1 hL
    exact List.forall_mem_cons.2 ⟨hnot, ih h.2 hkept⟩

/-- What a ledger keeps of the calls of some kind, if it grows by each of them, grows by those of a
row of calls. -/
theorem filter_run {past : Ledger → List Vm.Call} {kind : Vm.Call → Bool}
    (step : ∀ (L : Ledger) (call : Vm.Call), L.Allows call →
      past L ++ [call].filter kind = past (L.after call))
    {L : Ledger} {calls : List Vm.Call} (h : L.Accepts calls) :
    past L ++ calls.filter kind = past (L.run calls) := by
  induction calls generalizing L with
  | nil => exact List.append_nil _
  | cons call rest ih =>
    rw [run_cons, ← ih h.2, ← step L call h.1, List.append_assoc, ← List.filter_append]
    rfl

/-! ## Numbers -/

/-- From these numbers on, no program and no module is known. -/
structure Unused (L : Ledger) (numbers : Nat × Nat) : Prop where
  code : ∀ c : CodeId, numbers.1 ≤ c.number → L.code c = .unknown
  module : ∀ m : ModuleId, numbers.2 ≤ m.number → L.module m = .unknown

/-- A call that gives out no number uses none up. -/
theorem Unused.after {L : Ledger} {numbers : Nat × Nat} {call : Vm.Call} (hL : L.Unused numbers)
    (h : L.Allows call) (hgives : call.gives = false) : (L.after call).Unused numbers where
  code c hc := by
    have hu := hL.code c hc
    rcases code_after L call c with heq | ⟨⟨image, rfl⟩, -⟩ | ⟨rfl, -⟩ | ⟨rfl, -⟩
    · rw [heq, hu]
    · cases hgives
    · cases hu.symm.trans h.2
    · cases hu.symm.trans h.2.1
  module m hm := by
    have hu := hL.module m hm
    rcases module_after L call m with heq | ⟨c, rfl, -⟩ | ⟨c, -, ha, -⟩
    · rw [heq, hu]
    · cases hgives
    · cases hu.symm.trans ha

theorem Unused.run {L : Ledger} {numbers : Nat × Nat} {calls : List Vm.Call}
    (hL : L.Unused numbers) (h : L.Accepts calls) (hgives : ∀ call ∈ calls, call.gives = false) :
    (L.run calls).Unused numbers := by
  induction calls generalizing L with
  | nil => exact hL
  | cons call rest ih =>
    exact ih (hL.after h.1 (hgives call List.mem_cons_self)) h.2
      fun other hother => hgives other (List.mem_cons_of_mem _ hother)

/-- The next program uses its number up. -/
theorem Unused.parse {L : Ledger} {n k : Nat} (hL : L.Unused (n, k)) (image : List UInt8) :
    (L.after (.parse image (.returned (.ok ⟨n⟩)))).Unused (n + 1, k) where
  code c hc := by
    have hne : c ≠ ⟨n⟩ := by
      rintro rfl
      exact absurd hc (Nat.not_succ_le_self n)
    rw [← hL.code c (Nat.le_of_succ_le hc)]
    exact Function.update_of_ne hne ..
  module := hL.module

/-- The next module uses its number up. -/
theorem Unused.allocate {L : Ledger} {n k : Nat} (hL : L.Unused (n, k)) (c : CodeId) :
    (L.after (.allocate c (.returned (some ⟨k⟩)))).Unused (n, k + 1) where
  code := hL.code
  module m hm := by
    have hne : m ≠ ⟨k⟩ := by
      rintro rfl
      exact absurd hm (Nat.not_succ_le_self k)
    rw [← hL.module m (Nat.le_of_succ_le hm)]
    exact Function.update_of_ne hne ..

/-! ## Programs -/

/-- What drops the bodies of a program or releases it comes to its past, call by call. -/
theorem past_code_after {L : Ledger} {call : Vm.Call} (h : L.Allows call) (c : CodeId) :
    (L.code c).past c ++ [call].filter (Vm.Call.ends c) = ((L.after call).code c).past c := by
  -- the two calls that count move the phase on; parsing does not touch the past
  by_cases hc : call = .compact c
  · subst hc
    simp [after, h.2, CodePhase.past, Vm.Call.ends]
  by_cases hr : call = .release c
  · subst hr
    simp [after, h.2.1, CodePhase.past, Vm.Call.ends]
  have hends : call.ends c = false := by
    cases call <;> simp_all [Vm.Call.ends]
  rw [List.filter_cons_of_neg (by simp [hends]), List.filter_nil, List.append_nil]
  rcases code_after L call c with heq | ⟨⟨image, rfl⟩, heq⟩ | ⟨rfl, -⟩ | ⟨rfl, -⟩
  · rw [heq]
  · rw [heq, h.2 c rfl]
    rfl
  · exact absurd rfl hc
  · exact absurd rfl hr

/-- The calls that drop the bodies of a program and release it, by how far it has come. -/
theorem filter_ends {calls : List Vm.Call} (h : empty.Accepts calls) (c : CodeId) :
    calls.filter (Vm.Call.ends c) = ((empty.run calls).code c).past c :=
  filter_run (fun _ _ hcall => past_code_after hcall c) h

/-- A program that was parsed stays known. -/
theorem code_of_parsed {L : Ledger} {calls : List Vm.Call} {image : List UInt8} {c : CodeId}
    (hp : .parse image (.returned (.ok c)) ∈ calls) (h : L.Accepts calls) :
    (L.run calls).code c ≠ .unknown := by
  obtain ⟨before, rest, rfl⟩ := List.append_of_mem hp
  rw [accepts_append, accepts_cons] at h
  rw [run_append, run_cons]
  -- no phase leads back to the unknown
  refine run_stable (P := fun L => L.code c ≠ .unknown) (fun L call _ hL => ?_) h.2.2 ?_
  · rcases code_after L call c with heq | ⟨-, heq⟩ | ⟨-, heq⟩ | ⟨-, heq⟩ <;> rw [heq]
    · exact hL
    all_goals simp
  · simp [after]

/-- A program that has become known was parsed. -/
theorem parsed_of_known {L : Ledger} {calls : List Vm.Call} {c : CodeId} (h : L.Accepts calls)
    (hu : L.code c = .unknown) (hk : (L.run calls).code c ≠ .unknown) :
    ∃ image, .parse image (.returned (.ok c)) ∈ calls := by
  induction calls generalizing L with
  | nil => exact absurd hu hk
  | cons call rest ih =>
    rcases code_after L call c with heq | ⟨⟨image, rfl⟩, -⟩ | ⟨rfl, -⟩ | ⟨rfl, -⟩
    · obtain ⟨image, hi⟩ := ih h.2 (heq.trans hu) hk
      exact ⟨image, List.mem_cons_of_mem _ hi⟩
    · exact ⟨image, List.mem_cons_self⟩
    · cases hu.symm.trans h.1.2
    · cases hu.symm.trans h.1.2.1

theorem release_mem_iff {calls : List Vm.Call} (h : empty.Accepts calls) (c : CodeId) :
    .release c ∈ calls ↔ (empty.run calls).code c = .released := by
  have hmem : .release c ∈ calls ↔ .release c ∈ calls.filter (Vm.Call.ends c) := by
    simp [Vm.Call.ends]
  rw [hmem, filter_ends h c]
  cases (empty.run calls).code c <;> simp [CodePhase.past]

/-- After calls from the empty ledger, what is neither unknown nor released was parsed and no call
released it. -/
theorem unreleased_iff {calls : List Vm.Call} (h : empty.Accepts calls) (c : CodeId) :
    (empty.run calls).code c ≠ .unknown ∧ (empty.run calls).code c ≠ .released ↔
      (∃ image, .parse image (.returned (.ok c)) ∈ calls) ∧ .release c ∉ calls := by
  rw [release_mem_iff h]
  refine and_congr_left fun _ => ⟨fun hk => parsed_of_known h rfl hk, ?_⟩
  rintro ⟨image, hp⟩
  exact code_of_parsed hp h

/-- A program that was released stays so, and no call mentions it. -/
theorem released_after {L : Ledger} {call : Vm.Call} {c : CodeId} (h : L.Allows call)
    (hr : L.code c = .released) : (L.after call).code c = .released ∧ ¬ call.MentionsCode c := by
  constructor
  · rcases code_after L call c with heq | ⟨⟨image, rfl⟩, -⟩ | ⟨rfl, -⟩ | ⟨rfl, heq⟩
    · rw [heq, hr]
    · cases hr.symm.trans (h.2 c rfl)
    · cases hr.symm.trans h.2
    · exact heq
  · intro hm
    cases call with
    | parse image answer => cases hr.symm.trans (h.2 c hm)
    | compact d => cases hm; cases hr.symm.trans h.2
    | release d => cases hm; cases hr.symm.trans h.2.1
    | allocate d answer =>
      cases hm
      rcases h.2.1 with hw | hs
      · cases hr.symm.trans hw
      · cases hr.symm.trans hs
    | _ => exact hm

/-- A program that was released is not mentioned again. -/
theorem not_mentions_of_released {L : Ledger} {calls : List Vm.Call} {c : CodeId}
    (h : L.Accepts calls) (hr : L.code c = .released) : ∀ call ∈ calls, ¬ call.MentionsCode c :=
  never_of_stable (fun _ _ hcall hL => released_after hcall hL) h hr

/-! ## Modules -/

/-- What frees a module comes to its past, call by call. -/
theorem past_module_after {L : Ledger} {call : Vm.Call} (h : L.Allows call) (m : ModuleId) :
    (L.module m).past m ++ [call].filter (Vm.Call.frees m) = ((L.after call).module m).past m := by
  by_cases hf : call = .freeModule m
  · subst hf
    obtain ⟨-, c, hc⟩ := h
    simp [after, hc, ModulePhase.past, Vm.Call.frees]
  have hfrees : call.frees m = false := by
    cases call <;> simp_all [Vm.Call.frees]
  rw [List.filter_cons_of_neg (by simp [hfrees]), List.filter_nil, List.append_nil]
  rcases module_after L call m with heq | ⟨c, rfl, heq⟩ | ⟨c, rfl, -, -⟩
  · rw [heq]
  · rw [heq, h.2.2.2 m rfl]
    rfl
  · exact absurd rfl hf

/-- The calls that free a module, by how far it has come. -/
theorem filter_frees {calls : List Vm.Call} (h : empty.Accepts calls) (m : ModuleId) :
    calls.filter (Vm.Call.frees m) = ((empty.run calls).module m).past m :=
  filter_run (fun _ _ hcall => past_module_after hcall m) h

/-- A module never changes the program it was built from. -/
theorem code?_after {L : Ledger} {call : Vm.Call} (h : L.Allows call) {m : ModuleId} {c : CodeId}
    (hb : (L.module m).code? = some c) : ((L.after call).module m).code? = some c := by
  rcases module_after L call m with heq | ⟨d, rfl, -⟩ | ⟨d, rfl, hd, heq⟩
  · rw [heq, hb]
  · rw [h.2.2.2 m rfl] at hb
    cases hb
  · rw [hd] at hb
    rw [heq, ← hb]
    rfl

/-- A module that was built belongs to its program for good. -/
theorem code?_of_allocated {L : Ledger} {calls : List Vm.Call} {c : CodeId} {m : ModuleId}
    (hm : .allocate c (.returned (some m)) ∈ calls) (h : L.Accepts calls) :
    ((L.run calls).module m).code? = some c := by
  obtain ⟨before, rest, rfl⟩ := List.append_of_mem hm
  rw [accepts_append, accepts_cons] at h
  rw [run_append, run_cons]
  refine run_stable (P := fun L => (L.module m).code? = some c)
    (fun L call hc hL => code?_after hc hL) h.2.2 ?_
  simp [after, ModulePhase.code?]

/-- A module that has become known was built. -/
theorem allocated_of_known {L : Ledger} {calls : List Vm.Call} {m : ModuleId} (h : L.Accepts calls)
    (hu : L.module m = .unknown) (hk : (L.run calls).module m ≠ .unknown) :
    ∃ c, .allocate c (.returned (some m)) ∈ calls := by
  induction calls generalizing L with
  | nil => exact absurd hu hk
  | cons call rest ih =>
    rcases module_after L call m with heq | ⟨c, rfl, -⟩ | ⟨c, -, ha, -⟩
    · obtain ⟨c, hc⟩ := ih h.2 (heq.trans hu) hk
      exact ⟨c, List.mem_cons_of_mem _ hc⟩
    · exact ⟨c, List.mem_cons_self⟩
    · cases hu.symm.trans ha

/-- A module that was freed stays so, and no call mentions it. -/
theorem freed_after {L : Ledger} {call : Vm.Call} {m : ModuleId} {c : CodeId} (h : L.Allows call)
    (hf : L.module m = .freed c) :
    (L.after call).module m = .freed c ∧ ¬ call.MentionsModule m := by
  constructor
  · rcases module_after L call m with heq | ⟨d, rfl, -⟩ | ⟨d, rfl, hd, -⟩
    · rw [heq, hf]
    · cases hf.symm.trans (h.2.2.2 m rfl)
    · cases hf.symm.trans hd
  · intro hm
    -- every call that mentions a module is allowed only while that module is unknown or alive
    cases call with
    | allocate d answer => cases hf.symm.trans (h.2.2.2 m hm)
    | link n options answer =>
      cases hm
      obtain ⟨-, d, hd⟩ := h
      cases hf.symm.trans hd
    | freeModule n =>
      cases hm
      obtain ⟨-, d, hd⟩ := h
      cases hf.symm.trans hd
    | entryClosure n answer =>
      cases hm
      obtain ⟨-, d, hd⟩ := h
      cases hf.symm.trans hd
    | _ => exact hm

/-- A module that was freed is not mentioned again. -/
theorem not_mentions_of_freed {L : Ledger} {calls : List Vm.Call} {m : ModuleId} {c : CodeId}
    (h : L.Accepts calls) (hf : L.module m = .freed c) :
    ∀ call ∈ calls, ¬ call.MentionsModule m :=
  never_of_stable (fun _ _ hcall hL => freed_after hcall hL) h hf

/-! ## Programs and modules together -/

/-- The program of a module that is alive has not been released. -/
def Backed (L : Ledger) : Prop := ∀ m c, L.module m = .alive c → L.code c ≠ .released

theorem backed_after {L : Ledger} {call : Vm.Call} (h : L.Allows call) (hL : L.Backed) :
    (L.after call).Backed := by
  intro m c ha hr
  rcases module_after L call m with heq | ⟨d, rfl, heq⟩ | ⟨d, -, -, heq⟩
  · -- the module was alive before, so its program cannot be released now
    rw [heq] at ha
    rcases code_after L call c with hc | ⟨-, hc⟩ | ⟨-, hc⟩ | ⟨rfl, -⟩
    · exact hL m c ha (hc ▸ hr)
    · cases hc.symm.trans hr
    · cases hc.symm.trans hr
    · exact h.2.2 m ha
  · obtain rfl : d = c := by simpa [heq] using ha
    have hc : L.code d = .released := hr
    rcases h.2.1 with hw | hs
    · cases hc.symm.trans hw
    · cases hc.symm.trans hs
  · cases heq.symm.trans ha

/-- After calls from the empty ledger, a module that was built and is not alive has been freed. -/
theorem freed_of_not_alive {calls : List Vm.Call} {c : CodeId} {m : ModuleId}
    (h : empty.Accepts calls) (hm : .allocate c (.returned (some m)) ∈ calls)
    (hn : (empty.run calls).module m ≠ .alive c) : .freeModule m ∈ calls := by
  -- its phase still names the program, so it is alive or freed
  have hb := code?_of_allocated hm h
  have hfilter := filter_frees h m
  generalize (empty.run calls).module m = phase at hn hb hfilter
  cases phase with
  | unknown => cases hb
  | alive d =>
    cases hb
    exact absurd rfl hn
  | freed d =>
    have hmem : Vm.Call.freeModule m ∈ calls.filter (Vm.Call.frees m) := by
      rw [hfilter]
      exact List.mem_singleton.2 rfl
    exact (List.mem_filter.1 hmem).1

/-- After calls from the empty ledger, what is alive was built and has not been freed. -/
theorem alive_iff {calls : List Vm.Call} (h : empty.Accepts calls) (m : ModuleId) :
    (∃ c, (empty.run calls).module m = .alive c) ↔
      (∃ c, .allocate c (.returned (some m)) ∈ calls) ∧ .freeModule m ∉ calls := by
  constructor
  · rintro ⟨c, hc⟩
    refine ⟨allocated_of_known h rfl (by simp [hc]), fun hf => ?_⟩
    have hmem : Vm.Call.freeModule m ∈ calls.filter (Vm.Call.frees m) :=
      List.mem_filter.2 ⟨hf, by simp [Vm.Call.frees]⟩
    rw [filter_frees h m, hc] at hmem
    cases hmem
  · rintro ⟨⟨c, hc⟩, hf⟩
    by_contra hn
    exact hf (freed_of_not_alive h hc fun ha => hn ⟨c, ha⟩)

/-- A program is released after the module built from it was freed. -/
theorem released_after_freed {before rest : List Vm.Call} {c : CodeId} {m : ModuleId}
    (h : empty.Accepts (before ++ .release c :: rest))
    (hm : .allocate c (.returned (some m)) ∈ before) : .freeModule m ∈ before := by
  rw [accepts_append, accepts_cons] at h
  exact freed_of_not_alive h.1 hm (h.2.1.2.2 m)

/-- When a module is asked for, every module built before has been freed. -/
theorem allocated_alone {before rest : List Vm.Call} {c d : CodeId} {m : ModuleId}
    {answer : Ending (Option ModuleId)} (h : empty.Accepts (before ++ .allocate c answer :: rest))
    (hm : .allocate d (.returned (some m)) ∈ before) : .freeModule m ∈ before := by
  rw [accepts_append, accepts_cons] at h
  exact freed_of_not_alive h.1 hm (h.2.1.2.2.1 m d)

/-- A module is not mentioned after the call that freed it. -/
theorem not_mentions_after_free {before rest : List Vm.Call} {m : ModuleId}
    (h : empty.Accepts (before ++ .freeModule m :: rest)) :
    ∀ call ∈ rest, ¬ call.MentionsModule m := by
  rw [accepts_append, accepts_cons] at h
  obtain ⟨-, ⟨-, c, hc⟩, hrest⟩ := h
  exact not_mentions_of_freed (c := c) hrest (by simp [after, hc])

/-- A program is not mentioned after the call that released it. -/
theorem not_mentions_after_release {before rest : List Vm.Call} {c : CodeId}
    (h : empty.Accepts (before ++ .release c :: rest)) :
    ∀ call ∈ rest, ¬ call.MentionsCode c := by
  rw [accepts_append, accepts_cons] at h
  exact not_mentions_of_released h.2.2 (by simp [after])

/-- What follows at once on building a module comes before the call that frees it. -/
theorem before_free {first last before rest : List Vm.Call} {c : CodeId} {m : ModuleId}
    {call : Vm.Call} (h : empty.Accepts (first ++ .allocate c (.returned (some m)) :: call :: last))
    (hcall : (∀ n, call ≠ .freeModule n) ∧ ∀ d answer, call ≠ .allocate d answer)
    (hsplit : first ++ .allocate c (.returned (some m)) :: call :: last =
      before ++ .freeModule m :: rest) : call ∈ before := by
  have hassoc : first ++ .allocate c (.returned (some m)) :: call :: last =
      (first ++ [.allocate c (.returned (some m)), call]) ++ last := by simp
  rw [hassoc] at h hsplit
  have hearly := ((accepts_append ..).1 h).1
  -- the module is still alive after that call
  have halive : (empty.run (first ++ [.allocate c (.returned (some m)), call])).module m =
      .alive c := by
    rw [run_append, run_cons, run_cons, run_nil]
    rcases module_after ((empty.run first).after (.allocate c (.returned (some m)))) call m with
      heq | ⟨d, rfl, -⟩ | ⟨d, rfl, -, -⟩
    · rw [heq]
      simp [after]
    · exact absurd rfl (hcall.2 d _)
    · exact absurd rfl (hcall.1 m)
  have hnotyet := ((alive_iff hearly m).1 ⟨c, halive⟩).2
  -- so the call that frees it cannot lie within the part up to that call
  rcases List.append_eq_append_iff.1 hsplit with ⟨between, rfl, -⟩ | ⟨between, hbefore, hrest⟩
  · simp
  · cases between with
    | nil =>
      rw [List.append_nil] at hbefore
      rw [← hbefore]
      simp
    | cons other between =>
      obtain ⟨rfl, -⟩ := List.cons.inj hrest
      exact absurd (by rw [hbefore]; simp) hnotyet

/-- When a module is freed, its program has not been released. -/
theorem freed_before_released {before rest : List Vm.Call} {c : CodeId} {m : ModuleId}
    (h : empty.Accepts (before ++ .freeModule m :: rest))
    (hm : .allocate c (.returned (some m)) ∈ before ++ .freeModule m :: rest) :
    .release c ∉ before := by
  have hb := code?_of_allocated hm h
  rw [accepts_append, accepts_cons] at h
  obtain ⟨hbefore, ⟨-, d, hd⟩, hrest⟩ := h
  -- the module still belongs to the program it was alive for when it was freed
  have hfreed : ((empty.run before).after (.freeModule m)).module m = .freed d := by
    simp [after, hd]
  have hd' : ((empty.run (before ++ .freeModule m :: rest)).module m).code? = some d := by
    rw [run_append, run_cons]
    exact run_stable (P := fun L => (L.module m).code? = some d)
      (fun L call hc hL => code?_after hc hL) hrest (by rw [hfreed]; rfl)
  obtain rfl : d = c := Option.some.inj (hd'.symm.trans hb)
  have hbacked : (empty.run before).Backed :=
    run_stable (P := Backed) (fun L call hc hL => backed_after hc hL) hbefore
      (fun m c ha => nomatch ha)
  intro hr
  have hmem : Vm.Call.release d ∈ before.filter (Vm.Call.ends d) :=
    List.mem_filter.2 ⟨hr, by simp [Vm.Call.ends]⟩
  rw [filter_ends hbefore d] at hmem
  have hlive := hbacked m d hd
  generalize (empty.run before).code d = phase at hmem hlive
  cases phase <;> simp [CodePhase.past] at hmem hlive

/-! ## The end -/

/-- When nothing is left, the bodies of every parsed program were dropped once, and then the program
was released once. -/
theorem ended_once {calls : List Vm.Call} {image : List UInt8} {c : CodeId}
    (h : empty.Accepts calls) (hs : (empty.run calls).Settled)
    (hp : .parse image (.returned (.ok c)) ∈ calls) :
    calls.filter (Vm.Call.ends c) = [.compact c, .release c] := by
  have hr : (empty.run calls).code c = .released :=
    (hs.1 c).resolve_left (code_of_parsed hp h)
  rw [filter_ends h c, hr]
  rfl

/-- When nothing is left, the program of every module that was asked for has been released. -/
theorem released_of_allocated {calls : List Vm.Call} {c : CodeId} {answer : Ending (Option ModuleId)}
    (h : empty.Accepts calls) (hs : (empty.run calls).Settled) (hm : .allocate c answer ∈ calls) :
    .release c ∈ calls := by
  have hknown : ∃ image, .parse image (.returned (.ok c)) ∈ calls := by
    obtain ⟨before, rest, rfl⟩ := List.append_of_mem hm
    rw [accepts_append, accepts_cons] at h
    have hcode : (empty.run before).code c ≠ .unknown := by
      rcases h.2.1.2.1 with hw | hw <;> simp [hw]
    obtain ⟨image, hp⟩ := parsed_of_known h.1 rfl hcode
    exact ⟨image, List.mem_append_left _ hp⟩
  obtain ⟨image, hp⟩ := hknown
  rw [release_mem_iff h]
  exact (hs.1 c).resolve_left (code_of_parsed hp h)

/-- When nothing is left, every module that was built was freed once. -/
theorem freed_once {calls : List Vm.Call} {c : CodeId} {m : ModuleId} (h : empty.Accepts calls)
    (hs : (empty.run calls).Settled) (hm : .allocate c (.returned (some m)) ∈ calls) :
    calls.filter (Vm.Call.frees m) = [.freeModule m] := by
  have hb := code?_of_allocated hm h
  have hn := hs.2 m
  rw [filter_frees h m]
  generalize (empty.run calls).module m = phase at hb hn
  cases phase with
  | unknown => cases hb
  | alive d => exact absurd rfl (hn d)
  | freed d => rfl

/-- Nothing is called once the global state has been released. -/
theorem nothing_after_teardown {L : Ledger} {calls : List Vm.Call} (h : L.Accepts calls)
    (hg : L.state = .gone) : calls = [] := by
  cases calls with
  | nil => rfl
  | cons call rest =>
    have := h.1
    cases call <;> simp [Allows, hg] at this

/-- The global state is gone after its release, and after nothing else. -/
theorem state_after_ne {L : Ledger} {call : Vm.Call} (hL : L.state ≠ .gone)
    (hcall : call ≠ .globalTeardown) : (L.after call).state ≠ .gone := by
  cases call with
  | globalTeardown => exact absurd rfl hcall
  | globalInit answer => cases answer <;> simp [after, hL]
  | parse image answer => rcases answer with (_ | _) | _ <;> simpa [after] using hL
  | allocate c answer => rcases answer with (_ | _) | _ <;> simpa [after] using hL
  | freeModule m =>
    simp only [after]
    split <;> exact hL
  | _ => exact hL

/-- Before the global state is gone, its release has not been called. -/
theorem teardown_not_mem {L : Ledger} {calls : List Vm.Call} (h : L.Accepts calls)
    (hg : (L.run calls).state ≠ .gone) : .globalTeardown ∉ calls := by
  intro hmem
  obtain ⟨before, rest, rfl⟩ := List.append_of_mem hmem
  rw [accepts_append, accepts_cons] at h
  obtain rfl : rest = [] := nothing_after_teardown h.2.2 rfl
  rw [run_append] at hg
  exact hg rfl

/-- When the global state is gone, its release was the last call, and the only one of its kind. -/
theorem teardown_last {L : Ledger} {calls : List Vm.Call} (h : L.Accepts calls)
    (hL : L.state ≠ .gone) (hg : (L.run calls).state = .gone) :
    ∃ before, calls = before ++ [.globalTeardown] ∧ .globalTeardown ∉ before := by
  induction calls generalizing L with
  | nil => exact absurd hg hL
  | cons call rest ih =>
    by_cases hcall : call = .globalTeardown
    · subst hcall
      obtain rfl : rest = [] := nothing_after_teardown h.2 rfl
      exact ⟨[], rfl, List.not_mem_nil⟩
    · obtain ⟨before, rfl, hbefore⟩ := ih h.2 (state_after_ne hL hcall) hg
      refine ⟨call :: before, rfl, fun hmem => ?_⟩
      rcases List.mem_cons.1 hmem with heq | hmem
      · exact hcall heq.symm
      · exact hbefore hmem

end Ledger

end Launcher
