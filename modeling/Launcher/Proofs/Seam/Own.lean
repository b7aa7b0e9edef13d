import Launcher.Proofs.Act
import Launcher.Seam

/-!
# The launcher's own events

Between a call across the seam and its answer anything may be noted. What the launcher itself does
is the trace without these notes (`Event.own`), and for every operation of the seam it is the call
with its answer, followed by the panic if there was one. The numbers given out so far
(`Seam.numbers`) change only when an image is parsed or a module is built.
-/

namespace Launcher

namespace Event

/-- Whether an event was noted beyond the seam. -/
def isNote : Event → Bool
  | .note _ => true
  | _ => false

/-- The events of the launcher itself. -/
def own (trace : List Event) : List Event := trace.filter fun e => !e.isNote

/-- The calls across the seam, in order. -/
def calls (trace : List Event) : List Vm.Call := trace.filterMap call?

@[simp] theorem own_nil : own [] = [] := rfl

@[simp] theorem own_append (t u : List Event) : own (t ++ u) = own t ++ own u :=
  List.filter_append ..

@[simp] theorem own_notes (notes : List Note) : own (notes.map Event.note) = [] := by
  simp [own, isNote]

theorem own_cons {e : Event} (h : e.isNote = false) (t : List Event) : own (e :: t) = e :: own t := by
  simp [own, h]

theorem mem_own {e : Event} {t : List Event} (h : e.isNote = false) : e ∈ own t ↔ e ∈ t := by
  simp [own, h]

@[simp] theorem own_call (c : Vm.Call) (t : List Event) : own (.call c :: t) = .call c :: own t :=
  own_cons rfl t

@[simp] theorem own_resolve (library symbol : String)
    (answer : Ending (Except Failure Hook)) (t : List Event) :
    own (.resolve library symbol answer :: t) = .resolve library symbol answer :: own t :=
  own_cons rfl t

@[simp] theorem own_dropHook (hook : Hook) (t : List Event) :
    own (.dropHook hook :: t) = .dropHook hook :: own t :=
  own_cons rfl t

@[simp] theorem own_log (r : Log.Record) (t : List Event) : own (.log r :: t) = .log r :: own t :=
  own_cons rfl t

@[simp] theorem own_panic (p : Panic) (t : List Event) : own (.panic p :: t) = .panic p :: own t :=
  own_cons rfl t

@[simp] theorem own_panicEvents {α : Type} (ending : Ending α) :
    own ending.panicEvents = ending.panicEvents := by
  cases ending <;> rfl

@[simp] theorem calls_nil : calls [] = [] := rfl

@[simp] theorem calls_append (t u : List Event) : calls (t ++ u) = calls t ++ calls u :=
  List.filterMap_append ..

@[simp] theorem calls_call (c : Vm.Call) (t : List Event) : calls (.call c :: t) = c :: calls t :=
  rfl

@[simp] theorem calls_log (r : Log.Record) (t : List Event) : calls (.log r :: t) = calls t := rfl

@[simp] theorem calls_panic (p : Panic) (t : List Event) : calls (.panic p :: t) = calls t := rfl

@[simp] theorem calls_resolve (library symbol : String)
    (answer : Ending (Except Failure Hook)) (t : List Event) :
    calls (.resolve library symbol answer :: t) = calls t := rfl

@[simp] theorem calls_dropHook (hook : Hook) (t : List Event) :
    calls (.dropHook hook :: t) = calls t := rfl

@[simp] theorem calls_panicEvents {α : Type} (ending : Ending α) : calls ending.panicEvents = [] := by
  cases ending <;> rfl

/-- Nothing that is noted beyond the seam is a call across it. -/
@[simp] theorem calls_own (t : List Event) : calls (own t) = calls t := by
  induction t with
  | nil => rfl
  | cons e t ih =>
    cases e with
    | note n => exact ih
    | call c => exact congrArg (c :: ·) ih
    | resolve | dropHook | log | panic | write | flush | print => exact ih

theorem mem_calls {c : Vm.Call} {t : List Event} : c ∈ calls t ↔ .call c ∈ t := by
  induction t with
  | nil => simp
  | cons e t ih => cases e <;> simp [calls, call?, ← ih]

theorem calls_of_own {t u : List Event} (h : own t = u) : calls t = calls u := by
  rw [← h, calls_own]

end Event

namespace Seam

variable {σ α : Type}

/-- How many programs and how many modules have been given numbers. -/
def numbers (s : Seam σ) : Nat × Nat := (s.codes, s.modules)

/-! ## Operations in general -/

theorem own_cross (operation : Act Note σ α) (event : Ending α → Event) (s : Seam σ)
    (h : (event (operation s.beyond).ending).isNote = false) :
    Event.own (cross operation event s).trace =
      event (operation s.beyond).ending :: (operation s.beyond).ending.panicEvents := by
  show Event.own (event (operation s.beyond).ending ::
    ((operation s.beyond).trace.map Event.note ++ (operation s.beyond).ending.panicEvents)) = _
  rw [Event.own_cons h, Event.own_append, Event.own_notes, Event.own_panicEvents]
  rfl

theorem own_crossQuiet (operation : Quiet Note σ α) (event : α → Event) (s : Seam σ)
    (h : (event (operation s.beyond).1).isNote = false) :
    Event.own (crossQuiet operation event s).2.1 = [event (operation s.beyond).1] := by
  show Event.own (event (operation s.beyond).1 :: (operation s.beyond).2.1.map Event.note) = _
  rw [Event.own_cons h, Event.own_notes]

/-! ## Setting up and releasing -/

@[simp] theorem own_globalInit (vm : Vm σ) (s : Seam σ) :
    Event.own (globalInit vm s).2.1 = [.call (.globalInit (vm.globalInit s.beyond).1)] :=
  own_crossQuiet _ _ s rfl

@[simp] theorem globalInit_value (vm : Vm σ) (s : Seam σ) :
    (globalInit vm s).1 = (vm.globalInit s.beyond).1 := rfl

@[simp] theorem own_globalTeardown (vm : Vm σ) (s : Seam σ) :
    Event.own (globalTeardown vm s).2.1 = [.call .globalTeardown] :=
  own_crossQuiet _ _ s rfl

@[simp] theorem own_compact (vm : Vm σ) (code : CodeId) (s : Seam σ) :
    Event.own (compact vm code s).2.1 = [.call (.compact code)] :=
  own_crossQuiet _ _ s rfl

@[simp] theorem own_release (vm : Vm σ) (code : CodeId) (s : Seam σ) :
    Event.own (release vm code s).2.1 = [.call (.release code)] :=
  own_crossQuiet _ _ s rfl

@[simp] theorem own_freeModule (vm : Vm σ) (module : ModuleId) (s : Seam σ) :
    Event.own (freeModule vm module s).2.1 = [.call (.freeModule module)] :=
  own_crossQuiet _ _ s rfl

@[simp] theorem own_dropHook (resolver : Resolver σ) (hook : Hook) (s : Seam σ) :
    Event.own (dropHook resolver hook s).2.1 = [.dropHook hook] :=
  own_crossQuiet _ _ s rfl

@[simp] theorem numbers_globalTeardown (vm : Vm σ) (s : Seam σ) :
    (globalTeardown vm s).2.2.numbers = s.numbers := rfl

@[simp] theorem numbers_compact (vm : Vm σ) (code : CodeId) (s : Seam σ) :
    (compact vm code s).2.2.numbers = s.numbers := rfl

@[simp] theorem numbers_release (vm : Vm σ) (code : CodeId) (s : Seam σ) :
    (release vm code s).2.2.numbers = s.numbers := rfl

@[simp] theorem numbers_freeModule (vm : Vm σ) (module : ModuleId) (s : Seam σ) :
    (freeModule vm module s).2.2.numbers = s.numbers := rfl

/-! ## Programs and modules -/

theorem own_parse (vm : Vm σ) (image : Image) (s : Seam σ) :
    Event.own (parse vm image s).trace =
      .call (.parse image.bytes (parse vm image s).ending) ::
        (parse vm image s).ending.panicEvents := by
  simp [parse]

/-- A parsed program gets the next number; without one, no number is used up. -/
theorem numbers_parse (vm : Vm σ) (image : Image) (s : Seam σ) :
    (∃ p, (parse vm image s).ending = .panicked p ∧ (parse vm image s).state.numbers = s.numbers) ∨
    (∃ reason, (parse vm image s).ending = .returned (.error reason) ∧
      (parse vm image s).state.numbers = s.numbers) ∨
    ((parse vm image s).ending = .returned (.ok ⟨s.codes⟩) ∧
      (parse vm image s).state.numbers = (s.codes + 1, s.modules)) := by
  simp only [parse, numbers]
  cases (vm.parse image.bytes ⟨s.codes⟩ s.beyond).ending with
  | panicked p => exact .inl ⟨p, rfl, rfl⟩
  | returned answer =>
    cases answer with
    | error reason => exact .inr (.inl ⟨reason, rfl, rfl⟩)
    | ok => exact .inr (.inr ⟨rfl, rfl⟩)

theorem own_allocate (vm : Vm σ) (code : CodeId) (s : Seam σ) :
    Event.own (allocate vm code s).trace =
      .call (.allocate code (allocate vm code s).ending) ::
        (allocate vm code s).ending.panicEvents := by
  simp [allocate]

/-- A module that was built gets the next number; without one, no number is used up. -/
theorem numbers_allocate (vm : Vm σ) (code : CodeId) (s : Seam σ) :
    (∃ p, (allocate vm code s).ending = .panicked p ∧
      (allocate vm code s).state.numbers = s.numbers) ∨
    ((allocate vm code s).ending = .returned none ∧
      (allocate vm code s).state.numbers = s.numbers) ∨
    ((allocate vm code s).ending = .returned (some ⟨s.modules⟩) ∧
      (allocate vm code s).state.numbers = (s.codes, s.modules + 1)) := by
  simp only [allocate, numbers]
  cases (vm.allocate code ⟨s.modules⟩ s.beyond).ending with
  | panicked p => exact .inl ⟨p, rfl, rfl⟩
  | returned made =>
    cases made with
    | false => exact .inr (.inl ⟨rfl, rfl⟩)
    | true => exact .inr (.inr ⟨rfl, rfl⟩)

theorem own_link (vm : Vm σ) (module : ModuleId) (options : HostOptions) (s : Seam σ) :
    Event.own (link vm module options s).trace =
      .call (.link module options (link vm module options s).ending) ::
        (link vm module options s).ending.panicEvents :=
  own_cross _ _ s rfl

@[simp] theorem numbers_link (vm : Vm σ) (module : ModuleId) (options : HostOptions) (s : Seam σ) :
    (link vm module options s).state.numbers = s.numbers := rfl

theorem own_entryClosure (vm : Vm σ) (module : ModuleId) (s : Seam σ) :
    Event.own (entryClosure vm module s).trace =
      .call (.entryClosure module (entryClosure vm module s).ending) ::
        (entryClosure vm module s).ending.panicEvents :=
  own_cross _ _ s rfl

@[simp] theorem numbers_entryClosure (vm : Vm σ) (module : ModuleId) (s : Seam σ) :
    (entryClosure vm module s).state.numbers = s.numbers := rfl

/-! ## Hooks and guarded calls -/

theorem own_resolve (resolver : Resolver σ) (library symbol : String) (s : Seam σ) :
    Event.own (resolve resolver library symbol s).trace =
      .resolve library symbol (resolve resolver library symbol s).ending ::
        (resolve resolver library symbol s).ending.panicEvents :=
  own_cross _ _ s rfl

theorem own_callSetup (vm : Vm σ) (hook : Hook) (options : HostOptions) (s : Seam σ) :
    Event.own (callSetup vm hook options s).trace =
      .call (.callSetup hook options (callSetup vm hook options s).ending) ::
        (callSetup vm hook options s).ending.panicEvents :=
  own_cross _ _ s rfl

theorem own_guardedCall (vm : Vm σ) (closure : Closure) (s : Seam σ) :
    Event.own (call vm closure s).trace =
      .call (.call closure (call vm closure s).ending) :: (call vm closure s).ending.panicEvents :=
  own_cross _ _ s rfl

theorem own_describeFault (vm : Vm σ) (fault : Fault) (s : Seam σ) :
    Event.own (describeFault vm fault s).trace =
      .call (.describeFault fault (describeFault vm fault s).ending) ::
        (describeFault vm fault s).ending.panicEvents :=
  own_cross _ _ s rfl

theorem own_exceptionStack (vm : Vm σ) (s : Seam σ) :
    Event.own (exceptionStack vm s).trace =
      .call (.exceptionStack (exceptionStack vm s).ending) ::
        (exceptionStack vm s).ending.panicEvents :=
  own_cross _ _ s rfl

theorem own_debugBreak (vm : Vm σ) (s : Seam σ) :
    Event.own (debugBreak vm s).trace =
      .call (.debugBreak (debugBreak vm s).ending) :: (debugBreak vm s).ending.panicEvents :=
  own_cross _ _ s rfl

end Seam

end Launcher
