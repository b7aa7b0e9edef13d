import Launcher.Image
import Launcher.Seam.Event

/-!
# Across the seam

Every operation of the VM and of the resolver is carried out through the seam, which writes the call
and its answer into the trace and gives out the numbers of programs and modules.
-/

namespace Launcher

/-- The launcher's side of the seam: the state beyond it, and how many programs and modules there
have been. -/
structure Seam (σ : Type) where
  beyond : σ
  codes : Nat
  modules : Nat

namespace Seam

variable {σ α : Type}

/-- A seam that nothing has crossed. -/
def fresh (beyond : σ) : Seam σ := ⟨beyond, 0, 0⟩

/-- Carries out an operation beyond the seam and traces it. -/
def cross (operation : Act Note σ α) (event : Ending α → Event) : Act Event (Seam σ) α := fun s =>
  let inner := operation s.beyond
  ⟨inner.ending,
    event inner.ending :: (inner.trace.map Event.note ++ inner.ending.panicEvents),
    { s with beyond := inner.state }⟩

/-- Carries out a quiet operation beyond the seam and traces it. -/
def crossQuiet (operation : Quiet Note σ α) (event : α → Event) : Quiet Event (Seam σ) α :=
  fun s =>
    let (a, notes, beyond) := operation s.beyond
    (a, event a :: notes.map Event.note, { s with beyond })

/-- Creates the global state. -/
def globalInit (vm : Vm σ) : Quiet Event (Seam σ) (Except String Unit) :=
  crossQuiet vm.globalInit fun answer => .call (.globalInit answer)

/-- Releases the global state. -/
def globalTeardown (vm : Vm σ) : Quiet Event (Seam σ) Unit :=
  crossQuiet vm.globalTeardown fun _ => .call .globalTeardown

/-- The answer of a parse with the number that goes with a success. -/
def numbered (id : CodeId) : Ending (Except String Unit) → Ending (Except String CodeId)
  | .returned (.ok ()) => .returned (.ok id)
  | .returned (.error reason) => .returned (.error reason)
  | .panicked p => .panicked p

/-- Parses an image as the next program. -/
def parse (vm : Vm σ) (image : Image) : Act Event (Seam σ) (Except String CodeId) := fun s =>
  let id : CodeId := ⟨s.codes⟩
  let inner := vm.parse image.bytes id s.beyond
  let answer := numbered id inner.ending
  let codes := match answer with
    | .returned (.ok _) => s.codes + 1
    | _ => s.codes
  ⟨answer,
    .call (.parse image.bytes answer) :: (inner.trace.map Event.note ++ answer.panicEvents),
    { s with beyond := inner.state, codes }⟩

/-- Drops the bodies of a program. -/
def compact (vm : Vm σ) (code : CodeId) : Quiet Event (Seam σ) Unit :=
  crossQuiet (vm.compact code) fun _ => .call (.compact code)

/-- Releases a program. -/
def release (vm : Vm σ) (code : CodeId) : Quiet Event (Seam σ) Unit :=
  crossQuiet (vm.release code) fun _ => .call (.release code)

/-- The answer of an allocation with the number that goes with a success. -/
def allotted (id : ModuleId) : Ending Bool → Ending (Option ModuleId)
  | .returned true => .returned (some id)
  | .returned false => .returned none
  | .panicked p => .panicked p

/-- Builds the next module from a program. -/
def allocate (vm : Vm σ) (code : CodeId) : Act Event (Seam σ) (Option ModuleId) := fun s =>
  let id : ModuleId := ⟨s.modules⟩
  let inner := vm.allocate code id s.beyond
  let answer := allotted id inner.ending
  let modules := match answer with
    | .returned (some _) => s.modules + 1
    | _ => s.modules
  ⟨answer,
    .call (.allocate code answer) :: (inner.trace.map Event.note ++ answer.panicEvents),
    { s with beyond := inner.state, modules }⟩

/-- Links a module. -/
def link (vm : Vm σ) (module : ModuleId) (options : HostOptions) :
    Act Event (Seam σ) (Except String Unit) :=
  cross (vm.link module options) fun answer => .call (.link module options answer)

/-- Frees a module. -/
def freeModule (vm : Vm σ) (module : ModuleId) : Quiet Event (Seam σ) Unit :=
  crossQuiet (vm.freeModule module) fun _ => .call (.freeModule module)

/-- Looks up the entrypoint of a module. -/
def entryClosure (vm : Vm σ) (module : ModuleId) : Act Event (Seam σ) (Except String Closure) :=
  cross (vm.entryClosure module) fun answer => .call (.entryClosure module answer)

/-- Calls a closure under guard. -/
def call (vm : Vm σ) (closure : Closure) : Act Event (Seam σ) (Option Fault) :=
  cross (vm.call closure) fun answer => .call (.call closure answer)

/-- Calls a setup hook under guard. -/
def callSetup (vm : Vm σ) (hook : Hook) (options : HostOptions) :
    Act Event (Seam σ) (Option Fault) :=
  cross (vm.callSetup hook options) fun answer => .call (.callSetup hook options answer)

/-- Describes a fault. -/
def describeFault (vm : Vm σ) (fault : Fault) : Act Event (Seam σ) String :=
  cross (vm.describeFault fault) fun answer => .call (.describeFault fault answer)

/-- Lists the call sites of the latest fault. -/
def exceptionStack (vm : Vm σ) : Act Event (Seam σ) (List String) :=
  cross vm.exceptionStack fun answer => .call (.exceptionStack answer)

/-- Stops in a debugger. -/
def debugBreak (vm : Vm σ) : Act Event (Seam σ) Unit :=
  cross vm.debugBreak fun answer => .call (.debugBreak answer)

/-- Resolves a hook. -/
def resolve (resolver : Resolver σ) (library symbol : String) :
    Act Event (Seam σ) (Except Failure Hook) :=
  cross (resolver.resolve library symbol) fun answer => .resolve library symbol answer

/-- Gives a hook up. -/
def dropHook (resolver : Resolver σ) (hook : Hook) : Quiet Event (Seam σ) Unit :=
  crossQuiet (resolver.dropHook hook) fun _ => .dropHook hook

end Seam

end Launcher
