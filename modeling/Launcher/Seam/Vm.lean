import Launcher.Act
import Launcher.Seam.Note

/-!
# The VM behind the seam

The launcher never looks inside the VM. It allocates, frees and runs through the operations below,
over a state of which it knows nothing. Programs and modules go by numbers that the launcher gives
out, so that no two of them are ever confused.

The operations that set up and release state cannot panic; the others may. What is proved about the
launcher says nothing of a VM that panics while it does the former.
-/

namespace Launcher

/-- The operations of a VM over the state `σ`. The quiet ones cannot panic. -/
structure Vm (σ : Type) where
  /-- Creates the global state, or says why not. -/
  globalInit : Quiet Note σ (Except String Unit)
  /-- Releases the global state. -/
  globalTeardown : Quiet Note σ Unit
  /-- Parses an image as the program of a number, or says why not. -/
  parse : List UInt8 → CodeId → Act Note σ (Except String Unit)
  /-- Drops the bodies of a program that are not needed once its module is linked. -/
  compact : CodeId → Quiet Note σ Unit
  /-- Releases a program. -/
  release : CodeId → Quiet Note σ Unit
  /-- Builds a module of a number from a program; false when resources have run out. -/
  allocate : CodeId → ModuleId → Act Note σ Bool
  /-- Links a module with the host options bound, or says why not. -/
  link : ModuleId → HostOptions → Act Note σ (Except String Unit)
  freeModule : ModuleId → Quiet Note σ Unit
  /-- What calling the entrypoint of a module takes, or why it cannot be called. -/
  entryClosure : ModuleId → Act Note σ (Except String Closure)
  /-- Calls without arguments; the answer is the fault that escaped, if one did. -/
  call : Closure → Act Note σ (Option Fault)
  /-- Calls a setup hook with the host options, guarded like `call`. -/
  callSetup : Hook → HostOptions → Act Note σ (Option Fault)
  /-- The message of a fault. -/
  describeFault : Fault → Act Note σ String
  /-- The call sites of the latest fault, innermost first. -/
  exceptionStack : Act Note σ (List String)
  /-- Stops in an attached debugger, if there is one. -/
  debugBreak : Act Note σ Unit

/-- A call across the seam with the answer it got. -/
inductive Vm.Call
  | globalInit (answer : Except String Unit)
  | globalTeardown
  | parse (image : List UInt8) (answer : Ending (Except String CodeId))
  | compact (code : CodeId)
  | release (code : CodeId)
  | allocate (code : CodeId) (answer : Ending (Option ModuleId))
  | link (module : ModuleId) (options : HostOptions) (answer : Ending (Except String Unit))
  | freeModule (module : ModuleId)
  | entryClosure (module : ModuleId) (answer : Ending (Except String Closure))
  | call (closure : Closure) (answer : Ending (Option Fault))
  | callSetup (hook : Hook) (options : HostOptions) (answer : Ending (Option Fault))
  | describeFault (fault : Fault) (answer : Ending String)
  | exceptionStack (answer : Ending (List String))
  | debugBreak (answer : Ending Unit)

end Launcher
