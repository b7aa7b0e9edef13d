import Launcher.Seam
import Launcher.Sink

/-!
# The fault trap

A call of the setup hook or of the entrypoint may let a fault escape. Under the trap the fault
becomes a record, captured while the VM still knows about it.

- `Trap.setup`, `Trap.run`: guarded calls.
- `Trap.report`: the report of a captured fault.
-/

namespace Launcher

/-- How a guarded call ended. -/
inductive TrapOutcome
  | disarmed
  | triggered (record : FaultRecord)
  deriving DecidableEq

namespace Trap

open Log

variable {σ ω : Type}

/-- The record of a captured fault. -/
def caughtRecord (topic : Topic) (record : FaultRecord) : Record :=
  .error topic .trap
    [.errorCode (Failure.uncaught record).code, .detail "depth" (toString record.depth),
      .detail "error" record.message]

/-- Captures the message and the call sites of a fault. -/
def capture (vm : Vm σ) (topic : Topic) (fault : Fault) : Act Event (Seam σ) TrapOutcome := do
  let message ← Seam.describeFault vm fault
  let stack ← Seam.exceptionStack vm
  let record : FaultRecord := ⟨message, stack⟩
  Act.emit (.log (caughtRecord topic record))
  return .triggered record

/-- Calls a setup hook under the trap. -/
def setup (vm : Vm σ) (hook : Hook) (options : HostOptions) :
    Act Event (Seam σ) TrapOutcome := do
  match ← Seam.callSetup vm hook options with
  | none =>
    Act.emit (.log (.info .extensionSetup .trap .ok
      [.detail "library" hook.library, .detail "symbol" hook.symbol]))
    return .disarmed
  | some fault => capture vm .extensionSetup fault

/-- Calls a closure under the trap. -/
def run (vm : Vm σ) (closure : Closure) : Act Event (Seam σ) TrapOutcome := do
  match ← Seam.call vm closure with
  | none =>
    Act.emit (.log (.info .entrypoint .trap .ok []))
    return .disarmed
  | some fault => capture vm .entrypoint fault

/-- The record of a report that could not be written. -/
def reportErrorRecord (error : IoError) : Record :=
  .error .faultReport .trap [.detail "error" error.text]

end Trap

/-- What a boot acts on: the seam and the state of the diagnostics stream. -/
structure Console (σ ω : Type) where
  seam : Seam σ
  sink : ω

namespace Console

variable {σ ω α : Type}

/-- Carried out at the seam. -/
def atSeam (act : Act Event (Seam σ) α) : Act Event (Console σ ω) α :=
  act.within Console.seam (fun seam c => { c with seam }) id

/-- Carried out on the diagnostics stream. -/
def atSink (act : Quiet Event ω α) : Quiet Event (Console σ ω) α :=
  act.within Console.sink (fun sink c => { c with sink }) id

end Console

/-- Writes the report of a captured fault, then gives a debugger the chance to stop, whether or not
the report could be written. -/
def Trap.report {σ ω : Type} (vm : Vm σ) (sink : Sink ω) (record : FaultRecord) :
    Act Event (Console σ ω) Unit := do
  match ← Act.ofQuiet (Console.atSink (record.write sink)) with
  | none => pure ()
  | some error => Act.emit (.log (Trap.reportErrorRecord error))
  Console.atSeam (Seam.debugBreak vm)

end Launcher
