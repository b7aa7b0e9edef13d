import Launcher.Extension.Resolver
import Launcher.Seam.Vm

/-!
# Events

The trace of a launch: calls across the seam with their answers, notes of what went on beyond it,
log records, what was written to the diagnostics stream and what was printed.
-/

namespace Launcher

/-- Where a line is printed. -/
inductive Stream
  | output
  | error
  deriving DecidableEq

/-- One thing that happens during a launch. -/
inductive Event
  | call (call : Vm.Call)
  | resolve (library symbol : String) (answer : Ending (Except Failure Hook))
  | dropHook (hook : Hook)
  | note (note : Note)
  | log (record : Log.Record)
  /-- A panic begins. -/
  | panic (panic : Panic)
  /-- Octets offered to the diagnostics stream, and the error if not all were taken. -/
  | write (bytes : List UInt8) (error : Option IoError)
  | flush (error : Option IoError)
  | print (stream : Stream) (text : String)

namespace Event

/-- The record that an event logs, on either side of the seam. -/
def record? : Event → Option Log.Record
  | .log r => some r
  | .note (.log r) => some r
  | _ => none

/-- The call across the seam that an event is. -/
def call? : Event → Option Vm.Call
  | .call c => some c
  | _ => none

/-- The call into the VM library that an event is. -/
def libraryCall? : Event → Option HashLink.Call
  | .note (.library c) => some c
  | _ => none

/-- What an event adds to standard output. -/
def output : Event → List UInt8
  | .write bytes none => bytes
  | .print .output text => Text.Utf8.encode text
  | .note (.remark (.prints text)) => Text.Utf8.encode text
  | _ => []

/-- What an event adds to standard error. -/
def errorOutput : Event → List UInt8
  | .print .error text => Text.Utf8.encode text
  | _ => []

end Event

/-- The event that a panic begins with. -/
def Ending.panicEvents {α : Type} : Ending α → List Event
  | .returned _ => []
  | .panicked p => [.panic p]

end Launcher
