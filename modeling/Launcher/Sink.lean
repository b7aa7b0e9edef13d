import Launcher.Fault.Record
import Launcher.Seam.Event

/-!
# The diagnostics stream

Failures are written for people to a stream that may itself fail. A failing stream ends the report
and nothing else.
-/

namespace Launcher

/-- A stream for diagnostics over the state `ω`. -/
structure Sink (ω : Type) where
  /-- Takes all of the octets, or fails after taking some of them. -/
  writeAll : List UInt8 → ω → Option IoError × ω
  flush : ω → Option IoError × ω

namespace Sink

variable {ω : Type}

/-- Writes a text. -/
def write (sink : Sink ω) (text : String) : Quiet Event ω (Option IoError) := fun w =>
  let bytes := Text.Utf8.encode text
  let (error, w) := sink.writeAll bytes w
  (error, [.write bytes error], w)

/-- Flushes what was written. -/
def finish (sink : Sink ω) : Quiet Event ω (Option IoError) := fun w =>
  let (error, w) := sink.flush w
  (error, [.flush error], w)

/-- Writes texts in order and flushes; the first error ends it. -/
def writeLines (sink : Sink ω) : List String → Quiet Event ω (Option IoError)
  | [] => finish sink
  | line :: rest => do
    match ← write sink line with
    | none => writeLines sink rest
    | some error => return some error

end Sink

/-- Writes the report of a fault. -/
def FaultRecord.write {ω : Type} (record : FaultRecord) (sink : Sink ω) :
    Quiet Event ω (Option IoError) :=
  sink.writeLines record.lines

end Launcher
