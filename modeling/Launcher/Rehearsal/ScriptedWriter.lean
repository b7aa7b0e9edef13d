import Launcher.Sink

/-!
# A writer that follows a script

It takes a limited number of octets in all, a limited number at a time, may be interrupted a few
times at first, and fails when it is full and when it is flushed, as told.

- `ScriptedWriter.write`: one attempt at writing.
- `ScriptedWriter.writeAll`: attempts until everything is taken or one fails for good.
-/

namespace Launcher.Rehearsal

/-- The script and the state of a writer. -/
structure ScriptedWriter where
  /-- How many more octets it takes; without a number there is no limit. -/
  budget : Option Nat
  /-- The error when it is full; without one it then takes nothing and says so. -/
  full : Option IoError
  /-- The error of every flush. -/
  flushError : Option IoError
  /-- How many more attempts are interrupted. -/
  interrupts : Nat
  /-- How many octets it takes at a time at most. -/
  chunk : Option Nat
  /-- What it has taken. -/
  taken : List UInt8
  flushes : Nat

namespace ScriptedWriter

/-- What one attempt at writing comes to. -/
inductive Attempt
  | interrupted
  | failed (error : IoError)
  | took (count : Nat)

/-- How many octets the next attempt could take. -/
def room (w : ScriptedWriter) : Option Nat :=
  match w.budget, w.chunk with
  | none, chunk => chunk
  | some budget, none => some budget
  | some budget, some chunk => some (min budget chunk)

/-- How many of `n` octets the next attempt takes. -/
def portion (w : ScriptedWriter) (n : Nat) : Nat :=
  match w.room with
  | none => n
  | some room => min room n

/-- One attempt at writing. -/
def write (w : ScriptedWriter) (bytes : List UInt8) : Attempt × ScriptedWriter :=
  match w.interrupts with
  | n + 1 => (.interrupted, { w with interrupts := n })
  | 0 =>
    if w.budget = some 0 then
      match w.full with
      | some error => (.failed error, w)
      | none => (.took 0, w)
    else
      let count := w.portion bytes.length
      (.took count,
        { w with
          budget := w.budget.map (· - count)
          taken := w.taken ++ bytes.take count })

/-- Attempts until everything is taken or one fails for good. Interruptions are tried again; an
attempt that takes nothing fails the whole. The number of attempts is bounded by the interruptions
still to come and the octets still to be taken. -/
def writeUpTo : Nat → List UInt8 → ScriptedWriter → Option IoError × ScriptedWriter
  | 0, _, w => (none, w)
  | attempts + 1, bytes, w =>
    if bytes.isEmpty then (none, w)
    else
      match w.write bytes with
      | (.interrupted, w) => writeUpTo attempts bytes w
      | (.failed error, w) => (some error, w)
      | (.took 0, w) => (some .writeZero, w)
      | (.took count, w) => writeUpTo attempts (bytes.drop count) w

/-- Writes all of the octets, or fails after taking some of them. -/
def writeAll (bytes : List UInt8) (w : ScriptedWriter) : Option IoError × ScriptedWriter :=
  writeUpTo (w.interrupts + bytes.length + 1) bytes w

/-- Flushes. -/
def flush (w : ScriptedWriter) : Option IoError × ScriptedWriter :=
  (w.flushError, { w with flushes := w.flushes + 1 })

/-- The writer as a diagnostics stream. -/
def sink : Sink ScriptedWriter := ⟨writeAll, flush⟩

end ScriptedWriter

end Launcher.Rehearsal
