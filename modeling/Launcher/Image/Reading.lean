import Launcher.Act
import Launcher.IoError

/-!
# Reading an exact number of octets

A buffer of the declared size is filled by asking a reader again and again for what is still
missing, until the declared size has been reached, the reader gives nothing or fails. Interruptions
are asked again. What counts is what the reader claims: it may write more or fewer octets than it
says, and a place of the buffer that it never wrote holds zero.

- `ReadStep`: what a reader does when asked.
- `readExact`: the loop, with the reads it made.
-/

namespace Launcher

/-- What a reader does when it is asked to fill a buffer. -/
inductive ReadStep
  /-- Hands out octets; what does not fit stays for the next request. -/
  | data (bytes : List UInt8)
  /-- Hands out that many zeros, none of them stored; what does not fit stays. -/
  | zeros (count : Nat)
  /-- Claims a count without writing anything. -/
  | claim (count : Nat)
  | fail (error : IoError)
  /-- Writes octets, as far as they fit, and answers whatever it likes. -/
  | forge (written : List UInt8) (answer : Except IoError Nat)

namespace ReadStep

/-- The octets that a step writes into a buffer with some room. -/
def writes (room : Nat) : ReadStep → List UInt8
  | .data bytes | .forge bytes _ => bytes.take room
  | .zeros count => List.replicate (min count room) 0
  | .claim _ | .fail _ => []

/-- The answer of a step to a buffer with some room: a count of octets, or an error. -/
def answer (room : Nat) : ReadStep → Except IoError Nat
  | .data bytes => .ok (min bytes.length room)
  | .zeros count => .ok (min count room)
  | .claim count => .ok count
  | .fail error => .error error
  | .forge _ answer => answer

end ReadStep

/-- One thing that happened to a reader. -/
inductive ReadEvent
  /-- It was asked to fill a buffer and answered with a count. -/
  | gave (room count : Nat)
  /-- It was asked to fill a buffer and failed. -/
  | failed (room : Nat) (error : IoError)
  /-- It was given up, which closes what is behind it. -/
  | dropped
  deriving DecidableEq

/-- Why fewer octets than declared were read: how many were, and the error, if it was one. -/
structure ShortRead where
  read : Nat
  source : Option IoError
  deriving DecidableEq

namespace Reading

/-- The largest position that fits a machine word. -/
def maxPosition : Nat := UInt64.size - 1

/-- A buffer of some size is kept as far as something has been written; this is the whole of it. -/
def whole (size : Nat) (buffer : List UInt8) : List UInt8 :=
  buffer ++ List.replicate (size - buffer.length) 0

/-- Octets written over a buffer from a position on. -/
def write (buffer : List UInt8) (position : Nat) (bytes : List UInt8) : List UInt8 :=
  whole position (buffer.take position) ++ bytes ++ buffer.drop (position + bytes.length)

/-- What reading one step after the other comes to. `position` counts what the reader has claimed
so far; the reads made are the trace. After the last step the reader gives nothing. -/
def collect (declared : Nat) :
    List ReadStep → (position : Nat) → (buffer : List UInt8) →
      Ending (Except ShortRead (List UInt8)) × List ReadEvent
  | steps, position, buffer =>
    if declared ≤ position then (.returned (.ok (whole declared buffer)), [])
    else
      let room := declared - position
      match steps with
      | [] => (.returned (.error ⟨position, none⟩), [.gave room 0])
      | step :: rest =>
        let buffer := write buffer position (step.writes room)
        match step.answer room with
        | .ok count =>
          if count = 0 then (.returned (.error ⟨position, none⟩), [.gave room 0])
          else if maxPosition < position + count then
            (.panicked .additionOverflow, [.gave room count])
          else
            let (ending, reads) := collect declared rest (position + count) buffer
            (ending, .gave room count :: reads)
        | .error error =>
          if error.kind = .interrupted then
            let (ending, reads) := collect declared rest position buffer
            (ending, .failed room error :: reads)
          else (.returned (.error ⟨position, some error⟩), [.failed room error])

end Reading

/-- Reads exactly `declared` octets from a reader that goes through `steps`, and then gives the
reader up, whatever came of it. -/
def readExact (declared : Nat) (steps : List ReadStep) :
    Ending (Except ShortRead (List UInt8)) × List ReadEvent :=
  let (ending, reads) := Reading.collect declared steps 0 []
  (ending, reads ++ [.dropped])

end Launcher
