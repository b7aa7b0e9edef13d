import Launcher.Log.Record

/-!
# Log files

A log file holds whatever was in it before and one entry per record, each with a header that names
time, level and place. The header is not kept; its length counts for the size of the file.
-/

namespace Launcher.Log

/-- A written record: its level and its message, which may run over several lines. -/
structure Line where
  level : Level
  message : String
  deriving DecidableEq

/-- The line that a record is written as. -/
def Record.line (r : Record) : Line := ⟨r.level, r.message⟩

/-- The octets that a line takes beyond its message: the header and the line break. -/
def headerSize : Nat := 100

/-- The octets that a line takes in a file. -/
def Line.size (l : Line) : Nat := l.message.utf8ByteSize + headerSize

/-- The content of a log file: the octets found in it, the lines added, latest first, and how many
octets that makes. -/
structure File where
  found : List UInt8
  added : List Line
  size : Nat
  deriving DecidableEq

namespace File

/-- A log file that continues what was found. -/
def continuing (found : List UInt8) : File := ⟨found, [], found.length⟩

/-- A line added at the end. -/
def add (f : File) (l : Line) : File := ⟨f.found, l :: f.added, f.size + l.size⟩

/-- The records to be read from a log file. A record has to start on a line of its own, so the first
one is lost when what was found does not end in a line break. -/
def records (f : File) : List Line :=
  let lines := f.added.reverse
  match f.found.getLast? with
  | none => lines
  | some last => if last = 0x0A then lines else lines.drop 1

end File

end Launcher.Log
