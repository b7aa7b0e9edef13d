import Launcher.Failure
import Launcher.Image.Reading
import Launcher.Files

/-!
# Bytecode images

An image is read as a whole before it is parsed. Its size is checked first, against what the parser
can take, so that nothing is read for an image that is too large.

- `Image.readFrom`: an image of a declared size from a reader.
- `Image.reading`, `Image.read`: the image behind a path, with and without the reads made.
-/

namespace Launcher

/-- The octets of an image. -/
structure Image where
  bytes : List UInt8
  deriving DecidableEq

/-- Opening a path for reading. -/
abbrev Opening : Type := Path → Except IoError Source

namespace Image

/-- The size of the largest image that the parser takes, whose size argument has 32 bits. -/
def maxSize : Nat := 2147483647

/-- Why an image is too large. -/
def tooLarge (size : Nat) : String :=
  "image of " ++ toString size ++ " bytes exceeds the " ++ toString maxSize ++ " byte limit"

/-- What a reading comes to under the name of a path. -/
def ofReading (declared : Nat) (path : Path) :
    Ending (Except ShortRead (List UInt8)) → Ending (Except Failure Image)
  | .returned (.ok bytes) => .returned (.ok ⟨bytes⟩)
  | .returned (.error short) =>
    .returned (.error (.imageUnread path declared short.read short.source))
  | .panicked p => .panicked p

/-- An image of a declared size from a reader, with the reads made. The path only labels errors. -/
def readFrom (declared : Nat) (path : Path) (steps : List ReadStep) :
    Ending (Except Failure Image) × List ReadEvent :=
  let (ending, reads) := readExact declared steps
  (ofReading declared path ending, reads)

/-- The image behind a path, with the reads made. Nothing is read of an image that is too large. -/
def reading (opening : Opening) (path : Path) : Ending (Except Failure Image) × List ReadEvent :=
  match opening path with
  | .error e => (.returned (.error (.imageNotFound path e)), [])
  | .ok source =>
    match source.size with
    | .error e => (.returned (.error (.imageUnread path 0 0 (some e))), [.dropped])
    | .ok size =>
      if maxSize < size then
        (.returned (.error (.imageMalformed path (tooLarge size))), [.dropped])
      else readFrom size path source.steps

/-- The image behind a path. -/
def read (opening : Opening) (path : Path) : Ending (Except Failure Image) :=
  (reading opening path).1

end Image

end Launcher
