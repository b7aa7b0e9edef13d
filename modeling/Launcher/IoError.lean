/-!
# Input and output errors

An error is either raised by the operating system, and then known by its number, or reported with
a kind and a text of its own.
-/

namespace Launcher

/-- The operating system errors that opening files and making directories can end in. -/
inductive Errno
  | noEntry
  | exists
  | notDirectory
  | isDirectory
  | nameTooLong
  deriving DecidableEq

/-- What kind of trouble an error is. -/
inductive IoKind
  | notFound
  | alreadyExists
  | notADirectory
  | isADirectory
  | invalidFilename
  | invalidInput
  | permissionDenied
  | interrupted
  | unexpectedEof
  | wouldBlock
  | brokenPipe
  | invalidData
  | timedOut
  | writeZero
  | other
  deriving DecidableEq

/-- An input or output error. -/
inductive IoError
  | system (errno : Errno)
  | reported (kind : IoKind) (text : String)
  deriving DecidableEq

/-- The kind an operating system error belongs to. -/
def Errno.kind : Errno → IoKind
  | .noEntry => .notFound
  | .exists => .alreadyExists
  | .notDirectory => .notADirectory
  | .isDirectory => .isADirectory
  | .nameTooLong => .invalidFilename

/-- The operating system's own words for an error. -/
def Errno.words : Errno → String
  | .noEntry => "No such file or directory"
  | .exists => "File exists"
  | .notDirectory => "Not a directory"
  | .isDirectory => "Is a directory"
  | .nameTooLong => "File name too long"

/-- The number of an operating system error. -/
def Errno.number : Errno → Nat
  | .noEntry => 2
  | .exists => 17
  | .notDirectory => 20
  | .isDirectory => 21
  | .nameTooLong => 36

namespace IoError

/-- The kind of an error. -/
def kind : IoError → IoKind
  | .system errno => errno.kind
  | .reported kind _ => kind

/-- How an error is shown. -/
def text : IoError → String
  | .system errno => errno.words ++ " (os error " ++ toString errno.number ++ ")"
  | .reported _ text => text

/-- A path with a NUL octet never reaches the operating system. -/
def nulInPath : IoError := .reported .invalidInput "file name contained an unexpected NUL byte"

/-- A writer that takes nothing any more. -/
def writeZero : IoError := .reported .writeZero "failed to write whole buffer"

end IoError

end Launcher
