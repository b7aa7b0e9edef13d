import Launcher.Files

/-!
# Rolling log files

Records go to the current file of a directory. Before a record is written to a current file that has
grown too large, that file is put aside under the next number and a new one is begun. A current file
found in the directory is continued.
-/

namespace Launcher.Log

/-- The size beyond which the current file is put aside. -/
def maxFileSize : Nat := 4 * 1024 * 1024

/-- The name of the current file. -/
def currentName : String := "hlboot_rCURRENT.log"

/-- What the names of all log files begin with. -/
def nameStart : String := "hlboot_r"

/-- What the names of all log files end with. -/
def nameEnd : String := ".log"

/-- A number with at least five digits. -/
def fiveDigits (n : Nat) : String :=
  let digits := Nat.toDigits 10 n
  String.ofList (List.replicate (5 - digits.length) '0' ++ digits)

/-- The name of a file that was put aside. -/
def asideName (n : Nat) : String := nameStart ++ fiveDigits n ++ nameEnd

/-- The number of a file that was put aside. -/
def asideNumber? (name : String) : Option Nat :=
  let cs := name.toList
  let digits := (cs.drop nameStart.length).take
    (cs.length - nameStart.length - nameEnd.length)
  if digits.isEmpty ∨ digits.any (fun c => !c.isDigit) then none
  else if cs = nameStart.toList ++ digits ++ nameEnd.toList then
    some (digits.foldl (fun n c => n * 10 + (c.toNat - '0'.toNat)) 0)
  else none

/-- The number that comes after all files put aside in a directory. -/
def nextNumber (files : Files) (dir : Place) : Nat :=
  ((files.namesBelow dir).filterMap fun name => asideNumber? (Text.Utf8.decode name)).foldl
    (fun next n => max next (n + 1)) 0

/-- The place of a file in a directory. -/
def fileIn (dir : Place) (name : String) : Place := dir ++ [Text.Utf8.encode name]

/-- The current file of a directory, as far as there is one. -/
def currentFile (files : Files) (dir : Place) : File :=
  match files.node? (fileIn dir currentName) with
  | some (.file (.log file)) => file
  | some (.file (.octets bytes)) => .continuing bytes
  | _ => .continuing []

/-- A line written to the current file of a directory. -/
def append (files : Files) (dir : Place) (line : Line) : Files :=
  let current := currentFile files dir
  let place := fileIn dir currentName
  if maxFileSize < current.size then
    let aside := fileIn dir (asideName (nextNumber files dir))
    (files.put aside (.file (.log current))).put place (.file (.log ((File.continuing []).add line)))
  else files.put place (.file (.log (current.add line)))

/-- The records of the current file of a directory, if it exists. -/
def records? (files : Files) (dir : Place) : Option (List Line) :=
  match files.node? (fileIn dir currentName) with
  | some (.file (.log file)) => some file.records
  | some (.file _) => some []
  | _ => none

end Launcher.Log
