import Launcher.Files

/-!
# Loading shared libraries

How a library is found by name and its exports by symbol. A name with a slash is a path; any other
name is looked for in the system's own directories, where nothing of interest is; the empty name
stands for the running program, which exports nothing of interest.

- `Loader`: opening a library and looking symbols up, both with a reason when they fail.
- `Loader.ofFiles`: the loader over a tree of files.
-/

namespace Launcher

/-- An open library. -/
structure Library where
  /-- The export of a symbol, or why it cannot be had. -/
  lookup : String → Except String Export

/-- The means of opening libraries. -/
structure Loader where
  /-- An open library, or why it cannot be opened. -/
  openLibrary : Path → Except String Library

namespace Loader

/-- Why octets cannot be handed to the system as a name: a NUL ends a name, so it may stand at the
end only. -/
def nameRefusal? (bytes : List UInt8) : Option String :=
  if bytes.getLast? = some 0 then
    if bytes.dropLast.contains 0 then
      some "could not create a C string from bytes with trailing null"
    else none
  else if bytes.contains 0 then some "could not create a C string from bytes"
  else none

/-- A name without the NUL at its end. -/
def bareName (bytes : List UInt8) : List UInt8 :=
  if bytes.getLast? = some 0 then bytes.dropLast else bytes

/-- The least size of a file that can be a library: the size of an ELF header. -/
def headerSize : Nat := 64

/-- The exports of a library that was opened as `shown`. -/
def exportsOf (shown : String) (object : SharedObject) : Library where
  lookup symbol :=
    let bytes := Text.Utf8.encode symbol
    match nameRefusal? bytes with
    | some reason => .error reason
    | none =>
      let name := Text.Utf8.decode (bareName bytes)
      match object.find? name with
      | some found => .ok found
      | none => .error (shown ++ ": undefined symbol: " ++ name)

/-- The library in a file that was opened as `shown`. -/
def ofNode (shown : String) : Node → Except String Library
  | .directory => .error (shown ++ ": cannot read file data: Is a directory")
  | .file (.library object) =>
    match object.unresolved with
    | some name => .error (shown ++ ": undefined symbol: " ++ name)
    | none => .ok (exportsOf shown object)
  | .file (.octets bytes) =>
    if bytes.length < headerSize then .error (shown ++ ": file too short")
    else .error (shown ++ ": invalid ELF header")
  | .file (.hole size) =>
    if size < headerSize then .error (shown ++ ": file too short")
    else .error (shown ++ ": invalid ELF header")
  | .file (.log file) =>
    if file.size < headerSize then .error (shown ++ ": file too short")
    else .error (shown ++ ": invalid ELF header")

/-- Why the file of a library cannot be opened. -/
def cannotOpen (shown : String) (error : IoError) : String :=
  shown ++ ": cannot open shared object file: " ++
    match error with
    | .system errno => errno.words
    | .reported _ text => text

/-- The running program, which exports nothing of interest. -/
def program : Library := exportsOf "hlboot" ⟨[], none⟩

/-- The loader over a tree of files. -/
def ofFiles (files : Files) : Loader where
  openLibrary path :=
    match nameRefusal? path.bytes with
    | some reason => .error reason
    | none =>
      let name : Path := ⟨bareName path.bytes⟩
      if name.bytes.isEmpty then .ok program
      else if name.bytes.contains Path.slash then
        match files.find? name with
        | .ok node => ofNode name.display node
        | .error e => .error (cannotOpen name.display e)
      else if Files.maxName < name.bytes.length then
        .error (cannotOpen name.display (.system .nameTooLong))
      else .error (cannotOpen name.display (.system .noEntry))

end Loader

end Launcher
