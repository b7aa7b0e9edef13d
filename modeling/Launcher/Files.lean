import Launcher.Extension.SharedObject
import Launcher.Image.Reading
import Launcher.Log.Line
import Launcher.Path

/-!
# Files

The files a launch can see, and how the operating system finds its way to them.

- `Files.locate`: the node that a path leads to, or why it leads nowhere.
- `Files.openSource`: opening a file for reading.
- `Files.makeDirs`: making a directory with all that encloses it.
-/

namespace Launcher

/-- A place in the tree of files: the names from the root down. -/
abbrev Place : Type := List (List UInt8)

/-- What a file holds. -/
inductive Content
  | octets (bytes : List UInt8)
  /-- That many zeros, none of them stored. -/
  | hole (size : Nat)
  | library (object : SharedObject)
  | log (file : Log.File)

/-- A node of the tree. -/
inductive Node
  | directory
  | file (content : Content)

/-- The tree of files and the working directory. -/
structure Files where
  cwd : Place
  nodes : List (Place × Node)

/-- What an open file gives to its reader: the size it declares and the reads it answers. -/
structure Source where
  size : Except IoError Nat
  steps : List ReadStep

namespace Files

/-- The longest name of a file. -/
def maxName : Nat := 255

/-- The length from which on a path is too long. -/
def pathLimit : Nat := 4096

/-- The node at a place; the root is always a directory. -/
def node? (f : Files) (place : Place) : Option Node :=
  if place = [] then some .directory
  else (f.nodes.find? fun n => n.1 == place).map Prod.snd

/-- Whether a place holds a directory. -/
def isDirectoryAt (f : Files) (place : Place) : Bool :=
  match f.node? place with
  | some .directory => true
  | _ => false

/-- A node put at a place, whatever was there before. -/
def put (f : Files) (place : Place) (node : Node) : Files :=
  { f with nodes := (place, node) :: f.nodes.filter fun n => n.1 != place }

/-- A node taken away. -/
def erase (f : Files) (place : Place) : Files :=
  { f with nodes := f.nodes.filter fun n => n.1 != place }

/-- A node put at a place, together with the directories on the way to it. -/
def putDeep (f : Files) (place : Place) (node : Node) : Files :=
  let onTheWay := (List.range place.length).map fun n => place.take n
  let f := onTheWay.foldl (fun f p => if (f.node? p).isSome then f else f.put p .directory) f
  f.put place node

/-- The names directly below a place. -/
def namesBelow (f : Files) (place : Place) : List (List UInt8) :=
  f.nodes.filterMap fun n =>
    if n.1.dropLast = place then n.1.getLast? else none

/-- One step of a walk. Every step has to start at a directory, which is also what a slash at the
end of a path asks for. -/
def step (f : Files) (place : Place) (segment : List UInt8) : Except Errno Place :=
  if !f.isDirectoryAt place then .error .notDirectory
  else if Path.isIdle segment then .ok place
  else if segment = Path.dotDot then .ok place.dropLast
  else if maxName < segment.length then .error .nameTooLong
  else if (f.node? (place ++ [segment])).isSome then .ok (place ++ [segment])
  else .error .noEntry

/-- A walk along segments. -/
def walk (f : Files) : Place → List (List UInt8) → Except Errno Place
  | place, [] => .ok place
  | place, s :: ss =>
    match f.step place s with
    | .ok next => f.walk next ss
    | .error e => .error e

/-- Where the walk along a path starts. -/
def start (f : Files) (p : Path) : Place := if p.isAbsolute then [] else f.cwd

/-- What keeps a path from being walked at all. -/
def refusal? (p : Path) : Option IoError :=
  if p.bytes.contains 0 then some .nulInPath
  else if p.bytes.isEmpty then some (.system .noEntry)
  else if pathLimit ≤ p.bytes.length then some (.system .nameTooLong)
  else none

/-- The place that a path leads to. -/
def locate (f : Files) (p : Path) : Except IoError Place :=
  match refusal? p with
  | some e => .error e
  | none =>
    match f.walk (f.start p) (Path.segments p.bytes) with
    | .ok place => .ok place
    | .error e => .error (.system e)

/-- The node that a path leads to. -/
def find? (f : Files) (p : Path) : Except IoError Node :=
  match f.locate p with
  | .ok place => match f.node? place with
    | some node => .ok node
    | none => .error (.system .noEntry)
  | .error e => .error e

/-- Whether a path leads to a directory. -/
def isDirectory (f : Files) (p : Path) : Bool :=
  match f.locate p with
  | .ok place => f.isDirectoryAt place
  | .error _ => false

/-- The size that a directory declares. -/
def directorySize : Nat := 4096

/-- What the reader of a node gets. A directory can be opened but not read. -/
def Node.source : Node → Source
  | .directory => ⟨.ok directorySize, [.fail (.system .isDirectory)]⟩
  | .file (.octets bytes) => ⟨.ok bytes.length, [.data bytes]⟩
  | .file (.hole size) => ⟨.ok size, [.zeros size]⟩
  | .file (.library _) => ⟨.ok 0, []⟩
  | .file (.log file) => ⟨.ok file.size, []⟩

/-- Opens a path for reading. -/
def openSource (f : Files) (p : Path) : Except IoError Source :=
  match f.find? p with
  | .ok node => .ok (Node.source node)
  | .error e => .error e

/-- Makes one directory; everything but the last name has to be there already. -/
def makeDir (f : Files) (p : Path) : Except IoError Files :=
  match refusal? p with
  | some e => .error e
  | none =>
    let segments := (Path.segments p.bytes).reverse.dropWhile List.isEmpty
    match segments with
    | [] => .error (.system .exists)
    | name :: before =>
      match f.walk (f.start p) before.reverse with
      | .error e => .error (.system e)
      | .ok place =>
        if !f.isDirectoryAt place then .error (.system .notDirectory)
        else if name = Path.dot ∨ name = Path.dotDot then .error (.system .exists)
        else if maxName < name.length then .error (.system .nameTooLong)
        else if (f.node? (place ++ [name])).isSome then .error (.system .exists)
        else .ok (f.put (place ++ [name]) .directory)

/-- Makes the first of a row of directories, each enclosing the one before it. When it cannot be
made because what encloses it is missing, that is made first. -/
def makeDirsAlong : List Path → Files → Except IoError Unit × Files
  | [], f => (.ok (), f)
  | p :: outer, f =>
    if p.bytes.isEmpty then (.ok (), f)
    else
      let settle (f : Files) : Except IoError Unit × Files :=
        match f.makeDir p with
        | .ok made => (.ok (), made)
        | .error e => if f.isDirectory p then (.ok (), f) else (.error e, f)
      match f.makeDir p with
      | .error (.system .noEntry) =>
        if outer.isEmpty then (.error (.reported .other "failed to create whole tree"), f)
        else
          match makeDirsAlong outer f with
          | (.ok (), f) => settle f
          | (.error e, f) => (.error e, f)
      | _ => settle f

/-- Makes a directory with all that encloses it. -/
def makeDirs (f : Files) (p : Path) : Except IoError Unit × Files := makeDirsAlong p.ancestors f

end Files

end Launcher
