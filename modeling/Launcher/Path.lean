import Launcher.Text.Utf8

/-!
# Paths

A path is a sequence of octets. Two spellings name the same place when their components agree:
repeated slashes, trailing slashes and `.` components count for nothing, except that a leading `.`
is kept.

- `Path.components`: what a path is compared by.
- `Path.parent`, `Path.join`: the enclosing directory and the place of a name inside a directory.
- `Path.display`: how a path is shown.
-/

namespace Launcher

/-- A path as the operating system takes it. -/
structure Path where
  bytes : List UInt8
  deriving DecidableEq, Inhabited

namespace Path

/-- The octet of `/`. -/
def slash : UInt8 := 0x2F

/-- The name of the directory itself. -/
def dot : List UInt8 := [0x2E]

/-- The name of the enclosing directory. -/
def dotDot : List UInt8 := [0x2E, 0x2E]

/-- The path that a text spells. -/
def ofString (s : String) : Path := ⟨Text.Utf8.encode s⟩

/-- How a path is shown. -/
def display (p : Path) : String := Text.Utf8.decode p.bytes

/-- The empty path. -/
def empty : Path := ⟨[]⟩

/-- Whether a path starts at the root. -/
def isAbsolute (p : Path) : Bool := p.bytes.head? == some slash

/-- The segments between slashes; there is always at least one, possibly empty. -/
def segments : List UInt8 → List (List UInt8)
  | [] => [[]]
  | b :: bs =>
    if b = slash then [] :: segments bs
    else match segments bs with
      | [] => [[b]]
      | s :: ss => (b :: s) :: ss

/-- Segments put together again. -/
def unsegment : List (List UInt8) → List UInt8
  | [] => []
  | [s] => s
  | s :: ss => s ++ slash :: unsegment ss

/-- Whether a segment names no step at all. -/
def isIdle (s : List UInt8) : Bool := s.isEmpty || s == dot

/-- One component of a path. -/
inductive Component
  | root
  | here
  | up
  | name (octets : List UInt8)
  deriving DecidableEq

/-- The component of a segment that names a step. -/
def Component.ofSegment (s : List UInt8) : Component := if s == dotDot then .up else .name s

/-- The part of a path before its steps: the root, a leading `.`, or nothing. -/
def lead (p : Path) : List UInt8 :=
  if p.isAbsolute then [slash]
  else if p.bytes = dot ∨ p.bytes.take 2 = [0x2E, slash] then dot
  else []

/-- The segments of a path after its lead. -/
def body (p : Path) : List (List UInt8) := segments (p.bytes.drop p.lead.length)

/-- The component that the lead stands for. -/
def leadComponents (p : Path) : List Component :=
  if p.isAbsolute then [.root] else if p.lead = dot then [.here] else []

/-- What a path is compared by. -/
def components (p : Path) : List Component :=
  p.leadComponents ++ (p.body.filter fun s => !isIdle s).map Component.ofSegment

/-- Equality of paths by components. -/
def same (p q : Path) : Bool := p.components == q.components

/-- Segments without the idle ones at their end. -/
def dropIdleEnd (ss : List (List UInt8)) : List (List UInt8) :=
  (ss.reverse.dropWhile isIdle).reverse

/-- The path of the enclosing directory: the last component goes, and with it whatever is idle
before and after it. The root and the empty path have none. -/
def parent (p : Path) : Option Path :=
  match dropIdleEnd p.body with
  | [] => if p.lead = dot then some empty else none
  | s :: ss => some ⟨p.lead ++ unsegment (dropIdleEnd (s :: ss).dropLast)⟩

/-- The place of `name` in the directory `dir`. An absolute name stands for itself; otherwise one
slash is put between the two unless `dir` is empty or ends in one. -/
def join (dir name : Path) : Path :=
  if name.isAbsolute then name
  else if dir.bytes.isEmpty ∨ dir.bytes.getLast? = some slash then ⟨dir.bytes ++ name.bytes⟩
  else ⟨dir.bytes ++ slash :: name.bytes⟩

/-- A path followed by its enclosing directories, innermost first, at most `fuel` of them. -/
def ancestorsUpTo : Nat → Path → List Path
  | 0, p => [p]
  | fuel + 1, p =>
    match p.parent with
    | some q => p :: ancestorsUpTo fuel q
    | none => [p]

/-- A path followed by its enclosing directories, innermost first. Each is shorter than the one
before, so the length of the path is enough. -/
def ancestors (p : Path) : List Path := ancestorsUpTo p.bytes.length p

end Path

end Launcher
