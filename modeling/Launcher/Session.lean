import Launcher.Image
import Launcher.Seam

/-!
# Sessions

A session holds the global state of the VM. Within it images are parsed and a module is built from a
parsed program; one module at most is alive at a time. Whatever was acquired is released once: a
module before the program it was built from, a program after its bodies were dropped, the global
state last.

- `ParsedCode`, `LoadedModule`: what a client of a session holds.
- `Session.start` … `Session.finish`: the operations.
-/

namespace Launcher

/-- A parsed program, and whether its bodies have been dropped. -/
structure ParsedCode where
  id : CodeId
  compacted : Bool
  deriving DecidableEq

/-- A module and the program it was built from. -/
structure LoadedModule where
  /-- The module, until it is freed. -/
  id : Option ModuleId
  code : ParsedCode
  deriving DecidableEq

/-- An open session. -/
structure Session where
  /-- Whether a module is alive. -/
  moduleLive : Bool
  deriving DecidableEq

namespace Session

open Log

variable {σ : Type}

/-- Creates the global state. -/
def start (vm : Vm σ) : Quiet Event (Seam σ) (Except Failure Session) := do
  match ← Seam.globalInit vm with
  | .ok () =>
    Quiet.emit (.log (.info .globalInit .context .ok []))
    return .ok ⟨false⟩
  | .error reason =>
    let failure := Failure.runtimeUnavailable reason
    Quiet.emit (.log (.error .globalInit .context
      [.errorCode failure.code, .detail "error" reason]))
    return .error failure

/-- Releases the global state. -/
def finish (vm : Vm σ) : Quiet Event (Seam σ) Unit := do
  Seam.globalTeardown vm
  Quiet.emit (.log (.info .globalTeardown .context .ok []))

/-- The record of an image that could not be loaded. -/
def loadErrorRecord (failure : Failure) : Record :=
  .error .imageLoad .image
    [.duration, .errorCode failure.code, .detail "error" failure.message]

/-- Parses an image that was read from a path. -/
def parse (vm : Vm σ) (path : Path) (image : Image) :
    Act Event (Seam σ) (Except Failure ParsedCode) := do
  match ← Seam.parse vm image with
  | .ok id =>
    Act.emit (.log (.info .imageLoad .image .ok
      [.duration, .detail "bytes" (toString image.bytes.length)]))
    return .ok ⟨id, false⟩
  | .error reason =>
    let failure := Failure.imageMalformed path reason
    Act.emit (.log (loadErrorRecord failure))
    return .error failure

/-- Reads the image behind a path and parses it. -/
def load (vm : Vm σ) (opening : Opening) (path : Path) :
    Act Event (Seam σ) (Except Failure ParsedCode) := do
  Act.emit (.log (.info .imageLoad .image .start [.detail "path" path.display]))
  match ← Act.conclude (Image.read opening path) Event.panic with
  | .ok image => parse vm path image
  | .error failure =>
    Act.emit (.log (loadErrorRecord failure))
    return .error failure

/-- Drops the bodies of a program, unless that has been done. -/
def compact (vm : Vm σ) (code : ParsedCode) : Quiet Event (Seam σ) ParsedCode := do
  if code.compacted then return code
  else
    Seam.compact vm code.id
    return { code with compacted := true }

/-- Gives a program up: its bodies, then the program itself. -/
def dropCode (vm : Vm σ) (code : ParsedCode) : Quiet Event (Seam σ) Unit := do
  let code ← compact vm code
  Seam.release vm code.id
  Quiet.emit (.log (.debug .codeRelease .context .ok []))

/-- The reason when a session has a module already. -/
def moduleAlive : String := "a module is already alive in this context"

/-- The reason when the VM gives no module. -/
def noModule : String := "the VM could not allocate a module"

/-- Builds a module from a program. The program is used up: it belongs to the module, or is given up
when there is none. -/
def allocate (vm : Vm σ) (session : Session) (code : ParsedCode) :
    Act Event (Seam σ) (Except Failure (LoadedModule × Session)) :=
  if session.moduleLive then do
    dropCode vm code
    return .error (.allocation moduleAlive)
  else do
    match ← (Seam.allocate vm code.id).onPanic (dropCode vm code) with
    | some id =>
      Act.emit (.log (.debug .moduleAlloc .context .ok []))
      return .ok (⟨some id, code⟩, { session with moduleLive := true })
    | none =>
      let failure := Failure.allocation noModule
      Act.emit (.log (.error .moduleAlloc .context [.errorCode failure.code]))
      dropCode vm code
      return .error failure

/-- The reason when a module is used after it was freed. -/
def moduleFreed : String := "module was already freed"

/-- Links a module with the host options. A module that cannot be linked stays to be freed. -/
def link (vm : Vm σ) (module : LoadedModule) (options : HostOptions) :
    Act Event (Seam σ) (Except Failure Unit) :=
  match module.id with
  | none => return .error (.link moduleFreed)
  | some id => do
    match ← Seam.link vm id options with
    | .ok () =>
      Act.emit (.log (.info .moduleInit .context .ok []))
      return .ok ()
    | .error reason =>
      let failure := Failure.link reason
      Act.emit (.log (.error .moduleInit .context
        [.errorCode failure.code, .detail "error" reason]))
      return .error failure

/-- Drops the bodies that a linked module does not need. -/
def compactModule (vm : Vm σ) (module : LoadedModule) : Quiet Event (Seam σ) LoadedModule := do
  let code ← compact vm module.code
  return { module with code }

/-- What calling the entrypoint of a module takes. -/
def entryClosure (vm : Vm σ) (module : LoadedModule) :
    Act Event (Seam σ) (Except Failure Closure) :=
  match module.id with
  | none => return .error (.link moduleFreed)
  | some id => do
    match ← Seam.entryClosure vm id with
    | .ok closure => return .ok closure
    | .error reason => return .error (.link reason)

/-- Frees a module, unless that has been done, then gives its program up. -/
def free (vm : Vm σ) (session : Session) (module : LoadedModule) :
    Quiet Event (Seam σ) Session :=
  match module.id with
  | none => do
    dropCode vm module.code
    return session
  | some id => do
    Seam.freeModule vm id
    Quiet.emit (.log (.debug .moduleFree .context .ok []))
    dropCode vm module.code
    return { session with moduleLive := false }

end Session

end Launcher
