import Launcher.Session
import Launcher.Settings
import Launcher.Trap

/-!
# Launching

A launch goes through nine steps: create the global state, load the image, build a module, link it,
drop what linking made superfluous, resolve the setup hook, call it, look the entrypoint up, call
it. The first step that fails decides the result. Whatever has been acquired by then is released in
one order: the module, its program, the global state, the hook.

- `Launch.forward`: the steps.
- `Launch.releaseAll`: the release.
- `Launch.run`: one launch with its log records and its diagnostics.
-/

namespace Launcher

/-- What a launch holds and has to release. -/
structure Holdings where
  session : Option Session
  module : Option LoadedModule
  hook : Option Hook
  deriving DecidableEq

/-- Nothing held. -/
def Holdings.none : Holdings := ⟨.none, .none, .none⟩

/-- What a launch acts on: the seam, the diagnostics stream and what is held. -/
structure Stage (σ ω : Type) where
  console : Console σ ω
  held : Holdings

/-- Everything a launch is made of: the VM, the way to the setup hook, the diagnostics stream, the
files and the settings. -/
structure Launch (σ ω : Type) where
  vm : Vm σ
  resolver : Resolver σ
  sink : Sink ω
  opening : Opening
  settings : Settings

namespace Stage

variable {σ ω α : Type}

/-- A stage with nothing held. -/
def bare (console : Console σ ω) : Stage σ ω := ⟨console, .none⟩

/-- Carried out at the seam. -/
def atSeam (act : Act Event (Seam σ) α) : Act Event (Stage σ ω) α :=
  (Console.atSeam act).within Stage.console (fun console s => { s with console }) id

/-- A quiet act carried out at the seam. -/
def atSeamQuiet (act : Quiet Event (Seam σ) α) : Quiet Event (Stage σ ω) α :=
  act.within (fun s => s.console.seam)
    (fun seam s => { s with console := { s.console with seam } }) id

/-- Carried out at the console. -/
def atConsole (act : Act Event (Console σ ω) α) : Act Event (Stage σ ω) α :=
  act.within Stage.console (fun console s => { s with console }) id

/-- A change of what is held. -/
def hold (change : Holdings → Holdings) : Act Event (Stage σ ω) Unit :=
  Act.ofQuiet (Quiet.modify fun s => { s with held := change s.held })

end Stage

namespace Launch

open Log

variable {σ ω : Type} (l : Launch σ ω)

/-! ## The steps -/

/-- Creates the global state. -/
def startSession : Act Event (Stage σ ω) (Except Failure Session) := do
  match ← Act.ofQuiet (Stage.atSeamQuiet (Session.start l.vm)) with
  | .ok session =>
    Stage.hold fun held => { held with session := some session }
    return .ok session
  | .error failure => return .error failure

/-- Loads the image. -/
def loadCode : Act Event (Stage σ ω) (Except Failure ParsedCode) :=
  Stage.atSeam (Session.load l.vm l.opening l.settings.image)

/-- Builds the module. -/
def buildModule (session : Session) (code : ParsedCode) :
    Act Event (Stage σ ω) (Except Failure LoadedModule) := do
  match ← Stage.atSeam (Session.allocate l.vm session code) with
  | .ok (module, session) =>
    Stage.hold fun held => { held with module := some module, session := some session }
    return .ok module
  | .error failure => return .error failure

/-- Links the module. -/
def linkModule (module : LoadedModule) (options : HostOptions) :
    Act Event (Stage σ ω) (Except Failure Unit) :=
  Stage.atSeam (Session.link l.vm module options)

/-- Drops what linking made superfluous. -/
def compactModule (module : LoadedModule) : Act Event (Stage σ ω) (Except Failure LoadedModule) := do
  let module ← Act.ofQuiet (Stage.atSeamQuiet (Session.compactModule l.vm module))
  Stage.hold fun held => { held with module := some module }
  return .ok module

/-- Resolves the setup hook. A failure of the resolver is that of the step. -/
def resolveHook : Act Event (Stage σ ω) (Except Failure Hook) := do
  match ← Stage.atSeam (Seam.resolve l.resolver l.settings.extension l.settings.symbol) with
  | .ok hook =>
    Stage.hold fun held => { held with hook := some hook }
    return .ok hook
  | .error failure => return .error failure

/-- A guarded call that ended in a fault is reported and fails the launch. -/
def settle (outcome : TrapOutcome) : Act Event (Stage σ ω) (Except Failure Unit) :=
  match outcome with
  | .disarmed => return .ok ()
  | .triggered record => do
    Stage.atConsole (Trap.report l.vm l.sink record)
    return .error (.uncaught record)

/-- Calls the setup hook. -/
def callSetup (hook : Hook) (options : HostOptions) :
    Act Event (Stage σ ω) (Except Failure Unit) := do
  l.settle (← Stage.atSeam (Trap.setup l.vm hook options))

/-- Looks the entrypoint up. -/
def findEntry (module : LoadedModule) : Act Event (Stage σ ω) (Except Failure Closure) :=
  Stage.atSeam (Session.entryClosure l.vm module)

/-- Calls the entrypoint. -/
def callEntry (closure : Closure) : Act Event (Stage σ ω) (Except Failure Unit) := do
  l.settle (← Stage.atSeam (Trap.run l.vm closure))

/-- The steps in order, up to the first that fails. -/
def forward (options : HostOptions) : Act Event (Stage σ ω) (Except Failure Unit) :=
  l.startSession.attempt fun session =>
  l.loadCode.attempt fun code =>
  (l.buildModule session code).attempt fun module =>
  (l.linkModule module options).attempt fun () =>
  (l.compactModule module).attempt fun module =>
  l.resolveHook.attempt fun hook =>
  (l.callSetup hook options).attempt fun () =>
  (l.findEntry module).attempt fun closure =>
  l.callEntry closure

/-! ## The release -/

/-- Frees the module, if one is held. -/
def releaseModule (held : Holdings) : Quiet Event (Stage σ ω) Unit :=
  match held.session, held.module with
  | some session, some module => do
    let _ ← Stage.atSeamQuiet (Session.free l.vm session module)
    return ()
  | _, _ => return ()

/-- Releases the global state, if it is held. -/
def releaseSession (held : Holdings) : Quiet Event (Stage σ ω) Unit :=
  match held.session with
  | some _ => Stage.atSeamQuiet (Session.finish l.vm)
  | none => return ()

/-- Gives the hook up, if one is held. -/
def releaseHook (held : Holdings) : Quiet Event (Stage σ ω) Unit :=
  match held.hook with
  | some hook => Stage.atSeamQuiet (Seam.dropHook l.resolver hook)
  | none => return ()

/-- Releases everything that is held: the module with its program, the global state, the hook. -/
def releaseAll : Quiet Event (Stage σ ω) Unit := do
  let held ← Quiet.gets Stage.held
  l.releaseModule held
  l.releaseSession held
  l.releaseHook held
  Quiet.modify fun s => { s with held := .none }

/-- The steps and the release that follows them, however they ended. -/
def sequence (options : HostOptions) : Act Event (Stage σ ω) (Except Failure Unit) :=
  (l.forward options).ensuring l.releaseAll

/-! ## The whole launch -/

/-- The record that a launch begins with. -/
def startRecord : Record :=
  .info .bootstrap .bootstrap .start
    [.detail "image" l.settings.image.display, .detail "extension" l.settings.extension]

/-- The record that a successful launch ends with. -/
def successRecord : Record := .info .bootstrap .bootstrap .ok [.duration]

/-- The record that a failed launch ends with. -/
def failureRecord (failure : Failure) : Record :=
  .error .bootstrap .bootstrap
    [.duration, .errorCode failure.code, .detail "error" failure.message]

/-- The record of a diagnostic that could not be written. -/
def diagnosticErrorRecord (failure : Failure) (error : IoError) : Record :=
  .error .diagnostics .bootstrap [.errorCode failure.code, .detail "error" error.text]

/-- The line that tells people about a failure. -/
def diagnostic (failure : Failure) : String := failure.message ++ FaultRecord.newline

/-- Tells people about a failure. A fault has been reported already. -/
def diagnose (failure : Failure) : Act Event (Stage σ ω) Unit :=
  if failure.isFault then return ()
  else do
    let written ← Act.ofQuiet (Quiet.within (fun s : Stage σ ω => s.console.sink)
      (fun sink s => { s with console := { s.console with sink } }) id
      (l.sink.writeLines [diagnostic failure]))
    match written with
    | none => return ()
    | some error => Act.emit (.log (diagnosticErrorRecord failure error))

/-- One launch with the given host options. -/
def run (options : HostOptions) : Act Event (Stage σ ω) (Except Failure Unit) := do
  Act.emit (.log l.startRecord)
  let result ← l.sequence options
  match result with
  | .ok () => Act.emit (.log successRecord)
  | .error failure =>
    Act.emit (.log (failureRecord failure))
    l.diagnose failure
  return result

end Launch

end Launcher
