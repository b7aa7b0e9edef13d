import Launcher.HashLink
import Launcher.Launch
import Launcher.Logging

/-!
# An installation

What lasts from one launch to the next: the environment, the files, the log, the settings once they
have been resolved, and the VM library.

- `Installation.loadRuntime`, `Installation.launch`: loading the VM library and launching with it.
- `Installation.announceLogging`: starting the log that settings name.
- `Installation.logged`: an act whose events go to the log.
-/

namespace Launcher

/-- The state of an installation: all that one run of the program sees and changes. -/
structure Installation (τ : Type) where
  environment : Environment
  logging : Logging LogStore
  /-- The settings of the host's launches, once resolved. -/
  settings : Option Settings
  seam : Seam (HashLink.State τ)

/-- What an installation finds around it: the functions of the VM library, the last word of an
extension that is unloaded, the system's loader, and what starting the log takes. -/
structure Installation.Partners (τ : Type) where
  api : HashLink.Api τ
  lastWord : Quiet Note (HashLink.State τ) Unit
  /-- What can be loaded may depend on the files, the log's among them. -/
  loader : Files → Loader
  backend : Logging.Backend LogStore

namespace Installation

variable {τ α : Type}

/-- The files of an installation. -/
def files (p : Installation τ) : Files := p.logging.store.files

/-- A stream that takes everything. -/
def openStream : Sink Unit := ⟨fun _ w => (none, w), fun w => (none, w)⟩

/-- A line printed to a stream. -/
def print (stream : Stream) (text : String) : Quiet Event (Installation τ) Unit :=
  Quiet.emit (.print stream (text ++ "\n"))

/-- An act whose events go to the log. -/
def logged (act : Quiet Event (Installation τ) α) : Quiet Event (Installation τ) α := fun p =>
  let (a, trace, p) := act p
  (a, trace, { p with logging := LogStore.record p.logging trace })

/-- Starts the log that settings name. That it cannot be started is told and changes nothing else. -/
def announceLogging (partners : Partners τ) (stream : Stream) (settings : Settings) :
    Quiet Event (Installation τ) Unit := do
  let answer ← logged (Quiet.within Installation.logging (fun logging p => { p with logging }) id
    (Logging.initFromSettings partners.backend settings))
  match answer with
  | .ok _ => return ()
  | .error refusal => print stream ("hlboot: file logging disabled: " ++ refusal.message)

/-- Loads the VM library that settings name. -/
def loadRuntime (partners : Partners τ) (settings : Settings) :
    Quiet Event (Installation τ) (Except Failure HashLink.Runtime) := fun p =>
  let (answer, trace) :=
    HashLink.load (partners.loader p.files) settings.runtime true settings.hotReload
  (answer, trace, p)

/-- The launch of settings with a loaded runtime. Diagnostics go to standard output. -/
def launchOf (partners : Partners τ) (files : Files) (settings : Settings)
    (runtime : HashLink.Runtime) : Launch (HashLink.State τ) Unit where
  vm := HashLink.vm partners.api runtime
  resolver := Resolver.ofLoader (partners.loader files) (SearchDir.beside settings.image)
    partners.lastWord
  sink := openStream
  opening := files.openSource
  settings := settings

/-- Launches with a loaded runtime. -/
def launch (partners : Partners τ) (settings : Settings) (runtime : HashLink.Runtime)
    (options : HostOptions) : Act Event (Installation τ) (Except Failure Unit) := fun p =>
  let launch := launchOf partners p.files settings runtime
  (launch.run options).within (fun p => Stage.bare ⟨p.seam, ()⟩)
    (fun stage p => { p with seam := stage.console.seam }) id p

end Installation

end Launcher
