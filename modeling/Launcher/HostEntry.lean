import Launcher.Installation

/-!
# The host's initializer

A host calls the initializer with its options, any number of times. The settings come from the
environment of the first call. Nothing escapes to the host: whatever goes wrong is told on standard
output.
-/

namespace Launcher.HostEntry

open Log

variable {τ : Type}

/-- The settings of the process: those of the environment at the first call. -/
def resolveSettings : Quiet Event (Installation τ) Settings := fun p =>
  match p.settings with
  | some settings => (settings, [], p)
  | none =>
    let settings := Settings.ofEnvironment p.environment
    (settings, [], { p with settings := some settings })

/-- The record that a call begins with. -/
def startRecord (options : HostOptions) : Record :=
  .info .hostInit .host .start [.detail "host_options" (toString (!options.isNull))]

/-- The record of a call that failed. -/
def failureRecord (failure : Failure) : Record :=
  .error .hostInit .host [.errorCode failure.code]

/-- Loads the VM library and launches. -/
def loadAndLaunch (partners : Installation.Partners τ) (settings : Settings) (options : HostOptions) :
    Act Event (Installation τ) (Except Failure Unit) := do
  Act.emit (.log (startRecord options))
  match ← Act.ofQuiet (Installation.loadRuntime partners settings) with
  | .error failure =>
    Act.ofQuiet (Installation.print .output failure.message)
    return .error failure
  | .ok runtime => Installation.launch partners settings runtime options

/-- What is told when a launch panicked. -/
def panicNotice : String := "hlboot: bootstrap panicked; extension not initialized"

/-- One call of the initializer. -/
def enter (partners : Installation.Partners τ) (options : HostOptions) :
    Quiet Event (Installation τ) Unit := do
  let settings ← resolveSettings
  Installation.announceLogging partners .output settings
  Installation.logged do
    match ← (loadAndLaunch partners settings options).caught with
    | .returned (.ok ()) => return ()
    | .returned (.error failure) => Quiet.emit (.log (failureRecord failure))
    | .panicked _ => Installation.print .output panicNotice

end Launcher.HostEntry
