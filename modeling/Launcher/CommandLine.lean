import Launcher.CommandLine.Arguments
import Launcher.Installation

/-!
# The command line

Launches the image that the arguments name, without a host. Problems are told on standard error and
by the exit code.
-/

namespace Launcher.CommandLine

variable {τ : Type}

/-- The exit code of a run. -/
inductive ExitCode
  | success
  | failure
  | usage
  | panic
  deriving DecidableEq

/-- The number of an exit code. -/
def ExitCode.number : ExitCode → Nat
  | success => 0
  | failure => 1
  | usage => 2
  | panic => 101

/-- The name and version of the program. -/
def versionLine : String := "hlboot " ++ Logging.version

/-- What is told about a launch that failed. -/
def summary (failure : Failure) : String :=
  "hlboot " ++ Logging.version ++ ": " ++ failure.code ++ " (" ++ failure.message ++ ")"

/-- Loads the VM library and launches. -/
def loadAndLaunch (partners : Installation.Partners τ) (settings : Settings) :
    Quiet Event (Installation τ) ExitCode := do
  match ← Installation.loadRuntime partners settings with
  | .error failure =>
    Installation.print .error failure.message
    return .failure
  | .ok runtime =>
    match ← (Installation.launch partners settings runtime .null).caught with
    | .returned (.ok ()) => return .success
    | .returned (.error failure) =>
      Installation.print .error (summary failure)
      return .failure
    | .panicked _ => return .panic

/-- Runs with settings. -/
def runSettings (partners : Installation.Partners τ) (settings : Settings) :
    Quiet Event (Installation τ) ExitCode := do
  Installation.announceLogging partners .error settings
  Installation.logged (loadAndLaunch partners settings)

/-- Runs with arguments. -/
def run (partners : Installation.Partners τ) (args : List (List UInt8)) :
    Quiet Event (Installation τ) ExitCode := do
  match Arguments.parse args (← Quiet.gets Installation.environment) with
  | .ok settings => runSettings partners settings
  | .error .version =>
    Installation.print .output versionLine
    return .success
  | .error .help => return .success
  | .error (.usage e) =>
    Installation.print .error e.message
    return .usage

end Launcher.CommandLine
