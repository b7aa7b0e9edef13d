import Launcher.CommandLine
import Launcher.HostEntry
import Launcher.Proofs.CommandLine.Environment
import Launcher.Proofs.CommandLine.Host
import Launcher.Proofs.Extension.Resolution
import Launcher.Proofs.Fault.Report
import Launcher.Proofs.HashLink.Entry
import Launcher.Proofs.HashLink.GlobalState
import Launcher.Proofs.HashLink.Labels
import Launcher.Proofs.HashLink.Refinement
import Launcher.Proofs.HostEntry
import Launcher.Proofs.Image.Distrust
import Launcher.Proofs.Launch.Fault
import Launcher.Proofs.Launch.FirstFailure
import Launcher.Proofs.Launch.Indifference
import Launcher.Proofs.Launch.Journal
import Launcher.Proofs.Launch.Release
import Launcher.Proofs.Logging
import Launcher.Proofs.Session.Client
import Launcher.Proofs.Session.Failure
import Launcher.Proofs.Session.Load
import Launcher.Proofs.Settings
import Launcher.Proofs.Text.OneLine
import Launcher.Rehearsal.ScriptedLibrary
import Launcher.Rehearsal.ScriptedVm
import Launcher.Rehearsal.ScriptedWriter
import Launcher.Workbench
