import Launcher.Log.Rotation
import Launcher.Seam.Event
import Launcher.Settings
import Launcher.Text.OneLine

/-!
# Starting the log

The log is started at most once in a process, at a level and in a directory. Asking again for the
same level and directory changes nothing; asking for another is refused; an attempt that fails leaves
no trace.

- `Logging.init`: asking for the log.
- `LogStore`: the log files of a process.
- `LogStore.record`: what the log makes of an event.
-/

namespace Launcher

open Log

/-- A log that has been started. -/
structure Logging.Started where
  level : Level
  dir : Path
  deriving DecidableEq

/-- Whether the log has been started, and what it writes to. -/
structure Logging (σ : Type) where
  started : Option Logging.Started
  store : σ

/-- What starting the log takes: making its directory and starting the writer. -/
structure Logging.Backend (σ : Type) where
  makeDirs : Path → σ → Except IoError Unit × σ
  startWriter : σ → Except String Unit × σ

/-- The name of a level in settings. -/
def Log.Level.name : Level → String
  | .error => "error"
  | .warn => "warn"
  | .info => "info"
  | .debug => "debug"
  | .trace => "trace"

/-- The level that a text names, in any case and with blank ends; `warning` is another name for
`warn`. Otherwise the answer is the text as it was compared. -/
def Log.Level.ofText (text : String) : Except String Level :=
  let name := Text.asciiLower (Text.trim text)
  if name = "trace" then .ok .trace
  else if name = "debug" then .ok .debug
  else if name = "info" then .ok .info
  else if name = "warn" ∨ name = "warning" then .ok .warn
  else if name = "error" then .ok .error
  else .error name

namespace Logging

variable {σ : Type}

/-- Why the log was not started, or not as asked. -/
inductive Refusal
  | unsupportedLevel (name : String)
  | relativeDir (dir : Path)
  | noDirectory (dir : Path) (error : IoError)
  | noWriter (reason : String)
  | otherDir (current asked : Path)
  | otherLevel (current asked : Level)
  deriving DecidableEq

/-- The words for a refusal. -/
def Refusal.message : Refusal → String
  | unsupportedLevel name =>
    "unsupported log level `" ++ name ++ "`; expected trace|debug|info|warn|error"
  | relativeDir dir => "log_dir must be an absolute path, got `" ++ dir.display ++ "`"
  | noDirectory dir error =>
    "failed to create log directory `" ++ dir.display ++ "`: " ++ error.text
  | noWriter reason => "failed to start logger: " ++ reason
  | otherDir current asked =>
    "logging already initialized at `" ++ current.display ++ "`; refusing to switch to `" ++
      asked.display ++ "`"
  | otherLevel current asked =>
    "logging already initialized with level `" ++ current.name ++
      "`; refusing to switch to `" ++ asked.name ++ "`"

/-- The version of the launcher. -/
def version : String := "0.1.0"

/-- The record that the log begins with. -/
def startRecord (started : Started) : Record :=
  .info .loggingStart .logging .ok
    [.detail "platform" "linux", .detail "version" version,
      .detail "level" started.level.name, .detail "log_dir" started.dir.display]

/-- Starts the log in a directory. -/
def start (backend : Backend σ) (asked : Started) : Quiet Event (Logging σ) (Except Refusal Unit) :=
  fun s =>
    match backend.makeDirs asked.dir s.store with
    | (.error e, store) => (.error (.noDirectory asked.dir e), [], { s with store })
    | (.ok (), store) =>
      match backend.startWriter store with
      | (.error reason, store) => (.error (.noWriter reason), [], { s with store })
      | (.ok (), store) => (.ok (), [.log (startRecord asked)], ⟨some asked, store⟩)

/-- Whether a started log is the one that is asked for; the directory is compared first. -/
def agree (current asked : Started) : Except Refusal Unit :=
  if current.dir.same asked.dir then
    if current.level = asked.level then .ok ()
    else .error (.otherLevel current.level asked.level)
  else .error (.otherDir current.dir asked.dir)

/-- Asks for the log at a level in a directory. -/
def init (backend : Backend σ) (level : String) (dir : Path) :
    Quiet Event (Logging σ) (Except Refusal Unit) := fun s =>
  match Level.ofText level with
  | .error name => (.error (.unsupportedLevel name), [], s)
  | .ok level =>
    if !dir.isAbsolute then (.error (.relativeDir dir), [], s)
    else
      match s.started with
      | some current => (agree current ⟨level, dir⟩, [], s)
      | none => start backend ⟨level, dir⟩ s

/-- Asks for the log that settings name; the answer is whether they name one. -/
def initFromSettings (backend : Backend σ) (settings : Settings) :
    Quiet Event (Logging σ) (Except Refusal Bool) := do
  match settings.logDir with
  | none => return .ok false
  | some dir =>
    match ← init backend settings.logLevel dir with
    | .ok () => return .ok true
    | .error refusal => return .error refusal

/-! ## Panics -/

/-- The longest payload that is logged. -/
def maxPayload : Nat := 160

/-- A panic payload on one line. -/
def payloadText (p : Panic) : String :=
  Text.oneLine (p.payload.getD "non-string panic payload") maxPayload

/-- The record of a panic. -/
def panicRecord (p : Panic) : Record :=
  .error .panicCaptured .logging [.location, .detail "payload" (payloadText p)]

/-- The line that an event puts into the log. -/
def line? : Event → Option Line
  | .panic p => some (panicRecord p).line
  | e => e.record?.map Record.line

end Logging

/-! ## Log files -/

/-- The files of a process, and whether some other writer has taken its log. -/
structure LogStore where
  files : Files
  taken : Bool

namespace LogStore

/-- Starting the log over a tree of files. -/
def backend : Logging.Backend LogStore where
  makeDirs dir s :=
    let (made, files) := s.files.makeDirs dir
    (made, { s with files })
  startWriter s := (if s.taken then .error "Logger initialization failed" else .ok (), s)

/-- A line written to the log, if the log has been started and its level admits the line. -/
def write (logging : Logging LogStore) (line : Line) : Logging LogStore :=
  match logging.started with
  | none => logging
  | some started =>
    if started.level.rank < line.level.rank then logging
    else
      match logging.store.files.locate started.dir with
      | .error _ => logging
      | .ok place =>
        { logging with store :=
          { logging.store with files := Log.append logging.store.files place line } }

/-- What the log makes of events. -/
def record (logging : Logging LogStore) (events : List Event) : Logging LogStore :=
  (events.filterMap Logging.line?).foldl write logging

end LogStore

end Launcher
