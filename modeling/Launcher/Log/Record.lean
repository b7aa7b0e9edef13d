/-!
# Log records

What the launcher has to say about its own progress is a record: a level, the topic, the component
that speaks, a status and further fields. A record is shown as one line of `key=value` pairs.

Elapsed times are no part of a record; the line shows `N` in their place.
-/

namespace Launcher.Log

/-- How urgent a record is, most urgent first. -/
inductive Level
  | error
  | warn
  | info
  | debug
  | trace
  deriving DecidableEq

/-- What a record is about. -/
inductive Topic
  | bootstrap
  | globalInit
  | globalTeardown
  | imageLoad
  | moduleAlloc
  | moduleInit
  | moduleFree
  | codeRelease
  | extensionLoad
  | extensionSetup
  | entrypoint
  | runtimeLoad
  | faultReport
  | diagnostics
  | hostInit
  | loggingStart
  | panicCaptured
  deriving DecidableEq

/-- Who speaks. -/
inductive Component
  | bootstrap
  | context
  | image
  | extension
  | trap
  | hashlink
  | host
  | logging
  deriving DecidableEq

/-- How things stand. -/
inductive Status
  | start
  | ok
  | error
  deriving DecidableEq

/-- A further field of a record. -/
inductive Field
  /-- How long it took. -/
  | duration
  /-- Where it happened in the program. -/
  | location
  /-- The code of the failure that the record is about. -/
  | errorCode (code : String)
  /-- Any other detail. -/
  | detail (key value : String)
  deriving DecidableEq

/-- A log record. -/
structure Record where
  level : Level
  topic : Topic
  component : Component
  status : Status
  fields : List Field
  deriving DecidableEq

/-- The name of a level in a log file. -/
def Level.label : Level → String
  | .error => "ERROR"
  | .warn => "WARN"
  | .info => "INFO"
  | .debug => "DEBUG"
  | .trace => "TRACE"

/-- The rank of a level: the higher, the less urgent. -/
def Level.rank : Level → Nat
  | .error => 1
  | .warn => 2
  | .info => 3
  | .debug => 4
  | .trace => 5

/-- The name of a topic. -/
def Topic.label : Topic → String
  | .bootstrap => "bootstrap"
  | .globalInit => "global_init"
  | .globalTeardown => "global_teardown"
  | .imageLoad => "image_load"
  | .moduleAlloc => "module_alloc"
  | .moduleInit => "module_init"
  | .moduleFree => "module_free"
  | .codeRelease => "code_release"
  | .extensionLoad => "extension_load"
  | .extensionSetup => "extension_setup"
  | .entrypoint => "entrypoint"
  | .runtimeLoad => "runtime_load"
  | .faultReport => "fault_report"
  | .diagnostics => "diagnostics"
  | .hostInit => "host_init"
  | .loggingStart => "logging_start"
  | .panicCaptured => "panic_captured"

/-- The name of a component. -/
def Component.label : Component → String
  | .bootstrap => "bootstrap"
  | .context => "context"
  | .image => "image"
  | .extension => "extension"
  | .trap => "trap"
  | .hashlink => "hashlink"
  | .host => "ffi"
  | .logging => "logging"

/-- The name of a status. -/
def Status.label : Status → String
  | .start => "start"
  | .ok => "ok"
  | .error => "error"

/-- How a field is shown. -/
def Field.text : Field → String
  | .duration => "duration_ms=N"
  | .location => "location=N"
  | .errorCode code => "error_code=" ++ code
  | .detail key value => key ++ "=" ++ value

namespace Record

/-- The line of a record. -/
def message (r : Record) : String :=
  " ".intercalate
    (("event=" ++ r.topic.label) :: ("module=" ++ r.component.label) ::
      ("status=" ++ r.status.label) :: r.fields.map Field.text)

/-- A record of progress. -/
def info (topic : Topic) (component : Component) (status : Status) (fields : List Field) : Record :=
  ⟨.info, topic, component, status, fields⟩

/-- A record of a detail. -/
def debug (topic : Topic) (component : Component) (status : Status) (fields : List Field) :
    Record :=
  ⟨.debug, topic, component, status, fields⟩

/-- A record of something that went wrong. -/
def error (topic : Topic) (component : Component) (fields : List Field) : Record :=
  ⟨.error, topic, component, .error, fields⟩

end Record

end Launcher.Log
