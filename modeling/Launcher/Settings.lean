import Launcher.Path
import Launcher.Text.Blank

/-!
# Settings of a launch

Seven values say what to launch. Each has a default and a variable that overrides it; a blank
variable counts for nothing and the blank ends of a value are dropped.

- `Settings.ofLookup`: the settings that a lookup of variables gives.
- `Settings.ofEnvironment`: the same for an environment, whose values may be ill-formed text.
- `Settings.toLookup`: the variables that give back some settings.
-/

namespace Launcher

/-- What to launch. -/
structure Settings where
  /-- The bytecode image. -/
  image : Path
  /-- The extension library, a name or a path. -/
  extension : String
  /-- The export of the extension that is called before the entrypoint. -/
  symbol : String
  /-- The VM library, a name or a path. -/
  runtime : String
  /-- Whether the module is linked for hot reload. -/
  hotReload : Bool
  logLevel : String
  /-- The directory of the log files; nothing is logged to files without one. -/
  logDir : Option Path
  deriving DecidableEq

/-- The variables that settings are read from. -/
inductive Variable
  | image
  | extension
  | symbol
  | runtime
  | hotReload
  | logLevel
  | logDir
  deriving DecidableEq

/-- The name of a variable. -/
def Variable.name : Variable → String
  | .image => "HLBOOT_IMAGE"
  | .extension => "HLBOOT_EXTENSION"
  | .symbol => "HLBOOT_SETUP_SYMBOL"
  | .runtime => "HLBOOT_RUNTIME"
  | .hotReload => "HLBOOT_HOT_RELOAD"
  | .logLevel => "HLBOOT_LOG_LEVEL"
  | .logDir => "HLBOOT_LOG_DIR"

/-- The variables of a process, values as octets. -/
abbrev Environment : Type := List (String × List UInt8)

/-- The octets of a variable. -/
def Environment.value? (env : Environment) (name : String) : Option (List UInt8) :=
  (env.find? fun entry => entry.1 == name).map Prod.snd

/-- A variable set to a value, whatever it was before. -/
def Environment.set (env : Environment) (name : String) (value : List UInt8) : Environment :=
  (name, value) :: env.filter fun entry => entry.1 != name

/-- The text of a variable; a value that is no well-formed text counts as missing. -/
def Environment.text? (env : Environment) (name : String) : Option String :=
  (env.value? name).bind Text.Utf8.decode?

namespace Settings

/-- The image that is launched by default. -/
def defaultImage : String := "main.hl"

/-- The extension that is loaded by default. -/
def defaultExtension : String := "hlgodot.hdll"

/-- The export that is called by default. -/
def defaultSymbol : String := "setup"

/-- The VM library that is loaded by default. -/
def defaultRuntime : String := "libhl.so"

/-- The level that is logged by default. -/
def defaultLogLevel : String := "debug"

/-- The settings when nothing is overridden. -/
def default : Settings where
  image := Path.ofString defaultImage
  extension := defaultExtension
  symbol := defaultSymbol
  runtime := defaultRuntime
  hotReload := false
  logLevel := defaultLogLevel
  logDir := none

instance : Inhabited Settings := ⟨default⟩

/-- A value without its blank ends, or nothing if no more is left. -/
def clean (raw : String) : Option String :=
  let value := Text.trim raw
  if value.isEmpty then none else some value

/-- Whether a value turns a flag on. -/
def flag (value : String) : Bool := ["1", "true", "yes", "on"].contains (Text.asciiLower value)

/-- The settings that a lookup of variables gives. -/
def ofLookup (lookup : String → Option String) : Settings :=
  let value (v : Variable) : Option String := (lookup v.name).bind clean
  { image := ((value .image).map Path.ofString).getD default.image
    extension := (value .extension).getD default.extension
    symbol := (value .symbol).getD default.symbol
    runtime := (value .runtime).getD default.runtime
    hotReload := ((value .hotReload).map flag).getD default.hotReload
    logLevel := (value .logLevel).getD default.logLevel
    logDir := (value .logDir).map Path.ofString }

/-- The settings that an environment gives. -/
def ofEnvironment (env : Environment) : Settings := ofLookup env.text?

/-- The value of a variable that gives back a setting. -/
def value? (s : Settings) : Variable → Option String
  | .image => some s.image.display
  | .extension => some s.extension
  | .symbol => some s.symbol
  | .runtime => some s.runtime
  | .hotReload => some (if s.hotReload then "1" else "0")
  | .logLevel => some s.logLevel
  | .logDir => s.logDir.map Path.display

/-- The variables, in the order of the settings. -/
def allVariables : List Variable :=
  [.image, .extension, .symbol, .runtime, .hotReload, .logLevel, .logDir]

/-- The lookup that gives back some settings. -/
def toLookup (s : Settings) (name : String) : Option String :=
  (allVariables.find? fun v => v.name == name).bind s.value?

/-- Equality of settings, with paths compared by components. -/
def same (a b : Settings) : Bool :=
  a.image.same b.image && a.extension == b.extension && a.symbol == b.symbol &&
    a.runtime == b.runtime && a.hotReload == b.hotReload && a.logLevel == b.logLevel &&
    match a.logDir, b.logDir with
    | none, none => true
    | some p, some q => p.same q
    | _, _ => false

end Settings

end Launcher
