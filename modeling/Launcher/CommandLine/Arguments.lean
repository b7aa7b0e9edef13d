import Launcher.Settings

/-!
# Arguments of the command line

One positional argument, the image, and an option for every other setting. A value follows its option
as the next argument or after `=`; the next argument is a value even if it is empty, but not if it
looks like an option. After `--` every argument is positional. What the command line leaves open is
taken from the environment, word for word, and then from the defaults.

- `Arguments.parse`: the settings, or what stops the program.
- `UsageError.message`: what is told about arguments that cannot be used.
-/

namespace Launcher

/-- Why arguments cannot be used. -/
inductive UsageError
  | unexpectedArgument (shown : String)
  | unexpectedValue (value argument : String)
  | valueRequired (argument : String)
  | repeated (argument : String)
  | invalidValue (value argument : String)
  | invalidText
  deriving DecidableEq

/-- The words for a usage error. -/
def UsageError.message : UsageError → String
  | unexpectedArgument shown => "error: unexpected argument '" ++ shown ++ "' found"
  | unexpectedValue value argument =>
    "error: unexpected value '" ++ value ++ "' for '" ++ argument ++
      "' found; no more were expected"
  | valueRequired argument =>
    "error: a value is required for '" ++ argument ++ "' but none was supplied"
  | repeated argument => "error: the argument '" ++ argument ++ "' cannot be used multiple times"
  | invalidValue value argument => "error: invalid value '" ++ value ++ "' for '" ++ argument ++ "'"
  | invalidText => "error: invalid UTF-8 was detected in one or more arguments"

namespace Arguments

/-- What stops the program before it does anything. -/
inductive Stop
  | version
  | help
  | usage (error : UsageError)
  deriving DecidableEq

/-- A long option. -/
inductive Long
  | setting (v : Variable)
  | version
  | help

/-- The option of a name. -/
def long? (name : String) : Option Long :=
  if name = "extension" then some (.setting .extension)
  else if name = "symbol" then some (.setting .symbol)
  else if name = "runtime" then some (.setting .runtime)
  else if name = "hot-reload" then some (.setting .hotReload)
  else if name = "log-level" then some (.setting .logLevel)
  else if name = "log-dir" then some (.setting .logDir)
  else if name = "version" then some .version
  else if name = "help" then some .help
  else none

/-- How the argument of a setting is shown. -/
def shown : Variable → String
  | .image => "[IMAGE]"
  | .extension => "--extension <EXTENSION>"
  | .symbol => "--symbol <SYMBOL>"
  | .runtime => "--runtime <RUNTIME>"
  | .hotReload => "--hot-reload"
  | .logLevel => "--log-level <LOG_LEVEL>"
  | .logDir => "--log-dir <LOG_DIR>"

/-- The value of a setting. -/
inductive Value
  | path (path : Path)
  | text (text : String)
  | flag (on : Bool)
  deriving DecidableEq

/-- Reads the value of a setting: a path must not be empty, a text has to be well formed, and a flag
is spelled `true` or `false`. -/
def readValue (v : Variable) (bytes : List UInt8) : Except UsageError Value :=
  match v with
  | .image | .logDir =>
    if bytes.isEmpty then .error (.valueRequired (shown v)) else .ok (.path ⟨bytes⟩)
  | .hotReload =>
    let word := Text.Utf8.decode bytes
    if bytes.isEmpty then .error (.valueRequired (shown v))
    else if bytes = Text.Utf8.encode "true" then .ok (.flag true)
    else if bytes = Text.Utf8.encode "false" then .ok (.flag false)
    else .error (.invalidValue word (shown v))
  | _ =>
    match Text.Utf8.decode? bytes with
    | some text => .ok (.text text)
    | none => .error .invalidText

/-- The values read so far, and an option or a positional argument that is not settled yet, with its
value if that has come. -/
structure State where
  given : List (Variable × Value)
  pending : Option (Variable × Option (List UInt8))

/-- The value of a setting. -/
def State.value? (s : State) (v : Variable) : Option Value :=
  (s.given.find? fun g => g.1 == v).map Prod.snd

/-- Takes a value in. A missing value, a repetition and a value that cannot be read are reported in
this order. -/
def State.take (s : State) (v : Variable) (bytes : Option (List UInt8)) : Except Stop State :=
  match bytes with
  | none => .error (.usage (.valueRequired (shown v)))
  | some bytes =>
    if (s.value? v).isSome then .error (.usage (.repeated (shown v)))
    else
      match readValue v bytes with
      | .ok value => .ok { s with given := s.given ++ [(v, value)] }
      | .error e => .error (.usage e)

/-- Settles what is pending. -/
def State.settle (s : State) : Except Stop State :=
  match s.pending with
  | none => .ok s
  | some (v, bytes) => State.take { s with pending := none } v bytes

/-- Settles what is pending, then takes a value in. -/
def State.settleAndTake (s : State) (v : Variable) (bytes : List UInt8) : Except Stop State := do
  (← s.settle).take v (some bytes)

/-- An option with its value after `=`, if it has one. -/
def splitLong (rest : List UInt8) : List UInt8 × Option (List UInt8) :=
  match rest.dropWhile (· != 0x3D) with
  | [] => (rest, none)
  | _ :: value => (rest.takeWhile (· != 0x3D), some value)

/-- A long option. An unknown option, and a value where none belongs, are reported before anything
that is pending. -/
def State.long (s : State) (rest : List UInt8) : Except Stop State :=
  let (name, value) := splitLong rest
  match (Text.Utf8.decode? name).bind long? with
  | none => .error (.usage (.unexpectedArgument ("--" ++ Text.Utf8.decode name)))
  | some option =>
    let unneeded (value : List UInt8) (argument : String) : Except Stop State :=
      .error (.usage (.unexpectedValue (Text.Utf8.decode value) argument))
    match option, value with
    | .setting .hotReload, none => s.settleAndTake .hotReload (Text.Utf8.encode "true")
    | .setting .hotReload, some value => unneeded value (shown .hotReload)
    | .setting v, none => do
      let s ← s.settle
      .ok { s with pending := some (v, none) }
    | .setting v, some value => s.settleAndTake v value
    | .version, none => do
      let _ ← s.settle
      .error .version
    | .version, some value => unneeded value "--version"
    | .help, none => do
      let _ ← s.settle
      .error .help
    | .help, some value => unneeded value "--help"

/-- Short options. Only those for the version and the help exist. -/
def State.short (s : State) (rest : List UInt8) : Except Stop State :=
  let letters := Text.Utf8.decode rest
  match letters.toList with
  | [] => .ok s
  | 'V' :: _ => do
    let _ ← s.settle
    .error .version
  | 'h' :: _ => do
    let _ ← s.settle
    .error .help
  | c :: _ => .error (.usage (.unexpectedArgument (String.ofList ['-', c])))

/-- A positional argument. There is one; a further one is reported before anything pending. -/
def State.positional (s : State) (seen : Bool) (bytes : List UInt8) : Except Stop State :=
  if seen then .error (.usage (.unexpectedArgument (Text.Utf8.decode bytes)))
  else do
    let s ← s.settle
    .ok { s with pending := some (.image, some bytes) }

/-- Goes through the arguments. `trailing` tells whether `--` has come, `seen` whether the positional
argument has. -/
def scan (trailing seen : Bool) : List (List UInt8) → State → Except Stop State
  | [], s => s.settle
  | arg :: rest, s =>
    if trailing then do
      scan true true rest (← s.positional seen arg)
    else
      match arg with
      | [0x2D, 0x2D] => scan true seen rest s
      | 0x2D :: 0x2D :: option => do scan false seen rest (← s.long option)
      | 0x2D :: c :: letters => do scan false seen rest (← s.short (c :: letters))
      | _ =>
        match s.pending with
        | some (v, none) => scan false seen rest { s with pending := some (v, some arg) }
        | _ => do scan false true rest (← s.positional seen arg)

/-- Takes in what the environment says about settings that the command line leaves open. -/
def fromEnvironment (env : Environment) : List Variable → State → Except Stop State
  | [], s => .ok s
  | v :: rest, s =>
    match s.value? v, env.value? v.name with
    | none, some bytes => do fromEnvironment env rest (← s.take v (some bytes))
    | _, _ => fromEnvironment env rest s

/-- The settings that the values come to. -/
def State.settings (s : State) : Settings :=
  let path (v : Variable) : Option Path :=
    match s.value? v with
    | some (.path p) => some p
    | _ => none
  let text (v : Variable) : Option String :=
    match s.value? v with
    | some (.text t) => some t
    | _ => none
  { image := (path .image).getD Settings.default.image
    extension := (text .extension).getD Settings.default.extension
    symbol := (text .symbol).getD Settings.default.symbol
    runtime := (text .runtime).getD Settings.default.runtime
    hotReload := s.value? .hotReload == some (.flag true)
    logLevel := (text .logLevel).getD Settings.default.logLevel
    logDir := path .logDir }

/-- The settings that arguments and environment come to. -/
def parse (args : List (List UInt8)) (env : Environment) : Except Stop Settings := do
  let s ← scan false false args ⟨[], none⟩
  return (← fromEnvironment env Settings.allVariables s).settings

end Arguments

end Launcher
