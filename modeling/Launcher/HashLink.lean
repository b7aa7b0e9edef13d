import Launcher.HashLink.Api
import Launcher.HashLink.Entry
import Launcher.Image
import Launcher.Seam.Event

/-!
# The HashLink VM

The VM library behind the seam. Nulls, zeros and flags become the answers of the seam; every call
into the library is noted. The global state exists once per process, whichever runtime created it.

- `HashLink.State`: the library and what the process keeps about it.
- `HashLink.Runtime`: one loaded runtime.
- `HashLink.vm`: the runtime as a VM.
-/

namespace Launcher.HashLink

open Log

/-- What a process keeps about the VM library. -/
structure State (τ : Type) where
  library : τ
  /-- Whether the global state exists. -/
  active : Bool
  programs : List (CodeId × Header)
  modules : List (ModuleId × Header)

/-- A loaded runtime. -/
structure Runtime where
  /-- Whether the caller's frame is known, up to which the native stack is searched. -/
  stackTop : Bool
  /-- Whether modules are linked for hot reload. -/
  hotReload : Bool
  deriving DecidableEq

variable {τ : Type}

/-- The state before anything was called. -/
def State.fresh (library : τ) : State τ := ⟨library, false, [], []⟩

/-- A call that only changes the state of the library. -/
def tell (call : Call) (f : τ → τ) : Quiet Note (State τ) Unit := fun s =>
  ((), [.library call], { s with library := f s.library })

/-- The reason when the global state exists already. -/
def alreadyActive : String := "HashLink global state is already active in this process"

/-- Creates the global state, unless it exists. -/
def globalInit (api : Api τ) (runtime : Runtime) : Quiet Note (State τ) (Except String Unit) := do
  if ← Quiet.gets State.active then return .error alreadyActive
  else
    Quiet.modify fun s => { s with active := true }
    tell .globalInit api.globalInit
    tell (.registerThread runtime.stackTop) (api.registerThread runtime.stackTop)
    return .ok ()

/-- Releases the global state. -/
def globalTeardown (api : Api τ) : Quiet Note (State τ) Unit := do
  tell .globalFree api.globalFree
  Quiet.modify fun s => { s with active := false }

/-- Why an image is too large for the size argument. -/
def tooLarge (size : Nat) : String :=
  "image of " ++ toString size ++ " bytes exceeds the 2 GiB limit"

/-- The reason when the library leaves no message. -/
def invalidBytecode : String := "invalid bytecode"

/-- The text of a message that ends at the first NUL. -/
def messageText (bytes : List UInt8) : String := Text.Utf8.decode (bytes.takeWhile (· != 0))

/-- Parses an image. -/
def parse (api : Api τ) (image : List UInt8) (id : CodeId) :
    Quiet Note (State τ) (Except String Unit) := fun s =>
  if Image.maxSize < image.length then (.error (tooLarge image.length), [], s)
  else
    let size := Int32.ofNat image.length
    let (answer, library) := api.codeRead image size s.library
    match answer with
    | .parsed header =>
      (.ok (), [.library (.codeRead image size (some id))],
        { s with library, programs := (id, header) :: s.programs })
    | .refused message =>
      (.error ((message.map messageText).getD invalidBytecode),
        [.library (.codeRead image size none)], { s with library })

/-- The header of a program. -/
def State.header? (s : State τ) (id : CodeId) : Option Header :=
  (s.programs.find? fun p => p.1 == id).map Prod.snd

/-- The header of the program that a module was built from. -/
def State.moduleHeader? (s : State τ) (id : ModuleId) : Option Header :=
  (s.modules.find? fun m => m.1 == id).map Prod.snd

/-- Builds a module. -/
def allocate (api : Api τ) (code : CodeId) (id : ModuleId) : Quiet Note (State τ) Bool := fun s =>
  let (made, library) := api.moduleAlloc code s.library
  let modules := match made, s.header? code with
    | true, some header => (id, header) :: s.modules
    | _, _ => s.modules
  (made, [.library (.moduleAlloc code (if made then some id else none))],
    { s with library, modules })

/-- The reason when the library could not link a module. -/
def unlinked : String := "hl_module_init could not resolve module references"

/-- The record that linking begins with. -/
def linkRecord (runtime : Runtime) (options : HostOptions) : Record :=
  .debug .moduleInit .hashlink .start
    [.detail "hot_reload" (toString runtime.hotReload),
      .detail "host_options" (toString (!options.isNull))]

/-- Links a module. -/
def link (api : Api τ) (runtime : Runtime) (module : ModuleId) (options : HostOptions) :
    Quiet Note (State τ) (Except String Unit) := fun s =>
  let hot : Int32 := if runtime.hotReload then 1 else 0
  let (status, library) := api.moduleInit module hot s.library
  (if status = 0 then .error unlinked else .ok (),
    [.log (linkRecord runtime options), .library (.moduleInit module hot status)],
    { s with library })

/-- Looks the entrypoint of a module up. -/
def entryClosure (module : ModuleId) : Act Note (State τ) (Except String Closure) := fun s =>
  match (s.moduleHeader? module).map Header.entry with
  | some (.found closure) => ⟨.returned (.ok closure), [], s⟩
  | some (.refused refusal) => ⟨.returned (.error refusal.reason), [], s⟩
  | some .overflow => ⟨.panicked .additionOverflow, [], s⟩
  | some .stray | none => ⟨.panicked ⟨some "read outside a table"⟩, [], s⟩

/-- Calls under guard; any bit in the exception flag means that a fault escaped. -/
def guarded (api : Api τ) (callee : Callee) : Quiet Note (State τ) (Option Fault) := fun s =>
  let (answer, remarks, library) := api.dynCallSafe callee s.library
  (if answer.flag = 0 then none else some answer.value,
    .library (.dynCallSafe callee answer.flag) :: remarks.map Note.remark, { s with library })

/-- The kind of function types. -/
def functionKind : Nat := 10

/-- The type of a setup hook: it takes the host options as bytes. -/
def setupType : FunctionType := .mk functionKind ["bytes"] "void" none

/-- The type of a setup hook bound to the host options: nothing is left to pass. -/
def boundType : FunctionType := .mk functionKind [] "void" (some setupType)

/-- Calls a setup hook, bound to the host options. -/
def callSetup (api : Api τ) (hook : Hook) (options : HostOptions) :
    Quiet Note (State τ) (Option Fault) := do
  Quiet.emit (.log (.debug .extensionSetup .hashlink .start [.detail "symbol" hook.symbol]))
  guarded api (.setup hook options boundType)

/-- The message of a fault. -/
def describeFault (api : Api τ) (fault : Fault) : Quiet Note (State τ) String := fun s =>
  let (text, library) := api.toText fault s.library
  (label text, [.library (.toString fault)], { s with library })

/-- The call sites of the latest fault. -/
def exceptionStack (api : Api τ) : Quiet Note (State τ) (List String) := fun s =>
  let (array, library) := api.exceptionStack s.library
  (labels array, [.library .exceptionStack], { s with library })

/-- A loaded runtime as a VM. -/
def vm (api : Api τ) (runtime : Runtime) : Vm (State τ) where
  globalInit := globalInit api runtime
  globalTeardown := globalTeardown api
  parse image id := Act.ofQuiet (parse api image id)
  compact code := tell (.codeFree code) (api.codeFree code)
  release code := tell (.free code) (api.free code)
  allocate code id := Act.ofQuiet (allocate api code id)
  link module options := Act.ofQuiet (link api runtime module options)
  freeModule module := tell (.moduleFree module) (api.moduleFree module)
  entryClosure module := entryClosure module
  call closure := Act.ofQuiet (guarded api (.entry closure))
  callSetup hook options := Act.ofQuiet (callSetup api hook options)
  describeFault fault := Act.ofQuiet (describeFault api fault)
  exceptionStack := Act.ofQuiet (exceptionStack api)
  debugBreak := Act.ofQuiet (tell .debugBreak api.debugBreak)

/-! ## Loading the library -/

/-- The first required export that a library lacks, with the reason. -/
def missingExport? (library : Library) : List String → Option (String × String)
  | [] => none
  | name :: rest =>
    match library.lookup name with
    | .ok _ => missingExport? library rest
    | .error reason => some (name, reason)

/-- Loads the VM library of a name. -/
def load (loader : Loader) (name : String) (stackTop hotReload : Bool) :
    Except Failure Runtime × List Event :=
  match loader.openLibrary (Path.ofString name) with
  | .error reason => (.error (.runtimeUnavailable (name ++ ": " ++ reason)), [])
  | .ok library =>
    match missingExport? library requiredExports with
    | some (symbol, reason) =>
      (.error (.runtimeUnavailable ("missing export `" ++ symbol ++ "`: " ++ reason)), [])
    | none =>
      (.ok ⟨stackTop, hotReload⟩,
        [.log (.info .runtimeLoad .hashlink .ok [.detail "library" name])])

end Launcher.HashLink
