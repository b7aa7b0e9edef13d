import Launcher.Extension.Resolver
import Launcher.HashLink.Api

/-!
# A host and an extension to rehearse with

The host's options are a counter. The setup functions of the extension change it and say so; when the
extension is unloaded after one of them changed it, it says so too.

- `Host.invoke`: calling a setup function.
- `objectOf?`: the libraries that are at hand.
- `resolver`: ways of resolving the setup hook.
-/

namespace Launcher.Rehearsal

/-- The host's counter, if there is a host, and whether the open extension has changed it. -/
structure Host where
  counter : Option UInt32
  touched : Bool
  deriving DecidableEq

/-- A host with a counter, or no host. -/
def Host.fresh (counter : Option UInt32) : Host := ⟨counter, false⟩

/-- Where the host keeps its counter. -/
def Host.place : HostOptions := ⟨0x1000⟩

/-- The options that a host hands over. -/
def Host.options (h : Host) : HostOptions :=
  match h.counter with
  | some _ => Host.place
  | none => .null

/-- The counter behind options. -/
def Host.behind (h : Host) (options : HostOptions) : Option UInt32 :=
  if options.isNull then none else h.counter

/-- How options are shown: by the counter behind them. -/
def Host.show (h : Host) (options : HostOptions) : String :=
  match h.behind options with
  | some n => "host:" ++ toString n.toNat
  | none => "null"

/-- Partners over a state that includes the host. -/
class HasHost (σ : Type) where
  host : σ → Host
  setHost : Host → σ → σ

/-- What an exported setup function adds to the counter and what it says. -/
def changes : List (String × UInt32 × String) :=
  [("setup", 1, "ext_setup"), ("setup_ten", 10, "ext_setup_ten"),
    ("настройка", 100, "ext_setup_uni")]

/-- Calls a setup function with options. -/
def Host.invoke (h : Host) (entry : Entry) (options : HostOptions) : List Remark × Host :=
  match entry with
  | .builtIn =>
    match h.behind options with
    | some n => ([.spoken "static_setup"], { h with counter := some (n + 1) })
    | none => ([.spoken "static_setup null"], h)
  | .exported name =>
    if name = "setup_print" then ([.prints "setup printed\n"], h)
    else
      match changes.find? (fun c => c.1 == name), h.behind options with
      | some (_, step, words), some n => ([.spoken words], ⟨some (n + step), true⟩)
      | _, _ => ([], h)

/-- Calls a setup function a number of times; the answers are the counter after each call. -/
def Host.invokeTimes (entry : Entry) (options : HostOptions) :
    Nat → Host → List (Option UInt32) × List Remark × Host
  | 0, h => ([], [], h)
  | n + 1, h =>
    let (said, h) := h.invoke entry options
    let (counters, later, last) := invokeTimes entry options n h
    (h.counter :: counters, said ++ later, last)

instance : HasHost Host where
  host h := h
  setHost h _ := h

variable {σ : Type} [HasHost σ]

/-- The last word of an extension that is unloaded. -/
def unload : Quiet Note σ Unit := fun s =>
  let h := HasHost.host s
  if h.touched then
    ((), [.remark (.spoken "ext_unload")], HasHost.setHost { h with touched := false } s)
  else ((), [], s)

/-! ## Libraries -/

/-- A library that exports functions under their own names. -/
def exporting (names : List String) : SharedObject :=
  ⟨names.map fun n => (n, .entry (.exported n)), none⟩

/-- The extension library. -/
def extensionObject : SharedObject :=
  let object := exporting ["setup", "setup_ten", "настройка", "setup_print"]
  { object with exports := object.exports ++ [("setup_null", .null)] }

/-- The names of the libraries at hand, with what is in them. -/
def objects : List (String × SharedObject) :=
  [("hlgodot.hdll", extensionObject), ("empty.so", exporting []),
    ("undef.so", ⟨[], some "hlboot_missing_data"⟩),
    ("libhl.so", exporting HashLink.requiredExports)] ++
  HashLink.requiredExports.map fun name =>
    ("libhl_no_" ++ name ++ ".so", exporting (HashLink.requiredExports.filter (· != name)))

/-- The library of a name. -/
def objectOf? (name : String) : Option SharedObject :=
  (objects.find? fun o => o.1 == name).map Prod.snd

/-! ## Resolvers -/

/-- Ways of resolving the setup hook. -/
inductive Resolution
  /-- The function that is linked into the program, under whatever names were asked for. -/
  | builtIn
  | noSymbol
  | noLibrary (reason : String)
  /-- Through a loader. -/
  | library (loader : Loader) (dir : SearchDir)

/-- A resolver that says what it was asked for. -/
def resolver (way : Resolution) : Resolver σ where
  resolve library symbol := do
    Act.emit (.remark (.spoken ("resolve " ++ library ++ " " ++ symbol)))
    match way with
    | .builtIn => return .ok ⟨library, symbol, .builtIn, none⟩
    | .noSymbol => return .error (.symbolNotFound library symbol)
    | .noLibrary reason => return .error (.extensionNotFound library reason)
    | .library loader dir => (Resolver.ofLoader loader dir unload).resolve library symbol
  dropHook hook :=
    match way with
    | .library loader dir => (Resolver.ofLoader loader dir unload).dropHook hook
    | _ => return ()

/-! ## Trying hooks -/

/-- What trying a hook shows: the hook and the counter after each call of it. -/
structure Trial where
  hook : Hook
  counters : List (Option UInt32)

/-- Calls a hook a number of times with the options of the host. -/
def tryHook (hook : Hook) (times : Nat) : Quiet Note Host Trial := fun h =>
  let (counters, said, h) := Host.invokeTimes hook.entry h.options times h
  (⟨hook, counters⟩, said.map Note.remark, h)

/-- Resolves a hook, calls it a number of times and gives it up. -/
def tryResolver (resolver : Resolver Host) (library symbol : String) (times : Nat) :
    Act Note Host (Except Failure Trial) := do
  match ← resolver.resolve library symbol with
  | .error failure => return .error failure
  | .ok hook =>
    let trial ← Act.ofQuiet (tryHook hook times)
    Act.ofQuiet (resolver.dropHook hook)
    return .ok trial

end Launcher.Rehearsal
