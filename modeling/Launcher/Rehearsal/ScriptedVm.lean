import Launcher.Rehearsal.Host
import Launcher.Rehearsal.Queue
import Launcher.Seam.Vm
import Launcher.Text.Hex

/-!
# A VM that follows a script

It says what it is asked and takes its answers from queues.
-/

namespace Launcher.Rehearsal

/-- The answers of a scripted VM; a blank entry is a success. -/
structure VmScript where
  globalInit : List (Option String)
  parse : List (Option String)
  moduleAlloc : List Bool
  moduleInit : List (Option String)
  entryClosure : List (Option String)
  call : List (Option FaultRecord)
  callSetup : List (Option FaultRecord)

/-- The state of a scripted VM. -/
structure ScriptedVm where
  host : Host
  script : VmScript
  /-- Whether the global state exists. -/
  active : Bool
  /-- The faults raised so far. -/
  raised : List FaultRecord

namespace ScriptedVm

instance : HasHost ScriptedVm where
  host := ScriptedVm.host
  setHost host s := { s with host }

/-- The VM before anything was asked. -/
def fresh (host : Host) (script : VmScript) : ScriptedVm := ⟨host, script, false, []⟩

/-- Something said. -/
def say (text : String) : Quiet Note ScriptedVm Unit := Quiet.emit (.remark (.spoken text))

/-- The name of a program. -/
def codeName (c : CodeId) : String := "c" ++ toString c.number

/-- The name of a module. -/
def moduleName (m : ModuleId) : String := "m" ++ toString m.number

/-- The next entry of one of the queues. -/
def take {α : Type} (get : VmScript → List (Option α))
    (put : List (Option α) → VmScript → VmScript) : Quiet Note ScriptedVm (Option α) := fun s =>
  let (entry, rest) := nextGiven (get s.script)
  (entry, [], { s with script := put rest s.script })

/-- A blank entry is a success, any other an error. -/
def verdict : Option String → Except String Unit
  | none => .ok ()
  | some reason => .error reason

/-- The reason when the global state exists already. -/
def alreadyActive : String := "global state already active"

/-- Creates the global state. -/
def globalInit : Quiet Note ScriptedVm (Except String Unit) := do
  say "global_init"
  match ← take VmScript.globalInit (fun q s => { s with globalInit := q }) with
  | some reason => return .error reason
  | none =>
    if ← Quiet.gets ScriptedVm.active then return .error alreadyActive
    else
      Quiet.modify fun s => { s with active := true }
      return .ok ()

/-- Releases the global state. -/
def globalTeardown : Quiet Note ScriptedVm Unit := do
  say "global_teardown"
  Quiet.modify fun s => { s with active := false }

/-- How many octets of an image are said. -/
def shownOctets : Nat := 64

/-- Parses an image. -/
def parse (image : List UInt8) : Quiet Note ScriptedVm (Except String Unit) := do
  say ("parse " ++ toString image.length ++ " " ++ Text.hex (image.take shownOctets))
  return verdict (← take VmScript.parse (fun q s => { s with parse := q }))

/-- Builds a module. -/
def allocate (code : CodeId) : Quiet Note ScriptedVm Bool := fun s =>
  let (made, rest) := next s.script.moduleAlloc
  (made.getD true, [.remark (.spoken ("module_alloc " ++ codeName code))],
    { s with script := { s.script with moduleAlloc := rest } })

/-- Links a module. -/
def link (module : ModuleId) (options : HostOptions) :
    Quiet Note ScriptedVm (Except String Unit) := do
  let host ← Quiet.gets ScriptedVm.host
  say ("module_init " ++ moduleName module ++ " " ++ host.show options)
  return verdict (← take VmScript.moduleInit (fun q s => { s with moduleInit := q }))

/-- The signature of every entrypoint. -/
def signature : Int := 7

/-- Looks the entrypoint up; the function of a module is its number. -/
def entryClosure (module : ModuleId) : Quiet Note ScriptedVm (Except String Closure) := do
  say ("entry_closure " ++ moduleName module)
  match ← take VmScript.entryClosure (fun q s => { s with entryClosure := q }) with
  | some reason => return .error reason
  | none => return .ok ⟨some signature, module.number, false⟩

/-- Raises a fault, if there is one to raise. -/
def raise : Option FaultRecord → Quiet Note ScriptedVm (Option Fault)
  | none => return none
  | some record => do
    let raised ← Quiet.gets ScriptedVm.raised
    Quiet.modify fun s => { s with raised := raised ++ [record] }
    return some ⟨raised.length⟩

/-- Calls an entrypoint. -/
def call (closure : Closure) : Quiet Note ScriptedVm (Option Fault) := do
  say ("call m" ++ toString closure.function)
  raise (← take VmScript.call (fun q s => { s with call := q }))

/-- Calls a setup hook. -/
def callSetup (hook : Hook) (options : HostOptions) : Quiet Note ScriptedVm (Option Fault) := do
  let host ← Quiet.gets ScriptedVm.host
  say ("call_setup " ++ hook.library ++ " " ++ hook.symbol ++ " " ++ host.show options)
  (fun s =>
    let (said, host) := s.host.invoke hook.entry options
    ((), said.map Note.remark, { s with host }) : Quiet Note ScriptedVm Unit)
  raise (← take VmScript.callSetup (fun q s => { s with callSetup := q }))

/-- The message of a fault. -/
def describeFault (fault : Fault) : Quiet Note ScriptedVm String := do
  say "describe_fault"
  let raised ← Quiet.gets ScriptedVm.raised
  return ((raised[fault.number]?).map FaultRecord.message).getD ""

/-- The call sites of the latest fault. -/
def exceptionStack : Quiet Note ScriptedVm (List String) := do
  say "exception_stack"
  let raised ← Quiet.gets ScriptedVm.raised
  return (raised.getLast?.map FaultRecord.stack).getD []

/-- The scripted VM behind the seam. -/
def vm : Vm ScriptedVm where
  globalInit := globalInit
  globalTeardown := globalTeardown
  parse image _ := Act.ofQuiet (parse image)
  compact code := say ("compact " ++ codeName code)
  release code := say ("release " ++ codeName code)
  allocate code _ := Act.ofQuiet (allocate code)
  link module options := Act.ofQuiet (link module options)
  freeModule module := say ("module_free " ++ moduleName module)
  entryClosure module := Act.ofQuiet (entryClosure module)
  call closure := Act.ofQuiet (call closure)
  callSetup hook options := Act.ofQuiet (callSetup hook options)
  describeFault fault := Act.ofQuiet (describeFault fault)
  exceptionStack := Act.ofQuiet exceptionStack
  debugBreak := Act.ofQuiet (say "debug_break")

end ScriptedVm

end Launcher.Rehearsal
