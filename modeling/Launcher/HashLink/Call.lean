import Launcher.Extension.Hook
import Launcher.Host

/-!
# Calls into the VM library

The functions of the VM library that the launcher uses, each call with the answer it got. Counts and
statuses are machine integers, and a failure is a null or a zero, not an error.
-/

namespace Launcher

/-- A parsed program, by the number it was given when it was parsed. -/
structure CodeId where
  number : Nat
  deriving DecidableEq

/-- A module, by the number it was given when it was allocated. -/
structure ModuleId where
  number : Nat
  deriving DecidableEq

/-- A fault value that escaped from a guarded call. -/
structure Fault where
  number : Nat
  deriving DecidableEq

/-- Something that can be called without arguments. -/
structure Closure where
  signature : Option Int
  function : Int
  hasValue : Bool
  deriving DecidableEq

namespace HashLink

/-- A table in foreign memory: how many entries it has, and the entries. -/
structure Table (α : Type) where
  size : Nat
  entry : Nat → α

/-- The entry at an index, if the table reaches that far. -/
def Table.read? {α : Type} (t : Table α) (i : Nat) : Option α :=
  if i < t.size then some (t.entry i) else none

/-- What the header of a parsed program says about its functions. -/
structure Header where
  functionCount : Int32
  nativeCount : Int32
  entrypoint : Int32
  /-- Which bytecode function stands at a function index. -/
  indexes : Table Int32
  /-- The compiled body at a function index. -/
  bodies : Table (Option Int)
  /-- The type of a bytecode function. -/
  types : Table (Option Int)

/-- The type of a function: the kind of type, the argument types, the result and, for a bound
function, the type it was bound from. -/
inductive FunctionType
  | mk (kind : Nat) (arguments : List String) (result : String) (parent : Option FunctionType)

/-- What is called under guard. -/
inductive Callee
  /-- The entrypoint. -/
  | entry (closure : Closure)
  /-- A setup hook as a function bound to the host options. -/
  | setup (hook : Hook) (options : HostOptions) (type : FunctionType)

/-- A call of the VM library. -/
inductive Call
  | globalInit
  | registerThread (stackTop : Bool)
  | globalFree
  | codeRead (image : List UInt8) (size : Int32) (parsed : Option CodeId)
  | codeFree (code : CodeId)
  | free (code : CodeId)
  | moduleAlloc (code : CodeId) (made : Option ModuleId)
  | moduleInit (module : ModuleId) (hotReload : Int32) (status : Int32)
  | moduleFree (module : ModuleId)
  | dynCallSafe (callee : Callee) (flag : UInt32)
  | toString (fault : Fault)
  | exceptionStack
  | debugBreak

end HashLink

end Launcher
