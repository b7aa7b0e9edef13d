import Launcher.HashLink.Call
import Launcher.Seam.Note
import Launcher.Text.Utf16

/-!
# The VM library

The functions that the VM library exports, over a state of which nothing is known, with the answers
they give: nulls, statuses and flags. What the library does to its caller's surroundings while a
guarded call runs is kept as remarks.
-/

namespace Launcher.HashLink

/-- What reading a program answers. -/
inductive CodeAnswer
  | parsed (header : Header)
  /-- A null program, with the message left behind, if any. -/
  | refused (message : Option (List UInt8))

/-- Units in foreign memory up to some point behind the zero unit that ends the text. -/
abbrev Units : Type := List UInt16

/-- An array of texts in foreign memory: the size it declares and its entries, each a text or a null
pointer. -/
structure TextArray where
  size : Int32
  entry : Nat → Option Units

/-- What a guarded call answers: the exception flag and the value that stands for the fault. -/
structure GuardedAnswer where
  flag : UInt32
  value : Fault

/-- The functions of the VM library over the state `τ`. -/
structure Api (τ : Type) where
  globalInit : τ → τ
  registerThread : Bool → τ → τ
  globalFree : τ → τ
  codeRead : List UInt8 → Int32 → τ → CodeAnswer × τ
  codeFree : CodeId → τ → τ
  free : CodeId → τ → τ
  moduleAlloc : CodeId → τ → Bool × τ
  moduleInit : ModuleId → Int32 → τ → Int32 × τ
  moduleFree : ModuleId → τ → τ
  dynCallSafe : Callee → τ → GuardedAnswer × List Remark × τ
  toText : Fault → τ → Option Units × τ
  exceptionStack : τ → Option TextArray × τ
  debugBreak : τ → τ

/-- The exports that a VM library has to have, in the order in which they are looked up. -/
def requiredExports : List String :=
  ["hl_global_init", "hl_global_free", "hl_register_thread", "hl_code_read", "hl_code_free",
    "hl_free", "hl_module_alloc", "hl_module_init", "hl_module_free", "hl_dyn_call_safe",
    "hl_exception_stack", "hl_to_string", "hl_debug_break", "hlt_bytes", "hlt_void"]

/-- The text behind a pointer; a null pointer reads as `null`. -/
def label : Option Units → String
  | none => "null"
  | some units => Text.Utf16.decode (Text.Utf16.untilZero units)

/-- The texts of an array; a null array and a negative size have none. -/
def labels : Option TextArray → List String
  | none => []
  | some array => (List.range array.size.toInt.toNat).map fun i => label (array.entry i)

end Launcher.HashLink
