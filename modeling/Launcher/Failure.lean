import Launcher.IoError
import Launcher.Path
import Launcher.Fault.Record

/-!
# Failures of a boot

Every way a boot can end short of success, with its stable code and its message.
-/

namespace Launcher

/-- Why a boot failed. -/
inductive Failure
  /-- The image could not be opened. -/
  | imageNotFound (path : Path) (source : IoError)
  /-- The image ended before its declared size, or reading it failed. -/
  | imageUnread (path : Path) (expected read : Nat) (source : Option IoError)
  /-- The image is larger than the parser accepts, or the parser refused it. -/
  | imageMalformed (path : Path) (reason : String)
  /-- The VM gave no module. -/
  | allocation (reason : String)
  /-- The module could not be linked, or has no entrypoint to call. -/
  | link (reason : String)
  /-- The VM library, one of its exports or its global state is not to be had. -/
  | runtimeUnavailable (reason : String)
  /-- The extension library could not be opened. -/
  | extensionNotFound (library reason : String)
  /-- The extension library lacks the setup export. -/
  | symbolNotFound (library symbol : String)
  /-- The setup hook or the entrypoint raised a fault that nothing caught. -/
  | uncaught (record : FaultRecord)
  deriving DecidableEq

namespace Failure

/-- The stable code of a failure. -/
def code : Failure → String
  | imageNotFound .. => "image_not_found"
  | imageUnread .. => "image_read_failed"
  | imageMalformed .. => "image_malformed"
  | allocation _ => "module_alloc_failed"
  | link _ => "module_link_failed"
  | runtimeUnavailable _ => "runtime_unavailable"
  | extensionNotFound .. => "extension_not_found"
  | symbolNotFound .. => "symbol_not_found"
  | uncaught _ => "uncaught_fault"

/-- The message of a failure. -/
def message : Failure → String
  | imageNotFound path _ => "File not found '" ++ path.display ++ "'"
  | imageUnread path .. => "Failed to read '" ++ path.display ++ "'"
  | imageMalformed path reason => "Malformed bytecode '" ++ path.display ++ "': " ++ reason
  | allocation reason => "Module allocation failed: " ++ reason
  | link reason => "Module initialization failed: " ++ reason
  | runtimeUnavailable reason => "VM runtime unavailable: " ++ reason
  | extensionNotFound library reason => "Extension not found '" ++ library ++ "': " ++ reason
  | symbolNotFound library symbol => "Symbol '" ++ symbol ++ "' not found in '" ++ library ++ "'"
  | uncaught record => FaultRecord.heading ++ record.message

/-- The input error behind a failure. -/
def source : Failure → Option IoError
  | imageNotFound _ source => some source
  | imageUnread _ _ _ source => source
  | _ => none

/-- Whether a failure is a captured fault, which has already been reported with its call sites. -/
def isFault : Failure → Bool
  | uncaught _ => true
  | _ => false

end Failure

end Launcher
