/-!
# Host options

A host hands over a pointer to its options, or none. The launcher never looks behind it; it only
passes it on to the module linker and to the setup hook.
-/

namespace Launcher

/-- The pointer that a host hands over. -/
structure HostOptions where
  address : UInt64
  deriving DecidableEq

namespace HostOptions

/-- No options. -/
def null : HostOptions := ⟨0⟩

/-- Whether there is nothing behind the options. -/
def isNull (options : HostOptions) : Bool := options.address == 0

end HostOptions

end Launcher
