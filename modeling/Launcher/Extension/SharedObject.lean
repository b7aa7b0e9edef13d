import Launcher.Extension.Hook

/-!
# Shared objects

What the dynamic linker finds in a library file: its exports, and whether it can be linked at all.
-/

namespace Launcher

/-- An exported symbol. It may be exported without an address. -/
inductive Export
  | null
  | entry (entry : Entry)
  deriving DecidableEq

/-- A library file as the dynamic linker sees it. -/
structure SharedObject where
  exports : List (String × Export)
  /-- A symbol that the library needs and that nothing provides. -/
  unresolved : Option String
  deriving DecidableEq

/-- The export of a name. -/
def SharedObject.find? (o : SharedObject) (name : String) : Option Export :=
  (o.exports.find? fun e => e.1 == name).map Prod.snd

end Launcher
