import Launcher.Path
import Launcher.Text.Quoted

/-!
# Setup hooks

A hook is a setup entry that has been resolved under the names it was asked for. A hook from a
shared library keeps that library open for as long as the hook is held.
-/

namespace Launcher

/-- Where a function that can be called is to be found. -/
inductive Entry
  /-- Linked into the program itself. -/
  | builtIn
  /-- Exported under a name by an open library. -/
  | exported (name : String)
  deriving DecidableEq

/-- A resolved setup entry. -/
structure Hook where
  library : String
  symbol : String
  entry : Entry
  /-- The library that the hook keeps open. -/
  keeps : Option Path
  deriving DecidableEq

namespace Hook

/-- Whether the hook comes from a shared library. -/
def dynamic (h : Hook) : Bool := h.keeps.isSome

/-- The hook as it appears in debugging output, on one line. -/
def debugText (h : Hook) : String :=
  "SetupHook \x7b library: " ++ Text.quote h.library ++ ", symbol: " ++ Text.quote h.symbol ++
    ", dynamic: " ++ toString h.dynamic ++ " \x7d"

/-- The hook as it appears in debugging output, one field a line. -/
def debugLines (h : Hook) : String :=
  "SetupHook \x7b\n    library: " ++ Text.quote h.library ++ ",\n    symbol: " ++
    Text.quote h.symbol ++ ",\n    dynamic: " ++ toString h.dynamic ++ ",\n\x7d"

end Hook

end Launcher
