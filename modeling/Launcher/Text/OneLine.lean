/-!
# One bounded line

A panic payload goes into one log line: line breaks become spaces and a long text is cut.
-/

namespace Launcher.Text

/-- A line break of either kind becomes a space. -/
def flattenBreak (c : Char) : Char := if c = '\n' ∨ c = '\r' then ' ' else c

/-- `s` on one line: at most `limit` of its characters, followed by `...` when some were cut. -/
def oneLine (s : String) (limit : Nat) : String :=
  let flat := s.toList.map flattenBreak
  String.ofList (flat.take limit ++ if flat.length > limit then ['.', '.', '.'] else [])

end Launcher.Text
