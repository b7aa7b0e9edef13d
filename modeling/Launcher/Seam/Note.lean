import Launcher.HashLink.Call
import Launcher.Log.Record
import Launcher.Path

/-!
# Notes

What can be observed beyond the seam while the launcher waits for an answer: calls into the VM
library, libraries opened and closed, log records and the remarks of whoever is called there.
-/

namespace Launcher

/-- Something that the called side says or prints. -/
inductive Remark
  | spoken (text : String)
  | prints (text : String)
  deriving DecidableEq

/-- Something that can be observed beyond the seam. -/
inductive Note
  | log (record : Log.Record)
  | library (call : HashLink.Call)
  | opened (path : Path)
  | closed (path : Path)
  | remark (remark : Remark)

end Launcher
