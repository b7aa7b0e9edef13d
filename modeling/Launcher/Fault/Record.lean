import Launcher.Text.Utf8

/-!
# Fault records

A fault that no bytecode handler caught, as it is captured for the report: the message and the
call sites, innermost first. The report is one line for the message and one line per call site.
-/

namespace Launcher

/-- A captured fault. -/
structure FaultRecord where
  message : String
  stack : List String
  deriving DecidableEq

namespace FaultRecord

/-- How many call sites were captured. -/
def depth (r : FaultRecord) : Nat := r.stack.length

/-- The words that come before the message of an uncaught fault. -/
def heading : String := "Uncaught exception: "

/-- The words that come before a call site. -/
def calledFrom : String := "Called from "

/-- The line breaks of a report. -/
def newline : String := "\n"

/-- The lines of the report, each with its line break. -/
def lines (r : FaultRecord) : List String :=
  (heading ++ r.message ++ newline) :: r.stack.map fun label => calledFrom ++ label ++ newline

/-- The whole report. -/
def report (r : FaultRecord) : String := String.join r.lines

end FaultRecord

end Launcher
