/-!
# Scripts as queues

A scripted partner takes its answers from queues, one for each kind of question. A queue that has run
out gives nothing.
-/

namespace Launcher.Rehearsal

/-- The next entry of a queue and the rest of it. -/
def next {α : Type} : List α → Option α × List α
  | [] => (none, [])
  | entry :: rest => (some entry, rest)

/-- The next entry of a queue whose entries may be left blank. -/
def nextGiven {α : Type} : List (Option α) → Option α × List (Option α)
  | [] => (none, [])
  | entry :: rest => (entry, rest)

end Launcher.Rehearsal
