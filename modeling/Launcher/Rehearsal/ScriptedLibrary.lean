import Launcher.HashLink
import Launcher.Rehearsal.Host
import Launcher.Rehearsal.Queue

/-!
# A VM library that follows a script

It takes its answers from queues. Guarded calls of a setup hook do call the hook; a fault leaves its
text and its call sites behind.
-/

namespace Launcher.Rehearsal

open HashLink

/-- A program of the script: the counts and tables of its header, where given. -/
structure ProgramScript where
  functionCount : Int32
  nativeCount : Int32
  entrypoint : Int32
  indexes : Option (List Int32)
  bodies : Option (List (Option Int))
  types : Option (List (Option Int))

/-- The program when the script is silent: one function, which is the entrypoint. -/
def ProgramScript.default : ProgramScript := ⟨1, 0, 0, none, none, none⟩

/-- What guarded calls answer when they raise something. -/
structure RaiseScript where
  flag : UInt32
  text : Option Units
  /-- The call sites: the declared size and the texts, or a null array. -/
  stack : Option (Int32 × List (Option Units))
  /-- Whether the fault value is null. -/
  nullFault : Bool

/-- The answers of a scripted VM library. -/
structure LibraryScript where
  codeRead : List (Except (Option (List UInt8)) ProgramScript)
  moduleAlloc : List Bool
  moduleInit : List (Option Int32)
  dynCallSafe : List (Option RaiseScript)

/-- The state of a scripted VM library. -/
structure ScriptedLibrary where
  host : Host
  script : LibraryScript
  /-- How many fault values there have been. -/
  faults : Nat
  /-- The text of each fault, latest first. -/
  texts : List (Fault × Option Units)
  /-- The call sites of the latest fault. -/
  stack : Option TextArray

namespace ScriptedLibrary

instance : HasHost (State ScriptedLibrary) where
  host s := s.library.host
  setHost host s := { s with library := { s.library with host } }

/-- The library before anything was called. -/
def fresh (host : Host) (script : LibraryScript) : ScriptedLibrary := ⟨host, script, 0, [], none⟩

/-- How many functions of both kinds a program has room for. -/
def capacity (p : ProgramScript) : Nat := (p.functionCount.toInt + p.nativeCount.toInt).toNat

/-- A table of a given size: entries that are not listed are `missing`, and without a list every
entry is its own index. -/
def table {α : Type} (size : Nat) (own : Nat → α) (missing : α) : Option (List α) → Table α
  | none => ⟨size, own⟩
  | some list => ⟨size, fun i => list.getD i missing⟩

/-- The header of a scripted program. -/
def header (p : ProgramScript) : Header where
  functionCount := p.functionCount
  nativeCount := p.nativeCount
  entrypoint := p.entrypoint
  indexes := table (capacity p) Int32.ofNat (-1) p.indexes
  bodies := table (capacity p) (fun i => some (Int.ofNat i)) none p.bodies
  types := table p.functionCount.toInt.toNat (fun i => some (Int.ofNat i)) none p.types

/-- Reads a program. -/
def codeRead (s : ScriptedLibrary) : CodeAnswer × ScriptedLibrary :=
  let (entry, rest) := next s.script.codeRead
  let s := { s with script := { s.script with codeRead := rest } }
  match entry with
  | none => (.parsed (header .default), s)
  | some (.ok program) => (.parsed (header program), s)
  | some (.error message) => (.refused message, s)

/-- Builds a module. -/
def moduleAlloc (s : ScriptedLibrary) : Bool × ScriptedLibrary :=
  let (made, rest) := next s.script.moduleAlloc
  (made.getD true, { s with script := { s.script with moduleAlloc := rest } })

/-- Links a module. -/
def moduleInit (s : ScriptedLibrary) : Int32 × ScriptedLibrary :=
  let (status, rest) := nextGiven s.script.moduleInit
  (status.getD 1, { s with script := { s.script with moduleInit := rest } })

/-- The array of some call sites: the declared size never exceeds their number. -/
def textArray (declared : Int32) (sites : List (Option Units)) : TextArray where
  size := if declared.toInt ≤ sites.length then declared else Int32.ofNat sites.length
  entry i := sites.getD i none

/-- Calls under guard. -/
def dynCallSafe (callee : Callee) (s : ScriptedLibrary) :
    GuardedAnswer × List Remark × ScriptedLibrary :=
  let (entry, rest) := nextGiven s.script.dynCallSafe
  let (said, host) := match callee with
    | .entry _ => ([], s.host)
    | .setup hook options _ => s.host.invoke hook.entry options
  let s := { s with host, script := { s.script with dynCallSafe := rest } }
  match entry with
  | none => (⟨0, ⟨0⟩⟩, said, s)
  | some raised =>
    let fault : Fault := if raised.nullFault then ⟨0⟩ else ⟨s.faults + 1⟩
    (⟨raised.flag, fault⟩, said,
      { s with
        faults := if raised.nullFault then s.faults else s.faults + 1
        texts := (fault, raised.text) :: s.texts
        stack := raised.stack.map fun sites => textArray sites.1 sites.2 })

/-- The text of a fault. -/
def toText (fault : Fault) (s : ScriptedLibrary) : Option Units :=
  (s.texts.find? fun t => t.1 == fault).bind Prod.snd

/-- The functions of the scripted library. -/
def api : Api ScriptedLibrary where
  globalInit s := s
  registerThread _ s := s
  globalFree s := s
  codeRead _ _ s := codeRead s
  codeFree _ s := s
  free _ s := s
  moduleAlloc _ s := moduleAlloc s
  moduleInit _ _ s := moduleInit s
  moduleFree _ s := s
  dynCallSafe := dynCallSafe
  toText fault s := (toText fault s, s)
  exceptionStack s := (s.stack, s)
  debugBreak s := s

end ScriptedLibrary

end Launcher.Rehearsal
