import Launcher.Session
import Launcher.Trap

/-!
# Sessions by hand

A workbench keeps sessions, programs, modules and closures under names and carries out one operation
after the other on them. What is put under a name in use replaces what was there, which is given up
once the new object exists. A session cannot be finished while a program or a module made in it is
kept. In the end everything that is left is released: modules, programs, sessions, each kind in the
order of the names.

- `Workbench.Operation`, `Workbench.Answer`: what can be asked and what comes of it.
- `Workbench.perform`: one operation.
- `Workbench.clear`: the release in the end.
-/

namespace Launcher

/-- Objects under names. -/
abbrev Shelf (α : Type) : Type := List (String × α)

namespace Shelf

variable {α : Type}

/-- The object under a name. -/
def get? (shelf : Shelf α) (name : String) : Option α :=
  (shelf.find? fun entry => entry.1 == name).map Prod.snd

/-- A shelf without what is under a name. -/
def remove (shelf : Shelf α) (name : String) : Shelf α :=
  shelf.filter fun entry => entry.1 != name

/-- A shelf with an object put under a name. -/
def put (shelf : Shelf α) (name : String) (object : α) : Shelf α :=
  (name, object) :: shelf.remove name

/-- The entries in the order of their names. -/
def inOrder (shelf : Shelf α) : Shelf α := shelf.mergeSort fun a b => a.1 ≤ b.1

end Shelf

/-- What is kept on a workbench. Programs and modules go with the name of the session they were made
in. -/
structure Workbench where
  sessions : Shelf Session
  codes : Shelf (String × ParsedCode)
  modules : Shelf (String × LoadedModule)
  closures : Shelf Closure

namespace Workbench

/-- An operation on objects by their names. -/
inductive Operation
  | start (session : String)
  | load (session : String) (path : Path) (code : String)
  | allocate (session code module : String)
  | link (module : String) (options : HostOptions)
  | compact (module : String)
  | free (module : String)
  | dropCode (code : String)
  | finish (session : String)
  | entry (module closure : String)
  | run (closure : String)
  | setup (hook : Hook) (options : HostOptions)

/-- What came of an operation. -/
inductive Answer
  | started
  | done
  | closure (closure : Closure)
  | trapped (outcome : TrapOutcome)
  | failed (failure : Failure)
  | panicked (panic : Panic)
  /-- There is nothing under a name. -/
  | noHandle
  /-- The session is still in use. -/
  | borrowed

/-- An empty workbench. -/
def empty : Workbench := ⟨[], [], [], []⟩

variable {σ : Type} (vm : Vm σ) (opening : Opening)

/-- What an act that may fail or panic comes to; `settle` puts its value on the workbench. -/
def concluding {α : Type} (bench : Workbench) (act : Act Event (Seam σ) (Except Failure α))
    (settle : α → Quiet Event (Seam σ) (Answer × Workbench)) :
    Quiet Event (Seam σ) (Answer × Workbench) := do
  match ← act.caught with
  | .returned (.ok a) => settle a
  | .returned (.error failure) => return (.failed failure, bench)
  | .panicked p => return (.panicked p, bench)

/-- Gives up a program that is no longer under its name. -/
def discardCode : Option (String × ParsedCode) → Quiet Event (Seam σ) Unit
  | none => return ()
  | some (_, code) => Session.dropCode vm code

/-- Frees a module that is no longer under its name and tells its session. -/
def discardModule (bench : Workbench) :
    Option (String × LoadedModule) → Quiet Event (Seam σ) Workbench
  | none => return bench
  | some (owner, module) => do
    let session ← Session.free vm ((bench.sessions.get? owner).getD ⟨true⟩) module
    return { bench with sessions := bench.sessions.put owner session }

/-- Whether a program or a module made in a session is kept. -/
def inUse (bench : Workbench) (session : String) : Bool :=
  bench.codes.any (fun c => c.2.1 == session) || bench.modules.any (fun m => m.2.1 == session)

/-- Carries out one operation. -/
def perform (bench : Workbench) : Operation → Quiet Event (Seam σ) (Answer × Workbench)
  | .start name => do
    match ← Session.start vm with
    | .ok session => return (.started, { bench with sessions := bench.sessions.put name session })
    | .error failure => return (.failed failure, bench)
  | .load owner path name =>
    match bench.sessions.get? owner with
    | none => return (.noHandle, bench)
    | some _ =>
      concluding bench (Session.load vm opening path) fun code => do
        discardCode vm (bench.codes.get? name)
        return (.done, { bench with codes := bench.codes.put name (owner, code) })
  | .allocate owner code name =>
    match bench.sessions.get? owner, bench.codes.get? code with
    | some session, some (_, program) =>
      let bench := { bench with codes := bench.codes.remove code }
      concluding bench (Session.allocate vm session program) fun (module, session) => do
        let bench := { bench with sessions := bench.sessions.put owner session }
        let bench ← discardModule vm bench (bench.modules.get? name)
        return (.done, { bench with modules := bench.modules.put name (owner, module) })
    | _, _ => return (.noHandle, bench)
  | .link name options =>
    match bench.modules.get? name with
    | none => return (.noHandle, bench)
    | some (_, module) =>
      concluding bench (Session.link vm module options) fun () => return (.done, bench)
  | .compact name =>
    match bench.modules.get? name with
    | none => return (.noHandle, bench)
    | some (owner, module) => do
      let module ← Session.compactModule vm module
      return (.done, { bench with modules := bench.modules.put name (owner, module) })
  | .free name =>
    match bench.modules.get? name with
    | none => return (.noHandle, bench)
    | some module => do
      let bench ← discardModule vm { bench with modules := bench.modules.remove name } (some module)
      return (.done, bench)
  | .dropCode name =>
    match bench.codes.get? name with
    | none => return (.noHandle, bench)
    | some code => do
      discardCode vm (some code)
      return (.done, { bench with codes := bench.codes.remove name })
  | .finish name =>
    if bench.inUse name then return (.borrowed, bench)
    else match bench.sessions.get? name with
    | none => return (.noHandle, bench)
    | some _ => do
      Session.finish vm
      return (.done, { bench with sessions := bench.sessions.remove name })
  | .entry name closure =>
    match bench.modules.get? name with
    | none => return (.noHandle, bench)
    | some (_, module) =>
      concluding bench (Session.entryClosure vm module) fun found =>
        return (.closure found, { bench with closures := bench.closures.put closure found })
  | .run name =>
    match bench.closures.get? name with
    | none => return (.noHandle, bench)
    | some closure => do
      match ← (Trap.run vm closure).caught with
      | .returned outcome => return (.trapped outcome, bench)
      | .panicked p => return (.panicked p, bench)
  | .setup hook options => do
    match ← (Trap.setup vm hook options).caught with
    | .returned outcome => return (.trapped outcome, bench)
    | .panicked p => return (.panicked p, bench)

/-- Frees modules one after the other. -/
def freeAll (bench : Workbench) :
    Shelf (String × LoadedModule) → Quiet Event (Seam σ) Workbench
  | [] => return bench
  | (_, module) :: rest => do freeAll (← discardModule vm bench (some module)) rest

/-- Gives programs up one after the other. -/
def dropAll : Shelf (String × ParsedCode) → Quiet Event (Seam σ) Unit
  | [] => return ()
  | (_, code) :: rest => do
    discardCode vm (some code)
    dropAll rest

/-- Finishes sessions one after the other. -/
def finishAll : Shelf Session → Quiet Event (Seam σ) Unit
  | [] => return ()
  | _ :: rest => do
    Session.finish vm
    finishAll rest

/-- Releases everything that is left. -/
def clear (bench : Workbench) : Quiet Event (Seam σ) Unit := do
  let _ ← freeAll vm bench bench.modules.inOrder
  dropAll vm bench.codes.inOrder
  finishAll vm bench.sessions.inOrder

end Workbench

end Launcher
