/-!
# Acts

An act is a computation that reads and changes a state, leaves a trace of what it did, and ends
with a value or with a panic. A panic skips whatever would have followed; only what is
`ensuring`-ed still happens.

- `Act`, `Quiet`: acts, and acts that cannot panic.
- `Act.attempt`: go on only after a success.
- `Act.ensuring`: a clean-up that follows however the act ended.
- `Act.within`: an act on a part of the state.
-/

namespace Launcher

/-- A panic and its payload, if the payload is text. -/
structure Panic where
  payload : Option String
  deriving DecidableEq

/-- The panic of an addition that leaves the range of its type. -/
def Panic.additionOverflow : Panic := ⟨some "attempt to add with overflow"⟩

/-- How an act ends. -/
inductive Ending (α : Type) where
  | returned (value : α)
  | panicked (panic : Panic)
  deriving DecidableEq

/-- The value, if there is one. -/
def Ending.value? {α : Type} : Ending α → Option α
  | .returned value => some value
  | .panicked _ => none

/-- What came of an act: how it ended, what it did, and the state it left. -/
structure Outcome (ε σ α : Type) where
  ending : Ending α
  trace : List ε
  state : σ

/-- An act over the state `σ` that leaves events of type `ε`. -/
def Act (ε σ α : Type) : Type := σ → Outcome ε σ α

/-- An act that cannot panic: a value, a trace and a state. -/
def Quiet (ε σ α : Type) : Type := σ → α × List ε × σ

namespace Quiet

variable {ε ε' σ τ α β : Type}

/-- Nothing happens. -/
def pure (a : α) : Quiet ε σ α := fun s => (a, [], s)

/-- One after the other. -/
def bind (q : Quiet ε σ α) (f : α → Quiet ε σ β) : Quiet ε σ β := fun s =>
  let (a, before, s) := q s
  let (b, after, s) := f a s
  (b, before ++ after, s)

instance : Monad (Quiet ε σ) where
  pure := pure
  bind := bind

/-- An event. -/
def emit (e : ε) : Quiet ε σ Unit := fun s => ((), [e], s)

/-- A change of the state. -/
def modify (f : σ → σ) : Quiet ε σ Unit := fun s => ((), [], f s)

/-- A part of the state. -/
def gets (f : σ → α) : Quiet ε σ α := fun s => (f s, [], s)

/-- Carried out on a part of a larger state, its events renamed. -/
def within (get : σ → τ) (put : τ → σ → σ) (name : ε → ε') (q : Quiet ε τ α) : Quiet ε' σ α :=
  fun s =>
    let (a, trace, t) := q (get s)
    (a, trace.map name, put t s)

end Quiet

namespace Act

variable {ε ε' σ τ α β δ : Type}

/-- Nothing happens. -/
def pure (a : α) : Act ε σ α := fun s => ⟨.returned a, [], s⟩

/-- One after the other, unless the first one panics. -/
def bind (act : Act ε σ α) (f : α → Act ε σ β) : Act ε σ β := fun s =>
  let first := act s
  match first.ending with
  | .returned a =>
    let second := f a first.state
    ⟨second.ending, first.trace ++ second.trace, second.state⟩
  | .panicked p => ⟨.panicked p, first.trace, first.state⟩

instance : Monad (Act ε σ) where
  pure := pure
  bind := bind

/-- A quiet act among acts. -/
def ofQuiet (q : Quiet ε σ α) : Act ε σ α := fun s =>
  let (a, trace, s) := q s
  ⟨.returned a, trace, s⟩

instance : Coe (Quiet ε σ α) (Act ε σ α) := ⟨ofQuiet⟩

instance : MonadLift (Quiet ε σ) (Act ε σ) := ⟨ofQuiet⟩

/-- An event. -/
def emit (e : ε) : Act ε σ Unit := fun s => ⟨.returned (), [e], s⟩

/-- An ending reached without touching the state; a panic is an event of its own. -/
def conclude (ending : Ending α) (event : Panic → ε) : Act ε σ α := fun s =>
  match ending with
  | .returned a => ⟨.returned a, [], s⟩
  | .panicked p => ⟨.panicked p, [event p], s⟩

/-- Goes on with the value of a success; an error is the answer of the whole. -/
def attempt (act : Act ε σ (Except δ α)) (f : α → Act ε σ (Except δ β)) : Act ε σ (Except δ β) :=
  act.bind fun
    | .ok a => f a
    | .error e => pure (.error e)

/-- `act` followed by `cleanUp` however `act` ended; its ending stays. -/
def ensuring (act : Act ε σ α) (cleanUp : Quiet ε σ Unit) : Act ε σ α := fun s =>
  let first := act s
  let (_, trace, s) := cleanUp first.state
  ⟨first.ending, first.trace ++ trace, s⟩

/-- `act` followed by `cleanUp` only if `act` panicked. -/
def onPanic (act : Act ε σ α) (cleanUp : Quiet ε σ Unit) : Act ε σ α := fun s =>
  let first := act s
  match first.ending with
  | .returned _ => first
  | .panicked p =>
    let (_, trace, s) := cleanUp first.state
    ⟨.panicked p, first.trace ++ trace, s⟩

/-- Carried out on a part of a larger state, its events renamed. -/
def within (get : σ → τ) (put : τ → σ → σ) (name : ε → ε') (act : Act ε τ α) : Act ε' σ α :=
  fun s =>
    let inner := act (get s)
    ⟨inner.ending, inner.trace.map name, put inner.state s⟩

/-- `act` with its ending handed on as a value; the panic is over. -/
def caught (act : Act ε σ α) : Quiet ε σ (Ending α) := fun s =>
  let inner := act s
  (inner.ending, inner.trace, inner.state)

end Act

end Launcher
