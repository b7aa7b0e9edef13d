import Launcher.Act

/-!
# Laws of acts

An act is a function of the state, so what a composed act comes to can be read off its parts. For a
quiet act that is an equation without conditions; for an act that may panic it depends on how the
first part ended.

- `Quiet.bind_apply` and its neighbours: quiet acts, applied to a state.
- `Act.bind_returned`, `Act.bind_panicked`: acts one after the other.
- `Act.attempt_ok`, `Act.attempt_error`, `Act.attempt_panicked`: going on only after a success.
-/

namespace Launcher

/-- An ending with its value changed; a panic stays. -/
def Ending.map {α β : Type} (f : α → β) : Ending α → Ending β
  | .returned a => .returned (f a)
  | .panicked p => .panicked p

@[simp] theorem Ending.map_returned {α β : Type} (f : α → β) (a : α) :
    (Ending.returned a).map f = .returned (f a) := rfl

@[simp] theorem Ending.map_panicked {α β : Type} (f : α → β) (p : Panic) :
    (Ending.panicked p).map f = .panicked p := rfl

namespace Quiet

variable {ε ε' σ τ α β : Type}

@[simp] theorem pure_apply (a : α) (s : σ) : (Pure.pure a : Quiet ε σ α) s = (a, [], s) := rfl

@[simp] theorem bind_apply (q : Quiet ε σ α) (f : α → Quiet ε σ β) (s : σ) :
    (q >>= f) s =
      ((f (q s).1 (q s).2.2).1, (q s).2.1 ++ (f (q s).1 (q s).2.2).2.1,
        (f (q s).1 (q s).2.2).2.2) := rfl

@[simp] theorem emit_apply (e : ε) (s : σ) : emit e s = ((), [e], s) := rfl

@[simp] theorem modify_apply (f : σ → σ) (s : σ) :
    (modify f : Quiet ε σ Unit) s = ((), [], f s) := rfl

@[simp] theorem gets_apply (f : σ → α) (s : σ) : (gets f : Quiet ε σ α) s = (f s, [], s) := rfl

@[simp] theorem within_apply (get : σ → τ) (put : τ → σ → σ) (name : ε → ε') (q : Quiet ε τ α)
    (s : σ) :
    q.within get put name s = ((q (get s)).1, (q (get s)).2.1.map name, put (q (get s)).2.2 s) :=
  rfl

end Quiet

namespace Act

variable {ε ε' σ τ α β δ : Type}

@[simp] theorem pure_apply (a : α) (s : σ) :
    (Pure.pure a : Act ε σ α) s = ⟨.returned a, [], s⟩ := rfl

@[simp] theorem emit_apply (e : ε) (s : σ) : emit e s = ⟨.returned (), [e], s⟩ := rfl

@[simp] theorem ofQuiet_apply (q : Quiet ε σ α) (s : σ) :
    ofQuiet q s = ⟨.returned (q s).1, (q s).2.1, (q s).2.2⟩ := rfl

@[simp] theorem liftM_quiet (q : Quiet ε σ α) : (liftM q : Act ε σ α) = ofQuiet q := rfl

@[simp] theorem within_apply (get : σ → τ) (put : τ → σ → σ) (name : ε → ε') (act : Act ε τ α)
    (s : σ) :
    act.within get put name s =
      ⟨(act (get s)).ending, (act (get s)).trace.map name, put (act (get s)).state s⟩ := rfl

@[simp] theorem caught_apply (act : Act ε σ α) (s : σ) :
    act.caught s = ((act s).ending, (act s).trace, (act s).state) := rfl

@[simp] theorem ensuring_apply (act : Act ε σ α) (cleanUp : Quiet ε σ Unit) (s : σ) :
    act.ensuring cleanUp s =
      ⟨(act s).ending, (act s).trace ++ (cleanUp (act s).state).2.1,
        (cleanUp (act s).state).2.2⟩ := rfl

/-! ## One after the other -/

/-- After a value, the second act goes on from the state that the first one left. -/
theorem bind_returned {act : Act ε σ α} {s : σ} {a : α} (f : α → Act ε σ β)
    (h : (act s).ending = .returned a) :
    (act >>= f) s =
      ⟨(f a (act s).state).ending, (act s).trace ++ (f a (act s).state).trace,
        (f a (act s).state).state⟩ := by
  show Act.bind act f s = _
  rw [Act.bind, h]

/-- After a panic, nothing more happens. -/
theorem bind_panicked {act : Act ε σ α} {s : σ} {p : Panic} (f : α → Act ε σ β)
    (h : (act s).ending = .panicked p) :
    (act >>= f) s = ⟨.panicked p, (act s).trace, (act s).state⟩ := by
  show Act.bind act f s = _
  rw [Act.bind, h]

/-- What is done on a panic is not done after a value. -/
theorem onPanic_returned {act : Act ε σ α} {s : σ} {a : α} (cleanUp : Quiet ε σ Unit)
    (h : (act s).ending = .returned a) : act.onPanic cleanUp s = act s := by
  rw [Act.onPanic, h]

theorem onPanic_panicked {act : Act ε σ α} {s : σ} {p : Panic} (cleanUp : Quiet ε σ Unit)
    (h : (act s).ending = .panicked p) :
    act.onPanic cleanUp s =
      ⟨.panicked p, (act s).trace ++ (cleanUp (act s).state).2.1, (cleanUp (act s).state).2.2⟩ := by
  rw [Act.onPanic, h]

@[simp] theorem emit_bind (e : ε) (f : Unit → Act ε σ β) (s : σ) :
    (emit e >>= f) s = ⟨(f () s).ending, e :: (f () s).trace, (f () s).state⟩ := rfl

@[simp] theorem ofQuiet_bind (q : Quiet ε σ α) (f : α → Act ε σ β) (s : σ) :
    (ofQuiet q >>= f) s =
      ⟨(f (q s).1 (q s).2.2).ending, (q s).2.1 ++ (f (q s).1 (q s).2.2).trace,
        (f (q s).1 (q s).2.2).state⟩ := rfl

@[simp] theorem conclude_returned_bind (a : α) (event : Panic → ε) (f : α → Act ε σ β) (s : σ) :
    (conclude (.returned a) event >>= f) s = f a s := rfl

@[simp] theorem conclude_panicked_bind (p : Panic) (event : Panic → ε) (f : α → Act ε σ β)
    (s : σ) : (conclude (.panicked p) event >>= f) s = ⟨.panicked p, [event p], s⟩ := rfl

/-! ## Going on after a success -/

theorem attempt_ok {act : Act ε σ (Except δ α)} {s : σ} {a : α} (f : α → Act ε σ (Except δ β))
    (h : (act s).ending = .returned (.ok a)) :
    act.attempt f s =
      ⟨(f a (act s).state).ending, (act s).trace ++ (f a (act s).state).trace,
        (f a (act s).state).state⟩ := by
  rw [Act.attempt, Act.bind, h]

theorem attempt_error {act : Act ε σ (Except δ α)} {s : σ} {e : δ} (f : α → Act ε σ (Except δ β))
    (h : (act s).ending = .returned (.error e)) :
    act.attempt f s = ⟨.returned (.error e), (act s).trace, (act s).state⟩ := by
  rw [Act.attempt, Act.bind, h]
  simp [Act.pure]

theorem attempt_panicked {act : Act ε σ (Except δ α)} {s : σ} {p : Panic}
    (f : α → Act ε σ (Except δ β)) (h : (act s).ending = .panicked p) :
    act.attempt f s = ⟨.panicked p, (act s).trace, (act s).state⟩ := by
  rw [Act.attempt, Act.bind, h]

end Act

end Launcher
