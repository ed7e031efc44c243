import Blueprints.Session

namespace Blueprints.Build

variable {α β : Type}

/-- `x`, run from the session `s`, returns `a` and leaves the session `s'`. -/
def Runs (x : Build α) (s : Session) (a : α) (s' : Session) : Prop :=
  Id.run (x.run.run s) = (.ok a, s')

@[simp] theorem runs_pure {a b : α} {s s' : Session} :
    Runs (pure a) s b s' ↔ a = b ∧ s = s' := by
  simp [Runs]

/-- A run of `x >>= f` is a run of `x` followed by a run of `f` on what `x` returned. -/
theorem runs_bind {x : Build α} {f : α → Build β} {s s'' : Session} {b : β} :
    Runs (x >>= f) s b s'' ↔ ∃ a s', Runs x s a s' ∧ Runs (f a) s' b s'' := by
  simp only [Runs, ExceptT.run_bind, StateT.run_bind, Id.run_bind]
  rcases Id.run (x.run.run s) with ⟨_ | a, s'⟩
  · simp
  · constructor
    · intro h
      exact ⟨a, s', rfl, h⟩
    · rintro ⟨a', s'', heq, h⟩
      simp only [Prod.mk.injEq, Except.ok.injEq] at heq
      obtain ⟨rfl, rfl⟩ := heq
      exact h

@[simp] theorem not_runs_throw {e : Fault} {s s' : Session} {a : α} :
    ¬ Runs (throw e : Build α) s a s' := by
  simp [Runs]

@[simp] theorem not_runs_throw_bind {e : Fault} {f : α → Build β} {s s' : Session} {b : β} :
    ¬ Runs (throw e >>= f) s b s' := by
  intro h
  obtain ⟨_, _, h, -⟩ := runs_bind.1 h
  exact not_runs_throw h

@[simp] theorem runs_get {s s' a : Session} :
    Runs (get : Build Session) s a s' ↔ a = s ∧ s' = s := by
  show ((.ok s, s) : Except Fault Session × Session) = (.ok a, s') ↔ _
  simp only [Prod.mk.injEq, Except.ok.injEq]
  exact ⟨fun ⟨ha, hs⟩ => ⟨ha.symm, hs.symm⟩, fun ⟨ha, hs⟩ => ⟨ha.symm, hs.symm⟩⟩

@[simp] theorem runs_set {s s' t : Session} {u : PUnit} :
    Runs (set t : Build PUnit) s u s' ↔ s' = t := by
  show ((.ok PUnit.unit, t) : Except Fault PUnit × Session) = (.ok u, s') ↔ _
  simp only [Prod.mk.injEq]
  exact ⟨fun ⟨_, hs⟩ => hs.symm, fun hs => ⟨by simp, hs.symm⟩⟩

@[simp] theorem runs_modify {f : Session → Session} {s s' : Session} {u : PUnit} :
    Runs (modify f : Build PUnit) s u s' ↔ s' = f s := by
  show ((.ok PUnit.unit, f s) : Except Fault PUnit × Session) = (.ok u, s') ↔ _
  simp only [Prod.mk.injEq]
  exact ⟨fun ⟨_, hs⟩ => hs.symm, fun hs => ⟨by simp, hs.symm⟩⟩

/-- A run either returns or faults: a computation that returned is no fault. -/
theorem Runs.unique {x : Build α} {s s₁ s₂ : Session} {a₁ a₂ : α}
    (h₁ : Runs x s a₁ s₁) (h₂ : Runs x s a₂ s₂) : a₁ = a₂ ∧ s₁ = s₂ := by
  unfold Runs at h₁ h₂
  rw [h₁] at h₂
  simp only [Prod.mk.injEq, Except.ok.injEq] at h₂
  exact h₂

/-- A run of `x` guarded by a handler that never returns is a run of `x`: a fault of `x` is
    handed on, never recovered from. -/
theorem runs_tryCatch_of_fails {x : Build α} {handler : Fault → Build α} {s s' : Session} {a : α}
    (hfails : ∀ e s₁ b s₂, ¬ Runs (handler e) s₁ b s₂) (h : Runs (tryCatch x handler) s a s') :
    Runs x s a s' := by
  unfold Runs at h ⊢
  simp only [tryCatch, tryCatchThe, MonadExceptOf.tryCatch, ExceptT.tryCatch, ExceptT.run_mk,
    StateT.run_bind, Id.run_bind] at h
  rcases hx : Id.run (x.run.run s) with ⟨_ | b, s₁⟩
  · -- a fault of `x` goes to the handler, which does not return
    rename_i e
    have hx' : (StateT.run x s).run = (Except.error e, s₁) := hx
    rw [hx'] at h
    exact absurd h (hfails e s₁ a s')
  · have hx' : (StateT.run x s).run = (Except.ok b, s₁) := hx
    rw [hx'] at h
    simpa using h

/-- Whether `x`, run from `s`, returns. -/
def Returns (x : Build α) (s : Session) : Bool :=
  match Id.run (x.run.run s) with
  | (.ok _, _) => true
  | (.error _, _) => false

theorem returns_iff {x : Build α} {s : Session} : Returns x s = true ↔ ∃ a s', Runs x s a s' := by
  unfold Returns Runs
  rcases Id.run (x.run.run s) with ⟨_ | a, s'⟩ <;> simp

/-- After a run of `x`, `x >>= f` goes on as `f` does from where `x` stopped, whether `f` returns
    or faults. -/
theorem Runs.run_bind {x : Build α} {f : α → Build β} {s s' : Session} {a : α}
    (h : Runs x s a s') : Id.run ((x >>= f).run.run s) = Id.run ((f a).run.run s') := by
  simp only [ExceptT.run_bind, StateT.run_bind, Id.run_bind]
  rw [show Id.run (x.run.run s) = (.ok a, s') from h]

end Blueprints.Build
