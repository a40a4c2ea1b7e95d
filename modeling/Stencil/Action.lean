import Stencil.Error
import Stencil.Scope

/-!
# Actions on scopes

An action works on the scope of a rendering and may fail. What it has done to the scope before it
fails remains.
-/

namespace Stencil

/-- A step of a rendering. -/
abbrev Action := ExceptT Error (StateM Scope)

namespace Action

variable {α : Type}

/-- The action that is decided by a result. -/
def ofExcept (r : Except Error α) : Action α :=
  match r with
  | .ok x => pure x
  | .error e => throw e

/-- Runs an action in the scope without its `n` innermost frames, which are put back afterwards. -/
def outside (n : Nat) (a : Action α) : Action α :=
  ExceptT.mk fun (s : Scope) ↦
    let (r, after) := a.run.run (s.drop n)
    (r, s.take n ++ after)

/-- The frames outside of which an action runs stay as they are, whether or not it fails. -/
theorem run_outside (n : Nat) (a : Action α) (s : Scope) :
    (outside n a).run.run s =
      ((a.run.run (s.drop n)).1, s.take n ++ (a.run.run (s.drop n)).2) := rfl

/-- Runs an action in the outermost frame. -/
def outermost (a : Action α) : Action α := do
  let s ← get
  outside (s.length - 1) a

/-- Runs an action in a new innermost frame, which is given up afterwards. -/
def inFrame (f : Frame) (a : Action α) : Action α :=
  ExceptT.mk fun (s : Scope) ↦
    let (r, after) := a.run.run (f :: s)
    (r, after.tail)

/-- A new frame is given up whether or not the action in it fails. -/
theorem run_inFrame (f : Frame) (a : Action α) (s : Scope) :
    (inFrame f a).run.run s = ((a.run.run (f :: s)).1, (a.run.run (f :: s)).2.tail) := rfl

/-- Gives a value instead of failing where the only failure is that a called name is unknown. -/
def orIfUnknown (a : Action α) (x : α) : Action α :=
  tryCatch a fun e ↦ if e.isUndefinedVariable then pure x else throw e

/-- The result with a value in place of the failure that a called name is unknown. -/
def recovered (r : Except Error α) (x : α) : Except Error α :=
  match r with
  | .ok y => .ok y
  | .error e => if e.isUndefinedVariable then .ok x else .error e

/-- Making up for a failure leaves the scope as the failing action left it. -/
theorem run_orIfUnknown (a : Action α) (x : α) (s : Scope) :
    (a.orIfUnknown x).run.run s = (recovered (a.run.run s).1 x, (a.run.run s).2) := by
  rw [orIfUnknown, ExceptT.run_tryCatch, StateT.run_bind]
  rcases a.run.run s with ⟨e | y, s₁⟩
  · change (if e.isUndefinedVariable then pure x else throw e : Action α).run.run s₁ =
      (recovered (.error e) x, s₁)
    rw [recovered]
    split <;> rfl
  · rfl

/-- Behind a success the next action goes on in the scope that is left. -/
theorem run_bind_ok {β : Type} {a : Action α} {f : α → Action β} {s s₁ : Scope} {x : α}
    (h : a.run.run s = (.ok x, s₁)) : (a >>= f).run.run s = (f x).run.run s₁ := by
  rw [ExceptT.run_bind, StateT.run_bind, h]
  rfl

/-- A failure ends an action. -/
theorem run_bind_error {β : Type} {a : Action α} {f : α → Action β} {s s₁ : Scope} {e : Error}
    (h : a.run.run s = (.error e, s₁)) : (a >>= f).run.run s = (.error e, s₁) := by
  rw [ExceptT.run_bind, StateT.run_bind, h]
  rfl

/-- Mapping over an action leaves the scope as the action leaves it. -/
theorem run_map {β : Type} (f : α → β) (a : Action α) (s : Scope) :
    (f <$> a).run.run s = ((a.run.run s).1.map f, (a.run.run s).2) := by
  rw [ExceptT.run_map, StateT.run_map]
  rfl

end Action

end Stencil
