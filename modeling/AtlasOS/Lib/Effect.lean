import AtlasOS.Lib.Json

/-!
# Programs with state and exceptions

A program that changes a state and may raise: what it had changed before it
raised stays changed. The rules below run a program step by step.
-/

namespace AtlasOS

/-- A program over a state `σ` that returns a value or raises. -/
abbrev Effect (σ α : Type) := ExceptT PyError (StateM σ) α

namespace Effect

variable {σ α β : Type}

/-- The outcome of a program and the state it leaves. -/
def exec (program : Effect σ α) (s : σ) : Except PyError α × σ := program.run.run s

/-- Raise the error of a computation that does not touch the state. -/
def lift (result : Except PyError α) : Effect σ α := ExceptT.mk (pure result)

/-- A step that does nothing but possibly raise. -/
def attempt (fails : Bool) (error : PyError) : Effect σ Unit :=
  lift (if fails then .error error else .ok ())

/-- Read the state. -/
def read : Effect σ σ := get

/-- Change the state. -/
def update (f : σ → σ) : Effect σ Unit := modify f

theorem exec_bind (program : Effect σ α) (next : α → Effect σ β) (s : σ) :
    exec (program >>= next) s =
      match exec program s with
      | (.ok a, s') => exec (next a) s'
      | (.error e, s') => (.error e, s') := by
  simp only [exec, ExceptT.run_bind, StateT.run_bind]
  change (match program.run.run s with | (a, s') => _) = _
  rcases program.run.run s with ⟨_ | a, s'⟩ <;> rfl

@[simp] theorem exec_pure (a : α) (s : σ) : exec (pure a) s = (.ok a, s) := rfl

@[simp] theorem exec_read (s : σ) : exec read s = (.ok s, s) := rfl

@[simp] theorem exec_update (f : σ → σ) (s : σ) : exec (update f) s = (.ok (), f s) := rfl

@[simp] theorem exec_lift (result : Except PyError α) (s : σ) : exec (lift result) s = (result, s) :=
  rfl

/-- A program after a value that was read. -/
@[simp] theorem exec_read_bind (next : σ → Effect σ β) (s : σ) :
    exec (read >>= next) s = exec (next s) s := by
  rw [exec_bind, exec_read]

@[simp] theorem exec_update_bind (f : σ → σ) (next : Unit → Effect σ β) (s : σ) :
    exec (update f >>= next) s = exec (next ()) (f s) := by
  rw [exec_bind, exec_update]

theorem exec_lift_bind (result : Except PyError α) (next : α → Effect σ β) (s : σ) :
    exec (lift result >>= next) s =
      match result with
      | .ok a => exec (next a) s
      | .error e => (.error e, s) := by
  rw [exec_bind, exec_lift]
  cases result <;> rfl

@[simp] theorem exec_lift_ok_bind (a : α) (next : α → Effect σ β) (s : σ) :
    exec (lift (.ok a) >>= next) s = exec (next a) s :=
  exec_lift_bind _ _ _

@[simp] theorem exec_lift_error_bind (e : PyError) (next : α → Effect σ β) (s : σ) :
    exec (lift (.error e) >>= next) s = (.error e, s) :=
  exec_lift_bind _ _ _

/-- A step that fails ends the program; one that does not is skipped. -/
theorem exec_attempt_bind (fails : Bool) (error : PyError) (next : Unit → Effect σ β) (s : σ) :
    exec (attempt fails error >>= next) s =
      if fails then (.error error, s) else exec (next ()) s := by
  cases fails <;> simp [attempt]

end Effect

end AtlasOS
