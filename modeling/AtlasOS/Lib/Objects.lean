import Mathlib.Data.List.Basic

/-!
# Objects and their runs

An object answers one call after the other and keeps a state between them. Two
objects whose states are related, and stay related under every call while the
answers are the same, cannot be told apart by any sequence of calls.
-/

namespace AtlasOS

/-- What an object answers to a call, and the state it is in afterwards. -/
abbrev Object (σ ι α : Type) := σ → ι → α × σ

namespace Object

variable {σ τ ι α : Type} {o : Object σ ι α} {o' : Object τ ι α}

/-- The answers to a sequence of calls, and the state after it. -/
def run (o : Object σ ι α) : σ → List ι → List α × σ
  | s, [] => ([], s)
  | s, c :: cs => ((o s c).1 :: (run o (o s c).2 cs).1, (run o (o s c).2 cs).2)

/-- The state after a sequence of calls. -/
def after (o : Object σ ι α) (s : σ) (cs : List ι) : σ := (o.run s cs).2

@[simp] theorem after_nil (s : σ) : o.after s [] = s := rfl

@[simp] theorem after_cons (s : σ) (c : ι) (cs : List ι) :
    o.after s (c :: cs) = o.after (o s c).2 cs := rfl

theorem after_append (s : σ) (cs later : List ι) :
    o.after s (cs ++ later) = o.after (o.after s cs) later := by
  induction cs generalizing s with
  | nil => rfl
  | cons c cs ih => exact ih (o s c).2

theorem after_concat (s : σ) (cs : List ι) (c : ι) :
    o.after s (cs ++ [c]) = (o (o.after s cs) c).2 := after_append s cs [c]

/-- The last answer is given in the state after the calls before it. -/
theorem run_concat (s : σ) (cs : List ι) (c : ι) :
    (o.run s (cs ++ [c])).1 = (o.run s cs).1 ++ [(o (o.after s cs) c).1] := by
  induction cs generalizing s with
  | nil => rfl
  | cons first cs ih => exact congrArg ((o s first).1 :: ·) (ih (o s first).2)

/-- What every call keeps is kept by a run. -/
theorem after_of_step {P : σ → Prop} (hstep : ∀ s c, P s → P (o s c).2) {s : σ} (hs : P s)
    (cs : List ι) : P (o.after s cs) := by
  induction cs generalizing s with
  | nil => exact hs
  | cons c cs ih => exact ih (hstep s c hs)

/-- A relation between the states of two objects that answer alike. -/
structure Simulation (o : Object σ ι α) (o' : Object τ ι α) (R : σ → τ → Prop) : Prop where
  /-- Related states give the same answer. -/
  answer : ∀ s t c, R s t → (o s c).1 = (o' t c).1
  /-- Related states stay related. -/
  related : ∀ s t c, R s t → R (o s c).2 (o' t c).2

/-- Objects that simulate each other answer every sequence of calls alike. -/
theorem Simulation.run {R : σ → τ → Prop} (h : Simulation o o' R) {s : σ} {t : τ} (hst : R s t)
    (cs : List ι) : (o.run s cs).1 = (o'.run t cs).1 ∧ R (o.after s cs) (o'.after t cs) := by
  induction cs generalizing s t with
  | nil => exact ⟨rfl, hst⟩
  | cons c cs ih =>
    obtain ⟨hanswers, hrelated⟩ := ih (h.related s t c hst)
    refine ⟨?_, hrelated⟩
    rw [Object.run, Object.run, h.answer s t c hst, hanswers]

end Object

end AtlasOS
