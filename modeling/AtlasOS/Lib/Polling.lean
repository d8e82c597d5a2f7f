import Mathlib.Data.List.Induction
import Mathlib.Data.List.Infix

/-!
# Polling loops

A loop that observes something on every turn, and goes on with a state or settles
with a verdict. What it did follows from the observations that it made: an
invariant relates its state to them, and it settled on the last of them.
-/

namespace AtlasOS

/-- What a turn of a loop comes to. -/
inductive Turn (σ β : Type) where
  | goes (state : σ)
  | settles (verdict : β)

section Polling

variable {σ α β : Type} {step : σ → α → Turn σ β} {start : σ}

/-- The loop over the observations that it can make. -/
def poll (step : σ → α → Turn σ β) (state : σ) : List α → Turn σ β
  | [] => .goes state
  | a :: rest =>
      match step state a with
      | .goes state => poll step state rest
      | .settles verdict => .settles verdict

theorem poll_append {first : List α} {state : σ} (h : poll step start first = .goes state)
    (rest : List α) : poll step start (first ++ rest) = poll step state rest := by
  induction first generalizing start with
  | nil =>
    cases h
    rfl
  | cons a first ih =>
    rw [List.cons_append]
    simp only [poll] at h ⊢
    split at h
    · exact ih h
    · cases h

/-- A settled loop makes no further observations. -/
theorem poll_append_of_settles {first : List α} {verdict : β}
    (h : poll step start first = .settles verdict) (rest : List α) :
    poll step start (first ++ rest) = .settles verdict := by
  induction first generalizing start with
  | nil => cases h
  | cons a first ih =>
    rw [List.cons_append]
    simp only [poll] at h ⊢
    split at h
    · exact ih h
    · exact h

theorem poll_singleton (state : σ) (a : α) : poll step state [a] = step state a := by
  simp only [poll]
  split
  · next h => rw [h]
  · next h => rw [h]

/-- The loop goes on after one more observation when it went on before, and goes on with it. -/
theorem poll_concat_goes {seen : List α} {a : α} {state : σ}
    (h : poll step start (seen ++ [a]) = .goes state) :
    ∃ before, poll step start seen = .goes before ∧ step before a = .goes state := by
  cases hseen : poll step start seen with
  | settles verdict => simp [poll_append_of_settles hseen] at h
  | goes before =>
    rw [poll_append hseen, poll_singleton] at h
    exact ⟨before, rfl, h⟩

/-- An invariant of the turns that go on relates the state to what was observed. -/
theorem poll_invariant {inv : List α → σ → Prop} (hstart : inv [] start)
    (hstep : ∀ seen before a state, inv seen before → step before a = .goes state →
      inv (seen ++ [a]) state)
    {seen : List α} {state : σ} (h : poll step start seen = .goes state) : inv seen state := by
  induction seen using List.reverseRecOn generalizing state with
  | nil =>
    cases h
    exact hstart
  | append_singleton seen a ih =>
    obtain ⟨before, hbefore, hturn⟩ := poll_concat_goes h
    exact hstep seen before a state (ih hbefore) hturn

/-- The observations after which a loop settled, none of which was unnecessary. -/
def Settles (run : List α → Turn σ β) (observed : List α) (verdict : β) : Prop :=
  run observed = .settles verdict ∧
    ∀ shorter, shorter <+: observed → shorter ≠ observed → ∃ state, run shorter = .goes state

/-- A loop settles on its last observation. -/
theorem settles_poll_iff {observed : List α} {verdict : β} :
    Settles (poll step start) observed verdict ↔
      ∃ seen a state, observed = seen ++ [a] ∧ poll step start seen = .goes state ∧
        step state a = .settles verdict := by
  constructor
  · rintro ⟨hsettles, hgoes⟩
    induction observed using List.reverseRecOn with
    | nil => cases hsettles
    | append_singleton seen a _ =>
      obtain ⟨state, hstate⟩ := hgoes seen (List.prefix_append seen [a]) (by simp)
      rw [poll_append hstate, poll_singleton] at hsettles
      exact ⟨seen, a, state, rfl, hstate, hsettles⟩
  · rintro ⟨seen, a, state, rfl, hstate, hturn⟩
    refine ⟨by rw [poll_append hstate, poll_singleton, hturn], ?_⟩
    intro shorter hprefix hne
    have hshort : shorter <+: seen := by
      rcases List.prefix_concat_iff.mp hprefix with heq | hshort
      · exact absurd heq hne
      · exact hshort
    obtain ⟨rest, rfl⟩ := hshort
    cases hrun : poll step start shorter with
    | goes before => exact ⟨before, rfl⟩
    | settles found =>
      rw [poll_append_of_settles hrun] at hstate
      cases hstate

end Polling

end AtlasOS
