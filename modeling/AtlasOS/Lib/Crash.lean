import Mathlib.Data.List.Basic
import Mathlib.Tactic.Common

/-!
# Processes that fail and crash

A process makes one call after another on a state that outlives it. Every call
is recorded with the state it leaves, so a run is the list of its calls, and a
crash stops it after any of them. The rules below prove together what holds at
every point of a run and what holds when it returns or raises.
-/

namespace AtlasOS.Crash

variable {κ σ ε ε' α β : Type}

/-- A call of a process, whether it failed, and the state it left. -/
structure Event (κ σ : Type) where
  /-- What was called. -/
  call : κ
  /-- Whether the call raised an error. -/
  failed : Bool
  /-- The state after the call. -/
  state : σ

/-- The state in which a process was started and the calls it has made, oldest first. -/
structure World (κ σ : Type) where
  /-- The state at the start of the process. -/
  start : σ
  /-- The calls made so far. -/
  events : List (Event κ σ)

namespace World

/-- A process that has made no call yet. -/
def fresh (s : σ) : World κ σ := ⟨s, []⟩

/-- The state that the calls made so far have left. -/
def state (w : World κ σ) : σ := (w.events.getLast?.map Event.state).getD w.start

/-- The world after one more call. -/
def record (w : World κ σ) (event : Event κ σ) : World κ σ := ⟨w.start, w.events ++ [event]⟩

@[simp] theorem state_fresh (s : σ) : (fresh s : World κ σ).state = s := rfl

@[simp] theorem events_fresh (s : σ) : (fresh s : World κ σ).events = [] := rfl

@[simp] theorem state_record (w : World κ σ) (event : Event κ σ) :
    (w.record event).state = event.state := by
  simp [state, record]

@[simp] theorem events_record (w : World κ σ) (event : Event κ σ) :
    (w.record event).events = w.events ++ [event] := rfl

/-- The second world continues the first. -/
def Extends (w v : World κ σ) : Prop := w.start = v.start ∧ w.events <+: v.events

theorem Extends.refl (w : World κ σ) : w.Extends w := ⟨rfl, List.prefix_rfl⟩

theorem Extends.trans {u v w : World κ σ} (huv : u.Extends v) (hvw : v.Extends w) : u.Extends w :=
  ⟨huv.1.trans hvw.1, huv.2.trans hvw.2⟩

theorem extends_record (w : World κ σ) (event : Event κ σ) : w.Extends (w.record event) :=
  ⟨rfl, List.prefix_append _ _⟩

theorem Extends.antisymm {v w : World κ σ} (hvw : v.Extends w) (hwv : w.Extends v) : v = w := by
  obtain ⟨start, events⟩ := v
  obtain ⟨start', events'⟩ := w
  obtain ⟨hstart, hevents⟩ := hvw
  cases hstart
  have heq : events = events' := hevents.eq_of_length_le hwv.2.length_le
  rw [heq]

/-- Two worlds that one world continues are comparable. -/
theorem Extends.total {u v w : World κ σ} (huw : u.Extends w) (hvw : v.Extends w) :
    u.Extends v ∨ v.Extends u := by
  rcases List.prefix_or_prefix_of_prefix huw.2 hvw.2 with h | h
  · exact .inl ⟨huw.1.trans hvw.1.symm, h⟩
  · exact .inr ⟨hvw.1.trans huw.1.symm, h⟩

/-- Between a world and the next one there is nothing. -/
theorem extends_record_iff {v w : World κ σ} {event : Event κ σ} :
    v.Extends (w.record event) ↔ v.Extends w ∨ v = w.record event := by
  obtain ⟨start, events⟩ := v
  simp only [Extends, record, List.prefix_concat_iff, mk.injEq]
  tauto

end World

/-- A process: what it returns or raises, and the calls it makes. -/
def Process (κ σ ε α : Type) : Type := World κ σ → Except ε α × World κ σ

namespace Process

/-- The process that returns at once. -/
def done (a : α) : Process κ σ ε α := fun w => (.ok a, w)

/-- The process that raises at once. -/
def raise (e : ε) : Process κ σ ε α := fun w => (.error e, w)

/-- One process after another. -/
def andThen (m : Process κ σ ε α) (next : α → Process κ σ ε β) : Process κ σ ε β := fun w =>
  match m w with
  | (.ok a, w') => next a w'
  | (.error e, w') => (.error e, w')

instance : Monad (Process κ σ ε) where
  pure := done
  bind := andThen

/-- `try: m except error: handler`. -/
def handle (m : Process κ σ ε α) (handler : ε → Process κ σ ε' α) : Process κ σ ε' α := fun w =>
  match m w with
  | (.ok a, w') => (.ok a, w')
  | (.error e, w') => handler e w'

/-- `try: m finally: cleanup`. -/
def ensure (m : Process κ σ ε α) (cleanup : Process κ σ ε Unit) : Process κ σ ε α := fun w =>
  match m w with
  | (.ok a, w') => andThen cleanup (fun _ => done a) w'
  | (.error e, w') => andThen cleanup (fun _ => raise e) w'

/-- One call: it fails as the fault says, and otherwise does what `f` computes. -/
def perform (fault : World κ σ → Option ε) (call : κ) (f : σ → Except ε (α × σ)) :
    Process κ σ ε α := fun w =>
  match fault w with
  | some e => (.error e, w.record ⟨call, true, w.state⟩)
  | none =>
      match f w.state with
      | .ok (a, s) => (.ok a, w.record ⟨call, false, s⟩)
      | .error e => (.error e, w.record ⟨call, true, w.state⟩)

/-- The worlds in which a process that was started in `w` can be stopped. -/
def Interrupted (m : Process κ σ ε α) (w v : World κ σ) : Prop := w.Extends v ∧ v.Extends (m w).2

end Process

open Process

/-- A process after another is stopped in the first one, or after it has returned. -/
theorem Process.Interrupted.of_bind {m : Process κ σ ε α} {next : α → Process κ σ ε β}
    {v w : World κ σ} (hv : Interrupted (m >>= next) w v)
    (hnext : ∀ a u, m w = (.ok a, u) → u.Extends (next a u).2) :
    Interrupted m w v ∨ ∃ a u, m w = (.ok a, u) ∧ Interrupted (next a) u v := by
  obtain ⟨hstart, hend⟩ := hv
  have heq : (m >>= next) w = andThen m next w := rfl
  rw [heq, andThen] at hend
  rcases hm : m w with ⟨e | a, u⟩ <;> rw [hm] at hend
  · exact .inl ⟨hstart, by rw [hm]; exact hend⟩
  · rcases hend.total (hnext a u hm) with hvu | huv
    · exact .inl ⟨hstart, by rw [hm]; exact hvu⟩
    · exact .inr ⟨a, u, rfl, huv, hend⟩

/-- The second world continues the first through states of `S` only. -/
def Reaches (S : σ → Prop) (w u : World κ σ) : Prop :=
  w.Extends u ∧ ∀ v, w.Extends v → v.Extends u → v ≠ w → S v.state

namespace Reaches

variable {S S' : σ → Prop} {u v w : World κ σ}

theorem refl (w : World κ σ) : Reaches S w w :=
  ⟨.refl w, fun _ hw hv hne => (hne (hv.antisymm hw)).elim⟩

theorem trans (hwu : Reaches S w u) (huv : Reaches S u v) : Reaches S w v := by
  refine ⟨hwu.1.trans huv.1, fun x hx hxv hne => ?_⟩
  rcases hxv.total huv.1 with hxu | hux
  · exact hwu.2 x hx hxu hne
  · by_cases heq : x = u
    · exact hwu.2 x hx (heq ▸ .refl _) hne
    · exact huv.2 x hux hxv heq

theorem record {event : Event κ σ} (h : S event.state) : Reaches S w (w.record event) := by
  refine ⟨w.extends_record _, fun v hw hv hne => ?_⟩
  rcases World.extends_record_iff.mp hv with hvw | rfl
  · exact (hne (hvw.antisymm hw)).elim
  · rwa [World.state_record]

theorem mono (h : Reaches S w u) (hS : ∀ s, S s → S' s) : Reaches S' w u :=
  ⟨h.1, fun v hw hv hne => hS _ (h.2 v hw hv hne)⟩

/-- All points are safe when the first one is. -/
theorem state (h : Reaches S w u) (hw : S w.state) (hv : w.Extends v) (hvu : v.Extends u) :
    S v.state := by
  by_cases heq : v = w
  · rwa [heq]
  · exact h.2 v hv hvu heq

end Reaches

/-- Run in `w`, the process passes only through states of `S`, returns with `Q`
and raises with `E`. -/
structure Run (S : σ → Prop) (m : Process κ σ ε α) (w : World κ σ) (Q : α → World κ σ → Prop)
    (E : ε → World κ σ → Prop) : Prop where
  /-- No call of the past is forgotten, and every state on the way is one of `S`. -/
  reaches : Reaches S w (m w).2
  /-- What holds on return. -/
  returns : ∀ a, (m w).1 = .ok a → Q a (m w).2
  /-- What holds when an error is raised. -/
  raises : ∀ e, (m w).1 = .error e → E e (m w).2

namespace Run

variable {S S' : σ → Prop} {w : World κ σ} {Q Q' : α → World κ σ → Prop}
  {E E' : ε → World κ σ → Prop}

/-- A run that is known to return. -/
theorem of_ok {m : Process κ σ ε α} {a : α} {u : World κ σ} (hm : m w = (.ok a, u))
    (hu : Reaches S w u) (hQ : Q a u) : Run S m w Q E := by
  refine ⟨by rwa [hm], ?_, ?_⟩
  · rw [hm]
    rintro _ ⟨⟩
    exact hQ
  · rw [hm]
    rintro _ ⟨⟩

/-- A run that is known to raise. -/
theorem of_error {m : Process κ σ ε α} {e : ε} {u : World κ σ} (hm : m w = (.error e, u))
    (hu : Reaches S w u) (hE : E e u) : Run S m w Q E := by
  refine ⟨by rwa [hm], ?_, ?_⟩
  · rw [hm]
    rintro _ ⟨⟩
  · rw [hm]
    rintro _ ⟨⟩
    exact hE

/-- A run that goes on as another process does from a later world. -/
theorem of_follows {m : Process κ σ ε α} {n : Process κ σ ε α} {u : World κ σ}
    (hm : m w = n u) (hu : Reaches S w u) (h : Run S n u Q E) : Run S m w Q E :=
  ⟨by rw [hm]; exact hu.trans h.reaches, by rw [hm]; exact h.returns, by rw [hm]; exact h.raises⟩

theorem done {a : α} (h : Q a w) : Run S (pure a : Process κ σ ε α) w Q E :=
  of_ok rfl (.refl w) h

theorem raise {e : ε} (h : E e w) : Run S (Process.raise e : Process κ σ ε α) w Q E :=
  of_error rfl (.refl w) h

/-- A weaker conclusion. -/
theorem mono {m : Process κ σ ε α} (h : Run S m w Q E) (hS : ∀ s, S s → S' s)
    (hQ : ∀ a v, w.Extends v → Q a v → Q' a v) (hE : ∀ e v, w.Extends v → E e v → E' e v) :
    Run S' m w Q' E' where
  reaches := h.reaches.mono hS
  returns a ha := hQ a _ h.reaches.1 (h.returns a ha)
  raises e he := hE e _ h.reaches.1 (h.raises e he)

/-- A run that starts in a state of `S` ends in one. -/
theorem state_safe {m : Process κ σ ε α} (h : Run S m w Q E) (hw : S w.state) :
    S (m w).2.state :=
  h.reaches.state hw h.reaches.1 (.refl _)

/-- A run that starts in a state of `S` can only be stopped in one. -/
theorem interrupted {m : Process κ σ ε α} (h : Run S m w Q E) (hw : S w.state) {v : World κ σ}
    (hv : Interrupted m w v) : S v.state :=
  h.reaches.state hw hv.1 hv.2

/-- The rule for a process after another. -/
theorem bind {m : Process κ σ ε α} {next : α → Process κ σ ε β} {R : α → World κ σ → Prop}
    {Q : β → World κ σ → Prop} (h : Run S m w R E)
    (hnext : ∀ a v, w.Extends v → R a v → Run S (next a) v Q E) :
    Run S (m >>= next) w Q E := by
  have heq : (m >>= next) w = andThen m next w := rfl
  obtain ⟨hreach, hreturn, hraise⟩ := h
  rcases hm : m w with ⟨e | a, u⟩ <;> rw [hm] at hreach hreturn hraise
  · exact of_error (by rw [heq, andThen, hm]) hreach (hraise e rfl)
  · exact of_follows (n := next a) (by rw [heq, andThen, hm]) hreach
      (hnext a u hreach.1 (hreturn a rfl))

/-- The rule for an exception handler. -/
theorem handle {m : Process κ σ ε α} {handler : ε → Process κ σ ε' α}
    {E : ε' → World κ σ → Prop} {R : ε → World κ σ → Prop} (h : Run S m w Q R)
    (hhandler : ∀ e v, w.Extends v → R e v → Run S (handler e) v Q E) :
    Run S (m.handle handler) w Q E := by
  obtain ⟨hreach, hreturn, hraise⟩ := h
  rcases hm : m w with ⟨e | a, u⟩ <;> rw [hm] at hreach hreturn hraise
  · have hfollow := hhandler e u hreach.1 (hraise e rfl)
    have hrun : m.handle handler w = handler e u := by rw [Process.handle, hm]
    exact ⟨by rw [hrun]; exact hreach.trans hfollow.reaches, by rw [hrun]; exact hfollow.returns,
      by rw [hrun]; exact hfollow.raises⟩
  · exact of_ok (by rw [Process.handle, hm]) hreach (hreturn a rfl)

/-- The rule for a clean-up that runs in any case. -/
theorem ensure {m : Process κ σ ε α} {cleanup : Process κ σ ε Unit}
    {R : α → World κ σ → Prop} {F : ε → World κ σ → Prop} (h : Run S m w R F)
    (hok : ∀ a v, w.Extends v → R a v → Run S cleanup v (fun _ v' => Q a v') E)
    (herror : ∀ e v, w.Extends v → F e v → Run S cleanup v (fun _ v' => E e v') E) :
    Run S (m.ensure cleanup) w Q E := by
  obtain ⟨hreach, hreturn, hraise⟩ := h
  rcases hm : m w with ⟨e | a, u⟩ <;> rw [hm] at hreach hreturn hraise
  · have hafter : Run S (cleanup >>= fun _ => Process.raise e) u Q E :=
      (herror e u hreach.1 (hraise e rfl)).bind fun _ _ _ hE => Run.raise hE
    exact of_follows (by rw [Process.ensure, hm]; rfl) hreach hafter
  · have hafter : Run S (cleanup >>= fun _ => pure a) u Q E :=
      (hok a u hreach.1 (hreturn a rfl)).bind fun _ _ _ hQ => Run.done hQ
    exact of_follows (by rw [Process.ensure, hm]; rfl) hreach hafter

/-- The rule for one call. -/
theorem perform {fault : World κ σ → Option ε} {call : κ} {f : σ → Except ε (α × σ)}
    (hfault : ∀ e, fault w = some e →
      S w.state ∧ E e (w.record ⟨call, true, w.state⟩))
    (herror : ∀ e, fault w = none → f w.state = .error e →
      S w.state ∧ E e (w.record ⟨call, true, w.state⟩))
    (hok : ∀ a s, fault w = none → f w.state = .ok (a, s) →
      S s ∧ Q a (w.record ⟨call, false, s⟩)) :
    Run S (Process.perform fault call f) w Q E := by
  cases hf : fault w with
  | some e =>
    obtain ⟨hS, hE⟩ := hfault e hf
    exact of_error (by rw [Process.perform, hf]) (.record hS) hE
  | none =>
    cases hresult : f w.state with
    | error e =>
      obtain ⟨hS, hE⟩ := herror e hf hresult
      exact of_error (by rw [Process.perform, hf, hresult]) (.record hS) hE
    | ok result =>
      obtain ⟨hS, hQ⟩ := hok result.1 result.2 hf hresult
      exact of_ok (by rw [Process.perform, hf, hresult]) (.record hS) hQ

/-- The rule for a loop: `J` says what holds after the items already visited. -/
theorem forM {items : List α} {body : α → Process κ σ ε Unit}
    {J : List α → World κ σ → Prop} (hstart : J [] w)
    (hstep : ∀ before a after v, items = before ++ a :: after → w.Extends v → J before v →
      Run S (body a) v (fun _ v' => J (before ++ [a]) v') E) :
    Run S (items.forM body) w (fun _ v => J items v) E := by
  have hloop (rest : List α) : ∀ before v, items = before ++ rest → w.Extends v → J before v →
      Run S (rest.forM body) v (fun _ v' => J items v') E := by
    induction rest with
    | nil =>
      intro before v heq _ hJ
      rw [List.append_nil] at heq
      exact .done (heq ▸ hJ)
    | cons a rest ih =>
      intro before v heq hext hJ
      rw [List.forM_eq_forM, List.forM_cons, ← List.forM_eq_forM]
      refine (hstep before a rest v heq hext hJ).bind fun _ v' hext' hJ' => ?_
      exact ih (before ++ [a]) v' (by simpa using heq) (hext.trans hext') hJ'
  exact hloop items [] w rfl (.refl w) hstart

end Run

end AtlasOS.Crash
