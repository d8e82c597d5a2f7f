import Mathlib.Algebra.BigOperators.Group.List.Basic
import Mathlib.Data.List.Induction
import AtlasOS.Core.Dispatch.Runtime
import AtlasOS.Core.Dispatch.Service

/-!
# Runs of the dispatch service

The barrier of `mark_dispatching` makes one call the owner of a request, so its
handler is called at most once in every run. The owner also decides the outcome
of the request, as long as no other call stores a failure while the dispatch is
running: `_terminal_failure` and `_target_replaced` do not look at the state of
the row before they store their result.
-/

namespace AtlasOS.Core

open Sqlite Sqlite.Transaction Relation

variable {pd : Pydantic} {py : Python} {now : Fin MAX_MICROS} {db db' : Database}
  {request : OperationalDispatchRequest} {id : String}

/-! ## What the ledger does to rows past the barrier -/

/-- The row of a request is past the barrier. -/
def Crossed (pd : Pydantic) (py : Python) (db : Database) (id : String) : Prop :=
  ∃ row e, db.rows.get id = some row ∧ row.Valid pd py e ∧
    e.state ∉ [OperationalLedgerState.claimed, .revalidated]

/-- The row of a request is in dispatch. -/
def Dispatching (pd : Pydantic) (py : Python) (db : Database) (id : String) : Prop :=
  ∃ row e, db.rows.get id = some row ∧ row.Valid pd py e ∧ e.state = .dispatching

theorem Dispatching.crossed (h : Dispatching pd py db id) : Crossed pd py db id := by
  obtain ⟨row, e, hget, hvalid, hstate⟩ := h
  exact ⟨row, e, hget, hvalid, by simp [hstate]⟩

/-- No transition leads back over the barrier. -/
theorem allowed_crossed {previous_state state : OperationalLedgerState}
    (hallowed : (some previous_state, state) ∈ ALLOWED_LEDGER_TRANSITIONS)
    (hprevious : previous_state ∉ [OperationalLedgerState.claimed, .revalidated]) :
    state ∉ [OperationalLedgerState.claimed, .revalidated] := by
  have hall : ∀ step ∈ ALLOWED_LEDGER_TRANSITIONS,
      step.1.all (fun s => decide (s ∉ [OperationalLedgerState.claimed, .revalidated])) = true →
        step.1 ≠ none → step.2 ∉ [OperationalLedgerState.claimed, .revalidated] := by
    decide
  exact hall _ hallowed (by simpa using hprevious) (Option.some_ne_none _)

theorem Change.crossed (h : Change pd py db db') (hid : Crossed pd py db id) :
    Crossed pd py db' id := by
  obtain ⟨row, e, hget, hvalid, hstate⟩ := hid
  cases h with
  | @insert request _ _ now absent =>
    rw [Crossed]
    simp only [get_rows_change]
    by_cases hsame : request.request_id = id
    · rw [← hsame, absent] at hget
      cases hget
    · exact ⟨row, e, by rw [if_neg hsame, hget], hvalid, hstate⟩
  | @move request row₀ row' e₀ e' now found same_digest valid valid' keeps allowed =>
    rw [Crossed]
    simp only [get_rows_change]
    by_cases hsame : request.request_id = id
    · rw [← hsame, found] at hget
      obtain rfl : row₀ = row := Option.some.inj hget
      obtain rfl := valid.unique hvalid
      exact ⟨row', e', if_pos hsame, valid', allowed_crossed allowed hstate⟩
    · exact ⟨row, e, by rw [if_neg hsame, hget], hvalid, hstate⟩

theorem crossed_of_changes (h : Changes pd py db db') (hid : Crossed pd py db id) :
    Crossed pd py db' id := by
  induction h with
  | refl => exact hid
  | tail _ hchange ih => exact hchange.crossed ih

/-- The rows with certain entries stay as they are. -/
def Stable (pd : Pydantic) (py : Python) (P : OperationalLedgerEntry → Prop) (db db' : Database) :
    Prop :=
  ∀ id row e, db.rows.get id = some row → row.Valid pd py e → P e → db'.rows.get id = some row

section Stable

variable {P Q : OperationalLedgerEntry → Prop}

theorem Stable.refl (db : Database) : Stable pd py P db db := fun _ _ _ hget _ _ => hget

theorem Stable.mono (h : Stable pd py Q db db') (hPQ : ∀ e, P e → Q e) : Stable pd py P db db' :=
  fun id row e hget hvalid hP => h id row e hget hvalid (hPQ e hP)

/-- A move of a row with another entry. -/
theorem Stored.stable {row row' : Row} {e : OperationalLedgerEntry}
    (h : Stored pd py db request row e) (hP : ¬ P e)
    {previous_state state : OperationalLedgerState} :
    Stable pd py P db (db.moved py request row' previous_state state now) := by
  intro id row₀ e₀ hget hvalid hP₀
  rw [Database.moved, get_rows_change]
  by_cases hsame : request.request_id = id
  · rw [← hsame, h.found] at hget
    obtain rfl : row = row₀ := Option.some.inj hget
    rw [hvalid.unique h.valid] at hP₀
    exact absurd hP₀ hP
  · rw [if_neg hsame, hget]

theorem Claimed.stable {e : OperationalLedgerEntry} (h : Claimed pd py now request db e db') :
    Stable pd py P db db' := by
  cases h with
  | inserted absent valid =>
    intro id row e hget hvalid hP
    rw [get_rows_change]
    by_cases hsame : request.request_id = id
    · rw [← hsame, absent] at hget
      cases hget
    · rw [if_neg hsame, hget]
  | found => exact .refl db

theorem Advanced.stable {expected target : OperationalLedgerState} {started : Bool}
    {r : OperationalLedgerEntry × Bool}
    (h : Advanced pd py now request db expected target started r db')
    (hP : ∀ e, P e → e.state ≠ expected) : Stable pd py P db db' := by
  cases h with
  | moved stored state => exact stored.stable fun he => hP _ he state
  | kept => exact .refl db

theorem Began.stable {resume_interrupted : Bool} {r : OperationalLedgerEntry × Bool}
    (h : Began pd py now request db resume_interrupted r db')
    (hP : ∀ row e, Stored pd py db request row e → P e → e.verification_result = none →
      e.state ∉ [OperationalLedgerState.succeeded, .outcomeUnknown]) : Stable pd py P db db' := by
  cases h with
  | moved stored unverified state =>
    exact stored.stable fun he => hP _ _ stored he unverified state
  | kept => exact .refl db

theorem Verified.stable {result : OperationalVerificationResult} {e : OperationalLedgerEntry}
    (h : Verified pd py now request db result e db') (hP : ∀ e, P e → e.state ≠ .verifying) :
    Stable pd py P db db' := by
  cases h with
  | replayed => exact .refl db
  | stored stored state => exact stored.stable fun he => hP _ he state

theorem Persisted.stable {result : OperationalDispatchResult} {state : OperationalLedgerState}
    {e : OperationalLedgerEntry} (h : Persisted pd py now request db result state e db')
    (hP : ∀ row e, Stored pd py db request row e → e.state ∈ PRE_RESULT_STATES → ¬ P e) :
    Stable pd py P db db' := by
  cases h with
  | replayed => exact .refl db
  | @stored row e read stored pending => exact stored.stable (hP row e stored pending)

theorem Interrupted.stable {rows : List Row} (h : Interrupted pd py now rows db db')
    (hP : ∀ e, P e → e.state ≠ .dispatching) : Stable pd py P db db' := by
  induction h with
  | nil => exact .refl _
  | cons stored state _ _ _ ih =>
    intro id row e hget hvalid he
    exact ih id row e (stored.stable (fun he => hP _ he state) id row e hget hvalid he) hvalid he

end Stable

/-- Nothing happens to the rows in dispatch. -/
abbrev Calm (pd : Pydantic) (py : Python) : Database → Database → Prop :=
  Stable pd py fun e => e.state = .dispatching

theorem Calm.dispatching (h : Calm pd py db db') (hid : Dispatching pd py db id) :
    Dispatching pd py db' id := by
  obtain ⟨row, e, hget, hvalid, hstate⟩ := hid
  exact ⟨row, e, h id row e hget hvalid hstate, hvalid, hstate⟩

/-- A step before the barrier: the rows past it stay, and rows that change have no result. -/
structure Preliminary (pd : Pydantic) (py : Python) (db db' : Database) : Prop where
  changes : Changes pd py db db'
  stable : Stable pd py (fun e => e.state ∉ [OperationalLedgerState.claimed, .revalidated]) db db'
  resultless : ∀ id row, db'.rows.get id = some row →
    db.rows.get id = some row ∨ row.dispatch_result_json = none

theorem Preliminary.refl (db : Database) : Preliminary pd py db db :=
  ⟨.refl, .refl db, fun _ _ hget => .inl hget⟩

theorem Preliminary.calm (h : Preliminary pd py db db') : Calm pd py db db' :=
  h.stable.mono fun e he => by simp [he]

theorem Claimed.preliminary {e : OperationalLedgerEntry}
    (h : Claimed pd py now request db e db') : Preliminary pd py db db' := by
  refine ⟨h.changes, h.stable, fun id row hget => ?_⟩
  cases h with
  | inserted absent valid =>
    rw [get_rows_change] at hget
    split at hget
    · obtain rfl := Option.some.inj hget
      exact .inr rfl
    · exact .inl hget
  | found => exact .inl hget

theorem Advanced.preliminary {expected target : OperationalLedgerState} {started : Bool}
    (hadvance : Advance expected target started) {r : OperationalLedgerEntry × Bool}
    (h : Advanced pd py now request db expected target started r db') :
    Preliminary pd py db db' := by
  have hexpected : expected ∈ [OperationalLedgerState.claimed, .revalidated] := by
    cases hadvance <;> simp
  refine ⟨h.changes hadvance, h.stable fun e he hstate => he (hstate ▸ hexpected),
    fun id row hget => ?_⟩
  cases h with
  | @moved row₀ e stored state =>
    rw [Database.moved, get_rows_change] at hget
    split at hget
    · obtain rfl := Option.some.inj hget
      have hpre : e.state ∈ PRE_RESULT_STATES := by
        rw [state]
        cases hadvance <;> simp [PRE_RESULT_STATES]
      exact .inr ((readColumn_eq_none stored.valid.reads.dispatch).mp
        (stored.valid.pending.mpr hpre))
    · exact .inl hget
  | kept => exact .inl hget

/-- A result that says that the outcome is unknown. -/
def Unknown (pd : Pydantic) (text : String) : Prop :=
  ∃ result, pd.validateDispatchJson text = .ok result ∧ result.status = .outcomeUnknown

/-- Rows past the barrier keep their result, and gain at most an unknown outcome. -/
def Settles (pd : Pydantic) (py : Python) (db db' : Database) : Prop :=
  ∀ id row, Crossed pd py db id → db.rows.get id = some row →
    ∃ row', db'.rows.get id = some row' ∧
      (row'.dispatch_result_json = row.dispatch_result_json ∨
        ∃ text, row'.dispatch_result_json = some text ∧ Unknown pd text)

theorem Crossed.entry {row : Row} (h : Crossed pd py db id) (hget : db.rows.get id = some row) :
    ∃ e, row.Valid pd py e ∧ e.state ∉ [OperationalLedgerState.claimed, .revalidated] := by
  obtain ⟨row₀, e, hget₀, hvalid, hstate⟩ := h
  obtain rfl : row₀ = row := Option.some.inj (hget₀.symm.trans hget)
  exact ⟨e, hvalid, hstate⟩

/-- A row in dispatch has no result. -/
theorem Row.Valid.result_of_dispatching {row : Row} {e : OperationalLedgerEntry}
    (h : row.Valid pd py e) (hstate : e.state = .dispatching) : row.dispatch_result_json = none := by
  have hpre : e.state ∈ PRE_RESULT_STATES := by simp [hstate, PRE_RESULT_STATES]
  exact (readColumn_eq_none h.reads.dispatch).mp (h.pending.mpr hpre)

theorem Calm.settles (h : Calm pd py db db') (hchanges : Changes pd py db db') :
    Settles pd py db db' := by
  intro id row hcrossed hget
  obtain ⟨e, hvalid, hstate⟩ := hcrossed.entry hget
  by_cases hdispatching : e.state = .dispatching
  · exact ⟨row, h id row e hget hvalid hdispatching, .inl rfl⟩
  · have hpre : e.state ∉ PRE_RESULT_STATES := by
      generalize e.state = state at hstate hdispatching
      cases state <;> simp [PRE_RESULT_STATES] at hstate hdispatching ⊢
    have hresult : row.dispatch_result_json ≠ none := fun hnone =>
      hpre (hvalid.pending.mp ((readColumn_eq_none hvalid.reads.dispatch).mpr hnone))
    obtain ⟨row', hget', hkeeps⟩ := keeps_of_changes hchanges hget
    exact ⟨row', hget', .inl (hkeeps.dispatch hresult)⟩

theorem Settles.trans {db'' : Database} (h : Settles pd py db db') (hchanges : Changes pd py db db')
    (h' : Settles pd py db' db'') : Settles pd py db db'' := by
  intro id row hcrossed hget
  obtain ⟨row', hget', hresult⟩ := h id row hcrossed hget
  obtain ⟨row'', hget'', hresult'⟩ := h' id row' (crossed_of_changes hchanges hcrossed) hget'
  refine ⟨row'', hget'', ?_⟩
  rcases hresult' with hsame | hunknown
  · rw [hsame]
    exact hresult
  · exact .inr hunknown

/-- A restart stores that the outcome is unknown, for every dispatch that was running. -/
theorem Interrupted.settles {rows : List Row} (h : Interrupted pd py now rows db db') :
    Settles pd py db db' := by
  induction h with
  | nil => exact fun id row _ hget => ⟨row, hget, .inl rfl⟩
  | @cons db db' row rows e started_at read stored state loaded alike rest ih =>
    have hstep : Settles pd py db (db.moved py e.request
        (row.finish .outcomeUnknown (pd.dumpDispatch (interruptedResult now row e.request started_at))
          (nowText py now)) e.state .outcomeUnknown now) := by
      intro id row₀ _ hget
      rw [Database.moved]
      simp only [get_rows_change]
      by_cases hsame : e.request.request_id = id
      · exact ⟨_, if_pos hsame, .inr ⟨_, rfl, read, loaded, alike.status⟩⟩
      · exact ⟨row₀, by rw [if_neg hsame, hget], .inl rfl⟩
    have hfirst : Changes pd py db _ :=
      (Interrupted.cons stored state loaded alike .nil).changes
    exact hstep.trans hfirst ih

/-! ## Calls -/

/-- The phases before the barrier. -/
def Phase.waiting : Phase → Bool
  | .start | .refusing _ _ | .resolving _ | .matched _ | .revalidated _ => true
  | _ => false

/-- The phases of an owner that is not finished. -/
def Phase.running : Phase → Bool
  | .crossed _ | .handling _ | .handled _ => true
  | _ => false

/-- What a call can be. -/
structure DispatchCall.WellFormed (c : DispatchCall py) : Prop where
  waiting : c.phase.waiting = true → c.invocations = 0
  crossed : ∀ started_at, c.phase = .crossed started_at → c.invocations = 0
  running : c.phase.running = true → c.owner = true
  once : c.invocations ≤ 1
  invoked : c.invocations ≠ 0 → c.owner = true

/-- What a step of a call does, to the call and to the database. -/
inductive Moved (pd : Pydantic) (db : Database) (c : DispatchCall py) :
    DispatchCall py → Database → Prop
  /-- A step before the barrier. -/
  | before {phase : Phase} {db' : Database} (waiting : c.phase.waiting = true)
      (idle : phase.running = false) (preliminary : Preliminary pd py db db') :
      Moved pd db c { c with phase } db'
  /-- The write of a failure. -/
  | refused {now' : DateTime} {refusal : Refusal} {now : Fin MAX_MICROS}
      {result : OperationalDispatchResult} {state : OperationalLedgerState}
      {e : OperationalLedgerEntry} {reply : Option OperationalDispatchResult} {db' : Database}
      (refusing : c.phase = .refusing now' refusal) (status : result.status = .failed)
      (kind : state ∈ [OperationalLedgerState.failed, .targetReplaced])
      (persisted : Persisted pd py now c.request.toOperationalDispatchRequest db result state e db') :
      Moved pd db c { c with phase := .finished reply } db'
  /-- The step over the barrier. -/
  | crossed {started_at : DateTime} {db' : Database} (waiting : c.phase.waiting = true)
      (fresh : ¬ Crossed pd py db c.request.request_id)
      (preliminary : Preliminary pd py db db')
      (dispatching : Dispatching pd py db' c.request.request_id) :
      Moved pd db c { c with phase := .crossed started_at, owner := true } db'
  /-- The call of the handler. -/
  | called {started_at : DateTime} (crossed : c.phase = .crossed started_at) :
      Moved pd db c { c with phase := .handling started_at, invocations := c.invocations + 1 } db
  /-- The answer of the handler. -/
  | answered {started_at : DateTime} {result : DispatchResult} {returned : Option DispatchResult}
      (handling : c.phase = .handling started_at)
      (result_eq : returned = some result ∨ result.status = .outcomeUnknown) :
      Moved pd db c { c with phase := .handled result, returned } db
  /-- The write of the result. -/
  | stored {result : DispatchResult} {now : Fin MAX_MICROS} {e : OperationalLedgerEntry}
      {reply : Option OperationalDispatchResult} {db' : Database}
      (handled : c.phase = .handled result)
      (persisted : Persisted pd py now c.request.toOperationalDispatchRequest db
        result.toOperationalDispatchResult (resultState result.status) e db') :
      Moved pd db c { c with phase := .finished reply } db'
  /-- The end of a call. -/
  | ended {reply : Option OperationalDispatchResult} :
      Moved pd db c { c with phase := .finished reply } db

theorem running_afterClaim (service : OperationalDispatchService) (request : Request py)
    (input : Input) (entry : OperationalLedgerEntry) :
    (afterClaim service request input entry).running = false := by
  simp only [afterClaim]
  repeat' split
  all_goals rfl

theorem running_afterResolver (request : Request py) (now : DateTime) (input : Input) :
    (afterResolver request now input).running = false := by
  unfold afterResolver
  repeat' split
  all_goals rfl

theorem afterHandler_eq (request : Request py) (started_at : DateTime) (input : Input) :
    input.handler = .returned (afterHandler request started_at input) ∨
      (afterHandler request started_at input).status = .outcomeUnknown := by
  unfold afterHandler
  split
  · next result heq =>
    split
    · exact .inl heq
    · exact .inr rfl
  · exact .inr rfl

/-- The owner's row is in dispatch after the barrier, and was not past it before. -/
theorem Advanced.owner {r : OperationalLedgerEntry × Bool}
    (h : Advanced pd py now request db .revalidated .dispatching true r db') (howner : r.2 = true) :
    ¬ Crossed pd py db request.request_id ∧ Dispatching pd py db' request.request_id := by
  cases h with
  | @moved row e stored state =>
    constructor
    · intro hcrossed
      obtain ⟨e', hvalid, hstate⟩ := hcrossed.entry stored.found
      rw [hvalid.unique stored.valid, state] at hstate
      simp at hstate
    · have hvalid := stored.valid.advance (state ▸ Advance.dispatching) now
      refine ⟨_, _, ?_, hvalid, rfl⟩
      rw [Database.moved, get_rows_change, if_pos rfl]
  | kept => cases howner

/-- Every step of a call is one of these. -/
theorem advance_moved (hdb : db.Valid pd py) (c : DispatchCall py) (input : Input) :
    Moved pd db c (c.advance pd input db).1 (c.advance pd input db).2 := by
  rcases hphase : c.phase with _ | ⟨now, refusal⟩ | now | now | now | started_at | started_at |
    result | reply
  · -- claim
    rw [DispatchCall.advance, hphase]
    have hspec := claim_spec hdb input.ledger_now c.request
    have hwaiting : c.phase.waiting = true := by rw [hphase]; rfl
    dsimp only
    split
    · next entry after hrun =>
      have hclaimed := Spec.outcome hspec hrun
      exact .before hwaiting (running_afterClaim _ _ _ _) hclaimed.preliminary
    · next after hrun =>
      have hsame : after = db := Spec.outcome hspec hrun
      rw [hsame]
      exact .ended
  · -- the write of a failure
    rw [DispatchCall.advance, hphase]
    dsimp only
    rcases hrun : withConnection db input.faults _ with ⟨outcome, after⟩
    have hpersisted := Spec.outcome (persistDispatchResult_spec hdb input.ledger_now
      c.request.toOperationalDispatchRequest
      (c.request.result .failed now (some (.utc input.completed)) refusal.message refusal.exact)
      refusal.state) hrun
    cases outcome with
    | ok entry =>
      exact .refused hphase rfl (by cases refusal <;> simp [Refusal.state]) hpersisted
    | error e =>
      have hsame : after = db := hpersisted
      rw [hsame]
      exact .ended
  · rw [DispatchCall.advance, hphase]
    have hwaiting : c.phase.waiting = true := by rw [hphase]; rfl
    exact .before hwaiting (running_afterResolver _ _ _) (.refl db)
  · -- mark_revalidated
    rw [DispatchCall.advance, hphase]
    have hspec := markRevalidated_spec hdb input.ledger_now c.request.toOperationalDispatchRequest
    have hwaiting : c.phase.waiting = true := by rw [hphase]; rfl
    dsimp only
    split
    · next entry after hrun =>
      obtain ⟨_, hadvanced⟩ := Spec.outcome hspec hrun
      exact .before hwaiting rfl (hadvanced.preliminary .revalidated)
    · next after hrun =>
      have hsame : after = db := Spec.outcome hspec hrun
      rw [hsame]
      exact .ended
  · -- mark_dispatching
    rw [DispatchCall.advance, hphase]
    have hspec := transition_spec hdb input.ledger_now c.request.toOperationalDispatchRequest
      .dispatching
    have hwaiting : c.phase.waiting = true := by rw [hphase]; rfl
    dsimp only
    split
    · next entry owner after hrun =>
      have hadvanced := Spec.outcome hspec hrun
      have hpreliminary := hadvanced.preliminary .dispatching
      split
      · next howner =>
        obtain ⟨hfresh, hdispatching⟩ := hadvanced.owner howner
        exact .crossed hwaiting hfresh hpreliminary hdispatching
      · exact .before hwaiting rfl hpreliminary
    · next after hrun =>
      have hsame : after = db := Spec.outcome hspec hrun
      rw [hsame]
      exact .ended
  · rw [DispatchCall.advance, hphase]
    dsimp only
    split
    · exact .ended
    · exact .called hphase
  · rw [DispatchCall.advance, hphase]
    refine .answered hphase ?_
    rcases afterHandler_eq c.request started_at input with hreturned | hunknown
    · exact .inl (by rw [hreturned])
    · exact .inr hunknown
  · -- the write of the result
    rw [DispatchCall.advance, hphase]
    dsimp only
    split
    · exact .ended
    · rcases hrun : withConnection db input.faults _ with ⟨outcome, after⟩
      have hpersisted := Spec.outcome (persistDispatchResult_spec hdb input.ledger_now
        c.request.toOperationalDispatchRequest result (resultState result.status)) hrun
      cases outcome with
      | ok entry => exact .stored hphase hpersisted
      | error e =>
        have hsame : after = db := hpersisted
        rw [hsame]
        exact .ended
  · rw [DispatchCall.advance, hphase]
    exact .ended

theorem Moved.same_request {c c' : DispatchCall py} (h : Moved pd db c c' db') :
    c'.request = c.request := by
  cases h <;> rfl

theorem Moved.changes (hdb : db.Valid pd py) {c c' : DispatchCall py} (h : Moved pd db c c' db') :
    Changes pd py db db' := by
  cases h with
  | before _ _ preliminary => exact preliminary.changes
  | refused _ _ _ persisted => exact persisted.changes hdb
  | crossed _ _ preliminary => exact preliminary.changes
  | called | answered | ended => exact .refl
  | stored _ persisted => exact persisted.changes hdb

/-- A call ends without a further invocation. -/
theorem DispatchCall.WellFormed.finish {c : DispatchCall py} (h : c.WellFormed)
    (reply : Option OperationalDispatchResult) :
    DispatchCall.WellFormed { c with phase := .finished reply } where
  waiting := nofun
  crossed := nofun
  running := nofun
  once := h.once
  invoked := h.invoked

theorem Moved.wellFormed {c c' : DispatchCall py} (h : Moved pd db c c' db')
    (hc : c.WellFormed) : c'.WellFormed := by
  cases h with
  | before waiting idle =>
    have hzero := hc.waiting waiting
    refine ⟨fun _ => hzero, fun _ _ => hzero, fun hrunning => ?_, hc.once, hc.invoked⟩
    rw [idle] at hrunning
    cases hrunning
  | refused => exact hc.finish _
  | crossed waiting =>
    have hzero := hc.waiting waiting
    exact ⟨nofun, fun _ _ => hzero, fun _ => rfl, hc.once, fun _ => rfl⟩
  | called crossed =>
    have howner : c.owner = true := hc.running (by rw [crossed]; rfl)
    have hzero := hc.crossed _ crossed
    exact ⟨nofun, nofun, fun _ => howner, by simp [hzero], fun _ => howner⟩
  | answered handling =>
    have howner : c.owner = true := hc.running (by rw [handling]; rfl)
    exact ⟨nofun, nofun, fun _ => howner, hc.once, hc.invoked⟩
  | stored => exact hc.finish _
  | ended => exact hc.finish _

/-- A call that becomes the owner finds the row before the barrier and leaves it past it. -/
theorem Moved.owned {c c' : DispatchCall py} (h : Moved pd db c c' db')
    (howner : c'.owner = true) :
    c.owner = true ∨
      (¬ Crossed pd py db c.request.request_id ∧ Crossed pd py db' c.request.request_id) := by
  cases h with
  | crossed _ fresh _ dispatching => exact .inr ⟨fresh, dispatching.crossed⟩
  | before | refused | called | answered | stored | ended => exact .inl howner

/-! ## At most once -/

/-- The invariant of a run: the database is valid, an owner's row is past the barrier, and a
request has one owner. -/
structure World.Valid (pd : Pydantic) (w : World py) : Prop where
  db : w.db.Valid pd py
  calls : ∀ c ∈ w.calls, c.WellFormed
  owned : ∀ c ∈ w.calls, c.owner = true → Crossed pd py w.db c.request.request_id
  single : ∀ (i j : ℕ) (c d : DispatchCall py), w.calls[i]? = some c → w.calls[j]? = some d →
    c.owner = true → d.owner = true → c.request.request_id = d.request.request_id → i = j

/-- A step in which no call becomes an owner keeps the invariant. -/
theorem World.Valid.of_owners {w w' : World py} (h : w.Valid pd)
    (hchanges : Changes pd py w.db w'.db) (hwell : ∀ c' ∈ w'.calls, c'.WellFormed)
    (howners : ∀ (i : ℕ) (c' : DispatchCall py), w'.calls[i]? = some c' → c'.owner = true →
      ∃ c, w.calls[i]? = some c ∧ c.owner = true ∧ c'.request = c.request) : w'.Valid pd where
  db := valid_of_changes hchanges h.db
  calls := hwell
  owned := fun c' hc' howner => by
    obtain ⟨i, hi⟩ := List.mem_iff_getElem?.mp hc'
    obtain ⟨c, hc, howned, hrequest⟩ := howners i c' hi howner
    rw [hrequest]
    exact crossed_of_changes hchanges (h.owned c (List.mem_of_getElem? hc) howned)
  single := fun i j c' d' hi hj hc' hd' hid => by
    obtain ⟨c, hc, howned, hrequest⟩ := howners i c' hi hc'
    obtain ⟨d, hd, howned', hrequest'⟩ := howners j d' hj hd'
    rw [hrequest, hrequest'] at hid
    exact h.single i j c d hc hd howned howned' hid

/-- A call makes a step. -/
theorem World.Valid.advance {w : World py} (h : w.Valid pd) {index : ℕ} {c c' : DispatchCall py}
    (hindex : w.calls[index]? = some c) (hmoved : Moved pd w.db c c' db') :
    World.Valid pd { db := db', calls := w.calls.set index c' } := by
  have hmem : c ∈ w.calls := List.mem_of_getElem? hindex
  have hchanges := hmoved.changes h.db
  have hwell : ∀ d ∈ w.calls.set index c', d.WellFormed := by
    intro d hd
    rcases List.mem_or_eq_of_mem_set hd with hold | rfl
    · exact h.calls d hold
    · exact hmoved.wellFormed (h.calls c hmem)
  have hget (i : ℕ) (d : DispatchCall py) (hd : (w.calls.set index c')[i]? = some d) :
      (i = index ∧ d = c') ∨ (i ≠ index ∧ w.calls[i]? = some d) := by
    by_cases hi : i = index
    · subst hi
      rw [List.getElem?_set_self (List.getElem?_eq_some_iff.mp hindex).1] at hd
      exact .inl ⟨rfl, (Option.some.inj hd).symm⟩
    · rw [List.getElem?_set_ne (Ne.symm hi)] at hd
      exact .inr ⟨hi, hd⟩
  by_cases hsame : c'.owner = true → c.owner = true
  · refine h.of_owners hchanges hwell fun i d hd howner => ?_
    rcases hget i d hd with ⟨rfl, rfl⟩ | ⟨_, hold⟩
    · exact ⟨c, hindex, hsame howner, hmoved.same_request⟩
    · exact ⟨d, hold, howner, rfl⟩
  · -- the call becomes the owner, and no call is the owner yet
    obtain ⟨howner, hnot⟩ := Classical.not_imp.mp hsame
    obtain ⟨hfresh, hcrossed⟩ := (hmoved.owned howner).resolve_left hnot
    have hnone (d : DispatchCall py) (hd : d ∈ w.calls) (howned : d.owner = true) :
        d.request.request_id ≠ c.request.request_id := fun hid =>
      hfresh (hid ▸ h.owned d hd howned)
    refine ⟨valid_of_changes hchanges h.db, hwell, fun d hd howned => ?_,
      fun i j d e hi hj hd he hid => ?_⟩
    · rcases List.mem_or_eq_of_mem_set hd with hold | rfl
      · exact crossed_of_changes hchanges (h.owned d hold howned)
      · rw [hmoved.same_request]
        exact hcrossed
    · rcases hget i d hi with ⟨hi', rfl⟩ | ⟨_, hi'⟩ <;>
        rcases hget j e hj with ⟨hj', rfl⟩ | ⟨_, hj'⟩
      · exact hi'.trans hj'.symm
      · rw [hmoved.same_request] at hid
        exact absurd hid.symm (hnone e (List.mem_of_getElem? hj') he)
      · rw [hmoved.same_request] at hid
        exact absurd hid (hnone d (List.mem_of_getElem? hi') hd)
      · exact h.single i j d e hi' hj' hd he hid

/-- A transaction of the lifecycle service or of the start of Core makes changes. -/
theorem beginVerification_moves (hdb : db.Valid pd py) (now : Fin MAX_MICROS) (faults : List Bool)
    (request : OperationalDispatchRequest) (resume_interrupted : Bool) :
    Changes pd py db
        (withConnection db faults (beginVerification pd py now request resume_interrupted)).2 ∧
      Calm pd py db
        (withConnection db faults (beginVerification pd py now request resume_interrupted)).2 := by
  rcases hrun : withConnection db faults _ with ⟨result, after⟩
  have hbegan := Spec.outcome (beginVerification_spec hdb now request resume_interrupted) hrun
  cases result with
  | ok entry => exact ⟨hbegan.changes, hbegan.stable fun _ e _ he => by simp [he]⟩
  | error e =>
    have hsame : after = db := hbegan
    rw [hsame]
    exact ⟨.refl, .refl db⟩

theorem persistVerificationResult_moves (hdb : db.Valid pd py) (now : Fin MAX_MICROS)
    (faults : List Bool) (request : OperationalDispatchRequest) (result : VerificationResult) :
    Changes pd py db
        (withConnection db faults (persistVerificationResult pd py now request
          result.toOperationalVerificationResult)).2 ∧
      Calm pd py db
        (withConnection db faults (persistVerificationResult pd py now request
          result.toOperationalVerificationResult)).2 := by
  rcases hrun : withConnection db faults _ with ⟨outcome, after⟩
  have hverified := Spec.outcome (persistVerificationResult_spec hdb now request result) hrun
  cases outcome with
  | ok entry => exact ⟨hverified.changes, hverified.stable fun e he => by simp [he]⟩
  | error e =>
    have hsame : after = db := hverified
    rw [hsame]
    exact ⟨.refl, .refl db⟩

theorem reconcileStartup_moves (hdb : db.Valid pd py) (now : Fin MAX_MICROS) (faults : List Bool) :
    Changes pd py db (withConnection db faults (reconcileStartup pd py now)).2 ∧
      Settles pd py db (withConnection db faults (reconcileStartup pd py now)).2 := by
  rcases hrun : withConnection db faults _ with ⟨outcome, after⟩
  have hinterrupted := Spec.outcome (reconcileStartup_spec hdb now) hrun
  cases outcome with
  | ok entry => exact ⟨hinterrupted.changes, hinterrupted.settles⟩
  | error e =>
    have hsame : after = db := hinterrupted
    rw [hsame]
    exact ⟨.refl, fun id row _ hget => ⟨row, hget, .inl rfl⟩⟩

theorem World.Valid.step {w : World py} (h : w.Valid pd) (event : Event py) :
    (w.step pd event).Valid pd := by
  cases event with
  | call service request =>
    refine h.of_owners .refl (fun c hc => ?_) fun i c hi howner => ?_
    · rcases List.mem_append.mp hc with hold | hnew
      · exact h.calls c hold
      · rw [List.mem_singleton.mp hnew]
        exact ⟨fun _ => rfl, nofun, nofun, Nat.zero_le 1, nofun⟩
    · rw [World.step, List.getElem?_append] at hi
      split at hi
      · exact ⟨c, hi, howner, rfl⟩
      · rw [List.getElem?_singleton] at hi
        split at hi
        · obtain rfl := Option.some.inj hi
          cases howner
        · cases hi
  | advance index input =>
    rw [World.step]
    cases hindex : w.calls[index]? with
    | none => exact h
    | some c => exact h.advance hindex (advance_moved h.db c input)
  | cancel index =>
    refine h.of_owners .refl (fun c hc => ?_) fun i c hi howner => ?_
    · obtain ⟨i, hi⟩ := List.mem_iff_getElem?.mp hc
      rw [World.step, List.getElem?_modify] at hi
      obtain ⟨d, hd, rfl⟩ := Option.map_eq_some_iff.mp hi
      have hwell := h.calls d (List.mem_of_getElem? hd)
      split
      · exact hwell.finish none
      · exact hwell
    · rw [World.step, List.getElem?_modify] at hi
      obtain ⟨d, hd, rfl⟩ := Option.map_eq_some_iff.mp hi
      refine ⟨d, hd, ?_, ?_⟩
      · split at howner <;> exact howner
      · split <;> rfl
  | beginVerification now faults request resume_interrupted =>
    have hmoves := beginVerification_moves h.db now faults request resume_interrupted
    exact h.of_owners hmoves.1 h.calls fun i c hi howner => ⟨c, hi, howner, rfl⟩
  | persistVerificationResult now faults request result =>
    have hmoves := persistVerificationResult_moves h.db now faults request result
    exact h.of_owners hmoves.1 h.calls fun i c hi howner => ⟨c, hi, howner, rfl⟩
  | restart now faults =>
    refine h.of_owners (reconcileStartup_moves h.db now faults).1 (fun c hc => ?_)
      fun i c hi howner => ?_
    · obtain ⟨d, hd, rfl⟩ := List.mem_map.mp hc
      exact (h.calls d hd).finish none
    · rw [World.step, List.getElem?_map] at hi
      obtain ⟨d, hd, rfl⟩ := Option.map_eq_some_iff.mp hi
      exact ⟨d, hd, howner, rfl⟩

theorem initial_valid : World.Valid pd (World.initial : World py) where
  db := empty_valid
  calls := fun c hc => absurd hc List.not_mem_nil
  owned := fun c hc => absurd hc List.not_mem_nil
  single := fun i j c d hi => by
    rw [World.initial, List.getElem?_nil] at hi
    cases hi

/-- In a list with at most one positive number, and that at most one, the sum is at most one. -/
theorem sum_le_one {α : Type*} {f : α → ℕ} {l : List α} (hle : ∀ a ∈ l, f a ≤ 1)
    (hsingle : l.Pairwise fun a b => f a = 0 ∨ f b = 0) : (l.map f).sum ≤ 1 := by
  induction l with
  | nil => simp
  | cons a l ih =>
    rw [List.pairwise_cons] at hsingle
    have htail := ih (fun b hb => hle b (List.mem_cons_of_mem a hb)) hsingle.2
    rw [List.map_cons, List.sum_cons]
    by_cases ha : f a = 0
    · omega
    · have hzero : (l.map f).sum = 0 := by
        refine List.sum_eq_zero fun n hn => ?_
        obtain ⟨b, hb, rfl⟩ := List.mem_map.mp hn
        exact (hsingle.1 b hb).resolve_left ha
      have hfirst := hle a List.mem_cons_self
      omega

/-- One owner, one invocation. -/
theorem World.Valid.invocations_le {w : World py} (h : w.Valid pd) (id : String) :
    w.invocations id ≤ 1 := by
  rw [World.invocations]
  refine sum_le_one (fun c hc => (h.calls c (List.mem_filter.mp hc).1).once) ?_
  rw [List.pairwise_filter, List.pairwise_iff_getElem]
  intro i j hi hj hlt hid hid'
  by_contra hboth
  rw [not_or] at hboth
  have howner := (h.calls _ (List.getElem_mem hi)).invoked hboth.1
  have howner' := (h.calls _ (List.getElem_mem hj)).invoked hboth.2
  have hsame := h.single i j _ _ (List.getElem?_eq_getElem hi) (List.getElem?_eq_getElem hj) howner
    howner' ((of_decide_eq_true hid).trans (of_decide_eq_true hid').symm)
  omega

/-! ## The outcome -/

/-- A result that the handler returned, or that says that the outcome is unknown. -/
def Outcome (pd : Pydantic) (c : DispatchCall py) (row : Row) : Prop :=
  ∀ text, row.dispatch_result_json = some text →
    (∃ result, c.returned = some result ∧
      text = pd.dumpDispatch result.toOperationalDispatchResult) ∨ Unknown pd text

/-- A call decides the outcome of its request: until its end the row stays in dispatch without a
result, and a result that is stored after its handler was called is its own or unknown. -/
structure Decides (pd : Pydantic) (db : Database) (c : DispatchCall py) : Prop where
  running : c.phase.running = true → Dispatching pd py db c.request.request_id
  handled : ∀ result, c.phase = .handled result →
    c.returned = some result ∨ result.status = .outcomeUnknown
  outcome : c.invocations ≠ 0 →
    ∃ row, db.rows.get c.request.request_id = some row ∧ Outcome pd c row

/-- A row in dispatch has no result yet. -/
theorem Dispatching.outcome {c : DispatchCall py}
    (h : Dispatching pd py db c.request.request_id) :
    ∃ row, db.rows.get c.request.request_id = some row ∧ Outcome pd c row := by
  obtain ⟨row, e, hget, hvalid, hstate⟩ := h
  refine ⟨row, hget, fun text htext => ?_⟩
  rw [hvalid.result_of_dispatching hstate] at htext
  cases htext

theorem Settles.outcome (h : Settles pd py db db') {c : DispatchCall py}
    (hcrossed : Crossed pd py db c.request.request_id)
    (houtcome : ∃ row, db.rows.get c.request.request_id = some row ∧ Outcome pd c row) :
    ∃ row, db'.rows.get c.request.request_id = some row ∧ Outcome pd c row := by
  obtain ⟨row, hget, hrow⟩ := houtcome
  obtain ⟨row', hget', hresult⟩ := h _ row hcrossed hget
  refine ⟨row', hget', fun text htext => ?_⟩
  rcases hresult with hsame | ⟨stored, hstored, hunknown⟩
  · exact hrow text (hsame ▸ htext)
  · obtain rfl : stored = text := Option.some.inj (hstored.symm.trans htext)
    exact .inr hunknown

/-- A call keeps its decision in a step that leaves the rows in dispatch alone. -/
theorem Decides.calm {c : DispatchCall py} (h : Decides pd db c) (hwell : c.WellFormed)
    (howned : c.owner = true → Crossed pd py db c.request.request_id) (hcalm : Calm pd py db db')
    (hchanges : Changes pd py db db') : Decides pd db' c where
  running := fun hrunning => hcalm.dispatching (h.running hrunning)
  handled := h.handled
  outcome := fun hne =>
    (hcalm.settles hchanges).outcome (howned (hwell.invoked hne)) (h.outcome hne)

/-- A call that ends keeps the outcome. -/
theorem Decides.finish {c : DispatchCall py} (h : Decides pd db c) (hwell : c.WellFormed)
    (howned : c.owner = true → Crossed pd py db c.request.request_id)
    (hsettles : Settles pd py db db') (reply : Option OperationalDispatchResult) :
    Decides pd db' { c with phase := .finished reply } where
  running := nofun
  handled := fun _ hphase => nomatch hphase
  outcome := fun hne => hsettles.outcome (c := c) (howned (hwell.invoked hne)) (h.outcome hne)

/-- After a write by a call, what the row of its request is. -/
theorem Persisted.outcome {result : OperationalDispatchResult}
    {state : OperationalLedgerState} {e : OperationalLedgerEntry}
    (h : Persisted pd py now request db result state e db')
    (hdispatching : Dispatching pd py db request.request_id) :
    ∃ row, db'.rows.get request.request_id = some row ∧
      row.dispatch_result_json = some (pd.dumpDispatch result) := by
  obtain ⟨row₀, e₀, hget, hvalid, hstate⟩ := hdispatching
  cases h with
  | @replayed row _ _ stored held same =>
    obtain rfl : row₀ = row := Option.some.inj (hget.symm.trans stored.found)
    obtain rfl := hvalid.unique stored.valid
    have hnone := (readColumn_eq_none hvalid.reads.dispatch).mpr
      (hvalid.result_of_dispatching hstate)
    rw [held] at hnone
    cases hnone
  | stored => exact ⟨_, by rw [Database.moved, get_rows_change, if_pos rfl], rfl⟩

/-- A write leaves the rows of other requests alone. -/
theorem Persisted.get_of_ne {result : OperationalDispatchResult}
    {state : OperationalLedgerState} {e : OperationalLedgerEntry}
    (h : Persisted pd py now request db result state e db') (hid : request.request_id ≠ id) :
    db'.rows.get id = db.rows.get id := by
  cases h with
  | replayed => rfl
  | stored => rw [Database.moved, get_rows_change, if_neg hid]

/-- Only the row of its request matters to a call. -/
theorem Decides.of_get {c : DispatchCall py} (h : Decides pd db c) (hwell : c.WellFormed)
    (hget : c.owner = true →
      db'.rows.get c.request.request_id = db.rows.get c.request.request_id) :
    Decides pd db' c where
  running := fun hrunning => by
    rw [Dispatching, hget (hwell.running hrunning)]
    exact h.running hrunning
  handled := h.handled
  outcome := fun hne => by
    rw [hget (hwell.invoked hne)]
    exact h.outcome hne

/-- The event stores a failure for a request whose dispatch is running. -/
def World.Preempts (w : World py) : Event py → Prop
  | .advance index _ => ∃ c now refusal row, w.calls[index]? = some c ∧
      c.phase = .refusing now refusal ∧
      w.db.rows.get c.request.request_id = some row ∧
      row.request_digest = c.request.request_digest ∧
      row.state = OperationalLedgerState.dispatching.value
  | _ => False

/-- A failure that the call stores does not meet a running dispatch. -/
def DispatchCall.Safe (pd : Pydantic) (db : Database) (c : DispatchCall py) : Prop :=
  ∀ now refusal, c.phase = .refusing now refusal → ∀ row e,
    Stored pd py db c.request.toOperationalDispatchRequest row e → e.state ≠ .dispatching

theorem World.safe_of_not_preempts {w : World py} {index : ℕ} {input : Input}
    {c : DispatchCall py} (h : ¬ w.Preempts (.advance index input))
    (hindex : w.calls[index]? = some c) : c.Safe pd w.db := by
  intro now refusal hphase row e hstored hstate
  refine h ⟨c, now, refusal, row, hindex, hphase, hstored.found, hstored.same_digest, ?_⟩
  rw [hstored.valid.reads.state, hstate]

/-- The call that moves decides the outcome as before. -/
theorem Decides.moved {c c' : DispatchCall py} (h : Decides pd db c)
    (hmoved : Moved pd db c c' db') (hwell : c.WellFormed)
    (howned : c.owner = true → Crossed pd py db c.request.request_id) : Decides pd db' c' := by
  cases hmoved with
  | @before phase _ waiting idle =>
    refine ⟨fun hrunning => ?_, fun result hphase => ?_, fun hne => ?_⟩
    · rw [idle] at hrunning
      cases hrunning
    · rw [show phase = .handled result from hphase] at idle
      cases idle
    · exact absurd (hwell.waiting waiting) hne
  | refused refusing =>
    exact ⟨nofun, (fun _ hphase => nomatch hphase),
      fun hne => absurd (hwell.waiting (by rw [refusing]; rfl)) hne⟩
  | crossed waiting fresh preliminary dispatching =>
    exact ⟨fun _ => dispatching, (fun _ hphase => nomatch hphase),
      fun hne => absurd (hwell.waiting waiting) hne⟩
  | called crossed =>
    have hdispatching := h.running (by rw [crossed]; rfl)
    exact ⟨fun _ => hdispatching, (fun _ hphase => nomatch hphase),
      fun _ => Dispatching.outcome hdispatching⟩
  | answered handling result_eq =>
    have hdispatching := h.running (by rw [handling]; rfl)
    refine ⟨fun _ => hdispatching, fun result' hphase => ?_, fun _ =>
      Dispatching.outcome hdispatching⟩
    cases hphase
    exact result_eq
  | @stored result now e reply _ handled persisted =>
    refine ⟨nofun, (fun _ hphase => nomatch hphase), fun _ => ?_⟩
    obtain ⟨row, hget, hresult⟩ := persisted.outcome (h.running (by rw [handled]; rfl))
    refine ⟨row, hget, fun text htext => ?_⟩
    obtain rfl := Option.some.inj (hresult.symm.trans htext)
    rcases h.handled result handled with hreturned | hunknown
    · exact .inl ⟨result, hreturned, rfl⟩
    · obtain ⟨read, hread, halike⟩ := pd.validateDispatchJson_dump result
      exact .inr ⟨read, hread, halike.status.trans hunknown⟩
  | ended => exact h.finish hwell howned (fun id row _ hget => ⟨row, hget, .inl rfl⟩) _

/-- A safe step of a call leaves the decision of another call. -/
theorem Decides.other {c c' d : DispatchCall py} (h : Decides pd db d)
    (hmoved : Moved pd db c c' db') (hsafe : c.Safe pd db) (hwell : c.WellFormed)
    (hwell' : d.WellFormed) (howned : d.owner = true → Crossed pd py db d.request.request_id)
    (hne : c.owner = true → d.owner = true → c.request.request_id ≠ d.request.request_id)
    (hdb : db.Valid pd py) : Decides pd db' d := by
  have hchanges := hmoved.changes hdb
  cases hmoved with
  | before _ _ preliminary => exact h.calm hwell' howned preliminary.calm hchanges
  | refused refusing _ _ persisted =>
    exact h.calm hwell' howned (persisted.stable fun row e hstored _ =>
      hsafe _ _ refusing row e hstored) hchanges
  | crossed _ _ preliminary => exact h.calm hwell' howned preliminary.calm hchanges
  | called | answered | ended => exact h
  | stored handled persisted =>
    have howner : c.owner = true := hwell.running (by rw [handled]; rfl)
    exact h.of_get hwell' fun howner' => persisted.get_of_ne (hne howner howner')

/-- A step that does not pre-empt a dispatch keeps the decisions. -/
theorem World.decides_step {w : World py} (hw : w.Valid pd) {event : Event py}
    (hsafe : ¬ w.Preempts event) (h : ∀ c ∈ w.calls, Decides pd w.db c) :
    ∀ c ∈ (w.step pd event).calls, Decides pd (w.step pd event).db c := by
  cases event with
  | call service request =>
    intro c hc
    rcases List.mem_append.mp hc with hold | hnew
    · exact h c hold
    · rw [List.mem_singleton.mp hnew]
      exact ⟨nofun, (fun _ hphase => nomatch hphase), nofun⟩
  | advance index input =>
    rw [World.step]
    cases hindex : w.calls[index]? with
    | none => exact h
    | some c =>
      have hmem := List.mem_of_getElem? hindex
      have hmoved := advance_moved hw.db c input
      intro d hd
      obtain ⟨i, hi⟩ := List.mem_iff_getElem?.mp hd
      by_cases hsame : i = index
      · subst hsame
        dsimp only at hi
        rw [List.getElem?_set_self (List.getElem?_eq_some_iff.mp hindex).1] at hi
        obtain rfl := Option.some.inj hi
        exact (h c hmem).moved hmoved (hw.calls c hmem) (hw.owned c hmem)
      · dsimp only at hi
        rw [List.getElem?_set_ne (Ne.symm hsame)] at hi
        have hmem' := List.mem_of_getElem? hi
        refine (h d hmem').other hmoved (World.safe_of_not_preempts hsafe hindex)
          (hw.calls c hmem) (hw.calls d hmem') (hw.owned d hmem') (fun howner howner' hid => ?_) hw.db
        exact hsame (hw.single i index d c hi hindex howner' howner hid.symm)
  | cancel index =>
    intro c hc
    obtain ⟨i, hi⟩ := List.mem_iff_getElem?.mp hc
    rw [World.step, List.getElem?_modify] at hi
    obtain ⟨d, hd, rfl⟩ := Option.map_eq_some_iff.mp hi
    have hmem := List.mem_of_getElem? hd
    split
    · exact (h d hmem).finish (hw.calls d hmem) (hw.owned d hmem)
        (fun id row _ hget => ⟨row, hget, .inl rfl⟩) none
    · exact h d hmem
  | beginVerification now faults request resume_interrupted =>
    have hmoves := beginVerification_moves hw.db now faults request resume_interrupted
    exact fun c hc => (h c hc).calm (hw.calls c hc) (hw.owned c hc) hmoves.2 hmoves.1
  | persistVerificationResult now faults request result =>
    have hmoves := persistVerificationResult_moves hw.db now faults request result
    exact fun c hc => (h c hc).calm (hw.calls c hc) (hw.owned c hc) hmoves.2 hmoves.1
  | restart now faults =>
    have hmoves := reconcileStartup_moves hw.db now faults
    intro c hc
    obtain ⟨d, hd, rfl⟩ := List.mem_map.mp hc
    exact (h d hd).finish (hw.calls d hd) (hw.owned d hd) hmoves.2 none

/-! ## Runs -/

theorem run_append (events : List (Event py)) (event : Event py) :
    World.run pd (events ++ [event]) = (World.run pd events).step pd event := by
  simp [World.run]

theorem run_valid (events : List (Event py)) : (World.run pd events).Valid pd := by
  induction events using List.reverseRecOn with
  | nil => exact initial_valid
  | append_singleton events event ih =>
    rw [run_append]
    exact ih.step event

/-- No step of the run stores a failure for a request whose dispatch is running. -/
def NoPreemption (pd : Pydantic) (events : List (Event py)) : Prop :=
  ∀ before event after, events = before ++ event :: after → ¬ (World.run pd before).Preempts event

theorem decides_run (events : List (Event py)) (h : NoPreemption pd events) :
    ∀ c ∈ (World.run pd events).calls, Decides pd (World.run pd events).db c := by
  induction events using List.reverseRecOn with
  | nil => exact fun c hc => absurd hc List.not_mem_nil
  | append_singleton events event ih =>
    rw [run_append]
    have hbefore : NoPreemption pd events := fun before event' after heq =>
      h before event' (after ++ [event]) (by rw [heq]; simp)
    exact World.decides_step (run_valid events) (h events event [] rfl) (ih hbefore)

/-- The owners of requests decide their outcomes: the row of a call past the barrier is in
dispatch until the call ends, and after a handler was called the row has no result, the result
that the handler returned or one that says that the outcome is unknown. -/
def World.OwnersDecide (pd : Pydantic) (w : World py) : Prop :=
  ∀ c ∈ w.calls,
    (c.phase.running = true → ∃ row e, w.db.rows.get c.request.request_id = some row ∧
      entry pd py row = .ok e ∧ e.state = .dispatching ∧ e.dispatch_result = none) ∧
    (c.invocations ≠ 0 → ∃ row, w.db.rows.get c.request.request_id = some row ∧ Outcome pd c row)

/-- In every run the handler is called at most once for each request identifier, and when no
step of the run stores a failure for a request whose dispatch is running, the owners of the
requests decide their outcomes. -/
theorem dispatch_once_and_decided (pd : Pydantic) (events : List (Event py)) :
    (∀ id, (World.run pd events).invocations id ≤ 1) ∧
      (NoPreemption pd events → (World.run pd events).OwnersDecide pd) := by
  refine ⟨(run_valid events).invocations_le, fun hsafe c hc => ?_⟩
  have hdecides := decides_run events hsafe c hc
  refine ⟨fun hrunning => ?_, hdecides.outcome⟩
  obtain ⟨row, e, hget, hvalid, hstate⟩ := hdecides.running hrunning
  have hpending : e.state ∈ PRE_RESULT_STATES := by simp [hstate, PRE_RESULT_STATES]
  exact ⟨row, e, hget, entry_eq_ok.mpr hvalid.reads, hstate, hvalid.pending.mpr hpending⟩

/-! ## A pre-empted dispatch -/

/-- What a step takes from outside when nothing fails and the target is found. -/
def Input.at (target : ResolvedOperationalTarget) (now : Fin MAX_MICROS) : Input where
  now := now
  completed := now
  ledger_now := now
  faults := []
  audit_fails := false
  resolver := .resolved target
  handler := .raised

/-- A call dispatches a request and waits for its handler; a second call for the request comes
when the request has expired. -/
def preemptedRun (service : OperationalDispatchService) (request : Request py)
    (target : ResolvedOperationalTarget) (early late : Fin MAX_MICROS) : List (Event py) :=
  [.call service request, .advance 0 (.at target early), .advance 0 (.at target early),
    .advance 0 (.at target early), .advance 0 (.at target early), .advance 0 (.at target early),
    .call service request, .advance 1 (.at target late), .advance 1 (.at target late)]

/-- What a service needs to dispatch a request at a time. -/
structure Ready (service : OperationalDispatchService) (request : Request py)
    (target : ResolvedOperationalTarget) (now : Fin MAX_MICROS) : Prop where
  enabled : request.execution_intent ∈ service.execution_intents
  registered : service.registry request.execution_intent request.provider_id
    request.resource_type = true
  found : targetMatches request.toOperationalDispatchRequest target = true
  live : request.expires_at.le (.utc now) = .ok false

/-- The request is stored in a state. -/
def InState (pd : Pydantic) (py : Python) (db : Database) (request : OperationalDispatchRequest)
    (state : OperationalLedgerState) : Prop :=
  ∃ row e, Stored pd py db request row e ∧ row.request_id = request.request_id ∧ e.state = state

section

variable {service : OperationalDispatchService} {request : Request py}
  {target : ResolvedOperationalTarget} {now' : DateTime}

theorem advance_claim (h : Ready service request target now)
    (habsent : db.rows.get request.request_id = none) :
    ∃ db', DispatchCall.advance pd ⟨service, request, .start, false, 0, none⟩ (.at target now) db =
        (⟨service, request, .resolving (.utc now), false, 0, none⟩, db') ∧
      InState pd py db' request.toOperationalDispatchRequest .claimed := by
  obtain ⟨db', hclaim, hstored⟩ := @claim_new pd py db now request habsent
  refine ⟨db', ?_, _, _, hstored, rfl, rfl⟩
  simp only [DispatchCall.advance, Input.at, hclaim, afterClaim, OperationalLedgerEntry.new, h.live,
    h.enabled, h.registered]
  rfl

/-- A call for a new request that is expired is about to store the failure. -/
theorem advance_expired (habsent : db.rows.get request.request_id = none)
    (hexpired : request.expires_at.le (.utc now) = .ok true) :
    ∃ db', DispatchCall.advance pd ⟨service, request, .start, false, 0, none⟩ (.at target now) db =
        (⟨service, request, .refusing (.utc now) .expired, false, 0, none⟩, db') ∧
      InState pd py db' request.toOperationalDispatchRequest .claimed := by
  obtain ⟨db', hclaim, hstored⟩ := @claim_new pd py db now request habsent
  refine ⟨db', ?_, _, _, hstored, rfl, rfl⟩
  simp only [DispatchCall.advance, Input.at, hclaim, afterClaim, OperationalLedgerEntry.new, hexpired]

theorem advance_resolve (h : Ready service request target now) :
    DispatchCall.advance pd ⟨service, request, .resolving now', false, 0, none⟩ (.at target now) db =
      (⟨service, request, .matched now', false, 0, none⟩, db) := by
  simp only [DispatchCall.advance, Input.at, afterResolver, h.found]
  rfl

theorem advance_revalidate (h : InState pd py db request.toOperationalDispatchRequest .claimed) :
    ∃ db', DispatchCall.advance pd ⟨service, request, .matched now', false, 0, none⟩
        (.at target now) db = (⟨service, request, .revalidated now', false, 0, none⟩, db') ∧
      InState pd py db' request.toOperationalDispatchRequest .revalidated := by
  obtain ⟨row, e, hstored, hrow, hstate⟩ := h
  obtain ⟨db', hmoved, hstored'⟩ := @markRevalidated_moved pd py db _ row e now hstored hstate
  refine ⟨db', ?_, _, _, hstored', hrow, rfl⟩
  simp only [DispatchCall.advance, Input.at, hmoved]

theorem advance_cross (h : InState pd py db request.toOperationalDispatchRequest .revalidated) :
    ∃ db', DispatchCall.advance pd ⟨service, request, .revalidated now', false, 0, none⟩
        (.at target now) db = (⟨service, request, .crossed (.utc now), true, 0, none⟩, db') ∧
      InState pd py db' request.toOperationalDispatchRequest .dispatching := by
  obtain ⟨row, e, hstored, hrow, hstate⟩ := h
  obtain ⟨db', hmoved, hstored'⟩ := @transition_moved pd py db _ row e now _ _ _ .dispatching
    hstored hstate
  refine ⟨db', ?_, _, _, hstored', hrow, rfl⟩
  simp only [DispatchCall.advance, Input.at, markDispatching, hmoved]
  rfl

/-- A call that finds its request expired stores the failure, whatever the state of the row is. -/
theorem advance_refuse {row : Row} {e : OperationalLedgerEntry}
    (hstored : Stored pd py db request.toOperationalDispatchRequest row e)
    (hrow : row.request_id = request.request_id) (hpending : e.state ∈ PRE_RESULT_STATES) :
    ∃ db' row' e' text read, DispatchCall.advance pd
        ⟨service, request, .refusing (.utc now) .expired, false, 0, none⟩ (.at target now) db =
        (⟨service, request, .finished (some read), false, 0, none⟩, db') ∧
      Stored pd py db' request.toOperationalDispatchRequest row' e' ∧
      row'.dispatch_result_json = some text ∧ pd.validateDispatchJson text = .ok read ∧
      e'.dispatch_result = some read ∧ e'.state = .failed ∧ read.status = .failed := by
  let result := request.result .failed (.utc now) (some (.utc now)) Refusal.expired.message
    Refusal.expired.exact
  obtain ⟨read, hread, halike⟩ := pd.validateDispatchJson_dump result
  obtain ⟨db', hpersist, hstored'⟩ := @persistDispatchResult_stored pd py db _ row e now _ _
    .failed hstored hrow hpending (by simp [DISPATCH_RESULT_STATES]) hread halike rfl rfl
  refine ⟨db', _, _, _, read, ?_, hstored', rfl, hread, rfl, rfl, halike.status⟩
  simp only [DispatchCall.advance, Input.at, Refusal.state]
  rw [hpersist]
  rfl

theorem step_advance {w : World py} {index : ℕ} {c c' : DispatchCall py} {input : Input}
    (hindex : w.calls[index]? = some c) (hadvance : c.advance pd input w.db = (c', db')) :
    w.step pd (.advance index input) = ⟨db', w.calls.set index c'⟩ := by
  simp only [World.step, hindex, hadvance]

/-- A call that meets no obstacle reaches its handler. -/
theorem run_dispatch (h : Ready service request target now) :
    ∃ db, World.run pd [.call service request, .advance 0 (.at target now),
        .advance 0 (.at target now), .advance 0 (.at target now), .advance 0 (.at target now),
        .advance 0 (.at target now)] =
      ⟨db, [⟨service, request, .handling (.utc now), true, 1, none⟩]⟩ ∧
      InState pd py db request.toOperationalDispatchRequest .dispatching := by
  have habsent : Database.empty.rows.get request.request_id = none := by simp [Database.empty]
  obtain ⟨db₁, hclaim, hclaimed⟩ := @advance_claim pd py now _ service request target h habsent
  obtain ⟨db₂, hrevalidate, hrevalidated⟩ :=
    @advance_revalidate pd py now _ service request target (.utc now) hclaimed
  obtain ⟨db₃, hcross, hdispatching⟩ :=
    @advance_cross pd py now _ service request target (.utc now) hrevalidated
  refine ⟨db₃, ?_, hdispatching⟩
  have hstart : World.step pd World.initial (.call service request) =
      ⟨.empty, [⟨service, request, .start, false, 0, none⟩]⟩ := rfl
  rw [World.run, List.foldl_cons, hstart, List.foldl_cons, step_advance rfl hclaim,
    List.set_cons_zero, List.foldl_cons, step_advance rfl (advance_resolve h), List.set_cons_zero,
    List.foldl_cons, step_advance rfl hrevalidate, List.set_cons_zero, List.foldl_cons,
    step_advance rfl hcross]
  rfl

/-- The second call stores a failure while the handler of the first runs. -/
theorem run_preempted {early late : Fin MAX_MICROS} (h : Ready service request target early)
    (hlate : request.expires_at.le (.utc late) = .ok true) :
    ∃ db reply row text read, World.run pd (preemptedRun service request target early late) =
        ⟨db, [⟨service, request, .handling (.utc early), true, 1, none⟩,
          ⟨service, request, .finished reply, false, 0, none⟩]⟩ ∧
      db.rows.get request.request_id = some row ∧ row.dispatch_result_json = some text ∧
      pd.validateDispatchJson text = .ok read ∧ read.status = .failed := by
  obtain ⟨db, hrun, row, e, hstored, hrow, hstate⟩ := @run_dispatch pd py early service request target h
  have hpending : e.state ∈ PRE_RESULT_STATES := by simp [hstate, PRE_RESULT_STATES]
  have hnone : e.dispatch_result = none := hstored.valid.pending.mpr hpending
  have hclaim := @claim_found pd py db row e late request hstored
  have hexpired : DispatchCall.advance pd ⟨service, request, .start, false, 0, none⟩
      (.at target late) db =
      (⟨service, request, .refusing (.utc late) .expired, false, 0, none⟩, db) := by
    simp only [DispatchCall.advance, Input.at, hclaim, afterClaim, hnone, hlate]
  obtain ⟨db', row', e', text, read, hrefuse, hstored', htext, hread, -, -, hstatus⟩ :=
    @advance_refuse pd py late db service request target row e hstored hrow hpending
  refine ⟨db', some read, row', text, read, ?_, hstored'.found, htext, hread, hstatus⟩
  have hsplit : preemptedRun service request target early late =
      [.call service request, .advance 0 (.at target early), .advance 0 (.at target early),
        .advance 0 (.at target early), .advance 0 (.at target early),
        .advance 0 (.at target early)] ++
      [.call service request, .advance 1 (.at target late), .advance 1 (.at target late)] := rfl
  rw [World.run] at hrun
  rw [hsplit, World.run, List.foldl_append, hrun, List.foldl_cons, World.step, List.foldl_cons,
    @step_advance pd py _ _ 1 _ _ _ rfl hexpired, List.foldl_cons,
    @step_advance pd py _ _ 1 _ _ _ rfl hrefuse]
  rfl

end

/-- A service that restarts virtual machines. -/
def plainService : OperationalDispatchService := ⟨["restart-service"], fun _ _ _ => true⟩

/-- The virtual machine of the request. -/
def plainTarget : ResolvedOperationalTarget := ⟨"proxmox", "proxmox", "qemu/1", "qemu", "t", none⟩

theorem ready_plain : Ready plainService Request.plain plainTarget ⟨1, by decide⟩ where
  enabled := by decide
  registered := rfl
  found := by decide
  live := by decide

/-- A duplicate call that comes after the expiry of the request stores a failure while the handler
of the first call is still running. -/
theorem not_ownersDecide_preemptedRun : ¬ (World.run Pydantic.plain (preemptedRun plainService
    Request.plain plainTarget ⟨1, by decide⟩ ⟨20, by decide⟩)).OwnersDecide Pydantic.plain := by
  obtain ⟨db, reply, row, text, read, hrun, hget, htext, hread, hstatus⟩ :=
    @run_preempted Pydantic.plain _ _ _ _ _ ⟨20, by decide⟩ ready_plain (by decide)
  rw [hrun]
  intro hdecide
  obtain ⟨row', hget', houtcome⟩ := (hdecide _ List.mem_cons_self).2 Nat.one_ne_zero
  obtain rfl : row = row' := Option.some.inj (hget.symm.trans hget')
  rcases houtcome text htext with ⟨_, hreturned, _⟩ | ⟨read', hread', hunknown⟩
  · cases hreturned
  · obtain rfl : read = read' := Except.ok.inj (hread.symm.trans hread')
    rw [hstatus] at hunknown
    cases hunknown

end AtlasOS.Core
