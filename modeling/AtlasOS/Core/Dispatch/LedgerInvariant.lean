import AtlasOS.Core.Dispatch.Ledger
import Mathlib.Logic.Relation

/-!
# Rows and trails of the dispatch ledger

A stored row reads as an entry, and the transitions of its request are a trail
to the state of that entry. Every change that a ledger method makes is one of
two kinds: a new row with the first transition of its trail, or a move of a row
that extends its trail. Both keep the database valid.
-/

namespace AtlasOS.Core

open Sqlite Sqlite.Transaction

variable {pd : Pydantic} {py : Python}

/-! ## Rows -/

/-- A row holds an entry. -/
structure Row.Reads (pd : Pydantic) (py : Python) (row : Row) (e : OperationalLedgerEntry) :
    Prop where
  request : pd.validateRequestJson py row.request_json = .ok e.request
  dispatch : readColumn pd.validateDispatchJson row.dispatch_result_json = .ok e.dispatch_result
  verification : readColumn pd.validateVerificationJson row.verification_result_json =
    .ok e.verification_result
  state : row.state = e.state.value
  stored_id : e.request.request_id = row.request_id
  stored_digest : e.request.request_digest = row.request_digest
  bound : ∀ d ∈ e.dispatch_result,
    d.request_id = row.request_id ∧ d.request_digest = row.request_digest
  resulted : e.state ∈ DISPATCH_RESULT_STATES → e.dispatch_result ≠ none
  decided : e.state ∈ [OperationalLedgerState.verified, .verificationFailed] →
    e.verification_result ≠ none
  unverified : e.verification_result ≠ none →
    e.state ∈ [OperationalLedgerState.verified, .verificationFailed, .targetReplaced,
      .outcomeUnknown]
  created : readTime py row.created_at = .ok e.created_at
  updated : readTime py row.updated_at = .ok e.updated_at
  started : readColumn (readTime py) row.dispatch_started_at = .ok e.dispatch_started_at
  request_id : e.request_id = row.request_id
  request_digest : e.request_digest = row.request_digest

theorem read_eq_ok {text : String} {s : OperationalLedgerState} :
    OperationalLedgerState.read text = .ok s ↔ text = s.value := by
  rw [OperationalLedgerState.read, expect_eq_ok]
  constructor
  · exact StrEnum.eq_value_of_ofValue
  · rintro rfl
    exact StrEnum.ofValue_value s

@[simp] theorem read_value (s : OperationalLedgerState) :
    OperationalLedgerState.read s.value = .ok s := read_eq_ok.mpr rfl

/-- The states after which the check of `_entry` asks for a verification result. -/
theorem mem_decided {s : OperationalLedgerState} :
    (s ∈ FINAL_STATES ∧ s ≠ .targetReplaced) ↔
      s ∈ [OperationalLedgerState.verified, .verificationFailed] := by
  cases s <;> simp [FINAL_STATES]

theorem readEntry_eq_ok {row : Row} {e : OperationalLedgerEntry} :
    readEntry pd py row = .ok e ↔ row.Reads pd py e := by
  simp only [readEntry, bind_eq_ok, exists_unit, require_eq_ok, pure_eq_ok, Except.ok.injEq, read_eq_ok,
    Bool.and_eq_true, decide_eq_true_eq, Bool.not_eq_true', Bool.and_eq_false_imp]
  constructor
  · rintro ⟨request, hrequest, dispatch, hdispatch, verification, hverification, state, hstate,
      ⟨hid, hdigest⟩, hbound, hresulted, hdecided, hunverified, created, hcreated, updated,
      hupdated, started, hstarted, rfl⟩
    exact {
      request := hrequest
      dispatch := hdispatch
      verification := hverification
      state := hstate
      stored_id := hid
      stored_digest := hdigest
      bound := by
        intro d hd
        rw [Option.all_eq_true] at hbound
        have hboth := hbound d hd
        simp only [Bool.and_eq_true, decide_eq_true_eq] at hboth
        exact ⟨hboth.1.trans hid, hboth.2.trans hdigest⟩
      resulted := fun h => by
        simpa [Option.isNone_eq_false_iff, Option.isSome_iff_ne_none] using hresulted h
      decided := fun h => by
        obtain ⟨hfinal, hne⟩ := mem_decided.mpr h
        simpa [Option.isNone_eq_false_iff, Option.isSome_iff_ne_none] using
          hdecided ⟨hfinal, hne⟩
      unverified := fun h => by
        have hsome : verification.isSome = true := Option.isSome_iff_ne_none.mpr h
        exact not_not.mp (of_decide_eq_false (hunverified hsome))
      created := hcreated
      updated := hupdated
      started := hstarted
      request_id := rfl
      request_digest := rfl }
  · intro h
    refine ⟨e.request, h.request, e.dispatch_result, h.dispatch, e.verification_result,
      h.verification, e.state, h.state, ⟨h.stored_id, h.stored_digest⟩, ?_, ?_, ?_, ?_,
      e.created_at, h.created, e.updated_at, h.updated, e.dispatch_started_at, h.started, ?_⟩
    · rw [Option.all_eq_true]
      intro d hd
      obtain ⟨hid, hdigest⟩ := h.bound d hd
      simp [hid, hdigest, h.stored_id, h.stored_digest]
    · intro hstate
      simpa [Option.isNone_eq_false_iff, Option.isSome_iff_ne_none] using h.resulted hstate
    · rintro ⟨hfinal, hne⟩
      simpa [Option.isNone_eq_false_iff, Option.isSome_iff_ne_none] using
        h.decided (mem_decided.mp ⟨hfinal, hne⟩)
    · intro hsome
      exact decide_eq_false (not_not.mpr (h.unverified (Option.isSome_iff_ne_none.mp hsome)))
    · rw [← h.request_id, ← h.request_digest]

theorem entry_eq_ok {row : Row} {e : OperationalLedgerEntry} :
    entry pd py row = .ok e ↔ row.Reads pd py e := by
  rw [← readEntry_eq_ok, entry]
  split <;> simp_all

/-- A row that the ledger wrote: it reads, it has a dispatch result exactly after the states
without one, and a running dispatch has a start. -/
structure Row.Valid (pd : Pydantic) (py : Python) (row : Row) (e : OperationalLedgerEntry) :
    Prop where
  reads : row.Reads pd py e
  pending : e.dispatch_result = none ↔ e.state ∈ PRE_RESULT_STATES
  running : e.state = .dispatching → e.dispatch_started_at ≠ none

theorem readColumn_eq_none {α : Type} {load : String → Except PyError α} {column : Option String}
    {value : Option α} (h : readColumn load column = .ok value) :
    value = none ↔ column = none := by
  cases column with
  | none => simp_all [readColumn]
  | some text =>
    cases hload : load text with
    | error e => simp [readColumn, hload, Except.map] at h
    | ok a =>
      simp only [readColumn, hload, Except.map, Except.ok.injEq] at h
      simp [← h]

@[simp] theorem readTime_nowText (now : Fin MAX_MICROS) :
    readTime py (nowText py now) = .ok (.utc now) := by
  simp [readTime, nowText]

/-! ## Trails -/

/-- The transitions of one request, from its claim to a state. -/
inductive Trail (py : Python) (request_id request_digest : String) :
    List TransitionRow → OperationalLedgerState → Prop
  | claimed {sequence : ℤ} (now : Fin MAX_MICROS) :
      Trail py request_id request_digest
        [{ sequence, request_id, request_digest, previous_state := none,
           state := OperationalLedgerState.claimed.value, occurred_at := nowText py now }] .claimed
  | move {rows : List TransitionRow} {previous_state state : OperationalLedgerState}
      {sequence : ℤ} (now : Fin MAX_MICROS)
      (trail : Trail py request_id request_digest rows previous_state)
      (later : ∀ row ∈ rows, row.sequence < sequence)
      (allowed : (some previous_state, state) ∈ ALLOWED_LEDGER_TRANSITIONS) :
      Trail py request_id request_digest
        (rows ++ [{ sequence, request_id, request_digest,
                    previous_state := some previous_state.value, state := state.value,
                    occurred_at := nowText py now }]) state

/-- What the transitions of a trail are read as. -/
structure ReadsAs (py : Python) (request_id request_digest : String) (rows : List TransitionRow)
    (state : OperationalLedgerState) (transitions : List OperationalLedgerTransition) : Prop where
  read : rows.mapM (readTransition py) = .ok transitions
  walked : walkTransitions request_id request_digest none none transitions = some (some state)
  sequences : transitions.map (·.sequence) = rows.map (·.sequence)
  last : transitions.getLast?.map (·.state) = some state

/-- The sequence that the walk compares the next transition with. -/
def lastSequence (previous : Option ℤ) (transitions : List OperationalLedgerTransition) :
    Option ℤ :=
  (transitions.getLast?.map (·.sequence)).or previous

/-- A walk over one more transition is a walk and a step from where it ended. -/
theorem walkTransitions_append {request_id request_digest : String} {sequence : Option ℤ}
    {previous_state : Option OperationalLedgerState}
    {transitions later : List OperationalLedgerTransition} :
    walkTransitions request_id request_digest sequence previous_state (transitions ++ later) =
      (walkTransitions request_id request_digest sequence previous_state transitions).bind
        fun state => walkTransitions request_id request_digest
          (lastSequence sequence transitions) state later := by
  induction transitions generalizing sequence previous_state with
  | nil => simp [walkTransitions, lastSequence]
  | cons transition transitions ih =>
    rw [List.cons_append, walkTransitions, walkTransitions]
    split
    · rfl
    · rw [ih]
      have hlast : lastSequence (some transition.sequence) transitions =
          lastSequence sequence (transition :: transitions) := by
        rw [lastSequence, lastSequence, List.getLast?_cons]
        cases transitions.getLast? <;> rfl
      rw [hlast]

/-- A trail is read as a sequence that the ledger's own check accepts. -/
theorem Trail.readsAs {request_id request_digest : String} {rows : List TransitionRow}
    {state : OperationalLedgerState} (h : Trail py request_id request_digest rows state) :
    ∃ transitions, ReadsAs py request_id request_digest rows state transitions := by
  induction h with
  | @claimed sequence now =>
    refine ⟨[⟨sequence, request_id, request_digest, none, .claimed, .utc now⟩], ?_, ?_, rfl, rfl⟩
    · simp [readTransition, nowText]
    · simp [walkTransitions, ALLOWED_LEDGER_TRANSITIONS]
  | @move rows previous_state state sequence now trail later allowed ih =>
    obtain ⟨transitions, hread, hwalked, hsequences, -⟩ := ih
    refine ⟨transitions ++
      [⟨sequence, request_id, request_digest, some previous_state, state, .utc now⟩], ?_, ?_, ?_, ?_⟩
    · simp [List.mapM_append, hread, readTransition, nowText, Except.map]
    · have hafter : (lastSequence none transitions).any (fun last => sequence ≤ last) = false := by
        cases hlast : transitions.getLast? with
        | none => simp [lastSequence, hlast]
        | some last =>
          have hmem : last.sequence ∈ rows.map (·.sequence) := by
            rw [← hsequences]
            exact List.mem_map_of_mem (List.mem_of_getLast? hlast)
          obtain ⟨row, hrow, hsame⟩ := List.mem_map.mp hmem
          have hlt := later row hrow
          simp only [lastSequence, hlast, Option.map_some, Option.some_or, Option.any_some,
            decide_eq_false_iff_not, not_le]
          omega
      rw [walkTransitions_append, hwalked, Option.bind_some, walkTransitions]
      simp [hafter, allowed, walkTransitions]
    · simp [hsequences]
    · simp

/-- `validate_ledger_transition_sequence` accepts a trail. -/
theorem ReadsAs.valid {request_id request_digest : String} {rows : List TransitionRow}
    {state : OperationalLedgerState} {transitions : List OperationalLedgerTransition}
    (h : ReadsAs py request_id request_digest rows state transitions) :
    validateLedgerTransitionSequence transitions request_id request_digest state = true := by
  obtain ⟨-, hwalked, -, hlast⟩ := h
  unfold validateLedgerTransitionSequence
  split
  · cases hlast
  · rw [hwalked, beq_self_eq_true]

/-! ## Changes -/

/-- The transitions of one request. -/
def Database.trail (db : Database) (request_id : String) : List TransitionRow :=
  db.transitions.filter (·.request_id = request_id)

/-- A database that the ledger wrote. -/
structure Database.Valid (pd : Pydantic) (py : Python) (db : Database) : Prop where
  stored : ∀ id row, db.rows.get id = some row → row.request_id = id ∧
    ∃ e, row.Valid pd py e ∧ Trail py id row.request_digest (db.trail id) e.state
  absent : ∀ id, db.rows.get id = none → db.trail id = []
  sequence : ∀ row ∈ db.transitions, row.sequence < db.next_sequence

/-- What a later version of a row keeps: its identity and the results it has. -/
structure Row.Keeps (row row' : Row) : Prop where
  request_id : row'.request_id = row.request_id
  request_digest : row'.request_digest = row.request_digest
  request_json : row'.request_json = row.request_json
  dispatch : row.dispatch_result_json ≠ none →
    row'.dispatch_result_json = row.dispatch_result_json
  verification : row.verification_result_json ≠ none →
    row'.verification_result_json = row.verification_result_json

theorem Row.Keeps.refl (row : Row) : row.Keeps row := ⟨rfl, rfl, rfl, fun _ => rfl, fun _ => rfl⟩

theorem Row.Keeps.trans {row row' row'' : Row} (h : row.Keeps row') (h' : row'.Keeps row'') :
    row.Keeps row'' where
  request_id := h'.request_id.trans h.request_id
  request_digest := h'.request_digest.trans h.request_digest
  request_json := h'.request_json.trans h.request_json
  dispatch := fun hne => (h'.dispatch (h.dispatch hne ▸ hne)).trans (h.dispatch hne)
  verification := fun hne => (h'.verification (h.verification hne ▸ hne)).trans (h.verification hne)

/-- The changes that the methods make. -/
inductive Change (pd : Pydantic) (py : Python) (db : Database) : Database → Prop
  /-- A new row with the first transition of its trail. -/
  | insert {request : OperationalDispatchRequest} {row : Row} {e : OperationalLedgerEntry}
      (now : Fin MAX_MICROS) (absent : db.rows.get request.request_id = none)
      (identity : row.request_id = request.request_id)
      (same_digest : row.request_digest = request.request_digest)
      (valid : row.Valid pd py e) (claimed : e.state = .claimed) :
      Change pd py db ((db.setRow request.request_id row).addTransition request none .claimed
        (nowText py now))
  /-- A later version of a row with one more transition. -/
  | move {request : OperationalDispatchRequest} {row row' : Row} {e e' : OperationalLedgerEntry}
      (now : Fin MAX_MICROS) (found : db.rows.get request.request_id = some row)
      (same_digest : row.request_digest = request.request_digest) (valid : row.Valid pd py e)
      (valid' : row'.Valid pd py e') (keeps : row.Keeps row')
      (allowed : (some e.state, e'.state) ∈ ALLOWED_LEDGER_TRANSITIONS) :
      Change pd py db ((db.setRow request.request_id row').addTransition request (some e.state)
        e'.state (nowText py now))

/-- An entry is determined by its row. -/
theorem Row.Valid.unique {row : Row} {e e' : OperationalLedgerEntry} (h : row.Valid pd py e)
    (h' : row.Valid pd py e') : e = e' := by
  have hread := readEntry_eq_ok.mpr h.reads
  rw [readEntry_eq_ok.mpr h'.reads] at hread
  exact (Except.ok.inj hread).symm

theorem get_rows_change {db : Database} {request : OperationalDispatchRequest} {row : Row}
    {previous_state : Option OperationalLedgerState} {state : OperationalLedgerState}
    {occurred_at id : String} :
    ((db.setRow request.request_id row).addTransition request previous_state state
      occurred_at).rows.get id = if request.request_id = id then some row else db.rows.get id :=
  Dict.get_set db.rows request.request_id id row

theorem trail_change {db : Database} {request : OperationalDispatchRequest} {row : Row}
    {previous_state : Option OperationalLedgerState} {state : OperationalLedgerState}
    {occurred_at id : String} :
    ((db.setRow request.request_id row).addTransition request previous_state state
      occurred_at).trail id = db.trail id ++
        if request.request_id = id then
          [{ sequence := db.next_sequence, request_id := request.request_id,
             request_digest := request.request_digest,
             previous_state := previous_state.map (·.value), state := state.value, occurred_at }]
        else [] := by
  rw [Database.trail, Database.addTransition, Database.setRow, List.filter_append]
  split
  · next h => simp [Database.trail, h]
  · next h => simp [Database.trail, h]

/-- Appending a transition keeps the sequence increasing. -/
theorem sequence_change {db : Database} (h : ∀ row ∈ db.transitions, row.sequence < db.next_sequence)
    {request : OperationalDispatchRequest} {row : Row}
    {previous_state : Option OperationalLedgerState} {state : OperationalLedgerState}
    {occurred_at : String} :
    ∀ stored ∈ ((db.setRow request.request_id row).addTransition request previous_state state
      occurred_at).transitions, stored.sequence < db.next_sequence + 1 := by
  intro stored hstored
  rcases List.mem_append.mp hstored with hold | hnew
  · have hlt := h stored hold
    omega
  · rw [List.mem_singleton.mp hnew]
    exact Int.lt_succ _

/-- A change keeps a database valid. -/
theorem Change.valid {db db' : Database} (h : Change pd py db db') (hdb : db.Valid pd py) :
    db'.Valid pd py := by
  cases h with
  | @insert request row e now habsent hidentity hdigest hvalid hclaimed =>
    refine ⟨fun id stored hget => ?_, fun id hnone => ?_, sequence_change hdb.sequence⟩
    · rw [get_rows_change] at hget
      rw [trail_change]
      split at hget
      · next hid =>
        obtain rfl : row = stored := Option.some.inj hget
        subst hid
        refine ⟨hidentity, e, hvalid, ?_⟩
        rw [hdb.absent _ habsent, if_pos rfl, hclaimed, hdigest]
        exact .claimed now
      · next hid =>
        rw [if_neg hid, List.append_nil]
        exact hdb.stored id stored hget
    · rw [get_rows_change] at hnone
      rw [trail_change]
      split at hnone
      · cases hnone
      · next hid => rw [if_neg hid, List.append_nil, hdb.absent id hnone]
  | @move request row row' e e' now hfound hdigest hvalid hvalid' hkeeps hallowed =>
    refine ⟨fun id stored hget => ?_, fun id hnone => ?_, sequence_change hdb.sequence⟩
    · rw [get_rows_change] at hget
      rw [trail_change]
      split at hget
      · next hid =>
        obtain rfl : row' = stored := Option.some.inj hget
        subst hid
        obtain ⟨hid, e₀, hvalid₀, htrail⟩ := hdb.stored _ row hfound
        obtain rfl := hvalid.unique hvalid₀
        refine ⟨hkeeps.request_id.trans hid, e', hvalid', ?_⟩
        rw [if_pos rfl, hkeeps.request_digest, ← hdigest]
        refine .move now htrail (fun stored hstored => ?_) hallowed
        exact hdb.sequence stored (List.mem_of_mem_filter hstored)
      · next hid =>
        rw [if_neg hid, List.append_nil]
        exact hdb.stored id stored hget
    · rw [get_rows_change] at hnone
      rw [trail_change]
      split at hnone
      · cases hnone
      · next hid => rw [if_neg hid, List.append_nil, hdb.absent id hnone]

/-- A change keeps the rows that are there. -/
theorem Change.keeps {db db' : Database} (h : Change pd py db db') {id : String} {row : Row}
    (hget : db.rows.get id = some row) :
    ∃ row', db'.rows.get id = some row' ∧ row.Keeps row' := by
  cases h with
  | insert now habsent =>
    rw [get_rows_change]
    split
    · next hid =>
      subst hid
      rw [habsent] at hget
      cases hget
    · exact ⟨row, hget, .refl row⟩
  | @move request row₀ row' e e' now hfound hdigest hvalid hvalid' hkeeps =>
    rw [get_rows_change]
    split
    · next hid =>
      subst hid
      obtain rfl : row₀ = row := Option.some.inj (hfound.symm.trans hget)
      exact ⟨row', rfl, hkeeps⟩
    · exact ⟨row, hget, .refl row⟩

/-- What a sequence of changes keeps. -/
theorem keeps_of_changes {db db' : Database} (h : Relation.ReflTransGen (Change pd py) db db')
    {id : String} {row : Row} (hget : db.rows.get id = some row) :
    ∃ row', db'.rows.get id = some row' ∧ row.Keeps row' := by
  induction h with
  | refl => exact ⟨row, hget, .refl row⟩
  | tail _ hchange ih =>
    obtain ⟨row', hget', hkeeps⟩ := ih
    obtain ⟨row'', hget'', hkeeps'⟩ := hchange.keeps hget'
    exact ⟨row'', hget'', hkeeps.trans hkeeps'⟩

theorem valid_of_changes {db db' : Database} (h : Relation.ReflTransGen (Change pd py) db db')
    (hdb : db.Valid pd py) : db'.Valid pd py := by
  induction h with
  | refl => exact hdb
  | tail _ hchange ih => exact hchange.valid ih

end AtlasOS.Core
