import AtlasOS.Backup.OperationalRows
import AtlasOS.Core.Dispatch.Runtime
import Mathlib.Data.List.Sort

/-!
# The backup tool and the dispatch ledger agree

The backup tool accepts the tables of every ledger that the ledger's operations
can produce, provided that the events appended to it are dated on an aware
clock. Conversely, whatever tables it accepts, the transitions recorded for each
request are a sequence that the ledger's own check accepts.
-/

namespace AtlasOS.Backup

open Core Sqlite Sqlite.Transaction

variable {pd : Pydantic} {py : Python} {json : JsonText pd py}

/-! ## Small rules -/

@[simp] theorem demand_eq_ok {condition : Bool} {message : String} :
    demand condition message = .ok () ↔ condition = true := by
  cases condition <;> simp [demand]

@[simp] theorem demand_true (message : String) : demand true message = .ok () := rfl

/-- The backup tool walks the same graph as the ledger, over texts. -/
theorem ledgerTransitions_eq : LEDGER_TRANSITIONS =
    ALLOWED_LEDGER_TRANSITIONS.map fun pair => (pair.1.map (·.value), pair.2.value) := by
  decide

/-- A state as a column. -/
def stateValue (state : OperationalLedgerState) : Value := .text state.value

theorem stateValue_injective : Function.Injective stateValue := by
  intro a b h
  exact StrEnum.value_injective (Value.text.inj h)

/-- A step out of a known state is a step of the ledger. -/
theorem inLedgerTransitions_iff (previous : Option OperationalLedgerState) {state : Value} :
    inLedgerTransitions (previous.map stateValue) state = true ↔
      ∃ s, state = stateValue s ∧ (previous, s) ∈ ALLOWED_LEDGER_TRANSITIONS := by
  rw [inLedgerTransitions, ledgerTransitions_eq, List.any_map, List.any_eq_true]
  constructor
  · rintro ⟨⟨p, s⟩, hmem, hpair⟩
    simp only [Function.comp_apply, Bool.and_eq_true, decide_eq_true_eq, Option.map_map] at hpair
    have hprevious : previous = p := Option.map_injective stateValue_injective hpair.1
    exact ⟨s, hpair.2, hprevious ▸ hmem⟩
  · rintro ⟨s, rfl, hmem⟩
    refine ⟨(previous, s), hmem, ?_⟩
    have hsame : stateValue = Value.text ∘ OperationalLedgerState.value := rfl
    simp [hsame]

/-- A walk over more transitions goes on from where the first ones ended. -/
theorem walkHistory_append {request_digest : Value} {previous : Option Value}
    {transitions later : List TransitionColumns} :
    walkHistory request_digest previous (transitions ++ later) =
      walkHistory request_digest previous transitions >>= fun state =>
        walkHistory request_digest state later := by
  induction transitions generalizing previous with
  | nil => rw [List.nil_append, walkHistory, ok_bind]
  | cons transition transitions ih =>
    rw [List.cons_append, walkHistory, walkHistory]
    cases hstep : demand _ _ with
    | error e => simp
    | ok => simp [ih]

/-! ## The tables of a ledger -/

/-- The history of a request is numbered upwards, whatever the tables hold. -/
theorem Tables.history_ordered (t : Tables) (request_id : Option Value) :
    (t.history request_id).Pairwise (fun a b => a.sequence < b.sequence) := by
  have hsorted : (t.history request_id).Pairwise (fun a b => a.sequence ≤ b.sequence) :=
    List.pairwise_insertionSort (fun a b : TransitionColumns => a.sequence ≤ b.sequence) _
  have hkeys : (t.history request_id).Pairwise (fun a b => a.sequence ≠ b.sequence) := by
    have hall : t.transitions.Pairwise (fun a b => a.sequence ≠ b.sequence) :=
      List.pairwise_map.mp t.primary_key
    exact (hall.filter _).perm (List.perm_insertionSort _ _).symm fun hne => hne.symm
  exact (hsorted.and hkeys).imp fun hboth => lt_of_le_of_ne hboth.1 hboth.2

/-- A row of the ledger as columns. -/
def RequestColumns.of (row : Row) : RequestColumns where
  request_id := some (.text row.request_id)
  request_digest := .text row.request_digest
  state := .text row.state
  request_json := .text row.request_json
  created_at := .text row.created_at
  updated_at := .text row.updated_at
  dispatch_started_at := row.dispatch_started_at.map .text
  dispatch_result_json := row.dispatch_result_json.map .text
  verification_result_json := row.verification_result_json.map .text

/-- A transition as columns. -/
def TransitionColumns.of (row : TransitionRow) : TransitionColumns where
  sequence := row.sequence
  request_id := .text row.request_id
  request_digest := .text row.request_digest
  previous_state := row.previous_state.map .text
  state := .text row.state
  occurred_at := .text row.occurred_at

/-- An event as columns. -/
def EventColumns.of (row : EventRow) : EventColumns where
  event_id := some (.text row.event_id)
  status := .text row.status
  occurred_at := .text row.occurred_at
  event_json := .text row.event_json

/-- The tables hold the contents of a ledger, in whatever order the rows are listed. -/
structure Tables.Holds (t : Tables) (db : AuditDatabase) : Prop where
  requests : t.requests.Perm (db.ledger.rows.items.map fun entry => .of entry.2)
  transitions : t.transitions.Perm (db.ledger.transitions.map .of)
  events : t.events.Perm (db.events.items.map fun entry => .of entry.2)

/-- Tables that hold a ledger, row by row. -/
theorem exists_holds {db : AuditDatabase} (h : db.ledger.Ordered) : ∃ t : Tables, t.Holds db := by
  have hkeys : ((db.ledger.transitions.map TransitionColumns.of).map (·.sequence)).Nodup := by
    rw [List.map_map]
    exact List.pairwise_map.mpr (h.imp fun hlt => ne_of_lt hlt)
  exact ⟨⟨_, _, _, hkeys⟩, ⟨.refl _, .refl _, .refl _⟩⟩

/-- The transitions of a trail are numbered upwards. -/
theorem ordered_of_trail {request_id request_digest : String} {rows : List TransitionRow}
    {state : OperationalLedgerState} (h : Trail py request_id request_digest rows state) :
    rows.Pairwise (fun a b => a.sequence < b.sequence) := by
  induction h with
  | claimed => exact List.pairwise_singleton _ _
  | move now trail later allowed ih =>
    refine List.pairwise_append.mpr ⟨ih, List.pairwise_singleton _ _, fun a ha b hb => ?_⟩
    rw [List.mem_singleton.mp hb]
    exact later a ha

theorem ne_nil_of_trail {request_id request_digest : String} {rows : List TransitionRow}
    {state : OperationalLedgerState} (h : Trail py request_id request_digest rows state) :
    rows ≠ [] := by
  induction h with
  | claimed => exact List.cons_ne_nil _ _
  | move => simp

/-- The tool finds the transitions of a trail in order. -/
theorem Tables.Holds.history {t : Tables} {db : AuditDatabase} (h : t.Holds db)
    {request_id : String} (hordered : (db.ledger.trail request_id).Pairwise
      (fun a b => a.sequence < b.sequence)) :
    t.history (some (.text request_id)) = (db.ledger.trail request_id).map .of := by
  have hperm : (t.history (some (.text request_id))).Perm
      ((db.ledger.trail request_id).map .of) := by
    refine (List.perm_insertionSort _ _).trans ((h.transitions.filter _).trans ?_)
    rw [List.filter_map, Database.trail]
    have hsame : ((fun row : TransitionColumns =>
        decide (some row.request_id = some (.text request_id))) ∘ TransitionColumns.of) =
          fun row => decide (row.request_id = request_id) := by
      funext row
      simp [TransitionColumns.of]
    rw [hsame]
  have hmapped : ((db.ledger.trail request_id).map TransitionColumns.of).Pairwise
      (fun a b => a.sequence < b.sequence) := List.pairwise_map.mpr hordered
  exact hperm.eq_of_pairwise (fun a b _ _ hab hba => absurd hab (lt_asymm hba))
    (t.history_ordered _) hmapped

/-- A trail is walked to its state. -/
theorem walkHistory_of_trail {request_id request_digest : String} {rows : List TransitionRow}
    {state : OperationalLedgerState} (h : Trail py request_id request_digest rows state) :
    walkHistory (.text request_digest) none (rows.map .of) = .ok (some (stateValue state)) := by
  induction h with
  | claimed =>
    have hstep : inLedgerTransitions none (stateValue .claimed) = true :=
      (inLedgerTransitions_iff none).mpr ⟨.claimed, rfl, by simp [ALLOWED_LEDGER_TRANSITIONS]⟩
    rw [stateValue] at hstep
    simp [walkHistory, TransitionColumns.of, stateValue, hstep]
  | @move rows previous_state state sequence now trail later allowed ih =>
    have hstep : inLedgerTransitions (some (stateValue previous_state)) (stateValue state) = true :=
      (inLedgerTransitions_iff (some previous_state)).mpr ⟨state, rfl, allowed⟩
    rw [stateValue, stateValue] at hstep
    rw [List.map_append, walkHistory_append, ih, ok_bind]
    simp [walkHistory, TransitionColumns.of, stateValue, hstep]

/-! ## Every ledger is accepted -/

/-- The time of an event is aware, has an offset in whole minutes and exists in UTC. -/
structure Timed (event : OperationalDispatchAuditEvent) : Prop where
  aware : event.occurred_at.offset.isSome = true
  minutes : wholeMinutes event.occurred_at = true
  reading : ∃ reading, astimezoneUtc event.occurred_at = .ok reading

theorem astimezoneUtc_utc (now : Fin MAX_MICROS) : astimezoneUtc (.utc now) = .ok now := by
  have hinstant : (DateTime.utc now).instant + 86400000000 = now.val := by
    simp [DateTime.instant, DateTime.utc]
  have hbound := now.isLt
  rw [astimezoneUtc, dif_pos (by rw [hinstant]; omega)]
  simp [hinstant]

/-- The events that `reconcile_startup` writes are dated by the UTC clock. -/
theorem timed_reconciledEvent (now : Fin MAX_MICROS) (request : OperationalDispatchRequest)
    (event_id : String) (status : OperationalDispatchAuditStatus) :
    Timed (reconciledEvent now request event_id status) where
  aware := rfl
  minutes := rfl
  reading := ⟨now, astimezoneUtc_utc now⟩

/-- A text that is read as a timestamp at the same instant is parsed to it. -/
theorem parseOperationalTimestamp_same {text : String} {t t' : DateTime}
    (hread : py.fromisoformat text = some t') (hsame : t'.same t = true)
    (haware : t.offset.isSome = true) :
    parseOperationalTimestamp py (some text) = astimezoneUtc t := by
  simp only [DateTime.same, Bool.and_eq_true, decide_eq_true_eq] at hsame
  have hoffset : t'.offset.isNone = false := by
    rw [Option.isNone_eq_false_iff, hsame.1, haware]
  simp [parseOperationalTimestamp, hread, hoffset, astimezoneUtc, hsame.2]

/-- A row that the ledger wrote for such an event is consistent. -/
theorem validateEvent_row {event : OperationalDispatchAuditEvent} (h : Timed event) :
    validateEvent json (.of (event.row json)) = .ok () := by
  obtain ⟨haware, hminutes, reading, hreading⟩ := h
  obtain ⟨t', hread, hsame⟩ := json.fromisoformat_jsonTime _ hminutes
  have hjson := parseOperationalTimestamp_same hread hsame haware
  have hcolumn := parseOperationalTimestamp_same
    (Python.fromisoformat_isoformat py event.occurred_at) (by simp [DateTime.same]) haware
  have hload : loadColumn json (.text (json.dumpEvent event)) =
      .ok (.obj (eventFields json.jsonTime event)) := by
    rw [loadColumn, json.loads_dumpEvent]
    rfl
  have hid : Fields.get (eventFields json.jsonTime event) "event_id" = .str event.event_id := by
    simp [eventFields]
  have hstatus : Fields.get (eventFields json.jsonTime event) "status" =
      .str (StrEnum.value event.status) := by
    simp [eventFields]
  have htime : Fields.get (eventFields json.jsonTime event) "occurred_at" =
      .str (json.jsonTime event.occurred_at) := by
    simp [eventFields]
  simp [validateEvent, EventColumns.of, OperationalDispatchAuditEvent.row, hload, hid, hstatus,
    htime, Value.equals, Value.text?, hjson, hcolumn, hreading]

/-- A row that the ledger wrote for an event on a naive clock is not. -/
theorem validateEvent_naive {event : OperationalDispatchAuditEvent}
    (h : event.occurred_at.offset = none) :
    validateEvent json (.of (event.row json)) ≠ .ok () := by
  intro haccepted
  obtain ⟨value, -, hvalue⟩ := bind_eq_ok.mp haccepted
  cases value with
  | obj fields =>
    obtain ⟨-, hvalue⟩ := check_bind_eq_ok.mp hvalue
    obtain ⟨occurred_at, -, hvalue⟩ := bind_eq_ok.mp hvalue
    obtain ⟨stored, hstored, -⟩ := bind_eq_ok.mp hvalue
    simp [EventColumns.of, OperationalDispatchAuditEvent.row, Value.text?,
      parseOperationalTimestamp, h] at hstored
  | _ => simp [demand] at hvalue

/-- The JSON of a request is consistent with its row. -/
theorem validateRequestIdentity_row {row : Row} (h : row.Dumped pd) :
    validateRequestIdentity json (.of row) = .ok () := by
  obtain ⟨r, hjson, hid, hdigest⟩ := h.request
  have hload : loadColumn json (.text row.request_json) =
      .ok (.obj (requestFields json.jsonTime r)) := by
    rw [loadColumn, hjson, json.loads_dumpRequest]
    rfl
  have hget : Fields.get (requestFields json.jsonTime r) "request_id" = .str row.request_id ∧
      Fields.get (requestFields json.jsonTime r) "request_digest" = .str row.request_digest := by
    simp [requestFields, hid, hdigest]
  have hkeys : hasKeys REQUEST_KEYS (requestFields json.jsonTime r) = true := by
    simp [hasKeys, REQUEST_KEYS, Fields.keys, requestFields]
  simp [validateRequestIdentity, RequestColumns.of, hload, hget, hkeys, Value.equals]

/-- The stored dispatch result of a row is consistent with it. -/
theorem dispatch_accepted (json : JsonText pd py) {row : Row} (h : row.Dumped pd) :
    ∃ result, loadResult json (row.dispatch_result_json.map .text) = .ok result ∧
      (result.isNone = true ↔ row.dispatch_result_json = none) ∧
      result.toList.forM (validateDispatchIdentity (.of row)) = .ok () := by
  cases htext : row.dispatch_result_json with
  | none => exact ⟨none, rfl, by simp, rfl⟩
  | some text =>
    obtain ⟨r, rfl, hid, hdigest⟩ := h.dispatch text htext
    refine ⟨some (dispatchFields json.jsonTime r), ?_, by simp, ?_⟩
    · simp [loadResult, loadColumn, json.loads_dumpDispatch, Except.mapError]
    · rw [forM_eq_ok]
      intro fields hfields
      obtain rfl : fields = dispatchFields json.jsonTime r := by simpa using hfields
      have hget : Fields.get (dispatchFields json.jsonTime r) "request_id" = .str row.request_id ∧
          Fields.get (dispatchFields json.jsonTime r) "request_digest" = .str row.request_digest ∧
          Fields.get (dispatchFields json.jsonTime r) "status" = .str (StrEnum.value r.status) := by
        simp [dispatchFields, hid, hdigest]
      have hstatus : jsonIn (.str (StrEnum.value r.status))
          ["succeeded", "failed", "outcome_unknown"] = .ok true := by
        cases r.status <;> rfl
      have hkeys : hasKeys ["target_fingerprint", "started_at"]
          (dispatchFields json.jsonTime r) = true := by
        simp [hasKeys, Fields.keys, dispatchFields]
      simp [validateDispatchIdentity, RequestColumns.of, hget, hstatus, hkeys, Value.equals]

/-- The stored verification result of a row is consistent with it. -/
theorem verification_accepted (json : JsonText pd py) {row : Row} (h : row.Dumped pd) :
    ∃ result, loadResult json (row.verification_result_json.map .text) = .ok result ∧
      (result.isNone = true ↔ row.verification_result_json = none) ∧
      result.toList.forM (validateVerificationIdentity (.of row)) = .ok () := by
  cases htext : row.verification_result_json with
  | none => exact ⟨none, rfl, by simp, rfl⟩
  | some text =>
    obtain ⟨r, rfl, hid⟩ := h.verification text htext
    refine ⟨some (verificationFields json.jsonTime r), ?_, by simp, ?_⟩
    · simp [loadResult, loadColumn, json.loads_dumpVerification, Except.mapError]
    · rw [forM_eq_ok]
      intro fields hfields
      obtain rfl : fields = verificationFields json.jsonTime r := by simpa using hfields
      have hget : Fields.get (verificationFields json.jsonTime r) "request_id" =
            .str row.request_id ∧
          Fields.get (verificationFields json.jsonTime r) "status" =
            .str (StrEnum.value r.status) := by
        simp [verificationFields, hid]
      have hstatus : jsonIn (.str (StrEnum.value r.status))
          ["succeeded", "verification_failed", "outcome_unknown", "target_replaced"] =
            .ok true := by
        cases r.status <;> rfl
      have hkeys : hasKeys ["started_at", "completed_at", "deadline"]
          (verificationFields json.jsonTime r) = true := by
        simp [hasKeys, Fields.keys, verificationFields]
      simp [validateVerificationIdentity, RequestColumns.of, hget, hstatus, hkeys, Value.equals]

/-- The state of a row is among some states. -/
theorem isIn_value (state : OperationalLedgerState) (states : List OperationalLedgerState) :
    Value.isIn (.text state.value) (states.map (·.value)) = decide (state ∈ states) := by
  rw [Value.isIn, List.any_map]
  induction states with
  | nil => simp
  | cons s states ih =>
    have hsame : (decide (Value.text state.value = .text s.value)) = decide (state = s) :=
      decide_eq_decide.mpr (stateValue_injective.eq_iff (a := state) (b := s))
    simp only [List.any_cons, ih, List.mem_cons, Bool.decide_or, Function.comp_apply, hsame]

/-- A row that the ledger wrote, with its trail, is consistent. -/
theorem validateRequest_row {t : Tables} {row : Row} {e : OperationalLedgerEntry}
    {rows : List TransitionRow} (hdumped : row.Dumped pd) (hvalid : row.Valid pd py e)
    (htrail : Trail py row.request_id row.request_digest rows e.state)
    (hhistory : t.history (some (.text row.request_id)) = rows.map .of) :
    validateRequest json t (.of row) = .ok () := by
  obtain ⟨dispatch, hdispatch, hdispatchNone, hdispatchOk⟩ := dispatch_accepted json hdumped
  obtain ⟨verification, hverification, hverificationNone, hverificationOk⟩ :=
    verification_accepted json hdumped
  have hcolumn : dispatch.isNone = e.dispatch_result.isNone := by
    rw [Bool.eq_iff_iff, hdispatchNone, Option.isNone_iff_eq_none]
    exact (readColumn_eq_none hvalid.reads.dispatch).symm
  have hcolumn' : verification.isNone = e.verification_result.isNone := by
    rw [Bool.eq_iff_iff, hverificationNone, Option.isNone_iff_eq_none]
    exact (readColumn_eq_none hvalid.reads.verification).symm
  have hresulted : (Value.isIn (.text e.state.value) DISPATCH_RESULT_TEXTS &&
      e.dispatch_result.isNone) = false := by
    have htexts : DISPATCH_RESULT_TEXTS = DISPATCH_RESULT_STATES.map (·.value) := rfl
    rw [htexts, isIn_value, Bool.and_eq_false_imp, decide_eq_true_eq]
    intro hmem
    exact Option.isNone_eq_false_iff.mpr (Option.isSome_iff_ne_none.mpr (hvalid.reads.resulted hmem))
  have hdecided : (Value.isIn (.text e.state.value) (FINAL_TEXTS.filter (· ≠ "target_replaced")) &&
      e.verification_result.isNone) = false := by
    have htexts : FINAL_TEXTS.filter (· ≠ "target_replaced") =
        [OperationalLedgerState.verified, .verificationFailed].map (·.value) := by decide
    rw [htexts, isIn_value, Bool.and_eq_false_imp, decide_eq_true_eq]
    intro hmem
    exact Option.isNone_eq_false_iff.mpr (Option.isSome_iff_ne_none.mpr (hvalid.reads.decided hmem))
  have hunverified : (!e.verification_result.isNone &&
      !Value.isIn (.text e.state.value) VERIFICATION_RESULT_TEXTS) = false := by
    have htexts : VERIFICATION_RESULT_TEXTS = [OperationalLedgerState.verified,
        .verificationFailed, .targetReplaced, .outcomeUnknown].map (·.value) := rfl
    rw [htexts, isIn_value, Bool.and_eq_false_imp, Bool.not_eq_true', Bool.not_eq_false',
      decide_eq_true_eq]
    intro hsome
    exact hvalid.reads.unverified (Option.isSome_iff_ne_none.mp (Option.isNone_eq_false_iff.mp hsome))
  have hsome : verification.isSome = !e.verification_result.isNone := by
    rw [← hcolumn']
    cases verification <;> rfl
  rw [validateRequest, validateRequestIdentity_row hdumped, ok_bind]
  simp only [RequestColumns.of] at hdispatchOk hverificationOk ⊢
  rw [hdispatch, ok_bind, hverification, ok_bind, hdispatchOk, ok_bind, hverificationOk, ok_bind,
    hhistory, walkHistory_of_trail htrail]
  simp only [hvalid.reads.state, hcolumn, hcolumn', hsome, hresulted, hdecided, hunverified]
  simp [ne_nil_of_trail htrail, stateValue]

/-- The tool accepts the tables of a ledger whose events are timed. -/
theorem validateOperationalRows_of_valid {db : AuditDatabase} (hdb : db.Valid json Timed)
    {t : Tables} (ht : t.Holds db) : validateOperationalRows json t = .ok () := by
  have horphans : t.orphans = [] := by
    rw [Tables.orphans, List.filter_eq_nil_iff]
    intro columns hcolumns
    obtain ⟨transition, htransition, rfl⟩ := List.mem_map.mp (ht.transitions.mem_iff.mp hcolumns)
    obtain ⟨row, hget⟩ : ∃ row, db.ledger.rows.get transition.request_id = some row := by
      refine Option.ne_none_iff_exists'.mp fun hnone => ?_
      have hmem : transition ∈ db.ledger.trail transition.request_id :=
        List.mem_filter.mpr ⟨htransition, decide_eq_true rfl⟩
      rw [hdb.ledger.absent _ hnone] at hmem
      cases hmem
    obtain ⟨hid, -⟩ := hdb.ledger.stored _ _ hget
    have hrequest : RequestColumns.of row ∈ t.requests :=
      ht.requests.mem_iff.mpr (List.mem_map.mpr ⟨(_, row), Dict.mem_items.mpr hget, rfl⟩)
    simp only [Bool.not_eq_true', Bool.not_eq_false, List.any_eq_true, decide_eq_true_eq]
    exact ⟨_, hrequest, by simp [RequestColumns.of, TransitionColumns.of, hid]⟩
  have hevents : t.events.forM (validateEvent json) = .ok () := by
    rw [forM_eq_ok]
    intro columns hcolumns
    obtain ⟨⟨id, stored⟩, hentry, rfl⟩ := List.mem_map.mp (ht.events.mem_iff.mp hcolumns)
    obtain ⟨event, htimed, rfl⟩ := hdb.logged id stored (Dict.mem_items.mp hentry)
    exact validateEvent_row htimed
  have hrequests : t.requests.forM (validateRequest json t) = .ok () := by
    rw [forM_eq_ok]
    intro columns hcolumns
    obtain ⟨⟨id, row⟩, hentry, rfl⟩ := List.mem_map.mp (ht.requests.mem_iff.mp hcolumns)
    have hget := Dict.mem_items.mp hentry
    obtain ⟨rfl, e, hvalid, htrail⟩ := hdb.ledger.stored id row hget
    exact validateRequest_row (hdb.dumped _ row hget) hvalid htrail
      (ht.history (ordered_of_trail htrail))
  rw [validateOperationalRows, horphans, hevents, hrequests]
  simp

/-! ## Accepted tables are consistent -/

/-- A recorded transition as the ledger's own record. The check of the ledger does not look at
the time, so any reading of it will do. -/
def TransitionColumns.read? (time : Value → DateTime) (row : TransitionColumns) :
    Option OperationalLedgerTransition := do
  let request_id ← row.request_id.text?
  let request_digest ← row.request_digest.text?
  let previous_state ← match row.previous_state with
    | none => some none
    | some value => (value.text?.bind OperationalLedgerState.ofValue?).map some
  let state ← row.state.text?.bind OperationalLedgerState.ofValue?
  return { sequence := row.sequence, request_id, request_digest, previous_state, state,
           occurred_at := time row.occurred_at }

/-- What the tool walks over is a walk of the ledger's own check. The induction is on the
transitions; the state and the sequence number of the last one are carried along. -/
theorem walkTransitions_of_walkHistory {request_id request_digest : String}
    {rows : List TransitionColumns} {previous : Option OperationalLedgerState}
    {sequence : Option ℤ} {last : Option Value} (time : Value → DateTime)
    (hid : ∀ row ∈ rows, row.request_id = .text request_id)
    (hordered : rows.Pairwise (fun a b => a.sequence < b.sequence))
    (hlater : ∀ row ∈ rows, ∀ before ∈ sequence, before < row.sequence)
    (hwalk : walkHistory (.text request_digest) (previous.map stateValue) rows = .ok last) :
    ∃ transitions state, rows.mapM (TransitionColumns.read? time) = some transitions ∧
      transitions.length = rows.length ∧ last = state.map stateValue ∧
      walkTransitions request_id request_digest sequence previous transitions = some state := by
  induction rows generalizing previous sequence with
  | nil =>
    rw [walkHistory, Except.ok.injEq] at hwalk
    exact ⟨[], previous, rfl, rfl, hwalk.symm, rfl⟩
  | cons row rows ih =>
    rw [walkHistory, check_bind_eq_ok, demand_eq_ok, Bool.and_eq_true, Bool.and_eq_true,
      decide_eq_true_eq, decide_eq_true_eq, inLedgerTransitions_iff] at hwalk
    obtain ⟨⟨⟨hdigest, hprevious⟩, state, hstate, hallowed⟩, hrest⟩ := hwalk
    rw [hstate] at hrest
    obtain ⟨hfirst, hordered⟩ := List.pairwise_cons.mp hordered
    have hafter : ∀ later ∈ rows, ∀ before ∈ some row.sequence, before < later.sequence := by
      simpa using hfirst
    have hrest' : walkHistory (.text request_digest) ((some state).map stateValue) rows =
        .ok last := hrest
    obtain ⟨transitions, final, hread, hlength, hlast, hwalked⟩ :=
      ih (fun row hrow => hid row (List.mem_cons_of_mem _ hrow)) hordered hafter hrest'
    have hrow : row.read? time = some ⟨row.sequence, request_id, request_digest, previous, state,
        time row.occurred_at⟩ := by
      cases previous <;> simp [TransitionColumns.read?, hid row, hdigest, hprevious, hstate,
        stateValue, Value.text?]
    have hlate : sequence.any (fun before => row.sequence ≤ before) = false := by
      cases sequence with
      | none => rfl
      | some before =>
        have hlt := hlater row List.mem_cons_self before rfl
        simpa using hlt
    refine ⟨_ :: transitions, final, by rw [List.mapM_cons, hrow, hread]; rfl, by simp [hlength],
      hlast, ?_⟩
    rw [walkTransitions, if_neg (by simp [hallowed, hlate])]
    exact hwalked

/-- What the identity check of a request says of its columns. -/
theorem columns_of_identity {row : RequestColumns}
    (h : validateRequestIdentity json row = .ok ()) :
    (row.request_id = none ∨ ∃ id, row.request_id = some (.text id)) ∧
      ∃ digest, row.request_digest = .text digest := by
  obtain ⟨value, -, hvalue⟩ := bind_eq_ok.mp h
  cases value with
  | obj request =>
    simp only [demand_eq_ok, Bool.and_eq_true] at hvalue
    obtain ⟨⟨hid, hdigest⟩, -⟩ := hvalue
    constructor
    · cases hget : Fields.get request "request_id" <;> simp_all [Value.equals]
    · cases hget : Fields.get request "request_digest" <;> simp_all [Value.equals]
  | _ => simp [demand] at hvalue

/-- The recorded history of a request that the tool accepts. -/
theorem recorded_of_accepted {t : Tables} {row : RequestColumns}
    (h : validateRequest json t row = .ok ()) (time : Value → DateTime) :
    ∃ request_id request_digest state transitions, row.request_id = some (.text request_id) ∧
      row.request_digest = .text request_digest ∧ row.state = stateValue state ∧
      (t.history row.request_id).mapM (TransitionColumns.read? time) = some transitions ∧
      validateLedgerTransitionSequence transitions request_id request_digest state = true := by
  rw [validateRequest, check_bind_eq_ok] at h
  obtain ⟨hidentity, h⟩ := h
  simp only [bind_eq_ok, demand_eq_ok, Bool.and_eq_true, Bool.not_eq_true',
    decide_eq_true_eq] at h
  obtain ⟨-, -, -, -, -, -, -, -, -, -, -, -, -, -, last, hwalk, hne, hlast⟩ := h
  obtain ⟨hid, request_digest, hdigest⟩ := columns_of_identity hidentity
  rcases hid with hnull | ⟨request_id, hid⟩
  · simp [Tables.history, hnull] at hne
  have hhistory (transition : TransitionColumns) (hmem : transition ∈ t.history row.request_id) :
      transition.request_id = .text request_id := by
    have hfiltered := List.mem_filter.mp ((List.mem_insertionSort _).mp hmem)
    simpa [hid] using hfiltered.2
  have hwalk₀ : walkHistory (.text request_digest)
      ((none : Option OperationalLedgerState).map stateValue) (t.history row.request_id) =
        .ok last := hdigest ▸ hwalk
  obtain ⟨transitions, state, hread, hlength, hstate, hwalked⟩ :=
    walkTransitions_of_walkHistory time hhistory (t.history_ordered _)
      (show ∀ row ∈ _, ∀ before ∈ (none : Option ℤ), _ by simp) hwalk₀
  rw [hlast] at hstate
  obtain ⟨state, rfl, hvalue⟩ := Option.map_eq_some_iff.mp hstate.symm
  refine ⟨request_id, request_digest, state, transitions, hid, hdigest, hvalue.symm, hread, ?_⟩
  unfold validateLedgerTransitionSequence
  split
  · rw [List.isEmpty_eq_false_iff, ← List.length_pos_iff, ← hlength] at hne
    cases hne
  · rw [hwalked, beq_self_eq_true]

/-- The backup tool and the ledger agree. The tables of a ledger, after any operations whose
appended events are timed, are accepted; and the transitions that are recorded for a request in
accepted tables are a sequence that the ledger's own check accepts with the state of the row. -/
theorem backup_agrees (json : JsonText pd py) :
    (∀ calls : List (AuditCall py), (∀ call ∈ calls, call.Appends Timed) →
      (∃ t : Tables, t.Holds (auditHistory json calls)) ∧
      ∀ t : Tables, t.Holds (auditHistory json calls) → validateOperationalRows json t = .ok ()) ∧
    (∀ t : Tables, validateOperationalRows json t = .ok () → ∀ row ∈ t.requests,
      ∀ time : Value → DateTime, ∃ request_id request_digest state transitions,
        row.request_id = some (.text request_id) ∧ row.request_digest = .text request_digest ∧
        row.state = stateValue state ∧
        (t.history row.request_id).mapM (TransitionColumns.read? time) = some transitions ∧
        validateLedgerTransitionSequence transitions request_id request_digest state = true) := by
  refine ⟨fun calls hcalls => ?_, fun t haccepted row hrow time => ?_⟩
  · have hvalid : (auditHistory json calls).Valid json Timed :=
      auditHistory_valid timed_reconciledEvent hcalls
    exact ⟨exists_holds hvalid.ordered, fun t ht => validateOperationalRows_of_valid hvalid ht⟩
  · rw [validateOperationalRows, check_bind_eq_ok, check_bind_eq_ok, forM_eq_ok, forM_eq_ok]
      at haccepted
    exact recorded_of_accepted (haccepted.2.2 row hrow) time

/-! ## A codec to evaluate with -/

/-- A codec whose texts say which record they are of. -/
def taggedPydantic : Pydantic where
  dumpRequest r := joinTexts ("request" :: requestTexts r)
  loadRequest text := readRequestTexts (splitTexts text).tail
  dumpDispatch r := joinTexts ("dispatch" :: dispatchTexts r)
  loadDispatch text := readDispatchTexts (splitTexts text).tail
  dumpVerification r := joinTexts ("verification" :: verificationTexts r)
  loadVerification text := readVerificationTexts (splitTexts text).tail
  load_dumpRequest r _ := by
    rw [splitTexts_joinTexts, List.tail_cons, readRequestTexts_requestTexts]
  load_dumpDispatch r := by
    rw [splitTexts_joinTexts, List.tail_cons, readDispatchTexts_dispatchTexts]
    exact ⟨r, rfl, ⟨rfl, rfl, rfl, rfl, rfl, rfl⟩⟩
  load_dumpVerification r := by
    rw [splitTexts_joinTexts, List.tail_cons, readVerificationTexts_verificationTexts]
    exact ⟨r, rfl, ⟨rfl, rfl, rfl, rfl, rfl⟩⟩

/-- The texts of an event. -/
def eventTexts (e : OperationalDispatchAuditEvent) : List String :=
  [e.event_id, StrEnum.value e.status, plainIsoformat e.occurred_at] ++
    [e.request_id, e.request_digest, e.workflow_session_id, e.candidate_planning_session_id,
      e.candidate_id, e.candidate_plan_id, e.provider_id, e.resource_id, e.resource_type,
      e.target_fingerprint].map optionText

/-- The JSON object of the event with given texts. -/
def readEventTexts : List String → Except PyError Json
  | event_id :: status :: occurred_at :: options =>
      .ok (.obj ([("event_id", .str event_id), ("status", .str status),
        ("occurred_at", .str occurred_at)] ++
        ["request_id", "request_digest", "workflow_session_id", "candidate_planning_session_id",
          "candidate_id", "candidate_plan_id", "provider_id", "resource_id", "resource_type",
          "target_fingerprint"].zip (options.map fun text => Json.ofOption (readOptionText text))))
  | _ => .error (.valueError "fields")

theorem readEventTexts_eventTexts (e : OperationalDispatchAuditEvent) :
    readEventTexts (eventTexts e) = .ok (.obj (eventFields plainIsoformat e)) := by
  simp only [eventTexts, readEventTexts, eventFields, List.map_cons, List.map_nil,
    List.cons_append, List.nil_append, List.zip_cons_cons, List.zip_nil_right,
    readOptionText_optionText]

/-- The JSON value of a tagged text. -/
def loadsTagged (text : String) : Except PyError Json :=
  match splitTexts text with
  | tag :: texts =>
      if tag = "request" then
        (readRequestTexts texts).map fun r => .obj (requestFields plainIsoformat r)
      else if tag = "dispatch" then
        (readDispatchTexts texts).map fun r => .obj (dispatchFields plainIsoformat r)
      else if tag = "verification" then
        (readVerificationTexts texts).map fun r => .obj (verificationFields plainIsoformat r)
      else readEventTexts texts
  | [] => .error (.valueError "Expecting value")

theorem loadsTagged_request (texts : List String) :
    loadsTagged (joinTexts ("request" :: texts)) =
      (readRequestTexts texts).map fun r => .obj (requestFields plainIsoformat r) := by
  simp only [loadsTagged, splitTexts_joinTexts, if_true]

theorem loadsTagged_dispatch (texts : List String) :
    loadsTagged (joinTexts ("dispatch" :: texts)) =
      (readDispatchTexts texts).map fun r => .obj (dispatchFields plainIsoformat r) := by
  have hrequest : "dispatch" ≠ "request" := by decide
  simp only [loadsTagged, splitTexts_joinTexts, hrequest, if_false, if_true]

theorem loadsTagged_verification (texts : List String) :
    loadsTagged (joinTexts ("verification" :: texts)) =
      (readVerificationTexts texts).map fun r => .obj (verificationFields plainIsoformat r) := by
  have hrequest : "verification" ≠ "request" := by decide
  have hdispatch : "verification" ≠ "dispatch" := by decide
  simp only [loadsTagged, splitTexts_joinTexts, hrequest, hdispatch, if_false, if_true]

theorem loadsTagged_event (texts : List String) :
    loadsTagged (joinTexts ("event" :: texts)) = readEventTexts texts := by
  have hrequest : "event" ≠ "request" := by decide
  have hdispatch : "event" ≠ "dispatch" := by decide
  have hverification : "event" ≠ "verification" := by decide
  simp only [loadsTagged, splitTexts_joinTexts, hrequest, hdispatch, hverification, if_false]

/-- The standard library's view of the tagged texts. -/
def taggedJson : JsonText taggedPydantic Python.plain where
  loads := loadsTagged
  loadsBytes _ := .error (.valueError "Expecting value")
  jsonTime := plainIsoformat
  dumpEvent e := joinTexts ("event" :: eventTexts e)
  loads_dumpRequest r := by
    rw [taggedPydantic, loadsTagged_request, readRequestTexts_requestTexts, Except.map]
  loads_dumpDispatch r := by
    rw [taggedPydantic, loadsTagged_dispatch, readDispatchTexts_dispatchTexts, Except.map]
  loads_dumpVerification r := by
    rw [taggedPydantic, loadsTagged_verification, readVerificationTexts_verificationTexts, Except.map]
  loads_dumpEvent e := (loadsTagged_event (eventTexts e)).trans (readEventTexts_eventTexts e)
  fromisoformat_jsonTime t _ := ⟨t, Python.plain.fromisoformat_isoformat t, by simp [DateTime.same]⟩

/-- A rejected login, dated by a clock reading. -/
def rejectedLogin (occurred_at : DateTime) : OperationalDispatchAuditEvent where
  event_id := "e"
  status := .authRejected
  occurred_at := occurred_at

/-- `append_event` of it on a ledger without events. -/
theorem append_rejectedLogin (occurred_at : DateTime) :
    withConnection ∅ [] (appendEvent json (rejectedLogin occurred_at)) =
      (.ok (), (∅ : Dict EventRow).set "e" ((rejectedLogin occurred_at).row json)) := by
  have htext : exactText "e" = true := by decide
  have hvalidate : (rejectedLogin occurred_at).modelValidate = .ok (rejectedLogin occurred_at) := by
    simp [OperationalDispatchAuditEvent.modelValidate, validateStrings, rejectedLogin, require, htext]
  rw [withConnection, appendEvent, hvalidate]
  simp [bind_apply, insertEvent, Transaction.lift, Except.mapError, rejectedLogin]

/-- The clock reading zero of a naive clock. -/
def naiveTime : DateTime := ⟨⟨0, zero_lt_MAX_MICROS⟩, none⟩

/-- An event that is dated on a naive clock is appended, and the tool then refuses the ledger. -/
theorem not_accepts_naiveEvent :
    ¬ ∀ (calls : List (AuditCall Python.plain)) (t : Tables),
      t.Holds (auditHistory taggedJson calls) → validateOperationalRows taggedJson t = .ok () := by
  intro h
  have hhistory : auditHistory taggedJson [.appendEvent (rejectedLogin naiveTime) []] =
      ⟨.empty, (∅ : Dict EventRow).set "e" ((rejectedLogin naiveTime).row taggedJson)⟩ := by
    simp [auditHistory, performAudited, append_rejectedLogin]
  obtain ⟨t, ht⟩ := @exists_holds ⟨.empty, (∅ : Dict EventRow).set "e"
    ((rejectedLogin naiveTime).row taggedJson)⟩ List.Pairwise.nil
  have haccepted := h _ t (hhistory ▸ ht)
  rw [validateOperationalRows, check_bind_eq_ok, check_bind_eq_ok, forM_eq_ok] at haccepted
  have hget : ((∅ : Dict EventRow).set "e" ((rejectedLogin naiveTime).row taggedJson)).get "e" =
      some ((rejectedLogin naiveTime).row taggedJson) := Dict.get_set_self _ _ _
  have hmem : EventColumns.of ((rejectedLogin naiveTime).row taggedJson) ∈ t.events :=
    ht.events.mem_iff.mpr (List.mem_map.mpr ⟨("e", _), Dict.mem_items.mpr hget, rfl⟩)
  exact validateEvent_naive rfl (haccepted.2.1 _ hmem)

/-- A claimed request and a rejected login, dated by the UTC clock. -/
def loginCalls : List (AuditCall Python.plain) :=
  [.ledger ⟨.claim Request.plain, ⟨1, one_lt_MAX_MICROS⟩, []⟩ (fun _ _ => "e") (fun _ _ => []),
    .appendEvent (rejectedLogin (.utc ⟨1, one_lt_MAX_MICROS⟩)) []]

theorem loginCalls_timed : ∀ call ∈ loginCalls, call.Appends Timed := by
  simp only [loginCalls, List.forall_mem_cons]
  exact ⟨trivial, ⟨rfl, rfl, _, astimezoneUtc_utc _⟩, fun _ h => absurd h List.not_mem_nil⟩

/-- The ledger that they leave is accepted, and the claimed request has a sequence that the
ledger's check accepts. -/
theorem backup_agrees_loginCalls :
    ∃ t : Tables, t.Holds (auditHistory taggedJson loginCalls) ∧
      validateOperationalRows taggedJson t = .ok () ∧
      ∀ row ∈ t.requests, ∃ request_id request_digest state transitions,
        row.request_id = some (.text request_id) ∧ row.request_digest = .text request_digest ∧
        row.state = stateValue state ∧
        (t.history row.request_id).mapM (TransitionColumns.read? fun _ => naiveTime) =
          some transitions ∧
        validateLedgerTransitionSequence transitions request_id request_digest state = true := by
  obtain ⟨⟨t, ht⟩, haccepts⟩ := (backup_agrees taggedJson).1 loginCalls loginCalls_timed
  have haccepted := haccepts t ht
  exact ⟨t, ht, haccepted, fun row hrow =>
    (backup_agrees taggedJson).2 t haccepted row hrow fun _ => naiveTime⟩

end AtlasOS.Backup
