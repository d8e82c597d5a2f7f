import AtlasOS.Core.Dispatch.LedgerHistory

/-!
# The audit events of the dispatch ledger

The ledger keeps a second history beside its transitions: the events of
`operational_dispatch_events`. They are appended one by one, by the service and
by `reconcile_startup` after its own transaction. A history of the whole file is
a sequence of ledger calls and of appended events.
-/

namespace AtlasOS.Core

open Sqlite Sqlite.Transaction Relation

/-! ## Events -/

/-- `OperationalDispatchAuditStatus` -/
inductive OperationalDispatchAuditStatus where
  | authAttempted | authRejected | requestAccepted | executionDisabled | noHandler
  | requestConflict | targetBlocked | dispatchResult | barrierCrossed | providerOperationCaptured
  | outcomeUnknown | verificationStarted | verificationResumed | verificationSucceeded
  | verificationFailed | verificationTargetReplaced | recoveryReconciled
  deriving DecidableEq

instance : StrEnum OperationalDispatchAuditStatus where
  value
    | .authAttempted => "auth_attempted"
    | .authRejected => "auth_rejected"
    | .requestAccepted => "request_accepted"
    | .executionDisabled => "execution_disabled"
    | .noHandler => "no_handler"
    | .requestConflict => "request_conflict"
    | .targetBlocked => "target_blocked"
    | .dispatchResult => "dispatch_result"
    | .barrierCrossed => "barrier_crossed"
    | .providerOperationCaptured => "provider_operation_captured"
    | .outcomeUnknown => "outcome_unknown"
    | .verificationStarted => "verification_started"
    | .verificationResumed => "verification_resumed"
    | .verificationSucceeded => "verification_succeeded"
    | .verificationFailed => "verification_failed"
    | .verificationTargetReplaced => "verification_target_replaced"
    | .recoveryReconciled => "recovery_reconciled"
  members := [.authAttempted, .authRejected, .requestAccepted, .executionDisabled, .noHandler,
    .requestConflict, .targetBlocked, .dispatchResult, .barrierCrossed,
    .providerOperationCaptured, .outcomeUnknown, .verificationStarted, .verificationResumed,
    .verificationSucceeded, .verificationFailed, .verificationTargetReplaced,
    .recoveryReconciled]
  find_value s := by cases s <;> simp

/-- `OperationalDispatchAuditEvent` -/
structure OperationalDispatchAuditEvent where
  event_id : String
  status : OperationalDispatchAuditStatus
  occurred_at : DateTime
  request_id : Option String := none
  request_digest : Option String := none
  workflow_session_id : Option String := none
  candidate_planning_session_id : Option String := none
  candidate_id : Option String := none
  candidate_plan_id : Option String := none
  provider_id : Option String := none
  resource_id : Option String := none
  resource_type : Option String := none
  target_fingerprint : Option String := none
  deriving DecidableEq

/-- `OperationalDispatchAuditEvent.model_validate` of the fields of an event. -/
def OperationalDispatchAuditEvent.modelValidate (event : OperationalDispatchAuditEvent) :
    Except PyError OperationalDispatchAuditEvent := do
  validateStrings <| [event.event_id] ++ event.request_id.toList ++ event.request_digest.toList ++
    event.workflow_session_id.toList ++ event.candidate_planning_session_id.toList ++
    event.candidate_id.toList ++ event.candidate_plan_id.toList ++ event.provider_id.toList ++
    event.resource_id.toList ++ event.resource_type.toList ++ event.target_fingerprint.toList
  return event

/-! ## JSON -/

section

variable (jsonTime : DateTime → String)

/-- The JSON object of a verification specification. -/
def specificationFields (v : OperationalVerificationSpecification) : Fields :=
  [("pre_state", .str v.pre_state),
    ("expected_post_state", .str v.expected_post_state),
    ("identity_fingerprint", .str v.identity_fingerprint),
    ("health_requirement", .str v.health_requirement),
    ("unknown_outcome_policy", .str v.unknown_outcome_policy)]

/-- The JSON object of an approval binding. -/
def bindingFields (a : OperationalApprovalBinding) : Fields :=
  [("approval_request_id", .str a.approval_request_id),
    ("action_request_id", .str a.action_request_id),
    ("action_request_digest", .str a.action_request_digest),
    ("candidate_id", .str a.candidate_id),
    ("candidate_fingerprint", .str a.candidate_fingerprint),
    ("operational_plan_fingerprint", .str a.operational_plan_fingerprint),
    ("provider_id", .str a.provider_id),
    ("resource_id", .str a.resource_id),
    ("resource_type", .str a.resource_type),
    ("target_fingerprint", .str a.target_fingerprint),
    ("target_version", Json.ofOption a.target_version),
    ("operation_intent", .str a.operation_intent),
    ("disruption_scope", .str a.disruption_scope),
    ("verification_digest", .str a.verification_digest),
    ("generated_at", .str (jsonTime a.generated_at)),
    ("expires_at", .str (jsonTime a.expires_at))]

/-- The JSON object of a request. -/
def requestFields (r : OperationalDispatchRequest) : Fields :=
  [("schema_version", .int r.schema_version),
    ("request_id", .str r.request_id),
    ("request_digest", .str r.request_digest),
    ("idempotency_key", .str r.idempotency_key),
    ("workflow_session_id", .str r.workflow_session_id),
    ("candidate_planning_session_id", .str r.candidate_planning_session_id),
    ("candidate_id", .str r.candidate_id),
    ("candidate_fingerprint", .str r.candidate_fingerprint),
    ("candidate_plan_id", .str r.candidate_plan_id),
    ("candidate_plan_fingerprint", .str r.candidate_plan_fingerprint),
    ("effect_kind", .str r.effect_kind),
    ("execution_intent", .str r.execution_intent),
    ("provider_id", .str r.provider_id),
    ("resource_id", .str r.resource_id),
    ("resource_type", .str r.resource_type),
    ("provider_action_id", .str r.provider_action_id),
    ("target_fingerprint", .str r.target_fingerprint),
    ("target_version", Json.ofOption r.target_version),
    ("expected_pre_state", .str r.expected_pre_state),
    ("disruption_scope", .str r.disruption_scope),
    ("evidence_ids", .arr (r.evidence_ids.map .str)),
    ("verification", .obj (specificationFields r.verification)),
    ("generated_at", .str (jsonTime r.generated_at)),
    ("expires_at", .str (jsonTime r.expires_at)),
    ("translator_version", .str r.translator_version),
    ("approval", .obj (bindingFields jsonTime r.approval))]

/-- The JSON object of a dispatch result. -/
def dispatchFields (r : OperationalDispatchResult) : Fields :=
  [("status", .str (StrEnum.value r.status)),
    ("request_id", .str r.request_id),
    ("request_digest", .str r.request_digest),
    ("target_fingerprint", .str r.target_fingerprint),
    ("provider_operation_id", Json.ofOption r.provider_operation_id),
    ("started_at", .str (jsonTime r.started_at)),
    ("completed_at", Json.ofOption (r.completed_at.map jsonTime)),
    ("sanitized_message", Json.ofOption r.sanitized_message)]

/-- The JSON object of a verification result. -/
def verificationFields (r : OperationalVerificationResult) : Fields :=
  [("status", .str (StrEnum.value r.status)),
    ("request_id", .str r.request_id),
    ("observed_target_fingerprint", Json.ofOption r.observed_target_fingerprint),
    ("observed_state", Json.ofOption r.observed_state),
    ("health_status", Json.ofOption r.health_status),
    ("started_at", .str (jsonTime r.started_at)),
    ("completed_at", .str (jsonTime r.completed_at)),
    ("deadline", .str (jsonTime r.deadline))]

/-- The JSON object of an audit event. -/
def eventFields (e : OperationalDispatchAuditEvent) : Fields :=
  [("event_id", .str e.event_id),
    ("status", .str (StrEnum.value e.status)),
    ("occurred_at", .str (jsonTime e.occurred_at)),
    ("request_id", Json.ofOption e.request_id),
    ("request_digest", Json.ofOption e.request_digest),
    ("workflow_session_id", Json.ofOption e.workflow_session_id),
    ("candidate_planning_session_id", Json.ofOption e.candidate_planning_session_id),
    ("candidate_id", Json.ofOption e.candidate_id),
    ("candidate_plan_id", Json.ofOption e.candidate_plan_id),
    ("provider_id", Json.ofOption e.provider_id),
    ("resource_id", Json.ofOption e.resource_id),
    ("resource_type", Json.ofOption e.resource_type),
    ("target_fingerprint", Json.ofOption e.target_fingerprint)]

end

/-- The standard library's view of the texts that pydantic writes: each is the JSON object of
its record, and the text of a timestamp is read back to the same instant. -/
structure JsonText (pd : Pydantic) (py : Python) where
  /-- `json.loads` of a text. -/
  loads : String → Except PyError Json
  /-- `json.loads` of bytes. -/
  loadsBytes : List UInt8 → Except PyError Json
  /-- The text of a timestamp in the JSON that pydantic writes. -/
  jsonTime : DateTime → String
  /-- `OperationalDispatchAuditEvent.model_dump_json` -/
  dumpEvent : OperationalDispatchAuditEvent → String
  loads_dumpRequest : ∀ r, loads (pd.dumpRequest r) = .ok (.obj (requestFields jsonTime r))
  loads_dumpDispatch : ∀ r, loads (pd.dumpDispatch r) = .ok (.obj (dispatchFields jsonTime r))
  loads_dumpVerification : ∀ r,
    loads (pd.dumpVerification r) = .ok (.obj (verificationFields jsonTime r))
  loads_dumpEvent : ∀ e, loads (dumpEvent e) = .ok (.obj (eventFields jsonTime e))
  /-- An offset in whole minutes is written completely. -/
  fromisoformat_jsonTime : ∀ t, wholeMinutes t = true →
    ∃ t', py.fromisoformat (jsonTime t) = some t' ∧ t'.same t = true

/-! ## The table of events -/

/-- One row of the table `operational_dispatch_events`. -/
structure EventRow where
  event_id : String
  status : String
  occurred_at : String
  event_json : String
  deriving DecidableEq

/-- The ledger with its audit events, by primary key. -/
structure AuditDatabase where
  ledger : Database
  events : Dict EventRow

section

variable {pd : Pydantic} {py : Python} (json : JsonText pd py)

/-- The row that `append_event` inserts. -/
def OperationalDispatchAuditEvent.row (event : OperationalDispatchAuditEvent) : EventRow where
  event_id := event.event_id
  status := StrEnum.value event.status
  occurred_at := py.isoformat event.occurred_at
  event_json := json.dumpEvent event

/-- The insertion of an event, refused when its identifier is taken. -/
def insertEvent (event : OperationalDispatchAuditEvent) :
    Transaction LedgerError (Dict EventRow) Unit := do
  match ← select (·.get event.event_id) with
  | some _ => throw .database
  | none => write (·.set event.event_id (event.row json))

/-- `append_event` -/
def appendEvent (event : OperationalDispatchAuditEvent) :
    Transaction LedgerError (Dict EventRow) Unit := do
  let event ← Transaction.lift (event.modelValidate.mapError .check)
  insertEvent json event

/-- The event that `reconcile_startup` writes for a row that it reconciled. -/
def reconciledEvent (now : Fin MAX_MICROS) (request : OperationalDispatchRequest)
    (event_id : String) (status : OperationalDispatchAuditStatus) :
    OperationalDispatchAuditEvent where
  event_id := event_id
  status := status
  occurred_at := .utc now
  request_id := some request.request_id
  request_digest := some request.request_digest
  workflow_session_id := some request.workflow_session_id
  candidate_planning_session_id := some request.candidate_planning_session_id
  candidate_id := some request.candidate_id
  candidate_plan_id := some request.candidate_plan_id
  provider_id := some request.provider_id
  resource_id := some request.resource_id
  resource_type := some request.resource_type
  target_fingerprint := some request.target_fingerprint

/-- The statuses of the events that `reconcile_startup` writes for one row. -/
def RECONCILED_STATUSES : List OperationalDispatchAuditStatus :=
  [.outcomeUnknown, .recoveryReconciled]

/-- The events of one row, each with the identifier and the database failures it meets. -/
def appendReconciled (now : Fin MAX_MICROS) (request : OperationalDispatchRequest)
    (uuid : OperationalDispatchAuditStatus → String)
    (faults : OperationalDispatchAuditStatus → List Bool) :
    List OperationalDispatchAuditStatus → Dict EventRow → Except LedgerError Unit × Dict EventRow
  | [], events => (.ok (), events)
  | status :: statuses, events =>
      match withConnection events (faults status)
        (appendEvent json (reconciledEvent now request (uuid status) status)) with
      | (.ok (), events) => appendReconciled now request uuid faults statuses events
      | (.error e, events) => (.error e, events)

/-- The second loop of `reconcile_startup`, which writes the events of the rows. -/
def auditReconciled (now : Fin MAX_MICROS) (uuid : String → OperationalDispatchAuditStatus → String)
    (faults : String → OperationalDispatchAuditStatus → List Bool) :
    List Row → Dict EventRow → Except LedgerError Unit × Dict EventRow
  | [], events => (.ok (), events)
  | row :: rows, events =>
      match pd.validateRequestJson py row.request_json with
      | .error e => (.error (.check e), events)
      | .ok request =>
          match appendReconciled json now request (uuid row.request_id) (faults row.request_id)
            RECONCILED_STATUSES events with
          | (.ok (), events) => auditReconciled now uuid faults rows events
          | (.error e, events) => (.error e, events)

/-! ## Histories -/

/-- One operation on the ledger's file. -/
inductive AuditCall (py : Python) where
  /-- A call of a ledger method. The identifiers and the failures are those of the events that
  `reconcile_startup` writes after its transaction. -/
  | ledger (invocation : Invocation py) (uuid : String → OperationalDispatchAuditStatus → String)
      (faults : String → OperationalDispatchAuditStatus → List Bool)
  /-- `append_event` -/
  | appendEvent (event : OperationalDispatchAuditEvent) (faults : List Bool)

/-- Make one call. -/
def performAudited (db : AuditDatabase) : AuditCall py → AuditDatabase
  | .ledger i uuid faults =>
      let after := perform pd i db.ledger
      match i.call, after.1 with
      | .reconcileStartup, .ok () =>
          ⟨after.2, (auditReconciled json i.now uuid faults (db.ledger.rowsIn [.dispatching])
            db.events).2⟩
      | _, _ => ⟨after.2, db.events⟩
  | .appendEvent event faults =>
      ⟨db.ledger, (withConnection db.events faults (appendEvent json event)).2⟩

/-- The file after a sequence of calls on an empty one. -/
def auditHistory (calls : List (AuditCall py)) : AuditDatabase :=
  calls.foldl (performAudited json) ⟨.empty, ∅⟩

end

/-! ## The texts in the rows -/

variable {pd : Pydantic} {py : Python} {json : JsonText pd py} {now : Fin MAX_MICROS}
  {db db' : Database} {request : OperationalDispatchRequest}

/-- The JSON columns of a row were written for records that bear the identity of the row. -/
structure Row.Dumped (pd : Pydantic) (row : Row) : Prop where
  request : ∃ r, row.request_json = pd.dumpRequest r ∧ r.request_id = row.request_id ∧
    r.request_digest = row.request_digest
  dispatch : ∀ text, row.dispatch_result_json = some text → ∃ r, text = pd.dumpDispatch r ∧
    r.request_id = row.request_id ∧ r.request_digest = row.request_digest
  verification : ∀ text, row.verification_result_json = some text → ∃ r,
    text = pd.dumpVerification r ∧ r.request_id = row.request_id

/-- Every row of the ledger has such columns. -/
def Database.Dumped (pd : Pydantic) (db : Database) : Prop :=
  ∀ id row, db.rows.get id = some row → row.Dumped pd

theorem Database.Dumped.change (h : db.Dumped pd) {row : Row} (hrow : row.Dumped pd)
    {previous_state : Option OperationalLedgerState} {state : OperationalLedgerState}
    {occurred_at : String} :
    ((db.setRow request.request_id row).addTransition request previous_state state
      occurred_at).Dumped pd := by
  intro id stored hget
  rw [get_rows_change] at hget
  split at hget
  · obtain rfl := Option.some.inj hget
    exact hrow
  · exact h id stored hget

theorem Row.Dumped.finish {row : Row} (h : row.Dumped pd) {result : OperationalDispatchResult}
    (hid : result.request_id = row.request_id) (hdigest : result.request_digest = row.request_digest)
    (state : OperationalLedgerState) (text : String) :
    (row.finish state (pd.dumpDispatch result) text).Dumped pd where
  request := h.request
  dispatch := by
    rintro _ ⟨⟩
    exact ⟨result, rfl, hid, hdigest⟩
  verification := h.verification

theorem Claimed.dumped (h : db.Dumped pd) {e : OperationalLedgerEntry}
    (hclaim : Claimed pd py now request db e db') : db'.Dumped pd := by
  cases hclaim with
  | inserted =>
    refine h.change ⟨⟨request, rfl, rfl, rfl⟩, ?_, ?_⟩
    · rintro _ ⟨⟩
    · rintro _ ⟨⟩
  | found => exact h

theorem Advanced.dumped (h : db.Dumped pd) {expected target : OperationalLedgerState}
    {started : Bool} {r : OperationalLedgerEntry × Bool}
    (hadvance : Advanced pd py now request db expected target started r db') : db'.Dumped pd := by
  cases hadvance with
  | @moved row e stored =>
    obtain ⟨hrequest, hdispatch, hverification⟩ := h _ _ stored.found
    have hrow : (row.advance target started (nowText py now)).Dumped pd :=
      ⟨hrequest, hdispatch, hverification⟩
    exact h.change hrow
  | kept => exact h

theorem Persisted.dumped (hdb : db.Valid pd py) (h : db.Dumped pd)
    {result : OperationalDispatchResult} {state : OperationalLedgerState}
    {e : OperationalLedgerEntry} (hpersist : Persisted pd py now request db result state e db') :
    db'.Dumped pd := by
  cases hpersist with
  | replayed => exact h
  | stored stored _ _ _ _ same_id same_digest =>
    obtain ⟨hid, -⟩ := hdb.stored _ _ stored.found
    exact h.change ((h _ _ stored.found).finish (same_id.trans hid.symm)
      (same_digest.trans stored.same_digest.symm) _ _)

theorem Began.dumped (h : db.Dumped pd) {resume_interrupted : Bool}
    {r : OperationalLedgerEntry × Bool}
    (hbegan : Began pd py now request db resume_interrupted r db') : db'.Dumped pd := by
  cases hbegan with
  | @moved row e stored =>
    obtain ⟨hrequest, hdispatch, hverification⟩ := h _ _ stored.found
    have hrow : (row.beginVerification (nowText py now)).Dumped pd :=
      ⟨hrequest, hdispatch, hverification⟩
    exact h.change hrow
  | kept => exact h

theorem Verified.dumped (hdb : db.Valid pd py) (h : db.Dumped pd)
    {result : OperationalVerificationResult} {e : OperationalLedgerEntry}
    (hverify : Verified pd py now request db result e db') : db'.Dumped pd := by
  cases hverify with
  | replayed => exact h
  | @stored row e read stored _ _ _ _ same_id =>
    obtain ⟨hid, -⟩ := hdb.stored _ _ stored.found
    obtain ⟨hrequest, hdispatch, -⟩ := h _ _ stored.found
    have hrow : (row.verify (verifiedState result.status) (pd.dumpVerification result)
        (nowText py now)).Dumped pd := by
      refine ⟨hrequest, hdispatch, ?_⟩
      rintro _ ⟨⟩
      exact ⟨result, rfl, same_id.trans hid.symm⟩
    exact h.change hrow

theorem Interrupted.dumped (h : db.Dumped pd) {rows : List Row}
    (hinterrupt : Interrupted pd py now rows db db') : db'.Dumped pd := by
  induction hinterrupt with
  | nil => exact h
  | cons stored _ _ _ _ ih => exact ih (h.change ((h _ _ stored.found).finish rfl rfl _ _))

/-- Every call writes texts of records with the identity of their row. -/
theorem block_dumped (hdb : db.Valid pd py) (h : db.Dumped pd) (now : Fin MAX_MICROS)
    (call : Call py) :
    Spec (block pd now call) db db (fun _ d w => d = w ∧ w.Dumped pd) (fun _ d => d = db) := by
  cases call with
  | claim request => exact spec_discard (claim_spec hdb now request) fun _ _ hw => hw.dumped h
  | markRevalidated request =>
    exact spec_discard (markRevalidated_spec hdb now request) fun _ _ ⟨_, hw⟩ => hw.dumped h
  | markDispatching request =>
    exact spec_discard (transition_spec hdb now request .dispatching) fun _ _ hw => hw.dumped h
  | persistDispatchResult request result state =>
    exact spec_discard (persistDispatchResult_spec hdb now request result state)
      fun _ _ hw => hw.dumped hdb h
  | beginVerification request resume_interrupted =>
    exact spec_discard (beginVerification_spec hdb now request resume_interrupted)
      fun _ _ hw => hw.dumped h
  | persistVerificationResult request result =>
    exact spec_discard (persistVerificationResult_spec hdb now request result)
      fun _ _ hw => hw.dumped hdb h
  | reconcileStartup =>
    exact spec_discard (reconcileStartup_spec hdb now) fun _ _ hw => hw.dumped h

theorem perform_dumped (hdb : db.Valid pd py) (h : db.Dumped pd) (i : Invocation py) :
    (perform pd i db).2.Dumped pd := by
  obtain ⟨hok, herror⟩ := Spec.withConnection (block_dumped hdb h i.now i.call) i.faults
  rcases hrun : withConnection db i.faults (block pd i.now i.call) with ⟨e | a, after⟩
  · rw [perform, hrun]
    rw [herror e after hrun]
    exact h
  · obtain ⟨d, -, hdumped⟩ := hok a after hrun
    rw [perform, hrun]
    exact hdumped

/-! ## The order of the transitions -/

/-- The transitions are listed in the order of their sequence numbers. -/
def Database.Ordered (db : Database) : Prop :=
  db.transitions.Pairwise fun a b => a.sequence < b.sequence

theorem Database.Valid.ordered_append (hdb : db.Valid pd py) (h : db.Ordered) {row : TransitionRow}
    (hrow : row.sequence = db.next_sequence) :
    (db.transitions ++ [row]).Pairwise fun a b => a.sequence < b.sequence := by
  refine List.pairwise_append.mpr ⟨h, List.pairwise_singleton _ _, fun a ha b hb => ?_⟩
  rw [List.mem_singleton.mp hb, hrow]
  exact hdb.sequence a ha

theorem Change.ordered (hchange : Change pd py db db') (hdb : db.Valid pd py) (h : db.Ordered) :
    db'.Ordered := by
  cases hchange with
  | insert => exact hdb.ordered_append h rfl
  | move => exact hdb.ordered_append h rfl

theorem ordered_of_changes (hchanges : Changes pd py db db') (hdb : db.Valid pd py)
    (h : db.Ordered) : db'.Ordered := by
  induction hchanges with
  | refl => exact h
  | tail hbefore hchange ih => exact hchange.ordered (valid_of_changes hbefore hdb) ih

/-! ## The events in the table -/

/-- Every row of the table of events was written for an event of a kind. -/
def Logged (json : JsonText pd py) (P : OperationalDispatchAuditEvent → Prop)
    (events : Dict EventRow) : Prop :=
  ∀ id row, events.get id = some row → ∃ event, P event ∧ row = event.row json

variable {P : OperationalDispatchAuditEvent → Prop} {events : Dict EventRow}

theorem Logged.set (h : Logged json P events) {event : OperationalDispatchAuditEvent}
    (hevent : P event) : Logged json P (events.set event.event_id (event.row json)) := by
  intro id row hget
  rw [Dict.get_set] at hget
  split at hget
  · exact ⟨event, hevent, (Option.some.inj hget).symm⟩
  · exact h id row hget

/-- An event is appended, or the table stays as it is. -/
theorem Logged.append (h : Logged json P events) {event : OperationalDispatchAuditEvent}
    (hevent : P event) (faults : List Bool) :
    Logged json P (withConnection events faults (appendEvent json event)).2 := by
  have hspec : Spec (appendEvent json event) events events (fun _ _ w => Logged json P w)
      (fun _ d => d = events) := by
    refine Spec.bind (Spec.lift (fun validated hvalidated => ?_) fun _ _ => rfl)
    obtain rfl : event = validated := by
      cases hcheck : event.modelValidate with
      | error e => simp [hcheck, Except.mapError] at hvalidated
      | ok checked =>
        obtain ⟨⟨⟩, -, hsame⟩ := bind_eq_ok.mp hcheck
        rw [hcheck] at hvalidated
        exact (Except.ok.inj hsame).trans (Except.ok.inj hvalidated)
    refine Spec.bind (Spec.select rfl ?_)
    split
    · exact Spec.throw rfl
    · exact Spec.write rfl (h.set hevent)
  obtain ⟨hok, herror⟩ := Spec.withConnection hspec faults
  rcases hrun : withConnection events faults (appendEvent json event) with ⟨e | a, after⟩
  · rw [herror e after hrun]
    exact h
  · exact (hok a after hrun).elim fun _ hlogged => hlogged

theorem Logged.appendReconciled (h : Logged json P events) {uuid faults}
    (hevent : ∀ id status, P (reconciledEvent now request id status))
    (statuses : List OperationalDispatchAuditStatus) :
    Logged json P (appendReconciled json now request uuid faults statuses events).2 := by
  induction statuses generalizing events with
  | nil => exact h
  | cons status statuses ih =>
    have hnext := h.append (hevent (uuid status) status) (faults status)
    unfold Core.appendReconciled
    split
    · next heq =>
      rw [heq] at hnext
      exact ih hnext
    · next heq =>
      rw [heq] at hnext
      exact hnext

theorem Logged.auditReconciled (h : Logged json P events) {uuid faults}
    (hevent : ∀ request id status, P (reconciledEvent now request id status)) (rows : List Row) :
    Logged json P (auditReconciled json now uuid faults rows events).2 := by
  induction rows generalizing events with
  | nil => exact h
  | cons row rows ih =>
    unfold Core.auditReconciled
    split
    · exact h
    · next request _ =>
      have hnext : Logged json P (Core.appendReconciled json now request (uuid row.request_id)
          (faults row.request_id) RECONCILED_STATUSES events).2 :=
        h.appendReconciled (hevent request) _
      split
      · next heq =>
        rw [heq] at hnext
        exact ih hnext
      · next heq =>
        rw [heq] at hnext
        exact hnext

/-! ## Whole histories -/

/-- The events that a call appends by itself are of a kind. -/
def AuditCall.Appends (P : OperationalDispatchAuditEvent → Prop) : AuditCall py → Prop
  | .ledger .. => True
  | .appendEvent event _ => P event

/-- What every history establishes. -/
structure AuditDatabase.Valid (json : JsonText pd py) (P : OperationalDispatchAuditEvent → Prop)
    (db : AuditDatabase) : Prop where
  ledger : db.ledger.Valid pd py
  dumped : db.ledger.Dumped pd
  ordered : db.ledger.Ordered
  logged : Logged json P db.events

theorem AuditDatabase.Valid.perform {db : AuditDatabase} (h : db.Valid json P)
    (hreconciled : ∀ now request id status, P (reconciledEvent now request id status))
    {call : AuditCall py} (hcall : call.Appends P) : (performAudited json db call).Valid json P := by
  cases call with
  | ledger i uuid faults =>
    have hchanges := (perform_changes h.ledger i).1
    have hledger := valid_of_changes hchanges h.ledger
    have hdumped := perform_dumped h.ledger h.dumped i
    have hordered := ordered_of_changes hchanges h.ledger h.ordered
    rw [performAudited]
    split
    · exact ⟨hledger, hdumped, hordered, h.logged.auditReconciled (hreconciled i.now) _⟩
    · exact ⟨hledger, hdumped, hordered, h.logged⟩
  | appendEvent event faults =>
    exact ⟨h.ledger, h.dumped, h.ordered, h.logged.append hcall faults⟩

theorem auditHistory_valid
    (hreconciled : ∀ now request id status, P (reconciledEvent now request id status))
    {calls : List (AuditCall py)} (hcalls : ∀ call ∈ calls, call.Appends P) :
    (auditHistory json calls).Valid json P := by
  have hempty : AuditDatabase.Valid json P ⟨.empty, ∅⟩ :=
    ⟨empty_valid, fun id row hget => by simp [Database.empty] at hget, List.Pairwise.nil,
      fun id row hget => by simp at hget⟩
  rw [auditHistory]
  generalize (⟨.empty, ∅⟩ : AuditDatabase) = db at hempty
  induction calls generalizing db with
  | nil => exact hempty
  | cons call calls ih =>
    exact ih (fun later hlater => hcalls later (List.mem_cons_of_mem _ hlater)) _
      (hempty.perform hreconciled (hcalls call List.mem_cons_self))

end AtlasOS.Core
