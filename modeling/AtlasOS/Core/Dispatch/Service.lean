import AtlasOS.Core.Dispatch.LedgerHistory

/-!
# The dispatch service

`OperationalDispatchService.dispatch` as a machine that stops after each ledger
transaction and at each await: between two of its stops other calls, the
verification of dispatched requests and a restart of Core can take place. A run
is any sequence of such steps. What a step needs from outside (clock readings,
the answers of the resolver and of the handler, failures) is its input.
-/

namespace AtlasOS.Core

open Sqlite Sqlite.Transaction

variable {pd : Pydantic} {py : Python}

/-! ## Requests and targets -/

/-- The capabilities of a service: the enabled intents and the keys that have a handler. -/
structure OperationalDispatchService where
  execution_intents : List String
  registry : String → String → String → Bool

/-- What `_target_matches` reads of a `ResolvedOperationalTarget`. -/
structure ResolvedOperationalTarget where
  provider_id : String
  resource_provider_id : String
  resource_id : String
  resource_type : String
  resource_fingerprint : String
  /-- `resource.identity.token_version`, if the resource has an identity. -/
  token_version : Option String

/-- `_target_matches` -/
def targetMatches (request : OperationalDispatchRequest) (target : ResolvedOperationalTarget) :
    Bool :=
  decide (target.provider_id = request.provider_id) &&
    decide (target.resource_provider_id = request.provider_id) &&
    decide (target.resource_id = request.resource_id) &&
    decide (target.resource_type = request.resource_type) &&
    decide (target.resource_fingerprint = request.target_fingerprint) &&
    (request.target_version.isNone || decide (target.token_version = request.target_version))

/-- What the resolver answers. -/
inductive ResolverAnswer where
  | resolved (target : ResolvedOperationalTarget)
  /-- The target is unknown, or its provider is missing or has no resources. -/
  | blocked
  /-- `ProviderResourceOperationError` -/
  | unavailable
  /-- Another exception. -/
  | raised

/-- What the handler answers. -/
inductive HandlerAnswer where
  | returned (result : DispatchResult)
  | raised

/-- A result that the service builds for a request. -/
def Request.result (request : Request py) (status : OperationalDispatchStatus)
    (started_at : DateTime) (completed_at : Option DateTime) (message : String)
    (hmessage : exactText message = true) : DispatchResult where
  status := status
  request_id := request.request_id
  request_digest := request.request_digest
  target_fingerprint := request.target_fingerprint
  started_at := started_at
  completed_at := completed_at
  sanitized_message := some message
  valid := by
    have hid : exactText request.request_id = true :=
      request.texts_exact (by simp [OperationalDispatchRequest.texts])
    have hdigest : exactText request.request_digest = true :=
      request.texts_exact (by simp [OperationalDispatchRequest.texts])
    have hfingerprint : exactText request.target_fingerprint = true :=
      request.texts_exact (by simp [OperationalDispatchRequest.texts])
    simp [OperationalDispatchResult.validate, validateStrings, hid, hdigest, hfingerprint,
      hmessage]

/-! ## Calls -/

/-- The failures that a call stores, with their messages. -/
inductive Refusal where
  | expired | disabled | unregistered | targetReplaced
  deriving DecidableEq

/-- The message of a refusal. -/
def Refusal.message : Refusal → String
  | .expired => "Operational request expired."
  | .disabled => "Operational execution capability is disabled."
  | .unregistered => "No exact operational handler is registered."
  | .targetReplaced => "Authoritative operational target was replaced or unavailable."

theorem Refusal.exact (refusal : Refusal) : exactText refusal.message = true := by
  cases refusal <;> decide

/-- The state that a refusal is stored under. -/
def Refusal.state : Refusal → OperationalLedgerState
  | .targetReplaced => .targetReplaced
  | _ => .failed

/-- Where a call stands. -/
inductive Phase where
  /-- Before `claim`. -/
  | start
  /-- Before the write of `_terminal_failure` or `_target_replaced`. -/
  | refusing (now : DateTime) (refusal : Refusal)
  /-- At the await of the resolver. -/
  | resolving (now : DateTime)
  /-- Before `mark_revalidated`. -/
  | matched (now : DateTime)
  /-- Before `mark_dispatching`. -/
  | revalidated (now : DateTime)
  /-- Past the barrier, before the handler is called. -/
  | crossed (started_at : DateTime)
  /-- At the await of the handler. -/
  | handling (started_at : DateTime)
  /-- Before the write of the result. -/
  | handled (result : DispatchResult)
  /-- The call returned a result, or raised or was dropped. -/
  | finished (reply : Option OperationalDispatchResult)

/-- One call of `dispatch`, with what its handler did. -/
structure DispatchCall (py : Python) where
  service : OperationalDispatchService
  request : Request py
  phase : Phase
  /-- Whether the call crossed the barrier. -/
  owner : Bool
  /-- How often it called the handler. -/
  invocations : ℕ
  /-- What the handler returned. -/
  returned : Option DispatchResult

/-- What a step takes from outside. -/
structure Input where
  /-- The reading of the clock by the service. -/
  now : Fin MAX_MICROS
  /-- The reading of the clock when a result is completed. -/
  completed : Fin MAX_MICROS
  /-- The reading of the clock by the ledger. -/
  ledger_now : Fin MAX_MICROS
  /-- Which statements of the transaction fail. -/
  faults : List Bool
  /-- Whether an audit event cannot be stored. -/
  audit_fails : Bool
  resolver : ResolverAnswer
  handler : HandlerAnswer

/-- The phase after `claim` returned an entry. -/
def afterClaim (service : OperationalDispatchService) (request : Request py) (input : Input)
    (entry : OperationalLedgerEntry) : Phase :=
  let now := DateTime.utc input.now
  match entry.dispatch_result with
  | some result => .finished result
  | none =>
    match request.expires_at.le now with
    | .error _ => .finished none
    | .ok true => .refusing now .expired
    | .ok false =>
      if request.execution_intent ∉ service.execution_intents then
        if input.audit_fails then .finished none else .refusing now .disabled
      else if !service.registry request.execution_intent request.provider_id
          request.resource_type then
        if input.audit_fails then .finished none else .refusing now .unregistered
      else .resolving now

/-- The phase after the resolver answered. -/
def afterResolver (request : Request py) (now : DateTime) (input : Input) : Phase :=
  match input.resolver with
  | .resolved target =>
      if targetMatches request.toOperationalDispatchRequest target then .matched now
      else if input.audit_fails then .finished none
      else .refusing now .targetReplaced
  | .blocked => if input.audit_fails then .finished none else .refusing now .targetReplaced
  | .unavailable =>
      if input.audit_fails then .finished none
      else .finished (some (request.result .failed now (some (.utc input.completed))
        "Operational target is temporarily unavailable."
        (by decide)).toOperationalDispatchResult)
  | .raised => .finished none

/-- The reply to a call that did not become the owner. -/
def notOwner (request : Request py) (now : DateTime) (entry : OperationalLedgerEntry) :
    OperationalDispatchResult :=
  entry.dispatch_result.getD (request.result .outcomeUnknown
    (entry.dispatch_started_at.getD now) none "Operational dispatch is already in progress."
    (by decide)).toOperationalDispatchResult

/-- The result to store after the handler answered. -/
def afterHandler (request : Request py) (started_at : DateTime) (input : Input) : DispatchResult :=
  let unknown := request.result .outcomeUnknown started_at (some (.utc input.completed))
    "Operational dispatch outcome is unknown." (by decide)
  match input.handler with
  | .returned result =>
      if result.request_id = request.request_id ∧ result.request_digest = request.request_digest ∧
          result.target_fingerprint = request.target_fingerprint then result
      else unknown
  | .raised => unknown

/-- The state that a result of the handler is stored under. -/
def resultState : OperationalDispatchStatus → OperationalLedgerState
  | .succeeded => .succeeded
  | .failed => .failed
  | .outcomeUnknown => .outcomeUnknown

/-- The reply of a call whose write returned an entry or raised. -/
def reply : Except LedgerError OperationalLedgerEntry → Phase
  | .ok entry => .finished entry.dispatch_result
  | .error _ => .finished none

/-- The next step of `dispatch`. -/
def DispatchCall.advance (pd : Pydantic) (c : DispatchCall py) (input : Input) (db : Database) :
    DispatchCall py × Database :=
  let request := c.request.toOperationalDispatchRequest
  match c.phase with
  | .start =>
      match withConnection db input.faults (claim pd py input.ledger_now request) with
      | (.ok entry, db) => ({ c with phase := afterClaim c.service c.request input entry }, db)
      | (.error _, db) => ({ c with phase := .finished none }, db)
  | .refusing now refusal =>
      let result := c.request.result .failed now (some (.utc input.completed)) refusal.message
        refusal.exact
      let (outcome, db) := withConnection db input.faults
        (persistDispatchResult pd py input.ledger_now request result.toOperationalDispatchResult
          refusal.state)
      ({ c with phase := reply outcome }, db)
  | .resolving now => ({ c with phase := afterResolver c.request now input }, db)
  | .matched now =>
      match withConnection db input.faults (markRevalidated pd py input.ledger_now request) with
      | (.ok _, db) => ({ c with phase := .revalidated now }, db)
      | (.error _, db) => ({ c with phase := .finished none }, db)
  | .revalidated now =>
      match withConnection db input.faults (markDispatching pd py input.ledger_now request) with
      | (.ok (entry, owner), db) =>
          if owner then
            ({ c with
                phase := .crossed (entry.dispatch_started_at.getD now), owner := true }, db)
          else ({ c with phase := .finished (notOwner c.request now entry) }, db)
      | (.error _, db) => ({ c with phase := .finished none }, db)
  | .crossed started_at =>
      if input.audit_fails then ({ c with phase := .finished none }, db)
      else ({ c with phase := .handling started_at, invocations := c.invocations + 1 }, db)
  | .handling started_at =>
      let result := afterHandler c.request started_at input
      let returned := match input.handler with
        | .returned result => some result
        | .raised => none
      ({ c with phase := .handled result, returned }, db)
  | .handled result =>
      if input.audit_fails then ({ c with phase := .finished none }, db)
      else
        let (outcome, db) := withConnection db input.faults
          (persistDispatchResult pd py input.ledger_now request
            result.toOperationalDispatchResult (resultState result.status))
        ({ c with phase := reply outcome }, db)
  | .finished reply => ({ c with phase := .finished reply }, db)

/-! ## Runs -/

/-- A running Core with its ledger. -/
structure World (py : Python) where
  db : Database
  calls : List (DispatchCall py)

/-- What can happen. -/
inductive Event (py : Python) where
  /-- A new call of `dispatch`. -/
  | call (service : OperationalDispatchService) (request : Request py)
  /-- A call makes its next step. -/
  | advance (index : ℕ) (input : Input)
  /-- A call is cancelled. -/
  | cancel (index : ℕ)
  /-- `begin_verification`, by the lifecycle service. -/
  | beginVerification (now : Fin MAX_MICROS) (faults : List Bool)
      (request : OperationalDispatchRequest) (resume_interrupted : Bool)
  /-- `persist_verification_result`, by the lifecycle service. -/
  | persistVerificationResult (now : Fin MAX_MICROS) (faults : List Bool)
      (request : OperationalDispatchRequest) (result : VerificationResult)
  /-- Core stops, and `reconcile_startup` runs when it starts again. -/
  | restart (now : Fin MAX_MICROS) (faults : List Bool)

namespace World

/-- The state before anything happened. -/
def initial : World py := ⟨.empty, []⟩

/-- One step. -/
def step (pd : Pydantic) (w : World py) : Event py → World py
  | .call service request =>
      { w with calls := w.calls ++ [⟨service, request, .start, false, 0, none⟩] }
  | .advance index input =>
      match w.calls[index]? with
      | none => w
      | some c =>
          let (c', db) := c.advance pd input w.db
          { db, calls := w.calls.set index c' }
  | .cancel index =>
      { w with calls := w.calls.modify index fun c => { c with phase := .finished none } }
  | .beginVerification now faults request resume_interrupted =>
      { w with
        db := (withConnection w.db faults
          (beginVerification pd py now request resume_interrupted)).2 }
  | .persistVerificationResult now faults request result =>
      { w with
        db := (withConnection w.db faults
          (persistVerificationResult pd py now request
            result.toOperationalVerificationResult)).2 }
  | .restart now faults =>
      { db := (withConnection w.db faults (reconcileStartup pd py now)).2
        calls := w.calls.map fun c => { c with phase := .finished none } }

/-- The state after a run. -/
def run (pd : Pydantic) (events : List (Event py)) : World py := events.foldl (step pd) initial

/-- How often the handler was called for a request identifier. -/
def invocations (w : World py) (request_id : String) : ℕ :=
  ((w.calls.filter (·.request.request_id = request_id)).map (·.invocations)).sum

end World

end AtlasOS.Core
