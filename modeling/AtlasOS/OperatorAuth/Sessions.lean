import AtlasOS.Lib.Objects
import AtlasOS.Lib.Text
import AtlasOS.OperatorAuth.RateLimit

/-!
# The sessions of operators

`OperatorSessionStore` keeps one row for each session that was created, under the
digest of its token. A session is resolved by its token while it is neither revoked
nor expired, and its requests are checked against the digest of the CSRF token that
was handed out last. The helper that computes digests encodes its text as ASCII,
which fails for any other text.
-/

namespace AtlasOS.OperatorAuth

/-! ## Texts -/

/-- `str.isascii` -/
def isascii (text : String) : Bool := text.toList.all fun c => c.toNat < 128

/-- Whether a character is one of base64url. -/
def isUrlSafe (c : Char) : Bool :=
  ('a' ≤ c && c ≤ 'z') || ('A' ≤ c && c ≤ 'Z') || ('0' ≤ c && c ≤ '9') || c == '-' || c == '_'

/-- What `secrets.token_urlsafe` returns for a positive number of bytes. -/
structure UrlSafeToken where
  text : String
  nonempty : text ≠ ""
  urlsafe : text.toList.all isUrlSafe = true
  deriving DecidableEq

/-- `text.split("\n")` -/
def splitLines (text : String) : List String := (text.toList.splitOn '\n').map String.ofList

/-! ## Credentials and principals -/

/-- `SUPPORTED_OPERATOR_PERMISSIONS` -/
def SUPPORTED_OPERATOR_PERMISSIONS : List String :=
  ["operational_intent:create", "provider_intent:update", "installation_destination:select",
    "installation_delivery_preflight:create", "installation_delivery_preflight:read",
    "installation_delivery_enablement:create", "installation_delivery_enablement:read",
    "installation.execution.permission.grant", "installation.execution.permission.grant.read",
    "installation.execution.admission.record", "installation.execution.admission.read",
    "installation.runner.binding.plan.record", "installation.runner.binding.plan.read",
    "installation.execution.worker_admission_stub.record",
    "installation.execution.worker_admission_stub.read",
    "installation.execution.worker_queue_reservation.record",
    "installation.execution.worker_queue_reservation.read",
    "installation.execution.worker_intake_admission.record",
    "installation.execution.worker_intake_admission.read",
    "installation.execution.live_enqueue_admission.record",
    "installation.execution.live_enqueue_admission.read",
    "installation.execution.one_shot_live_enqueue.record",
    "installation.execution.one_shot_live_enqueue.read",
    "installation.execution.queue_observation.record",
    "installation.execution.queue_observation.read",
    "installation.execution.controlled_dequeue_admission.record",
    "installation.execution.controlled_dequeue_admission.read",
    "installation.execution.one_shot_controlled_dequeue.record",
    "installation.execution.one_shot_controlled_dequeue.read",
    "installation.execution.one_shot_dequeue_worker_binding.record",
    "installation.execution.one_shot_dequeue_worker_binding.read",
    "installation.execution.worker_binding_activation_preflight.record",
    "installation.execution.worker_binding_activation_preflight.read",
    "installation.execution.worker_binding_activation_evidence.record",
    "installation.execution.worker_binding_activation_evidence.read",
    "installation.execution.controlled_worker_queue_claim_admission.record",
    "installation.execution.controlled_worker_queue_claim_admission.read",
    "installation.execution.controlled_worker_queue_claim_lease_acknowledgement_prerequisite.record",
    "installation.execution.controlled_worker_queue_claim_lease_acknowledgement_prerequisite.read",
    "installation.execution.controlled_worker_queue_claim_lease_acknowledgement_admission.record",
    "installation.execution.controlled_worker_queue_claim_lease_acknowledgement_admission.read",
    "installation.execution.controlled_worker_queue_claim_lease_acknowledgement.evaluate",
    "installation.execution.controlled_worker_queue_claim_lease_acknowledgement.read",
    "installation.execution.worker_activation_runtime_prerequisite.evaluate",
    "installation.execution.worker_activation_runtime_prerequisite.read",
    "installation.execution.worker_activation_runtime_admission.evaluate",
    "installation.execution.worker_activation_runtime_admission.read",
    "installation.execution.worker_activation_runtime_interface_prerequisite.evaluate",
    "installation.execution.worker_activation_runtime_interface_prerequisite.read",
    "installation.execution.worker_activation_runtime_plan_review.evaluate",
    "installation.execution.worker_activation_runtime_plan_review.read",
    "installation.execution.worker_activation_runtime_plan.evaluate",
    "installation.execution.worker_activation_runtime_plan.read",
    "installation.execution.worker_activation_runtime_definition.evaluate",
    "installation.execution.worker_activation_runtime_definition.read"]

/-- `OperatorCredential`, without the password hash and the flag that sessions do not read. -/
structure OperatorCredential where
  operator_id : String
  permissions : List String
  unique : permissions.Nodup
  supported : permissions ⊆ SUPPORTED_OPERATOR_PERMISSIONS

/-- `OperatorPrincipal` -/
structure OperatorPrincipal where
  operator_id : String
  authenticated_at : DateTime
  permissions : List String
  deriving DecidableEq

/-- `CreatedOperatorSession` -/
structure CreatedOperatorSession where
  session_token : UrlSafeToken
  csrf_token : UrlSafeToken
  principal : OperatorPrincipal
  expires_at : DateTime
  deriving DecidableEq

/-- `ResolvedOperatorSession` -/
structure ResolvedOperatorSession where
  token_digest : String
  principal : OperatorPrincipal
  expires_at : DateTime
  csrf_digest : String
  deriving DecidableEq

/-! ## The table -/

/-- A row of `operator_sessions`. -/
structure SessionRow where
  session_id : String
  token_digest : String
  operator_id : String
  permissions : String
  authenticated_at : String
  expires_at : String
  csrf_digest : String
  revoked : Bool
  revoked_at : Option String
  deriving DecidableEq

/-- The constraints of the table: the primary key and the unique digest. -/
def SessionRow.clash (a b : SessionRow) : Bool :=
  a.session_id == b.session_id || a.token_digest == b.token_digest

/-- What the operations of the store raise. -/
inductive SessionError where
  | python (error : PyError)
  | integrityError
  deriving DecidableEq

/-- `UnicodeEncodeError`, which is a `ValueError`. -/
def unicodeEncodeError : SessionError :=
  .python (.valueError "'ascii' codec can't encode characters: ordinal not in range(128)")

/-- `secrets.compare_digest` on texts. -/
def compareDigest (a b : String) : Except SessionError Bool :=
  if isascii a && isascii b then .ok (a = b)
  else .error (.python (.typeError
    "comparing strings with non-ASCII characters is not supported"))

/-! ## The store -/

/-- `OperatorSessionStore` over a file, without its rows. -/
structure OperatorSessionStore where
  py : Python
  lifetime_seconds : ℤ

namespace OperatorSessionStore

variable (store : OperatorSessionStore)

/-- `_digest` -/
def digest (value : String) : Except SessionError String :=
  if isascii value then .ok (store.py.sha256 value) else .error unicodeEncodeError

/-- `authenticated_at + timedelta(seconds=self.lifetime_seconds)` -/
def expiry (authenticated_at : Instant) : Except SessionError Instant :=
  let micros : ℤ := authenticated_at.val + store.lifetime_seconds * 1000000
  if h : 0 ≤ micros ∧ micros < MAX_MICROS then .ok ⟨micros.toNat, by omega⟩
  else .error (.python .overflowError)

/-- `datetime.fromisoformat` -/
def fromisoformat (text : String) : Except SessionError DateTime :=
  match store.py.fromisoformat text with
  | some time => .ok time
  | none => .error (.python (.valueError "Invalid isoformat string"))

/-- The principal of a new session. -/
def principalOf (credential : OperatorCredential) (authenticated_at : Instant) : OperatorPrincipal where
  operator_id := credential.operator_id
  authenticated_at := .utc authenticated_at
  permissions := credential.permissions.insertionSort (· ≤ ·)

/-- `INSERT INTO operator_sessions` -/
def insertRow (row : SessionRow) (rows : List SessionRow) : Except SessionError (List SessionRow) :=
  match Rows.insert SessionRow.clash row rows with
  | some rows => .ok rows
  | none => .error .integrityError

/-- The values of the row of a new session. -/
def newRow (credential : OperatorCredential) (now expires_at : Instant)
    (session_id token_digest csrf_digest : String) : SessionRow where
  session_id
  token_digest
  operator_id := credential.operator_id
  permissions := join "\n" (principalOf credential now).permissions
  authenticated_at := store.py.isoformat (.utc now)
  expires_at := store.py.isoformat (.utc expires_at)
  csrf_digest
  revoked := false
  revoked_at := none

/-- `create`, for the texts that `secrets` generates. -/
def create (credential : OperatorCredential) (now : Instant) (session_id : String)
    (session_token csrf_token : UrlSafeToken) (rows : List SessionRow) :
    Except SessionError (CreatedOperatorSession × List SessionRow) := do
  let expires_at ← store.expiry now
  let token_digest ← store.digest session_token.text
  let csrf_digest ← store.digest csrf_token.text
  let rows ← insertRow
    (store.newRow credential now expires_at session_id token_digest csrf_digest) rows
  return (⟨session_token, csrf_token, principalOf credential now, .utc expires_at⟩, rows)

/-- The rest of `resolve` for the row that was found. -/
def openRow (row : SessionRow) (token_digest : String) (now : Instant) :
    Except SessionError (Option ResolvedOperatorSession) := do
  if row.revoked then return none
  else if !(← compareDigest row.token_digest token_digest) then return none
  else
    let expires_at ← store.fromisoformat row.expires_at
    if ← (expires_at.le (.utc now)).mapError .python then return none
    else
      let authenticated_at ← store.fromisoformat row.authenticated_at
      return some {
        token_digest
        principal := {
          operator_id := row.operator_id
          authenticated_at
          permissions := (splitLines row.permissions).filter (· ≠ "") }
        expires_at
        csrf_digest := row.csrf_digest }

/-- `resolve` -/
def resolve (token : Option String) (now : Instant) (rows : List SessionRow) :
    Except SessionError (Option ResolvedOperatorSession) := do
  let token := token.getD ""
  if token = "" then return none
  else
    let token_digest ← store.digest token
    match rows.find? fun row => row.token_digest = token_digest with
    | none => return none
    | some row => store.openRow row token_digest now

/-- `rotate_csrf`, for the text that `secrets` generates. -/
def rotateCsrf (session : ResolvedOperatorSession) (csrf_token : UrlSafeToken)
    (rows : List SessionRow) : Except SessionError (UrlSafeToken × List SessionRow) := do
  let csrf_digest ← store.digest csrf_token.text
  return (csrf_token, rows.map fun row =>
    if row.token_digest = session.token_digest ∧ row.revoked = false then { row with csrf_digest }
    else row)

/-- `verify_csrf` -/
def verifyCsrf (session : ResolvedOperatorSession) (supplied : Option String) :
    Except SessionError Bool := do
  let supplied := supplied.getD ""
  if supplied = "" then return false
  else compareDigest session.csrf_digest (← store.digest supplied)

/-- `revoke` -/
def revoke (session : ResolvedOperatorSession) (now : Instant) (rows : List SessionRow) :
    List SessionRow :=
  rows.map fun row =>
    if row.token_digest = session.token_digest then
      { row with revoked := true, revoked_at := some (store.py.isoformat (.utc now)) }
    else row

end OperatorSessionStore

/-! ## Calls -/

/-- An operation of the store, with the clock and the texts that it is given. -/
inductive SessionCall where
  | create (credential : OperatorCredential) (now : Instant) (session_id : String)
      (session_token csrf_token : UrlSafeToken)
  | resolve (token : Option String) (now : Instant)
  | rotateCsrf (session : ResolvedOperatorSession) (csrf_token : UrlSafeToken)
  | verifyCsrf (session : ResolvedOperatorSession) (supplied : Option String)
  | revoke (session : ResolvedOperatorSession) (now : Instant)
  /-- The store is opened again over the same file. -/
  | reopen

inductive SessionAnswer where
  | created (session : CreatedOperatorSession)
  | resolved (session : Option ResolvedOperatorSession)
  | rotated (csrf_token : UrlSafeToken)
  | verified (accepted : Bool)
  | done
  | raised (error : SessionError)
  deriving DecidableEq

/-- The store as an object. A call that raises leaves the rows as they are. -/
def OperatorSessionStore.object (store : OperatorSessionStore) :
    Object (List SessionRow) SessionCall SessionAnswer
  | rows, .create credential now session_id session_token csrf_token =>
      match store.create credential now session_id session_token csrf_token rows with
      | .ok (session, rows) => (.created session, rows)
      | .error error => (.raised error, rows)
  | rows, .resolve token now =>
      match store.resolve token now rows with
      | .ok session => (.resolved session, rows)
      | .error error => (.raised error, rows)
  | rows, .rotateCsrf session csrf_token =>
      match store.rotateCsrf session csrf_token rows with
      | .ok (csrf_token, rows) => (.rotated csrf_token, rows)
      | .error error => (.raised error, rows)
  | rows, .verifyCsrf session supplied =>
      match store.verifyCsrf session supplied with
      | .ok accepted => (.verified accepted, rows)
      | .error error => (.raised error, rows)
  | rows, .revoke session now => (.done, store.revoke session now rows)
  | rows, .reopen => (.done, rows)

end AtlasOS.OperatorAuth
