import Mathlib.Data.List.Lex
import AtlasOS.ProviderIntents.StoreRuns

/-!
# Resolution of monitoring intents

`read_snapshot` of the store, and `ProviderMonitoringIntentResolver.resolve`,
which compares the active records of a snapshot with the live resources. No
expectation crosses incarnations: a virtual machine gets the expectation of the
active record that is bound to its own fingerprint, and of no other record.
-/

namespace AtlasOS.ProviderIntents

/-! ## Projections -/

/-- `ManagedResourceIdentityAssurance` -/
inductive ManagedResourceIdentityAssurance where
  | authoritative | unavailable | unsupported
  deriving DecidableEq

/-- The part of `ManagedResourceProjection` that the resolver reads. -/
structure ManagedResourceProjectionFields where
  provider_id : String
  resource_id : String
  resource_type : String
  missing : Bool := false
  identity_assurance : ManagedResourceIdentityAssurance
  management_fingerprint : Option String := none
  deriving DecidableEq

/-- The constraints on these fields, and the first check of `validate_identity_assurance`. -/
def ManagedResourceProjectionFields.modelValidate (p : ManagedResourceProjectionFields) :
    Except PyError Unit := do
  require (matchesKebab p.provider_id) (fieldError "provider_id")
  require (decide (1 ≤ p.resource_id.length)) (fieldError "resource_id")
  require (decide (1 ≤ p.resource_type.length)) (fieldError "resource_type")
  require (p.management_fingerprint.all matchesManagementFingerprint)
    (fieldError "management_fingerprint")
  require (decide (p.identity_assurance = .authoritative) == p.management_fingerprint.isSome)
    (.valueError "only authoritative identity may have a management fingerprint.")

/-- `ManagedResourceProjection` -/
structure ManagedResourceProjection extends ManagedResourceProjectionFields where
  valid : toManagedResourceProjectionFields.modelValidate = .ok ()
  deriving DecidableEq

namespace ManagedResourceProjection

variable (p : ManagedResourceProjection)

theorem provider : matchesKebab p.provider_id = true := by
  have hvalid := p.valid
  simp only [ManagedResourceProjectionFields.modelValidate, require_bind_eq_ok] at hvalid
  exact hvalid.1

theorem resource : 1 ≤ p.resource_id.length ∧ 1 ≤ p.resource_type.length := by
  have hvalid := p.valid
  simp only [ManagedResourceProjectionFields.modelValidate, require_bind_eq_ok,
    decide_eq_true_eq] at hvalid
  exact ⟨hvalid.2.1, hvalid.2.2.1⟩

theorem fingerprint : p.management_fingerprint.all matchesManagementFingerprint = true := by
  have hvalid := p.valid
  simp only [ManagedResourceProjectionFields.modelValidate, require_bind_eq_ok] at hvalid
  exact hvalid.2.2.2.1

/-- Exactly the projections with authoritative identity have a fingerprint. -/
theorem assurance : p.identity_assurance = .authoritative ↔
    p.management_fingerprint.isSome = true := by
  have hvalid := p.valid
  simp only [ManagedResourceProjectionFields.modelValidate, require_bind_eq_ok, require_eq_ok,
    beq_iff_eq] at hvalid
  rw [← hvalid.2.2.2.2, decide_eq_true_eq]

/-- No fingerprint is empty. -/
theorem fingerprint_ne_empty : p.management_fingerprint ≠ some "" := by
  intro hempty
  have hfingerprint := p.fingerprint
  rw [hempty, Option.all_some, matchesManagementFingerprint, matchesVersioned,
    Bool.and_eq_true, List.isPrefixOf_iff_prefix] at hfingerprint
  simp [versioned] at hfingerprint

end ManagedResourceProjection

/-! ## Snapshots of the store -/

/-- `ProviderIntentReadSnapshot` -/
structure ProviderIntentReadSnapshot where
  current_identity_bound_records : List ProviderIntentRecord
  active_identity_bound_records : List ProviderIntentRecord
  legacy_unbound_records : List ProviderIntentRecord

/-- `_record_order` -/
def recordOrder (r : ProviderIntentRecord) : List String :=
  [r.provider_id, r.resource_type.getD "", r.resource_id, r.incarnation_fingerprint.getD "",
    StrEnum.value r.intent_kind, r.intent_id]

/-- The version of a record with leading zeros, `f"{record.record_version:020d}"`. -/
def paddedVersion (version : Int) : String :=
  let digits := toString version.natAbs
  (if version < 0 then "-" else "") ++
    String.ofList (List.replicate (20 - digits.length - if version < 0 then 1 else 0) '0') ++ digits

/-- `_history_record_order` -/
def historyRecordOrder (r : ProviderIntentRecord) : List String :=
  recordOrder r ++ [paddedVersion r.record_version]

/-- The records that a snapshot has, of validated histories. -/
def snapshotOf (histories : List (List ProviderIntentRecord)) : ProviderIntentReadSnapshot :=
  let identity_bound := Rows.orderBy recordOrder <| (histories.filterMap List.getLast?).filter
    fun record => record.resource_type.isSome && record.incarnation_fingerprint.isSome
  { current_identity_bound_records := identity_bound
    active_identity_bound_records :=
      identity_bound.filter fun record => decide (record.lifecycle = .active)
    legacy_unbound_records := Rows.orderBy historyRecordOrder <|
      histories.flatten.filter fun record => decide (record.lifecycle = .legacyUnbound) }

/-- `read_snapshot` -/
def readSnapshot (py : Python) (pd : Pydantic) (db : Database) :
    Except StoreError ProviderIntentReadSnapshot :=
  ((validatedStoreRecords py pd db).map snapshotOf).mapError
    (failClosed "provider intent read snapshot validation failed")

/-! ## Resolutions -/

/-- `ProviderIntentResolutionStatus` -/
inductive ProviderIntentResolutionStatus where
  | configured | needsReview | missing | unsupported | unavailable
  deriving DecidableEq

instance : StrEnum ProviderIntentResolutionStatus where
  value
    | .configured => "configured"
    | .needsReview => "needs_review"
    | .missing => "missing"
    | .unsupported => "unsupported"
    | .unavailable => "unavailable"
  members := [.configured, .needsReview, .missing, .unsupported, .unavailable]
  find_value s := by cases s <;> simp

/-- `ProviderIntentResolutionReason` -/
inductive ProviderIntentResolutionReason where
  | matchingActiveIntent | noActiveIntent | legacyUnboundEvidence | incarnationMismatch
  | identityUnavailable | resourceMissing | resourceTypeUnsupported | authorityStoreUnavailable
  | authorityNotActivated
  deriving DecidableEq

/-- `valid_reasons` -/
def validReasons : ProviderIntentResolutionStatus → List ProviderIntentResolutionReason
  | .configured => [.matchingActiveIntent]
  | .needsReview =>
    [.noActiveIntent, .legacyUnboundEvidence, .incarnationMismatch, .identityUnavailable]
  | .missing => [.resourceMissing]
  | .unsupported => [.resourceTypeUnsupported]
  | .unavailable => [.authorityStoreUnavailable, .authorityNotActivated]

/-- `ProviderIntentResolution` -/
structure ProviderIntentResolution where
  provider_id : String
  resource_type : String
  resource_id : String
  status : ProviderIntentResolutionStatus
  reason : ProviderIntentResolutionReason
  expectation : Option ProviderIntentValue := none
  record_version : Option Int := none
  bound_management_fingerprint : Option String := none
  legacy_review_available : Bool := false
  legacy_expectation : Option ProviderIntentValue := none
  replacement_detected : Bool := false
  deriving DecidableEq

namespace ProviderIntentResolution

/-- The constraints on the fields, and `validate_resolution`. -/
def modelValidate (r : ProviderIntentResolution) : Except PyError Unit := do
  require (matchesKebab r.provider_id) (fieldError "provider_id")
  require (decide (1 ≤ r.resource_type.length)) (fieldError "resource_type")
  require (lengthWithin 1 200 r.resource_id) (fieldError "resource_id")
  require (r.record_version.all fun version => decide (1 ≤ version)) (fieldError "record_version")
  require (r.bound_management_fingerprint.all matchesManagementFingerprint)
    (fieldError "bound_management_fingerprint")
  require (decide (r.reason ∈ validReasons r.status))
    (.valueError "provider intent resolution status and reason contradict")
  let authoritative := decide (r.status = .configured) || decide (r.status = .missing)
  require (authoritative == (r.expectation.isSome && r.record_version.isSome))
    (.valueError "configured or missing intent requires expectation and version")
  require (authoritative == r.bound_management_fingerprint.isSome)
    (.valueError "configured or missing intent requires its sanitized binding")
  require (r.legacy_review_available == r.legacy_expectation.isSome)
    (.valueError "legacy review flag and expectation must agree")
  require (r.replacement_detected == decide (r.reason = .incarnationMismatch))
    (.valueError "replacement flag and reason must agree")

/-- The constructor of a resolution. -/
def create (r : ProviderIntentResolution) : Except StoreError ProviderIntentResolution := do
  checked r.modelValidate
  return r

end ProviderIntentResolution

/-- `_resolution_order` -/
def resolutionOrder (r : ProviderIntentResolution) : List String :=
  [r.provider_id, r.resource_type, r.resource_id, r.bound_management_fingerprint.getD "",
    StrEnum.value r.status]

/-- `ProviderIntentActivation` -/
inductive ProviderIntentActivation where
  | notActivated | activated
  deriving DecidableEq

/-- `ProviderIntentResolutionSet` -/
structure ProviderIntentResolutionSet where
  activation : ProviderIntentActivation
  authority_available : Bool
  authority_reason : Option ProviderIntentResolutionReason := none
  resources : List ProviderIntentResolution
  deriving DecidableEq

namespace ProviderIntentResolutionSet

/-- `validate_authority` -/
def modelValidate (s : ProviderIntentResolutionSet) : Except PyError Unit := do
  require (!(s.authority_available == s.authority_reason.isSome))
    (.valueError "authority availability and reason contradict")
  require (decide (Rows.orderBy resolutionOrder s.resources = s.resources))
    (.valueError "provider intent resolutions are not canonical")
  require (!(s.authority_available && s.resources.any fun r => decide (r.status = .unavailable)))
    (.valueError "available authority cannot return unavailable resources")
  require (!(!s.authority_available && s.resources.any fun r => decide (r.status ≠ .unavailable)))
    (.valueError "unavailable authority must fail every resource closed")

/-- The constructor of a set of resolutions. -/
def create (s : ProviderIntentResolutionSet) : Except StoreError ProviderIntentResolutionSet := do
  checked s.modelValidate
  return s

end ProviderIntentResolutionSet

/-! ## The resolver -/

/-- The key that the live resources are sorted by. -/
def projectionOrder (p : ManagedResourceProjection) : List String :=
  [p.provider_id, p.resource_type, p.resource_id, p.management_fingerprint.getD ""]

/-- The live resources in order. -/
def ordered (snapshots : List ManagedResourceProjection) : List ManagedResourceProjection :=
  Rows.orderBy projectionOrder (snapshots.filter fun snapshot => !snapshot.missing)

/-- `legacy_by_coordinate`: a later record replaces an earlier one. -/
def legacyByCoordinate (records : List ProviderIntentRecord) (provider_id resource_id : String) :
    Option ProviderIntentValue :=
  (records.reverse.find? fun record =>
    decide (record.provider_id = provider_id ∧ record.resource_id = resource_id)).map (·.intent_value)

/-- Whether a record is about the coordinate of a resource. -/
def sameCoordinate (snapshot : ManagedResourceProjection) (record : ProviderIntentRecord) : Bool :=
  decide (record.provider_id = snapshot.provider_id ∧
    record.resource_type = some snapshot.resource_type ∧
    record.resource_id = snapshot.resource_id)

/-- The resolution of a live resource, before its validators. -/
def resolution (active : List ProviderIntentRecord)
    (legacy : String → String → Option ProviderIntentValue) (snapshot : ManagedResourceProjection) :
    ProviderIntentResolution :=
  let legacy_expectation := legacy snapshot.provider_id snapshot.resource_id
  let resolved (status : ProviderIntentResolutionStatus) (reason : ProviderIntentResolutionReason) :
      ProviderIntentResolution :=
    { provider_id := snapshot.provider_id
      resource_type := snapshot.resource_type
      resource_id := snapshot.resource_id
      status, reason
      legacy_review_available := legacy_expectation.isSome
      legacy_expectation }
  if snapshot.provider_id ≠ "proxmox" ∨ snapshot.resource_type ≠ "qemu" then
    resolved .unsupported .resourceTypeUnsupported
  else if snapshot.identity_assurance ≠ .authoritative ∨ snapshot.management_fingerprint = none then
    resolved .needsReview .identityUnavailable
  else
    let coordinate := active.filter (sameCoordinate snapshot)
    let matching := coordinate.filter fun record =>
      decide (record.incarnation_fingerprint = snapshot.management_fingerprint)
    match matching with
    | record :: _ =>
      { resolved .configured .matchingActiveIntent with
        expectation := some record.intent_value
        record_version := some record.record_version
        bound_management_fingerprint := record.incarnation_fingerprint }
    | [] =>
      if coordinate ≠ [] then
        { resolved .needsReview .incarnationMismatch with replacement_detected := true }
      else
        resolved .needsReview
          (if legacy_expectation.isSome then .legacyUnboundEvidence else .noActiveIntent)

/-- `_resolve_one` -/
def resolveOne (active : List ProviderIntentRecord)
    (legacy : String → String → Option ProviderIntentValue) (snapshot : ManagedResourceProjection) :
    Except StoreError ProviderIntentResolution :=
  (resolution active legacy snapshot).create

/-- The entry of an active record whose resource is not live. -/
def missingResolution (record : ProviderIntentRecord) : ProviderIntentResolution where
  provider_id := record.provider_id
  resource_type := record.resource_type.getD ""
  resource_id := record.resource_id
  status := .missing
  reason := .resourceMissing
  expectation := some record.intent_value
  record_version := some record.record_version
  bound_management_fingerprint := record.incarnation_fingerprint

/-- The active records of virtual machines that are not live. -/
def absentRecords (active : List ProviderIntentRecord) (live : List ManagedResourceProjection) :
    List ProviderIntentRecord :=
  active.filter fun record => decide (record.resource_type = some "qemu") &&
    live.all fun snapshot => !sameCoordinate snapshot record

/-- `_unavailable` -/
def unavailable (activation : ProviderIntentActivation) (reason : ProviderIntentResolutionReason)
    (snapshots : List ManagedResourceProjection) : Except StoreError ProviderIntentResolutionSet := do
  let resources ← snapshots.mapM fun snapshot =>
    ProviderIntentResolution.create
      { provider_id := snapshot.provider_id
        resource_type := snapshot.resource_type
        resource_id := snapshot.resource_id
        status := .unavailable
        reason }
  ProviderIntentResolutionSet.create
    { activation, authority_available := false, authority_reason := some reason, resources }

/-- The part of `resolve` that an error of the store interrupts. -/
def resolveLive (py : Python) (pd : Pydantic) (activation : ProviderIntentActivation)
    (db : Database) (live : List ManagedResourceProjection) :
    Except StoreError ProviderIntentResolutionSet := do
  let evidence ← readSnapshot py pd db
  let active := evidence.active_identity_bound_records
  let results ← live.mapM (resolveOne active (legacyByCoordinate evidence.legacy_unbound_records))
  let absent ← (absentRecords active live).mapM fun record => (missingResolution record).create
  ProviderIntentResolutionSet.create
    { activation, authority_available := true
      resources := Rows.orderBy resolutionOrder (results ++ absent) }

/-- Whether an error is a `ProviderIntentStoreError`. -/
def StoreError.isStoreError : StoreError → Bool
  | .schema _ | .conflict _ | .corruption _ => true
  | .integrity | .database | .python _ | .assertion | .other => false

/-- `resolve`, with the store of the resolver, if it has one. -/
def resolve (py : Python) (pd : Pydantic) (activation : ProviderIntentActivation)
    (store : Option Database) (snapshots : List ManagedResourceProjection) :
    Except StoreError ProviderIntentResolutionSet :=
  if activation = .notActivated then
    unavailable activation .authorityNotActivated (ordered snapshots)
  else
    match store with
    | none => unavailable activation .authorityStoreUnavailable (ordered snapshots)
    | some db =>
      match resolveLive py pd activation db (ordered snapshots) with
      | .ok resolved => .ok resolved
      | .error error =>
        if error.isStoreError then
          unavailable activation .authorityStoreUnavailable (ordered snapshots)
        else .error error

end AtlasOS.ProviderIntents
