import AtlasOS.Agent.Codec.Session

/-!
# The codec of approvals

The encoders and decoders of `snapshot.py` for approval requests, decisions and
results. The decoder rewrites the purpose of the requests that older versions
wrote for workflow shells.
-/

namespace AtlasOS.Agent

variable {py : Python}

/-- `_encode_verification_approval_environment` -/
def encodeVerificationApprovalEnvironment (v : VerificationApprovalEnvironment) : Fields :=
  [("name", .str v.name), ("value_digest", .str v.value_digest)]

/-- `_decode_verification_approval_environment` -/
def decodeVerificationApprovalEnvironment (payload : Fields) :
    Except PyError VerificationApprovalEnvironment := do
  let digest ← requireStr payload "value_digest"
  validateDigest digest
  let name ← requireStr payload "name"
  return { name, value_digest := digest }

theorem decode_encodeVerificationApprovalEnvironment {v : VerificationApprovalEnvironment}
    (h : validateDigest v.value_digest = .ok ()) :
    decodeVerificationApprovalEnvironment (encodeVerificationApprovalEnvironment v) = .ok v := by
  simp [decodeVerificationApprovalEnvironment, encodeVerificationApprovalEnvironment, h]

theorem validateDigest_of_decodeVerificationApprovalEnvironment {payload : Fields}
    {v : VerificationApprovalEnvironment}
    (h : decodeVerificationApprovalEnvironment payload = .ok v) :
    validateDigest v.value_digest = .ok () := by
  simp only [decodeVerificationApprovalEnvironment, bind_eq_ok, exists_unit, pure_eq_ok,
    Except.ok.injEq] at h
  obtain ⟨_, -, hdigest, _, -, rfl⟩ := h
  exact hdigest

/-- `_encode_verification_approval_check` -/
def encodeVerificationApprovalCheck (c : VerificationApprovalCheck) : Fields :=
  [("command", strings c.command),
    ("environment", objects encodeVerificationApprovalEnvironment c.environment),
    ("identifier", .str c.identifier),
    ("timeout_seconds", c.timeout_seconds),
    ("working_directory", pathJson c.working_directory)]

/-- `_decode_verification_approval_check` -/
def decodeVerificationApprovalCheck (payload : Fields) :
    Except PyError VerificationApprovalCheck := do
  let identifier ← requireStr payload "identifier"
  let command ← tupleStr (payload.getD "command" (.arr []))
  let working_directory ← decodePath (payload.get "working_directory")
  let timeout_seconds := payload.get "timeout_seconds"
  let environment ← objectList decodeVerificationApprovalEnvironment
    (payload.getD "environment" (.arr []))
  return { identifier, command, working_directory, timeout_seconds, environment }

/-- Whether the digests of an approved check are well formed. -/
def VerificationApprovalCheck.WellDigested (c : VerificationApprovalCheck) : Prop :=
  ∀ v ∈ c.environment, validateDigest v.value_digest = .ok ()

theorem decode_encodeVerificationApprovalCheck {c : VerificationApprovalCheck}
    (h : c.WellDigested) :
    decodeVerificationApprovalCheck (encodeVerificationApprovalCheck c) = .ok c := by
  have henvironment : objectList decodeVerificationApprovalEnvironment
      (objects encodeVerificationApprovalEnvironment c.environment) = .ok c.environment :=
    objectList_same fun v hv => decode_encodeVerificationApprovalEnvironment (h v hv)
  simp [decodeVerificationApprovalCheck, encodeVerificationApprovalCheck, henvironment]

theorem wellDigested_of_decodeVerificationApprovalCheck {payload : Fields}
    {c : VerificationApprovalCheck} (h : decodeVerificationApprovalCheck payload = .ok c) :
    c.WellDigested := by
  simp only [decodeVerificationApprovalCheck, bind_eq_ok, pure_eq_ok, Except.ok.injEq] at h
  obtain ⟨_, -, _, -, _, -, environment, henvironment, rfl⟩ := h
  exact objectList_forall (fun _ _ => validateDigest_of_decodeVerificationApprovalEnvironment)
    henvironment

/-- `_encode_commit_metadata` -/
def encodeCommitMetadata (m : CommitApprovalMetadata) : Fields :=
  [("commit_message", .str m.commit_message),
    ("expected_branch", m.expected_branch),
    ("expected_head", m.expected_head),
    ("reviewed_content_fingerprint", .str m.reviewed_content_fingerprint),
    ("reviewed_files", paths m.reviewed_files)]

/-- `_decode_commit_metadata` of an object. -/
def decodeCommitMetadata (payload : Fields) : Except PyError CommitApprovalMetadata := do
  let fingerprint ← requireStr payload "reviewed_content_fingerprint"
  validateDigest fingerprint
  let expected_branch := payload.get "expected_branch"
  let expected_head := payload.get "expected_head"
  let reviewed_files ← tuplePath (payload.getD "reviewed_files" (.arr []))
  let commit_message ← requireStr payload "commit_message"
  return { expected_branch, expected_head, reviewed_files,
           reviewed_content_fingerprint := fingerprint, commit_message }

theorem decode_encodeCommitMetadata {m : CommitApprovalMetadata}
    (h : validateDigest m.reviewed_content_fingerprint = .ok ()) :
    decodeCommitMetadata (encodeCommitMetadata m) = .ok m := by
  simp [decodeCommitMetadata, encodeCommitMetadata, h]

theorem validateDigest_of_decodeCommitMetadata {payload : Fields} {m : CommitApprovalMetadata}
    (h : decodeCommitMetadata payload = .ok m) :
    validateDigest m.reviewed_content_fingerprint = .ok () := by
  simp only [decodeCommitMetadata, bind_eq_ok, exists_unit, pure_eq_ok, Except.ok.injEq] at h
  obtain ⟨_, -, hdigest, _, -, _, -, rfl⟩ := h
  exact hdigest

/-- `_encode_operational_metadata` -/
def encodeOperationalMetadata (py : Python) (m : OperationalApprovalMetadata) : Fields :=
  [("action_request_id", .str m.action_request_id),
    ("action_request_digest", .str m.action_request_digest),
    ("candidate_id", .str m.candidate_id),
    ("candidate_fingerprint", .str m.candidate_fingerprint),
    ("operational_plan_fingerprint", .str m.operational_plan_fingerprint),
    ("provider_id", .str m.provider_id),
    ("resource_id", .str m.resource_id),
    ("resource_type", .str m.resource_type),
    ("target_fingerprint", .str m.target_fingerprint),
    ("target_version", m.target_version),
    ("operation_intent", .str m.operation_intent),
    ("disruption_scope", .str m.disruption_scope),
    ("verification_digest", .str m.verification_digest),
    ("generated_at", datetimeJson py m.generated_at),
    ("expires_at", datetimeJson py m.expires_at)]

/-- The fields that persisted operational approval metadata may have. -/
def operationalMetadataNames : List String :=
  ["action_request_id", "action_request_digest", "candidate_id", "candidate_fingerprint",
    "operational_plan_fingerprint", "provider_id", "resource_id", "resource_type",
    "target_fingerprint", "target_version", "operation_intent", "disruption_scope",
    "verification_digest", "generated_at", "expires_at"]

/-- `_decode_operational_metadata` of an object. -/
def decodeOperationalMetadata (py : Python) (payload : Fields) :
    Except PyError OperationalApprovalMetadata := do
  rejectUnknownFields payload operationalMetadataNames
  let action_request_id ← requireStr payload "action_request_id"
  let action_request_digest ← requireStr payload "action_request_digest"
  let candidate_id ← requireStr payload "candidate_id"
  let candidate_fingerprint ← requireStr payload "candidate_fingerprint"
  let operational_plan_fingerprint ← requireStr payload "operational_plan_fingerprint"
  let provider_id ← requireStr payload "provider_id"
  let resource_id ← requireStr payload "resource_id"
  let resource_type ← requireStr payload "resource_type"
  let target_fingerprint ← requireStr payload "target_fingerprint"
  let target_version := payload.get "target_version"
  let operation_intent ← requireStr payload "operation_intent"
  let disruption_scope ← requireStr payload "disruption_scope"
  let verification_digest ← requireStr payload "verification_digest"
  let generated_at ← decodeDatetime py (payload.get "generated_at")
  let expires_at ← decodeDatetime py (payload.get "expires_at")
  let metadata : OperationalApprovalMetadata :=
    { action_request_id, action_request_digest, candidate_id, candidate_fingerprint,
      operational_plan_fingerprint, provider_id, resource_id, resource_type, target_fingerprint,
      target_version, operation_intent, disruption_scope, verification_digest, generated_at,
      expires_at }
  metadata.postInit
  return metadata

theorem decode_encodeOperationalMetadata {m : OperationalApprovalMetadata}
    (h : m.postInit = .ok ()) :
    decodeOperationalMetadata py (encodeOperationalMetadata py m) = .ok m := by
  have hknown : rejectUnknownFields (encodeOperationalMetadata py m) operationalMetadataNames =
      .ok () := by
    refine rejectUnknownFields_eq_ok fun key hkey => ?_
    simpa [encodeOperationalMetadata, Fields.keys, operationalMetadataNames] using hkey
  rw [decodeOperationalMetadata, hknown]
  simp [encodeOperationalMetadata, h]

theorem postInit_of_decodeOperationalMetadata {payload : Fields}
    {m : OperationalApprovalMetadata} (h : decodeOperationalMetadata py payload = .ok m) :
    m.postInit = .ok () := by
  simp only [decodeOperationalMetadata, bind_eq_ok, exists_unit, pure_eq_ok,
    Except.ok.injEq] at h
  obtain ⟨-, _, -, _, -, _, -, _, -, _, -, _, -, _, -, _, -, _, -, _, -, _, -, _, -, _, -, _, -,
    hinit, rfl⟩ := h
  exact hinit

/-! ## Requests, decisions and results -/

/-- `_encode_approval_request` -/
def encodeApprovalRequest (py : Python) (r : ApprovalRequest) : Fields :=
  [("checkpoint_id", .str r.checkpoint_id),
    ("commit_metadata", objectOrNull encodeCommitMetadata r.commit_metadata),
    ("operational_metadata", objectOrNull (encodeOperationalMetadata py) r.operational_metadata),
    ("identifier", .str r.identifier),
    ("purpose", .str (StrEnum.value r.purpose)),
    ("rationale", .str r.rationale),
    ("requested_command", strings r.requested_command),
    ("requested_tool", .str r.requested_tool),
    ("requested_working_directory", .nullable pathJson r.requested_working_directory),
    ("title", .str r.title),
    ("verification_checks", objects encodeVerificationApprovalCheck r.verification_checks),
    ("workflow_id", r.workflow_id)]

/-- Whether the workflow of a persisted request is a shell that an older version wrote. -/
def isLegacyShell (legacy_shell_workflow_ids : Option (List String)) (payload : Fields)
    (workflow_id : Unchecked) : Bool :=
  match workflow_id with
  | .str identifier =>
      match legacy_shell_workflow_ids with
      | none =>
          "candidate-workflow-".toList.isPrefixOf identifier.toList &&
            decide (payload.getD "workflow_state" (.str "awaiting_approval") =
              .str (StrEnum.value WorkflowSessionState.awaitingApproval))
      | some identifiers => decide (identifier ∈ identifiers)
  | _ => false

/-- The purpose that the decoder gives to a request. -/
def readPurpose (legacy_shell_workflow_ids : Option (List String)) (payload : Fields)
    (purpose : ApprovalPurpose) (requested_command : List String) (workflow_id : Unchecked) :
    ApprovalPurpose :=
  if purpose = .implementation ∧ requested_command = [] ∧
      isLegacyShell legacy_shell_workflow_ids payload workflow_id = true then
    .candidateWorkflowShell
  else purpose

/-- `_decode_approval_request` -/
def decodeApprovalRequest (py : Python) (legacy_shell_workflow_ids : Option (List String))
    (payload : Fields) : Except PyError ApprovalRequest := do
  let purpose_text ← requireStr payload "purpose"
  let purpose ← readEnum ApprovalPurpose (.str purpose_text)
  let requested_command ← tupleStr (payload.getD "requested_command" (.arr []))
  let workflow_id := payload.get "workflow_id"
  let purpose :=
    readPurpose legacy_shell_workflow_ids payload purpose requested_command workflow_id
  let identifier ← requireStr payload "identifier"
  let checkpoint_id ← requireStr payload "checkpoint_id"
  let title ← requireStr payload "title"
  let requested_tool ← requireStr payload "requested_tool"
  let rationale ← requireStr payload "rationale"
  let requested_working_directory ← decodeOptionalPath (payload.get "requested_working_directory")
  let verification_checks ← objectList decodeVerificationApprovalCheck
    (payload.getD "verification_checks" (.arr []))
  let commit_metadata ← optionalObject "Invalid commit metadata" decodeCommitMetadata
    (payload.get "commit_metadata")
  let operational_metadata ← optionalObject "Invalid operational approval metadata"
    (decodeOperationalMetadata py) (payload.get "operational_metadata")
  return { identifier, checkpoint_id, title, requested_tool, requested_command, rationale,
           workflow_id, requested_working_directory, purpose, verification_checks,
           commit_metadata, operational_metadata }

namespace ApprovalRequest

/-- A request whose parts the decoder accepts. -/
structure Readable (r : ApprovalRequest) : Prop where
  verification : ∀ c ∈ r.verification_checks, c.WellDigested
  commit : ∀ m ∈ r.commit_metadata, validateDigest m.reviewed_content_fingerprint = .ok ()
  operational : ∀ m ∈ r.operational_metadata, m.postInit = .ok ()

/-- Whether a request has the form of those that older versions wrote for the
shells of the given workflows. -/
def LegacyShell (identifiers : List String) (r : ApprovalRequest) : Prop :=
  r.purpose = .implementation ∧ r.requested_command = [] ∧
    ∃ identifier ∈ identifiers, r.workflow_id = .str identifier

instance (identifiers : List String) (r : ApprovalRequest) : Decidable (r.LegacyShell identifiers) :=
  inferInstanceAs (Decidable (_ ∧ _ ∧ _))

/-- The request that is read back for a given one. -/
def rewriteShell (identifiers : List String) (r : ApprovalRequest) : ApprovalRequest :=
  if r.LegacyShell identifiers then { r with purpose := .candidateWorkflowShell } else r

theorem rewriteShell_eq_self {identifiers : List String} {r : ApprovalRequest} :
    r.rewriteShell identifiers = r ↔ ¬r.LegacyShell identifiers := by
  unfold rewriteShell
  split
  · next hlegacy =>
    refine ⟨fun h => ?_, fun h => absurd hlegacy h⟩
    have hpurpose := congrArg ApprovalRequest.purpose h
    rw [hlegacy.1] at hpurpose
    cases hpurpose
  · next hlegacy => simp [hlegacy]

/-- A request that was read back is not rewritten again. -/
theorem not_legacyShell_rewriteShell (identifiers : List String) (r : ApprovalRequest) :
    ¬(r.rewriteShell identifiers).LegacyShell identifiers := by
  unfold rewriteShell
  split
  · rintro ⟨hpurpose, -⟩
    cases hpurpose
  · assumption

end ApprovalRequest

theorem isLegacyShell_eq_true {identifiers : List String} {payload : Fields}
    {workflow_id : Unchecked} :
    isLegacyShell (some identifiers) payload workflow_id = true ↔
      ∃ identifier ∈ identifiers, workflow_id = .str identifier := by
  cases workflow_id <;> simp [isLegacyShell]

theorem readPurpose_eq (identifiers : List String) (payload : Fields) (r : ApprovalRequest) :
    readPurpose (some identifiers) payload r.purpose r.requested_command r.workflow_id =
      (r.rewriteShell identifiers).purpose := by
  by_cases h : r.LegacyShell identifiers
  · rw [ApprovalRequest.rewriteShell, if_pos h]
    obtain ⟨hpurpose, hcommand, hworkflow⟩ := h
    exact if_pos ⟨hpurpose, hcommand, isLegacyShell_eq_true.mpr hworkflow⟩
  · rw [ApprovalRequest.rewriteShell, if_neg h]
    refine if_neg fun hlegacy => h ?_
    exact ⟨hlegacy.1, hlegacy.2.1, isLegacyShell_eq_true.mp hlegacy.2.2⟩

/-- Rewriting a request changes its purpose only. -/
theorem ApprovalRequest.rewriteShell_eq (identifiers : List String) (r : ApprovalRequest) :
    r.rewriteShell identifiers = { r with purpose := (r.rewriteShell identifiers).purpose } := by
  unfold rewriteShell
  split <;> rfl

theorem decode_encodeApprovalRequest {identifiers : List String} {r : ApprovalRequest}
    (h : r.Readable) :
    decodeApprovalRequest py (some identifiers) (encodeApprovalRequest py r) =
      .ok (r.rewriteShell identifiers) := by
  have hchecks : objectList decodeVerificationApprovalCheck
      (objects encodeVerificationApprovalCheck r.verification_checks) =
        .ok r.verification_checks :=
    objectList_same fun c hc => decode_encodeVerificationApprovalCheck (h.verification c hc)
  have hcommit : optionalObject "Invalid commit metadata" decodeCommitMetadata
      (objectOrNull encodeCommitMetadata r.commit_metadata) = .ok r.commit_metadata :=
    optionalObject_same fun m hm => decode_encodeCommitMetadata (h.commit m hm)
  have hoperational : optionalObject "Invalid operational approval metadata"
      (decodeOperationalMetadata py)
      (objectOrNull (encodeOperationalMetadata py) r.operational_metadata) =
        .ok r.operational_metadata :=
    optionalObject_same fun m hm => decode_encodeOperationalMetadata (h.operational m hm)
  have hpurpose := readPurpose_eq identifiers (encodeApprovalRequest py r) r
  rw [r.rewriteShell_eq identifiers]
  simp only [encodeApprovalRequest] at hpurpose
  simp [decodeApprovalRequest, encodeApprovalRequest, hchecks, hcommit, hoperational, hpurpose]

theorem readable_of_decodeApprovalRequest {legacy : Option (List String)} {payload : Fields}
    {r : ApprovalRequest} (h : decodeApprovalRequest py legacy payload = .ok r) : r.Readable := by
  simp only [decodeApprovalRequest, bind_eq_ok, pure_eq_ok, Except.ok.injEq] at h
  obtain ⟨_, -, _, -, _, -, _, -, _, -, _, -, _, -, _, -, _, -, checks, hchecks, commit, hcommit,
    operational, hoperational, rfl⟩ := h
  exact ⟨objectList_forall (fun _ _ => wellDigested_of_decodeVerificationApprovalCheck) hchecks,
    optionalObject_forall (fun _ _ => validateDigest_of_decodeCommitMetadata) hcommit,
    optionalObject_forall (fun _ _ => postInit_of_decodeOperationalMetadata) hoperational⟩

/-- `_encode_approval_decision` -/
def encodeApprovalDecision (py : Python) (d : ApprovalDecision) : Fields :=
  [("reason", d.reason),
    ("request", .obj (encodeApprovalRequest py d.request)),
    ("reviewer", d.reviewer),
    ("status", .str (StrEnum.value d.status))]

/-- `_decode_approval_decision` -/
def decodeApprovalDecision (py : Python) (legacy_shell_workflow_ids : Option (List String))
    (payload : Fields) : Except PyError ApprovalDecision := do
  let request_fields ← requireDict payload "request"
  let request ← decodeApprovalRequest py legacy_shell_workflow_ids request_fields
  let status_text ← requireStr payload "status"
  let status ← readEnum ApprovalStatus (.str status_text)
  let reviewer := payload.get "reviewer"
  let reason := payload.get "reason"
  return { request, status, reviewer, reason }

/-- `_encode_approval_result` -/
def encodeApprovalResult (py : Python) (r : ApprovalResult) : Fields :=
  [("decision", .obj (encodeApprovalDecision py r.decision))]

/-- `_decode_approval_result` -/
def decodeApprovalResult (py : Python) (legacy_shell_workflow_ids : Option (List String))
    (value : Json) : Except PyError ApprovalResult := do
  let payload ← value.requireObject (.statePersistenceError "Invalid approval result")
  let decision_fields ← requireDict payload "decision"
  let decision ← decodeApprovalDecision py legacy_shell_workflow_ids decision_fields
  return { decision }

namespace ApprovalResult

/-- The request that a result is about. -/
def request (r : ApprovalResult) : ApprovalRequest := r.decision.request

/-- The result that is read back for a given one. -/
def rewriteShell (identifiers : List String) (r : ApprovalResult) : ApprovalResult :=
  { decision := { r.decision with request := r.request.rewriteShell identifiers } }

theorem rewriteShell_eq_self {identifiers : List String} {r : ApprovalResult} :
    r.rewriteShell identifiers = r ↔ ¬r.request.LegacyShell identifiers := by
  rw [← ApprovalRequest.rewriteShell_eq_self]
  refine ⟨fun h => congrArg request h, fun h => ?_⟩
  rw [rewriteShell, h]
  rfl

end ApprovalResult

/-- An approval is read back with its purpose rewritten. -/
theorem decode_encodeApprovalResult {identifiers : List String} {r : ApprovalResult}
    (h : r.request.Readable) :
    decodeApprovalResult py (some identifiers) (.obj (encodeApprovalResult py r)) =
      .ok (r.rewriteShell identifiers) := by
  have hrequest : decodeApprovalRequest py (some identifiers)
      (encodeApprovalRequest py r.decision.request) =
        .ok (r.request.rewriteShell identifiers) := decode_encodeApprovalRequest h
  simp [decodeApprovalResult, encodeApprovalResult, decodeApprovalDecision,
    encodeApprovalDecision, hrequest, ApprovalResult.rewriteShell]

theorem readable_of_decodeApprovalResult {legacy : Option (List String)} {value : Json}
    {r : ApprovalResult} (h : decodeApprovalResult py legacy value = .ok r) :
    r.request.Readable := by
  simp only [decodeApprovalResult, decodeApprovalDecision, bind_eq_ok, pure_eq_ok,
    Except.ok.injEq] at h
  obtain ⟨_, -, _, -, _, ⟨_, -, request, hrequest, _, -, _, -, rfl⟩, rfl⟩ := h
  exact readable_of_decodeApprovalRequest hrequest

end AtlasOS.Agent
