import AtlasOS.Acknowledgement.StoreRuns
import AtlasOS.Lib.Runtime

/-!
# A receipt to evaluate with

A codec that knows the models of one receipt, which shows that its laws can be
met, and an append of this receipt in two forms: as the service builds it, and
with reservations that carry another time than the record.
-/

namespace AtlasOS.Acknowledgement

open Sqlite Sqlite.Transaction

/-- A platform whose texts are all in normal form. -/
def Platform.plain : Platform := { Python.plain with nfc := id }

/-- The digest of every text. -/
def FingerprintV1.plain : FingerprintV1 :=
  ⟨String.ofList (List.replicate 64 '0'), Python.plain.sha256_isHexDigest ""⟩

/-- Every value that is not nested too deeply has the same fingerprint. -/
theorem fingerprint_plain (domain : String) {value : Json} (h : value.nesting ≤ 32)
    (hfinite : value.finite = true) :
    fingerprint Platform.plain domain value = .ok FingerprintV1.plain := by
  have hdigest : domainDigest Platform.plain domain value = .ok FingerprintV1.plain.value := by
    rw [domainDigest, canonicalJson, canonicalJsonWithin_eq (fun _ => rfl) h hfinite, ok_bind,
      pure_eq_ok]
    rfl
  unfold fingerprint
  split
  · next digest heq =>
    rw [hdigest, Except.ok.injEq] at heq
    subst heq
    rfl
  · next heq =>
    rw [hdigest] at heq
    cases heq

/-- The first second of the receipt. -/
def plainRecordedAt : UtcSecond := ⟨2026, 8, 27, 12, 0, 44, by decide⟩

/-- The second after it. -/
def plainLater : UtcSecond := ⟨2026, 8, 27, 12, 0, 45, by decide⟩

/-- The end of the receipt. -/
def plainValidUntil : UtcSecond := ⟨2026, 8, 27, 12, 1, 0, by decide⟩

/-- An active v0.51 admission. -/
def AdmissionV1.plain : AdmissionV1 where
  admission_id := "admission"
  operator_id := "operator-a"
  candidate_record_id := "00000000-0000-4000-8000-000000000000"
  recorded_at := plainRecordedAt
  valid_until := plainValidUntil
  lifecycle := "active"
  admission_state := "recorded"
  eligibility := ADMISSION_RECORDED
  blockers := V051_SUCCESS_BLOCKERS
  prerequisite_record_fingerprint := .plain
  prerequisite_status_fingerprint := .plain
  v049_admission_record_fingerprint := .plain
  v049_admission_status_fingerprint := .plain
  binding_subject_fingerprint := .plain
  worker_subject_fingerprint := .plain
  queue_item_reference_fingerprint := .plain
  inherited_limits_fingerprint := .plain
  admission_record_fingerprint := .plain
  admission_recorded := true
  lineage := []

/-- Its status. -/
def AdmissionStatusV1.plain : AdmissionStatusV1 where
  admission_id := "admission"
  operator_id := "operator-a"
  candidate_record_id := "00000000-0000-4000-8000-000000000000"
  lifecycle := "active"
  admission_state := ADMISSION_RECORDED
  eligibility := ADMISSION_RECORDED
  blockers := V051_SUCCESS_BLOCKERS
  evaluated_at := plainRecordedAt
  valid_until := plainValidUntil
  admission_record_fingerprint := .plain
  status_fingerprint := .plain
  admission_recorded := true
  lineage := []

/-- The facts of an adapter. -/
def AdapterReceiptFactsV1.plain : AdapterReceiptFactsV1 where
  adapter_label := "adapter"
  adapter_identity_fingerprint := .plain
  queue_subject_fingerprint := .plain
  claim_receipt_fingerprint := .plain
  lease_receipt_fingerprint := .plain
  acknowledgement_receipt_fingerprint := .plain
  observed_at := plainRecordedAt

/-- The receipt of the admission. -/
def AcknowledgementV1.plain : AcknowledgementV1 where
  admission_id := "admission"
  operator_id := "operator-a"
  candidate_record_id := "00000000-0000-4000-8000-000000000000"
  recorded_at := plainRecordedAt
  valid_until := plainValidUntil
  admission := .plain
  admission_status := .plain
  adapter_receipt := .plain
  v051_admission_record_fingerprint := .plain
  v051_admission_status_fingerprint := .plain
  v050_prerequisite_record_fingerprint := .plain
  v050_prerequisite_status_fingerprint := .plain
  v049_admission_record_fingerprint := .plain
  v049_admission_status_fingerprint := .plain
  binding_subject_fingerprint := .plain
  worker_subject_fingerprint := .plain
  queue_item_reference_fingerprint := .plain
  inherited_limits_fingerprint := .plain
  adapter_identity_fingerprint := .plain
  queue_subject_fingerprint := .plain
  claim_receipt_fingerprint := .plain
  lease_receipt_fingerprint := .plain
  acknowledgement_receipt_fingerprint := .plain
  subject_fingerprint := .plain
  idempotency_key_fingerprint := .plain
  receipt_record_fingerprint := .plain

/-- The idempotency reservation of the receipt, with a given time. -/
def IdempotencyReservationV1.plain (reserved_at : UtcSecond) : IdempotencyReservationV1 where
  operator_id := "operator-a"
  candidate_record_id := "00000000-0000-4000-8000-000000000000"
  idempotency_key_fingerprint := .plain
  request_fingerprint := .plain
  subject_fingerprint := .plain
  admission_id := "admission"
  receipt_record_fingerprint := .plain
  reserved_at

/-- The subject reservation of the receipt, with a given time. -/
def SubjectReservationV1.plain (reserved_at : UtcSecond) : SubjectReservationV1 where
  operator_id := "operator-a"
  candidate_record_id := "00000000-0000-4000-8000-000000000000"
  idempotency_key_fingerprint := .plain
  request_fingerprint := .plain
  subject_fingerprint := .plain
  admission_id := "admission"
  receipt_record_fingerprint := .plain
  reserved_at
  reservation_fingerprint := .plain

/-- The audit evidence of the receipt. -/
def AuditEvidenceV1.plain : AuditEvidenceV1 where
  event := .recorded
  audit_id := "audit"
  operator_id := "operator-a"
  candidate_record_id := "00000000-0000-4000-8000-000000000000"
  admission_id := some "admission"
  occurred_at := plainRecordedAt
  outcome := .recorded
  correlation_fingerprint := .plain
  subject_fingerprint := some .plain
  receipt_record_fingerprint := some .plain
  audit_fingerprint := .plain
  recorded := true

/-- The request that the receipt stands for. -/
def CreateV1.plain : CreateV1 where
  admission_id := "admission"
  admission_record_fingerprint := .plain
  admission_status_fingerprint := .plain
  admission_valid_until := plainValidUntil
  v050_prerequisite_record_fingerprint := .plain
  v050_prerequisite_status_fingerprint := .plain
  v049_admission_record_fingerprint := .plain
  v049_admission_status_fingerprint := .plain
  binding_subject_fingerprint := .plain
  worker_subject_fingerprint := .plain
  queue_item_reference_fingerprint := .plain
  inherited_limits_fingerprint := .plain
  adapter_identity_fingerprint := .plain
  expected_queue_subject_fingerprint := .plain
  expected_claim_receipt_fingerprint := .plain
  expected_lease_receipt_fingerprint := .plain
  expected_acknowledgement_receipt_fingerprint := .plain

set_option maxRecDepth 2000

theorem buildCreate_plain : buildCreate Platform.plain .plain .plain .plain = .ok .plain := by
  have hexact : CreateV1.plain.exact Platform.plain = .ok () := by
    rw [CreateV1.exact, canonicalJsonWithin_eq (fun _ => rfl) (by decide) (by decide),
      ok_bind]
    rfl
  change (CreateV1.plain.exact Platform.plain >>= fun _ => _) = _
  rw [hexact]
  rfl

theorem facts_plain :
    (AcknowledgementV1.plain.facts CreateV1.plain).exact Platform.plain = .ok () := by
  have hrecord : v051RecordFingerprint Platform.plain AdmissionV1.plain = .ok .plain :=
    fingerprint_plain _ (by decide) (by decide)
  have hstatus : v051StatusFingerprint Platform.plain AdmissionStatusV1.plain = .ok .plain :=
    fingerprint_plain _ (by decide) (by decide)
  have hsubject : queueSubjectFingerprint Platform.plain AdmissionV1.plain = .ok .plain :=
    fingerprint_plain _ (by decide) (by decide)
  have hidentity : (isOperatorId "operator-a" &&
      isUuid4 "00000000-0000-4000-8000-000000000000") = true := by decide
  rw [Bool.and_eq_true] at hidentity
  simp only [ValidationInputV1.exact, AcknowledgementV1.facts, AcknowledgementV1.plain, hrecord,
    hstatus, hsubject, ok_bind]
  simp [AdmissionV1.plain, AdmissionStatusV1.plain, AdapterReceiptFactsV1.plain, CreateV1.plain,
    hidentity]
  decide

theorem exact_plain : AcknowledgementV1.plain.exact Platform.plain = .ok () := by
  have hqueue : queueSubjectFingerprint Platform.plain AdmissionV1.plain = .ok .plain :=
    fingerprint_plain _ (by decide) (by decide)
  have hsubject : receiptSubjectFingerprint Platform.plain AcknowledgementV1.plain = .ok .plain :=
    fingerprint_plain _ (by decide) (by decide)
  have hrecord : receiptRecordFingerprint Platform.plain AcknowledgementV1.plain = .ok .plain :=
    fingerprint_plain _ (by decide) (by decide)
  have hsoon : expiresSoon plainRecordedAt plainValidUntil = .ok true := by decide
  have hbounded : bounded Platform.plain AcknowledgementV1.plain.payload = .ok () := by
    rw [bounded, canonicalJson,
      canonicalJsonWithin_eq (fun _ => rfl) (by decide) (by decide), ok_bind]
    rfl
  have hcreate : buildCreate Platform.plain AcknowledgementV1.plain.admission
      AcknowledgementV1.plain.admission_status AcknowledgementV1.plain.adapter_receipt =
        .ok .plain := buildCreate_plain
  have hsoon' : expiresSoon AcknowledgementV1.plain.recorded_at
      AcknowledgementV1.plain.valid_until = .ok true := hsoon
  have hqueue' : queueSubjectFingerprint Platform.plain AcknowledgementV1.plain.admission =
      .ok .plain := hqueue
  simp only [AcknowledgementV1.exact, hsoon', hqueue', hcreate, facts_plain, hsubject, hrecord,
    hbounded, ok_bind]
  simp [AcknowledgementV1.plain, AdmissionV1.plain, AdmissionStatusV1.plain,
    AdapterReceiptFactsV1.plain]

theorem exact_reservation_plain (reserved_at : UtcSecond) :
    (SubjectReservationV1.plain reserved_at).exact Platform.plain = .ok () := by
  have hreservation : reservationFingerprint Platform.plain (.plain reserved_at) = .ok .plain :=
    fingerprint_plain _ (Nat.le_of_ble_eq_true rfl) rfl
  simp only [SubjectReservationV1.exact, hreservation, ok_bind]
  exact require_eq_ok.mpr (beq_self_eq_true FingerprintV1.plain)

theorem exact_audit_plain : AuditEvidenceV1.plain.exact Platform.plain = .ok () := by
  have haudit : auditFingerprint Platform.plain .plain = .ok .plain :=
    fingerprint_plain _ (by decide) (by decide)
  simp only [AuditEvidenceV1.exact, haudit, ok_bind]
  exact require_eq_ok.mpr (beq_self_eq_true FingerprintV1.plain)

/-- The codec of one receipt: it knows the texts of the given models only. -/
def Pydantic.plain (reserved_at : UtcSecond) : Pydantic Platform.plain where
  dumpRecord r := if r = .plain then "record" else ""
  loadRecord text := if text = "record" then .ok .plain else .error (.valueError "json")
  dumpIdempotency i := if i = .plain reserved_at then "idempotency" else ""
  loadIdempotency text :=
    if text = "idempotency" then .ok (.plain reserved_at) else .error (.valueError "json")
  dumpSubject s := if s = .plain reserved_at then "subject" else ""
  loadSubject text :=
    if text = "subject" then .ok (.plain reserved_at) else .error (.valueError "json")
  dumpAudit a := if a = .plain then "audit" else ""
  loadAudit text := if text = "audit" then .ok .plain else .error (.valueError "json")
  exact_loadRecord text r h := by
    split at h
    · cases h
      exact exact_plain
    · cases h
  exact_loadSubject text s h := by
    split at h
    · cases h
      exact exact_reservation_plain reserved_at
    · cases h
  exact_loadAudit text a h := by
    split at h
    · cases h
      exact exact_audit_plain
    · cases h
  load_dumpRecord text r h := by
    split at h
    · cases h
      rw [if_pos rfl, if_pos rfl]
    · cases h
  load_dumpAudit text a h := by
    split at h
    · cases h
      rw [if_pos rfl, if_pos rfl]
    · cases h
  eq_of_loadRecord r r' h := by
    by_cases hr : r = .plain
    · rw [if_pos hr, if_pos rfl, Except.ok.injEq] at h
      rw [hr, h]
    · rw [if_neg hr] at h
      cases h
  eq_of_loadIdempotency i i' h := by
    by_cases hi : i = .plain reserved_at
    · rw [if_pos hi, if_pos rfl, Except.ok.injEq] at h
      rw [hi, h]
    · rw [if_neg hi] at h
      cases h
  eq_of_loadSubject s s' h := by
    by_cases hs : s = .plain reserved_at
    · rw [if_pos hs, if_pos rfl, Except.ok.injEq] at h
      rw [hs, h]
    · rw [if_neg hs] at h
      cases h
  eq_of_loadAudit a a' h := by
    by_cases ha : a = .plain
    · rw [if_pos ha, if_pos rfl, Except.ok.injEq] at h
      rw [ha, h]
    · rw [if_neg ha] at h
      cases h

section Append

variable (reserved_at : UtcSecond)

@[simp] theorem dumpRecord_plain : (Pydantic.plain reserved_at).dumpRecord .plain = "record" := by
  simp only [Pydantic.plain, if_true]

@[simp] theorem dumpIdempotency_plain :
    (Pydantic.plain reserved_at).dumpIdempotency (.plain reserved_at) = "idempotency" := by
  simp only [Pydantic.plain, if_true]

@[simp] theorem dumpSubject_plain :
    (Pydantic.plain reserved_at).dumpSubject (.plain reserved_at) = "subject" := by
  simp only [Pydantic.plain, if_true]

@[simp] theorem dumpAudit_plain : (Pydantic.plain reserved_at).dumpAudit .plain = "audit" := by
  simp only [Pydantic.plain, if_true]

@[simp] theorem loadIdempotency_plain :
    (Pydantic.plain reserved_at).loadIdempotency "idempotency" = .ok (.plain reserved_at) := by
  simp only [Pydantic.plain, if_true]

/-- The bounds of a new store. -/
def Bounds.plain : Bounds := ⟨16, 192 * 1024, 256⟩

/-- The append of the receipt. -/
def AppendArgs.plain : AppendArgs where
  record_json := "record"
  idempotency_json := "idempotency"
  reservation_json := "subject"
  audit_json := "audit"
  admission_valid_until := plainValidUntil.text

/-- The models of the append. -/
def Parsed.plain : Parsed := ⟨.plain, .plain reserved_at, .plain reserved_at, .plain⟩

/-- The append is prepared, whatever the time of its reservations. -/
theorem prepare_plain :
    prepare (Pydantic.plain reserved_at) Bounds.plain AppendArgs.plain =
      .ok (Parsed.plain reserved_at) := by
  have hparse : parseArgs (Pydantic.plain reserved_at) Bounds.plain AppendArgs.plain =
      .ok (Parsed.plain reserved_at) := rfl
  have hexact : isExactReservation (Pydantic.plain reserved_at)
      (proposed (Parsed.plain reserved_at) AppendArgs.plain) (Parsed.plain reserved_at)
      AppendArgs.plain.admission_valid_until = true := by
    simp [isExactReservation, proposed, Parsed.plain, AppendArgs.plain, AcknowledgementV1.plain,
      IdempotencyReservationV1.plain, SubjectReservationV1.plain]
    exact ⟨(dumpIdempotency_plain reserved_at).symm, (dumpSubject_plain reserved_at).symm⟩
  have hrequest : requestFingerprint Platform.plain "operator-a"
      "00000000-0000-4000-8000-000000000000" .plain plainRecordedAt .plain = .ok .plain :=
    fingerprint_plain _ (by decide) (by decide)
  have hvalidate : validateRequest Platform.plain .plain
      (proposed (Parsed.plain reserved_at) AppendArgs.plain) = .ok () := by
    have hcreate : buildCreate Platform.plain AcknowledgementV1.plain.admission
        AcknowledgementV1.plain.admission_status AcknowledgementV1.plain.adapter_receipt =
          .ok .plain := buildCreate_plain
    have hexpected : requestFingerprint Platform.plain AcknowledgementV1.plain.operator_id
        AcknowledgementV1.plain.candidate_record_id .plain AcknowledgementV1.plain.recorded_at
        AcknowledgementV1.plain.idempotency_key_fingerprint = .ok .plain := hrequest
    unfold validateRequest
    rw [checked_eq_ok.mpr hcreate, ok_bind, checked_eq_ok.mpr hexpected, ok_bind]
    exact demand_eq_ok.mpr (decide_eq_true rfl)
  have haudit : validateRecordAudit .plain .plain = .ok () := by decide
  unfold prepare
  rw [hparse, ok_bind, demand_eq_ok.mpr hexact, ok_bind]
  change (validateRequest Platform.plain .plain (proposed (Parsed.plain reserved_at)
    AppendArgs.plain) >>= _) = _
  have hvalid : demand (decide (AppendArgs.plain.admission_valid_until =
      CivilSecond.text (Parsed.plain reserved_at).record.admission.valid_until)) .storeCorrupt =
        .ok () := demand_eq_ok.mpr (decide_eq_true rfl)
  rw [hvalidate, ok_bind, hvalid, ok_bind]
  change (validateRecordAudit .plain .plain >>= _) = _
  rw [haudit]
  rfl

/-- The append reserves in a new store. -/
theorem reserveAttempt_plain :
    withConnection Database.created [] (reserveAttempt (Pydantic.plain reserved_at) Bounds.plain
      (Parsed.plain reserved_at) AppendArgs.plain) =
    (.ok none, Database.created.addReservation
      (proposed (Parsed.plain reserved_at) AppendArgs.plain)) := rfl

/-- The journal with the reservation is read again exactly when the reservations carry the time
of the record. -/
theorem checkIntegrity_plain :
    checkIntegrity (Pydantic.plain reserved_at) Bounds.plain (Database.created.addReservation
      (proposed (Parsed.plain reserved_at) AppendArgs.plain)) = .ok () →
      reserved_at = plainRecordedAt := by
  intro h
  have hrow := (checkIntegrity_eq_ok.mp h).reservations _ (List.mem_singleton_self _)
  obtain ⟨-, -, -, idempotency, hidempotency, reservation, -, -, -, hexact⟩ :=
    reservationChecks_eq_ok.mp hrow
  simp only [isRowReservationExact, decide_eq_true_eq] at hexact
  have hload : idempotency = .plain reserved_at :=
    Except.ok.inj (hidempotency.symm.trans (loadIdempotency_plain reserved_at))
  obtain ⟨-, -, -, -, -, -, -, -, -, -, -, -, -, -, htime, -⟩ := hexact
  rw [hload] at htime
  exact (CivilSecond.text_injective htime).symm

end Append

/-- The service's append is consistent. -/
theorem consistent_plain :
    (Call.append .plain [] []).Consistent (Pydantic.plain plainRecordedAt) Bounds.plain := by
  intro p hp
  rw [prepare_plain, Except.ok.injEq] at hp
  subst hp
  refine ⟨rfl, rfl, fun _ => ?_, fun _ => ?_⟩
  · change fits _ ((Pydantic.plain plainRecordedAt).dumpRecord .plain) = true
    rw [dumpRecord_plain]
    decide
  · change fits _ ((Pydantic.plain plainRecordedAt).dumpAudit .plain) = true
    rw [dumpAudit_plain]
    decide

theorem reachable_journal_plain :
    checkIntegrity (Pydantic.plain plainRecordedAt) Bounds.plain
      (runHistory (Pydantic.plain plainRecordedAt) Bounds.plain Database.created
        [.append .plain [] []]) = .ok () :=
  (@reachable_journal _ (Pydantic.plain plainRecordedAt) Bounds.plain [.append .plain [] []] []
    fun call hcall => by
      rw [List.append_nil, List.mem_singleton] at hcall
      rw [hcall]
      exact consistent_plain).1

/-- An append whose reservations carry another time than the record is not refused before it
reserves, and every later connection finds the journal corrupt. -/
theorem journal_poisoned :
    ∃ db, (Call.append .plain [] []).perform (Pydantic.plain plainLater) Bounds.plain
        Database.created = (some (.error (.store .appendIndeterminate)), db) ∧
      checkIntegrity (Pydantic.plain plainLater) Bounds.plain db = .error (.store .storeCorrupt) ∧
      ∀ operator_id admission_id,
        (Call.get operator_id admission_id []).perform (Pydantic.plain plainLater) Bounds.plain db =
          (some (.error (.store .storeCorrupt)), db) := by
  have hcorrupt : checkIntegrity (Pydantic.plain plainLater) Bounds.plain
      (Database.created.addReservation (proposed (Parsed.plain plainLater) AppendArgs.plain)) =
        .error (.store .storeCorrupt) := by
    cases hcheck : checkIntegrity (Pydantic.plain plainLater) Bounds.plain
        (Database.created.addReservation (proposed (Parsed.plain plainLater) AppendArgs.plain)) with
    | ok _ => exact absurd (checkIntegrity_plain plainLater hcheck) (by decide)
    | error e => rw [checkIntegrity_eq_error hcheck]
  have happend : append (Pydantic.plain plainLater) Bounds.plain .plain [] [] Database.created =
      (.error (.store .appendIndeterminate),
        Database.created.addReservation (proposed (Parsed.plain plainLater) AppendArgs.plain)) := by
    unfold append
    rw [prepare_plain]
    dsimp only
    rw [reserveAttempt_plain]
    dsimp only
    rw [show AppendArgs.plain.force_indeterminate = false from rfl, if_neg Bool.false_ne_true,
      appendRecord, withConnection, connect_corrupt hcorrupt]
    rfl
  refine ⟨_, ?_, hcorrupt, fun operator_id admission_id => ?_⟩
  · rw [Call.perform, happend]
    rfl
  · rw [Call.perform, withConnection, getReceipt, bind_apply, connect_corrupt hcorrupt]
    rfl

end AtlasOS.Acknowledgement
