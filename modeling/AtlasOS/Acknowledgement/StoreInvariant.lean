import AtlasOS.Acknowledgement.Store

/-!
# What the receipt store accepts

`Accepted` says what `_check_integrity` demands of the journal, and `Intact` adds
the constraints of its tables. The prepared arguments of an append that are
`Consistent` give rows that the integrity check accepts.
-/

namespace AtlasOS.Acknowledgement

open Sqlite Sqlite.Transaction

variable {pf : Platform} {pd : Pydantic pf} {bounds : Bounds} {db : Database}

/-! ## Results of the checks -/

@[simp] theorem demand_bind_eq_ok {α : Type} {condition : Bool} {code : ErrorCode}
    {next : Unit → Except Raised α} {a : α} :
    (demand condition code >>= next) = .ok a ↔ condition = true ∧ next () = .ok a := by
  rw [check_bind_eq_ok, demand_eq_ok]

theorem validateReservation_eq_ok {operator_id : String} {row row' : ReservationRow} :
    validateReservation pd bounds operator_id (some row) = .ok row' ↔
      reservationChecks pd bounds operator_id row = .ok () ∧ row' = row := by
  simp only [validateReservation, check_bind_eq_ok, corruptUnless_eq_ok, pure_eq_ok,
    Except.ok.injEq, eq_comm (a := row)]

theorem reservationChecks_eq_ok {operator_id : String} {row : ReservationRow} :
    reservationChecks pd bounds operator_id row = .ok () ↔
      operator_id = row.operator_id ∧
      (∃ t, CivilSecond.parse row.admission_valid_until = some t) ∧
      (row.idempotency_json.utf8ByteSize ≤ bounds.max_model_bytes ∧
        row.reservation_json.utf8ByteSize ≤ bounds.max_model_bytes) ∧
      ∃ idempotency, pd.loadIdempotency row.idempotency_json = .ok idempotency ∧
        ∃ reservation, pd.loadSubject row.reservation_json = .ok reservation ∧
          reservationFingerprint pf reservation = .ok reservation.reservation_fingerprint ∧
          row.attempt_started = "true" ∧
          isRowReservationExact pd row idempotency reservation = true := by
  simp only [reservationChecks, bind_eq_ok, expect_eq_ok, exists_unit, require_eq_ok,
    Bool.and_eq_true, decide_eq_true_eq, beq_iff_eq]
  constructor
  · rintro ⟨howner, t, ht, hfits, idempotency, hidempotency, reservation, hreservation, fp, hfp,
      heq, hstarted, hexact⟩
    exact ⟨howner, ⟨t, ht⟩, hfits, idempotency, hidempotency, reservation, hreservation,
      heq ▸ hfp, hstarted, hexact⟩
  · rintro ⟨howner, ⟨t, ht⟩, hfits, idempotency, hidempotency, reservation, hreservation, hfp,
      hstarted, hexact⟩
    exact ⟨howner, t, ht, hfits, idempotency, hidempotency, reservation, hreservation, _, hfp,
      rfl, hstarted, hexact⟩

/-- A receipt that is accepted is read back from its row. -/
theorem decodeRecord_eq_ok {operator_id : String} {row : ReceiptRow}
    {reservation : Option ReservationRow} {record : AcknowledgementV1} :
    decodeRecord pd bounds operator_id row reservation = .ok record ↔
      ∃ a, reservation = some a ∧ reservationChecks pd bounds operator_id a = .ok () ∧
        (row.record_json.utf8ByteSize ≤ bounds.max_model_bytes ∧
          row.audit_json.utf8ByteSize ≤ bounds.max_model_bytes) ∧
        pd.loadRecord row.record_json = .ok record ∧
        ∃ audit, pd.loadAudit row.audit_json = .ok audit ∧ operator_id = row.operator_id ∧
          receiptRecordFingerprint pf record = .ok record.receipt_record_fingerprint ∧
          auditFingerprint pf audit = .ok audit.audit_fingerprint ∧
          isRowRecordExact row a record = true ∧ validateRecordAudit record audit = .ok () ∧
          validateRequest pf record a = .ok () := by
  cases reservation with
  | none => simp [decodeRecord, validateReservation, corruptUnless, Except.mapError]
  | some a =>
    simp only [decodeRecord, corruptUnless_eq_ok, bind_eq_ok, validateReservation_eq_ok,
      demand_eq_ok, checked_eq_ok, pure_eq_ok, Except.ok.injEq, exists_unit, decide_eq_true_eq,
      beq_iff_eq, Option.some.injEq]
    constructor
    · rintro ⟨b, ⟨hchecks, rfl⟩, hfits, r, hrecord, audit, haudit, howner, fp, hfp, heq, afp,
        hafp, haeq, hexact, hrecordAudit, hrequest, rfl⟩
      exact ⟨b, rfl, hchecks, hfits, hrecord, audit, haudit, howner, heq ▸ hfp, haeq ▸ hafp,
        hexact, hrecordAudit, hrequest⟩
    · rintro ⟨b, rfl, hchecks, hfits, hrecord, audit, haudit, howner, hfp, hafp, hexact,
        hrecordAudit, hrequest⟩
      exact ⟨a, ⟨hchecks, rfl⟩, hfits, record, hrecord, audit, haudit, howner, _, hfp, rfl, _,
        hafp, rfl, hexact, hrecordAudit, hrequest, rfl⟩

theorem checkAttempt_eq_ok {row : AttemptRow} :
    checkAttempt pd db row = .ok () ↔
      ∃ reservation, db.reservation row.key = some reservation ∧
        (∀ a ∈ db.receipts, a.key ≠ row.key) ∧
        ∃ audit, pd.loadAudit row.audit_json = .ok audit ∧
          validateTerminalAudit audit reservation = .ok () ∧
          row.audit_fingerprint = audit.audit_fingerprint.value := by
  unfold checkAttempt
  cases db.reservation row.key with
  | none => simp
  | some reservation =>
    simp only [bind_eq_ok, checked_eq_ok, demand_eq_ok, exists_unit, Bool.not_eq_true',
      List.any_eq_false, decide_eq_true_eq, Option.some.injEq, exists_eq_left', ne_eq]

/-- What `_check_integrity` demands of the journal. -/
structure Accepted (pd : Pydantic pf) (bounds : Bounds) (db : Database) : Prop where
  reservation_count : db.reservations.length ≤ bounds.max_total_records
  receipt_count : db.receipts.length ≤ bounds.max_total_records
  receipt_fits : ∀ row ∈ db.receipts,
    fits bounds row.record_json = true ∧ fits bounds row.audit_json = true
  attempt_count : db.attempts.length ≤ bounds.max_total_records
  attempt_fits : ∀ row ∈ db.attempts, fits bounds row.audit_json = true
  reservations : ∀ row ∈ db.reservations,
    reservationChecks pd bounds row.operator_id row = .ok ()
  owners : ∀ row ∈ db.reservations, (db.reservations.filter fun a =>
    a.operator_id = row.operator_id).length ≤ bounds.max_records_per_operator
  receipts : ∀ row ∈ db.receipts, ∃ record,
    decodeRecord pd bounds row.operator_id row (db.reservation row.key) = .ok record
  attempt_keys : (db.attempts.map AttemptRow.key).Nodup
  attempts : ∀ row ∈ db.attempts, checkAttempt pd db row = .ok ()

theorem checkIntegrity_eq_ok :
    checkIntegrity pd bounds db = .ok () ↔ Accepted pd bounds db := by
  simp only [checkIntegrity, corruptUnless_eq_ok, bind_eq_ok, exists_unit, forM_eq_ok, validateReservation_eq_ok, demand_eq_ok, decide_eq_true_eq,
    List.all_eq_true, Bool.and_eq_true, pure_eq_ok]
  constructor
  · rintro ⟨hcount, -, hreceiptCount, hreceiptFits, hattemptCount, hattemptFits, hreservations,
      hreceipts, hkeys, hattempts⟩
    refine ⟨hcount, hreceiptCount, hreceiptFits, hattemptCount, hattemptFits, ?_, ?_, ?_, hkeys,
      hattempts⟩
    · intro row hrow
      obtain ⟨_, ⟨hchecks, -⟩, -⟩ := hreservations row hrow
      exact hchecks
    · intro row hrow
      obtain ⟨_, -, howner⟩ := hreservations row hrow
      exact howner
    · intro row hrow
      obtain ⟨record, hrecord, -⟩ := hreceipts row hrow
      exact ⟨record, hrecord⟩
  · intro h
    refine ⟨h.reservation_count, ?_, h.receipt_count, h.receipt_fits, h.attempt_count,
      h.attempt_fits, ?_, ?_, h.attempt_keys, h.attempts⟩
    · intro row hrow
      obtain ⟨-, -, hfits, -⟩ := reservationChecks_eq_ok.mp (h.reservations row hrow)
      simpa [fits] using hfits
    · exact fun row hrow => ⟨row, ⟨h.reservations row hrow, rfl⟩, h.owners row hrow⟩
    · intro row hrow
      obtain ⟨record, hrecord⟩ := h.receipts row hrow
      exact ⟨record, hrecord, trivial⟩

/-- A journal that is not accepted is reported as corrupt. -/
theorem checkIntegrity_eq_error {e : Raised} (h : checkIntegrity pd bounds db = .error e) :
    e = .store .storeCorrupt := by
  unfold checkIntegrity corruptUnless at h
  generalize hresult : (demand (decide (db.reservations.length ≤ bounds.max_total_records))
    .storeCorrupt >>= _) = result at h
  cases result with
  | ok _ => cases h
  | error _ =>
    cases h
    rfl

/-- The journal is accepted and meets the uniqueness constraints of its tables. -/
structure Intact (pd : Pydantic pf) (bounds : Bounds) (db : Database) : Prop
    extends Accepted pd bounds db where
  unique_reservations : Rows.Separated ReservationRow.clash db.reservations
  unique_receipts : Rows.Separated ReceiptRow.clash db.receipts

theorem intact_created (pd : Pydantic pf) (bounds : Bounds) : Intact pd bounds Database.created := by
  refine ⟨⟨Nat.zero_le _, Nat.zero_le _, ?_, Nat.zero_le _, ?_, ?_, ?_, ?_, List.nodup_nil, ?_⟩,
    Rows.separated_nil, Rows.separated_nil⟩ <;>
  exact fun row hrow => absurd hrow List.not_mem_nil

/-! ## Lookups -/

theorem ReservationRow.clash_of_key {a b : ReservationRow} (h : a.key = b.key) :
    a.clash b = true := by
  simp only [ReservationRow.key, Prod.mk.injEq] at h
  simp [ReservationRow.clash, h.1, h.2]

theorem ReceiptRow.clash_of_key {a b : ReceiptRow} (h : a.key = b.key) : a.clash b = true := by
  simp only [ReceiptRow.key, Prod.mk.injEq] at h
  simp [ReceiptRow.clash, h.1, h.2]

theorem ReservationRow.clash_comm (a b : ReservationRow) : a.clash b = b.clash a := by
  simp only [ReservationRow.clash, eq_comm]

theorem ReceiptRow.clash_comm (a b : ReceiptRow) : a.clash b = b.clash a := by
  simp only [ReceiptRow.clash, eq_comm]

theorem mem_of_reservation {key : String × String} {row : ReservationRow}
    (h : db.reservation key = some row) : row ∈ db.reservations ∧ row.key = key :=
  ⟨List.mem_of_find?_eq_some h, by simpa using List.find?_some h⟩

theorem mem_of_receipt {key : String × String} {row : ReceiptRow}
    (h : db.receipt key = some row) : row ∈ db.receipts ∧ row.key = key :=
  ⟨List.mem_of_find?_eq_some h, by simpa using List.find?_some h⟩

theorem receipt_eq_none {key : String × String} :
    db.receipt key = none ↔ ∀ row ∈ db.receipts, row.key ≠ key := by
  simp [Database.receipt]

theorem attempted_eq_false {key : String × String} :
    db.attempted key = false ↔ ∀ row ∈ db.attempts, row.key ≠ key := by
  simp [Database.attempted]

theorem Intact.reservation_eq_some (h : Intact pd bounds db) {row : ReservationRow}
    (hrow : row ∈ db.reservations) : db.reservation row.key = some row :=
  (h.unique_reservations.find_eq_some fun _ _ => ReservationRow.clash_of_key).mpr ⟨hrow, rfl⟩

theorem Intact.receipt_eq_some (h : Intact pd bounds db) {row : ReceiptRow}
    (hrow : row ∈ db.receipts) : db.receipt row.key = some row :=
  (h.unique_receipts.find_eq_some fun _ _ => ReceiptRow.clash_of_key).mpr ⟨hrow, rfl⟩

/-- Every receipt has its reservation. -/
theorem Accepted.reservation_of_receipt (h : Accepted pd bounds db) {row : ReceiptRow}
    (hrow : row ∈ db.receipts) : ∃ reservation ∈ db.reservations, reservation.key = row.key := by
  obtain ⟨record, hrecord⟩ := h.receipts row hrow
  obtain ⟨reservation, hreservation, -⟩ := decodeRecord_eq_ok.mp hrecord
  exact ⟨reservation, mem_of_reservation hreservation⟩

/-- Every mark has its reservation. -/
theorem Accepted.reservation_of_attempt (h : Accepted pd bounds db) {row : AttemptRow}
    (hrow : row ∈ db.attempts) : ∃ reservation ∈ db.reservations, reservation.key = row.key := by
  obtain ⟨reservation, hreservation, -⟩ := checkAttempt_eq_ok.mp (h.attempts row hrow)
  exact ⟨reservation, mem_of_reservation hreservation⟩

/-- A reservation has no receipt when it is marked. -/
theorem Accepted.disjoint (h : Accepted pd bounds db) {row : AttemptRow} (hrow : row ∈ db.attempts)
    {receipt : ReceiptRow} (hreceipt : receipt ∈ db.receipts) : receipt.key ≠ row.key := by
  obtain ⟨_, -, hnone, -⟩ := checkAttempt_eq_ok.mp (h.attempts row hrow)
  exact hnone receipt hreceipt

/-! ## Prepared arguments -/

variable {args : AppendArgs} {p : Parsed}

/-- What the integrity check demands of an append beyond the checks of `_append`: both
reservations carry the time of the record, and the texts that are stored for the record and
its audit evidence are within the bound. -/
structure Parsed.Consistent (pd : Pydantic pf) (bounds : Bounds) (force_indeterminate : Bool)
    (p : Parsed) : Prop where
  idempotency_time : p.idempotency.reserved_at = p.record.recorded_at
  reservation_time : p.reservation.reserved_at = p.record.recorded_at
  record_fits : force_indeterminate = false → fits bounds (pd.dumpRecord p.record) = true
  audit_fits : force_indeterminate = false → fits bounds (pd.dumpAudit p.audit) = true

/-- What `_append` has checked before it opens a connection. -/
structure Prepared (pd : Pydantic pf) (bounds : Bounds) (args : AppendArgs) (p : Parsed) : Prop where
  fits_idempotency : fits bounds args.idempotency_json = true
  fits_reservation : fits bounds args.reservation_json = true
  record : pd.loadRecord args.record_json = .ok p.record
  idempotency : pd.loadIdempotency args.idempotency_json = .ok p.idempotency
  reservation : pd.loadSubject args.reservation_json = .ok p.reservation
  audit : pd.loadAudit args.audit_json = .ok p.audit
  exact : isExactReservation pd (proposed p args) p args.admission_valid_until = true
  request : validateRequest pf p.record (proposed p args) = .ok ()
  valid_until : args.admission_valid_until = p.record.admission.valid_until.text
  record_audit : args.force_indeterminate = false → validateRecordAudit p.record p.audit = .ok ()
  terminal_audit : args.force_indeterminate = true →
    validateTerminalAudit p.audit (proposed p args) = .ok ()

theorem prepared_of_prepare (h : prepare pd bounds args = .ok p) : Prepared pd bounds args p := by
  simp only [prepare, parseArgs, bind_eq_ok, demand_eq_ok, checked_eq_ok, exists_unit,
    Bool.and_eq_true, pure_eq_ok, Except.ok.injEq, decide_eq_true_eq] at h
  obtain ⟨_, ⟨hfits, record, hrecord, idempotency, hidempotency, reservation, hreservation, audit,
    haudit, rfl⟩, hexact, hrequest, hvalid, hrest⟩ := h
  have hnext : (args.force_indeterminate = false → validateRecordAudit record audit = .ok ()) ∧
      (args.force_indeterminate = true → validateTerminalAudit audit
        (proposed ⟨record, idempotency, reservation, audit⟩ args) = .ok ()) ∧
      p = ⟨record, idempotency, reservation, audit⟩ := by
    cases hforce : args.force_indeterminate with
    | true =>
      simp only [hforce, if_true, check_bind_eq_ok] at hrest
      exact ⟨fun hno => absurd hno (by decide), fun _ => hrest.1, by simpa using hrest.2.symm⟩
    | false =>
      simp only [hforce, Bool.false_eq_true, if_false, check_bind_eq_ok] at hrest
      exact ⟨fun _ => hrest.1, fun hno => absurd hno (by decide), by simpa using hrest.2.symm⟩
  obtain ⟨hrecordAudit, hterminal, rfl⟩ := hnext
  exact ⟨hfits.1.1.2, hfits.1.2, hrecord, hidempotency, hreservation, haudit, hexact, hrequest,
    hvalid, hrecordAudit, hterminal⟩

namespace Prepared

variable (h : Prepared pd bounds args p)

include h

/-- The columns of the proposed row agree with the reservations. -/
theorem columns :
    p.record.operator_id = p.reservation.operator_id ∧
    p.record.operator_id = p.idempotency.operator_id ∧
    p.record.candidate_record_id = p.reservation.candidate_record_id ∧
    p.reservation.candidate_record_id = p.idempotency.candidate_record_id ∧
    p.record.admission_id = p.reservation.admission_id ∧
    p.reservation.admission_id = p.idempotency.admission_id ∧
    p.record.idempotency_key_fingerprint.value =
      p.idempotency.idempotency_key_fingerprint.value ∧
    p.idempotency.idempotency_key_fingerprint.value =
      p.reservation.idempotency_key_fingerprint.value ∧
    p.idempotency.request_fingerprint.value = p.reservation.request_fingerprint.value ∧
    p.record.subject_fingerprint.value = p.idempotency.subject_fingerprint.value ∧
    p.idempotency.subject_fingerprint.value = p.reservation.subject_fingerprint.value ∧
    p.record.receipt_record_fingerprint.value =
      p.idempotency.receipt_record_fingerprint.value ∧
    p.idempotency.receipt_record_fingerprint.value =
      p.reservation.receipt_record_fingerprint.value ∧
    args.idempotency_json = pd.dumpIdempotency p.idempotency ∧
    args.reservation_json = pd.dumpSubject p.reservation := by
  have hexact := h.exact
  simp only [isExactReservation, proposed, decide_eq_true_eq] at hexact
  obtain ⟨-, howner, howner', -, hcandidate, hcandidate', -, hadmission, hadmission', hkey, hkey',
    -, hrequest, -, hsubject, hsubject', -, hrecord, hrecord', -, -, hidempotency, hreservation,
    -⟩ := hexact
  exact ⟨howner, howner', hcandidate, hcandidate', hadmission, hadmission', hkey, hkey', hrequest,
    hsubject, hsubject', hrecord, hrecord', hidempotency, hreservation⟩

/-- A record that was accepted expires within its admission. -/
theorem recorded_lt_valid_until :
    p.record.recorded_at.text < args.admission_valid_until := by
  have hsound := AcknowledgementV1.sound_of_exact (pd.exact_loadRecord _ _ h.record)
  rw [h.valid_until]
  exact lt_of_lt_of_le (CivilSecond.text_lt_iff.mpr hsound.expiry) hsound.valid_until

/-- The proposed reservation is accepted by later connections. -/
theorem reservationChecks {force : Bool} (hconsistent : p.Consistent pd bounds force) :
    reservationChecks pd bounds p.record.operator_id (proposed p args) = .ok () := by
  obtain ⟨howner, howner', hcandidate, hcandidate', hadmission, hadmission', hkey, hkey', hrequest,
    hsubject, hsubject', hrecord, hrecord', hidempotency, hreservation⟩ := h.columns
  have hfingerprint := pd.exact_loadSubject _ _ h.reservation
  simp only [SubjectReservationV1.exact, bind_eq_ok, require_eq_ok, beq_iff_eq] at hfingerprint
  obtain ⟨fp, hfp, rfl⟩ := hfingerprint
  have hfits := h.fits_idempotency
  have hfits' := h.fits_reservation
  simp only [fits, decide_eq_true_eq] at hfits hfits'
  refine reservationChecks_eq_ok.mpr ⟨rfl, ⟨p.record.admission.valid_until, ?_⟩, ⟨hfits, hfits'⟩,
    p.idempotency, h.idempotency, p.reservation, h.reservation, hfp, rfl, ?_⟩
  · exact CivilSecond.parse_eq_some.mpr h.valid_until.symm
  · have htime := congrArg CivilSecond.text hconsistent.idempotency_time
    have htime' := congrArg CivilSecond.text hconsistent.reservation_time
    simp only [isRowReservationExact, proposed, decide_eq_true_eq]
    exact ⟨howner', howner'.symm.trans howner, hcandidate.trans hcandidate', hcandidate'.symm,
      hadmission.trans hadmission', hadmission'.symm, hkey, hkey', trivial, hrequest, hsubject,
      hsubject', hrecord, hrecord', htime.symm, htime.trans htime'.symm,
      h.recorded_lt_valid_until, hidempotency, hreservation⟩

/-- The receipt of the proposed reservation is accepted by later connections. -/
theorem decodeRecord (hconsistent : p.Consistent pd bounds args.force_indeterminate)
    (hforce : args.force_indeterminate = false) :
    decodeRecord pd bounds p.record.operator_id (receiptRow pd p) (some (proposed p args)) =
      .ok p.record := by
  obtain ⟨-, -, -, -, -, -, hkey, hkey', hrequest, -⟩ := h.columns
  have hfits := hconsistent.record_fits hforce
  have hfits' := hconsistent.audit_fits hforce
  simp only [fits, decide_eq_true_eq] at hfits hfits'
  have hfp := (AcknowledgementV1.sound_of_exact (pd.exact_loadRecord _ _ h.record)).record
  have haudit := pd.exact_loadAudit _ _ h.audit
  simp only [AuditEvidenceV1.exact, bind_eq_ok, require_eq_ok, beq_iff_eq] at haudit
  obtain ⟨afp, hafp, rfl⟩ := haudit
  refine decodeRecord_eq_ok.mpr ⟨_, rfl, h.reservationChecks hconsistent, ⟨hfits, hfits'⟩,
    pd.load_dumpRecord _ _ h.record, p.audit, pd.load_dumpAudit _ _ h.audit, rfl, hfp, hafp, ?_,
    h.record_audit hforce, h.request⟩
  simp only [isRowRecordExact, receiptRow, proposed, decide_eq_true_eq, true_and, and_true]
  have hkeys := hkey'.symm.trans hkey.symm
  exact ⟨hkeys, hrequest.symm, hkeys, h.valid_until⟩

end Prepared

/-! ## Writes -/

section Writes

/-- The contents with one more reservation. -/
def Database.addReservation (row : ReservationRow) (db : Database) : Database :=
  { db with reservations := db.reservations ++ [row] }

/-- The contents with one more receipt. -/
def Database.addReceipt (row : ReceiptRow) (db : Database) : Database :=
  { db with receipts := db.receipts ++ [row] }

/-- The contents with one more mark. -/
def Database.addAttempt (row : AttemptRow) (db : Database) : Database :=
  { db with attempts := db.attempts ++ [row] }

/-- A reservation that was found is found after an insertion. -/
theorem reservation_addReservation {row : ReservationRow} {key : String × String}
    {found : ReservationRow} (h : db.reservation key = some found) :
    (db.addReservation row).reservation key = some found :=
  Rows.find_append_of_eq_some h row

/-- Keys under which the reservations have at most one row each: the other tables are no longer
than the reservations. -/
theorem length_le_of_keys {α β : Type} {keys keys' : List (String × String)} {as : List α}
    {bs : List β} {f : α → String × String} {g : β → String × String} (has : as.map f = keys)
    (hbs : bs.map g = keys') (hnodup : keys.Nodup) (hsub : ∀ k ∈ keys, k ∈ keys') :
    as.length ≤ bs.length := by
  have hlength := (List.subperm_of_subset hnodup hsub).length_le
  rwa [← has, ← hbs, List.length_map, List.length_map] at hlength

/-- A new reservation that is accepted by itself and within the quotas is accepted. -/
theorem Intact.addReservation (h : Intact pd bounds db) {row : ReservationRow}
    (hchecks : reservationChecks pd bounds row.operator_id row = .ok ())
    (htotal : db.reservations.length < bounds.max_total_records)
    (howner : (db.reservations.filter fun a => a.operator_id = row.operator_id).length <
      bounds.max_records_per_operator)
    (hfresh : ∀ a ∈ db.reservations, a.clash row = false) :
    Intact pd bounds (db.addReservation row) := by
  refine ⟨⟨?_, h.receipt_count, h.receipt_fits, h.attempt_count, h.attempt_fits, ?_, ?_, ?_,
    h.attempt_keys, ?_⟩, h.unique_reservations.append_singleton hfresh, h.unique_receipts⟩
  · rw [Database.addReservation, List.length_append, List.length_singleton]
    omega
  · intro a ha
    rcases List.mem_append.mp ha with ha | ha
    · exact h.reservations a ha
    · rw [List.mem_singleton.mp ha]
      exact hchecks
  · intro a ha
    change ((db.reservations ++ [row]).filter _).length ≤ _
    rw [List.filter_append, List.length_append]
    by_cases hsame : row.operator_id = a.operator_id
    · have hone := List.length_filter_le (fun b => decide (b.operator_id = a.operator_id)) [row]
      rw [← hsame] at hone ⊢
      rw [List.length_singleton] at hone
      omega
    · rw [List.filter_singleton, decide_eq_false hsame]
      rcases List.mem_append.mp ha with ha | ha
      · exact h.owners a ha
      · rw [List.mem_singleton.mp ha] at hsame
        exact absurd rfl hsame
  · intro a ha
    obtain ⟨record, hrecord⟩ := h.receipts a ha
    obtain ⟨found, hfound, -⟩ := decodeRecord_eq_ok.mp hrecord
    rw [hfound] at hrecord
    exact ⟨record, by rw [reservation_addReservation hfound]; exact hrecord⟩
  · intro a ha
    obtain ⟨found, hfound, hrest⟩ := checkAttempt_eq_ok.mp (h.attempts a ha)
    exact checkAttempt_eq_ok.mpr ⟨found, reservation_addReservation hfound, hrest⟩

/-- A new receipt whose reservation is not marked is accepted. -/
theorem Intact.addReceipt (h : Intact pd bounds db) {row : ReceiptRow} {record : AcknowledgementV1}
    (hdecode : decodeRecord pd bounds row.operator_id row (db.reservation row.key) = .ok record)
    (hunmarked : db.attempted row.key = false) (hfresh : ∀ a ∈ db.receipts, a.clash row = false) :
    Intact pd bounds (db.addReceipt row) := by
  have hunique := h.unique_receipts.append_singleton hfresh
  obtain ⟨found, hfound, -, hfits, -⟩ := decodeRecord_eq_ok.mp hdecode
  have hreceipts : ∀ a ∈ (db.addReceipt row).receipts,
      ∃ r, decodeRecord pd bounds a.operator_id a (db.reservation a.key) = .ok r := by
    intro a ha
    rcases List.mem_append.mp ha with ha | ha
    · exact h.receipts a ha
    · rw [List.mem_singleton.mp ha]
      exact ⟨record, hdecode⟩
  refine ⟨⟨h.reservation_count, ?_, ?_, h.attempt_count, h.attempt_fits, h.reservations, h.owners,
    hreceipts, h.attempt_keys, ?_⟩, h.unique_reservations, hunique⟩
  · refine (length_le_of_keys (f := ReceiptRow.key) (g := ReservationRow.key) rfl rfl
      (hunique.nodup_map fun _ _ _ _ => ReceiptRow.clash_of_key) ?_).trans h.reservation_count
    intro k hk
    obtain ⟨a, ha, rfl⟩ := List.mem_map.mp hk
    obtain ⟨r, hr⟩ := hreceipts a ha
    obtain ⟨b, hb, -⟩ := decodeRecord_eq_ok.mp hr
    obtain ⟨hmem, hkey⟩ := mem_of_reservation hb
    exact List.mem_map.mpr ⟨b, hmem, hkey⟩
  · intro a ha
    rcases List.mem_append.mp ha with ha | ha
    · exact h.receipt_fits a ha
    · rw [List.mem_singleton.mp ha]
      simpa [fits] using hfits
  · intro a ha
    obtain ⟨b, hb, hnone, hrest⟩ := checkAttempt_eq_ok.mp (h.attempts a ha)
    refine checkAttempt_eq_ok.mpr ⟨b, hb, fun c hc => ?_, hrest⟩
    rcases List.mem_append.mp hc with hc | hc
    · exact hnone c hc
    · rw [List.mem_singleton.mp hc]
      exact fun heq => attempted_eq_false.mp hunmarked a ha heq.symm

/-- A new mark of a reservation that has neither receipt nor mark is accepted. -/
theorem Intact.addAttempt (h : Intact pd bounds db) {row : AttemptRow}
    (hcheck : checkAttempt pd db row = .ok ()) (hfits : fits bounds row.audit_json = true)
    (hunmarked : db.attempted row.key = false) : Intact pd bounds (db.addAttempt row) := by
  have hkeys : ((db.addAttempt row).attempts.map AttemptRow.key).Nodup := by
    rw [Database.addAttempt, List.map_append]
    refine List.Nodup.append h.attempt_keys (List.nodup_singleton _) ?_
    intro k hk hrow
    obtain ⟨a, ha, rfl⟩ := List.mem_map.mp hk
    exact attempted_eq_false.mp hunmarked a ha (List.mem_singleton.mp hrow)
  have hattempts : ∀ a ∈ (db.addAttempt row).attempts, checkAttempt pd db a = .ok () := by
    intro a ha
    rcases List.mem_append.mp ha with ha | ha
    · exact h.attempts a ha
    · rw [List.mem_singleton.mp ha]
      exact hcheck
  refine ⟨⟨h.reservation_count, h.receipt_count, h.receipt_fits, ?_, ?_, h.reservations, h.owners,
    h.receipts, hkeys, hattempts⟩, h.unique_reservations, h.unique_receipts⟩
  · refine (length_le_of_keys (f := AttemptRow.key) (g := ReservationRow.key) rfl rfl hkeys
      ?_).trans h.reservation_count
    intro k hk
    obtain ⟨a, ha, rfl⟩ := List.mem_map.mp hk
    obtain ⟨b, hb, -⟩ := checkAttempt_eq_ok.mp (hattempts a ha)
    obtain ⟨hmem, hkey⟩ := mem_of_reservation hb
    exact List.mem_map.mpr ⟨b, hmem, hkey⟩
  · intro a ha
    rcases List.mem_append.mp ha with ha | ha
    · exact h.attempt_fits a ha
    · rw [List.mem_singleton.mp ha]
      exact hfits

end Writes

end AtlasOS.Acknowledgement
