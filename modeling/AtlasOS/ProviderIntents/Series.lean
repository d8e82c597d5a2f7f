import AtlasOS.ProviderIntents.Methods

/-!
# The series of the store

A series is the chain of versions that `_validated_history` returns under one
intent identity. `History` says what its success means, and `Persisted` what
`_persist_mutation` adds to the three tables behind it: the new record joins the
end of its own series, and every other series is as it was.
-/

namespace AtlasOS.ProviderIntents

open Sqlite Sqlite.Transaction

variable {py : Python} {pd : Pydantic}

/-! ## Validated histories -/

@[simp] theorem length_versions (n : ℕ) : (versions n).length = n := by simp [versions]

theorem versions_succ (n : ℕ) : versions (n + 1) = versions n ++ [(n : Int) + 1] := by
  simp [versions, List.range_succ]

theorem mem_versions {n : ℕ} {v : Int} : v ∈ versions n ↔ 1 ≤ v ∧ v ≤ n := by
  simp only [versions, List.mem_map, List.mem_range]
  constructor
  · rintro ⟨i, hi, rfl⟩
    omega
  · rintro ⟨hlow, hhigh⟩
    exact ⟨(v - 1).toNat, by omega, by omega⟩

/-- The rows of a stored series and the evidence for each of its records. -/
structure History (py : Python) (pd : Pydantic) (db : Database) (intent_id : String)
    (history : List ProviderIntentRecord) : Prop where
  rows : List.Forall₂ (fun row record => decodeRecord py pd row = .ok record)
    (db.seriesRows intent_id) history
  chain : history.map (·.record_version) = versions history.length
  evidence : List.Forall₂ (fun record row => validatedEvidence py pd db record row = .ok ())
    history (db.evidenceRows intent_id)

/-- A history passes validation exactly when its rows and its evidence do. -/
theorem validatedHistory_eq_ok {db : Database} {intent_id : String}
    {history : List ProviderIntentRecord} :
    validatedHistory py pd db intent_id = .ok history ↔ History py pd db intent_id history := by
  unfold validatedHistory
  constructor
  · intro h
    obtain ⟨records, hrows, h⟩ := bind_eq_ok.mp h
    rw [demand_bind_eq_ok, demand_bind_eq_ok, check_bind_eq_ok, pure_eq_ok, Except.ok.injEq,
      forM_eq_ok, decide_eq_true_eq, decide_eq_true_eq] at h
    obtain ⟨hchain, hlength, hevidence, rfl⟩ := h
    exact ⟨mapM_eq_ok_iff.mp hrows, hchain,
      List.forall₂_iff_zip.mpr ⟨hlength.symm, fun hmem => hevidence _ hmem⟩⟩
  · intro h
    rw [mapM_eq_ok_iff.mpr h.rows, ok_bind, demand_bind_eq_ok, demand_bind_eq_ok,
      check_bind_eq_ok, pure_eq_ok, forM_eq_ok, decide_eq_true_eq, decide_eq_true_eq]
    obtain ⟨hlength, hevidence⟩ := List.forall₂_iff_zip.mp h.evidence
    exact ⟨h.chain, hlength.symm, fun pair hmem => hevidence hmem, rfl⟩

/-- What a decoded row says about its record. -/
theorem decodeRecord_eq_ok {row : RecordRow} {record : ProviderIntentRecord} :
    decodeRecord py pd row = .ok record ↔
      pd.validateRecordJson py row.record_json = .ok record ∧
        row = { storedRecord py pd record with record_json := row.record_json } := by
  unfold decodeRecord
  rw [bind_eq_ok]
  simp only [checked_eq_ok, demand_bind_eq_ok, decide_eq_true_eq, pure_eq_ok, Except.ok.injEq]
  constructor
  · rintro ⟨record, hread, ⟨h₁, h₂, h₃, h₄, h₅, h₆⟩, rfl⟩
    obtain ⟨intent_id, record_version, lifecycle, record_json, created_at, updated_at, version⟩ :=
      row
    simp only at h₁ h₂ h₃ h₄ h₅ h₆
    subst h₁ h₂ h₃ h₄ h₅ h₆
    exact ⟨hread, rfl⟩
  · rintro ⟨hread, hrow⟩
    refine ⟨record, hread, ?_, rfl⟩
    rw [hrow]
    exact ⟨rfl, rfl, rfl, rfl, rfl, rfl⟩

theorem valid_of_decodeRecord {row : RecordRow} {record : ProviderIntentRecord}
    (h : decodeRecord py pd row = .ok record) : record.Valid py :=
  Pydantic.valid_of_validateRecordJson (decodeRecord_eq_ok.mp h).1

theorem intent_id_of_decodeRecord {row : RecordRow} {record : ProviderIntentRecord}
    (h : decodeRecord py pd row = .ok record) : row.intent_id = record.intent_id := by
  rw [(decodeRecord_eq_ok.mp h).2]
  rfl

theorem version_of_decodeRecord {row : RecordRow} {record : ProviderIntentRecord}
    (h : decodeRecord py pd row = .ok record) : row.record_version = record.record_version := by
  rw [(decodeRecord_eq_ok.mp h).2]
  rfl

/-- A valid record is read back from its row. -/
theorem decodeRecord_storedRecord {record : ProviderIntentRecord} (h : record.Valid py) :
    decodeRecord py pd (storedRecord py pd record) = .ok record :=
  decodeRecord_eq_ok.mpr ⟨Pydantic.validateRecordJson_dump h, rfl⟩

theorem mem_seriesRows {db : Database} {intent_id : String} {row : RecordRow} :
    row ∈ db.seriesRows intent_id ↔ row ∈ db.records ∧ row.intent_id = intent_id := by
  simp [Database.seriesRows]

theorem mem_evidenceRows {db : Database} {intent_id : String} {row : AuditRow} :
    row ∈ db.evidenceRows intent_id ↔ row ∈ db.audit ∧ row.intent_id = intent_id := by
  simp [Database.evidenceRows]

/-- What passed evidence says. -/
theorem validatedEvidence_eq_ok {db : Database} {record : ProviderIntentRecord} {row : AuditRow} :
    validatedEvidence py pd db record row = .ok () ↔
      ∃ request_row, db.request row.request_id = some request_row ∧
        ∃ result, pd.validateResultJson py request_row.result_json = .ok result ∧
          row.record_version = record.record_version ∧
          row.request_digest = request_row.request_digest ∧
          row.event = StrEnum.value (expectedEvent record) ∧
          result.record = record ∧ result.outcome.event = expectedEvent record := by
  unfold validatedEvidence
  cases db.request row.request_id with
  | none => simp
  | some request_row => simp [bind_eq_ok]

namespace History

variable {db : Database} {intent_id : String} {history : List ProviderIntentRecord}

/-- Every record of a series is decoded from a row of the series. -/
theorem exists_row (h : History py pd db intent_id history) {record : ProviderIntentRecord}
    (hmem : record ∈ history) :
    ∃ row ∈ db.records, row.intent_id = intent_id ∧ decodeRecord py pd row = .ok record := by
  obtain ⟨row, hrow, hdecode⟩ := Rows.exists_of_mem_right h.rows hmem
  obtain ⟨hmem, hid⟩ := mem_seriesRows.mp hrow
  exact ⟨row, hmem, hid, hdecode⟩

theorem intent_id_of_mem (h : History py pd db intent_id history) {record : ProviderIntentRecord}
    (hmem : record ∈ history) : record.intent_id = intent_id := by
  obtain ⟨row, -, hid, hdecode⟩ := h.exists_row hmem
  rw [← intent_id_of_decodeRecord hdecode, hid]

theorem valid (h : History py pd db intent_id history) {record : ProviderIntentRecord}
    (hmem : record ∈ history) : record.Valid py := by
  obtain ⟨row, -, -, hdecode⟩ := h.exists_row hmem
  exact valid_of_decodeRecord hdecode

/-- The versions of a series are `1, ..., n`. -/
theorem version_le (h : History py pd db intent_id history) {record : ProviderIntentRecord}
    (hmem : record ∈ history) : record.record_version ≤ history.length := by
  have hmap := List.mem_map_of_mem (f := fun r => r.record_version) hmem
  rw [h.chain] at hmap
  exact (mem_versions.mp hmap).2

theorem row_version_le (h : History py pd db intent_id history) {row : RecordRow}
    (hmem : row ∈ db.records) (hid : row.intent_id = intent_id) :
    row.record_version ≤ history.length := by
  obtain ⟨record, hrecord, hdecode⟩ :=
    Rows.exists_of_mem_left h.rows (mem_seriesRows.mpr ⟨hmem, hid⟩)
  rw [version_of_decodeRecord hdecode]
  exact h.version_le hrecord

theorem evidence_version_le (h : History py pd db intent_id history) {row : AuditRow}
    (hmem : row ∈ db.audit) (hid : row.intent_id = intent_id) :
    row.record_version ≤ history.length := by
  obtain ⟨record, hrecord, hevidence⟩ :=
    Rows.exists_of_mem_right h.evidence (mem_evidenceRows.mpr ⟨hmem, hid⟩)
  obtain ⟨_, _, _, _, hversion, -⟩ := validatedEvidence_eq_ok.mp hevidence
  rw [hversion]
  exact h.version_le hrecord

/-- The last version of a series is its length. -/
theorem version_getLast (h : History py pd db intent_id history) {record : ProviderIntentRecord}
    (hlast : history.getLast? = some record) : record.record_version = history.length := by
  have hmap : (history.map (·.record_version)).getLast? = some record.record_version := by
    rw [List.getLast?_map, hlast, Option.map_some]
  cases hn : history.length with
  | zero => simp [List.length_eq_zero_iff.mp hn] at hlast
  | succ n =>
    rw [h.chain, hn, versions_succ, List.getLast?_concat, Option.some.injEq] at hmap
    rw [← hmap]
    rfl

theorem eq_nil_iff (h : History py pd db intent_id history) :
    history = [] ↔ ∀ row ∈ db.records, row.intent_id ≠ intent_id := by
  constructor
  · rintro rfl row hmem hid
    obtain ⟨_, hnil, _⟩ := Rows.exists_of_mem_left h.rows (mem_seriesRows.mpr ⟨hmem, hid⟩)
    cases hnil
  · intro hnone
    rw [List.eq_nil_iff_forall_not_mem]
    intro record hmem
    obtain ⟨row, hrow, hid, -⟩ := h.exists_row hmem
    exact hnone row hrow hid

end History

/-! ## What a mutation adds -/

/-- The data of one call of `_persist_mutation`. -/
structure Mutation where
  record : ProviderIntentRecord
  outcome : MutationOutcome
  request_id : String
  request_digest : String
  occurred_at : DateTime

namespace Mutation

/-- The result that the request row keeps. -/
def result (m : Mutation) : ProviderIntentMutationResult := { outcome := m.outcome, record := m.record }

/-- The request row. -/
def requestRow (py : Python) (pd : Pydantic) (m : Mutation) : RequestRow :=
  storedRequest py pd m.result m.request_id m.request_digest m.occurred_at

/-- The audit row under a number. -/
def auditRow (py : Python) (m : Mutation) (sequence : Int) : AuditRow :=
  storedAudit py m.record m.request_id m.request_digest m.outcome.event m.occurred_at sequence

/-- The statements of the mutation. -/
def persist (py : Python) (pd : Pydantic) (m : Mutation) : Store Unit :=
  persistMutation py pd m.record m.result m.request_id m.request_digest m.outcome.event
    m.occurred_at

/-- The contents with the three rows of the mutation added, the audit row under a number. -/
def addTo (py : Python) (pd : Pydantic) (m : Mutation) (sequence : Int) (w : Database) : Database :=
  { w with
    records := w.records ++ [storedRecord py pd m.record]
    audit := w.audit ++ [m.auditRow py sequence]
    requests := w.requests ++ [m.requestRow py pd] }

/-- The new rows clash with no stored row. -/
structure Fresh (py : Python) (pd : Pydantic) (m : Mutation) (sequence : Int) (w : Database) :
    Prop where
  records : ∀ a ∈ w.records, RecordRow.clash a (storedRecord py pd m.record) = false
  audit : ∀ a ∈ w.audit, AuditRow.clash a (m.auditRow py sequence) = false
  requests : ∀ a ∈ w.requests, RequestRow.clash a (m.requestRow py pd) = false

end Mutation

/-- The mutation has been persisted. -/
def Persisted (py : Python) (pd : Pydantic) (m : Mutation) (w w' : Database) : Prop :=
  ∃ sequence, m.Fresh py pd sequence w ∧ w' = m.addTo py pd sequence w

/-- `_persist_mutation` adds the rows of its mutation or raises. -/
theorem spec_persist {m : Mutation} {db w : Database} {Q : Unit → Database → Database → Prop}
    (h : ∀ w', Persisted py pd m w w' → Q () db w') :
    Spec (m.persist py pd) db w Q fun _ d => d = db := by
  refine Spec.bind (Spec.execute rfl (fun _ _ => rfl) fun w₁ hw₁ => ?_)
  refine Spec.bind (Spec.execute rfl (fun _ _ => rfl) fun w₂ hw₂ => ?_)
  refine Spec.execute rfl (fun _ _ => rfl) fun w₃ hw₃ => h w₃ ?_
  obtain ⟨hversion, hrecord⟩ := demand_bind_eq_ok.mp hw₁
  split at hrecord
  · cases hrecord
  next records hinsert₁ =>
  rw [pure_eq_ok, Except.ok.injEq] at hrecord
  subst hrecord
  obtain ⟨sequence, hsequence, haudit⟩ := bind_eq_ok.mp hw₂
  obtain ⟨hreferences, haudit⟩ := demand_bind_eq_ok.mp haudit
  split at haudit
  · cases haudit
  next audit hinsert₂ =>
  rw [pure_eq_ok, Except.ok.injEq] at haudit
  subst haudit
  unfold Database.insertRequest at hw₃
  split at hw₃
  · cases hw₃
  next requests hinsert₃ =>
  rw [Except.ok.injEq] at hw₃
  subst hw₃
  obtain ⟨hfresh₁, rfl⟩ := Rows.insert_eq_some.mp hinsert₁
  obtain ⟨hfresh₂, rfl⟩ := Rows.insert_eq_some.mp hinsert₂
  obtain ⟨hfresh₃, rfl⟩ := Rows.insert_eq_some.mp hinsert₃
  exact ⟨sequence, ⟨hfresh₁, hfresh₂, hfresh₃⟩, rfl⟩

namespace Persisted

variable {m : Mutation} {w w' : Database}

/-- The uniqueness constraints still hold. -/
theorem unique (h : Persisted py pd m w w') (hw : w.Unique) : w'.Unique := by
  obtain ⟨sequence, hfresh, rfl⟩ := h
  exact { hw with
    records := hw.records.append_singleton hfresh.records
    audit := hw.audit.append_singleton hfresh.audit
    requests := hw.requests.append_singleton hfresh.requests }

/-- The audit row of the mutation is the only one with its request. -/
theorem audit_request_ne {sequence : Int} (h : m.Fresh py pd sequence w) {row : AuditRow}
    (hmem : row ∈ w.audit) : row.request_id ≠ m.request_id := by
  intro heq
  have hclash := h.audit row hmem
  have htrue : AuditRow.clash row (m.auditRow py sequence) = true :=
    decide_eq_true (.inr (.inl heq))
  rw [htrue] at hclash
  cases hclash

/-- The evidence of the stored audit rows is as it was. -/
theorem validatedEvidence_eq {sequence : Int} (h : m.Fresh py pd sequence w)
    (record : ProviderIntentRecord) {row : AuditRow} (hmem : row ∈ w.audit) :
    validatedEvidence py pd (m.addTo py pd sequence w) record row =
      validatedEvidence py pd w record row := by
  have hrequest : (m.addTo py pd sequence w).request row.request_id = w.request row.request_id :=
    Rows.find_append_of_ne (Ne.symm (audit_request_ne h hmem))
  unfold validatedEvidence
  rw [hrequest]

end Persisted

/-- The rows of one series have distinct versions. -/
theorem Database.Unique.nodup_series {db : Database} (h : db.Unique) (intent_id : String) :
    ((db.records.filter fun row => decide (row.intent_id = intent_id)).map
      (·.record_version)).Nodup := by
  refine (h.records.filter _).nodup_map fun a ha b hb heq => decide_eq_true ⟨?_, heq⟩
  simp only [List.mem_filter, decide_eq_true_eq] at ha hb
  rw [ha.2, hb.2]

/-- The audit rows of one series have distinct versions. -/
theorem Database.Unique.nodup_evidence {db : Database} (h : db.Unique) (intent_id : String) :
    ((db.audit.filter fun row => decide (row.intent_id = intent_id)).map
      (·.record_version)).Nodup := by
  refine (h.audit.filter _).nodup_map fun a ha b hb heq => decide_eq_true (.inr (.inr ⟨?_, heq⟩))
  simp only [List.mem_filter, decide_eq_true_eq] at ha hb
  rw [ha.2, hb.2]

section Persist

variable {m : Mutation} {w w' : Database} {intent_id : String}
  {history : List ProviderIntentRecord}

/-- A series that the mutation is not about is as it was. -/
theorem History.persist_of_ne (h : History py pd w intent_id history)
    (hp : Persisted py pd m w w') (hne : m.record.intent_id ≠ intent_id) :
    History py pd w' intent_id history := by
  obtain ⟨sequence, hfresh, rfl⟩ := hp
  have hrows : (m.addTo py pd sequence w).seriesRows intent_id = w.seriesRows intent_id :=
    Rows.orderBy_filter_append_of_neg fun hid => hne (of_decide_eq_true hid)
  have hevidence : (m.addTo py pd sequence w).evidenceRows intent_id = w.evidenceRows intent_id :=
    Rows.orderBy_filter_append_of_neg fun hid => hne (of_decide_eq_true hid)
  refine ⟨by rw [hrows]; exact h.rows, h.chain, ?_⟩
  rw [hevidence]
  have hmem : ∀ row ∈ w.evidenceRows intent_id, row ∈ w.audit :=
    fun row hrow => (mem_evidenceRows.mp hrow).1
  refine List.forall₂_iff_zip.mpr ⟨h.evidence.length_eq, fun {record row} hzip => ?_⟩
  rw [Persisted.validatedEvidence_eq hfresh record (hmem row (List.of_mem_zip hzip).2)]
  exact List.forall₂_zip h.evidence hzip

/-- The series of the mutation ends with its record. -/
theorem History.persist (h : History py pd w intent_id history) (hunique : w.Unique)
    (hp : Persisted py pd m w w') (hid : m.record.intent_id = intent_id)
    (hversion : m.record.record_version = history.length + 1) (hvalid : m.record.Valid py)
    (hevent : m.outcome.event = expectedEvent m.record) :
    History py pd w' intent_id (history ++ [m.record]) := by
  obtain ⟨sequence, hfresh, rfl⟩ := hp
  have hlast {v : Int} (hle : v ≤ history.length) : v < m.record.record_version := by omega
  have hrows : (m.addTo py pd sequence w).seriesRows intent_id =
      w.seriesRows intent_id ++ [storedRecord py pd m.record] :=
    Rows.orderBy_filter_append_of_pos (hunique.nodup_series intent_id) (decide_eq_true hid)
      fun row hmem hrow => hlast (h.row_version_le hmem (of_decide_eq_true hrow))
  have hevidence : (m.addTo py pd sequence w).evidenceRows intent_id =
      w.evidenceRows intent_id ++ [m.auditRow py sequence] :=
    Rows.orderBy_filter_append_of_pos (hunique.nodup_evidence intent_id) (decide_eq_true hid)
      fun row hmem hrow => hlast (h.evidence_version_le hmem (of_decide_eq_true hrow))
  refine ⟨?_, ?_, ?_⟩
  · rw [hrows]
    exact Rows.forall₂_append_singleton h.rows (decodeRecord_storedRecord hvalid)
  · rw [List.map_append, h.chain, List.length_append, List.length_singleton, versions_succ,
      List.map_singleton, hversion]
  · rw [hevidence]
    refine Rows.forall₂_append_singleton ?_ ?_
    · refine List.forall₂_iff_zip.mpr ⟨h.evidence.length_eq, fun {record row} hzip => ?_⟩
      have hmem := (mem_evidenceRows.mp (List.of_mem_zip hzip).2).1
      rw [Persisted.validatedEvidence_eq hfresh record hmem]
      exact List.forall₂_zip h.evidence hzip
    · have hrequest : (m.addTo py pd sequence w).request m.request_id =
          some (m.requestRow py pd) :=
        Rows.find_append_self (decide_eq_true rfl) fun row hmem heq => by
          have hclash := hfresh.requests row hmem
          have htrue : RequestRow.clash row (m.requestRow py pd) = true := heq
          rw [htrue] at hclash
          cases hclash
      refine validatedEvidence_eq_ok.mpr ⟨_, hrequest, m.result, ?_, rfl, rfl, ?_, rfl, hevent⟩
      · exact Pydantic.validateResultJson_dump hvalid
      · rw [← hevent]
        rfl

end Persist

end AtlasOS.ProviderIntents
