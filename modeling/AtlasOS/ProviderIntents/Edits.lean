import AtlasOS.ProviderIntents.StoreInvariant
import Mathlib.Data.Set.BooleanAlgebra
import Mathlib.Logic.Relation
import Mathlib.Order.CompletePartialOrder

/-!
# The edits of the store

An `Edit` is one change of the tables: a series begins, continues or ends, legacy
evidence is added, an import or an operation is completed. An edit of an accepted
store leaves an accepted store, and it removes nothing from the append-only tables.
-/

namespace AtlasOS.ProviderIntents

variable {py : Python} {pd : Pydantic} {db db' : Database}

/-! ## Changes outside the series -/

/-- The series read three tables only. -/
structure SameSeries (db db' : Database) : Prop where
  records : db'.records = db.records
  audit : db'.audit = db.audit
  requests : db'.requests = db.requests

namespace SameSeries

theorem symm (h : SameSeries db db') : SameSeries db' db :=
  ⟨h.records.symm, h.audit.symm, h.requests.symm⟩

theorem validatedHistory_eq (h : SameSeries db db') (intent_id : String) :
    validatedHistory py pd db' intent_id = validatedHistory py pd db intent_id := by
  have hevidence (record : ProviderIntentRecord) (row : AuditRow) :
      validatedEvidence py pd db' record row = validatedEvidence py pd db record row := by
    unfold validatedEvidence Database.request
    rw [h.requests]
  unfold validatedHistory Database.seriesRows Database.evidenceRows
  simp only [h.records, h.audit, hevidence]

theorem history (h : SameSeries db db') {intent_id : String} {history : List ProviderIntentRecord} :
    History py pd db' intent_id history ↔ History py pd db intent_id history := by
  rw [← validatedHistory_eq_ok, ← validatedHistory_eq_ok, h.validatedHistory_eq]

theorem current (h : SameSeries db db') {record : ProviderIntentRecord} :
    Current py pd db' record ↔ Current py pd db record :=
  exists_congr fun _ => and_congr_left fun _ => h.history

theorem seriesAgree (h : SameSeries db db') (hdb : SeriesAgree py pd db) :
    SeriesAgree py pd db' where
  series intent_id := by
    obtain ⟨history, hhistory⟩ := hdb.series intent_id
    exact ⟨history, h.history.mpr hhistory⟩
  orphans := by
    rw [h.requests, h.audit]
    exact hdb.orphans

theorem activeIs (h : SameSeries db db') {rows : List ActiveRow} (hrows : ActiveIs py pd db rows) :
    ActiveIs py pd db' rows := by
  intro row
  rw [hrows row]
  exact exists_congr fun record => and_congr_left fun _ => h.current.symm

end SameSeries

/-! ## The evidence of an operation -/

/-- Every record row is still found under its version. -/
def KeepsRecords (db db' : Database) : Prop :=
  ∀ intent_id version row, db.recordRow intent_id version = some row →
    db'.recordRow intent_id version = some row

/-- The evidence of an operation reads its own audit rows and record rows that stay. -/
theorem validatedOperation_of_keeps {operation : OperationRow}
    (h : validatedOperation py pd db operation = .ok ()) (hkeeps : KeepsRecords db db')
    (haudits : db'.operationAudits operation.request_id = db.operationAudits operation.request_id) :
    validatedOperation py pd db' operation = .ok () := by
  unfold validatedOperation at h ⊢
  simp only [bind_eq_ok, exists_unit, demand_eq_ok, forM_eq_ok] at h ⊢
  obtain ⟨result, hresult, hidentity, hcount, hevents, hrecord⟩ := h
  refine ⟨result, hresult, hidentity, by rw [haudits]; exact hcount, ?_, ?_⟩
  · rw [haudits]
    intro pair hpair
    have hevent := hevents pair hpair
    unfold validatedDomainAudit at hevent ⊢
    obtain ⟨event, hevent, hrest⟩ := bind_eq_ok.mp hevent
    rw [hevent, ok_bind]
    obtain ⟨hidentity, hrest⟩ := demand_bind_eq_ok.mp hrest
    refine demand_bind_eq_ok.mpr ⟨hidentity, ?_⟩
    split at hrest
    · cases hrest
    · next row hrow =>
      rw [hkeeps _ _ _ hrow]
      exact hrest
  · split at hrecord
    · cases hrecord
    · next row hrow =>
      rw [hkeeps _ _ _ hrow]
      exact hrecord

/-! ## Edits -/

/-- The mutation adds the next version of a series. -/
structure Mutation.Continues (py : Python) (m : Mutation) (history : List ProviderIntentRecord) :
    Prop where
  valid : m.record.Valid py
  version : m.record.record_version = history.length + 1
  event : m.outcome.event = expectedEvent m.record

/-- Two versions describe the same incarnation. -/
structure SameIncarnation (a b : ProviderIntentRecord) : Prop where
  intent_id : a.intent_id = b.intent_id
  provider_id : a.provider_id = b.provider_id
  resource_type : a.resource_type = b.resource_type
  resource_id : a.resource_id = b.resource_id
  fingerprint : a.incarnation_fingerprint = b.incarnation_fingerprint
  intent_kind : a.intent_kind = b.intent_kind

/-- A new version of the latest record of a series. -/
structure Mutation.Follows (py : Python) (pd : Pydantic) (m : Mutation) (db : Database)
    (previous : ProviderIntentRecord) (history : List ProviderIntentRecord) : Prop where
  chain : History py pd db m.record.intent_id history
  last : history.getLast? = some previous
  active : previous.lifecycle = .active
  continues : m.Continues py history
  same : SameIncarnation m.record previous

/-- The active coordinates without those of a series. -/
def withoutSeries (intent_id : String) (rows : List ActiveRow) : List ActiveRow :=
  rows.filter fun row => decide (row.intent_id ≠ intent_id)

/-- The active coordinates with a new version for a series. -/
def withVersion (record : ProviderIntentRecord) (rows : List ActiveRow) : List ActiveRow :=
  rows.map fun row =>
    if row.intent_id = record.intent_id then { row with record_version := record.record_version }
    else row

/-- One change of the tables. Series of incarnations have their identities in `bound`, and
series of legacy evidence in `unbound`. -/
inductive Edit (py : Python) (pd : Pydantic) (bound unbound : Set String) (db : Database) :
    Database → Prop
  /-- A series begins. -/
  | create {m : Mutation} {db₁ : Database} (hnew : History py pd db m.record.intent_id [])
      (hbound : m.record.intent_id ∈ bound) (hactive : m.record.lifecycle = .active)
      (hcontinues : m.Continues py []) (hpersisted : Persisted py pd m db db₁)
      (hclash : ∀ row ∈ db.active, ActiveRow.clash row (activeRow py m.record) = false) :
      Edit py pd bound unbound db { db₁ with active := db.active ++ [activeRow py m.record] }
  /-- A series continues with a new value. -/
  | update {m : Mutation} {previous : ProviderIntentRecord} {history : List ProviderIntentRecord}
      {db₁ : Database} (hfollows : m.Follows py pd db previous history)
      (hactive : m.record.lifecycle = .active) (hpersisted : Persisted py pd m db db₁) :
      Edit py pd bound unbound db { db₁ with active := withVersion m.record db.active }
  /-- A series ends. -/
  | supersede {m : Mutation} {previous : ProviderIntentRecord}
      {history : List ProviderIntentRecord} {db₁ : Database}
      (hfollows : m.Follows py pd db previous history)
      (hsuperseded : m.record.lifecycle = .superseded) (hpersisted : Persisted py pd m db db₁) :
      Edit py pd bound unbound db { db₁ with active := withoutSeries m.record.intent_id db.active }
  /-- Legacy evidence is added. -/
  | legacy {m : Mutation} {history : List ProviderIntentRecord} {db₁ : Database}
      (hhistory : History py pd db m.record.intent_id history)
      (hunbound : m.record.intent_id ∈ unbound) (hlegacy : m.record.lifecycle = .legacyUnbound)
      (hcontinues : m.Continues py history) (hpersisted : Persisted py pd m db db₁) :
      Edit py pd bound unbound db db₁
  /-- An import is completed. -/
  | marker {row : RequestRow} (hmarker : ∀ message, validatedMarker pd row message = .ok ())
      (hclash : ∀ a ∈ db.requests, RequestRow.clash a row = false) :
      Edit py pd bound unbound db { db with requests := db.requests ++ [row] }
  /-- An operation is completed. -/
  | operation {operation : OperationRow} {rows : List OperationAuditRow}
      (hrows : ∀ row ∈ rows, row.request_id = operation.request_id)
      (hclash : ∀ a ∈ db.operations, OperationRow.clash a operation = false)
      (hunique : Rows.Separated OperationAuditRow.clash (db.operation_audit ++ rows))
      (hvalid : validatedOperation py pd
        { db with
          operations := db.operations ++ [operation]
          operation_audit := db.operation_audit ++ rows } operation = .ok ()) :
      Edit py pd bound unbound db
        { db with
          operations := db.operations ++ [operation]
          operation_audit := db.operation_audit ++ rows }

/-- A sequence of edits. -/
abbrev Edits (py : Python) (pd : Pydantic) (bound unbound : Set String) :
    Database → Database → Prop :=
  Relation.ReflTransGen (Edit py pd bound unbound)

/-! ## Edits keep a store accepted -/

section Persist

variable {m : Mutation}

theorem Persisted.same_tables (h : Persisted py pd m db db') :
    db'.catalog = db.catalog ∧ db'.active = db.active ∧ db'.operations = db.operations ∧
      db'.operation_audit = db.operation_audit := by
  obtain ⟨sequence, -, rfl⟩ := h
  exact ⟨rfl, rfl, rfl, rfl⟩

theorem Persisted.keepsRecords (h : Persisted py pd m db db') : KeepsRecords db db' := by
  obtain ⟨sequence, -, rfl⟩ := h
  exact fun _ _ _ hrow => Rows.find_append_of_eq_some hrow _

/-- The series after a mutation that continues one of them. -/
theorem SeriesAgree.persist (h : SeriesAgree py pd db) (hunique : db.Unique)
    {history : List ProviderIntentRecord} (hhistory : History py pd db m.record.intent_id history)
    (hcontinues : m.Continues py history) (hp : Persisted py pd m db db') :
    SeriesAgree py pd db' where
  series intent_id := by
    by_cases hid : m.record.intent_id = intent_id
    · subst hid
      exact ⟨_, hhistory.persist hunique hp rfl hcontinues.version hcontinues.valid
        hcontinues.event⟩
    · obtain ⟨history, hhistory⟩ := h.series intent_id
      exact ⟨history, hhistory.persist_of_ne hp hid⟩
  orphans := by
    obtain ⟨sequence, hfresh, rfl⟩ := hp
    intro row hrow hnone message
    rcases List.mem_append.mp hrow with hold | hnew
    · exact h.orphans row hold (fun a ha => hnone a (List.mem_append_left _ ha)) message
    · rw [List.mem_singleton.mp hnew] at hnone
      exact absurd rfl
        (hnone (m.auditRow py sequence) (List.mem_append_right _ List.mem_cons_self))

/-- The latest records after a mutation. -/
theorem current_persist (hunique : db.Unique) {history : List ProviderIntentRecord}
    (hhistory : History py pd db m.record.intent_id history)
    (hcontinues : m.Continues py history) (hp : Persisted py pd m db db')
    (hseries : SeriesAgree py pd db) {record : ProviderIntentRecord} :
    Current py pd db' record ↔
      record = m.record ∨ record.intent_id ≠ m.record.intent_id ∧ Current py pd db record := by
  have hpersist := hhistory.persist hunique hp rfl hcontinues.version hcontinues.valid
    hcontinues.event
  have hcurrent : Current py pd db' m.record := ⟨_, hpersist, List.getLast?_concat⟩
  constructor
  · intro h
    by_cases hid : record.intent_id = m.record.intent_id
    · exact .inl (h.eq_of_intent_id hcurrent hid)
    · obtain ⟨history', hhistory', hlast⟩ := h
      obtain ⟨history, hhistory⟩ := hseries.series record.intent_id
      have heq := (hhistory.persist_of_ne hp (Ne.symm hid)).unique hhistory'
      exact .inr ⟨hid, history, hhistory, by rw [heq]; exact hlast⟩
  · rintro (rfl | ⟨hid, history, hhistory, hlast⟩)
    · exact hcurrent
    · exact ⟨history, hhistory.persist_of_ne hp (Ne.symm hid), hlast⟩

/-- The operations after a mutation. -/
theorem OperationsAgree.of_same (h : OperationsAgree py pd db) (hkeeps : KeepsRecords db db')
    (hoperations : db'.operations = db.operations)
    (haudits : db'.operation_audit = db.operation_audit) : OperationsAgree py pd db' where
  operations operation hmem := by
    rw [hoperations] at hmem
    refine validatedOperation_of_keeps (h.operations operation hmem) hkeeps ?_
    rw [Database.operationAudits, haudits]
    rfl
  audits := by
    rw [hoperations, haudits]
    exact h.audits

/-- The active coordinates after a mutation: those of the other series, and the new record's
own when it is active. -/
theorem ActiveIs.persist {rows rows' : List ActiveRow} (h : ActiveIs py pd db rows)
    (hcurrent : ∀ record, Current py pd db' record ↔
      record = m.record ∨ record.intent_id ≠ m.record.intent_id ∧ Current py pd db record)
    (hrows : ∀ row, row ∈ rows' ↔ row ∈ rows ∧ row.intent_id ≠ m.record.intent_id ∨
      m.record.lifecycle = .active ∧ row = activeRow py m.record) :
    ActiveIs py pd db' rows' := by
  intro row
  rw [hrows row, h row]
  constructor
  · rintro (⟨⟨record, hrecord, hactive, rfl⟩, hid⟩ | ⟨hactive, rfl⟩)
    · exact ⟨record, (hcurrent record).mpr (.inr ⟨hid, hrecord⟩), hactive, rfl⟩
    · exact ⟨m.record, (hcurrent m.record).mpr (.inl rfl), hactive, rfl⟩
  · rintro ⟨record, hrecord, hactive, rfl⟩
    rcases (hcurrent record).mp hrecord with rfl | ⟨hid, hrecord⟩
    · exact .inr ⟨hactive, rfl⟩
    · exact .inl ⟨⟨record, hrecord, hactive, rfl⟩, hid⟩

/-- The row of the series of an active record. -/
theorem ActiveIs.mem_iff {rows : List ActiveRow} (h : ActiveIs py pd db rows)
    {record : ProviderIntentRecord} (hrecord : Current py pd db record)
    (hactive : record.lifecycle = .active) {row : ActiveRow} :
    row ∈ rows ∧ row.intent_id = record.intent_id ↔ row = activeRow py record := by
  constructor
  · rintro ⟨hmem, hid⟩
    obtain ⟨record', hrecord', -, rfl⟩ := (h row).mp hmem
    rw [hrecord'.eq_of_intent_id hrecord hid]
  · rintro rfl
    exact ⟨(h _).mpr ⟨record, hrecord, hactive, rfl⟩, rfl⟩

/-- A series whose latest record is not active has no row. -/
theorem ActiveIs.ne_of_not_active {rows : List ActiveRow} (h : ActiveIs py pd db rows)
    {intent_id : String} {history : List ProviderIntentRecord}
    (hhistory : History py pd db intent_id history)
    (hlast : ∀ record, history.getLast? = some record → record.lifecycle ≠ .active)
    {row : ActiveRow} (hmem : row ∈ rows) : row.intent_id ≠ intent_id := by
  rintro rfl
  obtain ⟨record, ⟨history', hhistory', hlast'⟩, hactive, rfl⟩ := (h row).mp hmem
  have heq : history' = history := hhistory'.unique hhistory
  rw [heq] at hlast'
  exact hlast record hlast' hactive

end Persist

theorem mem_withoutSeries {intent_id : String} {rows : List ActiveRow} {row : ActiveRow} :
    row ∈ withoutSeries intent_id rows ↔ row ∈ rows ∧ row.intent_id ≠ intent_id := by
  simp [withoutSeries]

/-- The active coordinates after a new version of an active series. -/
theorem mem_withVersion {rows : List ActiveRow} (h : ActiveIs py pd db rows)
    {previous record : ProviderIntentRecord} (hcurrent : Current py pd db previous)
    (hactive : previous.lifecycle = .active) (hsame : SameIncarnation record previous)
    {row : ActiveRow} :
    row ∈ withVersion record rows ↔
      row ∈ rows ∧ row.intent_id ≠ record.intent_id ∨ row = activeRow py record := by
  have hrow : { activeRow py previous with record_version := record.record_version } =
      activeRow py record := by
    simp only [activeRow, hsame.provider_id, hsame.resource_type, hsame.resource_id,
      hsame.intent_kind, hsame.fingerprint, hsame.intent_id]
  unfold withVersion
  rw [List.mem_map]
  constructor
  · rintro ⟨row, hmem, rfl⟩
    split
    · next hid =>
      rw [hsame.intent_id] at hid
      rw [(h.mem_iff hcurrent hactive).mp ⟨hmem, hid⟩]
      exact .inr hrow
    · next hid => exact .inl ⟨hmem, hid⟩
  · rintro (⟨hmem, hid⟩ | rfl)
    · exact ⟨row, hmem, if_neg hid⟩
    · have hmem := ((h.mem_iff hcurrent hactive).mpr rfl).1
      exact ⟨_, hmem, (if_pos hsame.intent_id.symm).trans hrow⟩

theorem separated_withVersion {rows : List ActiveRow} (h : Rows.Separated ActiveRow.clash rows)
    (record : ProviderIntentRecord) : Rows.Separated ActiveRow.clash (withVersion record rows) := by
  refine List.pairwise_map.mpr (h.imp fun {a b} hab => ?_)
  have hkeys (row : ActiveRow) :
      (if row.intent_id = record.intent_id then
        { row with record_version := record.record_version } else row) =
      { row with record_version :=
          if row.intent_id = record.intent_id then record.record_version
          else row.record_version } := by
    split <;> rfl
  rw [hkeys, hkeys]
  exact hab

/-- The records that are bound to an incarnation have their series in the given set. -/
def BoundBy (py : Python) (pd : Pydantic) (bound : Set String) (db : Database) : Prop :=
  ∀ intent_id history, History py pd db intent_id history →
    ∀ record ∈ history, record.lifecycle ≠ .legacyUnbound → intent_id ∈ bound

/-- An accepted store whose series of incarnations are in the given set. -/
structure Kept (py : Python) (pd : Pydantic) (bound : Set String) (db : Database) : Prop where
  accepted : Accepted py pd db
  bound : BoundBy py pd bound db

section Kept

variable {bound unbound : Set String} {m : Mutation}

theorem SameSeries.boundBy (h : SameSeries db db') (hdb : BoundBy py pd bound db) :
    BoundBy py pd bound db' :=
  fun intent_id history hhistory => hdb intent_id history (h.history.mp hhistory)

theorem BoundBy.persist (h : BoundBy py pd bound db) (hunique : db.Unique)
    (hseries : SeriesAgree py pd db) {history : List ProviderIntentRecord}
    (hhistory : History py pd db m.record.intent_id history) (hcontinues : m.Continues py history)
    (hp : Persisted py pd m db db')
    (hrecord : m.record.lifecycle ≠ .legacyUnbound → m.record.intent_id ∈ bound) :
    BoundBy py pd bound db' := by
  intro intent_id history' hhistory' record hmem hlifecycle
  by_cases hid : m.record.intent_id = intent_id
  · subst hid
    have hpersist := hhistory.persist hunique hp rfl hcontinues.version hcontinues.valid
      hcontinues.event
    rw [hhistory'.unique hpersist] at hmem
    rcases List.mem_append.mp hmem with hold | hnew
    · exact h _ _ hhistory record hold hlifecycle
    · rw [List.mem_singleton.mp hnew] at hlifecycle
      exact hrecord hlifecycle
  · obtain ⟨old, hold⟩ := hseries.series intent_id
    rw [hhistory'.unique (hold.persist_of_ne hp hid)] at hmem
    exact h _ _ hold record hmem hlifecycle

/-- A mutation of a series together with the change of the active coordinates it needs. -/
theorem Kept.persist (h : Kept py pd bound db) {history : List ProviderIntentRecord}
    (hhistory : History py pd db m.record.intent_id history) (hcontinues : m.Continues py history)
    (hrecord : m.record.lifecycle ≠ .legacyUnbound → m.record.intent_id ∈ bound)
    {db₁ : Database} (hp : Persisted py pd m db db₁) {rows : List ActiveRow}
    (hseparated : Rows.Separated ActiveRow.clash rows)
    (hrows : ∀ row, row ∈ rows ↔ row ∈ db.active ∧ row.intent_id ≠ m.record.intent_id ∨
      m.record.lifecycle = .active ∧ row = activeRow py m.record) :
    Kept py pd bound { db₁ with active := rows } := by
  have hdb := h.accepted
  have hsame : SameSeries db₁ { db₁ with active := rows } := ⟨rfl, rfl, rfl⟩
  obtain ⟨hcatalog, -, hoperations, haudits⟩ := hp.same_tables
  refine ⟨⟨{ hp.unique hdb.unique with active := hseparated }, ?_,
    hsame.seriesAgree (hdb.series.persist hdb.unique hhistory hcontinues hp), ?_, ?_⟩,
    hsame.boundBy (h.bound.persist hdb.unique hdb.series hhistory hcontinues hp hrecord)⟩
  · change validateSchema db₁.catalog = .ok ()
    rw [hcatalog]
    exact hdb.schema
  · exact hsame.activeIs (hdb.active.persist
      (fun record => current_persist hdb.unique hhistory hcontinues hp hdb.series) hrows)
  · exact hdb.operations.of_same hp.keepsRecords hoperations haudits

/-- One more request leaves the series as they are. -/
theorem History.add_request {intent_id : String} {history : List ProviderIntentRecord}
    (h : History py pd db intent_id history) (row : RequestRow) :
    History py pd { db with requests := db.requests ++ [row] } intent_id history := by
  refine ⟨h.rows, h.chain, h.evidence.imp fun record audit_row hevidence => ?_⟩
  obtain ⟨request_row, hrequest, hrest⟩ := validatedEvidence_eq_ok.mp hevidence
  exact validatedEvidence_eq_ok.mpr
    ⟨request_row, Rows.find_append_of_eq_some hrequest row, hrest⟩

/-- The operations after one more. -/
theorem OperationsAgree.append (h : OperationsAgree py pd db) {operation : OperationRow}
    {rows : List OperationAuditRow} (hrows : ∀ row ∈ rows, row.request_id = operation.request_id)
    (hclash : ∀ a ∈ db.operations, OperationRow.clash a operation = false)
    (hvalid : validatedOperation py pd
      { db with
        operations := db.operations ++ [operation]
        operation_audit := db.operation_audit ++ rows } operation = .ok ()) :
    OperationsAgree py pd
      { db with
        operations := db.operations ++ [operation]
        operation_audit := db.operation_audit ++ rows } where
  operations a hmem := by
    rcases List.mem_append.mp hmem with hold | hnew
    · refine validatedOperation_of_keeps (h.operations a hold) (fun _ _ _ hrow => hrow) ?_
      have hne : operation.request_id ≠ a.request_id := by
        intro heq
        have hfalse := hclash a hold
        rw [OperationRow.clash, decide_eq_true heq.symm] at hfalse
        cases hfalse
      have hnone : rows.filter (fun row => decide (row.request_id = a.request_id)) = [] := by
        rw [List.filter_eq_nil_iff]
        intro row hrow hid
        exact hne ((hrows row hrow).symm.trans (of_decide_eq_true hid))
      simp only [Database.operationAudits, List.filter_append, hnone, List.append_nil]
    · rw [List.mem_singleton.mp hnew]
      exact hvalid
  audits row hmem := by
    rcases List.mem_append.mp hmem with hold | hnew
    · obtain ⟨a, ha, hid⟩ := h.audits row hold
      exact ⟨a, List.mem_append_left _ ha, hid⟩
    · exact ⟨operation, List.mem_append_right _ List.mem_cons_self, (hrows row hnew).symm⟩

/-- An edit keeps an accepted store accepted, when legacy evidence stays out of the series of
incarnations. -/
theorem Edit.kept (h : Edit py pd bound unbound db db') (hdb : Kept py pd bound db)
    (hdisjoint : Disjoint bound unbound) : Kept py pd bound db' := by
  have hagree := hdb.accepted
  cases h with
  | @create m db₁ hnew hbound hactive hcontinues hpersisted hclash =>
    refine hdb.persist hnew hcontinues (fun _ => hbound) hpersisted
      (hagree.unique.active.append_singleton hclash) fun row => ?_
    have hother : row ∈ db.active → row.intent_id ≠ m.record.intent_id := fun hmem =>
      hagree.active.ne_of_not_active hnew (fun _ hlast => by cases hlast) hmem
    rw [List.mem_append, List.mem_singleton, and_iff_left_of_imp hother,
      and_iff_right hactive]
  | @update m previous history db₁ hfollows hactive hpersisted =>
    have hcurrent : Current py pd db previous :=
      ⟨history, by rw [← hfollows.same.intent_id]; exact hfollows.chain, hfollows.last⟩
    refine hdb.persist hfollows.chain hfollows.continues (fun _ => ?_) hpersisted
      (separated_withVersion hagree.unique.active _) fun row => ?_
    · exact hdb.bound _ _ hfollows.chain previous (List.mem_of_getLast? hfollows.last)
        (by rw [hfollows.active]; decide)
    · rw [mem_withVersion hagree.active hcurrent hfollows.active hfollows.same,
        and_iff_right hactive]
  | @supersede m previous history db₁ hfollows hsuperseded hpersisted =>
    refine hdb.persist hfollows.chain hfollows.continues (fun _ => ?_) hpersisted
      (hagree.unique.active.filter _) fun row => ?_
    · exact hdb.bound _ _ hfollows.chain previous (List.mem_of_getLast? hfollows.last)
        (by rw [hfollows.active]; decide)
    · have hnot : ¬m.record.lifecycle = .active := by rw [hsuperseded]; decide
      rw [mem_withoutSeries, or_iff_left fun h => hnot h.1]
  | @legacy m history _ hhistory hunbound hlegacy hcontinues hpersisted =>
    obtain ⟨hcatalog, hactive, hoperations, haudits⟩ := hpersisted.same_tables
    have hnot : ¬m.record.lifecycle = .active := by rw [hlegacy]; decide
    have hother : ∀ row ∈ db.active, row.intent_id ≠ m.record.intent_id := by
      intro row hmem
      refine hagree.active.ne_of_not_active hhistory (fun record hlast hactive => ?_) hmem
      have hbound := hdb.bound _ _ hhistory record (List.mem_of_getLast? hlast)
        (by rw [hactive]; decide)
      exact Set.disjoint_left.mp hdisjoint hbound hunbound
    have hkept : Kept py pd bound { db' with active := db.active } :=
      hdb.persist hhistory hcontinues (fun h => absurd hlegacy h) hpersisted
        hagree.unique.active fun row => by
          rw [or_iff_left fun h => hnot h.1]
          exact ⟨fun hmem => ⟨hmem, hother row hmem⟩, And.left⟩
    rw [← hactive] at hkept
    exact hkept
  | @marker row hmarker hclash =>
    have hback {intent_id : String} {history : List ProviderIntentRecord}
        (h : History py pd { db with requests := db.requests ++ [row] } intent_id history) :
        History py pd db intent_id history := by
      obtain ⟨old, hold⟩ := hagree.series.series intent_id
      rw [h.unique (hold.add_request row)]
      exact hold
    refine ⟨⟨{ hagree.unique with
        requests := hagree.unique.requests.append_singleton hclash }, hagree.schema, ?_, ?_,
      hagree.operations.of_same (fun _ _ _ hrow => hrow) rfl rfl⟩,
      fun intent_id history h => hdb.bound intent_id history (hback h)⟩
    · refine ⟨fun intent_id => ?_, fun a hmem hnone message => ?_⟩
      · obtain ⟨history, h⟩ := hagree.series.series intent_id
        exact ⟨history, h.add_request row⟩
      · rcases List.mem_append.mp hmem with hold | hnew
        · exact hagree.series.orphans a hold hnone message
        · rw [List.mem_singleton.mp hnew]
          exact hmarker message
    · intro active_row
      rw [hagree.active active_row]
      exact exists_congr fun record => and_congr_left fun _ =>
        ⟨fun ⟨history, h, hlast⟩ => ⟨history, h.add_request row, hlast⟩,
          fun ⟨history, h, hlast⟩ => ⟨history, hback h, hlast⟩⟩
  | @operation operation rows hrows hclash hunique hvalid =>
    have hsame : SameSeries db
        { db with
          operations := db.operations ++ [operation]
          operation_audit := db.operation_audit ++ rows } := ⟨rfl, rfl, rfl⟩
    exact ⟨⟨{ hagree.unique with
        operations := hagree.unique.operations.append_singleton hclash
        operation_audit := hunique },
      hagree.schema, hsame.seriesAgree hagree.series, hsame.activeIs hagree.active,
      hagree.operations.append hrows hclash hvalid⟩, hsame.boundBy hdb.bound⟩

/-- A sequence of edits keeps an accepted store accepted. -/
theorem Edits.kept (h : Edits py pd bound unbound db db') (hdb : Kept py pd bound db)
    (hdisjoint : Disjoint bound unbound) : Kept py pd bound db' := by
  induction h with
  | refl => exact hdb
  | tail _ hedit ih => exact hedit.kept ih hdisjoint

end Kept

end AtlasOS.ProviderIntents
