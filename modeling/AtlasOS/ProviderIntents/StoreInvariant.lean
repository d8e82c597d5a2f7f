import AtlasOS.ProviderIntents.Series

/-!
# Accepted stores

`Accepted` says of the tables what `validate_all` checks: the series and their
evidence, the active coordinates, and the operations. An `Edit` is one change that
the methods make to the tables, and every edit keeps a store accepted. The methods
compose edits, so this is the one place where the seven tables are compared.
-/

namespace AtlasOS.ProviderIntents

variable {py : Python} {pd : Pydantic} {db db' : Database}

/-! ## The latest records -/

theorem History.unique {intent_id : String} {h h' : List ProviderIntentRecord}
    (hh : History py pd db intent_id h) (hh' : History py pd db intent_id h') : h = h' := by
  have hok := validatedHistory_eq_ok.mpr hh
  rw [validatedHistory_eq_ok.mpr hh'] at hok
  exact (Except.ok.inj hok).symm

/-- The record is the latest version of its series. -/
def Current (py : Python) (pd : Pydantic) (db : Database) (record : ProviderIntentRecord) : Prop :=
  ∃ history, History py pd db record.intent_id history ∧ history.getLast? = some record

namespace Current

variable {record record' : ProviderIntentRecord}

theorem valid (h : Current py pd db record) : record.Valid py := by
  obtain ⟨history, hhistory, hlast⟩ := h
  exact hhistory.valid (List.mem_of_getLast? hlast)

/-- A series has one latest version. -/
theorem eq_of_intent_id (h : Current py pd db record) (h' : Current py pd db record')
    (hid : record.intent_id = record'.intent_id) : record = record' := by
  obtain ⟨history, hhistory, hlast⟩ := h
  obtain ⟨history', hhistory', hlast'⟩ := h'
  rw [hid] at hhistory
  rw [hhistory.unique hhistory', hlast', Option.some.injEq] at hlast
  exact hlast.symm

end Current

/-! ## Accepted stores -/

/-- The evidence behind the series: each has a history, and a request that no audit row
mentions completes an import. -/
structure SeriesAgree (py : Python) (pd : Pydantic) (db : Database) : Prop where
  series : ∀ intent_id, ∃ history, History py pd db intent_id history
  orphans : ∀ row ∈ db.requests, (∀ audit_row ∈ db.audit, audit_row.request_id ≠ row.request_id) →
    ∀ message, validatedMarker pd row message = .ok ()

/-- The given rows are those of the latest active records. -/
def ActiveIs (py : Python) (pd : Pydantic) (db : Database) (rows : List ActiveRow) : Prop :=
  ∀ row, row ∈ rows ↔
    ∃ record, Current py pd db record ∧ record.lifecycle = .active ∧ row = activeRow py record

/-- Two latest active records at one coordinate are the same, since their rows would clash. -/
theorem ActiveIs.eq_of_coordinate {rows : List ActiveRow} (h : ActiveIs py pd db rows)
    (hunique : Rows.Separated ActiveRow.clash rows) {record record' : ProviderIntentRecord}
    (hrecord : Current py pd db record ∧ record.lifecycle = .active)
    (hrecord' : Current py pd db record' ∧ record'.lifecycle = .active)
    (hprovider : record.provider_id = record'.provider_id)
    (htype : record.resource_type = record'.resource_type)
    (hresource : record.resource_id = record'.resource_id) : record = record' := by
  have hclash : ActiveRow.clash (activeRow py record) (activeRow py record') = true :=
    decide_eq_true (.inr (.inr ⟨hprovider, by simp only [activeRow, htype], hresource,
      by simp only [activeRow]⟩))
  have hrows := hunique.eq_of_clash (fun a b => by simp only [ActiveRow.clash, eq_comm])
    ((h _).mpr ⟨record, hrecord.1, hrecord.2, rfl⟩)
    ((h _).mpr ⟨record', hrecord'.1, hrecord'.2, rfl⟩) hclash
  exact hrecord.1.eq_of_intent_id hrecord'.1 (congrArg ActiveRow.intent_id hrows)

/-- The operations and their audit rows belong together. -/
structure OperationsAgree (py : Python) (pd : Pydantic) (db : Database) : Prop where
  operations : ∀ operation ∈ db.operations, validatedOperation py pd db operation = .ok ()
  audits : ∀ row ∈ db.operation_audit, ∃ operation ∈ db.operations,
    operation.request_id = row.request_id

/-- What `validate_all` checks. -/
structure Accepted (py : Python) (pd : Pydantic) (db : Database) : Prop where
  unique : db.Unique
  schema : validateSchema db.catalog = .ok ()
  series : SeriesAgree py pd db
  active : ActiveIs py pd db db.active
  operations : OperationsAgree py pd db

/-- The histories that a validator lists. -/
def Histories (py : Python) (pd : Pydantic) (db : Database)
    (histories : List (List ProviderIntentRecord)) : Prop :=
  List.Forall₂ (History py pd db) (Rows.distinct (·.intent_id) db.records) histories

namespace Histories

variable {histories : List (List ProviderIntentRecord)}

theorem exists_history (h : Histories py pd db histories) {history : List ProviderIntentRecord}
    (hmem : history ∈ histories) : ∃ intent_id, History py pd db intent_id history := by
  obtain ⟨intent_id, -, hhistory⟩ := Rows.exists_of_mem_right h hmem
  exact ⟨intent_id, hhistory⟩

/-- The last records of the histories are the latest ones. -/
theorem mem_filterMap_getLast (h : Histories py pd db histories) {record : ProviderIntentRecord} :
    record ∈ histories.filterMap List.getLast? ↔ Current py pd db record := by
  rw [List.mem_filterMap]
  constructor
  · rintro ⟨history, hmem, hlast⟩
    obtain ⟨intent_id, hhistory⟩ := h.exists_history hmem
    have hid := hhistory.intent_id_of_mem (List.mem_of_getLast? hlast)
    exact ⟨history, by rw [hid]; exact hhistory, hlast⟩
  · rintro ⟨history, hhistory, hlast⟩
    obtain ⟨row, hrow, hid, -⟩ := hhistory.exists_row (List.mem_of_getLast? hlast)
    obtain ⟨history', hmem, hhistory'⟩ :=
      Rows.exists_of_mem_left h (Rows.mem_distinct.mpr ⟨row, hrow, hid⟩)
    rw [← hhistory.unique hhistory'] at hmem
    exact ⟨history, hmem, hlast⟩

/-- The last records belong to different series. -/
theorem nodup_getLast (h : Histories py pd db histories) :
    ((histories.filterMap List.getLast?).map (·.intent_id)).Nodup := by
  have hsublist {ids : List String} {histories : List (List ProviderIntentRecord)}
      (h : List.Forall₂ (History py pd db) ids histories) :
      ((histories.filterMap List.getLast?).map (·.intent_id)).Sublist ids := by
    induction h with
    | nil => exact List.Sublist.refl _
    | @cons intent_id history ids histories hhistory _ ih =>
      cases hlast : history.getLast? with
      | none =>
        rw [List.filterMap_cons_none hlast]
        exact ih.cons _
      | some record =>
        rw [List.filterMap_cons_some hlast, List.map_cons,
          hhistory.intent_id_of_mem (List.mem_of_getLast? hlast)]
        exact ih.cons_cons _
  exact (hsublist h).nodup Rows.nodup_distinct

/-- The latest active records, as the validators list them. -/
theorem mem_activeRecords (h : Histories py pd db histories) {record : ProviderIntentRecord} :
    record ∈ activeRecords histories ↔ Current py pd db record ∧ record.lifecycle = .active := by
  unfold activeRecords
  rw [List.mem_filter, h.mem_filterMap_getLast]
  refine and_congr_right fun hcurrent => ?_
  constructor
  · intro hmem
    simp only [Bool.and_eq_true, decide_eq_true_eq] at hmem
    exact hmem.1.1
  · intro hactive
    obtain ⟨-, htype, fingerprint, hfingerprint⟩ := hcurrent.valid.bound (by rw [hactive]; decide)
    simp [hactive, htype, hfingerprint]

/-- The series of the store, from the histories of the listed ones. -/
theorem exists_series (h : Histories py pd db histories)
    (haudit : sameSet (db.audit.map (·.intent_id)) (Rows.distinct (·.intent_id) db.records) = true)
    (intent_id : String) : ∃ history, History py pd db intent_id history := by
  by_cases hmem : intent_id ∈ Rows.distinct (·.intent_id) db.records
  · obtain ⟨history, -, hhistory⟩ := Rows.exists_of_mem_left h hmem
    exact ⟨history, hhistory⟩
  · have hrows : db.seriesRows intent_id = [] := by
      rw [List.eq_nil_iff_forall_not_mem]
      intro row hrow
      obtain ⟨hrow, hid⟩ := mem_seriesRows.mp hrow
      exact hmem (Rows.mem_distinct.mpr ⟨row, hrow, hid⟩)
    have hevidence : db.evidenceRows intent_id = [] := by
      rw [List.eq_nil_iff_forall_not_mem]
      intro row hrow
      obtain ⟨haudited, rfl⟩ := mem_evidenceRows.mp hrow
      exact hmem ((sameSet_iff.mp haudit _).mp (List.mem_map_of_mem haudited))
    refine ⟨[], ?_, rfl, ?_⟩
    · rw [hrows]
      exact List.Forall₂.nil
    · rw [hevidence]
      exact List.Forall₂.nil

end Histories

namespace SeriesAgree

/-- Every series of an accepted store is listed. -/
theorem exists_histories (h : SeriesAgree py pd db) :
    ∃ histories, Histories py pd db histories := by
  choose history hhistory using h.series
  refine ⟨(Rows.distinct (·.intent_id) db.records).map history, ?_⟩
  unfold Histories
  rw [List.forall₂_map_right_iff, List.forall₂_same]
  exact fun intent_id _ => hhistory intent_id

/-- The series of the records and of the audit are the same. -/
theorem audit_ids (h : SeriesAgree py pd db) :
    sameSet (db.audit.map (·.intent_id)) (Rows.distinct (·.intent_id) db.records) = true := by
  rw [sameSet_iff]
  intro intent_id
  obtain ⟨history, hhistory⟩ := h.series intent_id
  rw [List.mem_map, Rows.mem_distinct]
  constructor
  · rintro ⟨row, hrow, hid⟩
    obtain ⟨record, hrecord, -⟩ :=
      Rows.exists_of_mem_right hhistory.evidence (mem_evidenceRows.mpr ⟨hrow, hid⟩)
    obtain ⟨row, hrow, hid, -⟩ := hhistory.exists_row hrecord
    exact ⟨row, hrow, hid⟩
  · rintro ⟨row, hrow, hid⟩
    obtain ⟨record, hrecord, -⟩ :=
      Rows.exists_of_mem_left hhistory.rows (mem_seriesRows.mpr ⟨hrow, hid⟩)
    obtain ⟨row, hrow, -⟩ := Rows.exists_of_mem_left hhistory.evidence hrecord
    obtain ⟨hrow, hid⟩ := mem_evidenceRows.mp hrow
    exact ⟨row, hrow, hid⟩

end SeriesAgree

/-- The shared part of the validators passes exactly when the series agree. -/
theorem validatedSeries_eq_ok {series orphaned : String} {supported : ProviderIntentRecord → Bool}
    (hsupported : ∀ record : ProviderIntentRecord, record.Valid py → supported record = true)
    {histories : List (List ProviderIntentRecord)} :
    validatedSeries py pd db series orphaned supported = .ok histories ↔
      SeriesAgree py pd db ∧ Histories py pd db histories := by
  unfold validatedSeries
  simp only [bind_eq_ok, exists_unit, demand_eq_ok, pure_eq_ok, Except.ok.injEq,
    mapM_eq_ok_iff, forM_eq_ok, Rows.mem_orderBy, validatedHistory_eq_ok]
  constructor
  · rintro ⟨histories, hhistories, -, haudit, horphans, rfl⟩
    refine ⟨⟨Histories.exists_series hhistories haudit, fun row hrow hnone message => ?_⟩,
      hhistories⟩
    have hmarker := horphans row hrow
    rw [if_neg] at hmarker
    · unfold validatedMarker at hmarker ⊢
      simpa only [bind_eq_ok, checked_eq_ok, demand_eq_ok] using hmarker
    · simpa using hnone
  · rintro ⟨hagree, hhistories⟩
    refine ⟨histories, hhistories, ?_, hagree.audit_ids, fun row hrow => ?_, rfl⟩
    · rw [List.all_eq_true]
      intro history hmem
      obtain ⟨intent_id, hhistory⟩ := Histories.exists_history hhistories hmem
      exact List.all_eq_true.mpr fun record hrecord => hsupported record (hhistory.valid hrecord)
    · split
      · rfl
      · next hnone => exact hagree.orphans row hrow (by simpa using hnone) _

/-- A valid active record belongs to a supported resource type. -/
theorem not_unsupportedActive {record : ProviderIntentRecord} (h : record.Valid py) :
    (!unsupportedActive record) = true := by
  by_cases hactive : record.lifecycle = .active
  · obtain ⟨hprovider, htype, -⟩ := h.bound (by rw [hactive]; decide)
    have hkind : record.intent_kind = .monitoringExpectation := by cases record.intent_kind; rfl
    simp [unsupportedActive, hprovider, htype, hkind]
  · simp [unsupportedActive, hactive]

/-- The evidence of the third generation passes exactly when the active coordinates and the
operations agree. -/
theorem validateP3Evidence_eq_ok {histories : List (List ProviderIntentRecord)}
    (hunique : Rows.Separated ActiveRow.clash db.active) (hhistories : Histories py pd db histories) :
    validateP3Evidence py pd db histories = .ok () ↔
      ActiveIs py pd db db.active ∧ OperationsAgree py pd db := by
  have hactive : sameSet db.active ((activeRecords histories).map (activeRow py)) = true ↔
      ActiveIs py pd db db.active := by
    rw [sameSet_iff]
    refine forall_congr' fun row => iff_congr Iff.rfl ?_
    simp only [List.mem_map, hhistories.mem_activeRecords]
    exact ⟨fun ⟨record, ⟨hcurrent, hactive⟩, hrow⟩ => ⟨record, hcurrent, hactive, hrow.symm⟩,
      fun ⟨record, hcurrent, hactive, hrow⟩ => ⟨record, ⟨hcurrent, hactive⟩, hrow.symm⟩⟩
  unfold validateP3Evidence
  simp only [demand_bind_eq_ok, forM_eq_ok, Rows.mem_orderBy, decide_eq_true_eq, hactive]
  constructor
  · rintro ⟨-, hactive, hids, hoperations⟩
    refine ⟨hactive, hoperations, fun row hrow => ?_⟩
    obtain ⟨operation, hmem, hid⟩ := List.mem_map.mp
      ((sameSet_iff.mp hids _).mpr (List.mem_map_of_mem hrow))
    exact ⟨operation, hmem, hid⟩
  · rintro ⟨hactive, hoperations⟩
    refine ⟨?_, hactive, sameSet_iff.mpr fun request_id => ?_, hoperations.operations⟩
    · refine List.Nodup.map_on ?_ ?_
      · intro a ha b hb hcoordinate
        obtain ⟨hacurrent, haactive⟩ := hhistories.mem_activeRecords.mp ha
        obtain ⟨hbcurrent, hbactive⟩ := hhistories.mem_activeRecords.mp hb
        simp only [coordinate, Prod.mk.injEq] at hcoordinate
        exact hactive.eq_of_coordinate hunique ⟨hacurrent, haactive⟩ ⟨hbcurrent, hbactive⟩
          hcoordinate.1 hcoordinate.2.1 hcoordinate.2.2.1
      · exact (List.Nodup.of_map _ hhistories.nodup_getLast).filter _
    · rw [List.mem_map, List.mem_map]
      constructor
      · rintro ⟨operation, hmem, rfl⟩
        obtain ⟨result, -, h⟩ := bind_eq_ok.mp (hoperations.operations operation hmem)
        rw [demand_bind_eq_ok, demand_bind_eq_ok, decide_eq_true_eq] at h
        have hpos : 0 < (db.operationAudits operation.request_id).length := by
          rw [h.2.1]
          cases result.outcome <;> decide
        obtain ⟨row, hrow⟩ := List.exists_mem_of_length_pos hpos
        simp only [Database.operationAudits, Rows.mem_orderBy, List.mem_filter,
          decide_eq_true_eq] at hrow
        exact ⟨row, hrow⟩
      · rintro ⟨row, hrow, rfl⟩
        exact hoperations.audits row hrow

/-- A store passes `_validated_store_records` exactly when it is accepted. -/
theorem validatedStoreRecords_eq_ok {histories : List (List ProviderIntentRecord)} :
    validatedStoreRecords py pd db = .ok histories ↔
      Accepted py pd db ∧ Histories py pd db histories := by
  unfold validatedStoreRecords
  simp only [bind_eq_ok, exists_unit, demand_eq_ok, pure_eq_ok, Except.ok.injEq,
    Database.integrityCheck_iff, validatedSeries_eq_ok fun _ => not_unsupportedActive]
  constructor
  · rintro ⟨hunique, hschema, histories, ⟨hseries, hhistories⟩, hevidence, rfl⟩
    obtain ⟨hactive, hoperations⟩ :=
      (validateP3Evidence_eq_ok hunique.active hhistories).mp hevidence
    exact ⟨⟨hunique, hschema, hseries, hactive, hoperations⟩, hhistories⟩
  · rintro ⟨h, hhistories⟩
    exact ⟨h.unique, h.schema, histories, ⟨h.series, hhistories⟩,
      (validateP3Evidence_eq_ok h.unique.active hhistories).mpr ⟨h.active, h.operations⟩, rfl⟩

/-- The store passes `validate_all` exactly when it is accepted. -/
theorem validateAll_eq_ok : validateAll py pd db = .ok () ↔ Accepted py pd db := by
  unfold validateAll
  constructor
  · intro h
    obtain ⟨histories, hok, -⟩ := bind_eq_ok.mp h
    cases hrecords : validatedStoreRecords py pd db with
    | ok histories => exact (validatedStoreRecords_eq_ok.mp hrecords).1
    | error e =>
      rw [hrecords] at hok
      cases hok
  · intro h
    obtain ⟨histories, hhistories⟩ := h.series.exists_histories
    rw [validatedStoreRecords_eq_ok.mpr ⟨h, hhistories⟩]
    rfl

end AtlasOS.ProviderIntents
