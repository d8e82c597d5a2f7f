import AtlasOS.ProviderIntents.StoreRuns

/-!
# Migration of a P2c store

`migrate_p2c_provider_intent_store`, which adds three tables to a store of the
former generation within one transaction. The stores of both generations share
the series and their evidence, so what the old validator accepts is accepted by
the new one once the active coordinates are in place.
-/

namespace AtlasOS.ProviderIntents

open Sqlite Sqlite.Transaction

section Model

variable (py : Python) (pd : Pydantic)

/-! ## The former validator -/

/-- The schema version of the only row of the metadata. -/
def Catalog.schemaVersion (catalog : Catalog) : Except StoreError Int :=
  match catalog.metaRows with
  | [(1, version)] => .ok version
  | _ => .error (.schema "provider intent P2c metadata is invalid")

/-- The part of `_validate_p2c_store` about the schema. -/
def validateP2cSchema (catalog : Catalog) : Except StoreError Unit := do
  demand (sameSet catalog.names (P2C_TABLES.map Prod.fst))
    (.schema "provider intent P2c table set is invalid")
  let version ← catalog.schemaVersion
  demand (decide (version = PROVIDER_INTENT_STORE_P2C_SCHEMA_VERSION))
    (.schema "provider intent migration requires exact P2c schema")
  catalog.columnsCheck
    (fun table => .schema ("provider intent P2c table '" ++ table ++ "' is invalid")) P2C_TABLES
  catalog.uniqueCheck
    (fun table => .schema ("provider intent P2c table '" ++ table ++ "' uniqueness is invalid"))
    P2C_TABLES
  demand (decide ((catalog.info "provider_intent_audit").foreign_keys = recordForeignKey))
    (.schema "provider intent P2c audit foreign keys are invalid")

/-- The latest records of the series that are active. -/
def latestActive (histories : List (List ProviderIntentRecord)) : List ProviderIntentRecord :=
  (histories.filterMap List.getLast?).filter fun record => decide (record.lifecycle = .active)

/-- `_validate_p2c_store` -/
def validateP2cStore (db : Database) : Except StoreError (List (List ProviderIntentRecord)) := do
  validateP2cSchema db.catalog
  let histories ← validatedSeries py pd db "provider intent P2c audit series set is inconsistent"
    "provider intent P2c request evidence is orphaned" fun _ => true
  demand (decide ((latestActive histories).map coordinate).Nodup)
    (.corruption "provider intent P2c store has multiple active incarnations")
  return histories

/-! ## The migration -/

/-- `PRAGMA integrity_check` of a file with the tables of a P2c store. -/
def Database.p2cIntegrityCheck (db : Database) : Bool :=
  decide (Rows.Separated RecordRow.clash db.records) &&
    decide (Rows.Separated RequestRow.clash db.requests) &&
    decide (Rows.Separated AuditRow.clash db.audit)

/-- `CREATE TABLE` in the catalogue. -/
def Catalog.create (table : String × TableInfo) (catalog : Catalog) : Except StoreError Catalog := do
  demand (decide (table.1 ∉ catalog.names)) .database
  return { catalog with tables := catalog.tables ++ [table] }

/-- The creation of the active coordinates. -/
def Database.createActive (db : Database) : Except StoreError Database := do
  let catalog ← db.catalog.create ACTIVE_TABLE
  return { db with catalog, active := [] }

/-- The creation of the operations. -/
def Database.createOperations (db : Database) : Except StoreError Database := do
  let catalog ← db.catalog.create OPERATIONS_TABLE
  return { db with catalog, operations := [] }

/-- The creation of the audit of the operations. -/
def Database.createOperationAudit (db : Database) : Except StoreError Database := do
  let catalog ← db.catalog.create OPERATION_AUDIT_TABLE
  return { db with catalog, operation_audit := [] }

/-- The update of the schema version. -/
def Database.updateVersion (db : Database) : Except StoreError Database :=
  .ok { db with catalog := { db.catalog with
    metaRows := db.catalog.metaRows.map fun row =>
      if row.1 = 1 then (row.1, PROVIDER_INTENT_STORE_SCHEMA_VERSION) else row } }

/-- The loop that fills the active coordinates. -/
def populateActive : List (List ProviderIntentRecord) → Store Unit
  | [] => pure ()
  | history :: rest => do
    match history.getLast? with
    | some record =>
      if record.lifecycle = .active then insertActiveCoordinate py record
      populateActive rest
    | none => populateActive rest

/-- The transaction of `migrate_p2c_provider_intent_store`. -/
def migrateBlock (injector : String → Option StoreError) : Store Unit :=
  guarded "provider intent P2c migration failed closed" do
    beginImmediate
    inspect fun db => demand db.p2cIntegrityCheck
      (.corruption "provider intent P2c database integrity check failed")
    let histories ← inspect (validateP2cStore py pd)
    failure injector "after_p2c_validation"
    execute (·.createActive)
    failure injector "after_active_coordinate_schema"
    execute (·.createOperations)
    failure injector "after_operation_schema"
    execute (·.createOperationAudit)
    failure injector "after_operation_audit_schema"
    populateActive py histories
    failure injector "after_active_coordinate_population"
    failure injector "before_schema_version_update"
    execute (·.updateVersion)
    failure injector "after_schema_version_update"
    commit

/-- `_validate_existing_readonly` -/
def validateExistingReadonly (db : Database) : Except StoreError Unit := do
  demand db.integrityCheck (.corruption "provider intent database integrity check failed")
  demand (!db.catalog.names.isEmpty) (.schema "provider intent database schema is absent")
  validateSchema db.catalog

/-- `open_existing` -/
def openExisting (db : Database) : Except StoreError Unit := do
  validateExistingReadonly db
  validateAll py pd db

/-- `migrate_p2c_provider_intent_store`, of a regular file, under the database errors that its
statements meet. -/
def migrate (injector : String → Option StoreError) (faults : List Bool) (db : Database) :
    Except StoreError Unit × Database :=
  match Transaction.withConnection db faults (migrateBlock py pd injector) with
  | (.ok _, migrated) => (openExisting py pd migrated, migrated)
  | (.error error, unchanged) => (.error error, unchanged)

end Model

variable {py : Python} {pd : Pydantic} {db db' w : Database}

/-! ## The catalogue after the migration -/

section Catalogue

variable {catalog : Catalog} {table : String}

theorem Catalog.info_append_of_mem (h : table ∈ catalog.names) (more : List (String × TableInfo))
    (metaRows : List (Int × Int)) :
    (Catalog.mk metaRows (catalog.tables ++ more)).info table = catalog.info table := by
  obtain ⟨found, hfound⟩ : ∃ found, catalog.tables.lookup table = some found := by
    rw [← Option.isSome_iff_exists, List.lookup_isSome_iff]
    obtain ⟨entry, hentry, rfl⟩ := List.mem_map.mp h
    exact ⟨entry, hentry, by simp⟩
  rw [info, info, List.lookup_append, hfound, Option.some_or]

theorem Catalog.info_append_of_not_mem (h : table ∉ catalog.names)
    (more : List (String × TableInfo)) (metaRows : List (Int × Int)) :
    (Catalog.mk metaRows (catalog.tables ++ more)).info table =
      (more.lookup table).getD { columns := [] } := by
  have hnone : catalog.tables.lookup table = none := by
    rw [List.lookup_eq_none_iff]
    intro entry hentry
    have hne : table ≠ entry.1 := by
      rintro rfl
      exact h (List.mem_map_of_mem hentry)
    simpa using hne
  rw [info, List.lookup_append, hnone, Option.none_or]

/-- The catalogue that the migration leaves. -/
def Catalog.migrated (catalog : Catalog) : Catalog where
  metaRows := [(1, PROVIDER_INTENT_STORE_SCHEMA_VERSION)]
  tables := catalog.tables ++ [ACTIVE_TABLE, OPERATIONS_TABLE, OPERATION_AUDIT_TABLE]

/-- What the former validator accepts of a schema. -/
theorem validateP2cSchema_eq_ok (h : validateP2cSchema catalog = .ok ()) :
    (∀ name, name ∈ catalog.names ↔ name ∈ P2C_TABLES.map Prod.fst) ∧
      catalog.metaRows = [(1, PROVIDER_INTENT_STORE_P2C_SCHEMA_VERSION)] ∧
      (∀ expected ∈ P2C_TABLES, (catalog.info expected.1).columns = expected.2.columns ∧
        sameSet (catalog.info expected.1).unique expected.2.unique = true) ∧
      (catalog.info "provider_intent_audit").foreign_keys = recordForeignKey := by
  unfold validateP2cSchema at h
  obtain ⟨hnames, h⟩ := demand_bind_eq_ok.mp h
  obtain ⟨version, hversion, h⟩ := bind_eq_ok.mp h
  obtain ⟨hversion', h⟩ := demand_bind_eq_ok.mp h
  obtain ⟨hcolumns, h⟩ := check_bind_eq_ok.mp h
  obtain ⟨hunique, h⟩ := check_bind_eq_ok.mp h
  rw [demand_eq_ok, decide_eq_true_eq] at h
  rw [decide_eq_true_eq] at hversion'
  refine ⟨sameSet_iff.mp hnames, ?_, fun expected hexpected => ⟨?_, ?_⟩, h⟩
  · unfold Catalog.schemaVersion at hversion
    split at hversion
    · next rows hrows =>
      rw [hrows, Except.ok.inj hversion, hversion']
    · cases hversion
  · simpa using forM_eq_ok.mp hcolumns expected hexpected
  · simpa using forM_eq_ok.mp hunique expected hexpected

/-- The new validator accepts the schema that the migration leaves. -/
theorem validateSchema_migrated (h : validateP2cSchema catalog = .ok ()) :
    validateSchema catalog.migrated = .ok () := by
  obtain ⟨hnames, -, htables, hforeign⟩ := validateP2cSchema_eq_ok h
  let more := [ACTIVE_TABLE, OPERATIONS_TABLE, OPERATION_AUDIT_TABLE]
  have hnew : ∀ entry ∈ more, entry.1 ∉ catalog.names := by
    intro entry hentry
    rw [hnames]
    revert entry
    decide
  have hinfo : ∀ expected ∈ P3_TABLES,
      (catalog.migrated.info expected.1).columns = expected.2.columns ∧
        sameSet (catalog.migrated.info expected.1).unique expected.2.unique = true := by
    intro expected hexpected
    rcases List.mem_append.mp hexpected with hold | hadded
    · have hmem := (hnames expected.1).mpr (List.mem_map_of_mem hold)
      rw [Catalog.migrated, Catalog.info_append_of_mem hmem]
      exact htables expected hold
    · rw [Catalog.migrated, Catalog.info_append_of_not_mem (hnew expected hadded)]
      revert expected
      decide
  have hmigrated : catalog.migrated.names = catalog.names ++ more.map Prod.fst := List.map_append
  have hall : sameSet catalog.migrated.names (P3_TABLES.map Prod.fst) = true := by
    rw [sameSet_iff]
    intro name
    rw [hmigrated, P3_TABLES, List.map_append, List.mem_append, List.mem_append, hnames]
  have hmeta : "provider_intent_store_meta" ∈ catalog.migrated.names := by
    rw [hmigrated, List.mem_append, hnames]
    exact .inl (by decide)
  have haudit : (catalog.migrated.info "provider_intent_audit").foreign_keys = recordForeignKey := by
    have hmem : "provider_intent_audit" ∈ catalog.names := (hnames _).mpr (by decide)
    rw [Catalog.migrated, Catalog.info_append_of_mem hmem]
    exact hforeign
  have hreference : ∀ entry ∈ [ACTIVE_TABLE, OPERATION_AUDIT_TABLE],
      (catalog.migrated.info entry.1).foreign_keys = recordForeignKey := by
    intro entry hentry
    have hmem : entry ∈ more := by
      revert entry
      decide
    rw [Catalog.migrated, Catalog.info_append_of_not_mem (hnew entry hmem)]
    revert entry
    decide
  unfold validateSchema
  refine demand_bind_eq_ok.mpr ⟨decide_eq_true hmeta, ?_⟩
  change (demand (sameSet catalog.migrated.names (P3_TABLES.map Prod.fst)) _ >>= fun _ => _) = _
  refine demand_bind_eq_ok.mpr ⟨hall, check_bind_eq_ok.mpr ⟨?_, check_bind_eq_ok.mpr ⟨?_, ?_⟩⟩⟩
  · exact forM_eq_ok.mpr fun expected hexpected =>
      demand_eq_ok.mpr (decide_eq_true (hinfo expected hexpected).1)
  · exact forM_eq_ok.mpr fun expected hexpected => demand_eq_ok.mpr (hinfo expected hexpected).2
  · refine forM_eq_ok.mpr fun table htable => demand_eq_ok.mpr (decide_eq_true ?_)
    rcases List.mem_cons.mp htable with rfl | htable
    · exact haudit
    · rcases List.mem_cons.mp htable with rfl | htable
      · exact hreference ACTIVE_TABLE List.mem_cons_self
      · rw [List.mem_singleton.mp htable]
        exact hreference OPERATION_AUDIT_TABLE (List.mem_cons_of_mem _ List.mem_cons_self)

end Catalogue

/-! ## The store after the migration -/

/-- The store that the migration leaves. -/
def Database.migrated (py : Python) (db : Database) (histories : List (List ProviderIntentRecord)) :
    Database :=
  { db with
    catalog := db.catalog.migrated
    active := (latestActive histories).map (activeRow py)
    operations := []
    operation_audit := [] }

/-- The migrated store, with what was checked on the way. -/
structure Migrated (py : Python) (pd : Pydantic) (db w : Database)
    (histories : List (List ProviderIntentRecord)) : Prop where
  integrity : db.p2cIntegrityCheck = true
  validated : validateP2cStore py pd db = .ok histories
  separated : Rows.Separated ActiveRow.clash w.active
  result : w = db.migrated py histories

/-- The loop adds the rows of the latest active records. -/
theorem spec_populateActive {histories : List (List ProviderIntentRecord)}
    {Q : Unit → Database → Database → Prop} (hunique : Rows.Separated ActiveRow.clash w.active)
    (h : ∀ active, active = w.active ++ (latestActive histories).map (activeRow py) →
      Rows.Separated ActiveRow.clash active → Q () db { w with active }) :
    Spec (populateActive py histories) db w Q fun _ d => d = db := by
  induction histories generalizing w with
  | nil =>
    refine Spec.pure ?_
    have hnone : w.active = w.active ++ (latestActive []).map (activeRow py) := by
      simp [latestActive]
    exact h w.active hnone hunique
  | cons history rest ih =>
    unfold populateActive
    split
    · next record hlast =>
      have hcons : latestActive (history :: rest) =
          (if record.lifecycle = .active then [record] else []) ++ latestActive rest := by
        rw [latestActive, List.filterMap_cons_some hlast, List.filter_cons]
        split <;> simp_all [latestActive]
      split
      · next hactive =>
        rw [if_pos hactive] at hcons
        refine Spec.bind (spec_insertActiveCoordinate fun hclash => ?_)
        refine ih (hunique.append_singleton fun row hrow => hclash row hrow) ?_
        intro active hrows hseparated
        refine h active ?_ hseparated
        rw [hrows, hcons, List.map_append, List.append_assoc]
        rfl
      · next hactive =>
        rw [if_neg hactive, List.nil_append] at hcons
        refine ih hunique fun active hrows => ?_
        rw [← hcons] at hrows
        exact h active hrows
    · next hlast =>
      have hcons : latestActive (history :: rest) = latestActive rest := by
        rw [latestActive, List.filterMap_cons_none hlast, latestActive]
      refine ih hunique fun active hrows => ?_
      rw [← hcons] at hrows
      exact h active hrows

theorem create_eq_ok {table : String × TableInfo} {catalog catalog' : Catalog}
    (h : catalog.create table = .ok catalog') :
    catalog' = { catalog with tables := catalog.tables ++ [table] } := by
  obtain ⟨-, h⟩ := demand_bind_eq_ok.mp h
  rw [pure_eq_ok, Except.ok.injEq] at h
  exact h.symm

/-- The transaction commits the migrated store or changes nothing. -/
theorem spec_migrateBlock {injector : String → Option StoreError} :
    Spec (migrateBlock py pd injector) db db
      (fun _ d w => d = w ∧ ∃ histories, Migrated py pd db w histories) fun _ d => d = db := by
  refine spec_guarded ?_
  refine Spec.bind (Spec.beginImmediate rfl ?_)
  refine Spec.bind (spec_inspect fun _ hintegrity => ?_)
  refine Spec.bind (spec_inspect fun histories hvalidated => ?_)
  refine Spec.bind (spec_failure ?_)
  refine Spec.bind (Spec.execute rfl (fun _ _ => rfl) fun w₁ hw₁ => ?_)
  refine Spec.bind (spec_failure ?_)
  refine Spec.bind (Spec.execute rfl (fun _ _ => rfl) fun w₂ hw₂ => ?_)
  refine Spec.bind (spec_failure ?_)
  refine Spec.bind (Spec.execute rfl (fun _ _ => rfl) fun w₃ hw₃ => ?_)
  refine Spec.bind (spec_failure ?_)
  obtain ⟨catalog₁, hcatalog₁, hw₁⟩ := bind_eq_ok.mp hw₁
  rw [pure_eq_ok, Except.ok.injEq] at hw₁
  subst hw₁
  obtain ⟨catalog₂, hcatalog₂, hw₂⟩ := bind_eq_ok.mp hw₂
  rw [pure_eq_ok, Except.ok.injEq] at hw₂
  subst hw₂
  obtain ⟨catalog₃, hcatalog₃, hw₃⟩ := bind_eq_ok.mp hw₃
  rw [pure_eq_ok, Except.ok.injEq] at hw₃
  subst hw₃
  refine Spec.bind (spec_populateActive Rows.separated_nil fun active hactive hseparated => ?_)
  refine Spec.bind (spec_failure (Spec.bind (spec_failure ?_)))
  refine Spec.bind (Spec.execute rfl (fun _ _ => rfl) fun w₄ hw₄ => ?_)
  refine Spec.bind (spec_failure (Spec.commit rfl ⟨rfl, histories, ?_⟩))
  have hschema : validateP2cSchema db.catalog = .ok () :=
    (check_bind_eq_ok.mp hvalidated).1
  obtain ⟨-, hmeta, -, -⟩ := validateP2cSchema_eq_ok hschema
  rw [Database.updateVersion, Except.ok.injEq] at hw₄
  subst hw₄
  refine ⟨demand_eq_ok.mp hintegrity, hvalidated, hseparated, ?_⟩
  have hcatalog : catalog₃ =
      { db.catalog with tables := db.catalog.tables ++
          [ACTIVE_TABLE, OPERATIONS_TABLE, OPERATION_AUDIT_TABLE] } := by
    rw [create_eq_ok hcatalog₃, create_eq_ok hcatalog₂, create_eq_ok hcatalog₁]
    simp
  simp [Database.migrated, Catalog.migrated, hcatalog, hmeta, hactive]

namespace Migrated

variable {histories : List (List ProviderIntentRecord)}

theorem same (h : Migrated py pd db w histories) : SameSeries db w := by
  rw [h.result]
  exact ⟨rfl, rfl, rfl⟩

theorem schema (h : Migrated py pd db w histories) : validateSchema w.catalog = .ok () := by
  rw [h.result]
  exact validateSchema_migrated (check_bind_eq_ok.mp h.validated).1

/-- The series that the former validator accepted. -/
theorem series (h : Migrated py pd db w histories) :
    SeriesAgree py pd db ∧ Histories py pd db histories := by
  obtain ⟨histories', hseries, hrest⟩ := bind_eq_ok.mp (check_bind_eq_ok.mp h.validated).2
  obtain ⟨-, hrest⟩ := demand_bind_eq_ok.mp hrest
  rw [pure_eq_ok, Except.ok.injEq] at hrest
  rw [← hrest]
  exact (validatedSeries_eq_ok fun _ _ => rfl).mp hseries

/-- The active coordinates are those of the latest active records. -/
theorem activeIs (h : Migrated py pd db w histories) : ActiveIs py pd db w.active := by
  intro row
  rw [h.result]
  simp only [Database.migrated, latestActive, List.mem_map, List.mem_filter,
    h.series.2.mem_filterMap_getLast, decide_eq_true_eq]
  exact ⟨fun ⟨record, ⟨hcurrent, hactive⟩, hrow⟩ => ⟨record, hcurrent, hactive, hrow.symm⟩,
    fun ⟨record, hcurrent, hactive, hrow⟩ => ⟨record, ⟨hcurrent, hactive⟩, hrow.symm⟩⟩

theorem unique (h : Migrated py pd db w histories) : w.Unique := by
  have hintegrity := h.integrity
  have hactive := h.separated
  simp only [Database.p2cIntegrityCheck, Bool.and_eq_true, decide_eq_true_eq] at hintegrity
  rw [h.result] at hactive ⊢
  exact ⟨hintegrity.1.1, hintegrity.1.2, hintegrity.2, hactive, Rows.separated_nil,
    Rows.separated_nil⟩

/-- The new validators accept the migrated store. -/
theorem accepted (h : Migrated py pd db w histories) : Accepted py pd w where
  unique := h.unique
  schema := h.schema
  series := h.same.seriesAgree h.series.1
  active := h.same.activeIs h.activeIs
  operations := by
    rw [h.result]
    exact ⟨fun _ hrow => absurd hrow List.not_mem_nil, fun _ hrow => absurd hrow List.not_mem_nil⟩

/-- The migrated store is opened. -/
theorem openExisting (h : Migrated py pd db w histories) : openExisting py pd w = .ok () := by
  have hnames : (!w.catalog.names.isEmpty) = true := by
    rw [h.result]
    simp [Database.migrated, Catalog.migrated, Catalog.names]
  have hreadonly : validateExistingReadonly w = .ok () := by
    unfold validateExistingReadonly
    exact demand_bind_eq_ok.mpr ⟨w.integrityCheck_iff.mpr h.unique,
      demand_bind_eq_ok.mpr ⟨hnames, h.schema⟩⟩
  unfold ProviderIntents.openExisting
  exact check_bind_eq_ok.mpr ⟨hreadonly, validateAll_eq_ok.mpr h.accepted⟩

end Migrated

/-! ## Replays -/

/-- The append-only tables have only grown. -/
structure Extends (db db' : Database) : Prop where
  records : db.records <+: db'.records
  requests : db.requests <+: db'.requests
  audit : db.audit <+: db'.audit

namespace Extends

theorem refl : Extends db db := ⟨List.prefix_rfl, List.prefix_rfl, List.prefix_rfl⟩

theorem trans (h : Extends db w) (h' : Extends w db') : Extends db db' :=
  ⟨h.records.trans h'.records, h.requests.trans h'.requests, h.audit.trans h'.audit⟩

theorem of_same (h : SameSeries db db') : Extends db db' :=
  ⟨h.records ▸ List.prefix_rfl, h.requests ▸ List.prefix_rfl, h.audit ▸ List.prefix_rfl⟩

theorem of_persisted {m : Mutation} (h : Persisted py pd m db db') : Extends db db' := by
  obtain ⟨sequence, -, rfl⟩ := h
  exact ⟨List.prefix_append _ _, List.prefix_append _ _, List.prefix_append _ _⟩

theorem find_of_prefix {ρ : Type} {p : ρ → Bool} {rows rows' : List ρ} {row : ρ}
    (h : rows <+: rows') (hrow : rows.find? p = some row) : rows'.find? p = some row := by
  obtain ⟨more, rfl⟩ := h
  rw [List.find?_append, hrow, Option.some_or]

variable {request_id request_digest : String}

/-- A replay that found its result finds it again. -/
theorem replay (h : Extends db db') {result : ProviderIntentMutationResult}
    (hreplay : replay py pd db request_id request_digest = .ok (some result)) :
    ProviderIntents.replay py pd db' request_id request_digest = .ok (some result) := by
  unfold ProviderIntents.replay at hreplay ⊢
  dsimp only at hreplay ⊢
  split at hreplay
  · cases hreplay
  next row hrow =>
  rw [show db'.request request_id = some row from find_of_prefix h.requests hrow]
  dsimp only
  obtain ⟨hdigest, hreplay⟩ := demand_bind_eq_ok.mp hreplay
  refine demand_bind_eq_ok.mpr ⟨hdigest, ?_⟩
  obtain ⟨stored, hstored, hreplay⟩ := bind_eq_ok.mp hreplay
  rw [hstored, ok_bind]
  split at hreplay
  · cases hreplay
  next record_row hrecord =>
  rw [show db'.recordRow stored.record.intent_id stored.record.record_version = some record_row
    from find_of_prefix h.records hrecord]
  dsimp only
  obtain ⟨record, hdecode, hreplay⟩ := bind_eq_ok.mp hreplay
  rw [hdecode, ok_bind]
  obtain ⟨hequal, hreplay⟩ := demand_bind_eq_ok.mp hreplay
  refine demand_bind_eq_ok.mpr ⟨hequal, ?_⟩
  split at hreplay
  · cases hreplay
  next audit_row haudit =>
  rw [show db'.auditRow request_id = some audit_row from find_of_prefix h.audit haudit]
  exact hreplay

/-- A replay of an import that found its result finds it again. -/
theorem replayImport (h : Extends db db') {c : LegacyPolicyImportCommand}
    {result : LegacyPolicyImportResult}
    (hreplay : replayImport py pd c db = .ok (some result)) :
    ProviderIntents.replayImport py pd c db' = .ok (some result) := by
  unfold ProviderIntents.replayImport at hreplay ⊢
  split at hreplay
  · cases hreplay
  next marker hmarker =>
  rw [show db'.request c.import_id = some marker from find_of_prefix h.requests hmarker]
  dsimp only
  obtain ⟨hdigest, hreplay⟩ := demand_bind_eq_ok.mp hreplay
  refine demand_bind_eq_ok.mpr ⟨hdigest, ?_⟩
  obtain ⟨stored, hstored, hreplay⟩ := bind_eq_ok.mp hreplay
  rw [hstored, ok_bind]
  obtain ⟨hvalidate, hreplay⟩ := check_bind_eq_ok.mp hreplay
  refine check_bind_eq_ok.mpr ⟨?_, hreplay⟩
  unfold validateLegacyImportReplay at hvalidate ⊢
  obtain ⟨hidentity, hvalidate⟩ := demand_bind_eq_ok.mp hvalidate
  obtain ⟨hentries, hvalidate⟩ := check_bind_eq_ok.mp hvalidate
  refine demand_bind_eq_ok.mpr ⟨hidentity, check_bind_eq_ok.mpr ⟨?_, hvalidate⟩⟩
  refine forM_eq_ok.mpr fun entry hentry => ?_
  obtain ⟨found, hfound, hreference⟩ := bind_eq_ok.mp (forM_eq_ok.mp hentries entry hentry)
  cases found with
  | none => cases hreference
  | some found =>
    rw [h.replay hfound, ok_bind]
    exact hreference

end Extends

section Edits

variable {bound unbound : Set String}

/-- An edit removes nothing from the append-only tables. -/
theorem Edit.extends (h : Edit py pd bound unbound db db') : Extends db db' := by
  cases h with
  | @create m db₁ _ _ _ _ hpersisted _ =>
    exact (Extends.of_persisted hpersisted).trans (Extends.of_same ⟨rfl, rfl, rfl⟩)
  | @update m previous history db₁ _ _ hpersisted =>
    exact (Extends.of_persisted hpersisted).trans (Extends.of_same ⟨rfl, rfl, rfl⟩)
  | @supersede m previous history db₁ _ _ hpersisted =>
    exact (Extends.of_persisted hpersisted).trans (Extends.of_same ⟨rfl, rfl, rfl⟩)
  | legacy _ _ _ _ hpersisted => exact Extends.of_persisted hpersisted
  | marker _ _ => exact ⟨List.prefix_rfl, List.prefix_append _ _, List.prefix_rfl⟩
  | operation _ _ _ _ => exact Extends.of_same ⟨rfl, rfl, rfl⟩

theorem Edits.extends (h : Edits py pd bound unbound db db') : Extends db db' := by
  induction h with
  | refl => exact Extends.refl
  | tail _ hedit ih => exact ih.trans hedit.extends

end Edits

/-- No call removes anything from the append-only tables. -/
theorem runHistory_extends (calls : Calls py) : Extends db (runHistory pd db calls) :=
  Edits.extends (runHistory_edits (Set.subset_univ _) (Set.subset_univ _))

/-- A request with an audit row is replayed in an accepted store. -/
theorem Accepted.replay (h : Accepted py pd db) {row : RequestRow} (hrow : row ∈ db.requests)
    {audit_row : AuditRow} (haudit : audit_row ∈ db.audit)
    (hid : audit_row.request_id = row.request_id) :
    ∃ result, pd.validateResultJson py row.result_json = .ok result ∧
      replay py pd db row.request_id row.request_digest = .ok (some result) := by
  obtain ⟨history, hhistory⟩ := h.series.series audit_row.intent_id
  obtain ⟨record, hrecord, hevidence⟩ :=
    Rows.exists_of_mem_right hhistory.evidence (mem_evidenceRows.mpr ⟨haudit, rfl⟩)
  obtain ⟨request_row, hrequest, result, hresult, hversion, hdigest, hevent, rfl, houtcome⟩ :=
    validatedEvidence_eq_ok.mp hevidence
  have hfound : db.request row.request_id = some row :=
    (h.unique.requests.find_eq_some fun a b hab => decide_eq_true hab).mpr ⟨hrow, rfl⟩
  rw [hid, hfound, Option.some.injEq] at hrequest
  subst hrequest
  obtain ⟨record_row, hmem, hrowid, hdecode⟩ := hhistory.exists_row hrecord
  have hrecordRow : db.recordRow result.record.intent_id result.record.record_version =
      some record_row := by
    refine (h.unique.records.find_eq_some fun a b hab => ?_).mpr ⟨hmem, ?_⟩
    · exact decide_eq_true (Prod.mk.inj hab)
    · rw [intent_id_of_decodeRecord hdecode, version_of_decodeRecord hdecode]
  have hauditRow : db.auditRow row.request_id = some audit_row :=
    (h.unique.audit.find_eq_some fun a b hab => decide_eq_true (.inr (.inl hab))).mpr ⟨haudit, hid⟩
  refine ⟨result, hresult, ?_⟩
  unfold ProviderIntents.replay
  dsimp only
  rw [hfound]
  dsimp only
  refine demand_bind_eq_ok.mpr ⟨decide_eq_true rfl, ?_⟩
  rw [checked_eq_ok.mpr hresult, ok_bind, hrecordRow]
  dsimp only
  rw [hdecode, ok_bind]
  refine demand_bind_eq_ok.mpr ⟨decide_eq_true rfl, ?_⟩
  rw [hauditRow]
  refine demand_bind_eq_ok.mpr ⟨decide_eq_true ⟨?_, hversion, hdigest, ?_⟩, rfl⟩
  · exact (hhistory.intent_id_of_mem hrecord).symm
  · rw [hevent, houtcome]

/-- The answer that a command finds recorded under its request. The tables of the operations are
new, so no call of `mutate_coordinate` is older than the migration. -/
def Command.Recorded (pd : Pydantic) (db : Database) (answer : Answer) : Command py → Prop
  | .mutate _ _ _ _ => False
  | .put c now => (∃ t, canonicalNow now = .ok t) ∧
      ∃ result, replay py pd db c.request_id c.request_digest = .ok (some result) ∧
        answer = .mutation result
  | .supersede c now => (∃ t, canonicalNow now = .ok t) ∧
      ∃ result, replay py pd db c.request_id c.request_digest = .ok (some result) ∧
        answer = .mutation result
  | .importLegacy c now => (∃ t, canonicalNow now = .ok t) ∧
      ∃ result, replayImport py pd c.toLegacyPolicyImportCommand db = .ok (some result) ∧
        answer = .imported result

/-- A recorded answer stays recorded. -/
theorem Command.Recorded.extends {command : Command py} {answer : Answer}
    (h : command.Recorded pd db answer) (hextends : Extends db db') :
    command.Recorded pd db' answer := by
  cases command with
  | mutate _ _ _ _ => exact h
  | put c now =>
    obtain ⟨hnow, result, hreplay, rfl⟩ := h
    exact ⟨hnow, result, hextends.replay hreplay, rfl⟩
  | supersede c now =>
    obtain ⟨hnow, result, hreplay, rfl⟩ := h
    exact ⟨hnow, result, hextends.replay hreplay, rfl⟩
  | importLegacy c now =>
    obtain ⟨hnow, result, hreplay, rfl⟩ := h
    exact ⟨hnow, result, hextends.replayImport hreplay, rfl⟩

/-- A method that finds the result of its request returns it. -/
theorem replayed_apply {α : Type} {message : String} {check : Database → Except StoreError (Option α)}
    {f : Option α → Store α} {result : α} (h : check db = .ok (some result))
    (hf : f (some result) = do commit; return result) :
    guarded message (beginImmediate >>= fun _ => inspect check >>= f) ⟨db, db, []⟩ =
      (.ok result, ⟨db, db, []⟩) := by
  refine tryCatch_apply_of_ok ?_
  rw [bind_apply, beginImmediate_apply]
  dsimp only
  rw [bind_apply, inspect_apply h]
  dsimp only
  rw [hf]
  rfl

/-- A call with a recorded answer returns it and changes nothing. -/
theorem perform_recorded {command : Command py} {answer : Answer}
    (h : command.Recorded pd db answer) : command.perform pd [] db = (.ok answer, db) := by
  cases command with
  | mutate _ _ _ _ => exact h.elim
  | put c now =>
    obtain ⟨⟨t, hnow⟩, result, hreplay, rfl⟩ := h
    have hput : put py pd now c.toProviderIntentMutationCommand ⟨db, db, []⟩ =
        (.ok result, ⟨db, db, []⟩) := by
      unfold put
      rw [hnow, lift_ok_bind]
      exact replayed_apply hreplay rfl
    simp only [Command.perform, Transaction.withConnection, Command.block, bind_apply, hput,
      pure_apply]
  | supersede c now =>
    obtain ⟨⟨t, hnow⟩, result, hreplay, rfl⟩ := h
    have hsupersede : supersede py pd now c.toProviderIntentSupersedeCommand ⟨db, db, []⟩ =
        (.ok result, ⟨db, db, []⟩) := by
      unfold supersede
      rw [hnow, lift_ok_bind]
      exact replayed_apply hreplay rfl
    simp only [Command.perform, Transaction.withConnection, Command.block, bind_apply, hsupersede,
      pure_apply]
  | importLegacy c now =>
    obtain ⟨⟨t, hnow⟩, result, hreplay, rfl⟩ := h
    have himport : importLegacyPolicy py pd now c.toLegacyPolicyImportCommand ⟨db, db, []⟩ =
        (.ok result, ⟨db, db, []⟩) := by
      unfold importLegacyPolicy
      rw [hnow, lift_ok_bind]
      exact replayed_apply hreplay rfl
    simp only [Command.perform, Transaction.withConnection, Command.block, bind_apply, himport,
      pure_apply]

/-! ## What the migration preserves -/

/-- The migration raises and changes nothing, or it commits a store with the same records,
requests and audit rows and with the rows of the latest active records. The new validators accept
that store, every request with an audit row is replayed with its stored result, also after later
calls, and a call that was answered before is answered the same. -/
theorem migrate_preserves (injector : String → Option StoreError) (faults : List Bool)
    (db : Database) :
    (∃ e, migrate py pd injector faults db = (.error e, db)) ∨
    ∃ db' histories, migrate py pd injector faults db = (.ok (), db') ∧
      validateP2cStore py pd db = .ok histories ∧
      db'.records = db.records ∧ db'.requests = db.requests ∧ db'.audit = db.audit ∧
      Rows.Separated ActiveRow.clash db'.active ∧
      (∀ row, row ∈ db'.active ↔ ∃ record, Current py pd db record ∧
        record.lifecycle = .active ∧ row = activeRow py record) ∧
      validateAll py pd db' = .ok () ∧ openExisting py pd db' = .ok () ∧
      (∀ row ∈ db.requests, (∃ audit_row ∈ db.audit, audit_row.request_id = row.request_id) →
        ∃ result, pd.validateResultJson py row.result_json = .ok result ∧
          ∀ calls : Calls py, replay py pd (runHistory pd db' calls) row.request_id
            row.request_digest = .ok (some result)) ∧
      ∀ (command : Command py) answer, command.Recorded pd db answer → ∀ calls : Calls py,
        command.perform pd [] (runHistory pd db' calls) = (.ok answer, runHistory pd db' calls) := by
  cases hrun : Transaction.withConnection db faults (migrateBlock py pd injector) with
  | mk result db' =>
    obtain ⟨hok, herror⟩ := Spec.withConnection (@spec_migrateBlock py pd _ injector) faults
    cases result with
    | error e =>
      left
      refine ⟨e, ?_⟩
      rw [migrate, hrun, herror e db' hrun]
    | ok _ =>
      right
      obtain ⟨_, -, histories, hmigrated⟩ := hok _ db' hrun
      have hextends (calls : Calls py) : Extends db (runHistory pd db' calls) :=
        (Extends.of_same hmigrated.same).trans (runHistory_extends calls)
      refine ⟨db', histories, ?_, hmigrated.validated, hmigrated.same.records,
        hmigrated.same.requests, hmigrated.same.audit, hmigrated.separated, hmigrated.activeIs,
        validateAll_eq_ok.mpr hmigrated.accepted, hmigrated.openExisting, ?_, ?_⟩
      · rw [migrate, hrun]
        dsimp only
        rw [hmigrated.openExisting]
      · rintro row hrow ⟨audit_row, haudit, hid⟩
        rw [← hmigrated.same.requests] at hrow
        rw [← hmigrated.same.audit] at haudit
        obtain ⟨result, hresult, hreplay⟩ := hmigrated.accepted.replay hrow haudit hid
        exact ⟨result, hresult, fun calls => (runHistory_extends calls).replay hreplay⟩
      · exact fun command answer hrecorded calls =>
          perform_recorded (hrecorded.extends (hextends calls))

/-- An empty store of the former generation becomes an empty store. -/
example : (migrate Python.plain Pydantic.plain (fun _ => none) []
    { Database.created with catalog := ⟨[(1, 1)], P2C_TABLES⟩ }).2 = Database.created := by
  decide +kernel

end AtlasOS.ProviderIntents
