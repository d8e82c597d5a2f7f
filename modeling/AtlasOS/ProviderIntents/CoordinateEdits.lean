import AtlasOS.ProviderIntents.MethodEdits

/-!
# What `mutate_coordinate` does to the tables

The branches edit the series; then the method writes the audit rows and the result
of its operation, which have to pass `_validate_p3_evidence` later. A rebind is the
end of one series and the beginning of another, although its statements interleave.
-/

namespace AtlasOS.ProviderIntents

open Sqlite Sqlite.Transaction

variable {py : Python} {pd : Pydantic} {bound unbound : Set String} {db w w' : Database}

/-! ## The branches -/

/-- The row of a persisted record is found under its version. -/
theorem Persisted.recordRow {m : Mutation} (h : Persisted py pd m w w') :
    w'.recordRow m.record.intent_id m.record.record_version = some (storedRecord py pd m.record) := by
  obtain ⟨sequence, hfresh, rfl⟩ := h
  refine Rows.find_append_self (decide_eq_true rfl) fun row hmem heq => ?_
  have hclash := hfresh.records row hmem
  have htrue : RecordRow.clash row (storedRecord py pd m.record) = true :=
    decide_eq_true (Prod.mk.inj (of_decide_eq_true heq))
  rw [htrue] at hclash
  cases hclash

/-- The active coordinates are not part of a mutation. -/
theorem Persisted.with_active {m : Mutation} (h : Persisted py pd m w w') (rows : List ActiveRow) :
    Persisted py pd m { w with active := rows } { w' with active := rows } := by
  obtain ⟨sequence, hfresh, rfl⟩ := h
  exact ⟨sequence, ⟨hfresh.records, hfresh.audit, hfresh.requests⟩, rfl⟩

/-- The record of an audited change, which is stored. -/
structure Audited (py : Python) (pd : Pydantic) (w : Database)
    (change : ProviderIntentRecord × ProviderIntentAuditEventKind) : Prop where
  valid : change.1.Valid py
  stored : w.recordRow change.1.intent_id change.1.record_version =
    some (storedRecord py pd change.1)
  lifecycle : change.2 = .superseded ↔ change.1.lifecycle = .superseded

/-- What a branch leaves for the rest of the method. -/
structure Applied (py : Python) (pd : Pydantic) (c : ProviderIntentCoordinateMutationCommand)
    (w w' : Database) (mutated : Mutated) : Prop where
  audits : ∀ change ∈ mutated.2.1, Audited py pd w' change
  events : mutated.2.1.map Prod.snd = expectedEvents mutated.2.2
  intent_id : mutated.1.intent_id = c.intent_id py
  valid : mutated.1.Valid py
  stored : w'.recordRow mutated.1.intent_id mutated.1.record_version =
    some (storedRecord py pd mutated.1)
  value : mutated.1.intent_value = c.desired_value
  operations : w'.operations = w.operations
  operation_audit : w'.operation_audit = w.operation_audit

section Branches

variable {c : ProviderIntentCoordinateMutationCommand} {occurred_at : DateTime}
  {injector : String → Option StoreError} {Q : Mutated → Database → Database → Prop}

/-- What the record of a new series has. -/
theorem new_record_facts {record : ProviderIntentRecord}
    (h : ∃ created_at updated_at,
      record = (newCoordinateRecord py c occurred_at).withTimestamps created_at updated_at) :
    record.intent_id = c.intent_id py ∧ record.lifecycle = .active ∧ record.record_version = 1 ∧
      record.intent_value = c.desired_value := by
  obtain ⟨created_at, updated_at, rfl⟩ := h
  exact ⟨rfl, rfl, rfl, rfl⟩

theorem spec_createCoordinate {target : List ProviderIntentRecord}
    (htarget : History py pd w (c.intent_id py) target) (hbound : c.intent_id py ∈ bound)
    (h : ∀ mutated w', Edits py pd bound unbound w w' → Applied py pd c w w' mutated →
      Q mutated db w') :
    Spec (createCoordinate py pd injector c occurred_at target) db w Q fun _ d => d = db := by
  refine Spec.bind (spec_demand fun _ => Spec.bind (spec_demand fun hempty => ?_))
  rw [List.isEmpty_iff.mp hempty] at htarget
  refine Spec.bind (spec_newRecord fun record hvalid hrecord => ?_)
  obtain ⟨hid, hactive, hversion, hvalue⟩ := new_record_facts hrecord
  let m : Mutation :=
    { record, outcome := .created, request_id := c.request_id
      request_digest := c.request_digest py, occurred_at }
  refine Spec.bind (spec_persist (m := m) fun w₁ hw₁ => ?_)
  refine Spec.bind (spec_insertActiveCoordinate fun hclash => Spec.bind (spec_failure ?_))
  obtain ⟨-, hsame, hoperations, haudits⟩ := hw₁.same_tables
  rw [hsame] at hclash ⊢
  refine Spec.pure (h _ _ (.single (.create (m := m) (by rw [hid]; exact htarget)
    (by rw [hid]; exact hbound) hactive (.of_first hvalid hversion rfl) hw₁ hclash)) ?_)
  refine ⟨fun change hchange => ?_, rfl, hid, hvalid, hw₁.recordRow, hvalue, hoperations, haudits⟩
  rw [List.mem_singleton.mp hchange]
  exact ⟨hvalid, hw₁.recordRow, by simp [hactive]⟩

theorem spec_updateCoordinate {previous : ProviderIntentRecord}
    (hcurrent : Current py pd w previous) (hactive : previous.lifecycle = .active)
    (hid : previous.intent_id = c.intent_id py)
    (h : ∀ mutated w', Edits py pd bound unbound w w' → Applied py pd c w w' mutated →
      Q mutated db w') :
    Spec (updateCoordinate py pd injector c occurred_at previous) db w Q fun _ d => d = db := by
  refine Spec.bind (spec_demand fun _ => ?_)
  refine Spec.bind (spec_newRecord fun record hvalid hrecord => ?_)
  have hvalue : record.intent_value = c.desired_value := by
    obtain ⟨created_at, updated_at, hrecord⟩ := hrecord
    rw [hrecord]
    rfl
  obtain ⟨history, hhistory, hlast⟩ := hcurrent
  let m : Mutation :=
    { record, outcome := .updated, request_id := c.request_id
      request_digest := c.request_digest py, occurred_at }
  obtain ⟨hfollows, hlifecycle⟩ := Mutation.Follows.of_updatedTo (m := m) hhistory hlast hactive
    hvalid hrecord rfl
  refine Spec.bind (spec_persist (m := m) fun w₁ hw₁ => ?_)
  refine Spec.bind (spec_updateActiveCoordinate (Spec.bind (spec_failure ?_)))
  obtain ⟨-, hsame, hoperations, haudits⟩ := hw₁.same_tables
  rw [hsame]
  refine Spec.pure (h _ _ (.single (.update hfollows hlifecycle hw₁)) ?_)
  refine ⟨fun change hchange => ?_, rfl, hfollows.same.intent_id.trans hid, hvalid,
    hw₁.recordRow, hvalue, hoperations, haudits⟩
  have hlifecycle : record.lifecycle = .active := hlifecycle
  rw [List.mem_singleton.mp hchange]
  exact ⟨hvalid, hw₁.recordRow, by simp [hlifecycle]⟩

theorem spec_rebindCoordinate {previous : ProviderIntentRecord}
    {target : List ProviderIntentRecord} (hcurrent : Current py pd w previous)
    (hactive : previous.lifecycle = .active) (hne : previous.intent_id ≠ c.intent_id py)
    (htarget : History py pd w (c.intent_id py) target) (hbound : c.intent_id py ∈ bound)
    (h : ∀ mutated w', Edits py pd bound unbound w w' → Applied py pd c w w' mutated →
      Q mutated db w') :
    Spec (rebindCoordinate py pd injector c occurred_at previous target) db w Q
      fun _ d => d = db := by
  refine Spec.bind (spec_demand fun _ => Spec.bind (spec_demand fun hempty => ?_))
  rw [List.isEmpty_iff.mp hempty] at htarget
  obtain ⟨history, hhistory, hlast⟩ := hcurrent
  refine Spec.bind (spec_newRecord fun superseded hold hsuperseded => ?_)
  let m₁ : Mutation :=
    { record := superseded, outcome := .superseded, request_id := c.request_id ++ "-supersede"
      request_digest := c.request_digest py, occurred_at }
  obtain ⟨hfollows, hended⟩ := Mutation.Follows.of_supersededAt (m := m₁) hhistory hlast hactive
    hold hsuperseded rfl
  refine Spec.bind (spec_persist (m := m₁) fun w₁ hw₁ => Spec.bind (spec_failure ?_))
  refine Spec.bind (spec_newRecord fun record hvalid hrecord => ?_)
  obtain ⟨hid, hbegun, hversion, hvalue⟩ := new_record_facts hrecord
  let m₂ : Mutation :=
    { record, outcome := .created, request_id := c.request_id ++ "-activate"
      request_digest := c.request_digest py, occurred_at }
  refine Spec.bind (spec_persist (m := m₂) fun w₂ hw₂ => ?_)
  refine Spec.bind (spec_deleteActiveCoordinate ?_)
  refine Spec.bind (spec_insertActiveCoordinate fun hclash => Spec.bind (spec_failure ?_))
  obtain ⟨-, hsame₁, hoperations₁, haudits₁⟩ := hw₁.same_tables
  obtain ⟨-, hsame₂, hoperations₂, haudits₂⟩ := hw₂.same_tables
  -- The deletion of the old row is moved before the new record, which does not see it.
  have hfirst : Edit py pd bound unbound w
      { w₁ with active := withoutSeries m₁.record.intent_id w.active } :=
    .supersede hfollows hended hw₁
  have hoff : superseded.intent_id = previous.intent_id := hfollows.same.intent_id
  rw [hsame₂, hsame₁] at hclash ⊢
  have hrows : withoutSeries previous.intent_id w.active =
      withoutSeries m₁.record.intent_id w.active := by
    rw [← hoff]
  rw [hrows] at hclash ⊢
  have hnew : History py pd { w₁ with active := withoutSeries m₁.record.intent_id w.active }
      m₂.record.intent_id [] := by
    have hmid := htarget.persist_of_ne hw₁ (by
      change superseded.intent_id ≠ _
      rw [hoff]
      exact hne)
    rw [← hid] at hmid
    have hsame : SameSeries w₁
        { w₁ with active := withoutSeries m₁.record.intent_id w.active } := ⟨rfl, rfl, rfl⟩
    exact hsame.history.mpr hmid
  have hbound : m₂.record.intent_id ∈ bound := by
    change record.intent_id ∈ bound
    rw [hid]
    exact hbound
  have hsecond : Edit py pd bound unbound _ _ :=
    .create hnew hbound hbegun (.of_first hvalid hversion rfl) (hw₂.with_active _) hclash
  refine Spec.pure (h _ _ ((Relation.ReflTransGen.single hfirst).tail hsecond) ?_)
  refine ⟨fun change hchange => ?_, rfl, hid, hvalid, hw₂.recordRow, hvalue,
    hoperations₂.trans hoperations₁, haudits₂.trans haudits₁⟩
  rcases List.mem_cons.mp hchange with rfl | hchange
  · have hended : superseded.lifecycle = .superseded := hended
    exact ⟨hold, hw₂.keepsRecords _ _ _ hw₁.recordRow, by simp [hended]⟩
  · rw [List.mem_singleton.mp hchange]
    exact ⟨hvalid, hw₂.recordRow, by simp [hbegun]⟩

/-- The branches edit the series. -/
theorem spec_applyCoordinate {histories : List (List ProviderIntentRecord)}
    (hhistories : Histories py pd w histories) {target : List ProviderIntentRecord}
    (htarget : History py pd w (c.intent_id py) target) (hbound : c.intent_id py ∈ bound)
    (h : ∀ mutated w', Edits py pd bound unbound w w' → Applied py pd c w w' mutated →
      Q mutated db w') :
    Spec (applyCoordinate py pd injector c occurred_at (activeAt c histories).head? target) db w Q
      fun _ d => d = db := by
  unfold applyCoordinate
  split
  · exact spec_createCoordinate htarget hbound h
  · next previous hprevious =>
    have hmem := List.mem_of_mem_head? hprevious
    rw [activeAt, List.mem_filter, hhistories.mem_filterMap_getLast, decide_eq_true_eq] at hmem
    obtain ⟨hcurrent, hactive, -⟩ := hmem
    split
    · next hid => exact spec_updateCoordinate hcurrent hactive hid h
    · next hne => exact spec_rebindCoordinate hcurrent hactive hne htarget hbound h

end Branches

/-! ## The audit rows of an operation -/

theorem le_foldl_max (sequences : List Int) (start : Int) :
    start ≤ sequences.foldl max start ∧ ∀ s ∈ sequences, s ≤ sequences.foldl max start := by
  induction sequences generalizing start with
  | nil => simp
  | cons s sequences ih =>
    obtain ⟨hstart, hrest⟩ := ih (max start s)
    rw [List.foldl_cons]
    refine ⟨(le_max_left _ _).trans hstart, fun x hx => ?_⟩
    rcases List.mem_cons.mp hx with rfl | hx
    · exact (le_max_right _ _).trans hstart
    · exact hrest x hx

/-- A new number is larger than the stored ones. -/
theorem nextSequence_eq_ok {sequences : List Int} {sequence : Int}
    (h : Database.nextSequence sequences = .ok sequence) :
    1 ≤ sequence ∧ ∀ s ∈ sequences, s < sequence := by
  unfold Database.nextSequence at h
  split at h
  · obtain ⟨hstart, hrest⟩ := le_foldl_max sequences 0
    rw [Except.ok.injEq] at h
    exact ⟨by omega, fun s hs => by have := hrest s hs; omega⟩
  · cases h

/-- The audit rows that an operation added for its changes. -/
structure AuditsAdded (py : Python) (c : ProviderIntentCoordinateMutationCommand)
    (occurred_at : DateTime) (w : Database)
    (changes : List (ProviderIntentRecord × ProviderIntentAuditEventKind))
    (rows : List OperationAuditRow) : Prop where
  paired : List.Forall₂ (fun row change => ∃ sequence, 1 ≤ sequence ∧
    row = storedDomainAudit py c occurred_at change.1 change.2 sequence) rows changes
  sorted : rows.Pairwise fun a b => a.sequence < b.sequence
  above : ∀ a ∈ w.operation_audit, ∀ row ∈ rows, a.sequence < row.sequence
  unique : Rows.Separated OperationAuditRow.clash (w.operation_audit ++ rows)

/-- The rows of an operation carry its request. -/
theorem AuditsAdded.request_id {c : ProviderIntentCoordinateMutationCommand}
    {occurred_at : DateTime} {changes : List (ProviderIntentRecord × ProviderIntentAuditEventKind)}
    {rows : List OperationAuditRow} (h : AuditsAdded py c occurred_at w changes rows)
    {row : OperationAuditRow} (hmem : row ∈ rows) : row.request_id = c.request_id := by
  obtain ⟨change, -, sequence, -, rfl⟩ := Rows.exists_of_mem_left h.paired hmem
  rfl

section Audits

variable {c : ProviderIntentCoordinateMutationCommand} {occurred_at : DateTime}
  {injector : String → Option StoreError}

theorem spec_persistDomainAudits
    {changes : List (ProviderIntentRecord × ProviderIntentAuditEventKind)} {index : ℕ}
    {Q : Unit → Database → Database → Prop}
    (hunique : Rows.Separated OperationAuditRow.clash w.operation_audit)
    (h : ∀ rows, AuditsAdded py c occurred_at w changes rows →
      Q () db { w with operation_audit := w.operation_audit ++ rows }) :
    Spec (persistDomainAudits py injector c occurred_at changes index) db w Q
      fun _ d => d = db := by
  induction changes generalizing w index with
  | nil =>
    have hnil := h [] ⟨List.Forall₂.nil, List.Pairwise.nil, fun _ _ _ hrow => absurd hrow List.not_mem_nil,
      by simpa using hunique⟩
    rw [List.append_nil] at hnil
    exact Spec.pure hnil
  | cons change changes ih =>
    refine Spec.bind (Spec.execute rfl (fun _ _ => rfl) fun w₁ hw₁ => ?_)
    obtain ⟨sequence, hsequence, hw₁⟩ := bind_eq_ok.mp hw₁
    obtain ⟨-, hw₁⟩ := demand_bind_eq_ok.mp hw₁
    split at hw₁
    · cases hw₁
    next audits hinsert =>
    rw [pure_eq_ok, Except.ok.injEq] at hw₁
    subst hw₁
    obtain ⟨hclash, rfl⟩ := Rows.insert_eq_some.mp hinsert
    obtain ⟨hpositive, habove⟩ := nextSequence_eq_ok hsequence
    refine Spec.bind (spec_failure ?_)
    refine ih (hunique.append_singleton hclash) fun rows hrows => ?_
    let row := storedDomainAudit py c occurred_at change.1 change.2 sequence
    have hlist : w.operation_audit ++ [row] ++ rows = w.operation_audit ++ (row :: rows) := by simp
    have hfinal := h (row :: rows) ⟨hrows.paired.cons ⟨sequence, hpositive, rfl⟩,
      List.pairwise_cons.mpr ⟨fun a ha =>
        hrows.above row (List.mem_append_right _ List.mem_cons_self) a ha, hrows.sorted⟩, ?_, ?_⟩
    · rw [← hlist] at hfinal
      exact hfinal
    · intro a ha b hb
      rcases List.mem_cons.mp hb with rfl | hb
      · exact habove _ (List.mem_map_of_mem ha)
      · exact hrows.above a (List.mem_append_left _ ha) b hb
    · rw [← hlist]
      exact hrows.unique

end Audits

/-! ## The evidence of an operation -/

section Evidence

variable {c : CoordinateCommand} {occurred_at : DateTime}

/-- The row of an audited change reads back as its event. -/
theorem validatedDomainAudit_stored
    {change : ProviderIntentRecord × ProviderIntentAuditEventKind}
    (h : Audited py pd w change) (ht : IsUtc occurred_at) {sequence : Int} (hs : 1 ≤ sequence)
    (result : ProviderIntentCoordinateMutationResult) :
    validatedDomainAudit py pd w
      (storedOperation py pd c.toProviderIntentCoordinateMutationCommand occurred_at result)
      (storedDomainAudit py c.toProviderIntentCoordinateMutationCommand occurred_at change.1
        change.2 sequence) change.2 = .ok () := by
  have hrequest := c.request
  simp only [lengthWithin, Bool.and_eq_true, decide_eq_true_eq] at hrequest
  have hlength : lengthWithin 1 200 c.request_id = true := by
    simp only [lengthWithin, Bool.and_eq_true, decide_eq_true_eq]
    omega
  have hevent : (decide (change.2 = .superseded) == decide (change.1.lifecycle = .superseded)) =
      true := by
    simp [h.lifecycle]
  have hmodel : ProviderIntentDomainAuditEvent.modelValidate
      { sequence, occurred_at
        event_id := auditEventId py c.request_id change.1.intent_id change.1.record_version change.2
        operation_id := c.request_id, request_id := c.request_id, operator_id := c.operator_id
        intent_id := change.1.intent_id, record_version := change.1.record_version
        event := change.2, lifecycle := change.1.lifecycle
        resulting_value := change.1.intent_value } = .ok
      { sequence, occurred_at
        event_id := auditEventId py c.request_id change.1.intent_id change.1.record_version change.2
        operation_id := c.request_id, request_id := c.request_id, operator_id := c.operator_id
        intent_id := change.1.intent_id, record_version := change.1.record_version
        event := change.2, lifecycle := change.1.lifecycle
        resulting_value := change.1.intent_value } := by
    unfold ProviderIntentDomainAuditEvent.modelValidate
    simp only [ht.canonicalTimestamp, auditEventId, matchesVersioned_canonicalDigest, hlength,
      c.operator.1, c.operator.2, h.valid.intentIdPattern, h.valid.version.1, h.valid.version.2,
      hs, hevent, decide_true, Bool.and_self, require_true, ok_bind, pure_eq_ok]
  unfold validatedDomainAudit domainAuditEvent
  simp only [storedDomainAudit, py.fromisoformat_isoformat, expect_some, StrEnum.ofValue_value,
    checked, Except.mapError, ok_bind, hmodel, storedOperation, h.stored,
    decodeRecord_storedRecord h.valid, and_self, decide_true]
  rfl

/-- The operation that a mutation completed passes its validation. -/
theorem validatedOperation_stored {mutated : Mutated} {rows : List OperationAuditRow}
    (happlied : Applied py pd c.toProviderIntentCoordinateMutationCommand db w mutated)
    (hrows : AuditsAdded py c.toProviderIntentCoordinateMutationCommand occurred_at w mutated.2.1
      rows)
    (hnone : ∀ row ∈ w.operation_audit, row.request_id ≠ c.request_id) (ht : IsUtc occurred_at)
    (hresult : (coordinateResult c.toProviderIntentCoordinateMutationCommand mutated.1
      mutated.2.2).modelValidate = .ok ())
    (operations : List OperationRow) :
    validatedOperation py pd
      { w with operations, operation_audit := w.operation_audit ++ rows }
      (storedOperation py pd c.toProviderIntentCoordinateMutationCommand occurred_at
        (coordinateResult c.toProviderIntentCoordinateMutationCommand mutated.1 mutated.2.2)) =
      .ok () := by
  have haudits : ({ w with operations, operation_audit := w.operation_audit ++ rows } :
      Database).operationAudits c.request_id = rows := by
    have hold : w.operation_audit.filter (fun row => decide (row.request_id = c.request_id)) = [] :=
      List.filter_eq_nil_iff.mpr fun row hrow hid => hnone row hrow (of_decide_eq_true hid)
    have hnew : rows.filter (fun row => decide (row.request_id = c.request_id)) = rows :=
      List.filter_eq_self.mpr fun row hrow => decide_eq_true (hrows.request_id hrow)
    change Rows.orderBy (·.sequence) ((w.operation_audit ++ rows).filter
      fun row => decide (row.request_id = c.request_id)) = rows
    rw [List.filter_append, hold, hnew, List.nil_append]
    exact Rows.orderBy_eq_self (hrows.sorted.imp le_of_lt)
  have hlength : rows.length = (expectedEvents mutated.2.2).length := by
    rw [← happlied.events, List.length_map, hrows.paired.length_eq]
  unfold validatedOperation
  simp only [bind_eq_ok, exists_unit, demand_eq_ok, forM_eq_ok, checked_eq_ok]
  refine ⟨_, Pydantic.validateCoordinateResultJson_dump hresult, ?_, ?_, ?_, ?_⟩
  · simp only [coordinateResult, storedOperation, decide_true, Bool.true_and,
      ProviderIntentCoordinateMutationCommand.request_digest, matchesVersioned_canonicalDigest]
  · change decide (List.length (Database.operationAudits _ c.request_id) = _) = true
    rw [haudits]
    exact decide_eq_true hlength
  · intro pair hpair
    change pair ∈ (Database.operationAudits _ c.request_id).zip _ at hpair
    rw [haudits] at hpair
    change pair ∈ rows.zip (expectedEvents mutated.2.2) at hpair
    rw [← happlied.events, List.zip_map_right] at hpair
    obtain ⟨⟨row, change⟩, hmem, rfl⟩ := List.mem_map.mp hpair
    obtain ⟨sequence, hs, hrow⟩ := List.forall₂_zip hrows.paired hmem
    simp only [Prod.map, id_eq]
    rw [hrow]
    have haudited := happlied.audits change (List.of_mem_zip hmem).2
    exact validatedDomainAudit_stored ⟨haudited.valid, haudited.stored, haudited.lifecycle⟩ ht hs _
  · have hkind : c.intent_kind = .monitoringExpectation := by cases c.intent_kind; rfl
    have hid : buildProviderIntentId py c.provider_id (some c.resource_type) c.resource_id
        (some c.management_fingerprint) .monitoringExpectation = mutated.1.intent_id := by
      rw [happlied.intent_id, ProviderIntentCoordinateMutationCommand.intent_id, hkind]
    simp only [coordinateResult]
    rw [hid]
    have hstored : ({ w with operations, operation_audit := w.operation_audit ++ rows } :
        Database).recordRow mutated.1.intent_id mutated.1.record_version =
        some (storedRecord py pd mutated.1) := happlied.stored
    rw [hstored]
    simp only [decodeRecord_storedRecord happlied.valid, ok_bind, happlied.value, decide_true]
    rfl

end Evidence

/-! ## The method -/

section Mutate

variable {c : CoordinateCommand} {occurred_at now : DateTime}
  {injector : String → Option StoreError} {observed : Database}

theorem spec_mutateFresh {observed_generation : Option (String × Int)}
    (hbound : c.intent_id py ∈ bound) (ht : IsUtc occurred_at)
    (hfresh : db.operation c.request_id = none) :
    Spec (mutateFresh py pd injector c.toProviderIntentCoordinateMutationCommand occurred_at
      observed_generation) db db (Committed py pd bound unbound db) fun _ d => d = db := by
  refine Spec.bind (spec_inspect fun histories hok => ?_)
  obtain ⟨haccepted, hhistories⟩ := validatedStoreRecords_eq_ok.mp hok
  refine Spec.bind (spec_demand fun _ => Spec.bind (spec_demand fun _ => ?_))
  refine Spec.bind (spec_failure (Spec.bind (spec_inspect fun target htarget => ?_)))
  rw [validatedHistory_eq_ok] at htarget
  refine Spec.bind (spec_applyCoordinate hhistories htarget hbound
    fun mutated w (hedits : Edits py pd bound unbound db w) happlied => ?_)
  refine Spec.bind (spec_lift fun _ hresult => ?_)
  rw [checked_eq_ok] at hresult
  have hunique : Rows.Separated OperationAuditRow.clash w.operation_audit := by
    rw [happlied.operation_audit]
    exact haccepted.unique.operation_audit
  have hoperations : ∀ a ∈ w.operations, a.request_id ≠ c.request_id := by
    rw [happlied.operations]
    exact fun a ha heq => List.find?_eq_none.mp hfresh a ha (decide_eq_true heq)
  have hnone : ∀ row ∈ w.operation_audit, row.request_id ≠ c.request_id := by
    intro row hrow heq
    rw [happlied.operation_audit] at hrow
    obtain ⟨operation, hmem, hid⟩ := haccepted.operations.audits row hrow
    rw [← happlied.operations] at hmem
    exact hoperations operation hmem (hid.trans heq)
  refine Spec.bind (spec_persistDomainAudits hunique fun rows hrows => ?_)
  refine Spec.bind (spec_failure (Spec.bind (Spec.execute rfl (fun _ _ => rfl) fun w' hw' => ?_)))
  unfold Database.insertOperation at hw'
  split at hw'
  · cases hw'
  next operations hinsert =>
  rw [Except.ok.injEq] at hw'
  subst hw'
  obtain ⟨hclash, rfl⟩ := Rows.insert_eq_some.mp hinsert
  refine Spec.bind (spec_failure (spec_commit_return (hedits.tail ?_)))
  exact .operation (fun row hrow => hrows.request_id hrow) hclash hrows.unique
    (validatedOperation_stored happlied hrows hnone ht hresult _)

/-- `mutate_coordinate` commits a sequence of edits or changes nothing. -/
theorem spec_mutateCoordinate (hbound : c.intent_id py ∈ bound) :
    Spec (mutateCoordinate py pd injector c.toProviderIntentCoordinateMutationCommand observed now)
      db db (Committed py pd bound unbound db) fun _ d => d = db := by
  refine Spec.bind (spec_lift fun occurred_at hnow => spec_guarded ?_)
  refine Spec.bind (Spec.select rfl (Spec.bind (spec_failure ?_)))
  refine Spec.bind (Spec.beginImmediate rfl (Spec.bind (spec_inspect fun answer hanswer => ?_)))
  cases answer with
  | some result => exact spec_commit_return .refl
  | none =>
    refine spec_mutateFresh hbound (isUtc_of_canonicalTimestamp (checked_eq_ok.mp hnow)) ?_
    unfold replayCoordinateOperation at hanswer
    split at hanswer
    · next hnone => exact hnone
    · simp [bind_eq_ok] at hanswer

end Mutate

end AtlasOS.ProviderIntents
