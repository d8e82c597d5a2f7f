import AtlasOS.ProviderIntents.Edits

/-!
# What the methods do to the tables

One specification lemma for each method: a call that returns made a sequence of
edits and committed them, and a call that raises left every table as it was. The
lemmas hold for every pattern of database errors and for every injector.
-/

namespace AtlasOS.ProviderIntents

open Sqlite Sqlite.Transaction

variable {py : Python} {pd : Pydantic} {bound unbound : Set String} {db w : Database}

/-! ## Statements -/

section Statements

variable {α : Type} {Q : α → Database → Database → Prop}

/-- A block under the handlers of a method, which roll back. -/
theorem spec_guarded {message : String} {block : Store α}
    (h : Spec block db w Q fun _ d => d = db) :
    Spec (guarded message block) db w Q fun _ d => d = db := by
  refine Spec.tryCatch (h.imp (fun _ _ _ hQ => hQ) fun e d hd w' => ?_)
  exact Spec.bind (Spec.rollback (Spec.throw hd))

theorem spec_inspect {check : Database → Except StoreError α}
    (h : ∀ a, check w = .ok a → Q a db w) : Spec (inspect check) db w Q fun _ d => d = db :=
  Spec.inspect rfl (fun _ _ => rfl) h

theorem spec_lift {result : Except StoreError α} (h : ∀ a, result = .ok a → Q a db w) :
    Spec (Transaction.lift result) db w Q fun _ d => d = db :=
  Spec.lift h fun _ _ => rfl

end Statements

section Blocks

variable {Q : Unit → Database → Database → Prop}

theorem spec_demand {condition : Bool} {error : StoreError} (h : condition = true → Q () db w) :
    Spec (Transaction.lift (demand condition error)) db w Q fun _ d => d = db :=
  spec_lift fun _ hok => h (demand_eq_ok.mp hok)

theorem spec_failure {injector : String → Option StoreError} {stage : String} (h : Q () db w) :
    Spec (failure injector stage) db w Q fun _ d => d = db :=
  spec_lift fun _ _ => h

theorem spec_newRecord {record : ProviderIntentRecord}
    {Q : ProviderIntentRecord → Database → Database → Prop}
    (h : ∀ r, r.Valid py →
      (∃ created_at updated_at, r = record.withTimestamps created_at updated_at) → Q r db w) :
    Spec (newRecord py record) db w Q fun _ d => d = db := by
  refine spec_lift fun r hok => ?_
  obtain ⟨hvalid, htimes⟩ := ProviderIntentRecord.modelValidate_eq_ok (checked_eq_ok.mp hok)
  exact h r hvalid htimes

/-- `_insert_active_coordinate` adds the row of its record. -/
theorem spec_insertActiveCoordinate {record : ProviderIntentRecord}
    (h : (∀ row ∈ w.active, ActiveRow.clash row (activeRow py record) = false) →
      Q () db { w with active := w.active ++ [activeRow py record] }) :
    Spec (insertActiveCoordinate py record) db w Q fun _ d => d = db := by
  unfold insertActiveCoordinate
  split
  · refine Spec.tryCatch (Spec.execute ?_ ?_ fun w' hw' => ?_)
    · exact fun w' => Spec.throw rfl
    · intro e _ w'
      cases e <;> exact Spec.throw rfl
    · obtain ⟨-, hinsert⟩ := demand_bind_eq_ok.mp hw'
      split at hinsert
      · cases hinsert
      next active hactive =>
      rw [pure_eq_ok, Except.ok.injEq] at hinsert
      subst hinsert
      obtain ⟨hclash, rfl⟩ := Rows.insert_eq_some.mp hactive
      exact h hclash
  · exact Spec.throw rfl

theorem spec_updateActiveCoordinate {record : ProviderIntentRecord}
    (h : Q () db { w with active := withVersion record w.active }) :
    Spec (updateActiveCoordinate record) db w Q fun _ d => d = db := by
  refine Spec.execute rfl (fun _ _ => rfl) fun w' hw' => ?_
  obtain ⟨-, hw'⟩ := demand_bind_eq_ok.mp hw'
  obtain ⟨-, hw'⟩ := demand_bind_eq_ok.mp hw'
  rw [pure_eq_ok, Except.ok.injEq] at hw'
  subst hw'
  exact h

theorem spec_deleteActiveCoordinate {intent_id : String}
    (h : Q () db { w with active := withoutSeries intent_id w.active }) :
    Spec (deleteActiveCoordinate intent_id) db w Q fun _ d => d = db := by
  refine Spec.execute rfl (fun _ _ => rfl) fun w' hw' => ?_
  obtain ⟨-, hw'⟩ := demand_bind_eq_ok.mp hw'
  rw [pure_eq_ok, Except.ok.injEq] at hw'
  subst hw'
  exact h

end Blocks

/-- What a method promises: a call that returns committed a sequence of edits. -/
abbrev Committed (py : Python) (pd : Pydantic) (bound unbound : Set String) (db : Database)
    {α : Type} : α → Database → Database → Prop :=
  fun _ d w => d = w ∧ Edits py pd bound unbound db w

theorem spec_commit_return {α : Type} {a : α} (h : Edits py pd bound unbound db w) :
    Spec (do commit; return a : Store α) db w (Committed py pd bound unbound db) fun _ d => d = db :=
  Spec.bind (Spec.commit rfl (Spec.pure ⟨rfl, h⟩))

/-! ## New versions -/

/-- The next version of an active series, as the methods build it. -/
theorem Mutation.Follows.of_updatedTo {m : Mutation} {previous : ProviderIntentRecord}
    {history : List ProviderIntentRecord} {value : ProviderIntentValue} {t : DateTime}
    (hhistory : History py pd w previous.intent_id history)
    (hlast : history.getLast? = some previous) (hactive : previous.lifecycle = .active)
    (hvalid : m.record.Valid py)
    (hrecord : ∃ created_at updated_at,
      m.record = (previous.updatedTo value t).withTimestamps created_at updated_at)
    (houtcome : m.outcome = .updated) :
    m.Follows py pd w previous history ∧ m.record.lifecycle = .active := by
  obtain ⟨created_at, updated_at, hrecord⟩ := hrecord
  have hid : m.record.intent_id = previous.intent_id := by rw [hrecord]; rfl
  have hversion : m.record.record_version = previous.record_version + 1 := by rw [hrecord]; rfl
  have hlifecycle : m.record.lifecycle = .active := by rw [hrecord]; exact hactive
  have hprevious := hhistory.version_getLast hlast
  have hpositive := (hhistory.valid (List.mem_of_getLast? hlast)).version.1
  refine ⟨⟨by rw [hid]; exact hhistory, hlast, hactive, ⟨hvalid, by omega, ?_⟩, ?_⟩, hlifecycle⟩
  · have hnot : ¬m.record.record_version = 1 := by omega
    rw [houtcome, expectedEvent, if_neg hnot, if_neg (by rw [hlifecycle]; decide)]
    rfl
  · rw [hrecord]
    exact ⟨rfl, rfl, rfl, rfl, rfl, rfl⟩

/-- The last version of an active series, as the methods build it. -/
theorem Mutation.Follows.of_supersededAt {m : Mutation} {previous : ProviderIntentRecord}
    {history : List ProviderIntentRecord} {t : DateTime}
    (hhistory : History py pd w previous.intent_id history)
    (hlast : history.getLast? = some previous) (hactive : previous.lifecycle = .active)
    (hvalid : m.record.Valid py)
    (hrecord : ∃ created_at updated_at,
      m.record = (previous.supersededAt t).withTimestamps created_at updated_at)
    (houtcome : m.outcome = .superseded) :
    m.Follows py pd w previous history ∧ m.record.lifecycle = .superseded := by
  obtain ⟨created_at, updated_at, hrecord⟩ := hrecord
  have hid : m.record.intent_id = previous.intent_id := by rw [hrecord]; rfl
  have hversion : m.record.record_version = previous.record_version + 1 := by rw [hrecord]; rfl
  have hlifecycle : m.record.lifecycle = .superseded := by rw [hrecord]; rfl
  have hprevious := hhistory.version_getLast hlast
  have hpositive := (hhistory.valid (List.mem_of_getLast? hlast)).version.1
  refine ⟨⟨by rw [hid]; exact hhistory, hlast, hactive, ⟨hvalid, by omega, ?_⟩, ?_⟩, hlifecycle⟩
  · have hnot : ¬m.record.record_version = 1 := by omega
    rw [houtcome, expectedEvent, if_neg hnot, if_pos hlifecycle]
    rfl
  · rw [hrecord]
    exact ⟨rfl, rfl, rfl, rfl, rfl, rfl⟩

/-- The first version of a series. -/
theorem Mutation.Continues.of_first {m : Mutation} (hvalid : m.record.Valid py)
    (hversion : m.record.record_version = 1) (houtcome : m.outcome = .created) :
    m.Continues py [] :=
  ⟨hvalid, by rw [hversion]; rfl, by rw [houtcome, expectedEvent, if_pos hversion]; rfl⟩

/-! ## `put` and `supersede` -/

variable {now : DateTime}

theorem spec_putFresh {c : ProviderIntentMutationCommand} {occurred_at : DateTime}
    {history : List ProviderIntentRecord} (hhistory : History py pd db (c.intent_id py) history)
    (hbound : c.intent_id py ∈ bound) :
    Spec (putFresh py pd c occurred_at history) db db (Committed py pd bound unbound db)
      fun _ d => d = db := by
  unfold putFresh
  cases hlast : history.getLast? with
  | none =>
    rw [List.getLast?_eq_none_iff] at hlast
    subst hlast
    refine Spec.bind (spec_demand fun _ => ?_)
    refine Spec.bind (spec_newRecord fun record hvalid ⟨created_at, updated_at, hrecord⟩ => ?_)
    have hid : record.intent_id = c.intent_id py := by rw [hrecord]; rfl
    have hactive : record.lifecycle = .active := by rw [hrecord]; rfl
    have hversion : record.record_version = 1 := by rw [hrecord]; rfl
    let m : Mutation :=
      { record, outcome := .created, request_id := c.request_id
        request_digest := c.request_digest, occurred_at }
    refine Spec.bind (spec_persist (m := m) fun w hw => ?_)
    refine Spec.bind (spec_insertActiveCoordinate fun hclash => ?_)
    rw [hw.same_tables.2.1] at hclash ⊢
    exact spec_commit_return (.single (.create (m := m) (by rw [hid]; exact hhistory)
      (by rw [hid]; exact hbound) hactive (.of_first hvalid hversion rfl) hw hclash))
  | some previous =>
    have hmem := List.mem_of_getLast? hlast
    rw [← hhistory.intent_id_of_mem hmem] at hhistory
    refine Spec.bind (spec_demand fun hactive => ?_)
    refine Spec.bind (spec_demand fun _ => ?_)
    refine Spec.bind (spec_newRecord fun record hvalid hrecord => ?_)
    let m : Mutation :=
      { record, outcome := .updated, request_id := c.request_id
        request_digest := c.request_digest, occurred_at }
    obtain ⟨hfollows, hlifecycle⟩ := Mutation.Follows.of_updatedTo (m := m) hhistory hlast
      (of_decide_eq_true hactive) hvalid hrecord rfl
    refine Spec.bind (spec_persist (m := m) fun w hw => ?_)
    refine Spec.bind (spec_updateActiveCoordinate ?_)
    rw [hw.same_tables.2.1]
    exact spec_commit_return (.single (.update hfollows hlifecycle hw))

/-- `put` commits a sequence of edits or changes nothing. -/
theorem spec_put {c : ProviderIntentMutationCommand} (hbound : c.intent_id py ∈ bound) :
    Spec (put py pd now c) db db (Committed py pd bound unbound db) fun _ d => d = db := by
  refine Spec.bind (spec_lift fun occurred_at _ => spec_guarded ?_)
  refine Spec.bind (Spec.beginImmediate rfl ?_)
  refine Spec.bind (spec_inspect fun answer _ => ?_)
  cases answer with
  | some result => exact spec_commit_return .refl
  | none =>
    refine Spec.bind (spec_inspect fun history hhistory => ?_)
    exact spec_putFresh (validatedHistory_eq_ok.mp hhistory) hbound

theorem spec_supersedeFresh {c : ProviderIntentSupersedeCommand} {occurred_at : DateTime}
    {history : List ProviderIntentRecord} (hhistory : History py pd db c.intent_id history) :
    Spec (supersedeFresh py pd c occurred_at history) db db (Committed py pd bound unbound db)
      fun _ d => d = db := by
  unfold supersedeFresh
  cases hlast : history.getLast? with
  | none => exact Spec.throw rfl
  | some previous =>
    have hmem := List.mem_of_getLast? hlast
    rw [← hhistory.intent_id_of_mem hmem] at hhistory
    refine Spec.bind (spec_demand fun hactive => ?_)
    refine Spec.bind (spec_demand fun _ => ?_)
    refine Spec.bind (spec_newRecord fun record hvalid hrecord => ?_)
    let m : Mutation :=
      { record, outcome := .superseded, request_id := c.request_id
        request_digest := c.request_digest, occurred_at }
    obtain ⟨hfollows, hlifecycle⟩ := Mutation.Follows.of_supersededAt (m := m) hhistory hlast
      (of_decide_eq_true hactive) hvalid hrecord rfl
    refine Spec.bind (spec_persist (m := m) fun w hw => ?_)
    refine Spec.bind (spec_deleteActiveCoordinate ?_)
    rw [hw.same_tables.2.1]
    exact spec_commit_return (.single (.supersede hfollows hlifecycle hw))

/-- `supersede` commits a sequence of edits or changes nothing. -/
theorem spec_supersede {c : ProviderIntentSupersedeCommand} :
    Spec (supersede py pd now c) db db (Committed py pd bound unbound db) fun _ d => d = db := by
  refine Spec.bind (spec_lift fun occurred_at _ => spec_guarded ?_)
  refine Spec.bind (Spec.beginImmediate rfl ?_)
  refine Spec.bind (spec_inspect fun answer _ => ?_)
  cases answer with
  | some result => exact spec_commit_return .refl
  | none =>
    refine Spec.bind (spec_inspect fun history hhistory => ?_)
    exact spec_supersedeFresh (validatedHistory_eq_ok.mp hhistory)

/-! ## `import_legacy_policy` -/

theorem spec_importEntry {entry : LegacyPolicyImportEntry} {occurred_at : DateTime}
    {Q : Unit → Database → Database → Prop} (hunbound : entry.intent_id py ∈ unbound)
    (h : ∀ w', Edits py pd bound unbound w w' → Q () db w') :
    Spec (importEntry py pd occurred_at entry) db w Q fun _ d => d = db := by
  refine Spec.bind (spec_inspect fun history hhistory => ?_)
  rw [validatedHistory_eq_ok] at hhistory
  refine Spec.bind (spec_newRecord fun record hvalid ⟨created_at, updated_at, hrecord⟩ => ?_)
  have hid : record.intent_id = entry.intent_id py := by rw [hrecord]; rfl
  have hlegacy : record.lifecycle = .legacyUnbound := by rw [hrecord]; rfl
  let m : Mutation :=
    { record, outcome := legacyOutcome history.getLast?, request_id := entry.source_reference
      request_digest := entry.source_reference, occurred_at }
  refine spec_persist (m := m) fun w' hw' => h w' (.single ?_)
  have hversion : record.record_version =
      (history.getLast?.map fun r => r.record_version + 1).getD 1 := by rw [hrecord]; rfl
  have hhistory' : History py pd w m.record.intent_id history := by
    change History py pd w record.intent_id history
    rw [hid]
    exact hhistory
  refine .legacy (m := m) hhistory' (by rw [← hid] at hunbound; exact hunbound) hlegacy
    ⟨hvalid, ?_, ?_⟩ hw'
  · change record.record_version = history.length + 1
    cases hlast : history.getLast? with
    | none =>
      rw [hlast] at hversion
      rw [List.getLast?_eq_none_iff.mp hlast, hversion]
      rfl
    | some previous =>
      rw [hlast, Option.map_some, Option.getD_some, hhistory.version_getLast hlast] at hversion
      exact hversion
  · change (legacyOutcome history.getLast?).event = expectedEvent record
    cases hlast : history.getLast? with
    | none =>
      rw [hlast] at hversion
      have hfirst : record.record_version = 1 := hversion
      rw [expectedEvent, if_pos hfirst]
      rfl
    | some previous =>
      rw [hlast, Option.map_some, Option.getD_some] at hversion
      have hpositive := (hhistory.valid (List.mem_of_getLast? hlast)).version.1
      rw [expectedEvent, if_neg (by omega), if_neg (by rw [hlegacy]; decide)]
      rfl

theorem spec_importEntries {occurred_at : DateTime} {entries : List LegacyPolicyImportEntry}
    {Q : Unit → Database → Database → Prop} (hunbound : ∀ e ∈ entries, e.intent_id py ∈ unbound)
    (h : ∀ w', Edits py pd bound unbound w w' → Q () db w') :
    Spec (importEntries py pd occurred_at entries) db w Q fun _ d => d = db := by
  induction entries generalizing w with
  | nil => exact Spec.pure (h w .refl)
  | cons entry entries ih =>
    refine Spec.bind (spec_importEntry (hunbound entry List.mem_cons_self)
      fun w₁ (hw₁ : Edits py pd bound unbound w w₁) => ?_)
    exact ih (fun e he => hunbound e (List.mem_cons_of_mem _ he))
      fun w₂ hw₂ => h w₂ (hw₁.trans hw₂)

/-- `import_legacy_policy` commits a sequence of edits or changes nothing. -/
theorem spec_importLegacyPolicy {c : ImportCommand py}
    (hunbound : ∀ e ∈ c.entries, e.intent_id py ∈ unbound) :
    Spec (importLegacyPolicy py pd now c.toLegacyPolicyImportCommand) db db
      (Committed py pd bound unbound db) fun _ d => d = db := by
  refine Spec.bind (spec_lift fun occurred_at _ => spec_guarded ?_)
  refine Spec.bind (Spec.beginImmediate rfl ?_)
  refine Spec.bind (spec_inspect fun answer _ => ?_)
  cases answer with
  | some result => exact spec_commit_return .refl
  | none =>
    refine Spec.bind (spec_importEntries hunbound
      fun w (hw : Edits py pd bound unbound db w) => ?_)
    refine Spec.bind (spec_lift fun _ hresult => ?_)
    refine Spec.bind (Spec.execute rfl (fun _ _ => rfl) fun w' hw' => ?_)
    unfold Database.insertRequest at hw'
    split at hw'
    · cases hw'
    next requests hinsert =>
    rw [Except.ok.injEq] at hw'
    subst hw'
    obtain ⟨hclash, rfl⟩ := Rows.insert_eq_some.mp hinsert
    refine spec_commit_return (hw.tail (.marker (fun message => ?_) hclash))
    have hread : pd.validateImportResultJson (pd.dumpImportResult (importResult py
        c.toLegacyPolicyImportCommand)) = .ok (importResult py c.toLegacyPolicyImportCommand) :=
      Pydantic.validateImportResultJson_dump (checked_eq_ok.mp hresult)
    unfold validatedMarker
    rw [storedMarker, hread]
    simp [checked, Except.mapError, importResult, c.digest]

end AtlasOS.ProviderIntents
