import AtlasOS.Actions.History

/-!
# The history and its reference

The reference remembers every entry that was appended since the last clear, and at a
read it selects the most recent ones of those that the retention still covers. The
store drops what it does not need at the moment, and the invariant says that nothing
it dropped can be needed later: what is stored are the first rows of those above some
bound that is not newer than the bound of any later read.
-/

namespace AtlasOS.Actions

/-! ## Rows of entries -/

namespace ProviderActionAuditEntry

/-- The entry with its times in UTC, which is how it is read back. -/
def utc (entry : ProviderActionAuditEntry) : Option ProviderActionAuditEntry := do
  let started_at ← entry.started_at.toUtc
  let completed_at ← entry.completed_at.toUtc
  some { entry with started_at := .utc started_at, completed_at := .utc completed_at }

/-- The moment at which the action was completed. -/
def completed (entry : ProviderActionAuditEntry) : ℤ := entry.completed_at.utcMicros

/-- The times of an entry are readings of the UTC clock. -/
structure IsUtc (entry : ProviderActionAuditEntry) : Prop where
  started_at : entry.started_at = .utc entry.started_at.micros
  completed_at : entry.completed_at = .utc entry.completed_at.micros

/-- The row of an entry whose times are in UTC. -/
def row (entry : ProviderActionAuditEntry) : Row where
  id := entry.id
  provider_id := entry.provider_id
  provider_name := entry.provider_name
  action_id := entry.action_id
  action_label := entry.action_label
  status := entry.status
  success := ofBool entry.success
  message := entry.message
  confirmed := ofBool entry.confirmed
  destructive := ofBool entry.destructive
  parameter_names := .arr (entry.parameter_names.map .str)
  request_id := entry.request_id
  started_at := Timestamp.isoformat entry.started_at.micros
  completed_at := Timestamp.isoformat entry.completed_at.micros
  duration_ms := entry.duration_ms

variable {entry other : ProviderActionAuditEntry}

theorem utc_eq_some {stored : ProviderActionAuditEntry} :
    entry.utc = some stored ↔ ∃ started completed, entry.started_at.toUtc = some started ∧
      entry.completed_at.toUtc = some completed ∧
        { entry with started_at := .utc started, completed_at := .utc completed } = stored := by
  simp [utc, Option.bind_eq_some_iff]

theorem isUtc_of_utc {stored : ProviderActionAuditEntry} (h : entry.utc = some stored) :
    stored.IsUtc := by
  obtain ⟨started, completed, -, -, rfl⟩ := utc_eq_some.mp h
  exact ⟨rfl, rfl⟩

theorem id_of_utc {stored : ProviderActionAuditEntry} (h : entry.utc = some stored) :
    stored.id = entry.id := by
  obtain ⟨started, completed, -, -, rfl⟩ := utc_eq_some.mp h
  rfl

theorem values_of_utc {stored : ProviderActionAuditEntry} (h : entry.utc = some stored) :
    entry.values = .ok stored.row := by
  obtain ⟨started, completed, hstarted, hcompleted, rfl⟩ := utc_eq_some.mp h
  simp only [values, utcIso, hstarted, hcompleted, ok_bind]
  rfl

theorem values_of_utc_none (h : entry.utc = none) : entry.values = .error .overflowError := by
  cases hstarted : entry.started_at.toUtc with
  | none => simp only [values, utcIso, hstarted, error_bind]
  | some started =>
    cases hcompleted : entry.completed_at.toUtc with
    | none => simp only [values, utcIso, hstarted, hcompleted, ok_bind, error_bind]
    | some completed => simp [utc, hstarted, hcompleted] at h

theorem IsUtc.completed_eq (h : entry.IsUtc) : entry.completed = entry.completed_at.micros.val := by
  rw [completed, h.completed_at, DateTime.utcMicros_utc]
  rfl

theorem IsUtc.row_le_row (h : entry.IsUtc) (hother : other.IsUtc) :
    entry.row.completed_at ≤ other.row.completed_at ↔ entry.completed ≤ other.completed := by
  rw [h.completed_eq, hother.completed_eq, Int.ofNat_le]
  exact Timestamp.isoformat_le_iff.trans Fin.le_def

theorem IsUtc.le_row (h : entry.IsUtc) (micros : Fin MAX_MICROS) :
    Timestamp.isoformat micros ≤ entry.row.completed_at ↔ (micros.val : ℤ) ≤ entry.completed := by
  rw [h.completed_eq, Int.ofNat_le]
  exact Timestamp.isoformat_le_iff.trans Fin.le_def

theorem IsUtc.row_le (h : entry.IsUtc) (micros : Fin MAX_MICROS) :
    entry.row.completed_at ≤ Timestamp.isoformat micros ↔ entry.completed ≤ (micros.val : ℤ) := by
  rw [h.completed_eq, Int.ofNat_le]
  exact Timestamp.isoformat_le_iff.trans Fin.le_def

theorem ofBool_bne_zero (value : Bool) : (ofBool value != 0) = value := by
  cases value <;> rfl

theorem readNames_names (names : List String) : readNames (.arr (names.map .str)) = .ok names := by
  refine mapM_map_eq_ok fun name _ => ?_
  rfl

theorem readTimestamp_isoformat (micros : Fin MAX_MICROS) :
    readTimestamp (Timestamp.isoformat micros) = .ok (.utc micros) := by
  rw [readTimestamp, Timestamp.fromisoformat_isoformat]
  rfl

/-- What is stored is read back. -/
theorem entryFromRow_row (h : entry.IsUtc) : entryFromRow entry.row = .ok entry := by
  simp only [entryFromRow, row, readNames_names, readTimestamp_isoformat, ok_bind, ofBool_bne_zero]
  rw [← h.started_at, ← h.completed_at]

end ProviderActionAuditEntry

open ProviderActionAuditEntry

/-! ## Filters -/

namespace Filters

/-- The bounds have times in UTC. -/
def convertible (filters : Filters) : Bool :=
  filters.completed_from.all (·.toUtc.isSome) && filters.completed_to.all (·.toUtc.isSome)

/-- Whether the arguments select an entry, its times being instants. -/
def selects (filters : Filters) (entry : ProviderActionAuditEntry) : Bool :=
  filters.provider_id.all (entry.provider_id = ·) &&
  filters.status.all (StrEnum.value entry.status = ·) &&
  filters.completed_from.all (·.utcMicros ≤ entry.completed) &&
  filters.completed_to.all (entry.completed ≤ ·.utcMicros) &&
  searches filters.search entry.action_id entry.action_label entry.request_id

variable {filters : Filters} {entry : ProviderActionAuditEntry}

theorem mapM_utcIso {bound : Option DateTime} (h : bound.all (·.toUtc.isSome) = true) :
    ∃ micros : Option (Fin MAX_MICROS), bound.mapM utcIso = .ok (micros.map Timestamp.isoformat) ∧
      bound.map DateTime.utcMicros = micros.map fun micros => (micros.val : ℤ) := by
  cases bound with
  | none => exact ⟨none, rfl, rfl⟩
  | some time =>
    obtain ⟨micros, hmicros⟩ := Option.isSome_iff_exists.mp h
    refine ⟨some micros, ?_, congrArg some (DateTime.toUtc_eq_some.mp hmicros)⟩
    rw [Option.mapM_some, utcIso, hmicros]
    rfl

/-- A test of the instant of a bound is a test of its text. -/
theorem all_isoformat {bound : Option DateTime} {micros : Option (Fin MAX_MICROS)}
    (h : bound.map DateTime.utcMicros = micros.map fun micros => (micros.val : ℤ)) {p : ℤ → Bool}
    {q : String → Bool} (hq : ∀ micros, q (Timestamp.isoformat micros) = p micros.val) :
    (micros.map Timestamp.isoformat).all q = bound.all fun time => p time.utcMicros := by
  have hbound : bound.all (fun time => p time.utcMicros) = (bound.map DateTime.utcMicros).all p := by
    rw [Option.all_map]
  rw [hbound, h, Option.all_map, Option.all_map]
  exact congrArg micros.all (funext hq)

/-- The condition of the query selects the rows of the entries that are selected. -/
theorem queryParts_of_convertible (h : filters.convertible = true) :
    ∃ condition, filters.queryParts = .ok condition ∧
      ∀ entry : ProviderActionAuditEntry, entry.IsUtc →
        condition entry.row = filters.selects entry := by
  obtain ⟨hfrom, hto⟩ := Bool.and_eq_true_iff.mp h
  obtain ⟨lower, hlower, hlower'⟩ := mapM_utcIso hfrom
  obtain ⟨upper, hupper, hupper'⟩ := mapM_utcIso hto
  refine ⟨filters.condition (lower.map Timestamp.isoformat) (upper.map Timestamp.isoformat), ?_,
    fun entry hentry => ?_⟩
  · rw [queryParts, hlower, ok_bind, hupper, ok_bind]
  · have hlower := @all_isoformat _ _ hlower' (· ≤ entry.completed) (· ≤ entry.row.completed_at)
      fun micros => decide_eq_decide.mpr (hentry.le_row micros)
    have hupper := @all_isoformat _ _ hupper' (entry.completed ≤ ·) (entry.row.completed_at ≤ ·)
      fun micros => decide_eq_decide.mpr (hentry.row_le micros)
    rw [condition, selects, hlower, hupper]
    rfl

theorem mapM_utcIso_eq_error {bound : Option DateTime} (h : bound.all (·.toUtc.isSome) = false) :
    bound.mapM utcIso = .error .overflowError := by
  cases bound with
  | none => cases h
  | some time =>
    have hnone : time.toUtc = none := Option.isSome_eq_false_iff.mp h |> Option.isNone_iff_eq_none.mp
    rw [Option.mapM_some, utcIso, hnone]
    rfl

theorem queryParts_of_not_convertible (h : filters.convertible = false) :
    filters.queryParts = .error .overflowError := by
  cases hfrom : filters.completed_from.all (·.toUtc.isSome) with
  | false => rw [queryParts, mapM_utcIso_eq_error hfrom, error_bind]
  | true =>
    rw [convertible, hfrom, Bool.true_and] at h
    obtain ⟨lower, hlower, -⟩ := mapM_utcIso hfrom
    rw [queryParts, hlower, ok_bind, mapM_utcIso_eq_error h, error_bind]

end Filters

/-! ## Pruning -/

namespace ProviderActionHistory

variable (history : ProviderActionHistory)

/-- Whether the retention begins within the calendar and the bound fits the database. -/
def works (now : Now) : Bool :=
  86400000000 * history.retention_days ≤ now.val && history.max_entries < 2 ^ 63

/-- The oldest moment that the retention covers. -/
def horizon (now : Now) : ℤ := now.val - 86400000000 * history.retention_days

variable {history} {now : Now} {rows pruned : List Row}

theorem retentionCutoff_of_le (h : 86400000000 * history.retention_days ≤ now.val) :
    ∃ cutoff : Now, history.retentionCutoff now = .ok cutoff ∧ (cutoff.val : ℤ) = history.horizon now := by
  refine ⟨_, if_pos h, ?_⟩
  change ((now.val - 86400000000 * history.retention_days : ℕ) : ℤ) = _
  rw [horizon]
  omega

theorem deleteExpired_eq (cutoff : Now) (rows : List Row) :
    deleteExpired cutoff rows = rows.filter fun row => Timestamp.isoformat cutoff ≤ row.completed_at :=
  List.filter_congr fun _ _ => decide_eq_decide.mpr not_lt

theorem bindInt_of_fits {value : ℤ} (h : -2 ^ 63 ≤ value ∧ value < 2 ^ 63) : bindInt value = .ok value :=
  if_pos h

theorem deleteExcess_of_fits (h : history.max_entries < 2 ^ 63) (rows : List Row) :
    history.deleteExcess rows = .ok (rows.filter fun row =>
      decide (row.id ∈ ((Recent.listing Row.completed_at rows).take history.max_entries).map Row.id)) := by
  have hfits : -2 ^ 63 ≤ (history.max_entries : ℤ) ∧ (history.max_entries : ℤ) < 2 ^ 63 := by omega
  have hlimited : limited history.max_entries 0 (select (fun _ => true) rows) =
      (Recent.listing Row.completed_at rows).take history.max_entries := by
    rw [limited, if_neg (by omega), select, List.filter_true]
    rfl
  rw [deleteExcess, bindInt_of_fits hfits, ok_bind, hlimited]

/-- Pruning leaves the most recent rows of those that the retention covers. -/
theorem prune_of_works (h : history.works now = true) (hids : (rows.map Row.id).Nodup) :
    ∃ cutoff pruned, history.retentionCutoff now = .ok cutoff ∧
      (cutoff.val : ℤ) = history.horizon now ∧ history.prune now rows = .ok pruned ∧
        Recent.listing Row.completed_at pruned =
          Recent.recent Row.completed_at history.max_entries (Timestamp.isoformat cutoff) rows := by
  simp only [works, Bool.and_eq_true, decide_eq_true_eq] at h
  obtain ⟨cutoff, hcutoff, hhorizon⟩ := retentionCutoff_of_le h.1
  refine ⟨cutoff, _, hcutoff, hhorizon, ?_, Recent.listing_kept hids _ _⟩
  rw [prune, hcutoff, ok_bind, deleteExcess_of_fits h.2, deleteExpired_eq]

theorem prune_of_not_works (h : history.works now = false) (rows : List Row) :
    history.prune now rows = .error .overflowError := by
  by_cases hcutoff : 86400000000 * history.retention_days ≤ now.val
  · have hfits : 2 ^ 63 ≤ history.max_entries := by simpa [works, hcutoff] using h
    have hbind : bindInt history.max_entries = .error .overflowError := if_neg (by omega)
    rw [prune, retentionCutoff, if_pos hcutoff, ok_bind, deleteExcess, hbind, error_bind]
  · rw [prune, retentionCutoff, if_neg hcutoff, error_bind]

theorem prune_eq_ok (hids : (rows.map Row.id).Nodup) (h : history.prune now rows = .ok pruned) :
    ∃ cutoff, history.retentionCutoff now = .ok cutoff ∧ (cutoff.val : ℤ) = history.horizon now ∧
      Recent.listing Row.completed_at pruned =
        Recent.recent Row.completed_at history.max_entries (Timestamp.isoformat cutoff) rows := by
  cases hworks : history.works now with
  | false =>
    rw [prune_of_not_works hworks] at h
    cases h
  | true =>
    obtain ⟨cutoff, pruned', hcutoff, hhorizon, hprune, hlisting⟩ := prune_of_works hworks hids
    rw [hprune, Except.ok.injEq] at h
    exact ⟨cutoff, hcutoff, hhorizon, h ▸ hlisting⟩

end ProviderActionHistory

/-! ## Runs -/

/-- A call at the lock; a call of `page` makes one of `list` and one of `count`. -/
inductive Call where
  | append (entry : ProviderActionAuditEntry)
  | pruneExpired
  | summary
  | list (filters : Filters) (limit offset : ℤ)
  | exportEntries (filters : Filters)
  | get (entry_id : String)
  | count (filters : Filters)
  | clear
  deriving DecidableEq

/-- A call with the reading of the clock it makes. -/
structure Step where
  now : Now
  call : Call
  deriving DecidableEq

/-- The identifier of the entry that a step appends. -/
def Step.entryId (step : Step) : Option String :=
  match step.call with
  | .append entry => some entry.id
  | _ => none

/-- The clock does not go back; only `prune_expired` reads it before it takes the lock. -/
def Ordered (steps : List Step) : Prop :=
  steps.Pairwise fun earlier later => earlier.now ≤ later.now ∨ later.call = .pruneExpired

/-- No identifier is appended twice. -/
def Distinct (steps : List Step) : Prop := (steps.filterMap Step.entryId).Nodup

theorem Ordered.of_append {steps later : List Step} (h : Ordered (steps ++ later)) : Ordered steps :=
  (List.pairwise_append.mp h).1

theorem Distinct.of_append {steps later : List Step} (h : Distinct (steps ++ later)) :
    Distinct steps := by
  rw [Distinct, List.filterMap_append] at h
  exact h.sublist (List.sublist_append_left _ _)

/-- An outcome without what is returned. -/
def silently {α : Type} (outcome : Except HistoryError α × List Row) :
    Except HistoryError Unit × List Row := (outcome.1.map fun _ => (), outcome.2)

namespace ProviderActionHistory

variable (history : ProviderActionHistory)

/-- Whether a step returns, and the rows after it. -/
def perform (step : Step) (rows : List Row) : Except HistoryError Unit × List Row :=
  match step.call with
  | .append entry => history.append step.now entry rows
  | .pruneExpired => silently (history.pruneExpired step.now rows)
  | .summary => silently (history.summary step.now rows)
  | .list filters limit offset => silently (history.list step.now filters limit offset rows)
  | .exportEntries filters => silently (history.exportEntries step.now filters rows)
  | .get entry_id => silently (history.get step.now entry_id rows)
  | .count filters => silently (history.count step.now filters rows)
  | .clear => clear

/-- The rows after some steps, the table being empty at first. -/
def after (steps : List Step) : List Row :=
  steps.foldl (fun rows step => (history.perform step rows).2) []

/-- The entries that were appended since the last clear, after one more step. -/
def record (log : List ProviderActionAuditEntry) (step : Step) : List ProviderActionAuditEntry :=
  match step.call with
  | .append entry => if history.works step.now then log ++ entry.utc.toList else log
  | .clear => []
  | _ => log

/-- The entries that were appended since the last clear. -/
def appended (steps : List Step) : List ProviderActionAuditEntry := steps.foldl history.record []

/-- The most recent of the entries that were appended since the last clear and are not older
than the retention. -/
def reference (steps : List Step) (now : Now) : List ProviderActionAuditEntry :=
  Recent.recent completed history.max_entries (history.horizon now) (history.appended steps)

/-- The store holds exactly what the reference selects at a moment. -/
def Holds (steps : List Step) (now : Now) (rows : List Row) : Prop :=
  Recent.listing Row.completed_at rows = (history.reference steps now).map row

/-- What is stored are the first rows above a bound that no later reading falls under. -/
def Kept (steps : List Step) (rows : List Row) : Prop :=
  ∃ floor : Now, (floor.val = 0 ∨ ∃ step ∈ steps, history.retentionCutoff step.now = .ok floor) ∧
    Recent.listing Row.completed_at rows = Recent.recent Row.completed_at history.max_entries
      (Timestamp.isoformat floor) ((history.appended steps).map row)

variable {history} {steps : List Step} {step : Step} {now : Now} {rows pruned : List Row}

theorem after_concat (steps : List Step) (step : Step) :
    history.after (steps ++ [step]) = (history.perform step (history.after steps)).2 :=
  List.foldl_concat _ _ _ _

theorem appended_concat (steps : List Step) (step : Step) :
    history.appended (steps ++ [step]) = history.record (history.appended steps) step :=
  List.foldl_concat _ _ _ _

theorem isUtc_of_mem_appended {entry : ProviderActionAuditEntry}
    (h : entry ∈ history.appended steps) : entry.IsUtc := by
  induction steps using List.reverseRecOn with
  | nil => cases h
  | append_singleton steps step ih =>
    rw [appended_concat, record] at h
    split at h
    · split_ifs at h
      · rcases List.mem_append.mp h with h | h
        · exact ih h
        · exact isUtc_of_utc (Option.mem_toList.mp h)
      · exact ih h
    · cases h
    · exact ih h

/-- The identifiers of the log are those of the appended entries, in their order. -/
theorem ids_appended_sublist (steps : List Step) :
    ((history.appended steps).map ProviderActionAuditEntry.id).Sublist
      (steps.filterMap Step.entryId) := by
  induction steps using List.reverseRecOn with
  | nil => exact .slnil
  | append_singleton steps step ih =>
    rw [appended_concat, record, List.filterMap_append]
    have hmore := ih.trans (List.sublist_append_left _ ([step].filterMap Step.entryId))
    split
    · next entry hcall =>
      have hid : [step].filterMap Step.entryId = [entry.id] := by
        simp [Step.entryId, hcall]
      split_ifs
      · rw [List.map_append]
        refine ih.append ?_
        rw [hid]
        cases hutc : entry.utc with
        | none => exact List.nil_sublist _
        | some stored =>
          rw [Option.toList_some, List.map_singleton, id_of_utc hutc]
      · exact hmore
    · exact List.nil_sublist _
    · exact hmore

/-- Text order and the order of instants list the same rows. -/
theorem recent_appended {cutoff : Now} (hcutoff : (cutoff.val : ℤ) = history.horizon now) :
    Recent.recent Row.completed_at history.max_entries (Timestamp.isoformat cutoff)
      ((history.appended steps).map row) = (history.reference steps now).map row := by
  refine Recent.recent_map (fun a ha b hb => ?_) (fun a ha => ?_) _
  · exact (isUtc_of_mem_appended ha).row_le_row (isUtc_of_mem_appended hb)
  · rw [(isUtc_of_mem_appended ha).le_row, hcutoff]

theorem Kept.nodup (h : history.Kept steps rows) (hdistinct : Distinct steps) :
    (rows.map Row.id).Nodup := by
  obtain ⟨floor, -, hlisting⟩ := h
  have hlog : (((history.appended steps).map row).map Row.id).Nodup := by
    rw [List.map_map]
    exact hdistinct.sublist (ids_appended_sublist steps)
  have hrows := (@Recent.listing_perm _ _ _ Row.completed_at rows).map Row.id
  rw [← hrows.nodup_iff, hlisting]
  refine List.Nodup.sublist ((Recent.recent_sublist _ _ _).map Row.id) ?_
  rw [((Recent.listing_perm _).map Row.id).nodup_iff]
  exact hlog

/-! ### One step -/

variable (history) in
/-- A method prunes and answers, or raises and leaves the rows as they were. -/
def Reads {α : Type} (now : Now) (rows : List Row) (outcome : Except HistoryError α × List Row) : Prop :=
  history.prune now rows = .ok outcome.2 ∨ outcome.2 = rows ∧ ∃ error, outcome.1 = .error error

theorem reads_of_error {α : Type} (error : HistoryError) :
    history.Reads now rows ((.error error, rows) : Except HistoryError α × List Row) :=
  .inr ⟨rfl, error, rfl⟩

theorem reads_silently {α : Type} {outcome : Except HistoryError α × List Row}
    (h : history.Reads now rows outcome) : history.Reads now rows (silently outcome) := by
  rcases h with h | ⟨hrows, error, herror⟩
  · exact .inl h
  · refine .inr ⟨hrows, error, ?_⟩
    rw [silently, herror]
    rfl

theorem reads_summary (now : Now) (rows : List Row) :
    history.Reads now rows (history.summary now rows) := by
  unfold summary
  cases hprune : history.prune now rows with
  | error error => exact reads_of_error error
  | ok pruned => exact .inl hprune

theorem reads_transact {α : Type} {block : List Row → Except HistoryError (α × List Row)}
    (h : ∀ pruned result, block pruned = .ok result → result.2 = pruned) :
    history.Reads now rows (transact rows (history.prune now rows >>= block)) := by
  cases hprune : history.prune now rows with
  | error error =>
    rw [error_bind]
    exact reads_of_error error
  | ok pruned =>
    rw [ok_bind]
    cases hblock : block pruned with
    | error error => exact reads_of_error error
    | ok result =>
      refine .inl (hprune.trans (congrArg Except.ok ?_))
      exact (h pruned result hblock).symm

theorem reads_count (now : Now) (filters : Filters) (rows : List Row) :
    history.Reads now rows (history.count now filters rows) := by
  unfold count
  cases filters.queryParts with
  | error error => exact reads_of_error error
  | ok condition => exact reads_transact fun pruned result h => Except.ok.inj h ▸ rfl

theorem reads_get (now : Now) (entry_id : String) (rows : List Row) :
    history.Reads now rows (history.get now entry_id rows) := by
  have hreads := @reads_transact history now rows _
    (fun pruned => .ok (pruned.find? fun row => row.id = entry_id, pruned))
    fun pruned result h => Except.ok.inj h ▸ rfl
  rcases hreads with hprune | ⟨hrows, error, herror⟩
  · exact .inl hprune
  · refine .inr ⟨hrows, error, ?_⟩
    rw [get]
    simp only [herror, Except.bind]

theorem reads_list (now : Now) (filters : Filters) (limit offset : ℤ) (rows : List Row) :
    history.Reads now rows (history.list now filters limit offset rows) := by
  unfold list
  cases filters.queryParts with
  | error error => exact reads_of_error error
  | ok condition =>
    have hreads := @reads_transact history now rows _ (fun pruned => do
      let limit ← bindInt limit
      let offset ← bindInt offset
      .ok (limited limit offset (select condition pruned), pruned)) (by
        intro pruned result h
        simp only [bind_eq_ok] at h
        obtain ⟨limit', -, offset', -, h⟩ := h
        exact Except.ok.inj h ▸ rfl)
    rcases hreads with hprune | ⟨hrows, error, herror⟩
    · exact .inl hprune
    · refine .inr ⟨hrows, error, ?_⟩
      simp only [herror, Except.bind]

theorem retentionCutoff_mono {earlier : Now} {cutoff cutoff' : Now} (h : earlier ≤ now)
    (hearlier : history.retentionCutoff earlier = .ok cutoff)
    (hcutoff : history.retentionCutoff now = .ok cutoff') : cutoff ≤ cutoff' := by
  unfold retentionCutoff at hearlier hcutoff
  split_ifs at hearlier hcutoff
  rw [Except.ok.injEq] at hearlier hcutoff
  rw [← hearlier, ← hcutoff]
  exact Fin.le_def.mpr (Nat.sub_le_sub_right (Fin.le_def.mp h) _)

/-- What is not older than a later reading allows is above the bound. -/
theorem floor_le {floor cutoff : Now}
    (hfloor : floor.val = 0 ∨ ∃ step ∈ steps, history.retentionCutoff step.now = .ok floor)
    (hle : ∀ earlier ∈ steps, earlier.now ≤ now) (hcutoff : history.retentionCutoff now = .ok cutoff) :
    floor ≤ cutoff := by
  rcases hfloor with hzero | ⟨earlier, hearlier, hfloor⟩
  · exact Fin.le_def.mpr (hzero ▸ Nat.zero_le _)
  · exact retentionCutoff_mono (hle earlier hearlier) hfloor hcutoff

theorem Kept.mono {steps' : List Step} (h : history.Kept steps rows) (hsub : steps ⊆ steps')
    (hlog : history.appended steps' = history.appended steps) : history.Kept steps' rows := by
  obtain ⟨floor, hfloor, hlisting⟩ := h
  refine ⟨floor, hfloor.imp_right ?_, hlog ▸ hlisting⟩
  exact fun ⟨earlier, hearlier, hcutoff⟩ => ⟨earlier, hsub hearlier, hcutoff⟩

/-- After pruning rows that are enough for the reference, the store is the reference. -/
theorem holds_of_prune (hids : (rows.map Row.id).Nodup) (hprune : history.prune now rows = .ok pruned)
    (hrecent : ∀ cutoff, history.retentionCutoff now = .ok cutoff →
      Recent.recent Row.completed_at history.max_entries (Timestamp.isoformat cutoff) rows =
        Recent.recent Row.completed_at history.max_entries (Timestamp.isoformat cutoff)
          ((history.appended steps).map row)) :
    history.Holds steps now pruned ∧ ((∃ step ∈ steps, step.now = now) → history.Kept steps pruned) := by
  obtain ⟨cutoff, hcutoff, hhorizon, hlisting⟩ := prune_eq_ok hids hprune
  rw [hrecent cutoff hcutoff] at hlisting
  refine ⟨hlisting.trans (recent_appended hhorizon), ?_⟩
  rintro ⟨step, hstep, rfl⟩
  exact ⟨cutoff, .inr ⟨step, hstep, hcutoff⟩, hlisting⟩

/-- A read leaves the reference of its moment. -/
theorem Kept.prune (h : history.Kept steps rows) (hle : ∀ earlier ∈ steps, earlier.now ≤ now)
    (hdistinct : Distinct steps) (hprune : history.prune now rows = .ok pruned) :
    history.Holds steps now pruned ∧ ((∃ step ∈ steps, step.now = now) → history.Kept steps pruned) := by
  have hids := h.nodup hdistinct
  obtain ⟨floor, hfloor, hlisting⟩ := h
  refine holds_of_prune hids hprune fun cutoff hcutoff => ?_
  exact Recent.recent_of_kept hlisting (Timestamp.isoformat_le_iff.mpr (floor_le hfloor hle hcutoff))

/-- An entry that was not appended before has no row. -/
theorem Kept.fresh {entry : ProviderActionAuditEntry} (h : history.Kept steps rows)
    (hdistinct : Distinct (steps ++ [⟨now, .append entry⟩])) : ∀ row ∈ rows, row.id ≠ entry.id := by
  intro stored hstored heq
  obtain ⟨floor, -, hlisting⟩ := h
  have hmem : stored ∈ (history.appended steps).map row := by
    refine @Recent.mem_of_mem_recent _ _ _ Row.completed_at _ _ history.max_entries
      (Timestamp.isoformat floor) ?_
    rw [← hlisting]
    exact Recent.mem_listing.mpr hstored
  obtain ⟨earlier, hearlier, rfl⟩ := List.mem_map.mp hmem
  have hid : entry.id ∈ steps.filterMap Step.entryId :=
    heq ▸ (ids_appended_sublist steps).subset (List.mem_map_of_mem hearlier)
  rw [Distinct, List.filterMap_append] at hdistinct
  exact List.disjoint_of_nodup_append hdistinct hid List.mem_cons_self

/-- An appended entry is in the reference when the call returns. -/
theorem append_spec {entry : ProviderActionAuditEntry} (h : history.Kept steps rows)
    (hdistinct : Distinct (steps ++ [⟨now, .append entry⟩])) (hle : ∀ earlier ∈ steps, earlier.now ≤ now) :
    let steps' := steps ++ [⟨now, .append entry⟩]
    let outcome := history.append now entry rows
    outcome.2 = rows ∧ (∃ error, outcome.1 = .error error) ∧
        history.appended steps' = history.appended steps ∨
      history.Holds steps' now outcome.2 ∧ history.Kept steps' outcome.2 := by
  intro steps' outcome
  have hlog : history.appended steps' =
      if history.works now then history.appended steps ++ entry.utc.toList else history.appended steps :=
    appended_concat steps _
  cases hutc : entry.utc with
  | none =>
    refine .inl ?_
    simp only [outcome, append, values_of_utc_none hutc]
    refine ⟨trivial, ⟨_, rfl⟩, ?_⟩
    rw [hlog, hutc, Option.toList_none, List.append_nil, ite_self]
  | some stored =>
    have hinsert : Rows.insert (fun a b : Row => decide (a.id = b.id)) stored.row rows =
        some (rows ++ [stored.row]) := by
      refine Rows.insert_eq_some.mpr ⟨fun other hother => decide_eq_false ?_, rfl⟩
      exact fun heq => h.fresh hdistinct other hother (heq.trans (id_of_utc hutc))
    cases hworks : history.works now with
    | false =>
      refine .inl ?_
      simp only [outcome, append, values_of_utc hutc, hinsert, orRaise, ok_bind,
        prune_of_not_works hworks, error_bind, transact]
      refine ⟨trivial, ⟨_, rfl⟩, ?_⟩
      rw [hlog, hworks, if_neg Bool.false_ne_true]
    | true =>
      have hids : ((rows ++ [stored.row]).map Row.id).Nodup := by
        rw [List.map_append, List.nodup_append']
        refine ⟨h.nodup hdistinct.of_append, List.nodup_singleton _, ?_⟩
        intro id hid hid'
        obtain ⟨other, hother, rfl⟩ := List.mem_map.mp hid
        rw [List.map_singleton, List.mem_singleton] at hid'
        exact h.fresh hdistinct other hother (hid'.trans (id_of_utc hutc))
      obtain ⟨-, pruned, -, -, hprune, -⟩ := prune_of_works hworks hids
      have houtcome : outcome = (.ok (), pruned) := by
        simp only [outcome, append, values_of_utc hutc, hinsert, orRaise, ok_bind, hprune, transact]
      obtain ⟨floor, hfloor, hlisting⟩ := h
      obtain ⟨hholds, hkept⟩ := @holds_of_prune _ steps' _ _ _ hids hprune fun cutoff hcutoff => by
        rw [hlog, hworks, if_pos rfl, hutc, Option.toList_some, List.map_append]
        exact Recent.recent_concat_of_kept hlisting
          (Timestamp.isoformat_le_iff.mpr (floor_le hfloor hle hcutoff)) _
      rw [houtcome]
      exact .inr ⟨hholds, hkept ⟨_, List.mem_append_right _ List.mem_cons_self, rfl⟩⟩

/-- An expiry with an older reading of the clock finds that the rows have expired before. -/
theorem pruneExpired_spec (h : history.Kept steps rows) :
    let steps' := steps ++ [⟨now, .pruneExpired⟩]
    let outcome := history.pruneExpired now rows
    history.Kept steps' outcome.2 ∧
      ((∀ earlier ∈ steps, earlier.now ≤ now) → (∃ result, outcome.1 = .ok result) →
        history.Holds steps' now outcome.2) := by
  intro steps' outcome
  have hlog : history.appended steps' = history.appended steps := appended_concat steps _
  by_cases hcutoff : 86400000000 * history.retention_days ≤ now.val
  · obtain ⟨cutoff, hcutoff, hhorizon⟩ := retentionCutoff_of_le hcutoff
    have houtcome : outcome.2 = deleteExpired cutoff rows := by
      simp only [outcome, pruneExpired, hcutoff]
    obtain ⟨floor, hfloor, hlisting⟩ := h
    have hlater : Recent.listing Row.completed_at outcome.2 =
        Recent.recent Row.completed_at history.max_entries
          (max (Timestamp.isoformat floor) (Timestamp.isoformat cutoff))
            ((history.appended steps').map row) := by
      rw [houtcome, deleteExpired_eq, Recent.listing_filter, hlisting, Recent.filter_recent, hlog]
    refine ⟨?_, fun hle _ => ?_⟩
    · rcases le_total (Timestamp.isoformat floor) (Timestamp.isoformat cutoff) with hle | hle
      · rw [max_eq_right hle] at hlater
        exact ⟨cutoff, .inr ⟨_, List.mem_append_right _ List.mem_cons_self, hcutoff⟩, hlater⟩
      · rw [max_eq_left hle] at hlater
        refine ⟨floor, hfloor.imp_right ?_, hlater⟩
        exact fun ⟨earlier, hearlier, heq⟩ => ⟨earlier, List.mem_append_left _ hearlier, heq⟩
    · rw [max_eq_right (Timestamp.isoformat_le_iff.mpr (floor_le hfloor hle hcutoff))] at hlater
      exact hlater.trans (recent_appended hhorizon)
  · have houtcome : outcome = (.error .overflowError, rows) := by
      simp only [outcome, pruneExpired, retentionCutoff, if_neg hcutoff]
    rw [houtcome]
    refine ⟨h.mono (List.subset_append_left _ _) hlog, fun _ ⟨result, hresult⟩ => ?_⟩
    cases hresult

/-- The other calls are reads. -/
theorem reads_perform (happend : ∀ entry, step.call ≠ .append entry) (hprune : step.call ≠ .pruneExpired)
    (hclear : step.call ≠ .clear) (rows : List Row) :
    history.Reads step.now rows (history.perform step rows) := by
  unfold perform
  split
  · next entry h => exact absurd h (happend entry)
  · next h => exact absurd h hprune
  · exact reads_silently (reads_summary _ _)
  · exact reads_silently (reads_list _ _ _ _ _)
  · exact reads_silently (reads_list _ _ _ _ _)
  · exact reads_silently (reads_get _ _ _)
  · exact reads_silently (reads_count _ _ _)
  · next h => exact absurd h hclear

/-- What one step keeps, and what the store holds when it returns. -/
theorem perform_spec (h : history.Kept steps rows) (hordered : Ordered (steps ++ [step]))
    (hdistinct : Distinct (steps ++ [step])) :
    history.Kept (steps ++ [step]) (history.perform step rows).2 ∧
      ((∀ earlier ∈ steps, earlier.now ≤ step.now) → step.call ≠ .clear →
        (history.perform step rows).1 = .ok () →
          history.Holds (steps ++ [step]) step.now (history.perform step rows).2) := by
  have hbefore : step.call ≠ .pruneExpired → ∀ earlier ∈ steps, earlier.now ≤ step.now := by
    intro hcall earlier hearlier
    have hlater := (List.pairwise_append.mp hordered).2.2 earlier hearlier step List.mem_cons_self
    exact hlater.resolve_right hcall
  obtain ⟨now, call⟩ := step
  by_cases happend : ∃ entry, call = .append entry
  · obtain ⟨entry, rfl⟩ := happend
    have hperform : history.perform ⟨now, .append entry⟩ rows = history.append now entry rows := by
      rw [perform]
    rw [hperform]
    rcases append_spec h hdistinct (hbefore nofun) with ⟨hrows, ⟨error, herror⟩, hlog⟩ | ⟨hholds, hkept⟩
    · refine ⟨?_, fun _ _ hok => ?_⟩
      · rw [hrows]
        exact h.mono (List.subset_append_left _ _) hlog
      · rw [herror] at hok
        cases hok
    · exact ⟨hkept, fun _ _ _ => hholds⟩
  by_cases hexpired : call = .pruneExpired
  · subst hexpired
    obtain ⟨hkept, hholds⟩ := @pruneExpired_spec history steps now rows h
    have hperform : history.perform ⟨now, .pruneExpired⟩ rows =
        silently (history.pruneExpired now rows) := by
      rw [perform]
    rw [hperform, silently]
    refine ⟨hkept, fun hle _ hok => hholds hle ?_⟩
    cases hresult : (history.pruneExpired now rows).1 with
    | error error =>
      rw [hresult] at hok
      cases hok
    | ok result => exact ⟨result, rfl⟩
  by_cases hclear : call = .clear
  · subst hclear
    refine ⟨?_, fun _ hne => absurd rfl hne⟩
    obtain ⟨floor, hfloor, -⟩ := h
    refine ⟨floor, hfloor.imp_right ?_, ?_⟩
    · exact fun ⟨earlier, hearlier, heq⟩ => ⟨earlier, List.mem_append_left _ hearlier, heq⟩
    · rw [appended_concat]
      exact List.take_nil.symm
  · have hlog : history.appended (steps ++ [⟨now, call⟩]) = history.appended steps := by
      rw [appended_concat, record]
      split
      · next entry heq => exact absurd ⟨entry, heq⟩ happend
      · next heq => exact absurd heq hclear
      · rfl
    have hmono : history.Kept (steps ++ [⟨now, call⟩]) rows := h.mono (List.subset_append_left _ _) hlog
    have hle : ∀ earlier ∈ steps ++ [⟨now, call⟩], earlier.now ≤ now := by
      intro earlier hearlier
      rcases List.mem_append.mp hearlier with hearlier | hearlier
      · exact hbefore hexpired earlier hearlier
      · rw [List.mem_singleton.mp hearlier]
    have hreads := @reads_perform history ⟨now, call⟩ (fun entry heq => happend ⟨entry, heq⟩) hexpired
      hclear rows
    rcases hreads with hprune | ⟨hrows, error, herror⟩
    · obtain ⟨hholds, hkept⟩ := hmono.prune hle hdistinct hprune
      exact ⟨hkept ⟨_, List.mem_append_right _ List.mem_cons_self, rfl⟩, fun _ _ _ => hholds⟩
    · refine ⟨?_, fun _ _ hok => ?_⟩
      · rw [hrows]
        exact hmono
      · rw [herror] at hok
        cases hok

/-- What a run keeps. -/
theorem kept_after (steps : List Step) (hordered : Ordered steps) (hdistinct : Distinct steps) :
    history.Kept steps (history.after steps) := by
  induction steps using List.reverseRecOn with
  | nil => exact ⟨⟨0, by decide⟩, .inl rfl, List.take_nil.symm⟩
  | append_singleton steps step ih =>
    rw [after_concat]
    exact (perform_spec (ih hordered.of_append hdistinct.of_append) hordered hdistinct).1

end ProviderActionHistory

end AtlasOS.Actions
