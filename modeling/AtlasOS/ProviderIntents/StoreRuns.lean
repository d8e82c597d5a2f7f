import AtlasOS.ProviderIntents.CoordinateEdits
import AtlasOS.ProviderIntents.Runtime

/-!
# Histories of the provider-intent store

A history is any sequence of calls of the four writing methods, with their clock
readings, their database errors and what their injectors raise. Every store that a
history reaches is accepted by `validate_all`, its series only grow, and an
incarnation that was superseded stays so.
-/

namespace AtlasOS.ProviderIntents

open Sqlite Sqlite.Transaction

variable {py : Python} {pd : Pydantic} {db db' : Database}

/-! ## Calls -/

/-- The series of incarnations that a call may begin. -/
def Command.boundIds : Command py → Set String
  | .mutate c _ _ _ => {c.intent_id py}
  | .put c _ => {c.intent_id py}
  | .supersede _ _ | .importLegacy _ _ => ∅

/-- The series of legacy evidence that a call may extend. -/
def Command.legacyIds : Command py → Set String
  | .importLegacy c _ => { intent_id | ∃ e ∈ c.entries, e.intent_id py = intent_id }
  | .mutate _ _ _ _ | .put _ _ | .supersede _ _ => ∅

/-- A history of calls, each with the database errors that its statements meet. -/
abbrev Calls (py : Python) := List (Command py × List Bool)

/-- The series of incarnations of a history. -/
def Calls.boundIds (calls : Calls py) : Set String :=
  { intent_id | ∃ call ∈ calls, intent_id ∈ call.1.boundIds }

/-- The series of legacy evidence of a history. -/
def Calls.legacyIds (calls : Calls py) : Set String :=
  { intent_id | ∃ call ∈ calls, intent_id ∈ call.1.legacyIds }

section Blocks

variable {bound unbound : Set String}

/-- A call commits a sequence of edits or changes nothing. -/
theorem spec_block (command : Command py) (hbound : command.boundIds ⊆ bound)
    (hunbound : command.legacyIds ⊆ unbound) :
    Spec (command.block pd) db db (Committed py pd bound unbound db) fun _ d => d = db := by
  have hreturn {α : Type} {f : α → Answer} {block : Store α}
      (h : Spec block db db (Committed py pd bound unbound db) fun _ d => d = db) :
      Spec (do return f (← block)) db db (Committed py pd bound unbound db) fun _ d => d = db :=
    Spec.bind (h.imp (fun _ _ _ hcommitted => Spec.pure hcommitted) fun _ _ hd => hd)
  cases command with
  | mutate c injector observed now => exact hreturn (spec_mutateCoordinate (hbound rfl))
  | put c now => exact hreturn (spec_put (hbound rfl))
  | supersede c now => exact hreturn spec_supersede
  | importLegacy c now =>
    exact hreturn (spec_importLegacyPolicy fun e he => hunbound ⟨e, he, rfl⟩)

/-- A call that raises changes nothing. -/
theorem perform_error {command : Command py} {faults : List Bool} {e : StoreError}
    (h : command.perform pd faults db = (.error e, db')) : db' = db :=
  (Spec.withConnection (spec_block command (Set.subset_univ _) (Set.subset_univ _)) faults).2 _ _ h

/-- A call leaves a sequence of edits. -/
theorem perform_edits (command : Command py) (faults : List Bool)
    (hbound : command.boundIds ⊆ bound) (hunbound : command.legacyIds ⊆ unbound) :
    Edits py pd bound unbound db (command.perform pd faults db).2 := by
  cases hresult : command.perform pd faults db with
  | mk result db' =>
    cases result with
    | ok answer =>
      obtain ⟨_, -, hedits⟩ :=
        (Spec.withConnection (spec_block command hbound hunbound) faults).1 _ _ hresult
      exact hedits
    | error e =>
      rw [perform_error hresult]

/-- A history leaves a sequence of edits. -/
theorem runHistory_edits {calls : Calls py} (hbound : calls.boundIds ⊆ bound)
    (hunbound : calls.legacyIds ⊆ unbound) :
    Edits py pd bound unbound db (runHistory pd db calls) := by
  induction calls generalizing db with
  | nil => exact .refl
  | cons call calls ih =>
    have hfirst : Edits py pd bound unbound db (call.1.perform pd call.2 db).2 :=
      perform_edits call.1 call.2 (fun id hid => hbound ⟨call, List.mem_cons_self, hid⟩)
        fun id hid => hunbound ⟨call, List.mem_cons_self, hid⟩
    refine hfirst.trans (ih ?_ ?_)
    · rintro id ⟨c, hc, hid⟩
      exact hbound ⟨c, List.mem_cons_of_mem _ hc, hid⟩
    · rintro id ⟨c, hc, hid⟩
      exact hunbound ⟨c, List.mem_cons_of_mem _ hc, hid⟩

theorem runHistory_append (calls calls' : Calls py) :
    runHistory pd db (calls ++ calls') = runHistory pd (runHistory pd db calls) calls' := by
  induction calls generalizing db with
  | nil => rfl
  | cons call calls ih => exact ih

end Blocks

/-! ## Series over a history -/

section Series

variable {bound unbound : Set String} {intent_id : String} {history : List ProviderIntentRecord}

/-- A mutation extends the history of its series and no other. -/
theorem History.extended (h : History py pd db intent_id history) {m : Mutation}
    {old : List ProviderIntentRecord} (hold : History py pd db m.record.intent_id old)
    (hcontinues : m.Continues py old) (hunique : db.Unique) (hp : Persisted py pd m db db') :
    ∃ added, History py pd db' intent_id (history ++ added) ∧ (history ≠ old → added = []) := by
  by_cases hid : m.record.intent_id = intent_id
  · subst hid
    refine ⟨[m.record], ?_, fun hne => absurd (h.unique hold) hne⟩
    rw [h.unique hold]
    exact hold.persist hunique hp rfl hcontinues.version hcontinues.valid hcontinues.event
  · refine ⟨[], ?_, fun _ => rfl⟩
    rw [List.append_nil]
    exact h.persist_of_ne hp hid

/-- An edit extends a series, unless it was superseded. -/
theorem Edit.extends_history (hedit : Edit py pd bound unbound db db') (hdb : Kept py pd bound db)
    (hdisjoint : Disjoint bound unbound) (h : History py pd db intent_id history) :
    ∃ added, History py pd db' intent_id (history ++ added) ∧
      ∀ last, history.getLast? = some last → last.lifecycle = .superseded → added = [] := by
  have hunique := hdb.accepted.unique
  have hframe {db' : Database} (hsame : SameSeries db db') :
      ∃ added, History py pd db' intent_id (history ++ added) ∧
        ∀ last, history.getLast? = some last → last.lifecycle = .superseded → added = [] :=
    ⟨[], by rw [List.append_nil]; exact hsame.history.mpr h, fun _ _ _ => rfl⟩
  cases hedit with
  | @create m db₁ hnew _ hactive hcontinues hpersisted _ =>
    obtain ⟨added, hadded, hnone⟩ := h.extended hnew hcontinues hunique hpersisted
    have hsame : SameSeries db₁ { db₁ with active := db.active ++ [activeRow py m.record] } :=
      ⟨rfl, rfl, rfl⟩
    exact ⟨added, hsame.history.mpr hadded,
      fun last hlast _ => hnone fun hnil => by rw [hnil] at hlast; cases hlast⟩
  | @update m previous old db₁ hfollows _ hpersisted =>
    obtain ⟨added, hadded, hnone⟩ := h.extended hfollows.chain hfollows.continues hunique hpersisted
    have hsame : SameSeries db₁ { db₁ with active := withVersion m.record db.active } :=
      ⟨rfl, rfl, rfl⟩
    refine ⟨added, hsame.history.mpr hadded, fun last hlast hended => hnone fun hold => ?_⟩
    rw [hold, hfollows.last, Option.some.injEq] at hlast
    rw [← hlast, hfollows.active] at hended
    cases hended
  | @supersede m previous old db₁ hfollows _ hpersisted =>
    obtain ⟨added, hadded, hnone⟩ := h.extended hfollows.chain hfollows.continues hunique hpersisted
    have hsame : SameSeries db₁
        { db₁ with active := withoutSeries m.record.intent_id db.active } := ⟨rfl, rfl, rfl⟩
    refine ⟨added, hsame.history.mpr hadded, fun last hlast hended => hnone fun hold => ?_⟩
    rw [hold, hfollows.last, Option.some.injEq] at hlast
    rw [← hlast, hfollows.active] at hended
    cases hended
  | @legacy m old _ hold hunbound _ hcontinues hpersisted =>
    obtain ⟨added, hadded, hnone⟩ := h.extended hold hcontinues hunique hpersisted
    refine ⟨added, hadded, fun last hlast hended => hnone fun heq => ?_⟩
    rw [heq] at hlast
    have hbound := hdb.bound _ _ hold last (List.mem_of_getLast? hlast) (by rw [hended]; decide)
    exact Set.disjoint_left.mp hdisjoint hbound hunbound
  | @marker row _ _ =>
    exact ⟨[], by rw [List.append_nil]; exact h.add_request row, fun _ _ _ => rfl⟩
  | operation _ _ _ _ => exact hframe ⟨rfl, rfl, rfl⟩

/-- A sequence of edits extends a series, unless it was superseded. -/
theorem Edits.extends_history (hedits : Edits py pd bound unbound db db')
    (hdb : Kept py pd bound db) (hdisjoint : Disjoint bound unbound)
    (h : History py pd db intent_id history) :
    ∃ added, History py pd db' intent_id (history ++ added) ∧
      ∀ last, history.getLast? = some last → last.lifecycle = .superseded → added = [] := by
  induction hedits with
  | refl => exact ⟨[], by rw [List.append_nil]; exact h, fun _ _ _ => rfl⟩
  | tail hedits hedit ih =>
    obtain ⟨added, hadded, hended⟩ := ih
    obtain ⟨more, hmore, hended'⟩ :=
      hedit.extends_history (Edits.kept hedits hdb hdisjoint) hdisjoint hadded
    refine ⟨added ++ more, by rw [← List.append_assoc]; exact hmore, fun last hlast hlifecycle => ?_⟩
    have hnil := hended last hlast hlifecycle
    rw [hnil, List.append_nil] at hended'
    rw [hnil, hended' last hlast hlifecycle, List.append_nil]

end Series

/-! ## Reachable stores -/

/-- A new store is accepted and has no series. -/
theorem created_kept (bound : Set String) : Kept py pd bound Database.created := by
  have hempty {intent_id : String} {history : List ProviderIntentRecord}
      (h : History py pd Database.created intent_id history) : history = [] :=
    h.eq_nil_iff.mpr fun row hrow => absurd hrow List.not_mem_nil
  have hseries (intent_id : String) : History py pd Database.created intent_id [] := by
    refine ⟨?_, rfl, ?_⟩
    · rw [show Database.created.seriesRows intent_id = [] from Rows.orderBy_nil _]
      exact List.Forall₂.nil
    · rw [show Database.created.evidenceRows intent_id = [] from Rows.orderBy_nil _]
      exact List.Forall₂.nil
  refine ⟨⟨⟨.nil, .nil, .nil, .nil, .nil, .nil⟩, rfl, ⟨fun intent_id => ⟨[], hseries intent_id⟩,
    fun row hrow => absurd hrow List.not_mem_nil⟩, fun row => ?_,
    ⟨fun _ hrow => absurd hrow List.not_mem_nil, fun _ hrow => absurd hrow List.not_mem_nil⟩⟩,
    fun intent_id history h record hmem => ?_⟩
  · constructor
    · exact fun hrow => absurd hrow List.not_mem_nil
    · rintro ⟨record, ⟨history, hhistory, hlast⟩, -, -⟩
      rw [hempty hhistory] at hlast
      cases hlast
  · rw [hempty h] at hmem
    cases hmem

/-- Every store that a history reaches is accepted, when no series of legacy evidence of the
history has the identity of a series of incarnations. -/
theorem reachable_kept {calls : Calls py} (hseparate : Disjoint calls.boundIds calls.legacyIds) :
    Kept py pd calls.boundIds (runHistory pd Database.created calls) :=
  Edits.kept (runHistory_edits subset_rfl subset_rfl) (created_kept _) hseparate

theorem Calls.boundIds_append (calls calls' : Calls py) :
    Calls.boundIds (calls ++ calls') = calls.boundIds ∪ calls'.boundIds := by
  ext intent_id
  simp [boundIds, or_and_right, exists_or]

theorem Calls.legacyIds_append (calls calls' : Calls py) :
    Calls.legacyIds (calls ++ calls') = calls.legacyIds ∪ calls'.legacyIds := by
  ext intent_id
  simp [legacyIds, or_and_right, exists_or]

/-- After any history the store is accepted, a coordinate has at most one active incarnation, a
call that raises changes nothing, and every series is a chain of versions that later calls only
extend, and not at all once it was superseded. -/
theorem reachable_store {calls calls' : Calls py}
    (hseparate : Disjoint (Calls.boundIds (calls ++ calls')) (Calls.legacyIds (calls ++ calls'))) :
    validateAll py pd (runHistory pd Database.created calls) = .ok () ∧
    (∀ record record', Current py pd (runHistory pd Database.created calls) record →
      Current py pd (runHistory pd Database.created calls) record' →
      record.lifecycle = .active → record'.lifecycle = .active →
      coordinate record = coordinate record' → record = record') ∧
    (∀ intent_id, ∃ history,
      History py pd (runHistory pd Database.created calls) intent_id history) ∧
    (∀ intent_id history,
      History py pd (runHistory pd Database.created calls) intent_id history →
        history.map (·.record_version) = versions history.length ∧
        ∃ added, History py pd (runHistory pd Database.created (calls ++ calls')) intent_id
            (history ++ added) ∧
          ∀ last, history.getLast? = some last → last.lifecycle = .superseded → added = []) ∧
    ∀ (command : Command py) faults e db,
      command.perform pd faults (runHistory pd Database.created calls) = (.error e, db) →
        db = runHistory pd Database.created calls := by
  rw [Calls.boundIds_append, Calls.legacyIds_append] at hseparate
  have hkept : Kept py pd (calls.boundIds ∪ calls'.boundIds) (runHistory pd Database.created calls) :=
    Edits.kept (runHistory_edits Set.subset_union_left Set.subset_union_left) (created_kept _)
      hseparate
  refine ⟨validateAll_eq_ok.mpr hkept.accepted, ?_, hkept.accepted.series.series, ?_,
    fun command faults e db h => perform_error h⟩
  · intro record record' hrecord hrecord' hactive hactive' hcoordinate
    simp only [coordinate, Prod.mk.injEq] at hcoordinate
    exact hkept.accepted.active.eq_of_coordinate hkept.accepted.unique.active
      ⟨hrecord, hactive⟩ ⟨hrecord', hactive'⟩ hcoordinate.1 hcoordinate.2.1 hcoordinate.2.2.1
  · intro intent_id history hhistory
    refine ⟨hhistory.chain, ?_⟩
    rw [runHistory_append]
    have hedits : Edits py pd (calls.boundIds ∪ calls'.boundIds) (calls.legacyIds ∪ calls'.legacyIds)
        (runHistory pd Database.created calls)
        (runHistory pd (runHistory pd Database.created calls) calls') :=
      runHistory_edits Set.subset_union_right Set.subset_union_right
    exact hedits.extends_history hkept hseparate hhistory

/-- A series that begins and ends. -/
def Calls.plain : Calls Python.plain :=
  [(.put .plain (.utc ⟨0, zero_lt_MAX_MICROS⟩), []),
    (.supersede .plain (.utc ⟨1, one_lt_MAX_MICROS⟩), [])]

theorem Calls.plain_legacyIds : Calls.plain.legacyIds = ∅ := by
  simp [legacyIds, plain, Command.legacyIds]

theorem reachable_store_plain :
    validateAll Python.plain Pydantic.plain
      (runHistory Pydantic.plain Database.created Calls.plain) = .ok () ∧
    ∀ intent_id, ∃ history, History Python.plain Pydantic.plain
      (runHistory Pydantic.plain Database.created Calls.plain) intent_id history := by
  have hstore := @reachable_store Python.plain Pydantic.plain Calls.plain []
    (by rw [List.append_nil, Calls.plain_legacyIds]; exact disjoint_bot_right)
  exact ⟨hstore.1, hstore.2.2.1⟩

end AtlasOS.ProviderIntents
