import AtlasOS.Acknowledgement.StoreInvariant

/-!
# Histories of the receipt store

A history is any sequence of calls, with the database errors of their statements
and crashes between the two connections of an append. In a history whose appends
are consistent every journal is accepted, and the journal only grows.
-/

namespace AtlasOS.Acknowledgement

open Sqlite Sqlite.Transaction

variable {pf : Platform} {pd : Pydantic pf} {bounds : Bounds} {db db' : Database}
  {args : AppendArgs} {p : Parsed}

/-! ## Specifications of the connections -/

/-- A connection commits what its block leaves or changes nothing. -/
theorem spec_connect {α : Type} {block : Store α} {Q : α → Database → Prop}
    (h : checkIntegrity pd bounds db = .ok () →
      Spec block db db (fun a d w => d = db ∧ Q a w) fun _ d => d = db) :
    Spec (connect pd bounds block) db db (fun a d w => d = w ∧ Q a w) fun _ d => d = db := by
  refine Spec.tryCatch (Spec.bind (Spec.beginImmediate (fun w => Spec.throw rfl) ?_))
  refine Spec.bind (Spec.inspect (fun w => Spec.throw rfl) (fun e _ w => Spec.throw rfl) ?_)
  intro _ haccepted
  refine Spec.bind ((h haccepted).imp ?_ ?_)
  · rintro a d w ⟨rfl, hQ⟩
    exact Spec.bind (Spec.commit (fun w => Spec.throw rfl) (Spec.pure ⟨rfl, hQ⟩))
  · rintro e d rfl w
    exact Spec.throw rfl

/-- Every connection to a corrupt journal fails. -/
theorem connect_corrupt {α : Type} {block : Store α} {e : Raised}
    (h : checkIntegrity pd bounds db = .error e) :
    connect pd bounds block ⟨db, db, []⟩ = (.error (.store .storeCorrupt), ⟨db, db, []⟩) := by
  have hinspect : inspect (checkIntegrity pd bounds) ⟨db, db, []⟩ =
      (.error (.store .storeCorrupt), ⟨db, db, []⟩) := by
    rw [inspect, bind_apply, select_apply, h, checkIntegrity_eq_error h]
    rfl
  have hblock : (do
      beginImmediate
      inspect (checkIntegrity pd bounds)
      let a ← block
      commit
      return a : Store α) ⟨db, db, []⟩ = (.error (.store .storeCorrupt), ⟨db, db, []⟩) := by
    rw [bind_apply, beginImmediate_apply]
    dsimp only
    rw [bind_apply, hinspect]
  rw [connect, tryCatch_apply_of_error hblock]
  rfl

/-- What a connection that commits all or nothing leaves. -/
theorem spec_reading {α : Type} {block : Store α}
    (h : Spec block db db (fun _ d w => d = db ∧ w = db) fun _ d => d = db) :
    Spec (connect pd bounds block) db db (fun _ d w => d = w ∧ w = db) fun _ d => d = db :=
  spec_connect fun _ => h

/-- What `_reserve_attempt` leaves. -/
inductive ReserveOutcome (pd : Pydantic pf) (bounds : Bounds) (p : Parsed) (args : AppendArgs)
    (db : Database) : Option AcknowledgementV1 → Database → Prop
  | existing {record : AcknowledgementV1}
      (hanswer : reservedAnswer pd bounds p args db = .ok (some record)) :
      ReserveOutcome pd bounds p args db (some record) db
  | reserved (hfree : reservedRows p db = []) (hrevalidated : args.revalidate_reservation = none)
      (hquota : quota bounds p db = .ok ())
      (hfresh : ∀ a ∈ db.reservations, a.clash (proposed p args) = false) :
      ReserveOutcome pd bounds p args db none (db.addReservation (proposed p args))

theorem reservedAnswer_eq_none (h : reservedAnswer pd bounds p args db = .ok none) :
    reservedRows p db = [] := by
  unfold reservedAnswer at h
  split at h
  · assumption
  · next row hrow =>
    obtain ⟨-, -, h⟩ := (demand_bind_eq_ok.trans (and_congr_right fun _ => demand_bind_eq_ok)).mp h
    split at h
    · cases h
    · next existing _ =>
      cases hdecode : decodeRecord pd bounds p.record.operator_id existing (some row) with
      | ok record =>
        rw [hdecode] at h
        cases h
      | error e =>
        rw [hdecode] at h
        cases h
  · cases h

theorem callback_eq_ok {raised : Option Raised} : callback raised = .ok () ↔ raised = none := by
  cases raised <;> simp [callback]

theorem insertReservation_eq_ok {row : ReservationRow} :
    db.insertReservation row = .ok db' ↔
      (∀ a ∈ db.reservations, a.clash row = false) ∧ db' = db.addReservation row := by
  unfold Database.insertReservation
  cases hinsert : Rows.insert ReservationRow.clash row db.reservations with
  | none =>
    have hnot (h : ∀ a ∈ db.reservations, a.clash row = false) : False := by
      rw [Rows.insert_eq_some.mpr ⟨h, rfl⟩] at hinsert
      cases hinsert
    exact ⟨nofun, fun h => (hnot h.1).elim⟩
  | some rows =>
    obtain ⟨hfresh, rfl⟩ := Rows.insert_eq_some.mp hinsert
    rw [Except.ok.injEq, eq_comm]
    exact ⟨fun h => ⟨hfresh, h⟩, And.right⟩

theorem spec_reserveAttempt :
    Spec (reserveAttempt pd bounds p args) db db
      (fun answer d w => d = w ∧ ReserveOutcome pd bounds p args db answer w) fun _ d => d = db := by
  refine spec_connect fun _ => ?_
  unfold reserveBlock
  refine Spec.bind (Spec.inspect rfl (fun _ _ => rfl) fun answer hanswer => ?_)
  cases answer with
  | some existing => exact Spec.pure ⟨rfl, .existing hanswer⟩
  | none =>
    refine Spec.bind (Spec.lift (fun _ hcallback => ?_) fun _ _ => rfl)
    refine Spec.bind (Spec.inspect rfl (fun _ _ => rfl) fun _ hquota => ?_)
    refine Spec.bind (Spec.execute rfl (fun _ _ => rfl) fun w hinsert => Spec.pure ⟨rfl, ?_⟩)
    obtain ⟨hfresh, rfl⟩ := insertReservation_eq_ok.mp hinsert
    exact .reserved (reservedAnswer_eq_none hanswer) (callback_eq_ok.mp hcallback) hquota hfresh

/-- What `_append_record` leaves. -/
inductive AppendOutcome (pd : Pydantic pf) (bounds : Bounds) (p : Parsed) (args : AppendArgs)
    (db : Database) : AcknowledgementV1 × Bool → Database → Prop
  | existing {record : AcknowledgementV1}
      (hanswer : appendAnswer pd bounds p db = .ok (some record)) :
      AppendOutcome pd bounds p args db (record, false) db
  | appended (hanswer : appendAnswer pd bounds p db = .ok none)
      (hrevalidated : args.revalidate_receipt = none)
      (hfresh : ∀ a ∈ db.receipts, a.clash (receiptRow pd p) = false) :
      AppendOutcome pd bounds p args db (p.record, true) (db.addReceipt (receiptRow pd p))

theorem insertReceipt_eq_ok {row : ReceiptRow} (h : db.insertReceipt row = .ok db') :
    (∀ a ∈ db.receipts, a.clash row = false) ∧ db' = db.addReceipt row := by
  unfold Database.insertReceipt at h
  split at h
  · split at h
    · next hinsert =>
      obtain ⟨hfresh, rfl⟩ := Rows.insert_eq_some.mp hinsert
      rw [Except.ok.injEq] at h
      exact ⟨hfresh, h.symm⟩
    · cases h
  · cases h

theorem spec_appendRecord :
    Spec (appendRecord pd bounds p args) db db
      (fun answer d w => d = w ∧ AppendOutcome pd bounds p args db answer w) fun _ d => d = db := by
  refine spec_connect fun _ => ?_
  unfold appendBlock
  refine Spec.bind (Spec.inspect rfl (fun _ _ => rfl) fun answer hanswer => ?_)
  cases answer with
  | some existing => exact Spec.pure ⟨rfl, .existing hanswer⟩
  | none =>
    refine Spec.bind (Spec.lift (fun _ hcallback => ?_) fun _ _ => rfl)
    refine Spec.bind (Spec.execute rfl (fun _ _ => rfl) fun w hinsert => Spec.pure ⟨rfl, ?_⟩)
    obtain ⟨hfresh, rfl⟩ := insertReceipt_eq_ok hinsert
    exact .appended hanswer (callback_eq_ok.mp hcallback) hfresh

/-- What `mark_indeterminate` leaves. -/
inductive MarkOutcome (pd : Pydantic pf) (bounds : Bounds)
    (operator_id admission_id audit_json : String) (db : Database) : Database → Prop
  | marked : MarkOutcome pd bounds operator_id admission_id audit_json db db
  | mark {row : AttemptRow} (hfits : fits bounds audit_json = true)
      (hanswer : markAnswer pd bounds operator_id admission_id audit_json db = .ok (some row)) :
      MarkOutcome pd bounds operator_id admission_id audit_json db (db.addAttempt row)

/-- The mark that is inserted, and what was found before. -/
theorem markAnswer_eq_some {operator_id admission_id audit_json : String} {row : AttemptRow}
    (h : markAnswer pd bounds operator_id admission_id audit_json db = .ok (some row)) :
    ∃ reservation audit, db.reservation (operator_id, admission_id) = some reservation ∧
      pd.loadAudit audit_json = .ok audit ∧ validateTerminalAudit audit reservation = .ok () ∧
      db.receipt (operator_id, admission_id) = none ∧
      db.attempted (operator_id, admission_id) = false ∧
      row = ⟨operator_id, admission_id, audit.audit_fingerprint.value, audit_json⟩ := by
  unfold markAnswer at h
  cases hfound : db.reservation (operator_id, admission_id) with
  | none =>
    rw [hfound] at h
    cases h
  | some reservation =>
    rw [hfound] at h
    simp only [bind_eq_ok, validateReservation_eq_ok, checked_eq_ok, demand_eq_ok, exists_unit,
      Option.isNone_iff_eq_none] at h
    obtain ⟨_, -, audit, haudit, hterminal, hreceipt, h⟩ := h
    refine ⟨reservation, audit, rfl, haudit, hterminal, hreceipt, ?_⟩
    cases hattempted : db.attempted (operator_id, admission_id) with
    | true => simp [hattempted] at h
    | false =>
      simp only [hattempted, Bool.false_eq_true, if_false, pure_eq_ok, Except.ok.injEq,
        Option.some.injEq] at h
      exact ⟨rfl, h.symm⟩

theorem insertAttempt_eq_ok {row : AttemptRow} (hunmarked : db.attempted row.key = false)
    (h : db.insertAttempt row = .ok db') : db' = db.addAttempt row := by
  unfold Database.insertAttempt at h
  split at h
  · have hfresh (a : AttemptRow) (ha : a ∈ db.attempts) : a.clash row = false := by
      have hne := attempted_eq_false.mp hunmarked a ha
      simp [AttemptRow.clash, hne]
    rw [Rows.insert_eq_some.mpr ⟨hfresh, rfl⟩, Except.ok.injEq] at h
    exact h.symm
  · cases h

theorem spec_markIndeterminate {operator_id admission_id audit_json : String} :
    Spec (markIndeterminate pd bounds operator_id admission_id audit_json) db db
      (fun _ d w => d = w ∧ MarkOutcome pd bounds operator_id admission_id audit_json db w)
      fun _ d => d = db := by
  refine Spec.bind (Spec.lift (fun _ hfits => ?_) fun _ _ => rfl)
  refine spec_connect fun _ => ?_
  unfold markBlock
  refine Spec.bind (Spec.inspect rfl (fun _ _ => rfl) fun answer hanswer => ?_)
  cases answer with
  | none => exact Spec.pure ⟨rfl, .marked⟩
  | some row =>
    refine Spec.execute rfl (fun _ _ => rfl) fun w hinsert => ⟨rfl, ?_⟩
    obtain ⟨_, _, -, -, -, -, hunmarked, rfl⟩ := markAnswer_eq_some hanswer
    rw [insertAttempt_eq_ok hunmarked hinsert]
    exact .mark (demand_eq_ok.mp hfits) hanswer

theorem spec_resolveIdempotency {operator_id key request valid_until : String} :
    Spec (resolveIdempotency pd bounds operator_id key request valid_until) db db
      (fun _ d w => d = w ∧ w = db) fun _ d => d = db := by
  refine Spec.bind ((spec_reading (Spec.inspect rfl (fun _ _ => rfl) fun _ _ => ⟨rfl, rfl⟩)).imp ?_
    fun _ _ hd => hd)
  rintro rows d w ⟨rfl, rfl⟩
  exact Spec.lift (fun _ _ => ⟨rfl, rfl⟩) fun _ _ => rfl

theorem spec_getReceipt {operator_id admission_id : String} :
    Spec (getReceipt pd bounds operator_id admission_id) db db (fun _ d w => d = w ∧ w = db)
      fun _ d => d = db := by
  refine Spec.bind ((spec_reading (Spec.select rfl ⟨rfl, rfl⟩)).imp ?_ fun _ _ hd => hd)
  rintro rows d w ⟨rfl, rfl⟩
  exact Spec.lift (fun _ _ => ⟨rfl, rfl⟩) fun _ _ => rfl

theorem spec_listOwned {operator_id candidate_record_id : String} :
    Spec (listOwned pd bounds operator_id candidate_record_id) db db (fun _ d w => d = w ∧ w = db)
      fun _ d => d = db := by
  refine Spec.bind ((spec_reading (Spec.select rfl ⟨rfl, rfl⟩)).imp ?_ fun _ _ hd => hd)
  rintro rows d w ⟨rfl, rfl⟩
  exact Spec.lift (fun _ _ => ⟨rfl, rfl⟩) fun _ _ => rfl

/-! ## What the connections keep -/

theorem quota_eq_ok : quota bounds p db = .ok () ↔
    db.reservations.length < bounds.max_total_records ∧
      (db.reservations.filter fun a => a.operator_id = p.record.operator_id).length <
        bounds.max_records_per_operator := by
  simp only [quota, demand_bind_eq_ok, demand_eq_ok, decide_eq_true_eq]

theorem ReserveOutcome.intact {answer : Option AcknowledgementV1}
    (h : ReserveOutcome pd bounds p args db answer db') (hdb : Intact pd bounds db)
    (hprepared : Prepared pd bounds args p) {force : Bool}
    (hconsistent : p.Consistent pd bounds force) : Intact pd bounds db' := by
  cases h with
  | existing _ => exact hdb
  | reserved _ _ hquota hfresh =>
    obtain ⟨htotal, howner⟩ := quota_eq_ok.mp hquota
    exact hdb.addReservation (hprepared.reservationChecks hconsistent) htotal howner hfresh

/-- What `_append_record` finds when it goes on to insert. -/
theorem appendAnswer_eq_none (h : appendAnswer pd bounds p db = .ok none) :
    (∃ reservation, db.reservation (p.record.operator_id, p.record.admission_id) =
      some reservation) ∧
    db.attempted (p.record.operator_id, p.record.admission_id) = false ∧
    db.receipt (p.record.operator_id, p.record.admission_id) = none := by
  unfold appendAnswer at h
  dsimp only at h
  cases hreservation : db.reservation (p.record.operator_id, p.record.admission_id) with
  | none =>
    rw [hreservation] at h
    cases h
  | some reservation =>
    rw [hreservation] at h
    obtain ⟨hunmarked, h⟩ := demand_bind_eq_ok.mp h
    refine ⟨⟨_, rfl⟩, by simpa using hunmarked, ?_⟩
    cases hreceipt : db.receipt (p.record.operator_id, p.record.admission_id) with
    | none => rfl
    | some row =>
      rw [hreceipt] at h
      dsimp only at h
      cases hdecode : decodeRecord pd bounds p.record.operator_id row (some reservation) with
      | ok record =>
        rw [hdecode] at h
        cases h
      | error e =>
        rw [hdecode] at h
        cases h

/-- A receipt is accepted after the reservation of the same append. -/
theorem AppendOutcome.intact {answer : AcknowledgementV1 × Bool}
    (h : AppendOutcome pd bounds p args db answer db') (hdb : Intact pd bounds db)
    (hprepared : Prepared pd bounds args p)
    (hconsistent : p.Consistent pd bounds args.force_indeterminate)
    (hforce : args.force_indeterminate = false) (hreserved : proposed p args ∈ db.reservations) :
    Intact pd bounds db' := by
  cases h with
  | existing _ => exact hdb
  | appended hanswer _ hfresh =>
    obtain ⟨-, hunmarked, -⟩ := appendAnswer_eq_none hanswer
    have hfound : db.reservation (receiptRow pd p).key = some (proposed p args) :=
      hdb.reservation_eq_some hreserved
    have hdecode := hprepared.decodeRecord hconsistent hforce
    rw [← hfound] at hdecode
    exact hdb.addReceipt hdecode hunmarked hfresh

theorem MarkOutcome.intact {operator_id admission_id audit_json : String}
    (h : MarkOutcome pd bounds operator_id admission_id audit_json db db')
    (hdb : Intact pd bounds db) : Intact pd bounds db' := by
  cases h with
  | marked => exact hdb
  | mark hfits hanswer =>
    obtain ⟨reservation, audit, hreservation, haudit, hterminal, hreceipt, hunmarked, rfl⟩ :=
      markAnswer_eq_some hanswer
    refine hdb.addAttempt (checkAttempt_eq_ok.mpr ⟨reservation, hreservation, ?_, audit, haudit,
      hterminal, rfl⟩) hfits hunmarked
    exact receipt_eq_none.mp hreceipt

/-! ## Calls -/

/-- A call of a method, with the faults of its connections. -/
inductive Call where
  | append (args : AppendArgs) (reserveFaults appendFaults : List Bool)
  /-- An append whose process crashes after its first connection. -/
  | crash (args : AppendArgs) (faults : List Bool)
  | markIndeterminate (operator_id admission_id audit_json : String) (faults : List Bool)
  | get (operator_id admission_id : String) (faults : List Bool)
  | listOwned (operator_id candidate_record_id : String) (faults : List Bool)
  | resolveIdempotency (operator_id idempotency_key_fingerprint request_fingerprint
      admission_valid_until : String) (faults : List Bool)

/-- What a call returns. -/
inductive Answer where
  | appended (record : AcknowledgementV1) (created : Bool)
  | marked
  | receipt (record : AcknowledgementV1)
  | receipts (records : List AcknowledgementV1)
  | resolved (record : Option AcknowledgementV1)
  deriving DecidableEq

section Run

variable (pd : Pydantic pf) (bounds : Bounds)

/-- The outcome of a call, none after a crash, and the contents it leaves. -/
def Call.perform (db : Database) : Call → Option (Except Raised Answer) × Database
  | .append args reserveFaults appendFaults =>
    let (result, db) := Acknowledgement.append pd bounds args reserveFaults appendFaults db
    (some (result.map fun (record, created) => .appended record created), db)
  | .crash args faults => (none, appendCrashed pd bounds args faults db)
  | .markIndeterminate operator_id admission_id audit_json faults =>
    let (result, db) := withConnection db faults
      (Acknowledgement.markIndeterminate pd bounds operator_id admission_id audit_json)
    (some (result.map fun _ => .marked), db)
  | .get operator_id admission_id faults =>
    let (result, db) := withConnection db faults (getReceipt pd bounds operator_id admission_id)
    (some (result.map .receipt), db)
  | .listOwned operator_id candidate_record_id faults =>
    let (result, db) := withConnection db faults
      (Acknowledgement.listOwned pd bounds operator_id candidate_record_id)
    (some (result.map .receipts), db)
  | .resolveIdempotency operator_id key request valid_until faults =>
    let (result, db) := withConnection db faults
      (Acknowledgement.resolveIdempotency pd bounds operator_id key request valid_until)
    (some (result.map .resolved), db)

/-- The contents after a history of calls. -/
def runHistory (db : Database) : List Call → Database
  | [] => db
  | call :: calls => runHistory (call.perform pd bounds db).2 calls

/-- The condition on the arguments of an append under which the journal stays readable. -/
def Call.Consistent : Call → Prop
  | .append args _ _ => ∀ p, prepare pd bounds args = .ok p →
      p.Consistent pd bounds args.force_indeterminate
  | .crash args _ => ∀ p, prepare pd bounds args = .ok p → p.Consistent pd bounds true
  | _ => True

end Run

/-- The journal only grows. -/
structure Grows (db db' : Database) : Prop where
  reservations : db.reservations <+: db'.reservations
  receipts : db.receipts <+: db'.receipts
  attempts : db.attempts <+: db'.attempts

theorem Grows.refl (db : Database) : Grows db db :=
  ⟨List.prefix_rfl, List.prefix_rfl, List.prefix_rfl⟩

theorem Grows.trans {db db' db'' : Database} (h : Grows db db') (h' : Grows db' db'') :
    Grows db db'' :=
  ⟨h.reservations.trans h'.reservations, h.receipts.trans h'.receipts,
    h.attempts.trans h'.attempts⟩

theorem grows_addReservation (row : ReservationRow) : Grows db (db.addReservation row) :=
  ⟨List.prefix_append _ _, List.prefix_rfl, List.prefix_rfl⟩

theorem grows_addReceipt (row : ReceiptRow) : Grows db (db.addReceipt row) :=
  ⟨List.prefix_rfl, List.prefix_append _ _, List.prefix_rfl⟩

theorem grows_addAttempt (row : AttemptRow) : Grows db (db.addAttempt row) :=
  ⟨List.prefix_rfl, List.prefix_rfl, List.prefix_append _ _⟩

theorem ReserveOutcome.grows {answer : Option AcknowledgementV1}
    (h : ReserveOutcome pd bounds p args db answer db') : Grows db db' := by
  cases h with
  | existing _ => exact .refl _
  | reserved _ _ _ _ => exact grows_addReservation _

theorem AppendOutcome.grows {answer : AcknowledgementV1 × Bool}
    (h : AppendOutcome pd bounds p args db answer db') : Grows db db' := by
  cases h with
  | existing _ => exact .refl _
  | appended _ _ _ => exact grows_addReceipt _

theorem MarkOutcome.grows {operator_id admission_id audit_json : String}
    (h : MarkOutcome pd bounds operator_id admission_id audit_json db db') : Grows db db' := by
  cases h with
  | marked => exact .refl _
  | mark _ _ => exact grows_addAttempt _

/-- What a raising call may leave: nothing, or one reservation, possibly with its mark. -/
inductive Residue (db : Database) : Database → Prop
  | unchanged : Residue db db
  | reserved (row : ReservationRow) : Residue db (db.addReservation row)
  | marked (row : ReservationRow) (mark : AttemptRow) (hkey : mark.key = row.key) :
      Residue db ((db.addReservation row).addAttempt mark)

/-- What an append leaves, by the way it ends. -/
theorem append_spec {reserveFaults appendFaults : List Bool}
    {result : Except Raised (AcknowledgementV1 × Bool)}
    (h : append pd bounds args reserveFaults appendFaults db = (result, db')) :
    (db' = db ∧ ∃ e, result = .error e) ∨
    ∃ p, prepare pd bounds args = .ok p ∧
      ((db' = db ∧ ∃ record, reservedAnswer pd bounds p args db = .ok (some record) ∧
          result = .ok (record, false)) ∨
        ∃ reserved, ReserveOutcome pd bounds p args db none reserved ∧
          ((db' = reserved ∧ ∃ e, result = .error e) ∨
            (args.force_indeterminate = true ∧ (∃ e, result = .error e) ∧
              MarkOutcome pd bounds p.record.operator_id p.record.admission_id
                (pd.dumpAudit p.audit) reserved db') ∨
            (args.force_indeterminate = false ∧ ∃ answer, result = .ok answer ∧
              AppendOutcome pd bounds p args reserved answer db'))) := by
  unfold append at h
  cases hprepare : prepare pd bounds args with
  | error e =>
    rw [hprepare] at h
    obtain ⟨rfl, rfl⟩ := Prod.mk.inj h
    exact .inl ⟨rfl, _, rfl⟩
  | ok p =>
    rw [hprepare] at h
    dsimp only at h
    cases hreserve : withConnection db reserveFaults (reserveAttempt pd bounds p args) with
    | mk answer reserved =>
    have hreserved := Spec.outcome (@spec_reserveAttempt pf pd bounds db args p) hreserve
    rw [hreserve] at h
    match answer with
    | .error e =>
      obtain ⟨rfl, rfl⟩ := Prod.mk.inj h
      exact .inl ⟨hreserved, _, rfl⟩
    | .ok (some existing) =>
      obtain ⟨rfl, rfl⟩ := Prod.mk.inj h
      cases hreserved with
      | existing hanswer => exact .inr ⟨p, rfl, .inl ⟨rfl, existing, hanswer, rfl⟩⟩
    | .ok none =>
      refine .inr ⟨p, rfl, .inr ⟨reserved, hreserved, ?_⟩⟩
      dsimp only at h
      cases hforce : args.force_indeterminate with
      | true =>
        rw [hforce, if_pos rfl] at h
        cases hmark : withConnection reserved appendFaults (markIndeterminate pd bounds
            p.record.operator_id p.record.admission_id (pd.dumpAudit p.audit)) with
        | mk outcome marked =>
        have hmarked := Spec.outcome (@spec_markIndeterminate pf pd bounds reserved _ _ _) hmark
        rw [hmark] at h
        cases outcome with
        | error e =>
          obtain ⟨rfl, rfl⟩ := Prod.mk.inj h
          exact .inl ⟨hmarked, _, rfl⟩
        | ok _ =>
          obtain ⟨rfl, rfl⟩ := Prod.mk.inj h
          exact .inr (.inl ⟨rfl, ⟨_, rfl⟩, hmarked⟩)
      | false =>
        rw [hforce, if_neg Bool.false_ne_true] at h
        cases happend : withConnection reserved appendFaults (appendRecord pd bounds p args) with
        | mk outcome appended =>
        have happended := Spec.outcome (@spec_appendRecord pf pd bounds reserved args p) happend
        rw [happend] at h
        cases outcome with
        | error e =>
          obtain ⟨rfl, rfl⟩ := Prod.mk.inj h
          exact .inl ⟨happended, _, rfl⟩
        | ok answer =>
          obtain ⟨rfl, rfl⟩ := Prod.mk.inj h
          exact .inr (.inr ⟨rfl, answer, rfl, happended⟩)

/-- A connection that only reads changes nothing. -/
theorem reading_unchanged {α : Type} {block : Store α} {faults : List Bool}
    (h : Spec block db db (fun _ d w => d = w ∧ w = db) fun _ d => d = db) :
    (withConnection db faults block).2 = db := by
  cases hrun : withConnection db faults block with
  | mk result db' =>
    have houtcome := Spec.outcome h hrun
    cases result with
    | ok _ => exact houtcome
    | error _ => exact houtcome

/-- What the first connection of an append leaves. -/
theorem appendCrashed_spec {faults : List Bool} :
    appendCrashed pd bounds args faults db = db ∨
    ∃ p answer, prepare pd bounds args = .ok p ∧
      ReserveOutcome pd bounds p args db answer (appendCrashed pd bounds args faults db) := by
  unfold appendCrashed
  cases hprepare : prepare pd bounds args with
  | error e => exact .inl rfl
  | ok p =>
    dsimp only
    cases hreserve : withConnection db faults (reserveAttempt pd bounds p args) with
    | mk answer reserved =>
    have hreserved := Spec.outcome (@spec_reserveAttempt pf pd bounds db args p) hreserve
    cases answer with
    | error e => exact .inl hreserved
    | ok answer => exact .inr ⟨p, answer, rfl, hreserved⟩

/-- What a call of `mark_indeterminate` leaves. -/
theorem markIndeterminate_spec {operator_id admission_id audit_json : String}
    {faults : List Bool} :
    (withConnection db faults (markIndeterminate pd bounds operator_id admission_id audit_json)).2 =
      db ∨
    MarkOutcome pd bounds operator_id admission_id audit_json db
      (withConnection db faults
        (markIndeterminate pd bounds operator_id admission_id audit_json)).2 := by
  cases hmark : withConnection db faults
      (markIndeterminate pd bounds operator_id admission_id audit_json) with
  | mk outcome marked =>
  have hmarked := Spec.outcome (@spec_markIndeterminate pf pd bounds db _ _ _) hmark
  cases outcome with
  | error e => exact .inl hmarked
  | ok _ => exact .inr hmarked

/-- A call lets the journal grow. -/
theorem Call.perform_grows (call : Call) : Grows db (call.perform pd bounds db).2 := by
  cases call with
  | append args reserveFaults appendFaults =>
    change Grows db (Acknowledgement.append pd bounds args reserveFaults appendFaults db).2
    cases hrun : Acknowledgement.append pd bounds args reserveFaults appendFaults db with
    | mk result left =>
    rcases append_spec hrun with ⟨rfl, -⟩ | ⟨p, -, ⟨rfl, -⟩ | ⟨reserved, hreserved, ⟨rfl, -⟩ |
        ⟨-, -, hmark⟩ | ⟨-, answer, -, happended⟩⟩⟩
    · exact .refl _
    · exact .refl _
    · exact hreserved.grows
    · exact hreserved.grows.trans hmark.grows
    · exact hreserved.grows.trans happended.grows
  | crash args faults =>
    change Grows db (appendCrashed pd bounds args faults db)
    rcases @appendCrashed_spec pf pd bounds db args faults with hdb | ⟨p, answer, -, hreserved⟩
    · rw [hdb]
      exact .refl _
    · exact hreserved.grows
  | markIndeterminate operator_id admission_id audit_json faults =>
    change Grows db (withConnection db faults
      (Acknowledgement.markIndeterminate pd bounds operator_id admission_id audit_json)).2
    rcases @markIndeterminate_spec pf pd bounds db operator_id admission_id audit_json faults with
      hdb | hmark
    · rw [hdb]
      exact .refl _
    · exact hmark.grows
  | get operator_id admission_id faults =>
    change Grows db (withConnection db faults (getReceipt pd bounds operator_id admission_id)).2
    rw [reading_unchanged spec_getReceipt]
    exact .refl _
  | listOwned operator_id candidate_record_id faults =>
    change Grows db (withConnection db faults
      (Acknowledgement.listOwned pd bounds operator_id candidate_record_id)).2
    rw [reading_unchanged spec_listOwned]
    exact .refl _
  | resolveIdempotency operator_id key request valid_until faults =>
    change Grows db (withConnection db faults
      (Acknowledgement.resolveIdempotency pd bounds operator_id key request valid_until)).2
    rw [reading_unchanged spec_resolveIdempotency]
    exact .refl _

/-- A consistent call keeps the journal readable. -/
theorem Call.perform_intact (call : Call) (hdb : Intact pd bounds db)
    (hcall : call.Consistent pd bounds) : Intact pd bounds (call.perform pd bounds db).2 := by
  cases call with
  | append args reserveFaults appendFaults =>
    change Intact pd bounds (Acknowledgement.append pd bounds args reserveFaults appendFaults db).2
    cases hrun : Acknowledgement.append pd bounds args reserveFaults appendFaults db with
    | mk result left =>
    rcases append_spec hrun with ⟨rfl, -⟩ | ⟨p, hprepare, ⟨rfl, -⟩ | ⟨reserved, hreserved, hnext⟩⟩
    · exact hdb
    · exact hdb
    · have hprepared := prepared_of_prepare hprepare
      have hconsistent := hcall p hprepare
      have hintact := hreserved.intact hdb hprepared hconsistent
      rcases hnext with ⟨rfl, -⟩ | ⟨-, -, hmark⟩ | ⟨hforce, answer, -, happended⟩
      · exact hintact
      · exact hmark.intact hintact
      · refine happended.intact hintact hprepared hconsistent hforce ?_
        cases hreserved
        exact List.mem_append_right _ (List.mem_singleton_self _)
  | crash args faults =>
    change Intact pd bounds (appendCrashed pd bounds args faults db)
    rcases @appendCrashed_spec pf pd bounds db args faults with
      hdb' | ⟨p, answer, hprepare, hreserved⟩
    · rw [hdb']
      exact hdb
    · exact hreserved.intact hdb (prepared_of_prepare hprepare) (hcall p hprepare)
  | markIndeterminate operator_id admission_id audit_json faults =>
    change Intact pd bounds (withConnection db faults
      (Acknowledgement.markIndeterminate pd bounds operator_id admission_id audit_json)).2
    rcases @markIndeterminate_spec pf pd bounds db operator_id admission_id audit_json faults with
      hdb' | hmark
    · rw [hdb']
      exact hdb
    · exact hmark.intact hdb
  | get operator_id admission_id faults =>
    change Intact pd bounds
      (withConnection db faults (getReceipt pd bounds operator_id admission_id)).2
    rw [reading_unchanged spec_getReceipt]
    exact hdb
  | listOwned operator_id candidate_record_id faults =>
    change Intact pd bounds (withConnection db faults
      (Acknowledgement.listOwned pd bounds operator_id candidate_record_id)).2
    rw [reading_unchanged spec_listOwned]
    exact hdb
  | resolveIdempotency operator_id key request valid_until faults =>
    change Intact pd bounds (withConnection db faults
      (Acknowledgement.resolveIdempotency pd bounds operator_id key request valid_until)).2
    rw [reading_unchanged spec_resolveIdempotency]
    exact hdb

/-- A call that raises leaves a residue. -/
theorem Call.perform_residue {call : Call} {e : Raised}
    (h : call.perform pd bounds db = (some (.error e), db')) : Residue db db' := by
  have hread {α : Type} {block : Store α} {faults : List Bool} {f : α → Answer}
      (hblock : Spec block db db (fun _ d w => d = w ∧ w = db) fun _ d => d = db)
      (h : ((some ((withConnection db faults block).1.map f), (withConnection db faults block).2) :
        Option (Except Raised Answer) × Database) = (some (.error e), db')) : Residue db db' := by
    rw [← (Prod.mk.inj h).2, reading_unchanged hblock]
    exact .unchanged
  cases call with
  | append args reserveFaults appendFaults =>
    cases hrun : Acknowledgement.append pd bounds args reserveFaults appendFaults db with
    | mk result left =>
    rw [Call.perform, hrun] at h
    obtain ⟨hresult, rfl⟩ := Prod.mk.inj h
    rcases append_spec hrun with ⟨rfl, -⟩ | ⟨p, -, ⟨rfl, -⟩ | ⟨reserved, hreserved, ⟨rfl, -⟩ |
        ⟨-, -, hmark⟩ | ⟨-, answer, hok, -⟩⟩⟩
    · exact .unchanged
    · exact .unchanged
    · cases hreserved
      exact .reserved _
    · cases hreserved
      cases hmark with
      | marked => exact .reserved _
      | mark _ hanswer =>
        obtain ⟨_, _, -, -, -, -, -, rfl⟩ := markAnswer_eq_some hanswer
        exact .marked _ _ rfl
    · rw [hok] at hresult
      cases hresult
  | crash args faults =>
    cases (Prod.mk.inj h).1
  | markIndeterminate operator_id admission_id audit_json faults =>
    cases hmark : withConnection db faults
        (Acknowledgement.markIndeterminate pd bounds operator_id admission_id audit_json) with
    | mk outcome marked =>
    have hmarked := Spec.outcome (@spec_markIndeterminate pf pd bounds db _ _ _) hmark
    rw [Call.perform, hmark] at h
    obtain ⟨hresult, rfl⟩ := Prod.mk.inj h
    cases outcome with
    | ok _ => cases hresult
    | error _ =>
      dsimp only at hmarked
      rw [hmarked]
      exact .unchanged
  | get operator_id admission_id faults => exact hread spec_getReceipt h
  | listOwned operator_id candidate_record_id faults => exact hread spec_listOwned h
  | resolveIdempotency operator_id key request valid_until faults =>
    exact hread spec_resolveIdempotency h

/-! ## Histories -/

theorem runHistory_grows (calls : List Call) : Grows db (runHistory pd bounds db calls) := by
  induction calls generalizing db with
  | nil => exact .refl _
  | cons call calls ih => exact call.perform_grows.trans ih

theorem runHistory_append (calls calls' : List Call) :
    runHistory pd bounds db (calls ++ calls') =
      runHistory pd bounds (runHistory pd bounds db calls) calls' := by
  induction calls generalizing db with
  | nil => rfl
  | cons call calls ih => exact ih

theorem runHistory_intact {calls : List Call} (hdb : Intact pd bounds db)
    (hcalls : ∀ call ∈ calls, call.Consistent pd bounds) :
    Intact pd bounds (runHistory pd bounds db calls) := by
  induction calls generalizing db with
  | nil => exact hdb
  | cons call calls ih =>
    exact ih (call.perform_intact hdb (hcalls call List.mem_cons_self)) fun c hc =>
      hcalls c (List.mem_cons_of_mem _ hc)

/-- Each operator has one reservation and one receipt at most for an admission, a subject and an
idempotency key. -/
structure Unique (db : Database) : Prop where
  reservation_admission : (db.reservations.map fun r => (r.operator_id, r.admission_id)).Nodup
  reservation_subject :
    (db.reservations.map fun r => (r.operator_id, r.subject_fingerprint)).Nodup
  reservation_key :
    (db.reservations.map fun r => (r.operator_id, r.idempotency_key_fingerprint)).Nodup
  receipt_admission : (db.receipts.map fun r => (r.operator_id, r.admission_id)).Nodup
  receipt_subject : (db.receipts.map fun r => (r.operator_id, r.subject_fingerprint)).Nodup
  receipt_key : (db.receipts.map fun r => (r.operator_id, r.idempotency_key_fingerprint)).Nodup

theorem Intact.unique (h : Intact pd bounds db) : Unique db := by
  constructor
  all_goals
    first
    | refine h.unique_reservations.nodup_map fun a _ b _ hab => ?_
    | refine h.unique_receipts.nodup_map fun a _ b _ hab => ?_
    simp only [Prod.mk.injEq] at hab
    simp [ReservationRow.clash, ReceiptRow.clash, hab.1, hab.2]

/-- In every history whose appends are consistent, the journal is accepted by the integrity
check, keeps its reservations, has one reservation and one receipt at most under each key, and no
reservation has both a receipt and a mark; and a call that raises adds at most one reservation,
possibly with its mark. -/
theorem reachable_journal {calls calls' : List Call}
    (hcalls : ∀ call ∈ calls ++ calls', call.Consistent pd bounds) :
    checkIntegrity pd bounds (runHistory pd bounds Database.created calls) = .ok () ∧
    (runHistory pd bounds Database.created calls).reservations <+:
      (runHistory pd bounds Database.created (calls ++ calls')).reservations ∧
    Unique (runHistory pd bounds Database.created calls) ∧
    (∀ row ∈ (runHistory pd bounds Database.created calls).reservations,
      ¬((∃ receipt ∈ (runHistory pd bounds Database.created calls).receipts,
          receipt.key = row.key) ∧
        ∃ mark ∈ (runHistory pd bounds Database.created calls).attempts, mark.key = row.key)) ∧
    ∀ (call : Call) e db',
      call.perform pd bounds (runHistory pd bounds Database.created calls) = (some (.error e), db') →
        Residue (runHistory pd bounds Database.created calls) db' := by
  have hintact : Intact pd bounds (runHistory pd bounds Database.created calls) :=
    runHistory_intact (intact_created pd bounds) fun call hcall =>
      hcalls call (List.mem_append_left _ hcall)
  refine ⟨checkIntegrity_eq_ok.mpr hintact.toAccepted, ?_, hintact.unique, ?_, ?_⟩
  · rw [runHistory_append]
    exact (runHistory_grows calls').reservations
  · rintro row - ⟨⟨receipt, hreceipt, hkey⟩, mark, hmark, hkey'⟩
    exact hintact.disjoint hmark hreceipt (hkey.trans hkey'.symm)
  · exact fun call e db' h => Call.perform_residue h

end AtlasOS.Acknowledgement
