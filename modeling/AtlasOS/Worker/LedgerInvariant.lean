import AtlasOS.Worker.Ledger
import Mathlib.Logic.Relation
import Mathlib.Tactic.Linarith

/-!
# The invariant of the durable worker ledger

A row is valid exactly when the validator accepts it, and the validator's
verdict is spelled out once as `Row.Valid`. Each method of the ledger then has
one specification, from which the history of every row is derived: rows stay
valid, a digest never changes, a state only moves forward, and a terminal row
is frozen.
-/

namespace AtlasOS.Worker

open Sqlite Sqlite.Transaction

variable {py : Python}

/-! ## Valid rows -/

/-- What a row holds about the outcome of its execution. -/
def StoredOutcome (py : Python) (row : Row) (state : DurableState)
    (result : Option WorkerExecutionResult) : Prop :=
  if state.terminal then
    ∃ raw r, row.result_json = some raw ∧ result = some r ∧
      raw.dumpsLength py ≤ 24 * 1024 * 1024 ∧
      (decodeWorkerJson raw >>= WorkerExecutionResult.fromDict py) = .ok r ∧
      r.execution_request_id = row.execution_request_id ∧ state = expectedState r.status
  else row.result_json = none ∧ result = none

/-- The couplings between the columns of a row that the validator checks. -/
structure Row.Valid (py : Python) (row : Row) (state : DurableState)
    (result : Option WorkerExecutionResult) : Prop where
  state_eq : row.state = state.value
  identity : matchesId row.execution_request_id = true
  digest : matchesDigest DIGEST_PREFIX row.request_digest = true
  version : row.schema_version = 1 ∧ row.attempt = 1
  created : timestamp py row.created_at = .ok ()
  updated : timestamp py row.updated_at = .ok ()
  started : ∀ text ∈ row.execution_started_at, timestamp py text = .ok ()
  unstarted : state = .claimed → row.execution_started_at = none
  barrier : state = .executing ∨ state = .unknownOutcome → row.execution_started_at.isSome
  token : (row.workspace_token.all fun token =>
    token ≠ "" && decide (token.length ≤ 1024) && !token.toList.contains '\x00') = true
  outcome : StoredOutcome py row state result

theorem replaceError_eq_ok {α : Type} {result : Except PyError α} {error : PyError} {a : α} :
    replaceError result error = .ok a ↔ result = .ok a := by
  unfold replaceError
  split <;> simp

theorem storedResult_eq_ok {row : Row} {state : DurableState}
    {result : Option WorkerExecutionResult} :
    storedResult py row state = .ok result ↔ StoredOutcome py row state result := by
  unfold storedResult StoredOutcome
  split
  · simp only [bind_eq_ok, exists_unit, require_eq_ok, expect_eq_ok, replaceError_eq_ok,
      decide_eq_true_eq, pure_eq_ok, Except.ok.injEq]
    constructor
    · rintro ⟨raw, hraw, hbound, r, hread, hid, hstate, rfl⟩
      exact ⟨raw, r, hraw, rfl, hbound, hread, hid, hstate⟩
    · rintro ⟨raw, r, hraw, rfl, hbound, hread, hid, hstate⟩
      exact ⟨raw, hraw, hbound, r, hread, hid, hstate, rfl⟩
  · simp only [require_bind_eq_ok, pure_eq_ok, Except.ok.injEq, Option.isNone_iff_eq_none]
    exact and_congr_right fun _ => eq_comm

/-- The validator accepts exactly the valid rows. -/
theorem validateWorkerLedgerRow_eq_ok {row : Row} {result : Option WorkerExecutionResult} :
    validateWorkerLedgerRow py row = .ok result ↔ ∃ state, row.Valid py state result := by
  simp only [validateWorkerLedgerRow, check_bind_eq_ok, require_eq_ok]
  constructor
  · rintro ⟨hid, hdigest, hversion, h⟩
    obtain ⟨state, hstate, h⟩ := bind_eq_ok.mp h
    simp only [check_bind_eq_ok, require_eq_ok] at h
    obtain ⟨hcreated, hupdated, hstarted, hmarker, htoken, hresult⟩ := h
    simp only [Bool.and_eq_true, decide_eq_true_eq, Bool.not_eq_true', Bool.and_eq_false_iff,
      decide_eq_false_iff_not, Option.isSome_eq_false_iff, Option.isNone_iff_eq_none,
      Option.isNone_eq_false_iff, List.mem_cons, List.not_mem_nil, or_false] at hversion hmarker
    exact ⟨state, {
      state_eq := StrEnum.eq_value_of_ofValue (expect_eq_ok.mp hstate)
      identity := hid
      digest := hdigest
      version := hversion
      created := hcreated
      updated := hupdated
      started := by
        intro text htext
        rw [Option.mem_def.mp htext] at hstarted
        exact hstarted
      unstarted := fun h => hmarker.1.resolve_left (not_not_intro h)
      barrier := fun h => hmarker.2.resolve_left (not_not_intro h)
      token := htoken
      outcome := storedResult_eq_ok.mp hresult }⟩
  · rintro ⟨state, hv⟩
    refine ⟨hv.identity, hv.digest, by simp [hv.version], bind_eq_ok.mpr ⟨state, ?_, ?_⟩⟩
    · simp [hv.state_eq]
    · simp only [check_bind_eq_ok, require_eq_ok]
      refine ⟨hv.created, hv.updated, ?_, ?_, hv.token, storedResult_eq_ok.mpr hv.outcome⟩
      · cases hs : row.execution_started_at with
        | none => rfl
        | some text => exact hv.started text hs
      · have hun := hv.unstarted
        have hbar := hv.barrier
        cases hs : row.execution_started_at <;> simp_all

/-- A valid row has one state and one result. -/
theorem Row.Valid.unique {row : Row} {s s' : DurableState} {r r' : Option WorkerExecutionResult}
    (h : row.Valid py s r) (h' : row.Valid py s' r') : s = s' ∧ r = r' := by
  have hs : s = s' := by
    have := h.state_eq.symm.trans h'.state_eq
    simpa using congrArg DurableState.ofValue? this
  refine ⟨hs, ?_⟩
  have hr := validateWorkerLedgerRow_eq_ok.mpr ⟨s, h⟩
  rw [validateWorkerLedgerRow_eq_ok.mpr ⟨s', h'⟩] at hr
  exact (Except.ok.inj hr).symm

/-- The entry built from a valid row. -/
def Row.toEntry (row : Row) (state : DurableState) (result : Option WorkerExecutionResult) :
    DurableLedgerEntry where
  execution_request_id := row.execution_request_id
  request_digest := row.request_digest
  schema_version := row.schema_version
  state := state
  created_at := row.created_at
  updated_at := row.updated_at
  attempt := row.attempt
  execution_started_at := row.execution_started_at
  workspace_token := row.workspace_token
  result := result

theorem Row.Valid.entry {row : Row} {state : DurableState} {result : Option WorkerExecutionResult}
    (h : row.Valid py state result) :
    Worker.entry py (some row) = .ok (row.toEntry state result) := by
  simp [Worker.entry, validateWorkerLedgerRow_eq_ok.mpr ⟨state, h⟩, h.state_eq, Row.toEntry]

/-- An entry is only built from a valid row. -/
theorem valid_of_entry {row : Row} {e : DurableLedgerEntry}
    (h : entry py (some row) = .ok e) : row.Valid py e.state e.result := by
  cases hv : validateWorkerLedgerRow py row with
  | error error => cases error <;> simp [entry, hv] at h
  | ok result =>
    obtain ⟨state, hvalid⟩ := validateWorkerLedgerRow_eq_ok.mp hv
    simp only [entry, hv, hvalid.state_eq, DurableState.ofValue_value] at h
    cases h
    exact hvalid

/-! ## The rows that the methods write -/

@[simp] theorem timestamp_nowText (now : Fin MAX_MICROS) : timestamp py (nowText py now) = .ok () := by
  have hlength : (nowText py now).length ≤ 128 := (py.isoformat_length _).trans (by decide)
  simp only [timestamp, hlength, decide_true, require_true, ok_bind]
  simp [nowText, DateTime.utc]

/-- The first character of a matched token is alphanumeric and at most 255
allowed characters follow. -/
theorem toList_of_matchesToken {allowed : Char → Bool} {text : String}
    (h : matchesToken allowed text = true) :
    ∃ c rest, text.toList = c :: rest ∧ isAlnum c = true ∧ (∀ d ∈ rest, allowed d = true) ∧
      rest.length ≤ 255 := by
  unfold matchesToken at h
  split at h
  · simp at h
  · next c rest hid =>
    simp only [Bool.and_eq_true, decide_eq_true_eq, List.all_eq_true] at h
    exact ⟨c, rest, hid, h.1.1, h.1.2, h.2⟩

theorem length_of_matchesId {id : String} (h : matchesId id = true) : id.length ≤ 256 := by
  obtain ⟨c, rest, hid, -, -, hlength⟩ := toList_of_matchesToken h
  rw [← String.length_toList, hid, List.length_cons]
  omega

/-- A request identity is a usable workspace reference. -/
theorem token_of_matchesId {id : String} (h : matchesId id = true) :
    (id ≠ "" && decide (id.length ≤ 1024) && !id.toList.contains '\x00') = true := by
  obtain ⟨c, rest, hid, hc, hrest, -⟩ := toList_of_matchesToken h
  have hne : id ≠ "" := by rintro rfl; simp at hid
  have hlen : id.length ≤ 1024 := (length_of_matchesId h).trans (by decide)
  have hnul : '\x00' ∉ id.toList := by
    rw [hid]
    intro hmem
    rcases List.mem_cons.mp hmem with rfl | hmem
    · exact absurd hc (by decide)
    · exact absurd (hrest _ hmem) (by decide)
  simp [hne, hlen, hnul]

/-- What a validated request guarantees of the row made from it. -/
theorem request_valid {request : WorkerExecutionRequest} (h : request.validate py = .ok ()) :
    request.schema_version = 1 ∧ matchesId request.execution_request_id = true ∧
      matchesDigest DIGEST_PREFIX request.request_digest = true := by
  simp only [WorkerExecutionRequest.validate, check_bind_eq_ok, require_eq_ok] at h
  obtain ⟨hfields, hdigest, -⟩ := h
  simp only [WorkerExecutionRequest.validateFields, check_bind_eq_ok, require_eq_ok,
    decide_eq_true_eq] at hfields
  exact ⟨hfields.1, hfields.2.1, hdigest⟩

/-- The row inserted for a validated request is valid. -/
theorem claimedRow_valid {request : WorkerExecutionRequest} (h : request.validate py = .ok ())
    (now : Fin MAX_MICROS) : (claimedRow request (nowText py now)).Valid py .claimed none := by
  obtain ⟨hschema, hid, hdigest⟩ := request_valid h
  exact {
    state_eq := rfl
    identity := hid
    digest := hdigest
    version := ⟨hschema, rfl⟩
    created := timestamp_nowText now
    updated := timestamp_nowText now
    started := by simp [claimedRow]
    unstarted := fun _ => rfl
    barrier := by simp
    token := token_of_matchesId hid
    outcome := by simp [StoredOutcome, DurableState.terminal, claimedRow] }

/-- Marking a claimed row as executing keeps it valid. -/
theorem Row.Valid.start {row : Row} {r : Option WorkerExecutionResult}
    (h : row.Valid py .claimed r) (now : Fin MAX_MICROS) :
    (row.start (nowText py now)).Valid py .executing none where
  state_eq := rfl
  identity := h.identity
  digest := h.digest
  version := h.version
  created := h.created
  updated := timestamp_nowText now
  started := by simp [Row.start]
  unstarted := by simp
  barrier := by simp [Row.start]
  token := h.token
  outcome := by
    have := h.outcome
    simp only [StoredOutcome, DurableState.terminal] at this ⊢
    exact ⟨this.1, trivial⟩

set_option maxRecDepth 2000

/-- The result recorded for an abandoned execution is valid. -/
theorem unknownResult_valid {id : String} (h : matchesId id = true) :
    (unknownResult id).validate py = .ok () := by
  have hempty : BoundedOutput.validate ⟨"", false, none⟩ = .ok () := rfl
  have hattestation : WorkerAttestation.validate
      ⟨10001, true, true, "0000000000000000", "unknown-outcome"⟩ = .ok () := by decide
  have hfiles : canonicalFiles [] = .ok [] := rfl
  have houtcome : (unknownResult id).validateOutcome = .ok () := rfl
  have hpatch : (unknownResult id).validatePatch py = .ok () := rfl
  have hduration : PyNumber.finite (.int 0) = true := by decide
  simp only [WorkerExecutionResult.validate, bind_eq_ok, exists_unit, require_eq_ok]
  exact ⟨rfl, h, rfl, hempty, hempty, [], hfiles, rfl, rfl, rfl, rfl, rfl,
    by simp [unknownResult, hduration, PyNumber.value], rfl, rfl, hpatch, hattestation, houtcome⟩

/-- The text of the result recorded for an abandoned execution is short. -/
theorem unknownResult_dumpsLength {id : String} (h : matchesId id = true) :
    (unknownResult id).encode.dumpsLength py ≤ 24 * 1024 * 1024 := by
  obtain ⟨rest, hencode, hlength, hrest⟩ : ∃ rest : Fields,
      (∀ id, (unknownResult id).encode =
        .obj (("schema_version", .int 1) :: ("execution_request_id", .str id) :: rest)) ∧
      rest.length = 14 ∧ Json.dumpsLengthFields py rest ≤ 1000 := by
    refine ⟨(unknownResult "").encodedFields.drop 2, fun id => rfl, rfl, ?_⟩
    simp only [Json.dumpsLength, Json.dumpsLengthFields, Json.dumpsLengthList, unknownResult,
      WorkerExecutionResult.encodedFields, List.drop_succ_cons, List.drop_zero,
      BoundedOutput.encode, WorkerAttestation.encode, intOrNull, Json.ofOption, Json.nullable,
      Option.map, List.map, PyNumber.toJson]
    decide
  have hid := textLength_le id
  have hidLength := length_of_matchesId h
  have hversion : textLength "schema_version" + 1 + (toString (1 : Int)).length ≤ 30 := by
    decide
  have hname : textLength "execution_request_id" ≤ 30 := by decide
  rw [hencode]
  simp only [Json.dumpsLength, Json.dumpsLengthFields, List.length_cons, hlength]
  omega

/-- The stored text of a valid result is read back. -/
theorem decode_encode {r : WorkerExecutionResult} (h : r.validate py = .ok ()) :
    (decodeWorkerJson r.encode >>= WorkerExecutionResult.fromDict py) = .ok r := by
  have hfinite := (WorkerExecutionResult.valid_of_validate h).1.finite_encode
  have hdecode : decodeWorkerJson r.encode = .ok r.encode := by
    simp only [decodeWorkerJson, hfinite, require_true, ok_bind]
    rfl
  rw [hdecode, ok_bind]
  exact WorkerExecutionResult.fromDict_encode h

/-- Recording an abandoned execution keeps its row valid. -/
theorem Row.Valid.abandon {row : Row} {r : Option WorkerExecutionResult}
    (h : row.Valid py .executing r) (now : Fin MAX_MICROS) :
    (row.finish .unknownOutcome (unknownResult row.execution_request_id).encode
      (nowText py now)).Valid py .unknownOutcome
        (some (unknownResult row.execution_request_id)) where
  state_eq := rfl
  identity := h.identity
  digest := h.digest
  version := h.version
  created := h.created
  updated := timestamp_nowText now
  started := h.started
  unstarted := by simp
  barrier := fun _ => h.barrier (.inl rfl)
  token := h.token
  outcome := by
    have hvalid : (unknownResult row.execution_request_id).validate py = .ok () :=
      unknownResult_valid h.identity
    exact ⟨_, _, rfl, rfl, unknownResult_dumpsLength h.identity, decode_encode hvalid, rfl, rfl⟩

/-- Every row of the table is valid and stored under its own identity. -/
def Table.Valid (py : Python) (t : Table) : Prop :=
  ∀ id row, t.get id = some row →
    row.execution_request_id = id ∧ ∃ state result, row.Valid py state result

theorem Table.Valid.set {t : Table} (ht : Table.Valid py t) {row : Row} {state : DurableState}
    {result : Option WorkerExecutionResult} (hrow : row.Valid py state result) :
    Table.Valid py (t.set row.execution_request_id row) := by
  intro id stored hget
  rw [Dict.get_set] at hget
  split at hget
  · next heq =>
    cases hget
    exact ⟨heq, state, result, hrow⟩
  · exact ht id stored hget

/-! ## Specifications of the methods -/

section Specifications

variable {Q : DurableLedgerEntry → Table → Table → Prop} {E : LedgerError → Table → Prop}
variable {committed working t : Table}

theorem spec_contract {α : Type} {result : Except PyError α} {Q : α → Table → Table → Prop}
    (hok : ∀ a, result = .ok a → Q a committed working)
    (herror : ∀ e, result = .error e → E (.contract e) committed) :
    Spec (contract result) committed working Q E := by
  cases result with
  | ok a => exact Spec.lift (fun b hb => by cases hb; exact hok a rfl) (by simp [Except.mapError])
  | error e => exact Spec.lift (by simp [Except.mapError]) (fun b hb => by
      cases hb; exact herror e rfl)

theorem spec_rowFor {id : String} {Q : Row → Table → Table → Prop}
    (herror : E .database committed) (hmissing : working.get id = none → E (.missing id) committed)
    (hrow : ∀ row, working.get id = some row → Q row committed working) :
    Spec (rowFor id) committed working Q E := by
  refine Spec.bind (Spec.select herror ?_)
  split
  · next h => exact Spec.throw (hmissing h)
  · next row h => exact Spec.pure (hrow row h)

theorem spec_entry {row : Row} (hok : ∀ e, entry py (some row) = .ok e → Q e committed working)
    (herror : ∀ e, E e committed) :
    Spec (Transaction.lift (entry py (some row))) committed working Q E :=
  Spec.lift hok fun e _ => herror e

/-- Reading a valid row cannot fail. -/
theorem spec_entry_valid {row : Row} {state : DurableState}
    {result : Option WorkerExecutionResult} (hrow : row.Valid py state result)
    (hok : Q (row.toEntry state result) committed working) :
    Spec (Transaction.lift (entry py (some row))) committed working Q E := by
  rw [hrow.entry]
  exact Spec.lift (fun e he => by cases he; exact hok) (by simp)

theorem spec_checkDigest {row : Row} {request : WorkerExecutionRequest}
    {Q : Unit → Table → Table → Prop} (herror : ∀ e, E e committed)
    (hok : row.request_digest = request.request_digest → Q () committed working) :
    Spec (checkDigest py row request) committed working Q E := by
  refine Spec.bind (spec_entry (fun _ _ => ?_) herror)
  split
  · exact Spec.throw (herror _)
  · next h => exact Spec.pure (hok (not_not.mp h))

/-- What `claim` did when it returned an entry: it inserted a row for a new
identity, or found the row of the same request. -/
inductive Claimed (py : Python) (now : Fin MAX_MICROS) (request : WorkerExecutionRequest) (t : Table) :
    DurableLedgerEntry → Table → Prop
  | inserted (habsent : t.get request.execution_request_id = none)
      (hrequest : request.validate py = .ok ()) :
      Claimed py now request t
        ((claimedRow request (nowText py now)).toEntry .claimed none)
        (t.set request.execution_request_id (claimedRow request (nowText py now)))
  | found {row : Row} {state : DurableState} {result : Option WorkerExecutionResult}
      (hrow : t.get request.execution_request_id = some row)
      (hvalid : row.Valid py state result)
      (hdigest : row.request_digest = request.request_digest) :
      Claimed py now request t (row.toEntry state result) t

theorem claim_spec (ht : Table.Valid py t) (now : Fin MAX_MICROS) (request : WorkerExecutionRequest) :
    Spec (claim py now request) t t
      (fun e d w => d = w ∧ Claimed py now request t e w) (fun _ d => d = t) := by
  refine Spec.bind (spec_contract (fun _ hrequest => ?_) fun _ _ => rfl)
  refine Spec.bind (Spec.beginImmediate rfl ?_)
  refine Spec.bind (Spec.select rfl ?_)
  cases hget : t.get request.execution_request_id with
  | none =>
    refine Spec.bind (Spec.write rfl (Spec.bind (Spec.select rfl ?_)))
    refine Spec.bind (Spec.commit rfl ?_)
    rw [Dict.get_set_self]
    exact spec_entry_valid (claimedRow_valid hrequest now) ⟨rfl, .inserted hget hrequest⟩
  | some row =>
    obtain ⟨-, state, result, hrow⟩ := ht _ row hget
    refine Spec.bind (spec_entry (fun _ _ => ?_) fun _ => rfl)
    split
    · exact Spec.bind (Spec.rollback (Spec.throw rfl))
    · next hdigest =>
      refine Spec.bind (Spec.commit rfl ?_)
      exact spec_entry_valid hrow ⟨rfl, .found hget hrow (not_not.mp hdigest)⟩

/-- What `mark_executing` did when it returned: the claimed row of the request
passed the start barrier. -/
structure Started (py : Python) (now : Fin MAX_MICROS) (request : WorkerExecutionRequest) (t : Table)
    (row : Row) (e : DurableLedgerEntry) (t' : Table) : Prop where
  row_eq : t.get request.execution_request_id = some row
  claimed : row.Valid py .claimed none
  digest : row.request_digest = request.request_digest
  table_eq : t' = t.set request.execution_request_id (row.start (nowText py now))
  entry_eq : e = (row.start (nowText py now)).toEntry .executing none

/-- The owner that a start conflict reports is the stored row of the request. -/
def ReportsOwner (py : Python) (request : WorkerExecutionRequest) (t : Table) :
    LedgerError → Prop
  | .startConflict owner => ∃ row state result, t.get request.execution_request_id = some row ∧
      row.Valid py state result ∧ row.request_digest = request.request_digest ∧
      state ≠ .claimed ∧ owner = row.toEntry state result
  | _ => True

theorem Row.Valid.nonterminal_result {row : Row} {state : DurableState}
    {result : Option WorkerExecutionResult} (h : row.Valid py state result)
    (hstate : state.terminal = false) : row.result_json = none ∧ result = none := by
  have := h.outcome
  simpa [StoredOutcome, hstate] using this

theorem updateIn_of_get {id : String} {state : DurableState} {update : Row → Row} {row : Row}
    (h : t.get id = some row) (hstate : row.state = state.value) :
    updateIn id state update t = t.set id (update row) := by
  simp [updateIn, h, hstate]

theorem updateRow_of_get {id : String} {update : Row → Row} {row : Row}
    (h : t.get id = some row) : updateRow id update t = t.set id (update row) := by
  simp [updateRow, h]

theorem markExecuting_spec (ht : Table.Valid py t) (now : Fin MAX_MICROS)
    (request : WorkerExecutionRequest) :
    Spec (markExecuting py now request) t t
      (fun e d w => d = w ∧ ∃ row, Started py now request t row e w)
      (fun e d => d = t ∧ ReportsOwner py request t e) := by
  refine Spec.bind (spec_contract (fun _ _ => ?_) fun _ _ => ⟨rfl, trivial⟩)
  refine Spec.bind (Spec.beginImmediate ⟨rfl, trivial⟩ ?_)
  refine Spec.bind (spec_rowFor ⟨rfl, trivial⟩ (fun _ => ⟨rfl, trivial⟩) fun row hget => ?_)
  obtain ⟨-, state, result, hrow⟩ := ht _ row hget
  refine Spec.bind (Spec.bind (spec_entry_valid hrow ?_))
  split
  · exact Spec.throw ⟨rfl, trivial⟩
  · next hdigest =>
    refine Spec.pure ?_
    split
    · next hstate =>
      refine Spec.bind (spec_entry_valid hrow (Spec.throw ⟨rfl, row, state, result, hget, hrow,
        not_not.mp hdigest, ?_, rfl⟩))
      rintro rfl
      exact hstate hrow.state_eq
    · next hstate =>
      have hclaimed : state = .claimed := by
        simpa using congrArg DurableState.ofValue? (hrow.state_eq.symm.trans (not_not.mp hstate))
      subst hclaimed
      obtain rfl := (hrow.nonterminal_result rfl).2
      have hupdate : updateIn request.execution_request_id .claimed (·.start (nowText py now)) t =
          t.set request.execution_request_id (row.start (nowText py now)) :=
        updateIn_of_get hget hrow.state_eq
      refine Spec.bind (Spec.write ⟨rfl, trivial⟩ ?_)
      rw [hupdate]
      refine Spec.bind (spec_rowFor ⟨rfl, trivial⟩ (by simp) fun started hstarted => ?_)
      obtain rfl : row.start (nowText py now) = started := by simpa using hstarted
      refine Spec.bind (Spec.commit ⟨rfl, trivial⟩ ?_)
      exact spec_entry_valid (hrow.start now)
        ⟨rfl, row, hget, hrow, not_not.mp hdigest, rfl, rfl⟩

/-- What `persist_result` did when it returned: the request's row already held
this result, or it was still open and now holds it. -/
inductive Persisted (py : Python) (now : Fin MAX_MICROS) (request : WorkerExecutionRequest)
    (result : WorkerExecutionResult) (t : Table) : DurableLedgerEntry → Table → Prop
  | replayed {row : Row} {state : DurableState} {stored : WorkerExecutionResult}
      (hrow : t.get request.execution_request_id = some row)
      (hvalid : row.Valid py state (some stored))
      (hdigest : row.request_digest = request.request_digest)
      (hterminal : state.terminal = true) (hsame : sameDict stored result = true) :
      Persisted py now request result t (row.toEntry state (some stored)) t
  | stored {row : Row} {state : DurableState}
      (hrow : t.get request.execution_request_id = some row)
      (hvalid : row.Valid py state none)
      (hdigest : row.request_digest = request.request_digest)
      (hopen : state.terminal = false)
      (hbarrier : result.status = .succeeded → state = .executing)
      (hresult : result.validate py request = .ok ())
      (hfinished : (row.finish (persistedState result) result.encode (nowText py now)).Valid py
        (persistedState result) (some result)) :
      Persisted py now request result t
        ((row.finish (persistedState result) result.encode (nowText py now)).toEntry
          (persistedState result) (some result))
        (t.set request.execution_request_id
          (row.finish (persistedState result) result.encode (nowText py now)))

/-- A row that holds a result and is accepted by the validator holds that result. -/
theorem valid_finish_of_entry {row : Row} {state : DurableState} {r : WorkerExecutionResult}
    {now : String} {e : DurableLedgerEntry} (hr : r.validate py = .ok ())
    (hstate : state.terminal = true) (h : entry py (some (row.finish state r.encode now)) = .ok e) :
    (row.finish state r.encode now).Valid py state (some r) := by
  have hvalid := valid_of_entry h
  have hs : e.state = state := by
    simpa [Row.finish] using congrArg DurableState.ofValue? hvalid.state_eq.symm
  have houtcome := hvalid.outcome
  rw [hs] at hvalid houtcome
  simp only [StoredOutcome, hstate, if_true] at houtcome
  obtain ⟨raw, stored, hraw, hresult, -, hread, -⟩ := houtcome
  obtain rfl : r.encode = raw := by simpa [Row.finish] using hraw
  rw [decode_encode hr] at hread
  cases hread
  rwa [hresult] at hvalid

theorem persistedState_terminal (result : WorkerExecutionResult) :
    (persistedState result).terminal = true := by
  unfold persistedState
  split_ifs <;> rfl

theorem persistResult_spec (ht : Table.Valid py t) (now : Fin MAX_MICROS)
    (request : WorkerExecutionRequest) (result : WorkerExecutionResult) :
    Spec (persistResult py now request result) t t
      (fun e d w => d = w ∧ Persisted py now request result t e w) (fun _ d => d = t) := by
  refine Spec.bind (spec_contract (fun _ hresult => ?_) fun _ _ => rfl)
  refine Spec.bind (spec_contract (fun encoded hencoded => ?_) fun _ _ => rfl)
  obtain ⟨halone, rfl⟩ : result.validate py = .ok () ∧ result.encode = encoded := by
    simpa [WorkerExecutionResult.toDict, check_bind_eq_ok] using hencoded
  refine Spec.bind (Spec.beginImmediate rfl ?_)
  refine Spec.bind (spec_rowFor rfl (fun _ => rfl) fun row hget => ?_)
  obtain ⟨-, state, stored, hrow⟩ := ht _ row hget
  refine Spec.bind (spec_checkDigest (fun _ => rfl) fun hdigest => ?_)
  rw [hrow.state_eq, DurableState.ofValue_value]
  cases hterminal : state.terminal with
  | true =>
    simp only [Option.any_some, hterminal, if_true]
    refine Spec.bind (spec_entry_valid hrow ?_)
    split
    · next hsame =>
      obtain ⟨r, rfl⟩ : ∃ r, stored = some r := by
        cases stored with
        | none => simp [Row.toEntry] at hsame
        | some r => exact ⟨r, rfl⟩
      refine Spec.bind (Spec.commit rfl (Spec.pure ⟨rfl, ?_⟩))
      exact .replayed hget hrow hdigest hterminal (by simpa [Row.toEntry] using hsame)
    · exact Spec.bind (Spec.rollback (Spec.throw rfl))
  | false =>
    simp only [Option.any_some, hterminal, Bool.false_eq_true, if_false]
    split
    · exact Spec.throw rfl
    · next hbarrier =>
      obtain rfl := (hrow.nonterminal_result hterminal).2
      refine Spec.bind (spec_entry (fun e he => ?_) fun _ => rfl)
      have hfinished := valid_finish_of_entry halone (persistedState_terminal result) he
      refine Spec.bind (Spec.write rfl ?_)
      rw [updateRow_of_get hget]
      refine Spec.bind (spec_rowFor rfl (fun _ => rfl) fun row' hrow' => ?_)
      obtain rfl : row.finish _ _ _ = row' := by simpa using hrow'
      refine Spec.bind (Spec.commit rfl (spec_entry_valid hfinished ⟨rfl, ?_⟩))
      refine .stored hget hrow hdigest hterminal (fun hs => ?_) hresult hfinished
      by_contra hne
      refine hbarrier ⟨hs, fun hvalue => hne ?_⟩
      simpa using congrArg DurableState.ofValue? hvalue

/-- What ending an execution with an unknown outcome does to its row. -/
def Row.abandon (py : Python) (now : Fin MAX_MICROS) (row : Row) : Row :=
  row.finish .unknownOutcome (unknownResult row.execution_request_id).encode (nowText py now)

theorem markUnknownOutcome_spec (ht : Table.Valid py t) (now : Fin MAX_MICROS) (id : String) :
    Spec (markUnknownOutcome py now id) t t
      (fun _ d w => d = w ∧ ∃ row state result, t.get id = some row ∧ row.Valid py state result ∧
        ((state = .executing ∧ w = t.set id (row.abandon py now)) ∨ (state ≠ .executing ∧ w = t)))
      (fun _ d => d = t) := by
  refine Spec.bind (spec_contract (fun encoded hencoded => ?_) fun _ _ => rfl)
  obtain ⟨-, rfl⟩ : (unknownResult id).validate py = .ok () ∧
      (unknownResult id).encode = encoded := by
    simpa [WorkerExecutionResult.toDict, check_bind_eq_ok] using hencoded
  refine Spec.bind (Spec.beginImmediate rfl ?_)
  refine Spec.bind (spec_rowFor rfl (fun _ => rfl) fun row hget => ?_)
  obtain ⟨hid, state, result, hrow⟩ := ht _ row hget
  refine Spec.bind (spec_entry_valid hrow ?_)
  split
  · next hstate =>
    have hexecuting : state = .executing := by
      simpa using congrArg DurableState.ofValue? (hrow.state_eq.symm.trans hstate)
    subst hexecuting
    refine Spec.bind (Spec.write rfl ?_)
    rw [updateRow_of_get hget]
    refine Spec.bind (spec_rowFor rfl (fun _ => rfl) fun row' hrow' => ?_)
    obtain rfl : row.finish _ _ _ = row' := by simpa using hrow'
    refine Spec.bind (Spec.commit rfl ?_)
    subst hid
    exact spec_entry_valid (hrow.abandon now) ⟨rfl, row, _, _, hget, hrow, .inl ⟨rfl, rfl⟩⟩
  · next hstate =>
    refine Spec.bind (Spec.commit rfl (spec_entry_valid hrow ⟨rfl, row, _, _, hget, hrow, .inr ?_⟩))
    exact ⟨fun h => hstate (h ▸ hrow.state_eq), rfl⟩

/-- The row under an identity after the updates for a list of identities. -/
def abandonRow (py : Python) (now : Fin MAX_MICROS) (ids : List String) (id : String) (row : Row) : Row :=
  if id ∈ ids ∧ row.state = DurableState.executing.value then
    row.finish .unknownOutcome (unknownResult id).encode (nowText py now)
  else row

theorem get_updateIn (request_id id : String) (state : DurableState) (update : Row → Row) :
    (updateIn request_id state update t).get id = (t.get id).map fun row =>
      if id = request_id ∧ row.state = state.value then update row else row := by
  unfold updateIn
  cases hget : t.get request_id with
  | none =>
    cases hid : t.get id with
    | none => rfl
    | some row =>
      have hne : id ≠ request_id := by
        rintro rfl
        simp [hget] at hid
      simp [hne]
  | some row =>
    by_cases hstate : row.state = state.value
    · by_cases hne : request_id = id
      · subst hne
        simp [hget, hstate]
      · simp [hstate, Dict.get_set_of_ne _ _ hne, Ne.symm hne]
    · by_cases hne : request_id = id
      · subst hne
        simp [hget, hstate]
      · simp [hstate, Ne.symm hne]

/-- The updates for a list of identities touch the executing rows under them. -/
theorem spec_reconcileRows (now : Fin MAX_MICROS) {Q : Unit → Table → Table → Prop} (ids : List String)
    (herror : ∀ e, E e committed)
    (hok : ∀ w, (∀ id, w.get id = (working.get id).map (abandonRow py now ids id)) →
      Q () committed w) :
    Spec (reconcileRows py (nowText py now) ids) committed working Q E := by
  induction ids generalizing working with
  | nil =>
    refine Spec.pure (hok working fun id => ?_)
    cases working.get id <;> simp [abandonRow]
  | cons request_id rest ih =>
    refine Spec.bind (spec_contract (fun encoded hencoded => ?_) fun _ _ => herror _)
    obtain ⟨-, rfl⟩ : (unknownResult request_id).validate py = .ok () ∧
        (unknownResult request_id).encode = encoded := by
      simpa [WorkerExecutionResult.toDict, check_bind_eq_ok] using hencoded
    refine Spec.bind (Spec.write (herror _) (ih fun w hw => hok w fun id => ?_))
    rw [hw id, get_updateIn, Option.map_map]
    congr 1
    funext row
    -- A row abandoned for the first identity is not executing any more.
    have hdone : DurableState.unknownOutcome.value ≠ DurableState.executing.value := by decide
    by_cases hid : id = request_id
    · subst hid
      by_cases hstate : row.state = DurableState.executing.value
      · simp [abandonRow, hstate, Row.finish, hdone]
      · simp [abandonRow, hstate]
    · simp [abandonRow, hid]

/-- `reconcile_startup` abandons exactly the executing rows. -/
theorem reconcileStartup_spec (ht : Table.Valid py t) (now : Fin MAX_MICROS) :
    Spec (reconcileStartup py now) t t
      (fun _ d w => d = w ∧ ∀ id, w.get id = (t.get id).map fun row =>
        if row.state = DurableState.executing.value then row.abandon py now else row)
      (fun _ d => d = t) := by
  refine Spec.bind (Spec.beginImmediate rfl (Spec.bind (Spec.select rfl ?_)))
  refine Spec.bind (Spec.lift (fun entries hentries => ?_) fun _ _ => rfl)
  refine Spec.bind (spec_reconcileRows now _ (fun _ => rfl) fun w hw => ?_)
  refine Spec.bind (Spec.commit rfl (Spec.pure ⟨rfl, fun id => ?_⟩))
  rw [hw id]
  cases hget : t.get id with
  | none => rfl
  | some row =>
    by_cases hstate : row.state = DurableState.executing.value
    · have hmem : row ∈ t.items.map Prod.snd :=
        List.mem_map.mpr ⟨(id, row), Dict.mem_items.mpr hget, rfl⟩
      obtain ⟨e, he, hentry⟩ := exists_of_mapM_eq_ok hentries hmem
      obtain ⟨hid, state, result, hrow⟩ := ht id row hget
      obtain rfl : state = .executing := by
        simpa using congrArg DurableState.ofValue? (hrow.state_eq.symm.trans hstate)
      obtain rfl : row.toEntry .executing result = e := by
        simpa [hrow.entry] using hentry
      have hexecuting : id ∈ (entries.filter (·.state = .executing)).map
          (·.execution_request_id) :=
        List.mem_map.mpr ⟨_, List.mem_filter.mpr ⟨he, by simp [Row.toEntry]⟩, hid⟩
      simp only [Option.map_some, abandonRow, hexecuting, hstate, and_self, if_true, Row.abandon,
        hid]
    · simp [abandonRow, hstate]

end Specifications

end AtlasOS.Worker
