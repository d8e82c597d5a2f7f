import AtlasOS.Agent.RoundTrip
import AtlasOS.Lib.Effect

/-!
# Durable state

The coordinator of `snapshot.py` and the patch journal. The state of the Agent
is the contents of its stores and of the two files that it keeps; a write can
fail at any of its steps, and what it had changed before that stays changed.
The coordinator has a planning store, as the application builds it.
-/

namespace AtlasOS.Agent

open Effect Worker

variable {py : Python} {Ctx α : Type}

/-- The content of a file that is expected to hold JSON text. -/
inductive StoredFile where
  /-- There is no such file. -/
  | missing
  /-- The file has the text of a value. -/
  | json (value : Json)
  /-- The text is not JSON. -/
  | corrupt
  /-- The file cannot be read. -/
  | unreadable
  deriving DecidableEq

/-- The stores of a running Agent and the files in its state directory. -/
structure System (py : Python) (Ctx : Type) where
  /-- The live workflow, approval and planning stores. -/
  live : Aggregate py Ctx
  /-- `atlas-agent-state.json` -/
  snapshot : StoredFile
  /-- `worker-patch-journal.json` -/
  journal : StoredFile

/-- A step of a write, which fails if it is the one given. -/
def step {σ Step : Type} [DecidableEq Step] (fault : Option Step) (s : Step) (error : PyError) :
    Effect σ Unit :=
  attempt (decide (fault = some s)) error

/-! ## The patch journal -/

/-- The steps at which writing the journal can fail. -/
inductive JournalStep where
  | createDirectory | encodeText | openTemporary | writeTemporary | flushTemporary | syncTemporary
  | closeTemporary | chmodTemporary | replace | chmodFile
  deriving DecidableEq

namespace PatchJournal

/-- What `PatchJournal.read` checks of the journal. -/
def validate (payload : Fields) : Except PyError Unit := do
  require (match payload.get "patch_digest" with
      | .null => true
      | .str digest => matchesDigest "sha256:" digest
      | _ => false)
    (.patchJournalError "worker patch journal digest is invalid")
  require (match payload.get "patch" with
      | .null | .str _ => true
      | _ => false)
    (.patchJournalError "worker patch journal patch is invalid")

/-- `PatchJournal.read` -/
def read : StoredFile → Except PyError (Option Fields)
  | .missing => .ok none
  | .json (.obj payload) => do
      validate payload
      return some payload
  | .json _ => .error (.patchJournalError "worker patch journal is invalid")
  | .corrupt | .unreadable => .error (.patchJournalError "worker patch journal cannot be read")

/-- `PatchJournal.write` -/
def write (fault : Option JournalStep) (payload : Fields) : Effect (System py Ctx) Unit := do
  let error := PyError.patchJournalError "worker patch journal cannot be written"
  step fault .createDirectory .osError
  step fault .encodeText (.typeError "Object is not JSON serializable")
  step fault .openTemporary error
  step fault .writeTemporary error
  step fault .flushTemporary error
  step fault .syncTemporary error
  step fault .closeTemporary error
  step fault .chmodTemporary error
  step fault .replace error
  update fun s => { s with journal := .json (.obj payload) }
  step fault .chmodFile error

/-- `PatchJournal.clear` -/
def clear (fails : Bool) : Effect (System py Ctx) Unit := do
  attempt fails (.patchJournalError "worker patch journal cannot be finalized")
  update fun s => { s with journal := .missing }

end PatchJournal

/-! ## The coordinator -/

/-- The steps at which writing the snapshot can fail. -/
inductive WriteStep where
  | createDirectory | checkDirectory | accessDirectory | encodeText | openTemporary
  | writeTemporary | flushTemporary | syncTemporary | closeTemporary | replace | openDirectory
  | syncDirectory | closeDirectory
  deriving DecidableEq

/-- Whether a step comes after the new snapshot has taken the place of the old one. -/
def WriteStep.afterReplace : WriteStep → Bool
  | .openDirectory | .syncDirectory | .closeDirectory => true
  | _ => false

/-- `AgentStatePersistenceCoordinator` -/
structure Coordinator (Ctx : Type) where
  context_model : ContextModel Ctx
  state_dir : Path

namespace Coordinator

/-- `_prepare_state_dir` -/
def prepareStateDir (c : Coordinator Ctx) (fault : Option WriteStep) :
    Effect (System py Ctx) Unit := do
  step fault .createDirectory
    (.statePersistenceError ("Failed to create state directory: " ++ c.state_dir.text))
  step fault .checkDirectory
    (.statePersistenceError ("State path is not a directory: " ++ c.state_dir.text))
  step fault .accessDirectory
    (.statePersistenceError ("State directory is not readable and writable: " ++ c.state_dir.text))

/-- `_read_snapshot` of a file that exists. -/
def readSnapshot : StoredFile → Except PyError Fields
  | .json (.obj payload) => .ok payload
  | .json _ => invalid "Persisted Agent state must be a JSON object"
  | .corrupt => invalid "Persisted Agent state is corrupt JSON"
  | .missing | .unreadable => invalid "Persisted Agent state cannot be read"

/-- `_write_payload` -/
def writePayload (c : Coordinator Ctx) (fault : Option WriteStep) (payload : Fields) :
    Effect (System py Ctx) Unit := do
  c.prepareStateDir fault
  let error := PyError.statePersistenceError "Persisted Agent state cannot be written"
  step fault .encodeText (.valueError "surrogates not allowed")
  step fault .openTemporary error
  step fault .writeTemporary error
  step fault .flushTemporary error
  step fault .syncTemporary error
  step fault .closeTemporary error
  step fault .replace error
  update fun s => { s with snapshot := .json (.obj payload) }
  step fault .openDirectory error
  step fault .syncDirectory error
  step fault .closeDirectory error

/-- `_commit_candidates` -/
def commitCandidates (c : Coordinator Ctx) (fault : Option WriteStep)
    (candidate : Aggregate py Ctx) : Effect (System py Ctx) Unit := do
  lift candidate.validateAggregate
  let payload ← lift (encodePayload c.context_model candidate)
  c.writePayload fault payload
  update fun s => { s with live := candidate }

/-- `mutate_aggregate` -/
def mutateAggregate (c : Coordinator Ctx) (fault : Option WriteStep)
    (mutation : Mutation py Ctx α) : Effect (System py Ctx) α := do
  let s ← Effect.read
  let (result, candidate) ← lift (mutation s.live)
  c.commitCandidates fault candidate
  return result

/-- `persist_current_state` -/
def persistCurrentState (c : Coordinator Ctx) (fault : Option WriteStep) :
    Effect (System py Ctx) Unit := do
  let s ← Effect.read
  c.commitCandidates fault s.live

/-- `_INTERRUPTION_REASONS` -/
def INTERRUPTION_REASONS : WorkflowSessionState → Option String
  | .executing => some "implementation interrupted by process restart"
  | .verifying => some "verification or review interrupted by process restart"
  | .committing => some "commit interrupted by process restart"
  | _ => none

/-- Whether the patch journal names a workflow. -/
def names (journal : Option Fields) (identifier : String) : Bool :=
  journal.any fun payload => decide (payload.get "workflow_id" = .str identifier)

/-- The reason for which a start interrupts a session, if it does. -/
def interruption (journal : Option Fields) (identifier : String) (session : WorkflowSession Ctx) :
    Option String :=
  if session.state = .executing ∧ names journal identifier = true then none
  else INTERRUPTION_REASONS session.state

/-- One pass of the loop of `_recover_claimed_sessions`. -/
def recoverSession (journal : Option Fields) (identifier : String) (session : Session py Ctx) :
    Except PyError (Session py Ctx) :=
  match interruption journal identifier session.toWorkflowSession with
  | none => .ok session
  | some reason => session.replace fun s =>
      { s with state := .blocked, blocked_reason := .str reason }

/-- `_recover_claimed_sessions`: whether a session was transformed, and the new candidate. -/
def recoverClaimedSessions (journal : Option Fields) (a : Aggregate py Ctx) :
    Except PyError (Bool × Aggregate py Ctx) := do
  let entries ← a.sessions.items.mapM fun entry => do
    let session ← recoverSession journal entry.1 entry.2
    return (entry.1, session)
  let transformed := a.sessions.items.any fun entry =>
    (interruption journal entry.1 entry.2.toWorkflowSession).isSome
  return (transformed, { a with sessions := Dict.ofItems entries })

/-- `initialize` from the payload of an existing snapshot. -/
def initializeFrom (c : Coordinator Ctx) (fault : Option WriteStep) (payload : Fields) :
    Effect (System py Ctx) Unit := do
  let s ← Effect.read
  let decoded ← lift (decodePayload c.context_model payload)
  let journal ← lift (PatchJournal.read s.journal)
  let (transformed, candidate) ← lift (recoverClaimedSessions journal decoded)
  lift candidate.validateAggregate
  if transformed then do
    let payload ← lift (encodePayload c.context_model candidate)
    c.writePayload fault payload
    update fun s => { s with live := candidate }
  else
    update fun s => { s with live := candidate }

/-- `initialize` -/
def initializeState (c : Coordinator Ctx) (fault : Option WriteStep) :
    Effect (System py Ctx) Unit := do
  c.prepareStateDir fault
  let s ← Effect.read
  if s.snapshot = .missing then return ()
  else do
    let payload ← lift (readSnapshot s.snapshot)
    c.initializeFrom fault payload

end Coordinator

/-! ## What a write does -/

section Run

variable {σ Step : Type} [DecidableEq Step] {fault : Option Step} {s : Step} {error : PyError}

theorem exec_step_bind (next : Unit → Effect σ α) (state : σ) :
    exec (step fault s error >>= next) state =
      if fault = some s then (.error error, state) else exec (next ()) state := by
  simp [step, exec_attempt_bind]

theorem exec_step (state : σ) :
    exec (step fault s error) state =
      if fault = some s then (.error error, state) else (.ok (), state) := by
  by_cases h : fault = some s <;> simp [step, attempt, h]

end Run

namespace Coordinator

variable {c : Coordinator Ctx} {payload : Fields} {s : System py Ctx}

theorem exec_writePayload_none :
    exec (c.writePayload none payload) s = (.ok (), { s with snapshot := .json (.obj payload) }) := by
  simp [writePayload, prepareStateDir, exec_step_bind, exec_step, bind_assoc]

/-- A write that fails has replaced the file exactly if it fails afterwards. -/
theorem exec_writePayload_some (c : Coordinator Ctx) (payload : Fields) (s : System py Ctx)
    (fault : WriteStep) :
    ∃ e, exec (c.writePayload (some fault) payload) s =
      (.error e, if fault.afterReplace then { s with snapshot := .json (.obj payload) } else s) := by
  cases fault <;>
    simp [writePayload, prepareStateDir, exec_step_bind, exec_step, bind_assoc,
      WriteStep.afterReplace]

/-- A mutation returns, and its candidate is accepted for writing. -/
structure Commits (c : Coordinator Ctx) (mutation : Mutation py Ctx α) (s : System py Ctx)
    (result : α) (candidate : Aggregate py Ctx) (payload : Fields) : Prop where
  returned : mutation s.live = .ok (result, candidate)
  accepted : candidate.Accepted c.context_model payload

variable {mutation : Mutation py Ctx α} {result : α} {candidate : Aggregate py Ctx}

/-- The commit of an accepted candidate is its write followed by the exchange of the stores. -/
theorem exec_commitCandidates (h : candidate.Accepted c.context_model payload)
    (fault : Option WriteStep) :
    exec (c.commitCandidates fault candidate) s =
      exec (c.writePayload fault payload >>= fun _ => update fun s => { s with live := candidate })
        s := by
  rw [commitCandidates, h.valid, h.encoded]
  simp only [exec_lift_ok_bind]

theorem Commits.exec_mutateAggregate (h : Commits c mutation s result candidate payload)
    (fault : Option WriteStep) :
    exec (c.mutateAggregate fault mutation) s =
      exec (c.writePayload fault payload >>= fun _ => do
        update fun s => { s with live := candidate }
        return result) s := by
  rw [mutateAggregate, exec_read_bind, h.returned, exec_lift_ok_bind, exec_bind,
    exec_commitCandidates h.accepted, ← exec_bind, bind_assoc]

/-- Without a failure, the stores and the snapshot hold the candidate. -/
theorem Commits.exec_none (h : Commits c mutation s result candidate payload) :
    exec (c.mutateAggregate none mutation) s =
      (.ok result, { s with live := candidate, snapshot := .json (.obj payload) }) := by
  rw [h.exec_mutateAggregate, exec_bind, exec_writePayload_none]
  exact exec_update_bind _ _ _

/-- A failed write keeps the stores, and keeps the snapshot unless it failed after the
replacement. -/
theorem Commits.exec_some (h : Commits c mutation s result candidate payload)
    (fault : WriteStep) :
    ∃ e, exec (c.mutateAggregate (some fault) mutation) s =
      (.error e, if fault.afterReplace then { s with snapshot := .json (.obj payload) } else s) := by
  obtain ⟨e, he⟩ := exec_writePayload_some c payload s fault
  refine ⟨e, ?_⟩
  rw [h.exec_mutateAggregate, exec_bind, he]

/-- A mutation that does not commit raises and changes nothing. -/
theorem exec_mutateAggregate_of_not_commits
    (h : ∀ result candidate payload, ¬Commits c mutation s result candidate payload)
    (fault : Option WriteStep) :
    ∃ e, exec (c.mutateAggregate fault mutation) s = (.error e, s) := by
  rw [mutateAggregate, exec_read_bind]
  cases hmutation : mutation s.live with
  | error e => exact ⟨e, exec_lift_error_bind _ _ _⟩
  | ok returned =>
    obtain ⟨result, candidate⟩ := returned
    rw [exec_lift_ok_bind, exec_bind, commitCandidates]
    cases hvalid : candidate.validateAggregate with
    | error e => exact ⟨e, by rw [exec_lift_error_bind]⟩
    | ok =>
      cases hpayload : encodePayload c.context_model candidate with
      | error e => exact ⟨e, by rw [exec_lift_ok_bind, exec_lift_error_bind]⟩
      | ok payload => exact absurd ⟨hmutation, hvalid, hpayload⟩ (h result candidate payload)

/-! ## A coordinator to evaluate with -/

/-- The coordinator of a state directory, with contexts that are their own fields. -/
def plain : Coordinator Fields where
  context_model := .fields
  state_dir := .ofString "/var/lib/atlas-agent"

/-- An Agent that has stored nothing yet. -/
def fresh : System .plain Fields where
  live := .empty .plain Fields
  snapshot := .missing
  journal := .missing

end Coordinator

end AtlasOS.Agent
