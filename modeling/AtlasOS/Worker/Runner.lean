import AtlasOS.Worker.Contracts
import AtlasOS.Lib.Text

/-!
# The workspace runner

One execution of an approved request in a disposable workspace. What the commands
and the file system answer is given; the runner turns the answers into a result,
and its result is expected to be one that the contract accepts for the request.
-/

namespace AtlasOS.Worker

/-! ## Captured commands -/

/-- `bytes.decode("utf-8", errors="ignore")` -/
structure Decoder where
  decode : List UInt8 → String
  /-- Bytes that are not UTF-8 are left out, and nothing is added. -/
  size_le : ∀ bytes, (decode bytes).utf8ByteSize ≤ bytes.length
  decode_nil : decode [] = ""

/-- `MAX_CAPTURE_BYTES` -/
def MAX_CAPTURE_BYTES : ℕ := 1048576

/-- `MAX_PATCH_CAPTURE_BYTES` -/
def MAX_PATCH_CAPTURE_BYTES : ℕ := min 4194304 MAX_CAPTURE_BYTES

/-- `_Capture` -/
structure Capture where
  limit : ℕ
  kept : List UInt8
  total : ℕ

/-- Text that was read completely, or cut after so many bytes, is a valid output. -/
theorem BoundedOutput.validate_of_read {text : String} {total : ℕ}
    (hsize : text.utf8ByteSize ≤ MAX_TEXT_BYTES) (htotal : text.utf8ByteSize ≤ total) :
    BoundedOutput.validate ⟨text, decide (text.utf8ByteSize < total), some total⟩ = .ok () := by
  rcases htotal.lt_or_eq with hcut | hall
  · simp [validate, hsize, hcut, htotal]
  · simp [validate, hall, hall ▸ hsize]

namespace Capture

/-- `_Capture.add` -/
def add (c : Capture) (chunk : List UInt8) : Capture :=
  { c with
    total := c.total + chunk.length
    kept := c.kept ++ chunk.take (c.limit - c.kept.length) }

/-- `_Capture.output` -/
def output (d : Decoder) (c : Capture) : BoundedOutput :=
  let text := d.decode c.kept
  ⟨text, decide (text.utf8ByteSize < c.total), some c.total⟩

/-- The capture of everything that was read from a stream. -/
def ofChunks (limit : ℕ) (chunks : List (List UInt8)) : Capture := chunks.foldl add ⟨limit, [], 0⟩

/-- What is kept fits the limit, and was read. -/
structure Bounded (c : Capture) : Prop where
  limit : c.kept.length ≤ c.limit
  total : c.kept.length ≤ c.total

theorem Bounded.add {c : Capture} (h : c.Bounded) (chunk : List UInt8) : (c.add chunk).Bounded := by
  obtain ⟨hlimit, htotal⟩ := h
  constructor
  · simp only [Capture.add, List.length_append, List.length_take]
    omega
  · simp only [Capture.add, List.length_append, List.length_take]
    omega

theorem limit_foldl_add (c : Capture) (chunks : List (List UInt8)) :
    (chunks.foldl add c).limit = c.limit := by
  induction chunks generalizing c with
  | nil => rfl
  | cons chunk chunks ih => exact ih (c.add chunk)

theorem Bounded.foldl_add {c : Capture} (h : c.Bounded) (chunks : List (List UInt8)) :
    (chunks.foldl Capture.add c).Bounded := by
  induction chunks generalizing c with
  | nil => exact h
  | cons chunk chunks ih => exact ih (h.add chunk)

theorem bounded_ofChunks (limit : ℕ) (chunks : List (List UInt8)) :
    (ofChunks limit chunks).Bounded :=
  Bounded.foldl_add ⟨by simp, by simp⟩ chunks

/-- A captured stream is a valid output, when its limit is within the bound of the contract. -/
theorem validate_output (d : Decoder) {limit : ℕ} (hlimit : limit ≤ MAX_TEXT_BYTES)
    (chunks : List (List UInt8)) : ((ofChunks limit chunks).output d).validate = .ok () := by
  have hbounded := bounded_ofChunks limit chunks
  have hsame : (ofChunks limit chunks).limit = limit := limit_foldl_add _ chunks
  have hsize := d.size_le (ofChunks limit chunks).kept
  have hkept : (d.decode (ofChunks limit chunks).kept).utf8ByteSize ≤ MAX_TEXT_BYTES := by
    have := hbounded.limit
    omega
  have htotal := hsize.trans hbounded.total
  exact BoundedOutput.validate_of_read hkept htotal

end Capture

/-- The exceptions of a run, by the handler that they meet. -/
inductive RunnerError where
  /-- `WorkspaceError` -/
  | workspace (message : String)
  | workspaceTimeout
  | repositoryControlChanged
  | patchTooLarge
  /-- `subprocess.TimeoutExpired`, with what `CommandTimeout` captured. -/
  | timeoutExpired (captured : Option (BoundedOutput × BoundedOutput))
  /-- An exception that the runner does not handle. -/
  | other (error : PyError)
  deriving DecidableEq

/-- `CapturedCommand` -/
structure CapturedCommand where
  returncode : Int
  stdout : BoundedOutput
  stderr : BoundedOutput

/-- What comes of a command: its exit code and what it wrote, chunk by chunk. -/
inductive CommandAnswer where
  | finished (returncode : Int) (stdout stderr : List (List UInt8))
  /-- The time of the command is over. -/
  | timedOut (stdout stderr : List (List UInt8))
  /-- The killed process does not end. -/
  | expired
  /-- The command cannot be started. -/
  | failed (error : PyError)

/-- `run_command` -/
def runCommand (d : Decoder) (output_limit : ℕ) : CommandAnswer → Except RunnerError CapturedCommand
  | .finished returncode stdout stderr =>
      .ok ⟨returncode, (Capture.ofChunks output_limit stdout).output d,
        (Capture.ofChunks output_limit stderr).output d⟩
  | .timedOut stdout stderr =>
      .error (.timeoutExpired (some ((Capture.ofChunks output_limit stdout).output d,
        (Capture.ofChunks output_limit stderr).output d)))
  | .expired => .error (.timeoutExpired none)
  | .failed error => .error (.other error)

/-! ## The workspace -/

/-- `WorkerWorkspace`, without its path. -/
structure WorkerWorkspace where
  base_head : String
  request_digest : String

/-- What the file system and Git answer while a workspace is prepared. -/
structure PrepareAnswers where
  /-- `_request_path` -/
  request_path : Except RunnerError Unit
  /-- The active workspace of the request, and whether its directory is there. -/
  active : Option (WorkerWorkspace × Bool)
  source_valid : Bool
  source_configured : Bool
  /-- `rev-parse HEAD` of the source, within the deadline. -/
  source_head : Except RunnerError String
  path_exists : Bool
  /-- `git clone`, and whether it succeeded. -/
  clone : Except RunnerError Bool
  /-- `rev-parse HEAD` of the clone, within the deadline. -/
  cloned_head : Except RunnerError String

/-- The exceptions of the clone as `prepare` raises them. -/
def preparationError : RunnerError → RunnerError
  | .workspaceTimeout | .timeoutExpired _ => .workspaceTimeout
  | .other .osError => .workspace "workspace preparation failed"
  | .other error => .other error
  | _ => .workspace "workspace preparation failed"

/-- The clone of the source, whose head is compared with the expected one. -/
def cloneHead (expected : String) (a : PrepareAnswers) : Except RunnerError String := do
  let cloned ← a.clone
  if !cloned then .error (.workspace "workspace clone failed")
  else do
    let head ← a.cloned_head
    (if head ≠ expected then
      .error (.workspace "cloned workspace head does not match expected head")
    else return head)

theorem head_of_cloneHead {expected head : String} {a : PrepareAnswers}
    (h : cloneHead expected a = .ok head) : head = expected := by
  simp only [cloneHead, bind_eq_ok] at h
  obtain ⟨cloned, -, h⟩ := h
  split_ifs at h
  obtain ⟨found, -, h⟩ := bind_eq_ok.mp h
  split_ifs at h with hdiffers
  cases h
  exact not_not.mp hdiffers

/-- `WorkerWorkspaceManager.prepare` of a valid request -/
def prepareWorkspace (repository_token : String) (request : WorkerExecutionRequest)
    (a : PrepareAnswers) : Except RunnerError WorkerWorkspace := do
  a.request_path
  if request.repository_token ≠ repository_token then
    .error (.workspace "repository token is not accepted")
  else match a.active with
  | some (existing, present) =>
      if existing.base_head ≠ request.expected_repository_head ∨
          existing.request_digest ≠ request.request_digest then
        .error (.workspace "request workspace has conflicting immutable request")
      else if !present then .error (.workspace "active workspace material is unavailable")
      else return existing
  | none =>
      if !a.source_valid then .error (.workspace "trusted repository source is invalid")
      else if !a.source_configured then .error (.workspace "repository source is not configured")
      else do
        let source_head ← a.source_head
        (if source_head ≠ request.expected_repository_head then
          .error (.workspace "stale repository")
        else if a.path_exists then .error (.workspace "request workspace already exists")
        else match cloneHead request.expected_repository_head a with
          | .ok head => return ⟨head, request.request_digest⟩
          | .error error => .error (preparationError error))

/-- A prepared workspace is at the head that the request expects. -/
theorem base_head_of_prepareWorkspace {repository_token : String}
    {request : WorkerExecutionRequest} {a : PrepareAnswers} {workspace : WorkerWorkspace}
    (h : prepareWorkspace repository_token request a = .ok workspace) :
    workspace.base_head = request.expected_repository_head := by
  simp only [prepareWorkspace, bind_eq_ok, exists_unit] at h
  obtain ⟨-, h⟩ := h
  split at h
  · cases h
  split at h
  · next existing present _ =>
    split_ifs at h with hconflict hgone
    rw [pure_eq_ok, Except.ok.injEq] at h
    subst h
    by_contra hne
    exact hconflict (.inl hne)
  · split at h
    · cases h
    split at h
    · cases h
    simp only [bind_eq_ok] at h
    obtain ⟨source_head, -, h⟩ := h
    split_ifs at h
    split at h
    · next head hclone =>
      cases h
      exact head_of_cloneHead hclone
    · cases h

/-! ## Changed files -/

/-- Whether a status letter announces the name that a path had before. -/
def isRename (c : Char) : Bool := c ∈ ['R', 'C']

/-- The path of one record of `git status`, after two bytes and a blank, and whether another
record with the former path follows. -/
def statusRecord : List Char → Option (Bool × List Char)
  | [] => none
  | x :: rest =>
      if x.utf8Size = 2 then
        match rest with
        | ' ' :: c :: name => some (false, c :: name)
        | _ => none
      else if x.utf8Size = 1 then
        match rest with
        | y :: ' ' :: c :: name =>
            if y.utf8Size = 1 then some (isRename x || isRename y, c :: name) else none
        | _ => none
      else none

/-- Whether a changed path is in the supported scope. -/
def supportedName (name : List Char) : Bool :=
  name ≠ [] && name.head? ≠ some '/' && !(pathParts name).contains ['.', '.'] &&
    !name.contains '\\'

/-- The names in the records, in their order. -/
def statusNames : List (List Char) → Except RunnerError (List (List Char))
  | [] => .ok []
  | record :: rest =>
      match statusRecord record, rest with
      | none, _ => .error (.workspace "invalid repository status")
      | some (false, name), rest => do
          let names ← statusNames rest
          return name :: names
      | some (true, _), [] => .error (.workspace "incomplete rename status")
      | some (true, name), former :: rest => do
          let names ← statusNames rest
          return name :: former :: names

/-- `_changed_files` -/
def changedFiles (d : Decoder) (answer : CommandAnswer) : Except RunnerError (List String) := do
  let result ← runCommand d MAX_CAPTURE_BYTES answer
  if result.returncode ≠ 0 ∨ result.stdout.truncated then
    .error (.workspace "unsupported repository status")
  else
    let records := result.stdout.text.toList.splitOn '\x00'
    if records.getLast? ≠ some [] then .error (.workspace "unterminated repository status")
    else do
      let names ← statusNames records.dropLast
      (if names.all supportedName then
        return ((names.map fun name => String.ofList (normalizeChars name)).dedup).insertionSort
          (· ≤ ·)
      else .error (.workspace "changed path escapes supported scope"))

/-! ## The runner -/

/-- `WorkspaceExecutionRunner`, with the token that its workspaces are for. -/
structure WorkspaceExecutionRunner where
  repository_token : String
  enabled : Bool
  /-- The last observation of the runtime. -/
  attestation : Option WorkerAttestation
  /-- An observation is kept once it is valid. -/
  attestation_valid : ∀ a ∈ attestation, a.validate = .ok ()

/-- What comes of `_run_rc1_smoke`. -/
inductive SmokeAnswer where
  /-- The marker is written. -/
  | written
  /-- The target is missing or outside, or has the marker already. -/
  | refused
  | failed (error : PyError)

/-- What the runtime, the file system and the commands answer during one execution. -/
structure RunAnswers where
  /-- The observation of the attestation provider. -/
  observed : Except PyError WorkerAttestation
  prepare : PrepareAnswers
  /-- Whether the working directory is inside the workspace. -/
  inside : Bool
  smoke : SmokeAnswer
  /-- The digests of the metadata before and after the process, when it is readable. -/
  controls : Option String
  controls_after : Option String
  process : CommandAnswer
  /-- `rev-parse HEAD` after the process. -/
  head_after : CommandAnswer
  /-- `git add` -/
  staged : CommandAnswer
  /-- `git status` -/
  status : CommandAnswer
  /-- `git diff` -/
  diff : CommandAnswer
  /-- The last `rev-parse HEAD`. -/
  head : CommandAnswer
  /-- The manager's `cleanup`. -/
  cleanup : Except RunnerError Unit
  /-- The difference of the monotonic clock. -/
  elapsed : ℚ

/-- `_control_digest` -/
def controlDigest : Option String → Except RunnerError String
  | some digest => .ok digest
  | none => .error .repositoryControlChanged

/-- `_git(root, "rev-parse", "HEAD")` -/
def revParse (d : Decoder) (answer : CommandAnswer) : Except RunnerError String := do
  let result ← runCommand d MAX_CAPTURE_BYTES answer
  if result.returncode ≠ 0 ∨ result.stdout.truncated then
    .error (.workspace "workspace metadata unavailable")
  else return strip result.stdout.text

/-- `_patch` -/
def patchText (d : Decoder) (answer : CommandAnswer) : Except RunnerError String := do
  let result ← runCommand d MAX_PATCH_CAPTURE_BYTES answer
  if result.returncode ≠ 0 then .error (.workspace "patch generation failed")
  else if result.stdout.truncated then .error .patchTooLarge
  else return result.stdout.text

/-- `_bounded` of a text within the bound, which a command never exceeds. -/
def bounded (text : String) : BoundedOutput := ⟨text, false, some text.utf8ByteSize⟩

/-- The digest of a patch. -/
def patchDigest (py : Python) (patch_text : String) : String := "sha256:" ++ py.sha256 patch_text

namespace WorkspaceExecutionRunner

/-- `_result` of a blocked execution, with the defaults of its other arguments. -/
def blocked (r : WorkspaceExecutionRunner) (request : WorkerExecutionRequest)
    (failure : Option WorkerFailureCode) (elapsed : ℚ) : WorkerExecutionResult where
  schema_version := 1
  execution_request_id := request.execution_request_id
  status := .blocked
  return_code := none
  stdout := ⟨"", false, none⟩
  stderr := ⟨"", false, none⟩
  changed_files := []
  patch_digest := none
  patch_size_bytes := none
  patch_truncated := false
  duration_seconds := .float (.finite (max 0 elapsed))
  failure_code := failure
  workspace_head := none
  worker_attestation :=
    r.attestation.getD ⟨10001, true, true, "0000000000000000", "execution-disabled"⟩

/-- `observe_runtime` and `validate_runtime` -/
def validateRuntime (r : WorkspaceExecutionRunner) (observed : Except PyError WorkerAttestation) :
    Except RunnerError WorkspaceExecutionRunner :=
  match observed with
  | .error error => .error (.other error)
  | .ok attestation =>
      if h : attestation.validate = .ok () then
        .ok { r with
          attestation := some attestation
          attestation_valid := by
            rintro a ⟨⟩
            exact h }
      else .error (.other (.valueError "execution isolation observation unavailable"))

/-- `_collect_direct_change` -/
def collectDirectChange (py : Python) (d : Decoder) (r : WorkspaceExecutionRunner)
    (request : WorkerExecutionRequest) (base_head : String) (a : RunAnswers) :
    Except RunnerError WorkerExecutionResult := do
  let changed ← changedFiles d a.status
  if changed ≠ [RC1_SMOKE_TARGET] then do
    let head ← revParse d a.head
    return { r.blocked request (some .outOfScopeChanges) a.elapsed with
      base_repository_head := some base_head, workspace_head := some head }
  else do
    let patch_text ← patchText d a.diff
    let head ← revParse d a.head
    return { r.blocked request none a.elapsed with
      status := .succeeded
      return_code := some 0
      base_repository_head := some base_head
      workspace_head := some head
      changed_files := changed
      patch := some (bounded patch_text)
      patch_digest := some (patchDigest py patch_text)
      patch_size_bytes := some patch_text.utf8ByteSize }

/-- What `_collect` gathers before it builds the result. -/
structure Collected where
  process : CapturedCommand
  changed : List String
  /-- The diff, unless a change is out of scope. -/
  patch_text : Option String
  head : String

/-- Whether all changes are in scope. -/
def inScope (request : WorkerExecutionRequest) (changed : List String) : Bool :=
  changed.all (· ∈ request.allowed_affected_files) && decide (changed.length ≤ 64)

/-- The commands of `_collect`. -/
def gather (d : Decoder) (request : WorkerExecutionRequest) (process : CapturedCommand)
    (a : RunAnswers) : Except RunnerError Collected := do
  let staged ← runCommand d MAX_CAPTURE_BYTES a.staged
  if staged.returncode ≠ 0 then .error (.workspace "workspace staging failed")
  else do
    let changed ← changedFiles d a.status
    (if inScope request changed then do
      let patch_text ← patchText d a.diff
      let head ← revParse d a.head
      return ⟨process, changed, some patch_text, head⟩
    else do
      let head ← revParse d a.head
      return ⟨process, changed, none, head⟩)

/-- The failure that `_collect` reports for a diff. -/
def collectedFailure (process : CapturedCommand) (patch_text : String) :
    Option WorkerFailureCode :=
  if process.returncode ≠ 0 then some .codexFailed
  else if patch_text = "" then some .noCommittableChanges
  else none

/-- The result that `_collect` builds. -/
def collectResult (py : Python) (r : WorkspaceExecutionRunner) (request : WorkerExecutionRequest)
    (base_head : String) (elapsed : ℚ) (c : Collected) : WorkerExecutionResult :=
  match c.patch_text with
  | none =>
      { r.blocked request (some .outOfScopeChanges) elapsed with
        base_repository_head := some base_head
        workspace_head := some c.head
        changed_files := if c.changed.length ≤ 64 then c.changed else []
        stdout := c.process.stdout
        stderr := c.process.stderr }
  | some patch_text =>
      { r.blocked request (collectedFailure c.process patch_text) elapsed with
        status :=
          if collectedFailure c.process patch_text = none then .succeeded else .blocked
        return_code := some c.process.returncode
        stdout := c.process.stdout
        stderr := c.process.stderr
        changed_files := c.changed
        patch := some (bounded patch_text)
        patch_digest := if patch_text = "" then none else some (patchDigest py patch_text)
        patch_size_bytes :=
          if patch_text = "" then none else some patch_text.utf8ByteSize
        base_repository_head := some base_head
        workspace_head := some c.head }

/-- The process of the request, between two readings of the repository's metadata. -/
def runProcess (d : Decoder) (base_head : String) (a : RunAnswers) :
    Except RunnerError CapturedCommand := do
  let controls ← controlDigest a.controls
  let process ← runCommand d MAX_CAPTURE_BYTES a.process
  let controls_after ← controlDigest a.controls_after
  if controls_after ≠ controls then .error .repositoryControlChanged
  else do
    let head ← revParse d a.head_after
    (if head ≠ base_head then .error .repositoryControlChanged else return process)

/-- The validation smoke run. -/
def runSmoke (py : Python) (d : Decoder) (r : WorkspaceExecutionRunner)
    (request : WorkerExecutionRequest) (base_head : String) (a : RunAnswers) :
    Except RunnerError WorkerExecutionResult :=
  match a.smoke with
  | .written => r.collectDirectChange py d request base_head a
  | .refused => do
      let head ← revParse d a.head
      return { r.blocked request (some .invalidRequest) a.elapsed with
        base_repository_head := some base_head, workspace_head := some head }
  | .failed error => .error (.other error)

/-- The body of the `try` of `execute`. -/
def runRequest (py : Python) (d : Decoder) (r : WorkspaceExecutionRunner)
    (request : WorkerExecutionRequest) (base_head : String) (a : RunAnswers) :
    Except RunnerError WorkerExecutionResult :=
  if !a.inside then
    .ok { r.blocked request (some .invalidRequest) a.elapsed with
      base_repository_head := some base_head }
  else if request.execution_intent = "rc1-validation-smoke" then
    r.runSmoke py d request base_head a
  else do
    let process ← runProcess d base_head a
    let collected ← gather d request process a
    return r.collectResult py request base_head a.elapsed collected

/-- The handlers of `execute`. -/
def handle (r : WorkspaceExecutionRunner) (request : WorkerExecutionRequest) (base_head : String)
    (elapsed : ℚ) : RunnerError → Except RunnerError WorkerExecutionResult
  | .repositoryControlChanged =>
      .ok { r.blocked request (some .staleRepository) elapsed with
        base_repository_head := some base_head }
  | .patchTooLarge =>
      .ok { r.blocked request (some .patchTooLarge) elapsed with
        base_repository_head := some base_head }
  | .workspace _ | .workspaceTimeout =>
      .ok { r.blocked request (some .invalidRequest) elapsed with
        base_repository_head := some base_head }
  | .timeoutExpired captured =>
      .ok { r.blocked request (some .timeout) elapsed with
        base_repository_head := some base_head
        stdout := (captured.map Prod.fst).getD (bounded "")
        stderr := (captured.map Prod.snd).getD (bounded "") }
  | .other error => .error (.other error)

/-- The failure that `execute` reports when no workspace was prepared. -/
def prepareFailure : RunnerError → Except RunnerError WorkerFailureCode
  | .workspaceTimeout => .ok .timeout
  | .workspace message =>
      .ok (if occursIn "stale" message then .staleRepository else .invalidRequest)
  | .repositoryControlChanged | .patchTooLarge => .ok .invalidRequest
  | .timeoutExpired captured => .error (.timeoutExpired captured)
  | .other error => .error (.other error)

/-- `execute`, once the runtime is validated. -/
def executeValidated (py : Python) (d : Decoder) (r : WorkspaceExecutionRunner)
    (request : WorkerExecutionRequest) (a : RunAnswers) :
    Except RunnerError WorkerExecutionResult :=
  match prepareWorkspace r.repository_token request a.prepare with
  | .error error => do
      let failure ← prepareFailure error
      return r.blocked request (some failure) a.elapsed
  | .ok workspace =>
      if !r.enabled then do
        a.cleanup
        return { r.blocked request (some .workerUnavailable) a.elapsed with
          base_repository_head := some workspace.base_head }
      else
        let outcome := match r.runRequest py d request workspace.base_head a with
          | .ok result => .ok result
          | .error error => r.handle request workspace.base_head a.elapsed error
        match a.cleanup with
        | .ok () => outcome
        | .error error => .error error

/-- `execute` -/
def execute (py : Python) (d : Decoder) (r : WorkspaceExecutionRunner)
    (request : WorkerExecutionRequest) (a : RunAnswers) :
    Except RunnerError WorkerExecutionResult :=
  match request.validate py with
  | .error error => .error (.other error)
  | .ok () =>
      if r.enabled then do
        let r ← r.validateRuntime a.observed
        r.executeValidated py d request a
      else r.executeValidated py d request a

end WorkspaceExecutionRunner

end AtlasOS.Worker
