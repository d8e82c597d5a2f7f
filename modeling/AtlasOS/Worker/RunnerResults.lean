import AtlasOS.Lib.Runtime
import AtlasOS.Worker.LedgerInvariant
import AtlasOS.Worker.Runner
import Mathlib.Data.List.Dedup

/-!
# The results of the runner

The contract accepts what the runner returns, whichever commands fail, except
for what the collection makes of a diff that is empty: it is returned as a patch
without a digest and a size, and the ledger keeps the row as it is.
-/

namespace AtlasOS.Worker

open Sqlite Sqlite.Transaction

/-! ## The files that a status names -/

/-- The names of a status hold characters of its records. -/
theorem mem_of_statusRecord {record name : List Char} {renamed : Bool} {c : Char}
    (h : statusRecord record = some (renamed, name)) (hc : c ∈ name) : c ∈ record := by
  cases record with
  | nil => cases h
  | cons x rest =>
    simp only [statusRecord] at h
    split_ifs at h
    · split at h
      · cases h
        exact List.mem_cons_of_mem _ (List.mem_cons_of_mem _ hc)
      · cases h
    · split at h
      · split_ifs at h
        cases h
        exact List.mem_cons_of_mem _ (List.mem_cons_of_mem _ (List.mem_cons_of_mem _ hc))
      · cases h

/-- A character that no record has is in no name. -/
theorem not_mem_of_statusNames {records names : List (List Char)} {c : Char}
    (h : statusNames records = .ok names) (hc : ∀ record ∈ records, c ∉ record) :
    ∀ name ∈ names, c ∉ name := by
  induction records using statusNames.induct generalizing names with
  | case1 =>
    cases h
    simp
  | case2 record rest hrecord =>
    rw [statusNames.eq_def] at h
    simp [hrecord] at h
  | case3 record rest name hrecord ih =>
    rw [statusNames.eq_def] at h
    simp only [hrecord, bind_eq_ok] at h
    obtain ⟨later, hlater, heq⟩ := h
    cases heq
    simp only [List.forall_mem_cons] at hc ⊢
    exact ⟨fun hmem => hc.1 (mem_of_statusRecord hrecord hmem), ih hlater hc.2⟩
  | case4 record name hrecord =>
    rw [statusNames.eq_def] at h
    simp [hrecord] at h
  | case5 record name former rest hrecord ih =>
    rw [statusNames.eq_def] at h
    simp only [hrecord, bind_eq_ok] at h
    obtain ⟨later, hlater, heq⟩ := h
    cases heq
    simp only [List.forall_mem_cons] at hc ⊢
    exact ⟨fun hmem => hc.1 (mem_of_statusRecord hrecord hmem), hc.2.1, ih hlater hc.2.2⟩

/-- The name of a changed file, as it is reported. -/
def reported (name : List Char) : String := String.ofList (normalizeChars name)

/-- A reported name other than the dot is a path that the contract accepts as it is. -/
theorem validatePath_reported {name : List Char} (hname : supportedName name = true)
    (hnul : '\x00' ∉ name) (hdot : reported name ≠ ".") :
    validatePath (reported name) "affected file" false = .ok (reported name) := by
  simp only [supportedName, Bool.and_eq_true, Bool.not_eq_true', decide_eq_true_eq, ne_eq,
    List.contains_eq_mem, decide_eq_false_iff_not] at hname
  obtain ⟨⟨⟨hne, hhead⟩, hparent⟩, hback⟩ := hname
  obtain ⟨hrelative, hparts⟩ := normalizeChars_relative hhead
  have hempty : reported name ≠ "" := by
    intro h
    exact normalizeChars_ne_nil name (by simpa [reported] using congrArg String.toList h)
  have hzero : '\x00' ∉ normalizeChars name := fun h =>
    hnul (mem_of_mem_normalizeChars h (by decide) (by decide))
  have hslash : '\\' ∉ normalizeChars name := fun h =>
    hback (mem_of_mem_normalizeChars h (by decide) (by decide))
  have hnormal : normalizePath (reported name) = reported name := by
    simp [reported, normalizePath, normalizeChars_idem]
  have hlist : (reported name).toList = normalizeChars name := by simp [reported]
  simp [validatePath, hempty, hlist, hzero, hslash, hrelative, hparts, hparent, hnormal, hdot]

/-- What is reported of a status: the names, each once and in order. -/
theorem changedFiles_eq_ok {d : Decoder} {answer : CommandAnswer} {changed : List String}
    (h : changedFiles d answer = .ok changed) :
    changed.Nodup ∧ changed.Pairwise (· ≤ ·) ∧
      ∀ file ∈ changed, file ≠ "." → validatePath file "affected file" false = .ok file := by
  simp only [changedFiles, bind_eq_ok] at h
  obtain ⟨result, -, h⟩ := h
  split_ifs at h
  simp only [bind_eq_ok] at h
  obtain ⟨names, hnames, h⟩ := h
  split_ifs at h with hsupported
  cases h
  have hnul := not_mem_of_statusNames hnames fun record hrecord =>
    not_mem_of_mem_splitOn (List.mem_of_mem_dropLast hrecord)
  refine ⟨?_, ?_, ?_⟩
  · exact (List.perm_insertionSort _ _).nodup_iff.mpr (List.nodup_dedup _)
  · exact List.pairwise_insertionSort _ _
  · intro file hfile hdot
    rw [List.mem_insertionSort, List.mem_dedup] at hfile
    obtain ⟨name, hname, rfl⟩ := List.mem_map.mp hfile
    exact validatePath_reported (List.all_eq_true.mp hsupported name hname) (hnul name hname) hdot

/-- The contract takes what is reported for canonical, unless it names the dot. -/
theorem canonicalFiles_changedFiles {d : Decoder} {answer : CommandAnswer} {changed : List String}
    (h : changedFiles d answer = .ok changed) (hdot : "." ∉ changed)
    (hlength : changed.length ≤ MAX_CHANGED_FILES) : canonicalFiles changed = .ok changed := by
  obtain ⟨hnodup, hsorted, hvalid⟩ := changedFiles_eq_ok h
  have hall : changed.mapM (fun item => validatePath item "affected file" false) = .ok changed := by
    have heach (file : String) (hfile : file ∈ changed) :
        validatePath file "affected file" false = .ok (id file) :=
      hvalid file hfile fun h => hdot (h ▸ hfile)
    simpa using mapM_eq_ok_map heach
  simp [canonicalFiles, hall, hnodup, hlength, hsorted.insertionSort_eq]

/-! ## Texts of commands -/

/-- What a command prints is within the bound of its capture. -/
theorem runCommand_eq_ok {d : Decoder} {limit : ℕ} (hlimit : limit ≤ MAX_TEXT_BYTES)
    {answer : CommandAnswer} {result : CapturedCommand}
    (h : runCommand d limit answer = .ok result) :
    result.stdout.validate = .ok () ∧ result.stderr.validate = .ok () := by
  cases answer with
  | finished returncode stdout stderr =>
    cases h
    exact ⟨Capture.validate_output d hlimit stdout, Capture.validate_output d hlimit stderr⟩
  | timedOut | expired | failed => cases h

/-- What a command printed before its time was over is within the bound too. -/
theorem runCommand_timeout {d : Decoder} {limit : ℕ} (hlimit : limit ≤ MAX_TEXT_BYTES)
    {answer : CommandAnswer} {captured : Option (BoundedOutput × BoundedOutput)}
    (h : runCommand d limit answer = .error (.timeoutExpired captured)) :
    ∀ outputs ∈ captured, outputs.1.validate = .ok () ∧ outputs.2.validate = .ok () := by
  cases answer with
  | timedOut stdout stderr =>
    cases h
    rintro outputs ⟨⟩
    exact ⟨Capture.validate_output d hlimit stdout, Capture.validate_output d hlimit stderr⟩
  | expired =>
    cases h
    simp
  | finished | failed => cases h

theorem size_of_validate {o : BoundedOutput} (h : o.validate = .ok ()) :
    o.text.utf8ByteSize ≤ MAX_TEXT_BYTES := by
  simp only [BoundedOutput.validate, check_bind_eq_ok, require_eq_ok, decide_eq_true_eq] at h
  exact h.1

/-- A patch that is read is not larger than the texts of the contract. -/
theorem size_of_patchText {d : Decoder} {answer : CommandAnswer} {patch_text : String}
    (h : patchText d answer = .ok patch_text) : patch_text.utf8ByteSize ≤ MAX_TEXT_BYTES := by
  simp only [patchText, bind_eq_ok] at h
  obtain ⟨result, hresult, h⟩ := h
  split_ifs at h
  cases h
  exact size_of_validate (runCommand_eq_ok (by decide) hresult).1

theorem validate_bounded {text : String} (h : text.utf8ByteSize ≤ MAX_TEXT_BYTES) :
    (bounded text).validate = .ok () := by
  simp [bounded, BoundedOutput.validate, h]

/-! ## What the contract asks of a result -/

/-- The parts of a result that the contract accepts for a request. -/
structure WorkerExecutionResult.Accepted (py : Python) (request : WorkerExecutionRequest)
    (r : WorkerExecutionResult) : Prop where
  schema : r.schema_version = SCHEMA_VERSION
  identity : r.execution_request_id = request.execution_request_id
  stdout : r.stdout.validate = .ok ()
  stderr : r.stderr.validate = .ok ()
  files : canonicalFiles r.changed_files = .ok r.changed_files
  scope : r.failure_code = some .outOfScopeChanges ∨
    ∀ file ∈ r.changed_files, file ∈ request.allowed_affected_files
  digest : ∀ digest ∈ r.patch_digest, matchesDigest "sha256:" digest = true
  size : ∀ size ∈ r.patch_size_bytes, 0 ≤ size ∧ size ≤ MAX_PATCH_BYTES
  complete : r.patch_truncated = false
  duration : r.duration_seconds.finite = true ∧ 0 ≤ r.duration_seconds.value
  head : ∀ head ∈ r.workspace_head, matchesHead head = true
  base : ∀ head ∈ r.base_repository_head, matchesHead head = true
  patch : r.validatePatch py = .ok ()
  attestation : r.worker_attestation.validate = .ok ()
  outcome : r.validateOutcome = .ok ()

namespace WorkerExecutionResult.Accepted

variable {py : Python} {request : WorkerExecutionRequest} {r : WorkerExecutionResult}

theorem validate (h : r.Accepted py request) (hid : matchesId request.execution_request_id = true) :
    r.validate py (some request) = .ok () := by
  have hscope : (decide (r.failure_code = some .outOfScopeChanges) ||
      r.changed_files.all (· ∈ request.allowed_affected_files)) = true := by
    simpa using h.scope
  have hdigest : r.patch_digest.all (matchesDigest "sha256:") = true :=
    (Option.all_eq_true _ _).mpr h.digest
  have hsize : r.patch_size_bytes.all (fun n => decide (0 ≤ n) && decide (n ≤ MAX_PATCH_BYTES)) =
      true := by
    simpa [Option.all_eq_true] using h.size
  have hhead : r.workspace_head.all matchesHead = true :=
    (Option.all_eq_true _ _).mpr h.head
  have hbase : r.base_repository_head.all matchesHead = true :=
    (Option.all_eq_true _ _).mpr h.base
  simp [WorkerExecutionResult.validate, h.schema, h.identity, hid, h.stdout, h.stderr, h.files,
    hscope, hdigest, hsize, h.complete, h.duration, hhead, hbase, h.patch, h.attestation,
    h.outcome]

end WorkerExecutionResult.Accepted

/-- What the request says about its head and its files. -/
theorem facts_of_request {py : Python} {request : WorkerExecutionRequest}
    (h : request.validate py = .ok ()) :
    matchesId request.execution_request_id = true ∧
      matchesHead request.expected_repository_head = true ∧
      (∃ files, canonicalFiles request.allowed_affected_files = .ok files) ∧
      (request.execution_intent = "rc1-validation-smoke" →
        request.allowed_affected_files = [RC1_SMOKE_TARGET]) := by
  simp only [WorkerExecutionRequest.validate, check_bind_eq_ok, require_eq_ok] at h
  have hfields := h.1
  simp only [WorkerExecutionRequest.validateFields, check_bind_eq_ok, require_eq_ok] at hfields
  obtain ⟨-, hid, -, -, -, -, -, -, -, hhead, -, -, hrest⟩ := hfields
  split_ifs at hrest with hsmoke
  · simp only [check_bind_eq_ok, require_eq_ok, decide_eq_true_eq] at hrest
    obtain ⟨-, -, hfiles, hrest⟩ := hrest
    obtain ⟨-, -, hrest⟩ := bind_eq_ok.mp hrest
    obtain ⟨files, hcanonical, -⟩ := bind_eq_ok.mp hrest
    exact ⟨hid, hhead, ⟨files, hcanonical⟩, fun _ => hfiles⟩
  · simp only [check_bind_eq_ok, require_eq_ok] at hrest
    obtain ⟨-, hrest⟩ := hrest
    obtain ⟨-, -, hrest⟩ := bind_eq_ok.mp hrest
    obtain ⟨files, hcanonical, -⟩ := bind_eq_ok.mp hrest
    exact ⟨hid, hhead, ⟨files, hcanonical⟩, fun h => absurd h hsmoke⟩

/-- Canonical files do not name the dot. -/
theorem dot_not_mem_of_canonicalFiles {files canonical : List String}
    (h : canonicalFiles files = .ok canonical) : "." ∉ files := by
  intro hmem
  simp only [canonicalFiles, bind_eq_ok] at h
  obtain ⟨normalized, hall, -⟩ := h
  obtain ⟨found, -, hfound⟩ := exists_of_mapM_eq_ok hall hmem
  simp [validatePath] at hfound

section Results

open WorkspaceExecutionRunner

variable {py : Python} {d : Decoder} {r : WorkspaceExecutionRunner}
  {request : WorkerExecutionRequest} {a : RunAnswers}

/-- A result that reports a failure and no evidence is accepted. -/
theorem WorkspaceExecutionRunner.blocked_accepted (py : Python) (r : WorkspaceExecutionRunner)
    (request : WorkerExecutionRequest) (failure : WorkerFailureCode)
    (hcrash : failure ≠ .workerCrash) (elapsed : ℚ) :
    (r.blocked request (some failure) elapsed).Accepted py request where
  schema := rfl
  identity := rfl
  stdout := by simp [blocked, BoundedOutput.validate]
  stderr := by simp [blocked, BoundedOutput.validate]
  files := rfl
  scope := by simp [blocked]
  digest := by simp [blocked]
  size := by simp [blocked]
  complete := rfl
  duration := ⟨rfl, by simp [blocked, PyNumber.value]⟩
  head := by simp [blocked]
  base := by simp [blocked]
  patch := rfl
  attestation := by
    have hvalid := r.attestation_valid
    cases hr : r.attestation with
    | none =>
      simp only [blocked, hr, Option.getD_none]
      decide
    | some attestation =>
      simp only [blocked, hr, Option.getD_some]
      exact hvalid attestation hr
  outcome := by simp [blocked, WorkerExecutionResult.validateOutcome, hcrash]

theorem matchesDigest_patchDigest (py : Python) (patch_text : String) :
    matchesDigest "sha256:" (patchDigest py patch_text) = true :=
  matchesDigest_append (py.sha256_isHexDigest _)

theorem patch_size_le {patch_text : String} (h : patch_text.utf8ByteSize ≤ MAX_TEXT_BYTES) :
    (0 : Int) ≤ patch_text.utf8ByteSize ∧ (patch_text.utf8ByteSize : Int) ≤ MAX_PATCH_BYTES := by
  simp only [MAX_TEXT_BYTES] at h
  simp only [MAX_PATCH_BYTES]
  omega

/-- A patch with its own digest and size is accepted. -/
theorem validatePatch_bounded {result : WorkerExecutionResult} {patch_text : String}
    (h : patch_text.utf8ByteSize ≤ MAX_TEXT_BYTES)
    (hpatch : result.patch = some (bounded patch_text))
    (hdigest : result.patch_digest = some (patchDigest py patch_text))
    (hsize : result.patch_size_bytes = some (patch_text.utf8ByteSize : Int))
    (hcomplete : result.patch_truncated = false) : result.validatePatch py = .ok () := by
  have hvalid := validate_bounded h
  have hbound := (patch_size_le h).2
  simp only [WorkerExecutionResult.validatePatch, hpatch, hvalid, hdigest, hsize, hcomplete]
  simp [bounded, hbound, patchDigest]

theorem canonicalFiles_smoke : canonicalFiles [RC1_SMOKE_TARGET] = .ok [RC1_SMOKE_TARGET] := by
  decide

/-- A validated smoke run reports its one file. -/
theorem accepted_of_collectDirectChange {base_head : String} {result : WorkerExecutionResult}
    (hsmoke : request.allowed_affected_files = [RC1_SMOKE_TARGET])
    (hbase : matchesHead base_head = true)
    (hhead : ∀ head, revParse d a.head = .ok head → matchesHead head = true)
    (h : r.collectDirectChange py d request base_head a = .ok result) :
    result.Accepted py request := by
  have hblocked := r.blocked_accepted py request .outOfScopeChanges (by decide) a.elapsed
  simp only [WorkspaceExecutionRunner.collectDirectChange, bind_eq_ok] at h
  obtain ⟨changed, hchanged, h⟩ := h
  split at h
  · obtain ⟨head, hrev, heq⟩ := bind_eq_ok.mp h
    cases heq
    have hvalid := hhead head hrev
    exact { hblocked with
      base := by simpa using hbase
      head := by simpa using hvalid }
  · next hsame =>
    have hchanged_eq := not_not.mp hsame
    obtain ⟨patch_text, hpatch, h⟩ := bind_eq_ok.mp h
    obtain ⟨head, hrev, heq⟩ := bind_eq_ok.mp h
    cases heq
    have hvalid := hhead head hrev
    have hsize := size_of_patchText hpatch
    have hpatch_valid := validate_bounded hsize
    exact { hblocked with
      base := by simpa using hbase
      head := by simpa using hvalid
      files := by simpa only [hchanged_eq] using canonicalFiles_smoke
      scope := by simp [hchanged_eq, hsmoke]
      digest := by simp [matchesDigest_patchDigest]
      size := by simpa using patch_size_le hsize
      patch := validatePatch_bounded hsize rfl rfl rfl rfl
      outcome := by simp [WorkerExecutionResult.validateOutcome, WorkspaceExecutionRunner.blocked] }

/-! ## Errors that carry output -/

/-- The output that an error carries is valid. -/
def RunnerError.Bounded : RunnerError → Prop
  | .timeoutExpired captured =>
      ∀ outputs ∈ captured, outputs.1.validate = .ok () ∧ outputs.2.validate = .ok ()
  | _ => True

/-- The errors of a block carry valid output. -/
def Careful {α : Type} (m : Except RunnerError α) : Prop :=
  ∀ error, m = .error error → error.Bounded

theorem Careful.ok {α : Type} (value : α) : Careful (.ok value) := by
  intro error h
  cases h

theorem Careful.error {α : Type} {error : RunnerError} (h : error.Bounded) :
    Careful (.error error : Except RunnerError α) := by
  rintro raised ⟨⟩
  exact h

theorem Careful.bind {α β : Type} {m : Except RunnerError α} {f : α → Except RunnerError β}
    (hm : Careful m) (hf : ∀ value, Careful (f value)) : Careful (m >>= f) := by
  intro error h
  cases m with
  | ok value => exact hf value error h
  | error raised =>
    cases h
    exact hm error rfl

theorem careful_runCommand {limit : ℕ} (hlimit : limit ≤ MAX_TEXT_BYTES) (answer : CommandAnswer) :
    Careful (runCommand d limit answer) := by
  intro error h
  cases error with
  | timeoutExpired captured => exact runCommand_timeout hlimit h
  | _ => trivial

theorem careful_capture (answer : CommandAnswer) :
    Careful (runCommand d MAX_CAPTURE_BYTES answer) := careful_runCommand le_rfl answer

theorem careful_revParse (answer : CommandAnswer) : Careful (revParse d answer) := by
  refine (careful_capture answer).bind fun result => ?_
  split
  · exact .error trivial
  · exact .ok _

theorem careful_patchText (answer : CommandAnswer) : Careful (patchText d answer) := by
  refine (careful_runCommand (by decide) answer).bind fun result => ?_
  split
  · exact .error trivial
  split
  · exact .error trivial
  · exact .ok _

theorem careful_statusNames (records : List (List Char)) : Careful (statusNames records) := by
  induction records using statusNames.induct with
  | case1 => exact .ok _
  | case2 record rest hrecord =>
    rw [statusNames.eq_def]
    simp only [hrecord]
    exact .error trivial
  | case3 record rest name hrecord ih =>
    rw [statusNames.eq_def]
    simp only [hrecord]
    exact ih.bind fun names => .ok _
  | case4 record name hrecord =>
    rw [statusNames.eq_def]
    simp only [hrecord]
    exact .error trivial
  | case5 record name former rest hrecord ih =>
    rw [statusNames.eq_def]
    simp only [hrecord]
    exact ih.bind fun names => .ok _

theorem careful_changedFiles (answer : CommandAnswer) : Careful (changedFiles d answer) := by
  refine (careful_capture answer).bind fun result => ?_
  split
  · exact .error trivial
  dsimp only
  split
  · exact .error trivial
  refine (careful_statusNames _).bind fun names => ?_
  split
  · exact .ok _
  · exact .error trivial

theorem careful_gather (process : CapturedCommand) : Careful (gather d request process a) := by
  refine (careful_capture a.staged).bind fun staged => ?_
  split
  · exact .error trivial
  refine (careful_changedFiles a.status).bind fun changed => ?_
  split
  · exact (careful_patchText a.diff).bind fun _ => (careful_revParse a.head).bind fun _ => .ok _
  · exact (careful_revParse a.head).bind fun _ => .ok _

theorem careful_controlDigest (digest : Option String) : Careful (controlDigest digest) := by
  cases digest with
  | none => exact .error trivial
  | some digest => exact .ok _

theorem careful_runProcess (base_head : String) : Careful (runProcess d base_head a) := by
  refine (careful_controlDigest a.controls).bind fun controls => ?_
  refine (careful_capture a.process).bind fun process => ?_
  refine (careful_controlDigest a.controls_after).bind fun controls_after => ?_
  split
  · exact .error trivial
  refine (careful_revParse a.head_after).bind fun head => ?_
  split
  · exact .error trivial
  · exact .ok _

theorem careful_collectDirectChange (base_head : String) :
    Careful (r.collectDirectChange py d request base_head a) := by
  refine (careful_changedFiles a.status).bind fun changed => ?_
  split
  · exact (careful_revParse a.head).bind fun _ => .ok _
  · exact (careful_patchText a.diff).bind fun _ => (careful_revParse a.head).bind fun _ => .ok _

theorem careful_runSmoke (base_head : String) : Careful (r.runSmoke py d request base_head a) := by
  simp only [WorkspaceExecutionRunner.runSmoke]
  cases a.smoke with
  | written => exact careful_collectDirectChange base_head
  | refused => exact (careful_revParse a.head).bind fun _ => .ok _
  | failed error => exact .error trivial

theorem careful_runRequest (base_head : String) :
    Careful (r.runRequest py d request base_head a) := by
  simp only [WorkspaceExecutionRunner.runRequest]
  split
  · exact .ok _
  split
  · exact careful_runSmoke base_head
  · exact (careful_runProcess base_head).bind fun process =>
      (careful_gather process).bind fun _ => .ok _

/-- What the handlers of the runner return is accepted. -/
theorem accepted_of_handle {base_head : String} {error : RunnerError}
    {result : WorkerExecutionResult} (hbase : matchesHead base_head = true)
    (hbounded : error.Bounded) (h : r.handle request base_head a.elapsed error = .ok result) :
    result.Accepted py request := by
  cases error with
  | repositoryControlChanged =>
    cases h
    exact { r.blocked_accepted py request .staleRepository (by decide) a.elapsed with
      base := by simpa using hbase }
  | patchTooLarge =>
    cases h
    exact { r.blocked_accepted py request .patchTooLarge (by decide) a.elapsed with
      base := by simpa using hbase }
  | workspace | workspaceTimeout =>
    cases h
    exact { r.blocked_accepted py request .invalidRequest (by decide) a.elapsed with
      base := by simpa using hbase }
  | timeoutExpired captured =>
    cases h
    have hempty : (bounded "").validate = .ok () := validate_bounded (by decide)
    exact { r.blocked_accepted py request .timeout (by decide) a.elapsed with
      base := by simpa using hbase
      stdout := by
        cases captured with
        | none => exact hempty
        | some outputs => exact (hbounded outputs rfl).1
      stderr := by
        cases captured with
        | none => exact hempty
        | some outputs => exact (hbounded outputs rfl).2 }
  | other error => cases h

/-! ## Collected results -/

/-- What is gathered, by the scope of the changes. -/
theorem gather_eq_ok {process : CapturedCommand} {c : Collected} :
    gather d request process a = .ok c ↔
      (∃ staged, runCommand d MAX_CAPTURE_BYTES a.staged = .ok staged ∧ staged.returncode = 0) ∧
        ∃ changed head, changedFiles d a.status = .ok changed ∧ revParse d a.head = .ok head ∧
          ((inScope request changed = true ∧ ∃ patch_text,
              patchText d a.diff = .ok patch_text ∧ c = ⟨process, changed, some patch_text, head⟩) ∨
            inScope request changed = false ∧ c = ⟨process, changed, none, head⟩) := by
  constructor
  · intro h
    simp only [gather, bind_eq_ok] at h
    obtain ⟨staged, hstaged, h⟩ := h
    split at h
    · cases h
    next hcode =>
    refine ⟨⟨staged, hstaged, not_not.mp hcode⟩, ?_⟩
    obtain ⟨changed, hchanged, h⟩ := bind_eq_ok.mp h
    split at h
    · next hscope =>
      obtain ⟨patch_text, hpatch, h⟩ := bind_eq_ok.mp h
      obtain ⟨head, hhead, heq⟩ := bind_eq_ok.mp h
      cases heq
      exact ⟨changed, head, hchanged, hhead, .inl ⟨hscope, patch_text, hpatch, rfl⟩⟩
    · next hscope =>
      obtain ⟨head, hhead, heq⟩ := bind_eq_ok.mp h
      cases heq
      exact ⟨changed, head, hchanged, hhead, .inr ⟨by simpa using hscope, rfl⟩⟩
  · rintro ⟨⟨staged, hstaged, hcode⟩, changed, head, hchanged, hhead, hscoped⟩
    rcases hscoped with ⟨hscope, patch_text, hpatch, rfl⟩ | ⟨hscope, rfl⟩
    · simp [gather, hstaged, hcode, hchanged, hscope, hpatch, hhead]
    · simp [gather, hstaged, hcode, hchanged, hscope, hhead]

/-- Changes in scope do not name the dot, and are few. -/
theorem files_of_inScope {changed : List String} (hrequest : request.validate py = .ok ())
    (hscope : inScope request changed = true) :
    (∀ file ∈ changed, file ∈ request.allowed_affected_files) ∧ "." ∉ changed ∧
      changed.length ≤ MAX_CHANGED_FILES := by
  simp only [inScope, Bool.and_eq_true, List.all_eq_true, decide_eq_true_eq] at hscope
  obtain ⟨hallowed, hlength⟩ := hscope
  obtain ⟨-, -, ⟨files, hfiles⟩, -⟩ := facts_of_request hrequest
  exact ⟨hallowed, fun hdot => dot_not_mem_of_canonicalFiles hfiles (hallowed _ hdot), hlength⟩

/-- Changes in scope are accepted together with a diff that is not empty. -/
theorem validate_collectResult_scoped {base_head head patch_text : String}
    {process : CapturedCommand} {changed : List String} (hrequest : request.validate py = .ok ())
    (hbase : matchesHead base_head = true) (hhead : matchesHead head = true)
    (hprocess : process.stdout.validate = .ok () ∧ process.stderr.validate = .ok ())
    (hchanged : changedFiles d a.status = .ok changed) (hscope : inScope request changed = true)
    (hpatch : patchText d a.diff = .ok patch_text) :
    (r.collectResult py request base_head a.elapsed
        ⟨process, changed, some patch_text, head⟩).validate py (some request) = .ok () ↔
      patch_text ≠ "" := by
  constructor
  · intro h hempty
    have hvalid := (WorkerExecutionResult.valid_of_validate h).1.patch
    simp [collectResult, hempty, WorkerExecutionResult.validatePatch,
      validate_bounded (show "".utf8ByteSize ≤ MAX_TEXT_BYTES by decide)] at hvalid
  · intro hne
    have hsize := size_of_patchText hpatch
    obtain ⟨hallowed, hdot, hlength⟩ := files_of_inScope hrequest hscope
    have hfiles := canonicalFiles_changedFiles hchanged hdot hlength
    refine WorkerExecutionResult.Accepted.validate ?_ (facts_of_request hrequest).1
    exact { r.blocked_accepted py request .codexFailed (by decide) a.elapsed with
      stdout := hprocess.1
      stderr := hprocess.2
      files := hfiles
      scope := .inr hallowed
      digest := by simp [collectResult, hne, matchesDigest_patchDigest]
      size := by simpa [collectResult, hne] using patch_size_le hsize
      head := by simpa [collectResult] using hhead
      base := by simpa [collectResult] using hbase
      patch := validatePatch_bounded hsize rfl (by simp [collectResult, hne])
        (by simp [collectResult, hne]) rfl
      outcome := by
        by_cases hcode : process.returncode = 0
        · simp [collectResult, collectedFailure, hne, hcode, blocked,
            WorkerExecutionResult.validateOutcome]
        · simp [collectResult, collectedFailure, hcode, blocked,
            WorkerExecutionResult.validateOutcome] }

/-- Changes out of scope are accepted unless the reported ones name the dot. -/
theorem validate_collectResult_unscoped {base_head head : String}
    {process : CapturedCommand} {changed : List String} (hrequest : request.validate py = .ok ())
    (hbase : matchesHead base_head = true) (hhead : matchesHead head = true)
    (hprocess : process.stdout.validate = .ok () ∧ process.stderr.validate = .ok ())
    (hchanged : changedFiles d a.status = .ok changed) :
    (r.collectResult py request base_head a.elapsed
        ⟨process, changed, none, head⟩).validate py (some request) = .ok () ↔
      (changed.length ≤ MAX_CHANGED_FILES → "." ∉ changed) := by
  constructor
  · intro h hlength
    simp only [WorkerExecutionResult.validate, check_bind_eq_ok, require_eq_ok] at h
    obtain ⟨files, hfiles, -⟩ := bind_eq_ok.mp h.2.2.2.2.2
    have hreported : (r.collectResult py request base_head a.elapsed
        ⟨process, changed, none, head⟩).changed_files = changed := if_pos hlength
    exact dot_not_mem_of_canonicalFiles (hreported ▸ hfiles)
  · intro hdot
    refine WorkerExecutionResult.Accepted.validate ?_ (facts_of_request hrequest).1
    exact { r.blocked_accepted py request .outOfScopeChanges (by decide) a.elapsed with
      stdout := hprocess.1
      stderr := hprocess.2
      files := by
        by_cases hlength : changed.length ≤ 64
        · have hfiles := canonicalFiles_changedFiles hchanged (hdot hlength) hlength
          simpa only [collectResult, if_pos hlength] using hfiles
        · simp only [collectResult, if_neg hlength]
          rfl
      scope := .inl rfl
      head := by simpa [collectResult] using hhead
      base := by simpa [collectResult] using hbase }

/-! ## When a result is accepted -/

/-- The process of the request is run, and its changes are collected. -/
structure Collects (d : Decoder) (r : WorkspaceExecutionRunner) (request : WorkerExecutionRequest)
    (a : RunAnswers) (changed : List String) : Prop where
  enabled : r.enabled = true
  prepared : ∃ workspace, prepareWorkspace r.repository_token request a.prepare = .ok workspace
  inside : a.inside = true
  codex : request.execution_intent ≠ "rc1-validation-smoke"
  process : ∃ process, runProcess d request.expected_repository_head a = .ok process
  staged : ∃ staged, runCommand d MAX_CAPTURE_BYTES a.staged = .ok staged ∧ staged.returncode = 0
  changed : changedFiles d a.status = .ok changed
  head : ∃ head, revParse d a.head = .ok head

/-- When changes are collected, those in scope come with a diff that is not empty, and those out
of scope are too many to be reported or do not name the dot. -/
def DiffPresent (d : Decoder) (r : WorkspaceExecutionRunner) (request : WorkerExecutionRequest)
    (a : RunAnswers) : Prop :=
  ∀ changed, Collects d r request a changed →
    (inScope request changed = true → patchText d a.diff ≠ .ok "") ∧
      (inScope request changed = false → changed.length ≤ MAX_CHANGED_FILES → "." ∉ changed)

/-- Where the changes are collected, the request runs to the collected result. -/
theorem Collects.exists_runRequest (py : Python) {changed : List String}
    (h : Collects d r request a changed)
    (hpatch : inScope request changed = true → ∃ patch_text, patchText d a.diff = .ok patch_text) :
    ∃ result, r.runRequest py d request request.expected_repository_head a = .ok result := by
  obtain ⟨process, hprocess⟩ := h.process
  obtain ⟨head, hhead⟩ := h.head
  have hgather : ∃ c, gather d request process a = .ok c := by
    cases hscope : inScope request changed with
    | true =>
      obtain ⟨patch_text, hpatch⟩ := hpatch hscope
      exact ⟨_, gather_eq_ok.mpr
        ⟨h.staged, changed, head, h.changed, hhead, .inl ⟨hscope, patch_text, hpatch, rfl⟩⟩⟩
    | false =>
      exact ⟨_, gather_eq_ok.mpr ⟨h.staged, changed, head, h.changed, hhead, .inr ⟨hscope, rfl⟩⟩⟩
  obtain ⟨c, hc⟩ := hgather
  simp [runRequest, h.inside, h.codex, hprocess, hc]

/-- The process that is run printed within the bounds. -/
theorem outputs_of_runProcess {base_head : String} {process : CapturedCommand}
    (h : runProcess d base_head a = .ok process) :
    process.stdout.validate = .ok () ∧ process.stderr.validate = .ok () := by
  simp only [runProcess, bind_eq_ok] at h
  obtain ⟨controls, -, found, hfound, controls_after, -, h⟩ := h
  split at h
  · cases h
  obtain ⟨head, -, h⟩ := bind_eq_ok.mp h
  split at h
  · cases h
  cases h
  exact runCommand_eq_ok le_rfl hfound

/-- A result of the request is accepted exactly when the diff is present. -/
theorem validate_runRequest_iff {result : WorkerExecutionResult}
    (hrequest : request.validate py = .ok ())
    (hhead : ∀ head, revParse d a.head = .ok head → matchesHead head = true)
    (henabled : r.enabled = true)
    (hprepared : ∃ workspace,
      prepareWorkspace r.repository_token request a.prepare = .ok workspace)
    (h : r.runRequest py d request request.expected_repository_head a = .ok result) :
    result.validate py (some request) = .ok () ↔ DiffPresent d r request a := by
  obtain ⟨hid, hbase, -, hsmoke⟩ := facts_of_request hrequest
  simp only [runRequest] at h
  split at h
  · next houtside =>
    cases h
    refine iff_of_true (WorkerExecutionResult.Accepted.validate ?_ hid) ?_
    · exact { r.blocked_accepted py request .invalidRequest (by decide) a.elapsed with
        base := by simpa using hbase }
    · intro changed hcollects
      simp [hcollects.inside] at houtside
  split at h
  · next hintent =>
    refine iff_of_true (WorkerExecutionResult.Accepted.validate ?_ hid) ?_
    · simp only [runSmoke] at h
      split at h
      · exact accepted_of_collectDirectChange (hsmoke hintent) hbase hhead h
      · obtain ⟨head, hrev, heq⟩ := bind_eq_ok.mp h
        cases heq
        have hvalid := hhead head hrev
        exact { r.blocked_accepted py request .invalidRequest (by decide) a.elapsed with
          base := by simpa using hbase
          head := by simpa using hvalid }
      · cases h
    · intro changed hcollects
      exact absurd hintent hcollects.codex
  next hinside hintent =>
  obtain ⟨process, hprocess, h⟩ := bind_eq_ok.mp h
  obtain ⟨c, hc, heq⟩ := bind_eq_ok.mp h
  cases heq
  have houtputs := outputs_of_runProcess hprocess
  obtain ⟨hstaged, changed, head, hchanged, hrev, hscoped⟩ := gather_eq_ok.mp hc
  have hcollects : Collects d r request a changed :=
    ⟨henabled, hprepared, by simpa using hinside, hintent, ⟨process, hprocess⟩, hstaged, hchanged,
      ⟨head, hrev⟩⟩
  have honly {other : List String} (h : Collects d r request a other) : other = changed :=
    Except.ok.inj (h.changed.symm.trans hchanged)
  rcases hscoped with ⟨hscope, patch_text, hpatch, rfl⟩ | ⟨hscope, rfl⟩
  · rw [validate_collectResult_scoped hrequest hbase (hhead head hrev) houtputs hchanged hscope
      hpatch]
    constructor
    · intro hne other hother
      rw [honly hother, hscope, hpatch]
      simpa using hne
    · intro hpresent hempty
      exact (hpresent changed hcollects).1 hscope (hempty ▸ hpatch)
  · rw [validate_collectResult_unscoped hrequest hbase (hhead head hrev) houtputs hchanged]
    constructor
    · intro hdot other hother
      rw [honly hother, hscope]
      simpa using hdot
    · intro hpresent
      exact (hpresent changed hcollects).2 hscope

theorem crash_ne_of_prepareFailure {error : RunnerError} {failure : WorkerFailureCode}
    (h : prepareFailure error = .ok failure) : failure ≠ .workerCrash := by
  cases error with
  | workspace message =>
    simp only [prepareFailure, Except.ok.injEq] at h
    split_ifs at h <;> simp [← h]
  | workspaceTimeout | repositoryControlChanged | patchTooLarge =>
    cases h
    decide
  | timeoutExpired | other => cases h

/-- Without a workspace no changes are collected. -/
theorem diffPresent_of_not_prepared {error : RunnerError}
    (h : prepareWorkspace r.repository_token request a.prepare = .error error) :
    DiffPresent d r request a := by
  intro changed hcollects
  obtain ⟨workspace, hworkspace⟩ := hcollects.prepared
  simp [h] at hworkspace

/-- A result of the validated runner is accepted exactly when the diff is present. -/
theorem validate_executeValidated_iff {result : WorkerExecutionResult}
    (hrequest : request.validate py = .ok ())
    (hhead : ∀ head, revParse d a.head = .ok head → matchesHead head = true)
    (h : r.executeValidated py d request a = .ok result) :
    result.validate py (some request) = .ok () ↔ DiffPresent d r request a := by
  obtain ⟨hid, hbase, -, -⟩ := facts_of_request hrequest
  simp only [executeValidated] at h
  split at h
  · next error hprepare =>
    obtain ⟨failure, hfailure, heq⟩ := bind_eq_ok.mp h
    cases heq
    have hcrash : failure ≠ .workerCrash := by
      exact crash_ne_of_prepareFailure hfailure
    exact iff_of_true ((r.blocked_accepted py request failure hcrash a.elapsed).validate hid)
      (diffPresent_of_not_prepared hprepare)
  next workspace hprepare =>
  have hsame := base_head_of_prepareWorkspace hprepare
  rw [hsame] at h
  split at h
  · next hdisabled =>
    obtain ⟨-, -, heq⟩ := bind_eq_ok.mp h
    cases heq
    refine iff_of_true (WorkerExecutionResult.Accepted.validate ?_ hid) ?_
    · exact { r.blocked_accepted py request .workerUnavailable (by decide) a.elapsed with
        base := by simpa using hbase }
    · intro changed hcollects
      simp [hcollects.enabled] at hdisabled
  next henabled =>
  split at h
  · -- The workspace is cleaned up, so the outcome is what the body came to.
    cases hrun : r.runRequest py d request request.expected_repository_head a with
    | ok found =>
      simp only [hrun] at h
      cases h
      exact validate_runRequest_iff hrequest hhead (by simpa using henabled)
        ⟨workspace, hprepare⟩ hrun
    | error error =>
      simp only [hrun] at h
      have hbounded := careful_runRequest request.expected_repository_head error hrun
      refine iff_of_true ((accepted_of_handle hbase hbounded h).validate hid) ?_
      intro changed hcollects
      constructor
      · intro hscope hempty
        obtain ⟨found, hfound⟩ := hcollects.exists_runRequest py fun _ => ⟨"", hempty⟩
        simp [hrun] at hfound
      · intro hscope
        obtain ⟨found, hfound⟩ := hcollects.exists_runRequest py (by simp [hscope])
        simp [hrun] at hfound
  · cases h

/-- Only the token and the switch of the runner decide whether changes are collected. -/
theorem diffPresent_congr {r' : WorkspaceExecutionRunner}
    (htoken : r'.repository_token = r.repository_token) (henabled : r'.enabled = r.enabled) :
    DiffPresent d r' request a ↔ DiffPresent d r request a := by
  have hcollects (changed : List String) :
      Collects d r' request a changed ↔ Collects d r request a changed := by
    constructor
    · intro h
      exact { h with enabled := henabled ▸ h.enabled, prepared := htoken ▸ h.prepared }
    · intro h
      exact { h with enabled := henabled ▸ h.enabled, prepared := htoken ▸ h.prepared }
  simp only [DiffPresent, hcollects]

/-! ## What the ledger makes of a result -/

/-- The state of an accepted result is the one that its status asks for. -/
theorem persistedState_eq_expectedState {result : WorkerExecutionResult} (h : result.Valid py) :
    persistedState result = expectedState result.status := by
  have hcrash := h.crash_iff_unknown
  cases hs : result.status <;> simp [persistedState, expectedState, hs, hcrash]

/-- Ending an execution with an accepted result keeps its row valid. -/
theorem Row.Valid.finish {row : Row} {stored : Option WorkerExecutionResult}
    {result : WorkerExecutionResult} (h : row.Valid py .executing stored)
    (hresult : result.validate py = .ok ())
    (hid : result.execution_request_id = row.execution_request_id)
    (hlength : result.encode.dumpsLength py ≤ 24 * 1024 * 1024) (now : Fin MAX_MICROS) :
    (row.finish (persistedState result) result.encode (nowText py now)).Valid py
      (persistedState result) (some result) where
  state_eq := rfl
  identity := h.identity
  digest := h.digest
  version := h.version
  created := h.created
  updated := timestamp_nowText now
  started := h.started
  unstarted := by
    intro hclaimed
    have hterminal := persistedState_terminal result
    simp [hclaimed, DurableState.terminal] at hterminal
  barrier := fun _ => h.barrier (.inl rfl)
  token := h.token
  outcome := by
    have hvalid := (WorkerExecutionResult.valid_of_validate hresult).1
    rw [StoredOutcome, if_pos (persistedState_terminal result)]
    exact ⟨_, _, rfl, rfl, hlength, decode_encode hresult, hid,
      persistedState_eq_expectedState hvalid⟩

/-- The row of a request whose execution was started. -/
structure Executing (py : Python) (request : WorkerExecutionRequest) (t : Table) (row : Row) :
    Prop where
  get : t.get request.execution_request_id = some row
  valid : row.Valid py .executing none
  identity : row.execution_request_id = request.execution_request_id
  digest : row.request_digest = request.request_digest

/-- An accepted result ends the execution, when the database raises nothing. -/
theorem persistResult_of_validate {t : Table} {row : Row} {result : WorkerExecutionResult}
    (h : result.validate py (some request) = .ok ()) (hrow : Executing py request t row)
    (hlength : result.encode.dumpsLength py ≤ 24 * 1024 * 1024) (now : Fin MAX_MICROS) :
    withConnection t [] (persistResult py now request result) =
      (.ok ((row.finish (persistedState result) result.encode (nowText py now)).toEntry
          (persistedState result) (some result)),
        t.set request.execution_request_id
          (row.finish (persistedState result) result.encode (nowText py now))) := by
  obtain ⟨hvalid, hid⟩ := WorkerExecutionResult.valid_of_validate h
  have hsame := (hid request rfl).trans hrow.identity.symm
  have hfinished := hrow.valid.finish hvalid.alone hsame hlength now
  have hdict : result.toDict py = .ok result.encode := by
    simp [WorkerExecutionResult.toDict, hvalid.alone]
  have hopen : row.state = DurableState.executing.value := hrow.valid.state_eq
  have hentry := hrow.valid.entry
  have hupdate : updateRow request.execution_request_id
      (·.finish (persistedState result) result.encode (nowText py now)) t =
        t.set request.execution_request_id
          (row.finish (persistedState result) result.encode (nowText py now)) :=
    updateRow_of_get hrow.get
  have hlookup : rowFor request.execution_request_id ⟨t, t, []⟩ = (.ok row, ⟨t, t, []⟩) := by
    simp [rowFor, bind_apply, hrow.get]
  have hcheck : checkDigest py row request ⟨t, t, []⟩ = (.ok (), ⟨t, t, []⟩) := by
    simp [checkDigest, bind_apply, lift, hentry, hrow.digest]
  simp only [withConnection, persistResult, contract, h, hdict, bind_apply, Except.mapError, lift,
    beginImmediate_apply, hlookup, hcheck, hopen]
  simp [DurableState.terminal, bind_apply, lift, hfinished.entry, hupdate, rowFor]

/-- A result that the contract does not accept leaves the ledger as it is. -/
theorem persistResult_of_error {result : WorkerExecutionResult} {error : PyError}
    (h : result.validate py (some request) = .error error) (t : Table) (faults : List Bool)
    (now : Fin MAX_MICROS) :
    withConnection t faults (persistResult py now request result) =
      (.error (.contract error), t) := by
  simp only [persistResult, contract, h]
  rfl

/-- What `execute` returns is what the runner returns once it is validated. -/
theorem execute_eq_ok {result : WorkerExecutionResult} (h : r.execute py d request a = .ok result) :
    request.validate py = .ok () ∧ ∃ r' : WorkspaceExecutionRunner,
      r'.repository_token = r.repository_token ∧ r'.enabled = r.enabled ∧
        r'.executeValidated py d request a = .ok result := by
  simp only [WorkspaceExecutionRunner.execute] at h
  split at h
  · cases h
  next hrequest =>
  refine ⟨hrequest, ?_⟩
  split at h
  · obtain ⟨r', hruntime, h⟩ := bind_eq_ok.mp h
    refine ⟨r', ?_, ?_, h⟩
    all_goals
      simp only [validateRuntime] at hruntime
      split at hruntime
      · cases hruntime
      split_ifs at hruntime
      cases hruntime
      rfl
  · exact ⟨r, rfl, rfl, h⟩

/-- A result of the runner is accepted exactly when the diff is present. Then the ledger ends the
execution with it, and otherwise the ledger is left as it is. -/
theorem validate_execute_iff (py : Python) (d : Decoder) (r : WorkspaceExecutionRunner)
    (request : WorkerExecutionRequest) (a : RunAnswers) (result : WorkerExecutionResult)
    (hhead : ∀ head, revParse d a.head = .ok head → matchesHead head = true)
    (h : r.execute py d request a = .ok result) :
    (result.validate py (some request) = .ok () ↔ DiffPresent d r request a) ∧
      (DiffPresent d r request a → ∀ (t : Table) (row : Row) (now : Fin MAX_MICROS),
        Executing py request t row → result.encode.dumpsLength py ≤ 24 * 1024 * 1024 →
          ∃ e t', withConnection t [] (persistResult py now request result) = (.ok e, t') ∧
            e.state.terminal = true ∧ e.result = some result) ∧
      (¬ DiffPresent d r request a → ∀ (t : Table) (faults : List Bool) (now : Fin MAX_MICROS),
        ∃ error, withConnection t faults (persistResult py now request result) =
          (.error (.contract error), t)) := by
  obtain ⟨hrequest, r', htoken, henabled, hrun⟩ := execute_eq_ok h
  have hiff : result.validate py (some request) = .ok () ↔ DiffPresent d r request a :=
    (validate_executeValidated_iff hrequest hhead hrun).trans (diffPresent_congr htoken henabled)
  refine ⟨hiff, ?_, ?_⟩
  · intro hpresent t row now hrow hlength
    have hpersisted := persistResult_of_validate (hiff.mpr hpresent) hrow hlength now
    exact ⟨_, _, hpersisted, persistedState_terminal result, rfl⟩
  · intro habsent t faults now
    cases hvalidate : result.validate py (some request) with
    | ok => exact absurd (hiff.mp hvalidate) habsent
    | error error => exact ⟨error, persistResult_of_error hvalidate t faults now⟩

end Results

/-! ## Runs of the runner -/

/-- The decoder of texts in ASCII. -/
def asciiDecoder : Decoder where
  decode bytes := String.ofList ((bytes.filter (· < 128)).map fun b => Char.ofNat b.toNat)
  size_le := by
    intro bytes
    induction bytes with
    | nil => decide
    | cons b bytes ih =>
      by_cases hb : b < 128
      · have hascii : ∀ n : Fin 128, (Char.ofNat n).utf8Size = 1 := by decide
        have hsize : (Char.ofNat b.toNat).utf8Size = 1 :=
          hascii ⟨b.toNat, by simpa using UInt8.lt_iff_toNat_lt.mp hb⟩
        simp_all
        omega
      · simp_all
        omega
  decode_nil := rfl

/-- A request for a change of one file. -/
def codexRequest : WorkerExecutionRequest where
  schema_version := 1
  execution_request_id := "request"
  workflow_id := "workflow"
  candidate_id := "candidate"
  candidate_fingerprint := "fingerprint"
  plan_id := "plan"
  plan_fingerprint := "planned"
  execution_intent := "update-compose-stack"
  repository_token := "token"
  expected_repository_head := String.ofList (List.replicate 40 'a')
  repository_branch := none
  argv := CODEX_WORKSPACE_EXEC_ARGV_PREFIX ++ ["update"]
  working_directory := "."
  allowed_affected_files := ["compose.yml"]
  timeout_seconds := .int 60
  request_digest := DIGEST_PREFIX ++ String.ofList (List.replicate 64 '0')

/-- What `rev-parse HEAD` prints. -/
def headAnswer : CommandAnswer := .finished 0 [List.replicate 40 97 ++ [10]] []

/-- The observation of a confined runtime. -/
def confined : WorkerAttestation := ⟨10001, true, true, "0", "atlas"⟩

/-- An enabled runner. -/
def codexRunner : WorkspaceExecutionRunner where
  repository_token := "token"
  enabled := true
  attestation := some confined
  attestation_valid := by
    rintro a ⟨⟩
    decide

/-- A run in which the process ends with the given code, and the status and the diff are given. -/
def codexRun (returncode : Int) (status diff : List UInt8) : RunAnswers where
  observed := .ok confined
  prepare :=
    { request_path := .ok ()
      active := none
      source_valid := true
      source_configured := true
      source_head := .ok codexRequest.expected_repository_head
      path_exists := false
      clone := .ok true
      cloned_head := .ok codexRequest.expected_repository_head }
  inside := true
  smoke := .refused
  controls := some "controls"
  controls_after := some "controls"
  process := .finished returncode [] []
  head_after := headAnswer
  staged := .finished 0 [] []
  status := .finished 0 [status] []
  diff := .finished 0 [diff] []
  head := headAnswer
  cleanup := .ok ()
  elapsed := 1

/-- The result of a process that changed nothing. -/
def idleResult (returncode : Int) (failure : WorkerFailureCode) : WorkerExecutionResult :=
  { codexRunner.blocked codexRequest (some failure) 1 with
    return_code := some returncode
    stdout := ⟨"", false, some 0⟩
    stderr := ⟨"", false, some 0⟩
    patch := some ⟨"", false, some 0⟩
    base_repository_head := some codexRequest.expected_repository_head
    workspace_head := some codexRequest.expected_repository_head }

set_option maxRecDepth 2000

theorem codexRequest_valid : codexRequest.validate Python.plain = .ok () :=
  WorkerExecutionRequest.validate_of_fields (by decide) (by decide)

theorem execute_codexRequest {a : RunAnswers} (h : a.observed = .ok confined) :
    codexRunner.execute Python.plain asciiDecoder codexRequest a =
      codexRunner.executeValidated Python.plain asciiDecoder codexRequest a := by
  have hconfined : confined.validate = .ok () := by decide
  have hruntime : codexRunner.validateRuntime (.ok confined) = .ok codexRunner := by
    rw [WorkspaceExecutionRunner.validateRuntime]
    exact dif_pos hconfined
  rw [WorkspaceExecutionRunner.execute, codexRequest_valid]
  dsimp only
  rw [if_pos (show codexRunner.enabled = true from rfl), h, hruntime, ok_bind]

/-- A process that ends without a change, or fails without one, has a result that the contract
does not accept. -/
theorem execute_idle_rejected :
    codexRequest.validate Python.plain = .ok () ∧
    codexRunner.execute Python.plain asciiDecoder codexRequest (codexRun 0 [] []) =
      .ok (idleResult 0 .noCommittableChanges) ∧
    (idleResult 0 .noCommittableChanges).validate Python.plain (some codexRequest) =
      .error (.valueError "patch payload requires size and digest") ∧
    codexRunner.execute Python.plain asciiDecoder codexRequest (codexRun 1 [] []) =
      .ok (idleResult 1 .codexFailed) ∧
    (idleResult 1 .codexFailed).validate Python.plain (some codexRequest) =
      .error (.valueError "patch payload requires size and digest") := by
  refine ⟨codexRequest_valid, ?_, by decide, ?_, by decide⟩
  · rw [execute_codexRequest rfl]
    decide
  · rw [execute_codexRequest rfl]
    decide

/-- The result of a process that changed the file of the request. -/
def editResult : WorkerExecutionResult :=
  { codexRunner.blocked codexRequest none 1 with
    status := .succeeded
    return_code := some 0
    stdout := ⟨"", false, some 0⟩
    stderr := ⟨"", false, some 0⟩
    changed_files := ["compose.yml"]
    patch := some ⟨"+", false, some 1⟩
    patch_digest := some ("sha256:" ++ String.ofList (List.replicate 64 '0'))
    patch_size_bytes := some 1
    base_repository_head := some codexRequest.expected_repository_head
    workspace_head := some codexRequest.expected_repository_head }

/-- `M  compose.yml` -/
def editStatus : List UInt8 := [77, 32, 32, 99, 111, 109, 112, 111, 115, 101, 46, 121, 109, 108, 0]

/-- `validate_execute_iff` for a process that changes the file of the request. -/
theorem validate_execute_edit :
    DiffPresent asciiDecoder codexRunner codexRequest (codexRun 0 editStatus [43]) := by
  have hexecute : codexRunner.execute Python.plain asciiDecoder codexRequest
      (codexRun 0 editStatus [43]) = .ok editResult := by
    rw [execute_codexRequest rfl]
    decide
  have hhead : ∀ head, revParse asciiDecoder headAnswer = .ok head → matchesHead head = true := by
    intro head h
    have hprinted : revParse asciiDecoder headAnswer =
        .ok codexRequest.expected_repository_head := by
      decide
    rw [hprinted] at h
    cases h
    decide
  exact (validate_execute_iff Python.plain asciiDecoder codexRunner codexRequest _ editResult hhead
    hexecute).1.mp (by decide)

end AtlasOS.Worker
