import AtlasOS.Lib.JsonText
import AtlasOS.Lib.Runtime
import AtlasOS.Worker.Contracts

/-!
# The worker contracts on the wire

A request or a result is sent as the JSON text of its dictionary and read back
with the strict loader of `worker_json.py`. The text of a valid value is read
back as that value. Conversely a dictionary that is accepted is the dictionary
of the value that was read from it, when its lists are JSON arrays and its
absent fields are not spelled by another false value.
-/

namespace AtlasOS

namespace Worker

/-! ## The strict loader -/

/-- One step of `_object`: a name that is there already is refused. -/
def objectStep (result : Fields) (pair : String × Json) : Except PyError Fields := do
  require (decide (pair.1 ∉ result.keys)) (.valueError "duplicate worker JSON field")
  return result ++ [pair]

/-- `_object` -/
def object (pairs : Fields) : Except PyError Json := do
  let result ← pairs.foldlM objectStep []
  return .obj result

/-- `_nonfinite` -/
def nonfinite (_value : String) : Except PyError Json :=
  .error (.valueError "non-finite worker JSON number")

/-- `decode_worker_json`, from the text on. -/
def decodeWorkerText (loads : Loads) (raw : String) : Except PyError Json := do
  let result ← loads object nonfinite raw
  let fields ← result.requireObject (.typeError "worker JSON payload must be an object")
  return .obj fields

theorem foldlM_objectStep {pairs result : Fields} (h : (result ++ pairs).keys.Nodup) :
    pairs.foldlM objectStep result = .ok (result ++ pairs) := by
  induction pairs generalizing result with
  | nil => simp
  | cons pair pairs ih =>
    have hnew : pair.1 ∉ result.keys := by
      intro hmem
      rw [Fields.keys, List.map_append, List.nodup_append] at h
      exact h.2.2 _ hmem _ (by simp) rfl
    rw [List.append_cons] at h ⊢
    simp only [List.foldlM_cons, objectStep, hnew, not_false_eq_true, decide_true, require_true,
      ok_bind, pure_eq_ok]
    exact ih h

/-- Fields with distinct names are accepted as they are. -/
theorem object_of_nodup (pairs : Fields) (h : pairs.keys.Nodup) : object pairs = .ok (.obj pairs) := by
  have hfold : pairs.foldlM objectStep [] = .ok pairs := @foldlM_objectStep pairs [] h
  simp [object, hfold]

/-- The text of an object is read back as that object. -/
theorem decodeWorkerText_of_denotes {loads : Loads} {text : String} {fields : Fields}
    (h : loads.Denotes text (Json.obj fields).sorted) :
    decodeWorkerText loads text = .ok (Json.obj fields).sorted := by
  have hloads : loads object nonfinite text = .ok (Json.obj fields).sorted :=
    (h object nonfinite).trans (Json.rebuild_sorted object_of_nodup _)
  rw [decodeWorkerText, hloads, ok_bind, Json.sorted, Json.requireObject_obj, ok_bind, pure_eq_ok]

/-! ## Reading rules -/

@[simp] theorem PyNumber.same_toJson {value : Json} {n : PyNumber} :
    value.Same n.toJson ↔ value = n.toJson := by
  cases n <;> simp [PyNumber.toJson]

theorem PyNumber.ofJson_eq_some {value : Json} {n : PyNumber} :
    PyNumber.ofJson? value = some n ↔ value = n.toJson := by
  cases value <;> cases n <;> simp [PyNumber.ofJson?, PyNumber.toJson]

/-- A value that was read as a list is the list's array exactly when it is an array. -/
theorem eq_arr_of_strTuple {value : Json} {error : PyError} {texts : List String}
    (h : strTuple value error = .ok texts) : value = .arr (texts.map .str) ↔ value.isArr = true := by
  constructor
  · rintro rfl
    rfl
  · intro harr
    cases value with
    | arr items =>
      simp only [strTuple, Json.iterate, ok_bind, mapM_eq_ok_iff, expect_eq_ok, asStr_eq_some] at h
      have heq : List.Forall₂ (· = ·) items (texts.map Json.str) := List.forall₂_map_right_iff.mpr h
      rw [List.forall₂_eq_eq_eq] at heq
      rw [heq]
    | _ => cases harr

/-- A set of fields has exactly the given names. -/
theorem names_ok {fields : Fields} {names : List String} :
    (fields.keys.all (· ∈ names) && names.all (· ∈ fields.keys)) = true ↔
      ∀ key, key ∈ fields.keys ↔ key ∈ names := by
  simp only [Bool.and_eq_true, List.all_eq_true, decide_eq_true_eq]
  exact ⟨fun h key => ⟨h.1 key, h.2 key⟩, fun h => ⟨fun key => (h key).mp, fun key => (h key).mpr⟩⟩

/-! ## Captured output and attestation -/

theorem BoundedOutput.same_encode {fields : Fields} {o : BoundedOutput} :
    (Json.obj fields).Same o.encode ↔
      (∀ key, key ∈ fields.keys ↔ key ∈ ["text", "truncated", "original_bytes"]) ∧
      fields.get "text" = .str o.text ∧ fields.get "truncated" = .bool o.truncated ∧
      fields.get "original_bytes" = intOrNull o.original_bytes := by
  simp [encode, Json.same_obj, Fields.keys]

/-- The dictionary of a valid output is read as this output. -/
theorem BoundedOutput.fromDict_of_same {value : Json} {o : BoundedOutput}
    (hvalid : o.validate = .ok ()) (h : value.Same o.encode) : fromDict value = .ok o := by
  cases value with
  | obj fields =>
    obtain ⟨hkeys, htext, htruncated, hbytes⟩ := same_encode.mp h
    simp only [fromDict, Json.requireObject_obj, ok_bind, names_ok.mpr hkeys, require_true, htext,
      htruncated, hbytes, asStr_str, asBool_bool, asOptional_intOrNull, expect_some, hvalid,
      pure_eq_ok]
  | _ => simp [Json.Same, encode, Json.sorted] at h

/-- An accepted dictionary is that of the output read from it. -/
theorem BoundedOutput.same_of_fromDict {value : Json} {o : BoundedOutput}
    (h : fromDict value = .ok o) : value.Same o.encode := by
  simp only [fromDict, bind_eq_ok, exists_unit, require_eq_ok, expect_eq_ok, asStr_eq_some,
    asBool_eq_some, asOptional_asInt_eq_some] at h
  obtain ⟨fields, hvalue, hnames, text, htext, truncated, htruncated, bytes, hbytes, -, ho⟩ := h
  cases Json.eq_obj_of_requireObject hvalue
  rw [pure_eq_ok, Except.ok.injEq] at ho
  subst ho
  exact same_encode.mpr ⟨names_ok.mp hnames, htext, htruncated, hbytes⟩

theorem WorkerAttestation.same_encode {fields : Fields} {a : WorkerAttestation} :
    (Json.obj fields).Same a.encode ↔
      (∀ key, key ∈ fields.keys ↔ key ∈ fieldNames) ∧
      fields.get "runtime_uid" = .int a.runtime_uid ∧
      fields.get "readonly_rootfs" = .bool a.readonly_rootfs ∧
      fields.get "no_new_privileges" = .bool a.no_new_privileges ∧
      fields.get "effective_capabilities" = .str a.effective_capabilities ∧
      fields.get "sandbox_profile" = .str a.sandbox_profile := by
  simp [encode, Json.same_obj, Fields.keys, fieldNames]

/-- The dictionary of a valid attestation is read as this attestation. -/
theorem WorkerAttestation.fromDict_of_same {value : Json} {a : WorkerAttestation}
    (hvalid : a.validate = .ok ()) (h : value.Same a.encode) : fromDict value = .ok a := by
  cases value with
  | obj fields =>
    obtain ⟨hkeys, huid, hrootfs, hprivileges, hcapabilities, hprofile⟩ := same_encode.mp h
    simp only [fromDict, Json.requireObject_obj, ok_bind, names_ok.mpr hkeys, require_true, huid,
      hrootfs, hprivileges, hcapabilities, hprofile, asStr_str, asBool_bool, asInt_int, expect_some,
      hvalid, pure_eq_ok]
  | _ => simp [Json.Same, encode, Json.sorted] at h

/-- An accepted dictionary is that of the attestation read from it. -/
theorem WorkerAttestation.same_of_fromDict {value : Json} {a : WorkerAttestation}
    (h : fromDict value = .ok a) : value.Same a.encode := by
  simp only [fromDict, bind_eq_ok, exists_unit, require_eq_ok, expect_eq_ok, asStr_eq_some,
    asBool_eq_some, asInt_eq_some] at h
  obtain ⟨fields, hvalue, hnames, uid, huid, rootfs, hrootfs, privileges, hprivileges, capabilities,
    hcapabilities, profile, hprofile, -, ha⟩ := h
  cases Json.eq_obj_of_requireObject hvalue
  rw [pure_eq_ok, Except.ok.injEq] at ha
  subst ha
  exact same_encode.mpr
    ⟨names_ok.mp hnames, huid, hrootfs, hprivileges, hcapabilities, hprofile⟩

/-! ## The execution request -/

namespace WorkerExecutionRequest

/-- `WorkerExecutionRequest.to_json` -/
def toJson (py : Python) (r : WorkerExecutionRequest) : Except PyError String := do
  return py.dumps (← r.toDict py)

/-- `WorkerExecutionRequest.from_json` -/
def fromJson (loads : Loads) (py : Python) (value : String) :
    Except PyError WorkerExecutionRequest := do
  fromDict py (← decodeWorkerText loads value)

/-- The lists of a request dictionary are JSON arrays. -/
def listsAreArrays : Json → Bool
  | .obj fields => (Fields.get fields "argv").isArr &&
      (Fields.get fields "allowed_affected_files").isArr
  | _ => false

/-- A dictionary is that of a request when it has its fields with their values. -/
theorem same_encode {fields : Fields} {q : WorkerExecutionRequest} :
    (Json.obj fields).Same q.encode ↔
      (∀ key, key ∈ fields.keys ↔ key ∈ fieldNames) ∧
      fields.get "schema_version" = .int q.schema_version ∧
      fields.get "execution_request_id" = .str q.execution_request_id ∧
      fields.get "workflow_id" = .str q.workflow_id ∧
      fields.get "candidate_id" = .str q.candidate_id ∧
      fields.get "candidate_fingerprint" = .str q.candidate_fingerprint ∧
      fields.get "plan_id" = .str q.plan_id ∧
      fields.get "plan_fingerprint" = .str q.plan_fingerprint ∧
      fields.get "execution_intent" = .str q.execution_intent ∧
      fields.get "repository_token" = .str q.repository_token ∧
      fields.get "expected_repository_head" = .str q.expected_repository_head ∧
      fields.get "repository_branch" = .ofOption q.repository_branch ∧
      fields.get "argv" = .arr (q.argv.map .str) ∧
      fields.get "working_directory" = .str q.working_directory ∧
      fields.get "allowed_affected_files" = .arr (q.allowed_affected_files.map .str) ∧
      fields.get "timeout_seconds" = q.timeout_seconds.toJson ∧
      fields.get "request_digest" = .str q.request_digest := by
  have hkeys : Fields.keys
      (q.canonicalPayload ++ ([("request_digest", .str q.request_digest)] : Fields)) =
        fieldNames := rfl
  rw [encode, Json.same_obj, hkeys]
  simp [fieldNames, canonicalPayload]

/-- A dictionary with the fields of a valid request is read as this request. The values of its
lists need not be arrays. -/
theorem fromDict_of_fields {py : Python} {fields : Fields} {q : WorkerExecutionRequest}
    (hvalid : q.validate py = .ok ()) (hkeys : ∀ key, key ∈ fields.keys ↔ key ∈ fieldNames)
    (hschema : fields.get "schema_version" = .int q.schema_version)
    (hid : fields.get "execution_request_id" = .str q.execution_request_id)
    (hworkflow : fields.get "workflow_id" = .str q.workflow_id)
    (hcandidate : fields.get "candidate_id" = .str q.candidate_id)
    (hfingerprint : fields.get "candidate_fingerprint" = .str q.candidate_fingerprint)
    (hplan : fields.get "plan_id" = .str q.plan_id)
    (hplanned : fields.get "plan_fingerprint" = .str q.plan_fingerprint)
    (hintent : fields.get "execution_intent" = .str q.execution_intent)
    (htoken : fields.get "repository_token" = .str q.repository_token)
    (hhead : fields.get "expected_repository_head" = .str q.expected_repository_head)
    (hbranch : fields.get "repository_branch" = .ofOption q.repository_branch)
    (hargv : ∀ error, strTuple (fields.get "argv") error = .ok q.argv)
    (hdirectory : fields.get "working_directory" = .str q.working_directory)
    (hfiles : ∀ error,
      strTuple (fields.get "allowed_affected_files") error = .ok q.allowed_affected_files)
    (htimeout : fields.get "timeout_seconds" = q.timeout_seconds.toJson)
    (hdigest : fields.get "request_digest" = .str q.request_digest) :
    fromDict py (.obj fields) = .ok q := by
  have hnames := names_ok.mpr hkeys
  simp only [fromDict, Json.requireObject_obj, ok_bind, hnames, require_true, hschema, hid,
    hworkflow, hcandidate, hfingerprint, hplan, hplanned, hintent, htoken, hhead, hbranch, hargv,
    hdirectory, hfiles, htimeout, hdigest, asStr_str, asInt_int, expect_some,
    asOptional_ofOption, PyNumber.ofJson_toJson, hvalid, pure_eq_ok]

/-- Every dictionary that is that of a valid request is read as this request. -/
theorem fromDict_of_same {py : Python} {value : Json} {q : WorkerExecutionRequest}
    (hvalid : q.validate py = .ok ()) (h : value.Same q.encode) : fromDict py value = .ok q := by
  cases value with
  | obj fields =>
    obtain ⟨hkeys, hschema, hid, hworkflow, hcandidate, hfingerprint, hplan, hplanned, hintent,
      htoken, hhead, hbranch, hargv, hdirectory, hfiles, htimeout, hdigest⟩ := same_encode.mp h
    exact fromDict_of_fields hvalid hkeys hschema hid hworkflow hcandidate hfingerprint hplan
      hplanned hintent htoken hhead hbranch (fun _ => by rw [hargv, strTuple_arr])
      hdirectory (fun _ => by rw [hfiles, strTuple_arr]) htimeout hdigest
  | _ => simp [Json.Same, encode, Json.sorted] at h

/-- An accepted dictionary is that of the request read from it, exactly when the values
that are read as lists are arrays. -/
theorem same_encode_of_fromDict {py : Python} {value : Json} {q : WorkerExecutionRequest}
    (h : fromDict py value = .ok q) : value.Same q.encode ↔ listsAreArrays value := by
  simp only [fromDict, bind_eq_ok, exists_unit, require_eq_ok, expect_eq_ok, asStr_eq_some,
    asInt_eq_some, asOptional_asStr_eq_some, PyNumber.ofJson_eq_some] at h
  obtain ⟨fields, hvalue, hnames, argv, hargv, files, hfiles, schema, hschema, id, hid, workflow,
    hworkflow, candidate, hcandidate, fingerprint, hfingerprint, plan, hplan, planned, hplanned,
    intent, hintent, token, htoken, head, hhead, branch, hbranch, directory, hdirectory, timeout,
    htimeout, digest, hdigest, -, hq⟩ := h
  cases Json.eq_obj_of_requireObject hvalue
  rw [pure_eq_ok, Except.ok.injEq] at hq
  subst hq
  rw [same_encode]
  simp only [names_ok.mp hnames, hschema, hid, hworkflow, hcandidate, hfingerprint, hplan, hplanned,
    hintent, htoken, hhead, hbranch, hdirectory, htimeout, hdigest, true_and, and_true,
    iff_self, implies_true, listsAreArrays, Bool.and_eq_true, eq_arr_of_strTuple hargv, eq_arr_of_strTuple hfiles]

end WorkerExecutionRequest

/-! ## The execution result -/

namespace WorkerExecutionResult

/-- `WorkerExecutionResult.to_json` -/
def toJson (py : Python) (r : WorkerExecutionResult) : Except PyError String := do
  return py.dumps (← r.toDict py)

/-- `WorkerExecutionResult.from_json` -/
def fromJson (loads : Loads) (py : Python) (value : String) :
    Except PyError WorkerExecutionResult := do
  fromDict py (← decodeWorkerText loads value)

/-- The dictionary with the fields that may be left out, each with its default. -/
def withDefaults : Json → Json
  | .obj fields =>
      .obj (fields ++ [("base_repository_head", .null), ("patch", .null)].filter
        fun field => field.1 ∉ Fields.keys fields)
  | value => value

/-- An optional value is `null` or a value that is taken for present. -/
def nullOrTruthy (value : Json) : Bool := decide (value = .null) || value.truthy

/-- The list of a result dictionary is a JSON array, and what is absent is `null`. -/
def plain : Json → Bool
  | .obj fields => (Fields.get fields "changed_files").isArr &&
      nullOrTruthy (Fields.get fields "failure_code") && nullOrTruthy (Fields.get fields "patch")
  | _ => false

theorem readFailureCode_eq_ok {value : Json} {code : Option WorkerFailureCode}
    (h : readFailureCode value = .ok code) :
    value = .ofOption (code.map StrEnum.value) ↔ nullOrTruthy value := by
  unfold readFailureCode at h
  by_cases htruthy : value.truthy = true
  · rw [if_pos htruthy] at h
    simp only [bind_eq_ok, expect_eq_ok, Option.bind_eq_some_iff, asStr_eq_some, pure_eq_ok,
      Except.ok.injEq] at h
    obtain ⟨c, ⟨text, rfl, hc⟩, rfl⟩ := h
    have htext : text = StrEnum.value c := StrEnum.eq_value_of_ofValue hc
    exact iff_of_true (by rw [htext]; rfl) (by simp [nullOrTruthy, htruthy])
  · rw [if_neg htruthy, Except.ok.injEq] at h
    subst h
    simp [nullOrTruthy, htruthy]

theorem readPatch_eq_ok {value : Json} {patch : Option BoundedOutput}
    (h : readPatch value = .ok patch) :
    value.Same (.nullable BoundedOutput.encode patch) ↔ nullOrTruthy value := by
  unfold readPatch at h
  by_cases htruthy : value.truthy = true
  · rw [if_pos htruthy] at h
    simp only [bind_eq_ok, pure_eq_ok, Except.ok.injEq] at h
    obtain ⟨o, ho, rfl⟩ := h
    exact iff_of_true (BoundedOutput.same_of_fromDict ho) (by simp [nullOrTruthy, htruthy])
  · rw [if_neg htruthy, Except.ok.injEq] at h
    subst h
    simp [nullOrTruthy, htruthy]

/-- A dictionary is that of a result when it has its fields with their values. -/
theorem same_encode {fields : Fields} {r : WorkerExecutionResult} :
    (Json.obj fields).Same r.encode ↔
      (∀ key, key ∈ fields.keys ↔ key ∈ fieldNames) ∧
      fields.get "schema_version" = .int r.schema_version ∧
      fields.get "execution_request_id" = .str r.execution_request_id ∧
      fields.get "status" = .str (StrEnum.value r.status) ∧
      fields.get "return_code" = intOrNull r.return_code ∧
      (fields.get "stdout").Same r.stdout.encode ∧
      (fields.get "stderr").Same r.stderr.encode ∧
      fields.get "changed_files" = .arr (r.changed_files.map .str) ∧
      fields.get "patch_digest" = .ofOption r.patch_digest ∧
      fields.get "patch_size_bytes" = intOrNull r.patch_size_bytes ∧
      fields.get "patch_truncated" = .bool r.patch_truncated ∧
      fields.get "duration_seconds" = r.duration_seconds.toJson ∧
      fields.get "failure_code" = .ofOption (r.failure_code.map StrEnum.value) ∧
      fields.get "workspace_head" = .ofOption r.workspace_head ∧
      (fields.get "worker_attestation").Same r.worker_attestation.encode ∧
      fields.get "base_repository_head" = .ofOption r.base_repository_head ∧
      (fields.get "patch").Same (.nullable BoundedOutput.encode r.patch) := by
  have hkeys : r.encodedFields.keys = fieldNames := rfl
  rw [encode, Json.same_obj, hkeys]
  simp [fieldNames, requiredNames, encodedFields]

/-- The dictionary of a valid patch, or `null`, is read as this patch. -/
theorem readPatch_of_same {py : Python} {r : WorkerExecutionResult} {value : Json}
    (hvalid : r.validatePatch py = .ok ())
    (h : value.Same (.nullable BoundedOutput.encode r.patch)) : readPatch value = .ok r.patch := by
  cases hp : r.patch with
  | none =>
    rw [hp] at h
    obtain rfl := Json.same_null.mp h
    rfl
  | some patch =>
    rw [hp] at h
    simp only [validatePatch, hp] at hvalid
    have hread := BoundedOutput.fromDict_of_same (check_bind_eq_ok.mp hvalid).1 h
    have htruthy : value.truthy = true := by
      cases value with
      | obj fields =>
        have htext := (BoundedOutput.same_encode.mp h).2.1
        cases fields with
        | nil => cases htext
        | cons field fields => rfl
      | _ => simp [Json.Same, BoundedOutput.encode, Json.sorted] at h
    simp only [readPatch, htruthy, if_true, hread, ok_bind, pure_eq_ok]

/-- Every dictionary that is that of a valid result is read as this result. -/
theorem fromDict_of_same {py : Python} {value : Json} {r : WorkerExecutionResult}
    (hvalid : r.validate py = .ok ()) (h : value.Same r.encode) : fromDict py value = .ok r := by
  have hv := (valid_of_validate hvalid).1
  cases value with
  | obj fields =>
    obtain ⟨hkeys, hschema, hid, hstatus, hreturn, hstdout, hstderr, hfiles, hdigest, hsize,
      htruncated, hduration, hfailure, hhead, hattestation, hbase, hpatch⟩ := same_encode.mp h
    have hnames : ((Fields.keys fields).all (· ∈ fieldNames) &&
        requiredNames.all (· ∈ Fields.keys fields)) = true := by
      simp only [Bool.and_eq_true, List.all_eq_true, decide_eq_true_eq, hkeys]
      exact ⟨fun key hkey => hkey, fun key hkey => List.mem_append_left _ hkey⟩
    simp only [fromDict, Json.requireObject_obj, ok_bind, hnames, require_true, hschema, hid,
      hstatus, hreturn, hfiles, hdigest, hsize, htruncated, hduration, hfailure, hhead, hbase,
      readFailureCode_encode, readPatch_of_same hv.patch hpatch,
      BoundedOutput.fromDict_of_same hv.stdout hstdout,
      BoundedOutput.fromDict_of_same hv.stderr hstderr,
      WorkerAttestation.fromDict_of_same hv.attestation hattestation, asStr_str, asInt_int,
      asBool_bool, strTuple_arr, expect_some, Option.bind_some, StrEnum.ofValue_value,
      asOptional_ofOption, asOptional_intOrNull, PyNumber.ofJson_toJson, hvalid, pure_eq_ok]
  | _ => simp [Json.Same, encode, Json.sorted] at h

/-- The names of a dictionary with its defaults are all field names. -/
theorem names_withDefaults {fields : Fields}
    (h : (fields.keys.all (· ∈ fieldNames) && requiredNames.all (· ∈ fields.keys)) = true)
    (key : String) : key ∈ Fields.keys (fields ++
        ([("base_repository_head", .null), ("patch", .null)] : Fields).filter
          fun field => field.1 ∉ Fields.keys fields) ↔ key ∈ fieldNames := by
  simp only [Bool.and_eq_true, List.all_eq_true, decide_eq_true_eq] at h
  rw [Fields.keys, List.map_append, List.mem_append]
  constructor
  · rintro (hkey | hkey)
    · exact h.1 key hkey
    · obtain ⟨field, hfield, rfl⟩ := List.mem_map.mp hkey
      obtain ⟨hfield, -⟩ := List.mem_filter.mp hfield
      simp only [List.mem_cons, List.not_mem_nil, or_false] at hfield
      rcases hfield with rfl | rfl <;> decide
  · intro hkey
    by_cases hmem : key ∈ Fields.keys fields
    · exact .inl hmem
    · refine .inr (List.mem_map.mpr ⟨(key, .null), List.mem_filter.mpr ⟨?_, by simpa using hmem⟩, rfl⟩)
      have hnot : key ∉ requiredNames := fun hrequired => hmem (h.2 key hrequired)
      rcases List.mem_append.mp hkey with hrequired | hoptional
      · exact absurd hrequired hnot
      · simpa using hoptional

/-- An accepted dictionary is, up to absent fields, that of the result read from it, exactly when
its list is an array and no other false value stands for `null`. -/
theorem same_encode_of_fromDict {py : Python} {value : Json} {r : WorkerExecutionResult}
    (h : fromDict py value = .ok r) : (withDefaults value).Same r.encode ↔ plain value := by
  simp only [fromDict, bind_eq_ok, exists_unit, require_eq_ok, expect_eq_ok, asStr_eq_some,
    asInt_eq_some, asBool_eq_some, asOptional_asStr_eq_some, asOptional_asInt_eq_some,
    PyNumber.ofJson_eq_some, Option.bind_eq_some_iff] at h
  obtain ⟨fields, hvalue, hnames, status, ⟨text, htext, hstatus⟩, failure, hfailure, stdout, hstdout,
    stderr, hstderr, files, hfiles, attestation, hattestation, patch, hpatch, schema, hschema, id,
    hid, return_code, hreturn, digest, hdigest, size, hsize, truncated, htruncated, duration,
    hduration, head, hhead, base, hbase, -, hr⟩ := h
  cases Json.eq_obj_of_requireObject hvalue
  rw [pure_eq_ok, Except.ok.injEq] at hr
  subst hr
  have hget (key : String) : Fields.get (fields ++
      ([("base_repository_head", .null), ("patch", .null)] : Fields).filter
        fun field => field.1 ∉ Fields.keys fields) key = Fields.get fields key :=
    Fields.get_append_null (by simp) key
  rw [withDefaults, same_encode]
  simp only [hget, names_withDefaults hnames, htext, StrEnum.eq_value_of_ofValue hstatus, hschema,
    hid, hreturn, hdigest, hsize, htruncated, hduration, hhead, hbase, true_and, iff_self,
    implies_true, plain, Bool.and_eq_true, and_assoc, eq_arr_of_strTuple hfiles, readFailureCode_eq_ok hfailure,
    readPatch_eq_ok hpatch, BoundedOutput.same_of_fromDict hstdout,
    BoundedOutput.same_of_fromDict hstderr, WorkerAttestation.same_of_fromDict hattestation]

end WorkerExecutionResult

/-! ## The codec -/

variable (loads : Loads) (py : Python)

/-- A valid request, and a valid result for it. -/
def smokeRequest : WorkerExecutionRequest where
  schema_version := 1
  execution_request_id := "request"
  workflow_id := "workflow"
  candidate_id := "candidate"
  candidate_fingerprint := "fingerprint"
  plan_id := "plan"
  plan_fingerprint := "planned"
  execution_intent := "rc1-validation-smoke"
  repository_token := "token"
  expected_repository_head := String.ofList (List.replicate 40 'a')
  repository_branch := none
  argv := RC1_SMOKE_ARGV
  working_directory := "."
  allowed_affected_files := [RC1_SMOKE_TARGET]
  timeout_seconds := .int 60
  request_digest := DIGEST_PREFIX ++ String.ofList (List.replicate 64 '0')

@[inherit_doc smokeRequest]
def smokeResult : WorkerExecutionResult where
  schema_version := 1
  execution_request_id := "request"
  status := .succeeded
  return_code := some 0
  stdout := { text := "" }
  stderr := { text := "" }
  changed_files := []
  patch_digest := none
  patch_size_bytes := none
  patch_truncated := false
  duration_seconds := .int 1
  failure_code := none
  workspace_head := none
  worker_attestation :=
    { runtime_uid := 10001, readonly_rootfs := true, no_new_privileges := true,
      effective_capabilities := "0", sandbox_profile := "atlas" }

set_option maxRecDepth 2000

theorem smokeResult_valid : smokeResult.validate Python.plain = .ok () := by decide

theorem smokeRequest_valid : smokeRequest.validate Python.plain = .ok () :=
  WorkerExecutionRequest.validate_of_fields (by decide) (by decide)

/-- A dictionary with another value for one of its fields. -/
def replaceField (fields : Fields) (key : String) (value : Json) : Json :=
  .obj ((key, value) :: fields.filter fun field => field.1 ≠ key)

/-- The smoke request, as it is read from a dictionary whose command is an object. -/
theorem fromDict_argvObject : WorkerExecutionRequest.fromDict Python.plain
    (replaceField (smokeRequest.canonicalPayload ++
      ([("request_digest", .str smokeRequest.request_digest)] : Fields)) "argv"
      (.obj [("atlas-rc1-validation-smoke", .null)])) = .ok smokeRequest :=
  WorkerExecutionRequest.fromDict_of_fields smokeRequest_valid
    (names_ok.mp (by decide)) rfl rfl rfl rfl rfl rfl rfl rfl rfl rfl rfl
    (fun _ => rfl) rfl (fun _ => rfl) rfl rfl

end Worker

end AtlasOS
