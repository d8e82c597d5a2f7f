import AtlasOS.Core.Dispatch.Runtime
import AtlasOS.Lib.Polling

/-!
# The verification of a restart

`ProxmoxQemuVerificationService.verify` polls the target of a restart and its task
until the deadline. On each turn the target is read before the task, and the last
target that was read is kept.
-/

namespace AtlasOS.Core

/-- What the verification reads of a `ResolvedOperationalTarget`. Its fingerprint is a digest
with a prefix, and its state is one of the states that the provider documents. -/
structure ObservedTarget where
  resource_fingerprint : String
  current_state : String
  exact : exactText resource_fingerprint = true ∧ exactText current_state = true

/-- What the resolver answers to the verification. -/
inductive TargetAnswer where
  | resolved (target : ObservedTarget)
  /-- The target is unknown, or its provider is missing or has no resources. -/
  | unresolved
  /-- `ProviderResourceOperationError` -/
  | unavailable
  /-- Another exception. -/
  | raised (error : PyError)

/-- What one turn of the loop sees. -/
structure Observation where
  /-- The reading of the clock that is compared with the deadline. -/
  now : DateTime
  target : TargetAnswer
  /-- What the task's status says, unless the read raised. -/
  task : Option Json
  /-- The reading of the clock when a result is built. -/
  completed : DateTime

/-- `_validated_upid` -/
def validatedUpid (value : Option String) : Option String :=
  match value with
  | none => none
  | some text =>
      let parts := text.toList.splitOn ':'
      if "UPID:".toList.isPrefixOf text.toList && decide (text.length ≤ 512) &&
          !text.toList.any isSpace && decide (9 ≤ parts.length) && parts[1]? ≠ some [] then
        some text
      else none

/-- `_upid_node` -/
def upidNode (upid : String) : String := String.ofList ((upid.toList.splitOn ':').getD 1 [])

/-- `_observe_target` -/
def observeTarget (request_fingerprint : String) :
    TargetAnswer → Except PyError (Option OperationalVerificationStatus × Option ObservedTarget)
  | .unresolved => .ok (some .targetReplaced, none)
  | .unavailable => .ok (none, none)
  | .raised error => .error error
  | .resolved target =>
      if target.resource_fingerprint ≠ request_fingerprint then
        .ok (some .targetReplaced, some target)
      else .ok (none, some target)

/-- Whether a stopped task ended well. -/
def taskExit : Option Json → Option Bool
  | some (.obj fields) =>
      if Fields.get fields "status" = .str "stopped" then
        some (decide (Fields.get fields "exitstatus" = .str "OK"))
      else none
  | _ => none

/-- The variables of the loop. -/
structure VerifyState where
  last_target : Option ObservedTarget
  task_succeeded : Bool

section Verify

variable {py : Python} (request : Request py) (started_at deadline : DateTime)

/-- `_result` -/
def verificationResult (status : OperationalVerificationStatus) (target : Option ObservedTarget)
    (completed : DateTime) : Except PyError OperationalVerificationResult := do
  let result : OperationalVerificationResult :=
    { status
      request_id := request.request_id
      observed_target_fingerprint := target.map (·.resource_fingerprint)
      observed_state := target.map (·.current_state)
      health_status := target.map (·.current_state)
      started_at
      completed_at := completed
      deadline }
  result.validate
  return result

/-- One turn of the loop of `verify`. -/
def verifyTurn (s : VerifyState) (o : Observation) :
    Turn VerifyState (Except PyError OperationalVerificationResult) :=
  match deadline.le o.now with
  | .error error => .settles (.error error)
  | .ok true =>
      let status := if s.task_succeeded then .verificationFailed else .outcomeUnknown
      .settles (verificationResult request started_at deadline status s.last_target o.completed)
  | .ok false =>
      match observeTarget request.target_fingerprint o.target with
      | .error error => .settles (.error error)
      | .ok (some status, target) =>
          .settles (verificationResult request started_at deadline status target o.completed)
      | .ok (none, target) =>
          let last_target := target <|> s.last_target
          if taskExit o.task = some false then
            .settles (verificationResult request started_at deadline .verificationFailed last_target
              o.completed)
          else
            let task_succeeded := s.task_succeeded || decide (taskExit o.task = some true)
            if task_succeeded && last_target.any (·.current_state = "running") then
              .settles (verificationResult request started_at deadline .succeeded last_target
                o.completed)
            else .goes ⟨last_target, task_succeeded⟩

/-- `verify` of a dispatch, where a client is asked for with the node of the task. -/
def verify (provider_operation_id : Option String) (connect : String → Except PyError Unit)
    (completed : DateTime) (observations : List Observation) :
    Turn VerifyState (Except PyError OperationalVerificationResult) :=
  match deadline.le started_at with
  | .error error => .settles (.error error)
  | .ok true =>
      .settles (.error (.valueError "verification deadline must follow dispatch start"))
  | .ok false =>
      match validatedUpid provider_operation_id with
      | none =>
          .settles (verificationResult request started_at deadline .outcomeUnknown none completed)
      | some upid =>
          match connect (upidNode upid) with
          | .error error => .settles (.error error)
          | .ok () => poll (verifyTurn request started_at deadline) ⟨none, false⟩ observations

/-! ## What was observed -/

/-- The task was observed to have ended well. -/
def Observation.SawSuccess (o : Observation) : Prop := taskExit o.task = some true

/-- The exact target was observed running. -/
def Observation.SawRunning (o : Observation) : Prop :=
  ∃ target, o.target = .resolved target ∧
    target.resource_fingerprint = request.target_fingerprint ∧ target.current_state = "running"

/-- Another target was observed. -/
def Observation.SawReplaced (o : Observation) : Prop :=
  ∃ target, o.target = .resolved target ∧
    target.resource_fingerprint ≠ request.target_fingerprint

/-- The reading of the clock is past the deadline. -/
def Observation.Late (o : Observation) : Prop := deadline.le o.now = .ok true

/-- The task was observed to have ended well, and the target was observed running afterwards. -/
def Evidence (observed : List Observation) : Prop :=
  ∃ before done between seen after, observed = before ++ done :: (between ++ seen :: after) ∧
    done.SawSuccess ∧ seen.SawRunning request

/-- What a verdict says of the observations that it was reached on. -/
structure SoundVerdict (observed : List Observation) (result : OperationalVerificationResult) :
    Prop where
  evidence : result.status = .succeeded → Evidence request observed
  exact : result.status = .succeeded → ∀ o ∈ observed, ¬ o.SawReplaced request

/-- The verification is sound on a sequence of observations: every verdict is, and a reading of
the clock that is past the deadline leads to one of two verdicts. -/
structure SoundVerification (run : List Observation →
      Turn VerifyState (Except PyError OperationalVerificationResult))
    (observations : List Observation) : Prop where
  sound : ∀ observed result, observed <+: observations → Settles run observed (.ok result) →
    SoundVerdict request observed result
  late : ∀ seen o state, seen ++ [o] <+: observations → run seen = .goes state →
    o.Late deadline → ∃ result, run (seen ++ [o]) = .settles (.ok result) ∧
      (result.status = .verificationFailed ∨ result.status = .outcomeUnknown)

/-- The target that was read. -/
def Observation.read (o : Observation) : Option ObservedTarget :=
  match o.target with
  | .resolved target => some target
  | _ => none

/-- The last target that was read. -/
def lastTarget (observed : List Observation) : Option ObservedTarget :=
  (observed.filterMap Observation.read).getLast?

/-- A turn in time on which the target is read as the request's, or not at all. -/
def Observation.Open (o : Observation) : Prop :=
  deadline.le o.now = .ok false ∧ (o.target = .unavailable ∨ ∃ target,
    o.target = .resolved target ∧ target.resource_fingerprint = request.target_fingerprint)

/-- When the task is first observed to have ended well, the target was not last read running. -/
def NotStale (observations : List Observation) : Prop :=
  ∀ seen o, seen ++ [o] <+: observations → (∀ p ∈ seen ++ [o], p.Open request deadline) →
    (∀ p ∈ seen, taskExit p.task = none) → o.SawSuccess →
      ∀ target ∈ lastTarget (seen ++ [o]), target.current_state ≠ "running"

/-- The loop is entered. -/
def Polls (provider_operation_id : Option String) (connect : String → Except PyError Unit) : Prop :=
  deadline.le started_at = .ok false ∧
    ∃ upid, validatedUpid provider_operation_id = some upid ∧ connect (upidNode upid) = .ok ()

/-! ## Turns -/

/-- A result with the given status is built. -/
theorem verificationResult_eq_ok (status : OperationalVerificationStatus)
    (target : Option ObservedTarget) (completed : DateTime) :
    ∃ result, verificationResult request started_at deadline status target completed = .ok result ∧
      result.status = status := by
  have hid : exactText request.request_id = true :=
    request.texts_exact (by simp [OperationalDispatchRequest.texts])
  cases target with
  | none =>
    simp [verificationResult, OperationalVerificationResult.validate, validateStrings, hid]
  | some target =>
    obtain ⟨hfingerprint, hstate⟩ := target.exact
    simp [verificationResult, OperationalVerificationResult.validate, validateStrings, hid,
      hfingerprint, hstate]

theorem status_of_verificationResult {status : OperationalVerificationStatus}
    {target : Option ObservedTarget} {completed : DateTime} {result : OperationalVerificationResult}
    (h : verificationResult request started_at deadline status target completed = .ok result) :
    result.status = status := by
  obtain ⟨found, hfound, hstatus⟩ :=
    verificationResult_eq_ok request started_at deadline status target completed
  rw [hfound] at h
  cases h
  exact hstatus

theorem lastTarget_concat (seen : List Observation) (o : Observation) :
    lastTarget (seen ++ [o]) = (o.read <|> lastTarget seen) := by
  cases hread : o.read <;> simp [lastTarget, hread]

variable {request started_at deadline}

/-- What a turn comes to when the target is read as the request's, or not at all. -/
theorem verifyTurn_of_open {s : VerifyState} {o : Observation} (h : o.Open request deadline) :
    verifyTurn request started_at deadline s o =
      if taskExit o.task = some false then
        .settles (verificationResult request started_at deadline .verificationFailed
          (o.read <|> s.last_target) o.completed)
      else if (s.task_succeeded || decide (taskExit o.task = some true)) &&
          (o.read <|> s.last_target).any (·.current_state = "running") then
        .settles (verificationResult request started_at deadline .succeeded
          (o.read <|> s.last_target) o.completed)
      else
        .goes ⟨o.read <|> s.last_target,
          s.task_succeeded || decide (taskExit o.task = some true)⟩ := by
  obtain ⟨htime, htarget | ⟨target, htarget, hsame⟩⟩ := h
  · simp [verifyTurn, htime, htarget, observeTarget, Observation.read]
  · simp [verifyTurn, htime, htarget, observeTarget, Observation.read, hsame]

/-- On every other turn the loop settles, and not with success. -/
theorem verifyTurn_of_not_open {s : VerifyState} {o : Observation}
    (h : ¬ o.Open request deadline) :
    ∃ verdict, verifyTurn request started_at deadline s o = .settles verdict ∧
      ∀ result, verdict = .ok result → result.status ≠ .succeeded := by
  simp only [verifyTurn]
  split
  · exact ⟨_, rfl, by simp⟩
  · refine ⟨_, rfl, fun result hresult => ?_⟩
    rw [status_of_verificationResult request started_at deadline hresult]
    split <;> simp
  · next htime =>
    cases htarget : o.target with
    | unavailable => exact absurd ⟨htime, .inl htarget⟩ h
    | raised error => exact ⟨_, rfl, by simp⟩
    | unresolved =>
      refine ⟨_, rfl, fun result hresult => ?_⟩
      rw [status_of_verificationResult request started_at deadline hresult]
      simp
    | resolved target =>
      by_cases hsame : target.resource_fingerprint = request.target_fingerprint
      · exact absurd ⟨htime, .inr ⟨target, htarget, hsame⟩⟩ h
      · simp only [observeTarget, ne_eq, hsame, not_false_eq_true, if_true]
        refine ⟨_, rfl, fun result hresult => ?_⟩
        rw [status_of_verificationResult request started_at deadline hresult]
        simp

/-! ## Runs -/

/-- What the variables of the loop say of the observations that were made. -/
structure Going (request : Request py) (deadline : DateTime) (seen : List Observation)
    (s : VerifyState) : Prop where
  opened : ∀ o ∈ seen, o.Open request deadline
  last : s.last_target = lastTarget seen
  done : s.task_succeeded = true → ∃ o ∈ seen, o.SawSuccess
  undone : s.task_succeeded = false → ∀ o ∈ seen, taskExit o.task = none
  quiet : s.task_succeeded = true → ∀ target ∈ s.last_target, target.current_state ≠ "running"

theorem going_nil : Going request deadline [] ⟨none, false⟩ where
  opened := by simp
  last := rfl
  done := by simp
  undone := by simp
  quiet := by simp

theorem going_concat {seen : List Observation} {s s' : VerifyState} {o : Observation}
    (h : Going request deadline seen s)
    (hturn : verifyTurn request started_at deadline s o = .goes s') :
    Going request deadline (seen ++ [o]) s' := by
  have hopen : o.Open request deadline := by
    by_contra hclosed
    obtain ⟨verdict, hverdict, -⟩ := verifyTurn_of_not_open hclosed
    rw [hverdict] at hturn
    cases hturn
  rw [verifyTurn_of_open hopen] at hturn
  split_ifs at hturn with hfailed hrunning
  cases hturn
  have hexit : taskExit o.task = none ∨ taskExit o.task = some true := by
    cases hexit : taskExit o.task with
    | none => exact .inl rfl
    | some well =>
      cases well with
      | true => exact .inr rfl
      | false => exact absurd hexit hfailed
  constructor
  · intro p hp
    rcases List.mem_append.mp hp with hp | hp
    · exact h.opened p hp
    · rw [List.mem_singleton.mp hp]
      exact hopen
  · rw [lastTarget_concat, h.last]
  · intro hdone
    rcases Bool.or_eq_true_iff.mp hdone with hbefore | hnow
    · obtain ⟨p, hp, hsuccess⟩ := h.done hbefore
      exact ⟨p, List.mem_append_left [o] hp, hsuccess⟩
    · exact ⟨o, by simp, by simpa [Observation.SawSuccess] using hnow⟩
  · intro hundone p hp
    obtain ⟨hbefore, hnow⟩ := Bool.or_eq_false_iff.mp hundone
    rcases List.mem_append.mp hp with hp | hp
    · exact h.undone hbefore p hp
    · rw [List.mem_singleton.mp hp]
      exact hexit.resolve_right (of_decide_eq_false hnow)
  · intro hdone target htarget hstate
    refine hrunning ?_
    rw [Bool.and_eq_true, Option.any_eq_true]
    exact ⟨hdone, target, htarget, by simpa using hstate⟩

theorem going_of_poll {seen : List Observation} {s : VerifyState}
    (h : poll (verifyTurn request started_at deadline) ⟨none, false⟩ seen = .goes s) :
    Going request deadline seen s :=
  poll_invariant going_nil (fun _ _ _ _ hgoing hturn => going_concat hgoing hturn) h

/-- The target of an open turn is the request's. -/
theorem Observation.Open.not_replaced {o : Observation} (h : o.Open request deadline) :
    ¬ o.SawReplaced request := by
  rintro ⟨target, htarget, hother⟩
  rcases h.2 with hnone | ⟨found, hfound, hsame⟩
  · simp [hnone] at htarget
  · rw [hfound] at htarget
    cases htarget
    exact hother hsame

/-- An open turn on which a running target was read is one on which the exact target ran. -/
theorem Observation.Open.sawRunning {o : Observation} {target : ObservedTarget}
    (h : o.Open request deadline) (hread : o.read = some target)
    (hstate : target.current_state = "running") : o.SawRunning request := by
  rcases h.2 with hnone | ⟨found, hfound, hsame⟩
  · simp [Observation.read, hnone] at hread
  · have heq : found = target := by simpa [Observation.read, hfound] using hread
    subst heq
    exact ⟨found, hfound, hsame, hstate⟩

/-- A success is a verdict on an open turn. -/
theorem open_of_succeeded {s : VerifyState} {o : Observation}
    {result : OperationalVerificationResult}
    (h : verifyTurn request started_at deadline s o = .settles (.ok result))
    (hstatus : result.status = .succeeded) :
    o.Open request deadline ∧
      (s.task_succeeded || decide (taskExit o.task = some true)) = true ∧
      ∃ target, (o.read <|> s.last_target) = some target ∧ target.current_state = "running" := by
  have hopen : o.Open request deadline := by
    by_contra hclosed
    obtain ⟨verdict, hverdict, hnot⟩ := verifyTurn_of_not_open hclosed
    rw [hverdict] at h
    cases h
    exact hnot result rfl hstatus
  rw [verifyTurn_of_open hopen] at h
  split_ifs at h with hfailed hrunning
  · have hfound := status_of_verificationResult request started_at deadline (Turn.settles.inj h)
    simp [hstatus] at hfound
  · rw [Bool.and_eq_true, Option.any_eq_true] at hrunning
    obtain ⟨hdone, target, htarget, hstate⟩ := hrunning
    exact ⟨hopen, hdone, target, htarget, by simpa using hstate⟩

/-- Success on a turn after the task had ended well rests on what that turn read. -/
theorem evidence_of_done {seen : List Observation} {s : VerifyState} {o : Observation}
    {target : ObservedTarget} (h : Going request deadline seen s)
    (hdone : s.task_succeeded = true) (hopen : o.Open request deadline)
    (htarget : (o.read <|> s.last_target) = some target)
    (hstate : target.current_state = "running") : Evidence request (seen ++ [o]) := by
  obtain ⟨p, hp, hsuccess⟩ := h.done hdone
  obtain ⟨before, between, rfl⟩ := List.append_of_mem hp
  have hread : o.read = some target := by
    cases hread : o.read with
    | some found => simpa [hread] using htarget
    | none =>
      have hlast : s.last_target = some target := by simpa [hread] using htarget
      exact absurd hstate (h.quiet hdone target hlast)
  exact ⟨before, p, between, o, [], by simp, hsuccess, hopen.sawRunning hread hstate⟩

/-- Where only the last observation shows the end of the task, nothing was seen afterwards. -/
theorem not_evidence_of_last {seen : List Observation} {o : Observation}
    (h : ∀ p ∈ seen, taskExit p.task = none) : ¬ Evidence request (seen ++ [o]) := by
  rintro ⟨before, done, between, later, after, heq, hsuccess, -⟩
  have hsplit : seen = before ++ done :: (between ++ (later :: after).dropLast) := by
    have hdrop := congrArg List.dropLast heq
    rw [List.dropLast_concat, List.dropLast_append_of_ne_nil (by simp),
      List.dropLast_cons_of_ne_nil (by simp), List.dropLast_append_of_ne_nil (by simp)] at hdrop
    exact hdrop
  have hnone := h done (by simp [hsplit])
  rw [Observation.SawSuccess, hnone] at hsuccess
  cases hsuccess

/-- The loop goes on while the target is the request's and the task is not observed to end. -/
theorem poll_of_pending {seen : List Observation} (hopen : ∀ o ∈ seen, o.Open request deadline)
    (hpending : ∀ o ∈ seen, taskExit o.task = none) :
    ∃ s, poll (verifyTurn request started_at deadline) ⟨none, false⟩ seen = .goes s ∧
      s.task_succeeded = false := by
  induction seen using List.reverseRecOn with
  | nil => exact ⟨⟨none, false⟩, rfl, rfl⟩
  | append_singleton seen o ih =>
    obtain ⟨s, hs, hundone⟩ := ih (fun p hp => hopen p (List.mem_append_left [o] hp))
      (fun p hp => hpending p (List.mem_append_left [o] hp))
    have hexit := hpending o (by simp)
    rw [poll_append hs, poll_singleton, verifyTurn_of_open (hopen o (by simp))]
    simp [hexit, hundone]

/-- The loop is sound exactly when its success is not stale. -/
theorem sound_poll_iff {observations : List Observation} :
    SoundVerification request deadline
        (poll (verifyTurn request started_at deadline) ⟨none, false⟩) observations ↔
      NotStale request deadline observations := by
  constructor
  · intro hsound seen o hprefix hopen hpending hsuccess target htarget hrunning
    obtain ⟨s, hs, -⟩ : ∃ s, poll (verifyTurn request started_at deadline) ⟨none, false⟩ seen =
        .goes s ∧ s.task_succeeded = false :=
      poll_of_pending (fun p hp => hopen p (List.mem_append_left [o] hp)) hpending
    have hlast := (going_of_poll hs).last
    have hread : (o.read <|> s.last_target) = some target := by
      rw [hlast, ← lastTarget_concat]
      exact htarget
    have hexit : taskExit o.task = some true := hsuccess
    obtain ⟨result, hresult, hstatus⟩ := verificationResult_eq_ok request started_at deadline
      .succeeded (some target) o.completed
    have hturn : verifyTurn request started_at deadline s o = .settles (.ok result) := by
      rw [verifyTurn_of_open (hopen o (by simp)), hread, hresult]
      simp [hexit, hrunning]
    have hverdict := hsound.sound (seen ++ [o]) result hprefix
      (settles_poll_iff.mpr ⟨seen, o, s, rfl, hs, hturn⟩)
    exact not_evidence_of_last hpending (hverdict.evidence hstatus)
  · intro hfresh
    constructor
    · intro observed result hprefix hsettles
      obtain ⟨seen, o, s, rfl, hs, hturn⟩ := settles_poll_iff.mp hsettles
      have hgoing := going_of_poll hs
      constructor
      · intro hstatus
        obtain ⟨hopen, hdone, target, htarget, hrunning⟩ := open_of_succeeded hturn hstatus
        cases hbefore : s.task_succeeded with
        | true => exact evidence_of_done hgoing hbefore hopen htarget hrunning
        | false =>
          have hsuccess : o.SawSuccess := by simpa [hbefore, Observation.SawSuccess] using hdone
          have hopens : ∀ p ∈ seen ++ [o], p.Open request deadline := by
            simpa [or_imp, forall_and] using ⟨hgoing.opened, hopen⟩
          have hlast : target ∈ lastTarget (seen ++ [o]) := by
            rw [lastTarget_concat, ← hgoing.last]
            exact htarget
          exact absurd hrunning
            (hfresh seen o hprefix hopens (hgoing.undone hbefore) hsuccess target hlast)
      · intro hstatus p hp
        obtain ⟨hopen, -⟩ := open_of_succeeded hturn hstatus
        rcases List.mem_append.mp hp with hp | hp
        · exact (hgoing.opened p hp).not_replaced
        · rw [List.mem_singleton.mp hp]
          exact hopen.not_replaced
    · intro seen o s _ hs hlate
      have hturn : verifyTurn request started_at deadline s o =
          .settles (verificationResult request started_at deadline
            (if s.task_succeeded then .verificationFailed else .outcomeUnknown) s.last_target
            o.completed) := by
        rw [Observation.Late] at hlate
        simp [verifyTurn, hlate]
      obtain ⟨result, hresult, hstatus⟩ := verificationResult_eq_ok request started_at deadline
        (if s.task_succeeded then .verificationFailed else .outcomeUnknown) s.last_target
        o.completed
      refine ⟨result, by rw [poll_append hs, poll_singleton, hturn, hresult], ?_⟩
      rw [hstatus]
      split <;> simp

/-- The verification of a restart is sound on a sequence of observations exactly when, in case the
loop is entered, the target was not last read running when the task is first observed to have
ended well. -/
theorem verification_sound_iff (py : Python) (request : Request py) (started_at deadline : DateTime)
    (provider_operation_id : Option String) (connect : String → Except PyError Unit)
    (completed : DateTime) (observations : List Observation) :
    SoundVerification request deadline
        (verify request started_at deadline provider_operation_id connect completed)
        observations ↔
      (Polls started_at deadline provider_operation_id connect →
        NotStale request deadline observations) := by
  by_cases hpolls : Polls started_at deadline provider_operation_id connect
  · have hverify : verify request started_at deadline provider_operation_id connect completed =
        poll (verifyTurn request started_at deadline) ⟨none, false⟩ := by
      obtain ⟨htime, upid, hupid, hconnect⟩ := hpolls
      funext observed
      simp [verify, htime, hupid, hconnect]
    rw [hverify, sound_poll_iff]
    exact ⟨fun h _ => h, fun h => h hpolls⟩
  · have hverify : ∃ verdict, (∀ observed, verify request started_at deadline provider_operation_id
        connect completed observed = .settles verdict) ∧
          ∀ result, verdict = .ok result → result.status ≠ .succeeded := by
      simp only [verify]
      split
      · exact ⟨_, fun _ => rfl, by simp⟩
      · exact ⟨_, fun _ => rfl, by simp⟩
      next htime =>
      split
      · refine ⟨_, fun _ => rfl, fun result hresult => ?_⟩
        rw [status_of_verificationResult request started_at deadline hresult]
        simp
      next upid hupid =>
      split
      · exact ⟨_, fun _ => rfl, by simp⟩
      · next hconnect => exact absurd ⟨htime, upid, hupid, hconnect⟩ hpolls
    obtain ⟨verdict, hverdict, hnot⟩ := hverify
    refine iff_of_true ⟨?_, ?_⟩ fun h => absurd h hpolls
    · intro observed result _ hsettles
      have hfound := (hverdict observed).symm.trans hsettles.1
      have hnever := hnot result (Turn.settles.inj hfound)
      exact ⟨fun h => absurd h hnever, fun h => absurd h hnever⟩
    · intro seen o s _ hs
      rw [hverdict] at hs
      cases hs

end Verify

/-- The target of the plain request, while it runs. -/
def runningTarget : ObservedTarget where
  resource_fingerprint := Request.plain.target_fingerprint
  current_state := "running"
  exact := by decide

/-- The target is read running while the task has not stopped it yet. -/
def beforeRestart : Observation where
  now := .utc ⟨1, one_lt_MAX_MICROS⟩
  target := .resolved runningTarget
  task := some (.obj [("status", .str "running")])
  completed := .utc ⟨1, one_lt_MAX_MICROS⟩

/-- The task ended well, and the target cannot be read. -/
def afterRestart : Observation where
  now := .utc ⟨2, two_lt_MAX_MICROS⟩
  target := .unavailable
  task := some (.obj [("status", .str "stopped"), ("exitstatus", .str "OK")])
  completed := .utc ⟨2, two_lt_MAX_MICROS⟩

/-- The identity of a restart task. -/
def restartUpid : String := "UPID:node:0001:0002:0003:qmreboot:101:root@pam:"

/-- A restart is reported as successful though the target was read before it only. -/
theorem not_sound_staleTarget :
    ¬ SoundVerification Request.plain (.utc ⟨9, by decide⟩)
      (verify Request.plain (.utc ⟨0, by decide⟩) (.utc ⟨9, by decide⟩) (some restartUpid)
        (fun _ => .ok ()) (.utc ⟨0, by decide⟩))
      [beforeRestart, afterRestart] := by
  intro h
  have hpolls : verify Request.plain (.utc ⟨0, by decide⟩) (.utc ⟨9, by decide⟩) (some restartUpid)
      (fun _ => .ok ()) (.utc ⟨0, by decide⟩) =
        poll (verifyTurn Request.plain (.utc ⟨0, by decide⟩) (.utc ⟨9, by decide⟩))
          ⟨none, false⟩ := by
    have htime : DateTime.le (.utc ⟨9, by decide⟩) (.utc ⟨0, by decide⟩) = .ok false := by decide
    have hupid : validatedUpid (some restartUpid) = some restartUpid := by decide
    funext observed
    simp [verify, htime, hupid]
  have hopen : ∀ o ∈ [beforeRestart] ++ [afterRestart],
      o.Open Request.plain (.utc ⟨9, by decide⟩) := by
    intro o ho
    rcases List.mem_append.mp ho with ho | ho
    · rw [List.mem_singleton.mp ho]
      exact ⟨by decide, .inr ⟨runningTarget, rfl, rfl⟩⟩
    · rw [List.mem_singleton.mp ho]
      exact ⟨by decide, .inl rfl⟩
  rw [hpolls, sound_poll_iff] at h
  have hpending : ∀ o ∈ [beforeRestart], taskExit o.task = none := by
    intro o ho
    rw [List.mem_singleton.mp ho]
    decide
  have hended : taskExit afterRestart.task = some true := by decide
  exact h [beforeRestart] afterRestart (List.prefix_refl _) hopen hpending hended runningTarget rfl
    rfl

end AtlasOS.Core
