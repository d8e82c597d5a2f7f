import AtlasOS.Discovery.DynamicRefresh
import Mathlib.Data.List.Nodup

/-!
# What a refresh reports

The outcome of a refresh is chosen from the publication and reported with what the
cache is read back as. The two fit in all cases but three: a publication that
failed on a corrupt cache does not go with evidence that is read back, a publication
that succeeded does not go with a generation that has expired, and a claim at the
end of the calendar cannot be evaluated.
-/

namespace AtlasOS.Discovery

variable {chars : Characters} {source : SourceId} {run : SourceRun chars source.text} {now : Utc}

/-! ## The reports -/

/-- The evidence of a result. -/
def DynamicSourceResult.evidence (result : DynamicSourceResult chars) :
    Option (DynamicReleaseFact × DynamicSourceProvenance chars) :=
  if result.health = .healthy then
    result.fact.bind fun fact => result.provenance.map fun provenance => (fact, provenance)
  else none

/-- The evidence that the source reports as healthy. -/
def SourceRun.evidence (run : SourceRun chars source.text) :
    Option (DynamicReleaseFact × DynamicSourceProvenance chars) :=
  match @fetchResult chars run.fetch with
  | .ok result => result.evidence
  | .error _ => none

/-- A record is handed to the cache store: it is the evidence of this source, and neither from the
future nor expired. -/
structure SourceRun.Publishes (run : SourceRun chars source.text) (now : Utc)
    (record : CachedFactRecord chars) : Prop where
  evidence : run.evidence = some (record.fact, record.provenance)
  source : source.text = FRIGATE_ADAPTER_ID
  past : ¬FutureDated record.provenance now
  current : ¬Expired record.provenance now

/-- The cache read back cannot be used. -/
inductive SourceRun.Unreadable (run : SourceRun chars source.text) (now : Utc) : Prop
  | raised (error : PyError) (read : run.read = .error error)
  | corrupt (reason : CacheFailureReason) (read : run.read = .ok (.corrupt reason))
  | future (generation : ValidatedCacheGeneration chars source.text)
      (read : run.read = .ok (.available generation)) (record : CachedFactRecord chars)
      (mem : record ∈ generation.records) (future : FutureDated record.provenance now)

/-- What happened to the cache when an outcome is reported. -/
def SourceRun.Happened (run : SourceRun chars source.text) (now : Utc)
    (result : RefreshSourceResult chars) : Prop :=
  match result.outcome with
  | .refreshed => ∃ record id, run.Publishes now record ∧
      run.publish record = .ok (.published id result.maintenance_degraded)
  | .noop => ∃ record id, run.Publishes now record ∧ run.publish record = .ok (.noop id)
  | .degraded | .unavailable => ∀ record, ¬run.Publishes now record
  | .publicationFailed => ∃ record, run.Publishes now record ∧
      ((∃ error, run.publish record = .error error) ∨
        (∃ reason ∉ corruptReasons, run.publish record = .ok (.failed reason)) ∨
        ∃ reason, run.read = .ok (.unavailable reason))
  | .cacheCorrupt => run.Unreadable now ∨ ∃ record, run.Publishes now record ∧
      ∃ reason ∈ corruptReasons, run.publish record = .ok (.failed reason)
  | .unknownSource => False

/-- The snapshot of a result holds the claims of the generation read back that have not expired,
and it is missing only if there are none or the cache is reported as corrupt. -/
structure SourceRun.Shows (run : SourceRun chars source.text) (now : Utc)
    (result : RefreshSourceResult chars) : Prop where
  claims : ∀ snapshot, result.snapshot = some snapshot → ∃ generation,
    run.read = .ok (.available generation) ∧ ∀ claim, claim ∈ snapshot.claims ↔
      claim.freshness ≠ .expired ∧ ∃ record ∈ generation.records,
        EvaluatedDynamicClaim.fromP1 record.fact record.provenance now = .ok claim
  missing : result.snapshot = none → result.outcome ≠ .cacheCorrupt → ∀ generation,
    run.read = .ok (.available generation) → ∀ record ∈ generation.records,
      Expired record.provenance now

/-- A result that its validator accepts and that matches what happened. -/
structure SourceRun.Reports (run : SourceRun chars source.text) (now : Utc)
    (result : RefreshSourceResult chars) : Prop where
  source_id : result.source_id = source.text
  valid : result.validateShape = .ok ()
  health : result.health = some .healthy ↔ ∃ record, run.Publishes now record
  happened : run.Happened now result
  shows : run.Shows now result

/-- The condition under which a refresh is contained in its result type. -/
structure SourceRun.Contained (run : SourceRun chars source.text) (now : Utc) : Prop where
  /-- The task is not cancelled. -/
  fetched : run.fetch ≠ .cancelled
  /-- The evidence of the source is not at the end of the calendar. -/
  evidence : ∀ fact provenance, run.evidence = some (fact, provenance) →
    source.text = FRIGATE_ADAPTER_ID → ¬BeyondCalendar provenance now
  /-- Nor is a claim in the cache. -/
  cached : ∀ generation, run.read = .ok (.available generation) →
    ∀ record ∈ generation.records, ¬BeyondCalendar record.provenance now
  /-- A publication that failed on a corrupt cache leaves no usable evidence to read. -/
  corrupt : ∀ record, run.Publishes now record →
    ∀ reason ∈ corruptReasons, run.publish record = .ok (.failed reason) →
      ∀ generation, run.read = .ok (.available generation) → ∀ record ∈ generation.records,
        Expired record.provenance now ∨ FutureDated record.provenance now
  /-- A publication that succeeded does not leave a generation that has expired. -/
  durable : ∀ record, run.Publishes now record →
    (∃ id maintenance_failed, run.publish record = .ok (.published id maintenance_failed)) ∨
      (∃ id, run.publish record = .ok (.noop id)) →
      ∀ generation, run.read = .ok (.available generation) → ∀ record ∈ generation.records,
        ¬Expired record.provenance now

/-! ## Results of the adapter -/

theorem contained_shape (error : PyError) :
    (contained error : DynamicSourceResult chars).validateShape = .ok () := by
  unfold contained
  split_ifs <;> rfl

/-- Only cancellation is passed on by the fetch; any other outcome gives a valid result. -/
theorem fetchResult_cases (fetch : Fetch) :
    (fetch = .cancelled ∧ @fetchResult chars fetch = .error .cancelled) ∨
      (fetch ≠ .cancelled ∧ ∃ result : DynamicSourceResult chars,
        fetchResult fetch = .ok result ∧ result.validateShape = .ok ()) := by
  cases fetch with
  | cancelled => exact .inl ⟨rfl, rfl⟩
  | raised error => exact .inr ⟨by simp, _, rfl, contained_shape error⟩
  | returned dump =>
    refine .inr ⟨by simp, ?_⟩
    cases hvalid : dump >>= @DynamicSourceResult.validate chars with
    | error error => exact ⟨_, by rw [fetchResult, hvalid], contained_shape error⟩
    | ok result =>
      obtain ⟨raw, -, hraw⟩ := bind_eq_ok.mp hvalid
      exact ⟨result, by rw [fetchResult, hvalid], DynamicSourceResult.shape_of_validate hraw⟩

/-! ## Reading the cache back -/

/-- The parts of a result that are chosen before the cache is read back. -/
inductive Chosen : DynamicSourceHealth → RefreshOutcome → Option DynamicSourceFailure →
    Option CacheFailureReason → Bool → Prop
  | degraded (failure : DynamicSourceFailure) : Chosen .degraded .degraded (some failure) none false
  | unavailable (failure : DynamicSourceFailure) :
      Chosen .unavailable .unavailable (some failure) none false
  | publicationFailed (reason : CacheFailureReason) :
      Chosen .healthy .publicationFailed none (some reason) false
  | cacheCorrupt (reason : CacheFailureReason) :
      Chosen .healthy .cacheCorrupt none (some reason) false
  | refreshed (maintenance_failed : Bool) : Chosen .healthy .refreshed none none maintenance_failed
  | noop : Chosen .healthy .noop none none false

/-- The outcomes of a publication that succeeded. -/
def successes : List RefreshOutcome := [.refreshed, .noop]

/-- A cache that can be read back for an outcome. -/
structure SourceRun.Readable (run : SourceRun chars source.text) (now : Utc)
    (outcome : RefreshOutcome) : Prop where
  cached : ∀ generation, run.read = .ok (.available generation) →
    ∀ record ∈ generation.records, ¬BeyondCalendar record.provenance now
  corrupt : outcome = .cacheCorrupt → ∀ generation, run.read = .ok (.available generation) →
    ∀ record ∈ generation.records, Expired record.provenance now ∨ FutureDated record.provenance now
  durable : outcome ∈ successes → ∀ generation, run.read = .ok (.available generation) →
    ∀ record ∈ generation.records, ¬Expired record.provenance now

/-- A result read back for an outcome, a health and a failure of the source. -/
structure SourceRun.ReadsBack (run : SourceRun chars source.text) (now : Utc)
    (health : DynamicSourceHealth) (outcome : RefreshOutcome) (maintenance_degraded : Bool)
    (result : RefreshSourceResult chars) : Prop where
  source_id : result.source_id = source.text
  valid : result.validateShape = .ok ()
  health : result.health = some health
  outcome : (result.outcome = outcome ∧ result.maintenance_degraded = maintenance_degraded) ∨
    (result.outcome = .publicationFailed ∧ outcome ∈ successes ∧
      ∃ reason, run.read = .ok (.unavailable reason)) ∨
    (result.outcome = .cacheCorrupt ∧ run.Unreadable now)
  shows : run.Shows now result

theorem construct_eq_ok {result built : RefreshSourceResult chars} :
    result.construct = .ok built ↔
      (isSlug result.source_id = true ∧ result.source_id.length ≤ 128) ∧
        result.validateShape = .ok () ∧ result = built := by
  simp [RefreshSourceResult.construct, check_bind_eq_ok]

/-- The result of a registered source is accepted if its outcome fits and its failure goes with its
health. -/
theorem validateShape_of_fits {result : RefreshSourceResult chars} {health : DynamicSourceHealth}
    (hknown : result.outcome ≠ .unknownSource) (hhealth : result.health = some health)
    (hfailure : result.source_failure.isNone = decide (health = .healthy))
    (hmaintenance : result.maintenance_degraded = true → result.outcome = .refreshed) :
    result.validateShape = .ok () ↔ result.fits = true := by
  rw [RefreshSourceResult.validateShape, if_neg hknown, hhealth, expect_some, ok_bind]
  have hmatch : decide (result.source_failure.isNone ≠ decide (health ≠ .healthy)) = true := by
    rw [hfailure]
    cases health <;> rfl
  have hdegraded : (!(result.maintenance_degraded && decide (result.outcome ≠ .refreshed))) = true := by
    cases hflag : result.maintenance_degraded with
    | false => rfl
    | true => simp [hmaintenance hflag]
  rw [hmatch, hdegraded]
  simp [require_eq_ok]

section ReadingBack

variable {health : DynamicSourceHealth} {outcome : RefreshOutcome}
  {source_failure : Option DynamicSourceFailure} {cache_failure : Option CacheFailureReason}
  {maintenance_degraded : Bool}

/-- The parts chosen before the read go together. -/
theorem Chosen.coherent
    (h : Chosen health outcome source_failure cache_failure maintenance_degraded) :
    outcome ≠ .unknownSource ∧ source_failure.isNone = decide (health = .healthy) ∧
      (maintenance_degraded = true → outcome = .refreshed) := by
  cases h <;> simp

/-- With the parts chosen, what is left to fit is the snapshot. -/
theorem Chosen.validateShape_eq_ok
    (h : Chosen health outcome source_failure cache_failure maintenance_degraded)
    (source_id : String) (snapshot : Option (CachedSourceSnapshot chars)) :
    RefreshSourceResult.validateShape ⟨source_id, outcome, some health, source_failure, cache_failure,
        snapshot, maintenance_degraded⟩ = .ok () ↔
      (snapshot = none → outcome ∉ successes) ∧ (snapshot ≠ none → outcome ≠ .cacheCorrupt) := by
  obtain ⟨hknown, hfailure, hmaintenance⟩ := h.coherent
  rw [validateShape_of_fits hknown rfl hfailure hmaintenance]
  cases h <;> cases snapshot <;> simp [RefreshSourceResult.fits, successes]

/-- A corrupt cache is reported with any health. -/
theorem Chosen.corrupt_valid
    (h : Chosen health outcome source_failure cache_failure maintenance_degraded)
    (source_id : String) (reason : CacheFailureReason) :
    @RefreshSourceResult.validateShape chars ⟨source_id, .cacheCorrupt, some health,
      source_failure, some reason, none, false⟩ = .ok () := by
  obtain ⟨-, hfailure, -⟩ := h.coherent
  exact (validateShape_of_fits (by simp) rfl hfailure (by simp)).mpr rfl

/-- The construction of a result of a source succeeds with its shape. -/
theorem construct_of_valid {result : RefreshSourceResult chars} (hid : result.source_id = source.text)
    (hvalid : result.validateShape = .ok ()) : result.construct = .ok result :=
  construct_eq_ok.mpr ⟨hid ▸ source.canonical, hvalid, rfl⟩

/-- The report of a cache that cannot be used. -/
theorem readsBack_corrupt
    (h : Chosen health outcome source_failure cache_failure maintenance_degraded)
    (hunreadable : run.Unreadable now) (reason : CacheFailureReason) :
    run.ReadsBack now health outcome maintenance_degraded ⟨source.text, .cacheCorrupt, some health,
      source_failure, some reason, none, false⟩ where
  source_id := rfl
  valid := h.corrupt_valid source.text reason
  health := rfl
  outcome := .inr (.inr ⟨rfl, hunreadable⟩)
  shows := ⟨by simp, by simp⟩

theorem evaluateRecords_singleton (record : CachedFactRecord chars) :
    evaluateRecords now [record] =
      (EvaluatedDynamicClaim.fromP1 record.fact record.provenance now).map fun claim => [claim] := by
  unfold evaluateRecords
  cases hclaim : EvaluatedDynamicClaim.fromP1 record.fact record.provenance now <;>
    simp [List.mapM_cons, hclaim, Except.map]

/-- The snapshot of a generation with one claim. -/
theorem snapshotOf_singleton {generation_id : String} {claim : EvaluatedDynamicClaim chars}
    (hsource : claim.provenance.source_id = source.text) (hid : generation_id.length = 89) :
    snapshotOf source.text generation_id [claim] =
      .ok (if claim.freshness = .expired then none
        else some ⟨source.text, generation_id, [claim]⟩) := by
  unfold snapshotOf
  by_cases hexpired : claim.freshness = .expired
  · simp [hexpired]
  · have hvalid : CachedSourceSnapshot.validate ⟨source.text, generation_id, [claim]⟩ = .ok () := by
      simp [CachedSourceSnapshot.validate, source.canonical, hsource, hid, hexpired]
    simp [hexpired, hvalid]

section Available

variable {generation : ValidatedCacheGeneration chars source.text} {record : CachedFactRecord chars}

theorem fallback_of_futureDated (hread : run.read = .ok (.available generation))
    (hrecord : generation.records = [record]) (h : FutureDated record.provenance now) :
    fallback run now health outcome source_failure cache_failure maintenance_degraded =
      RefreshSourceResult.construct ⟨source.text, .cacheCorrupt, some health, source_failure,
        some .malformed, none, false⟩ := by
  unfold fallback
  rw [hread]
  simp only [hrecord, evaluateRecords_singleton, fromP1_of_futureDated h, Except.map]

theorem fallback_of_beyondCalendar (hread : run.read = .ok (.available generation))
    (hrecord : generation.records = [record]) (h : BeyondCalendar record.provenance now) :
    fallback run now health outcome source_failure cache_failure maintenance_degraded =
      .error .overflowError := by
  unfold fallback
  rw [hread]
  simp only [hrecord, evaluateRecords_singleton, fromP1_of_beyondCalendar h, Except.map]

theorem fallback_of_evaluated {claim : EvaluatedDynamicClaim chars}
    (hread : run.read = .ok (.available generation)) (hrecord : generation.records = [record])
    (hclaim : EvaluatedDynamicClaim.fromP1 record.fact record.provenance now = .ok claim)
    (hprovenance : claim.provenance = record.provenance.normalized) :
    fallback run now health outcome source_failure cache_failure maintenance_degraded =
      RefreshSourceResult.construct ⟨source.text, outcome, some health, source_failure, cache_failure,
        if claim.freshness = .expired then none
        else some ⟨source.text, generation.metadata.generation_id, [claim]⟩,
        maintenance_degraded⟩ := by
  have hsource : claim.provenance.source_id = source.text := by
    rw [hprovenance, generation.source_eq]
    rfl
  unfold fallback
  rw [hread]
  simp only [hrecord, evaluateRecords_singleton, hclaim, Except.map,
    snapshotOf_singleton hsource generation.generation_id_length, ok_bind]

/-- The snapshot of the only claim shows the generation. -/
theorem shows_of_evaluated {claim : EvaluatedDynamicClaim chars} {result : RefreshSourceResult chars}
    (hread : run.read = .ok (.available generation)) (hrecord : generation.records = [record])
    (hclaim : EvaluatedDynamicClaim.fromP1 record.fact record.provenance now = .ok claim)
    (hexpired : claim.freshness = .expired ↔ Expired record.provenance now)
    (hsnapshot : result.snapshot = if claim.freshness = .expired then none
        else some ⟨source.text, generation.metadata.generation_id, [claim]⟩) :
    run.Shows now result := by
  constructor
  · intro snapshot hsome
    refine ⟨generation, hread, fun other => ?_⟩
    rw [hsnapshot] at hsome
    split_ifs at hsome with hfresh
    cases hsome
    simp only [hrecord, List.mem_singleton, exists_eq_left, hclaim, Except.ok.injEq]
    constructor
    · rintro rfl
      exact ⟨hfresh, rfl⟩
    · rintro ⟨-, rfl⟩
      rfl
  · intro hnone _ other hother member hmember
    rw [hread] at hother
    cases hother
    rw [hrecord, List.mem_singleton] at hmember
    subst hmember
    rw [hsnapshot] at hnone
    split_ifs at hnone with hgone
    exact hexpired.mp hgone

end Available

/-- A cache that can be read back gives a result. -/
theorem fallback_readsBack
    (h : Chosen health outcome source_failure cache_failure maintenance_degraded)
    (hreadable : run.Readable now outcome) :
    ∃ result,
      fallback run now health outcome source_failure cache_failure maintenance_degraded = .ok result ∧
        run.ReadsBack now health outcome maintenance_degraded result := by
  obtain ⟨hknown, hfailure, -⟩ := h.coherent
  have hunusable (hunreadable : run.Unreadable now) (reason : CacheFailureReason) :
      ∃ result, RefreshSourceResult.construct ⟨source.text, .cacheCorrupt, some health, source_failure,
          some reason, none, false⟩ = .ok result ∧
        run.ReadsBack now health outcome maintenance_degraded result :=
    ⟨_, construct_of_valid rfl (h.corrupt_valid source.text reason), readsBack_corrupt h hunreadable reason⟩
  cases hread : run.read with
  | error error =>
    have hfallback : fallback run now health outcome source_failure cache_failure
        maintenance_degraded = RefreshSourceResult.construct ⟨source.text, .cacheCorrupt, some health,
          source_failure, some (cache_failure.getD .ioFailed), none, false⟩ := by
      unfold fallback
      rw [hread]
      cases cache_failure <;> rfl
    rw [hfallback]
    exact hunusable (.raised error hread) _
  | ok read =>
    cases read with
    | corrupt reason =>
      have hfallback : fallback run now health outcome source_failure cache_failure
          maintenance_degraded = RefreshSourceResult.construct ⟨source.text, .cacheCorrupt, some health,
            source_failure, some reason, none, false⟩ := by
        unfold fallback
        rw [hread]
      rw [hfallback]
      exact hunusable (.corrupt reason hread) reason
    | unavailable reason =>
      have hshows (result : RefreshSourceResult chars) (hnone : result.snapshot = none) :
          run.Shows now result :=
        ⟨by simp [hnone], by simp [hread]⟩
      unfold fallback
      rw [hread]
      by_cases hsuccess : outcome ∈ successes
      · -- the publication succeeded, but nothing is there to read
        have hhealthy : health = .healthy := by cases h <;> simp_all [successes]
        have hnone : source_failure.isNone = true := by simp [hfailure, hhealthy]
        refine ⟨_, (if_pos hsuccess).trans (construct_of_valid rfl ?_),
          rfl, ?_, rfl, .inr (.inl ⟨rfl, hsuccess, reason, hread⟩), hshows _ rfl⟩
        all_goals
          refine (validateShape_of_fits (by simp) rfl hfailure (by simp)).mpr ?_
          simp [RefreshSourceResult.fits, hhealthy, hnone]
      · have hvalid := (h.validateShape_eq_ok source.text
            (none : Option (CachedSourceSnapshot chars))).mpr
          ⟨fun _ => hsuccess, by simp⟩
        exact ⟨_, (if_neg hsuccess).trans (construct_of_valid rfl hvalid), rfl, hvalid, rfl,
          .inl ⟨rfl, rfl⟩, hshows _ rfl⟩
    | available generation =>
      obtain ⟨record, hrecord⟩ := generation.exists_record
      have hmem : record ∈ generation.records := by simp [hrecord]
      have hcalendar := hreadable.cached generation hread record hmem
      by_cases hfuture : FutureDated record.provenance now
      · rw [fallback_of_futureDated hread hrecord hfuture]
        exact hunusable (.future generation hread record hmem hfuture) .malformed
      · obtain ⟨claim, hclaim, -, hprovenance, hexpired⟩ :=
          fromP1_eq_ok hfuture hcalendar
        rw [fallback_of_evaluated hread hrecord hclaim hprovenance]
        have hvalid := (h.validateShape_eq_ok source.text (if claim.freshness = .expired then none
            else some ⟨source.text, generation.metadata.generation_id, [claim]⟩)).mpr
          ⟨fun hnone hsuccess => ?_, fun hsome hcorrupt => ?_⟩
        · exact ⟨_, construct_of_valid rfl hvalid, rfl, hvalid, rfl, .inl ⟨rfl, rfl⟩,
            shows_of_evaluated hread hrecord hclaim hexpired rfl⟩
        · split_ifs at hnone with hgone
          exact hreadable.durable hsuccess generation hread record hmem (hexpired.mp hgone)
        · have hgone : claim.freshness ≠ .expired := fun hgone => hsome (if_pos hgone)
          rcases hreadable.corrupt hcorrupt generation hread record hmem with hold | hnew
          · exact hgone (hexpired.mpr hold)
          · exact hfuture hnew

/-- A result is given only for a cache that can be read back. -/
theorem readable_of_fallback {result : RefreshSourceResult chars}
    (h : Chosen health outcome source_failure cache_failure maintenance_degraded)
    (hfallback : fallback run now health outcome source_failure cache_failure maintenance_degraded =
      .ok result) : run.Readable now outcome := by
  have hcached (generation : ValidatedCacheGeneration chars source.text)
      (hread : run.read = .ok (.available generation)) :
      ∀ record ∈ generation.records, ¬BeyondCalendar record.provenance now := by
    intro record hmem hbeyond
    obtain ⟨only, hrecord⟩ := generation.exists_record
    obtain rfl : record = only := by simpa [hrecord] using hmem
    rw [fallback_of_beyondCalendar hread hrecord hbeyond] at hfallback
    cases hfallback
  -- the shape of what is built from a claim that was evaluated
  have hshape (generation : ValidatedCacheGeneration chars source.text)
      (hread : run.read = .ok (.available generation)) (record : CachedFactRecord chars)
      (hmem : record ∈ generation.records) (hfuture : ¬FutureDated record.provenance now) :
      (Expired record.provenance now → outcome ∉ successes) ∧
        (¬Expired record.provenance now → outcome ≠ .cacheCorrupt) := by
    obtain ⟨only, hrecord⟩ := generation.exists_record
    obtain rfl : record = only := by simpa [hrecord] using hmem
    obtain ⟨claim, hclaim, -, hprovenance, hexpired⟩ :=
      fromP1_eq_ok hfuture (hcached generation hread record hmem)
    rw [fallback_of_evaluated hread hrecord hclaim hprovenance, construct_eq_ok,
      h.validateShape_eq_ok] at hfallback
    obtain ⟨-, ⟨hnone, hsome⟩, -⟩ := hfallback
    refine ⟨fun hold => hnone (if_pos (hexpired.mpr hold)), fun hnew => hsome ?_⟩
    rw [if_neg fun hgone => hnew (hexpired.mp hgone)]
    simp
  refine ⟨hcached, fun hcorrupt generation hread record hmem => ?_,
    fun hsuccess generation hread record hmem hold => ?_⟩
  · by_contra hneither
    obtain ⟨hnew, hpast⟩ := not_or.mp hneither
    exact (hshape generation hread record hmem hpast).2 hnew hcorrupt
  · have hpast : ¬FutureDated record.provenance now := by
      unfold FutureDated
      unfold Expired at hold
      rw [Fin.lt_def]
      omega
    exact (hshape generation hread record hmem hpast).1 hold hsuccess

end ReadingBack

/-! ## Refreshing -/

section Refreshing

variable {health : DynamicSourceHealth} {outcome : RefreshOutcome}
  {source_failure : Option DynamicSourceFailure} {cache_failure : Option CacheFailureReason}
  {maintenance_degraded : Bool}

/-- A refresh that is contained reports, and one that returns is contained. -/
structure SourceRun.Settled (run : SourceRun chars source.text) (now : Utc) : Prop where
  reports : run.Contained now → ∃ result, refreshSource run now = .ok result ∧ run.Reports now result
  contained : ∀ result, refreshSource run now = .ok result → run.Contained now

/-- A report that is read back for what was chosen, when the condition for the one is the condition
for the other. -/
theorem settled_of_fallback
    (h : Chosen health outcome source_failure cache_failure maintenance_degraded)
    (hrefresh : refreshSource run now = escaping
      (fallback run now health outcome source_failure cache_failure maintenance_degraded))
    (hcontained : run.Contained now ↔ run.Readable now outcome)
    (hreports : ∀ result, run.ReadsBack now health outcome maintenance_degraded result →
      run.Reports now result) :
    run.Settled now := by
  constructor
  · intro hready
    obtain ⟨result, hresult, hback⟩ := fallback_readsBack h (hcontained.mp hready)
    exact ⟨result, by rw [hrefresh, hresult]; rfl, hreports result hback⟩
  · intro result hresult
    rw [hrefresh] at hresult
    cases hfallback : fallback run now health outcome source_failure cache_failure
        maintenance_degraded with
    | error error =>
      rw [hfallback] at hresult
      cases hresult
    | ok built => exact hcontained.mpr (readable_of_fallback h hfallback)

/-- Nothing was handed to the cache store. -/
theorem reports_of_unpublished (hnone : ∀ record, ¬run.Publishes now record)
    (hhealth : health ≠ .healthy) (houtcome : outcome = .degraded ∨ outcome = .unavailable)
    {result : RefreshSourceResult chars}
    (h : run.ReadsBack now health outcome maintenance_degraded result) : run.Reports now result where
  source_id := h.source_id
  valid := h.valid
  health := by simp [h.health, hhealth, hnone]
  happened := by
    unfold SourceRun.Happened
    rcases h.outcome with ⟨hresult, -⟩ | ⟨-, hsuccess, -⟩ | ⟨hresult, hunreadable⟩
    · rcases houtcome with rfl | rfl <;> simpa [hresult] using hnone
    · rcases houtcome with rfl | rfl <;> simp [successes] at hsuccess
    · simpa [hresult] using Or.inl hunreadable
  shows := h.shows

/-- A record was handed to the cache store. -/
theorem reports_of_published {record : CachedFactRecord chars} (hpublished : run.Publishes now record)
    (hhappened : ∀ result : RefreshSourceResult chars, result.outcome = outcome →
      result.maintenance_degraded = maintenance_degraded → run.Happened now result)
    {result : RefreshSourceResult chars}
    (h : run.ReadsBack now .healthy outcome maintenance_degraded result) : run.Reports now result where
  source_id := h.source_id
  valid := h.valid
  health := by simpa [h.health] using ⟨record, hpublished⟩
  happened := by
    rcases h.outcome with ⟨hresult, hflag⟩ | ⟨hresult, -, hread⟩ | ⟨hresult, hunreadable⟩
    · exact hhappened result hresult hflag
    · unfold SourceRun.Happened
      rw [hresult]
      exact ⟨record, hpublished, .inr (.inr hread)⟩
    · unfold SourceRun.Happened
      rw [hresult]
      exact .inl hunreadable
  shows := h.shows

/-- Without a publication, only a claim at the end of the calendar is in the way. -/
theorem contained_iff_of_unpublished (hfetch : run.fetch ≠ .cancelled)
    (hevidence : ∀ fact provenance, run.evidence = some (fact, provenance) →
      source.text = FRIGATE_ADAPTER_ID → ¬BeyondCalendar provenance now)
    (hnone : ∀ record, ¬run.Publishes now record)
    (houtcome : outcome = .degraded ∨ outcome = .unavailable) :
    run.Contained now ↔ run.Readable now outcome := by
  constructor
  · intro h
    refine ⟨h.cached, fun hcorrupt => ?_, fun hsuccess => ?_⟩
    · rcases houtcome with rfl | rfl <;> cases hcorrupt
    · rcases houtcome with rfl | rfl <;> simp [successes] at hsuccess
  · intro h
    exact ⟨hfetch, hevidence, h.cached, fun record hpublished => absurd hpublished (hnone record),
      fun record hpublished => absurd hpublished (hnone record)⟩

/-- The record that is published is the evidence. -/
theorem SourceRun.Publishes.unique {first second : CachedFactRecord chars}
    (hfirst : run.Publishes now first) (hsecond : run.Publishes now second) : first = second := by
  have hsame := hfirst.evidence.symm.trans hsecond.evidence
  cases first
  cases second
  simpa using hsame

end Refreshing

/-! ## Admitting evidence -/

section Admitting

variable {fact : DynamicReleaseFact} {provenance : DynamicSourceProvenance chars}

theorem admit_of_futureDated (h : FutureDated provenance now) :
    admitted now fact provenance = .error (.valueError "dynamic claim chronology is invalid") := by
  rw [admitted, fromP1_of_futureDated h, error_bind]

theorem admit_of_beyondCalendar (h : BeyondCalendar provenance now) :
    admitted now fact provenance = .error .overflowError := by
  rw [admitted, fromP1_of_beyondCalendar h, error_bind]

theorem admit_of_evaluated (hpast : ¬FutureDated provenance now)
    (hcalendar : ¬BeyondCalendar provenance now) :
    admitted now fact provenance =
      if Expired provenance now then .error (.valueError "new source evidence is already expired")
      else .ok ⟨fact, provenance, CachedFactRecord.source_registered provenance⟩ := by
  obtain ⟨claim, hclaim, -, -, hexpired⟩ := fromP1_eq_ok hpast hcalendar
  rw [admitted, hclaim, ok_bind, CachedFactRecord.construct_eq]
  by_cases hold : Expired provenance now
  · simp [require, hold, hexpired.mpr hold]
  · have hfresh : claim.freshness ≠ .expired := fun hgone => hold (hexpired.mp hgone)
    simp [require, hold, hfresh]

end Admitting

/-! ## Every refresh -/

/-- A result of the adapter that is not healthy is reported with the evidence of the cache. -/
theorem settled_of_failure {result : DynamicSourceResult chars} {failure : DynamicSourceFailure}
    (hfetched : fetchResult run.fetch = .ok result) (hfetch : run.fetch ≠ .cancelled)
    (hfailure : result.failure_reason = some failure) (hhealth : result.health = failure.health) :
    run.Settled now := by
  have hunhealthy : result.health ≠ .healthy := by
    rw [hhealth]
    unfold DynamicSourceFailure.health
    split_ifs <;> simp
  have hevidence : run.evidence = none := by
    rw [SourceRun.evidence, hfetched]
    exact if_neg hunhealthy
  have hnone (record : CachedFactRecord chars) : ¬run.Publishes now record := by
    intro hpublished
    rw [hpublished.evidence] at hevidence
    cases hevidence
  have hrefresh : refreshSource run now = escaping (fallback run now result.health
      (if result.health = .unavailable then .unavailable else .degraded) (some failure) none false) := by
    rw [refreshSource, hfetched, ok_bind, if_neg hunhealthy, hfailure]
  have houtcome : (if result.health = .unavailable then RefreshOutcome.unavailable else .degraded) =
      .degraded ∨ (if result.health = .unavailable then RefreshOutcome.unavailable else .degraded) =
        .unavailable := by
    split_ifs <;> simp
  have hchosen : Chosen result.health
      (if result.health = .unavailable then .unavailable else .degraded) (some failure) none false := by
    cases hcase : result.health with
    | healthy => exact absurd hcase hunhealthy
    | degraded => exact .degraded failure
    | unavailable => exact .unavailable failure
  exact settled_of_fallback hchosen hrefresh
    (contained_iff_of_unpublished hfetch (by simp [hevidence]) hnone houtcome)
    fun _ => reports_of_unpublished hnone hunhealthy houtcome

section Healthy

variable {result : DynamicSourceResult chars} {fact : DynamicReleaseFact}
  {provenance : DynamicSourceProvenance chars}

theorem evidence_of_healthy (hfetched : fetchResult run.fetch = .ok result)
    (hhealth : result.health = .healthy) (hfact : result.fact = some fact)
    (hprovenance : result.provenance = some provenance) :
    run.evidence = some (fact, provenance) := by
  rw [SourceRun.evidence, hfetched]
  simp [DynamicSourceResult.evidence, hhealth, hfact, hprovenance]

theorem refreshSource_of_healthy (hfetched : fetchResult run.fetch = .ok result)
    (hhealth : result.health = .healthy) (hfact : result.fact = some fact)
    (hprovenance : result.provenance = some provenance) :
    refreshSource run now = escaping (refreshHealthy run now fact provenance) := by
  rw [refreshSource, hfetched, ok_bind, if_pos hhealth, hfact, hprovenance]

/-- Evidence that is not this source's, from the future or expired is reported as a failure. -/
theorem settled_of_refused (hfetch : run.fetch ≠ .cancelled)
    (hevidence : run.evidence = some (fact, provenance))
    (hrefresh : refreshSource run now = escaping
      (fallback run now .degraded .degraded (some .schemaInvalid) none false))
    (hrefused : source.text ≠ FRIGATE_ADAPTER_ID ∨ FutureDated provenance now ∨ Expired provenance now)
    (hcalendar : source.text = FRIGATE_ADAPTER_ID → ¬BeyondCalendar provenance now) :
    run.Settled now := by
  have hsame {fact' provenance'} (h : run.evidence = some (fact', provenance')) :
      provenance' = provenance := by
    rw [hevidence] at h
    cases h
    rfl
  have hnone (record : CachedFactRecord chars) : ¬run.Publishes now record := by
    rintro ⟨hrecord, hsource, hpast, hcurrent⟩
    rw [hsame hrecord] at hpast hcurrent
    rcases hrefused with hother | hfuture | hold
    · exact hother hsource
    · exact hpast hfuture
    · exact hcurrent hold
  have hcontained : run.Contained now ↔ run.Readable now .degraded :=
    contained_iff_of_unpublished hfetch
      (fun _ _ hgiven hsource => hsame hgiven ▸ hcalendar hsource) hnone (.inl rfl)
  exact settled_of_fallback (.degraded .schemaInvalid) hrefresh hcontained
    fun _ => reports_of_unpublished hnone (by simp) (.inl rfl)

/-- Evidence that is published is reported with the outcome of the publication. -/
theorem settled_of_published {record : CachedFactRecord chars} (hfetch : run.fetch ≠ .cancelled)
    (hpublished : run.Publishes now record) (hcalendar : ¬BeyondCalendar record.provenance now)
    (hrefresh : refreshSource run now = escaping (reportPublication run now (run.publish record))) :
    run.Settled now := by
  have hevidence (fact : DynamicReleaseFact) (provenance : DynamicSourceProvenance chars)
      (h : run.evidence = some (fact, provenance)) (_ : source.text = FRIGATE_ADAPTER_ID) :
      ¬BeyondCalendar provenance now := by
    rw [hpublished.evidence] at h
    cases h
    exact hcalendar
  -- the condition speaks of the publication of this record
  have hcontained {outcome : RefreshOutcome}
      (hcorrupt : (∃ reason ∈ corruptReasons, run.publish record = .ok (.failed reason)) ↔
        outcome = .cacheCorrupt)
      (hdurable : ((∃ id maintenance_failed, run.publish record =
          .ok (.published id maintenance_failed)) ∨ ∃ id, run.publish record = .ok (.noop id)) ↔
        outcome ∈ successes) : run.Contained now ↔ run.Readable now outcome := by
    constructor
    · intro h
      refine ⟨h.cached, fun houtcome => ?_, fun houtcome => ?_⟩
      · obtain ⟨reason, hreason, hpublish⟩ := hcorrupt.mpr houtcome
        exact h.corrupt record hpublished reason hreason hpublish
      · exact h.durable record hpublished (hdurable.mpr houtcome)
    · intro h
      refine ⟨hfetch, hevidence, h.cached, fun other hother reason hreason hpublish => ?_,
        fun other hother hpublish => ?_⟩
      · obtain rfl := hother.unique hpublished
        exact h.corrupt (hcorrupt.mp ⟨reason, hreason, hpublish⟩)
      · obtain rfl := hother.unique hpublished
        exact h.durable (hdurable.mp hpublish)
  unfold reportPublication at hrefresh
  cases hpublish : run.publish record with
  | error error =>
    rw [hpublish] at hrefresh
    refine settled_of_fallback (.publicationFailed _) hrefresh
      (hcontained (by simp [hpublish]) (by simp [hpublish, successes]))
      fun result => reports_of_published hpublished fun result houtcome _ => ?_
    unfold SourceRun.Happened
    rw [houtcome]
    exact ⟨record, hpublished, .inl ⟨error, hpublish⟩⟩
  | ok publication =>
    rw [hpublish] at hrefresh
    cases publication with
    | failed reason =>
      by_cases hreason : reason ∈ corruptReasons
      · simp only [if_pos hreason] at hrefresh
        refine settled_of_fallback (.cacheCorrupt reason) hrefresh
          (hcontained (by simp [hpublish, hreason]) (by simp [hpublish, successes]))
          fun result => reports_of_published hpublished fun result houtcome _ => ?_
        unfold SourceRun.Happened
        rw [houtcome]
        exact .inr ⟨record, hpublished, reason, hreason, hpublish⟩
      · simp only [if_neg hreason] at hrefresh
        refine settled_of_fallback (.publicationFailed reason) hrefresh
          (hcontained (by simp [hpublish, hreason]) (by simp [hpublish, successes]))
          fun result => reports_of_published hpublished fun result houtcome _ => ?_
        unfold SourceRun.Happened
        rw [houtcome]
        exact ⟨record, hpublished, .inr (.inl ⟨reason, hreason, hpublish⟩)⟩
    | published id maintenance_failed =>
      refine settled_of_fallback (.refreshed maintenance_failed) hrefresh
        (hcontained (by simp [hpublish]) (by simp [hpublish, successes]))
        fun result => reports_of_published hpublished fun result houtcome hflag => ?_
      unfold SourceRun.Happened
      rw [houtcome]
      exact ⟨record, id, hpublished, hflag ▸ hpublish⟩
    | noop id =>
      refine settled_of_fallback .noop hrefresh
        (hcontained (by simp [hpublish]) (by simp [hpublish, successes]))
        fun result => reports_of_published hpublished fun result houtcome _ => ?_
      unfold SourceRun.Happened
      rw [houtcome]
      exact ⟨record, id, hpublished, hpublish⟩

/-- Healthy evidence is refused, published, or at the end of the calendar. -/
theorem settled_of_healthy (hfetched : fetchResult run.fetch = .ok result)
    (hfetch : run.fetch ≠ .cancelled) (hhealth : result.health = .healthy)
    (hfact : result.fact = some fact) (hprovenance : result.provenance = some provenance) :
    run.Settled now := by
  have hevidence := evidence_of_healthy hfetched hhealth hfact hprovenance
  have hrefresh : refreshSource run now = escaping (refreshHealthy run now fact provenance) :=
    refreshSource_of_healthy hfetched hhealth hfact hprovenance
  unfold refreshHealthy at hrefresh
  by_cases hsource : source.text = FRIGATE_ADAPTER_ID
  · rw [if_neg (by simpa [DynamicSourceProvenance.source_id] using hsource.symm)] at hrefresh
    by_cases hbeyond : BeyondCalendar provenance now
    · rw [admit_of_beyondCalendar hbeyond] at hrefresh
      refine ⟨fun h => absurd hbeyond (h.evidence fact provenance hevidence hsource), ?_⟩
      intro result hresult
      rw [hrefresh] at hresult
      cases hresult
    · by_cases hfuture : FutureDated provenance now
      · rw [admit_of_futureDated hfuture] at hrefresh
        exact settled_of_refused hfetch hevidence hrefresh (.inr (.inl hfuture)) fun _ => hbeyond
      · rw [admit_of_evaluated hfuture hbeyond] at hrefresh
        by_cases hold : Expired provenance now
        · rw [if_pos hold] at hrefresh
          exact settled_of_refused hfetch hevidence hrefresh (.inr (.inr hold)) fun _ => hbeyond
        · rw [if_neg hold] at hrefresh
          exact settled_of_published hfetch ⟨hevidence, hsource, hfuture, hold⟩ hbeyond hrefresh
  · have hother : provenance.source_id ≠ source.text := fun h => hsource h.symm
    rw [if_pos hother] at hrefresh
    exact settled_of_refused hfetch hevidence hrefresh (.inl hsource) (absurd · hsource)

end Healthy

/-- Every refresh is settled. -/
theorem refreshSource_settled (run : SourceRun chars source.text) (now : Utc) : run.Settled now := by
  rcases @fetchResult_cases chars run.fetch with ⟨hcancelled, hfetched⟩ |
    ⟨hfetch, result, hfetched, hshape⟩
  · refine ⟨fun h => absurd hcancelled h.fetched, fun result hresult => ?_⟩
    rw [refreshSource, hfetched, error_bind] at hresult
    cases hresult
  · rcases DynamicSourceResult.validateShape_eq_ok.mp hshape with
      ⟨hhealth, ⟨fact, provenance, hfact, hprovenance⟩, -⟩ | ⟨failure, hfailure, hhealth, -⟩
    · exact settled_of_healthy hfetched hfetch hhealth hfact hprovenance
    · exact settled_of_failure hfetched hfetch hfailure hhealth

/-! ## Every batch -/

theorem SourceId.text_injective {first second : SourceId} (h : first.text = second.text) :
    first = second := by
  cases first
  cases second
  simpa using h

/-- A registered source is found under its text. -/
theorem joinSource_of_mem {registry : List SourceId}
    {runs : (source : SourceId) → SourceRun chars source.text} (hmem : source ∈ registry) :
    joinSource registry runs now source.text = refreshSource (runs source) now := by
  unfold joinSource
  cases hfound : registry.find? fun other => other.text = source.text with
  | none => simpa using List.find?_eq_none.mp hfound source hmem
  | some other =>
    have htext : other.text = source.text := by simpa using List.find?_some hfound
    obtain rfl := SourceId.text_injective htext
    rfl

/-- Results of distinct sources are in strict order once they are sorted. -/
theorem construct_sortedResults {results : List (RefreshSourceResult chars)}
    (h : (results.map RefreshSourceResult.source_id).Nodup) :
    RefreshBatchResult.construct now (sortedResults results) = .ok ⟨now, sortedResults results⟩ := by
  have hpairwise : (sortedResults results).Pairwise fun a b =>
      decide (a.source_id ≤ b.source_id) = true :=
    List.pairwise_mergeSort (fun _ _ _ hab hbc => by
      simp only [decide_eq_true_eq] at *
      exact le_trans hab hbc) (fun a b => by simpa using le_total a.source_id b.source_id) results
  have hsorted : (sortedResults results).Pairwise fun a b => a.source_id ≤ b.source_id := by
    simpa using hpairwise
  have hnodup : ((sortedResults results).map RefreshSourceResult.source_id).Nodup :=
    ((List.mergeSort_perm results _).map _).nodup_iff.mpr h
  have hstrict : ((sortedResults results).map RefreshSourceResult.source_id).Pairwise (· < ·) := by
    rw [List.pairwise_map]
    rw [List.Nodup, List.pairwise_map] at hnodup
    exact hsorted.imp₂ (fun a b hle hne => lt_of_le_of_ne hle hne) hnodup
  rw [RefreshBatchResult.construct, decide_eq_true hstrict, require_true, ok_bind]

section Batches

variable {registry : List SourceId} {runs : (source : SourceId) → SourceRun chars source.text}
  {sources : List SourceId}

/-- The refreshes of registered sources. -/
theorem mapM_joinSource (hregistered : ∀ source ∈ sources, source ∈ registry) :
    (sources.map SourceId.text).mapM (joinSource registry runs now) =
      sources.mapM fun source => refreshSource (runs source) now := by
  induction sources with
  | nil => rfl
  | cons source sources ih =>
    obtain ⟨hsource, hsources⟩ := List.forall_mem_cons.mp hregistered
    rw [List.map_cons, List.mapM_cons, List.mapM_cons, joinSource_of_mem hsource, ih hsources]

/-- A request for distinct registered sources waits for each of them. -/
theorem refresh_of_registered (hnodup : sources.Nodup)
    (hregistered : ∀ source ∈ sources, source ∈ registry) :
    refresh registry runs (some (sources.map SourceId.text)) now =
      (do
        let results ← sources.mapM fun source => refreshSource (runs source) now
        escaping (RefreshBatchResult.construct now (sortedResults results))).mapError .escaped := by
  have hdistinct : (sources.map SourceId.text).Nodup :=
    List.Nodup.map (fun _ _ => SourceId.text_injective) hnodup
  have hvalid : ((sources.map SourceId.text).any fun id =>
      !(isSlug id && decide (id.length ≤ 128))) = false := by
    rw [List.any_eq_false]
    intro id hid
    obtain ⟨source, -, rfl⟩ := List.mem_map.mp hid
    simp [source.canonical]
  have hknown : (sources.map SourceId.text).filter (fun id => id ∉ registry.map SourceId.text) = [] := by
    rw [List.filter_eq_nil_iff]
    intro id hid
    obtain ⟨source, hsource, rfl⟩ := List.mem_map.mp hid
    simpa using ⟨source, hregistered source hsource, rfl⟩
  have hempty : sortedTexts [] = [] := by simp [sortedTexts]
  unfold refresh
  simp only [Option.getD_some, hdistinct, hvalid, hknown, hempty, mapM_joinSource hregistered]
  simp

/-- The results of distinct sources are their own. -/
theorem source_ids_of_results {results : List (RefreshSourceResult chars)}
    (hcontained : ∀ source ∈ sources, (runs source).Contained now)
    (h : (sources.mapM fun source => refreshSource (runs source) now) = .ok results) :
    results.map RefreshSourceResult.source_id = sources.map SourceId.text := by
  have hall := mapM_eq_ok_iff.mp h
  clear h
  induction hall with
  | nil => rfl
  | cons hresult _ ih =>
    obtain ⟨hsource, hsources⟩ := List.forall_mem_cons.mp hcontained
    obtain ⟨result, hsame, hreports⟩ := (refreshSource_settled _ now).reports hsource
    rw [hresult] at hsame
    cases hsame
    rw [List.map_cons, List.map_cons, ih hsources, hreports.source_id]

/-- A batch has the report of each of its sources exactly when each refresh is contained. -/
theorem refresh_iff (hnodup : sources.Nodup) (hregistered : ∀ source ∈ sources, source ∈ registry) :
    (∃ batch, refresh registry runs (some (sources.map SourceId.text)) now = .ok batch ∧
      (batch.sources.map RefreshSourceResult.source_id).Perm (sources.map SourceId.text) ∧
      ∀ source ∈ sources, ∃ result ∈ batch.sources, (runs source).Reports now result) ↔
      ∀ source ∈ sources, (runs source).Contained now := by
  rw [refresh_of_registered hnodup hregistered]
  constructor
  · rintro ⟨batch, hbatch, -, -⟩ source hsource
    cases hresults : sources.mapM fun source => refreshSource (runs source) now with
    | error escape =>
      rw [hresults] at hbatch
      cases hbatch
    | ok results =>
      obtain ⟨result, -, hresult⟩ := exists_of_mapM_eq_ok hresults hsource
      exact (refreshSource_settled (runs source) now).contained result hresult
  · intro hcontained
    obtain ⟨results, hresults⟩ := exists_mapM_eq_ok.mpr fun source hsource =>
      ((refreshSource_settled (runs source) now).reports (hcontained source hsource)).imp
        fun _ h => h.1
    have hids := source_ids_of_results hcontained hresults
    have hdistinct : (results.map RefreshSourceResult.source_id).Nodup :=
      hids ▸ List.Nodup.map (fun _ _ => SourceId.text_injective) hnodup
    refine ⟨⟨now, sortedResults results⟩, ?_, ?_, fun source hsource => ?_⟩
    · rw [hresults, ok_bind, construct_sortedResults hdistinct]
      rfl
    · exact hids ▸ (List.mergeSort_perm results _).map _
    · obtain ⟨result, hmem, hresult⟩ := exists_of_mapM_eq_ok hresults hsource
      obtain ⟨reported, hreported, hreports⟩ :=
        (refreshSource_settled (runs source) now).reports (hcontained source hsource)
      rw [hresult] at hreported
      cases hreported
      exact ⟨result, (List.mergeSort_perm results _).mem_iff.mpr hmem, hreports⟩

end Batches

/-- The report of every refresh, and of every batch of distinct registered sources: there is one
exactly when the refresh, or each refresh of the batch, is contained. -/
theorem refresh_contained_iff (chars : Characters) :
    (∀ (source : SourceId) (run : SourceRun chars source.text) (now : Utc),
      (∃ result, refreshSource run now = .ok result ∧ run.Reports now result) ↔
        run.Contained now) ∧
    ∀ (registry : List SourceId) (runs : (source : SourceId) → SourceRun chars source.text)
      (sources : List SourceId) (now : Utc),
      sources.Nodup → (∀ source ∈ sources, source ∈ registry) →
      ((∃ batch, refresh registry runs (some (sources.map SourceId.text)) now = .ok batch ∧
        (batch.sources.map RefreshSourceResult.source_id).Perm (sources.map SourceId.text) ∧
        ∀ source ∈ sources, ∃ result ∈ batch.sources, (runs source).Reports now result) ↔
        ∀ source ∈ sources, (runs source).Contained now) := by
  refine ⟨fun source run now => ?_, fun registry runs sources now hnodup hregistered =>
    refresh_iff hnodup hregistered⟩
  have hsettled := refreshSource_settled run now
  exact ⟨fun ⟨result, hresult, _⟩ => hsettled.contained result hresult, hsettled.reports⟩

/-! ## A publication that fails over readable evidence -/

namespace Reread

theorem frigate_canonical : isSlug FRIGATE_ADAPTER_ID = true ∧ FRIGATE_ADAPTER_ID.length ≤ 128 := by
  decide

/-- The registered source. -/
def frigate : SourceId := ⟨FRIGATE_ADAPTER_ID, frigate_canonical⟩

/-- Noon of a day in 2025. -/
def noon : Utc := ⟨63_892_929_600_000_000, by decide⟩

/-- An hour before. -/
def eleven : Utc := ⟨63_892_926_000_000_000, by decide⟩

/-- A release of the source. -/
def release : DynamicReleaseFact := ⟨"0.15.0", eleven, by decide⟩

/-- A provenance of evidence retrieved at a moment of that day. -/
def retrieved (moment : Utc) (h : moment.val + DAY < MAX_MICROS) :
    DynamicSourceProvenance Characters.ascii :=
  ⟨123, moment, ⟨moment.val + DAY, h⟩, none, by decide, dif_pos h, rfl⟩

/-- The record of the generation that is current. -/
def earlier : CachedFactRecord Characters.ascii :=
  ⟨release, retrieved eleven (by decide), CachedFactRecord.source_registered _⟩

/-- The record that the source returns at noon. -/
def newer : CachedFactRecord Characters.ascii :=
  ⟨release, retrieved noon (by decide), CachedFactRecord.source_registered _⟩

/-- The generation that is current. -/
def current : ValidatedCacheGeneration Characters.ascii frigate.text where
  metadata :=
    { source_id := FRIGATE_ADAPTER_ID
      generation_id := "g-20250908T110000000000Z-" ++ String.ofList (List.replicate 64 '0')
      retrieved_at := eleven
      fact_count := 1
      canonical_id := by decide }
  document :=
    { source_id := FRIGATE_ADAPTER_ID
      records := [earlier]
      bounded := by decide
      registered := by decide
      nonempty := by simp
      same_source := by simp [earlier, DynamicSourceProvenance.source_id]
      one_retrieval := by simp
      sorted_keys := by simp }
  metadata_source := rfl
  document_source := rfl
  counted := rfl
  retrieved := by simp [earlier, retrieved]

/-- The result of the adapter at noon. -/
def healthy : DynamicSourceResult Characters.ascii :=
  ⟨.healthy, some newer.fact, some newer.provenance, none⟩

/-- A run in which the source answers, a publication has some outcome and the current generation is
read back. -/
def noonRun (publication : CachePublishResult) : SourceRun Characters.ascii frigate.text where
  fetch := .returned (.ok healthy.dump)
  publish _ := .ok publication
  read := .ok (.available current)

theorem evidence_noonRun (publication : CachePublishResult) :
    (noonRun publication).evidence = some (newer.fact, newer.provenance) := by
  have hshape : healthy.validateShape = .ok () := by decide
  have hfetched : fetchResult (noonRun publication).fetch = .ok healthy := by
    rw [noonRun, fetchResult, ok_bind, DynamicSourceResult.validate_dump hshape]
  exact evidence_of_healthy hfetched rfl rfl rfl

theorem publishes_noonRun (publication : CachePublishResult) :
    (noonRun publication).Publishes noon newer :=
  ⟨evidence_noonRun publication, rfl, by decide, by decide⟩

end Reread

open Reread in
/-- A refresh raises where the publication fails on a corrupt generation of the same name and the
current one is intact. -/
theorem refresh_escapes : ¬∀ (source : SourceId) (run : SourceRun Characters.ascii source.text)
    (now : Utc), ∃ result, refreshSource run now = .ok result ∧ run.Reports now result := by
  intro h
  obtain ⟨result, hresult, -⟩ := h frigate (noonRun (.failed .malformed)) noon
  have hcontained := (refreshSource_settled _ _).contained result hresult
  have hcases := hcontained.corrupt newer (publishes_noonRun _) .malformed (by decide) rfl current rfl
    earlier (List.mem_singleton.mpr rfl)
  revert hcases
  decide

/-- A run in which the source cannot be reached and nothing is cached. -/
def unreachableRun (source_id : String) : SourceRun Characters.ascii source_id :=
  ⟨.raised .osError, fun _ => .error .osError, .ok (.unavailable .currentMissing)⟩

open Reread in
/-- A source that cannot be reached has its result in the batch. -/
theorem refresh_contained_unreachable : ∃ batch,
    refresh [frigate] (fun source => unreachableRun source.text) (some ([frigate].map SourceId.text))
        noon = .ok batch ∧
      (batch.sources.map RefreshSourceResult.source_id).Perm ([frigate].map SourceId.text) ∧
      ∀ source ∈ [frigate], ∃ result ∈ batch.sources,
        (unreachableRun source.text).Reports noon result :=
  ((refresh_contained_iff Characters.ascii).2 [frigate] (fun source => unreachableRun source.text)
    [frigate] noon (by simp) (by simp)).mpr fun source _ =>
      { fetched := by simp [unreachableRun]
        evidence := fun _ _ h => by cases h
        cached := fun _ h => by cases h
        corrupt := fun _ h => by cases h.evidence
        durable := fun _ h => by cases h.evidence }

end AtlasOS.Discovery
