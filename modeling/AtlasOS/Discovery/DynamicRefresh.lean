import AtlasOS.Discovery.DynamicCache

/-!
# Refreshing a source

`RefreshCoordinator` of `dynamic_refresh.py`: fetch a source, publish what it
returned, read the cache back and report. The outcome is chosen before the cache is
read back, and the validator of the result couples the two; the last section says
when they fit.
-/

namespace AtlasOS.Discovery

variable {chars : Characters}

/-! ## Results -/

/-- `RefreshOutcome` -/
inductive RefreshOutcome where
  | refreshed | noop | degraded | unavailable | cacheCorrupt | publicationFailed | unknownSource
  deriving DecidableEq

/-- The key of a claim. -/
def EvaluatedDynamicClaim.key (claim : EvaluatedDynamicClaim chars) : Lex (String × String) :=
  toLex (claim.fact.catalog_item_id, claim.fact.fact_kind)

/-- `CachedSourceSnapshot` -/
structure CachedSourceSnapshot (chars : Characters) where
  source_id : String
  generation_id : String
  claims : List (EvaluatedDynamicClaim chars)
  deriving DecidableEq

/-- The field types and `validate_claims` of a `CachedSourceSnapshot`. -/
def CachedSourceSnapshot.validate (snapshot : CachedSourceSnapshot chars) : Except PyError Unit := do
  require (isSlug snapshot.source_id && decide (snapshot.source_id.length ≤ 128))
    (validationError "source_id")
  require (decide (1 ≤ snapshot.generation_id.length) && decide (snapshot.generation_id.length ≤ 160))
    (validationError "generation_id")
  require (decide (1 ≤ snapshot.claims.length) && decide (snapshot.claims.length ≤ 32))
    (validationError "claims")
  require (snapshot.claims.all fun claim => claim.provenance.source_id = snapshot.source_id)
    (validationError "snapshot claims must match the source")
  require (snapshot.claims.all fun claim => claim.freshness ≠ .expired)
    (validationError "expired claims cannot appear in a source snapshot")
  require (snapshot.claims = snapshot.claims.mergeSort fun a b => decide (a.key ≤ b.key))
    (validationError "snapshot claims must use canonical fact-key order")

/-- `RefreshSourceResult` -/
structure RefreshSourceResult (chars : Characters) where
  source_id : String
  outcome : RefreshOutcome
  health : Option DynamicSourceHealth := none
  source_failure : Option DynamicSourceFailure := none
  cache_failure : Option CacheFailureReason := none
  snapshot : Option (CachedSourceSnapshot chars) := none
  maintenance_degraded : Bool := false
  deriving DecidableEq

/-- The checks of `validate_shape` on the result of a registered source, by outcome. -/
def RefreshSourceResult.fits (result : RefreshSourceResult chars) : Bool :=
  match result.outcome with
  | .refreshed | .noop =>
      decide (result.health = some .healthy) && result.source_failure.isNone &&
        result.cache_failure.isNone && result.snapshot.isSome
  | .degraded =>
      decide (result.health = some .degraded) && result.source_failure.isSome &&
        result.cache_failure.isNone
  | .unavailable =>
      decide (result.health = some .unavailable) && result.source_failure.isSome &&
        result.cache_failure.isNone
  | .publicationFailed =>
      decide (result.health = some .healthy) && result.source_failure.isNone &&
        result.cache_failure.isSome
  | .cacheCorrupt => result.cache_failure.isSome && result.snapshot.isNone
  | .unknownSource => true

/-- The text that `validate_shape` refuses an outcome with. -/
def RefreshOutcome.refusal : RefreshOutcome → String
  | .refreshed | .noop => "successful refresh requires healthy persisted evidence"
  | .degraded => "degraded outcome requires one source failure"
  | .unavailable => "unavailable outcome requires one source failure"
  | .publicationFailed => "publication failure requires one cache failure"
  | .cacheCorrupt => "cache corruption requires one failure and no evidence"
  | .unknownSource => ""

/-- `validate_shape` -/
def RefreshSourceResult.validateShape (result : RefreshSourceResult chars) : Except PyError Unit :=
  if result.outcome = .unknownSource then
    require (result.health.isNone && result.source_failure.isNone && result.cache_failure.isNone &&
        result.snapshot.isNone && !result.maintenance_degraded)
      (validationError "unknown source results contain no source state")
  else do
    let health ← expect result.health (validationError "registered source results require health")
    require (result.source_failure.isNone ≠ decide (health ≠ .healthy))
      (validationError "source failure must match unhealthy source health")
    require (!(result.maintenance_degraded && decide (result.outcome ≠ .refreshed)))
      (validationError "maintenance degradation requires durable publication")
    require result.fits (validationError result.outcome.refusal)

/-- `RefreshSourceResult(...)` -/
def RefreshSourceResult.construct (result : RefreshSourceResult chars) :
    Except PyError (RefreshSourceResult chars) := do
  require (isSlug result.source_id && decide (result.source_id.length ≤ 128))
    (validationError "source_id")
  result.validateShape
  .ok result

/-! ## One source -/

/-- An id that `refresh` lets through. -/
structure SourceId where
  text : String
  canonical : isSlug text = true ∧ text.length ≤ 128

instance : DecidableEq SourceId := fun a b =>
  decidable_of_iff (a.text = b.text) (by cases a; cases b; simp)

/-- The outcome of `await adapter.fetch()`; of a returned object, the outcome of its `model_dump`. -/
inductive Fetch where
  | cancelled
  | raised (error : PyError)
  | returned (dump : Except PyError Dumped)

/-- What the adapter and the cache store do while a source is refreshed. -/
structure SourceRun (chars : Characters) (source_id : String) where
  fetch : Fetch
  publish : CachedFactRecord chars → Except PyError CachePublishResult
  read : Except PyError (CacheReadResult chars source_id)

/-- What `_refresh_source` raises. -/
inductive Escape where
  | cancelled
  | assertion
  | raised (error : PyError)
  deriving DecidableEq

/-- `AttributeError`, `TypeError` and `ValueError` -/
def isMalformed : PyError → Bool
  | .attributeError _ | .typeError _ | .valueError _ => true
  | _ => false

/-- The result that stands for an exception of the adapter. -/
def contained (error : PyError) : DynamicSourceResult chars :=
  if isMalformed error then ⟨.degraded, none, none, some .schemaInvalid⟩
  else ⟨.unavailable, none, none, some .connectionFailed⟩

/-- The validated result of the adapter. -/
def fetchResult : Fetch → Except Escape (DynamicSourceResult chars)
  | .cancelled => .error .cancelled
  | .raised error => .ok (contained error)
  | .returned dump =>
      match dump >>= DynamicSourceResult.validate with
      | .ok result => .ok result
      | .error error => .ok (contained error)

/-- The reasons of a failed publication that count as corruption. -/
def corruptReasons : List CacheFailureReason :=
  [.malformed, .checksumMismatch, .sizeExceeded, .unsafeFilesystem]

section Coordinator

variable {source : SourceId} (run : SourceRun chars source.text) (now : Utc)

/-- The claims of a generation. -/
def evaluateRecords (records : List (CachedFactRecord chars)) :
    Except PyError (List (EvaluatedDynamicClaim chars)) :=
  records.mapM fun record => EvaluatedDynamicClaim.fromP1 record.fact record.provenance now

/-- The snapshot of a generation, unless all of its claims have expired. -/
def snapshotOf (source_id generation_id : String) (evaluated : List (EvaluatedDynamicClaim chars)) :
    Except PyError (Option (CachedSourceSnapshot chars)) :=
  let claims := evaluated.filter fun claim => claim.freshness ≠ .expired
  if claims = [] then .ok none
  else do
    let snapshot : CachedSourceSnapshot chars := ⟨source_id, generation_id, claims⟩
    snapshot.validate
    .ok (some snapshot)

/-- `_fallback` -/
def fallback (health : DynamicSourceHealth) (forced_outcome : RefreshOutcome)
    (source_failure : Option DynamicSourceFailure) (cache_failure : Option CacheFailureReason)
    (maintenance_degraded : Bool) : Except PyError (RefreshSourceResult chars) :=
  let corrupt (cache_failure : Option CacheFailureReason) : RefreshSourceResult chars :=
    { source_id := source.text, outcome := .cacheCorrupt, health := some health, source_failure,
      cache_failure }
  let forced (snapshot : Option (CachedSourceSnapshot chars)) : RefreshSourceResult chars :=
    { source_id := source.text, outcome := forced_outcome, health := some health, source_failure,
      cache_failure, snapshot, maintenance_degraded }
  match run.read with
  | .error _ => (corrupt (cache_failure.or (some .ioFailed))).construct
  | .ok (.corrupt reason) => (corrupt (some reason)).construct
  | .ok (.unavailable reason) =>
      if forced_outcome ∈ [.refreshed, .noop] then
        RefreshSourceResult.construct
          { source_id := source.text, outcome := .publicationFailed, health := some health,
            source_failure, cache_failure := some reason }
      else (forced none).construct
  | .ok (.available generation) =>
      match evaluateRecords now generation.records with
      | .error (.typeError _) | .error (.valueError _) => (corrupt (some .malformed)).construct
      | .error e => .error e
      | .ok evaluated => do
          let snapshot ← snapshotOf source.text generation.metadata.generation_id evaluated
          (forced snapshot).construct

/-- The record that is published, or the exception that evaluating the evidence raises. -/
def admitted (fact : DynamicReleaseFact) (provenance : DynamicSourceProvenance chars) :
    Except PyError (CachedFactRecord chars) := do
  let evaluated ← EvaluatedDynamicClaim.fromP1 fact provenance now
  require (evaluated.freshness ≠ .expired) (.valueError "new source evidence is already expired")
  CachedFactRecord.construct fact provenance

/-- The report after a publication was attempted. -/
def reportPublication (publication : Except PyError CachePublishResult) :
    Except PyError (RefreshSourceResult chars) :=
  match publication with
  | .error _ => fallback run now .healthy .publicationFailed none (some .publicationFailed) false
  | .ok (.failed reason) =>
      fallback run now .healthy
        (if reason ∈ corruptReasons then .cacheCorrupt else .publicationFailed) none (some reason) false
  | .ok (.published _ maintenance_failed) =>
      fallback run now .healthy .refreshed none none maintenance_failed
  | .ok (.noop _) => fallback run now .healthy .noop none none false

/-- `_refresh_source` on evidence that the source reports as healthy. -/
def refreshHealthy (fact : DynamicReleaseFact) (provenance : DynamicSourceProvenance chars) :
    Except PyError (RefreshSourceResult chars) :=
  if provenance.source_id ≠ source.text then
    fallback run now .degraded .degraded (some .schemaInvalid) none false
  else
    match admitted now fact provenance with
    | .error (.valueError _) => fallback run now .degraded .degraded (some .schemaInvalid) none false
    | .error e => .error e
    | .ok record => reportPublication run now (run.publish record)

/-- An exception that leaves `_refresh_source`. -/
def escaping {α : Type} (result : Except PyError α) : Except Escape α := result.mapError .raised

/-- `_refresh_source` -/
def refreshSource : Except Escape (RefreshSourceResult chars) := do
  let fetched : DynamicSourceResult chars ← fetchResult run.fetch
  if fetched.health = .healthy then
    match fetched.fact, fetched.provenance with
    | some fact, some provenance => escaping (refreshHealthy run now fact provenance)
    | _, _ => .error .assertion
  else
    match fetched.failure_reason with
    | none => .error .assertion
    | some failure =>
        escaping (fallback run now fetched.health
          (if fetched.health = .unavailable then .unavailable else .degraded) (some failure) none false)

end Coordinator

/-! ## A batch -/

/-- `RefreshBatchResult` -/
structure RefreshBatchResult (chars : Characters) where
  evaluated_at : Utc
  sources : List (RefreshSourceResult chars)

/-- `RefreshBatchResult(...)` with `validate_order`. -/
def RefreshBatchResult.construct (evaluated_at : Utc) (sources : List (RefreshSourceResult chars)) :
    Except PyError (RefreshBatchResult chars) := do
  require (decide ((sources.map RefreshSourceResult.source_id).Pairwise (· < ·)))
    (validationError "refresh source results must be unique and sorted")
  .ok ⟨evaluated_at, sources⟩

/-- What `refresh` raises. -/
inductive BatchError where
  | duplicateSourceId
  | invalidSourceId
  | escaped (escape : Escape)
  deriving DecidableEq

/-- `sorted` on texts. -/
def sortedTexts (texts : List String) : List String := texts.mergeSort fun a b => decide (a ≤ b)

/-- `sorted(results, key=lambda item: item.source_id)` -/
def sortedResults (results : List (RefreshSourceResult chars)) : List (RefreshSourceResult chars) :=
  results.mergeSort fun a b => decide (a.source_id ≤ b.source_id)

/-- The result for a source that is not registered. -/
def unknownResult (source_id : String) : Except PyError (RefreshSourceResult chars) :=
  RefreshSourceResult.construct { source_id, outcome := .unknownSource }

/-- `_join_source` of a source that no other request is refreshing. -/
def joinSource (registry : List SourceId)
    (runs : (source : SourceId) → SourceRun chars source.text) (now : Utc) (source_id : String) :
    Except Escape (RefreshSourceResult chars) :=
  match registry.find? fun source => source.text = source_id with
  | none => .error (.raised (.keyError source_id))
  | some source => refreshSource (runs source) now

/-- `refresh`. Whichever source raises first, `asyncio.gather` passes an exception on and the batch
has no result. -/
def refresh (registry : List SourceId) (runs : (source : SourceId) → SourceRun chars source.text)
    (source_ids : Option (List String)) (now : Utc) : Except BatchError (RefreshBatchResult chars) :=
  let selected := source_ids.getD (sortedTexts (registry.map SourceId.text))
  let unknown := sortedTexts (selected.filter fun id => id ∉ registry.map SourceId.text)
  if ¬selected.Nodup then .error .duplicateSourceId
  else if selected.any fun id => !(isSlug id && decide (id.length ≤ 128)) then .error .invalidSourceId
  else
    (if unknown = [] then do
      let results ← selected.mapM (joinSource registry runs now)
      escaping (RefreshBatchResult.construct now (sortedResults results))
    else escaping (do
      let results ← unknown.mapM unknownResult
      RefreshBatchResult.construct now results)).mapError .escaped

end AtlasOS.Discovery
