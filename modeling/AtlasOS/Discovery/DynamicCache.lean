import AtlasOS.Discovery.DynamicEvaluation
import Mathlib.Data.Prod.Lex
import Mathlib.Data.String.Basic

/-!
# Cache contracts

The contracts of `dynamic_cache.py` that a caller of the cache store sees: the
records of a generation, what a read returns and what a publication returns. A
generation that was read has passed the checks of `_read_generation`, so these are
fields of its type. Digests, which no caller reads, are left out.
-/

namespace AtlasOS.Discovery

variable {chars : Characters}

/-- `REGISTERED_SOURCE_IDS` -/
def REGISTERED_SOURCE_IDS : List String := [FRIGATE_ADAPTER_ID]

/-- `MAX_FACTS_PER_GENERATION` -/
def MAX_FACTS_PER_GENERATION : ℕ := 32

/-- `CacheFailureReason` -/
inductive CacheFailureReason where
  | notInitialized | sourceUnregistered | currentMissing | lockFailed | unsafeFilesystem | malformed
  | checksumMismatch | sizeExceeded | ioFailed | publicationFailed
  deriving DecidableEq

/-! ## Generations -/

/-- `CachedFactRecord` -/
structure CachedFactRecord (chars : Characters) where
  fact : DynamicReleaseFact
  provenance : DynamicSourceProvenance chars
  registered : provenance.source_id ∈ REGISTERED_SOURCE_IDS
  deriving DecidableEq

namespace CachedFactRecord

/-- `CachedFactRecord(fact=fact, provenance=provenance)` -/
def construct (fact : DynamicReleaseFact) (provenance : DynamicSourceProvenance chars) :
    Except PyError (CachedFactRecord chars) :=
  if h : provenance.source_id ∈ REGISTERED_SOURCE_IDS then .ok ⟨fact, provenance, h⟩
  else .error (validationError "fact provenance source is not registered")

/-- The key of a record: its item and the kind of its fact. -/
def key (record : CachedFactRecord chars) : Lex (String × String) :=
  toLex (record.fact.catalog_item_id, record.fact.fact_kind)

/-- The only source is registered. -/
theorem source_registered (provenance : DynamicSourceProvenance chars) :
    provenance.source_id ∈ REGISTERED_SOURCE_IDS := List.mem_singleton.mpr rfl

@[simp] theorem construct_eq (fact : DynamicReleaseFact) (provenance : DynamicSourceProvenance chars) :
    construct fact provenance = .ok ⟨fact, provenance, source_registered provenance⟩ :=
  dif_pos _

end CachedFactRecord

/-- `CachedFactsDocument` -/
structure CachedFactsDocument (chars : Characters) where
  source_id : String
  records : List (CachedFactRecord chars)
  bounded : records.length ≤ MAX_FACTS_PER_GENERATION
  registered : source_id ∈ REGISTERED_SOURCE_IDS
  nonempty : records ≠ []
  same_source : ∀ record ∈ records, record.provenance.source_id = source_id
  one_retrieval : ∀ first ∈ records, ∀ second ∈ records,
    first.provenance.retrieved_at = second.provenance.retrieved_at
  sorted_keys : (records.map CachedFactRecord.key).Pairwise (· < ·)

/-- `[a-f0-9]` -/
def isHexChar (c : Char) : Bool := c.isDigit || ('a' ≤ c && c ≤ 'f')

/-- `^g-\d{8}T\d{12}Z-[a-f0-9]{64}$` -/
def isGenerationId (text : String) : Bool :=
  decide (text.toList.length = 89) && (List.range 89).all fun i =>
    let c := text.toList.getD i ' '
    if i = 0 then c = 'g'
    else if i ∈ [1, 24] then c = '-'
    else if i = 10 then c = 'T'
    else if i = 23 then c = 'Z'
    else if i < 23 then c.isDigit
    else isHexChar c

/-- `GenerationMetadata`, without its digest. -/
structure GenerationMetadata where
  source_id : String
  generation_id : String
  retrieved_at : Utc
  fact_count : ℕ
  canonical_id : isGenerationId generation_id = true

/-- A generation of a source as `_read_generation` returns it. -/
structure ValidatedCacheGeneration (chars : Characters) (source_id : String) where
  metadata : GenerationMetadata
  document : CachedFactsDocument chars
  metadata_source : metadata.source_id = source_id
  document_source : document.source_id = source_id
  counted : metadata.fact_count = document.records.length
  retrieved : ∀ first ∈ document.records.head?, metadata.retrieved_at = first.provenance.retrieved_at

namespace ValidatedCacheGeneration

variable {source_id : String}

/-- The records of a generation. -/
def records (generation : ValidatedCacheGeneration chars source_id) : List (CachedFactRecord chars) :=
  generation.document.records

/-- There is one source and one kind of fact about one item, so a generation has one record. -/
theorem exists_record (generation : ValidatedCacheGeneration chars source_id) :
    ∃ record, generation.records = [record] := by
  have hkeys := generation.document.sorted_keys
  have hne := generation.document.nonempty
  unfold records
  cases hrecords : generation.document.records with
  | nil => exact absurd hrecords hne
  | cons first rest =>
    cases rest with
    | nil => exact ⟨first, rfl⟩
    | cons second rest =>
      -- every two records have the same key
      rw [hrecords] at hkeys
      have hlt : first.key < second.key := (List.pairwise_cons.mp hkeys).1 _ (by simp)
      exact absurd hlt (lt_irrefl first.key)

/-- The source of a generation is the one there is. -/
theorem source_eq (generation : ValidatedCacheGeneration chars source_id) :
    source_id = FRIGATE_ADAPTER_ID := by
  have hregistered := generation.document.registered
  rw [generation.document_source] at hregistered
  exact List.mem_singleton.mp hregistered

theorem generation_id_length (generation : ValidatedCacheGeneration chars source_id) :
    generation.metadata.generation_id.length = 89 := by
  have hid := generation.metadata.canonical_id
  rw [isGenerationId, Bool.and_eq_true, decide_eq_true_eq, String.length_toList] at hid
  exact hid.1

end ValidatedCacheGeneration

/-! ## Results of the store -/

/-- `CacheReadResult` of a source, in the shapes that its validator admits. -/
inductive CacheReadResult (chars : Characters) (source_id : String) where
  | available (generation : ValidatedCacheGeneration chars source_id)
  | unavailable (failure_reason : CacheFailureReason)
  | corrupt (failure_reason : CacheFailureReason)

/-- `CachePublishResult`, in the shapes that its validator admits. -/
inductive CachePublishResult where
  | published (generation_id : String) (maintenance_failed : Bool)
  | noop (generation_id : String)
  | failed (failure_reason : CacheFailureReason)
  deriving DecidableEq

end AtlasOS.Discovery
