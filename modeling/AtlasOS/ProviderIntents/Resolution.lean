import AtlasOS.ProviderIntents.Resolver

/-!
# No expectation crosses incarnations

What `resolve` answers about a store that a history of calls reached: the entry of
each live virtual machine, the entries of the active records whose resources are
not live, and that the order of the resources does not matter.
-/

namespace AtlasOS.ProviderIntents

variable {py : Python} {pd : Pydantic} {db : Database}

/-! ## The snapshot of an accepted store -/

/-- The record is the latest version of its series, which is active. -/
def CurrentActive (py : Python) (pd : Pydantic) (db : Database) (record : ProviderIntentRecord) :
    Prop :=
  Current py pd db record ∧ record.lifecycle = .active

/-- The records of an active snapshot are the latest active ones. -/
theorem Histories.mem_snapshot {histories : List (List ProviderIntentRecord)}
    (h : Histories py pd db histories) {record : ProviderIntentRecord} :
    record ∈ (snapshotOf histories).active_identity_bound_records ↔
      CurrentActive py pd db record := by
  simp only [snapshotOf, List.mem_filter, Rows.mem_orderBy, h.mem_filterMap_getLast,
    Bool.and_eq_true, decide_eq_true_eq, CurrentActive]
  constructor
  · rintro ⟨⟨hcurrent, -⟩, hactive⟩
    exact ⟨hcurrent, hactive⟩
  · rintro ⟨hcurrent, hactive⟩
    obtain ⟨-, htype, fingerprint, hfingerprint⟩ := hcurrent.valid.bound (by rw [hactive]; decide)
    simp [hcurrent, hactive, htype, hfingerprint]

theorem Histories.nodup_snapshot {histories : List (List ProviderIntentRecord)}
    (h : Histories py pd db histories) :
    (snapshotOf histories).active_identity_bound_records.Nodup := by
  have hlast : (histories.filterMap List.getLast?).Nodup := List.Nodup.of_map _ h.nodup_getLast
  have hbound := ((Rows.orderBy_perm recordOrder _).nodup_iff).mpr (hlast.filter fun record =>
    record.resource_type.isSome && record.incarnation_fingerprint.isSome)
  exact hbound.filter _

/-- An accepted store is read. -/
theorem Accepted.readSnapshot (h : Accepted py pd db) :
    ∃ histories, Histories py pd db histories ∧
      readSnapshot py pd db = .ok (snapshotOf histories) := by
  obtain ⟨histories, hhistories⟩ := h.series.exists_histories
  refine ⟨histories, hhistories, ?_⟩
  rw [ProviderIntents.readSnapshot, validatedStoreRecords_eq_ok.mpr ⟨h, hhistories⟩]
  rfl

/-! ## One resource -/

section Resolution

variable {active : List ProviderIntentRecord} {legacy : String → String → Option ProviderIntentValue}
  {p q : ManagedResourceProjection}

/-- The active record is about the coordinate of the resource. -/
theorem sameCoordinate_iff {record : ProviderIntentRecord} :
    sameCoordinate p record = true ↔ record.provider_id = p.provider_id ∧
      record.resource_type = some p.resource_type ∧ record.resource_id = p.resource_id := by
  simp [sameCoordinate]

/-- The records that match a resource. -/
theorem mem_matching {record : ProviderIntentRecord} :
    record ∈ (active.filter (sameCoordinate p)).filter (fun record =>
        decide (record.incarnation_fingerprint = p.management_fingerprint)) ↔
      record ∈ active ∧ sameCoordinate p record = true ∧
        record.incarnation_fingerprint = p.management_fingerprint := by
  rw [List.mem_filter, List.mem_filter, decide_eq_true_eq, and_assoc]

/-- A resource with authoritative identity that is a virtual machine. -/
def IsIdentified (p : ManagedResourceProjection) : Prop :=
  p.provider_id = "proxmox" ∧ p.resource_type = "qemu" ∧ p.identity_assurance = .authoritative

theorem IsIdentified.fingerprint (h : IsIdentified p) : p.management_fingerprint ≠ none := by
  obtain ⟨-, -, hassurance⟩ := h
  exact Option.isSome_iff_ne_none.mp (p.assurance.mp hassurance)

/-- The active record that is bound to the fingerprint of a resource configures it. -/
theorem resolution_matching (hp : IsIdentified p) {record : ProviderIntentRecord}
    (hmem : record ∈ active) (hcoordinate : sameCoordinate p record = true)
    (honly : ∀ other ∈ active, sameCoordinate p other = true → other = record)
    (hfingerprint : record.incarnation_fingerprint = p.management_fingerprint) :
    (resolution active legacy p).status = .configured ∧
      (resolution active legacy p).expectation = some record.intent_value := by
  have hmatching := mem_matching.mpr ⟨hmem, hcoordinate, hfingerprint⟩
  unfold resolution
  rw [if_neg (by simp [hp.1, hp.2.1]), if_neg (by simp [hp.2.2, hp.fingerprint])]
  dsimp only
  split
  · next first rest hlist =>
    obtain ⟨hfirst, hsame, -⟩ := mem_matching.mp (hlist ▸ List.mem_cons_self (a := first))
    rw [honly first hfirst hsame]
    exact ⟨rfl, rfl⟩
  · next hlist =>
    rw [hlist] at hmatching
    cases hmatching

/-- Another fingerprint at the coordinate is a mismatch, which has no expectation. -/
theorem resolution_mismatch (hp : IsIdentified p) {record : ProviderIntentRecord}
    (hmem : record ∈ active) (hcoordinate : sameCoordinate p record = true)
    (hother : ∀ other ∈ active, sameCoordinate p other = true →
      other.incarnation_fingerprint ≠ p.management_fingerprint) :
    (resolution active legacy p).status = .needsReview ∧
      (resolution active legacy p).reason = .incarnationMismatch ∧
      (resolution active legacy p).expectation = none := by
  unfold resolution
  rw [if_neg (by simp [hp.1, hp.2.1]), if_neg (by simp [hp.2.2, hp.fingerprint])]
  dsimp only
  split
  · next first rest hlist =>
    obtain ⟨hfirst, hsame, hequal⟩ := mem_matching.mp (hlist ▸ List.mem_cons_self (a := first))
    exact absurd hequal (hother first hfirst hsame)
  · have hne : active.filter (sameCoordinate p) ≠ [] :=
      List.ne_nil_of_mem (List.mem_filter.mpr ⟨hmem, hcoordinate⟩)
    rw [if_pos hne]
    exact ⟨rfl, rfl, rfl⟩

/-- A resource is configured only by an active record that is bound to its fingerprint. -/
theorem exists_of_configured (h : (resolution active legacy p).status = .configured) :
    ∃ record ∈ active, sameCoordinate p record = true ∧
      record.incarnation_fingerprint = p.management_fingerprint ∧
      (resolution active legacy p).expectation = some record.intent_value := by
  unfold resolution at h ⊢
  split at h
  · cases h
  next hvm =>
  rw [if_neg hvm]
  split at h
  · cases h
  next hidentity =>
  rw [if_neg hidentity]
  dsimp only at h ⊢
  split at h
  · next first rest hlist =>
    obtain ⟨hfirst, hsame, hequal⟩ := mem_matching.mp (hlist ▸ List.mem_cons_self (a := first))
    exact ⟨first, hfirst, hsame, hequal, rfl⟩
  · split at h <;> cases h

theorem resolution_coordinate :
    (resolution active legacy p).provider_id = p.provider_id ∧
      (resolution active legacy p).resource_type = p.resource_type ∧
      (resolution active legacy p).resource_id = p.resource_id := by
  unfold resolution
  dsimp only
  split
  · exact ⟨rfl, rfl, rfl⟩
  · split
    · exact ⟨rfl, rfl, rfl⟩
    · split
      · exact ⟨rfl, rfl, rfl⟩
      · split <;> exact ⟨rfl, rfl, rfl⟩

/-- The entry of a live resource is neither unavailable nor missing. -/
theorem resolution_status_ne : (resolution active legacy p).status ≠ .unavailable ∧
    (resolution active legacy p).status ≠ .missing := by
  unfold resolution
  dsimp only
  split
  · simp
  · split
    · simp
    · split
      · simp
      · split <;> simp

/-- The entry of a live resource passes its validators, when its identity is short enough. -/
theorem resolution_valid (hactive : ∀ record ∈ active, record.Valid py)
    (hshort : p.resource_id.length ≤ 200) :
    (resolution active legacy p).modelValidate = .ok () := by
  have hid : lengthWithin 1 200 p.resource_id = true := by
    simp [lengthWithin, p.resource.1, hshort]
  have htype : decide (1 ≤ p.resource_type.length) = true := decide_eq_true p.resource.2
  unfold resolution
  dsimp only
  split
  · simp [ProviderIntentResolution.modelValidate, require, p.provider, hid, htype, validReasons]
  · split
    · simp [ProviderIntentResolution.modelValidate, require, p.provider, hid, htype, validReasons]
    · next hidentity =>
      split
      · next record rest hlist =>
        obtain ⟨hrecord, -, hequal⟩ :=
          mem_matching.mp (hlist ▸ List.mem_cons_self (a := record))
        have hfingerprint : p.management_fingerprint.isSome = true :=
          Option.isSome_iff_ne_none.mpr fun hnone => hidentity (.inr hnone)
        have hversion := (hactive record hrecord).version.1
        simp [ProviderIntentResolution.modelValidate, require, p.provider, hid, htype,
          validReasons, hequal, p.fingerprint, hfingerprint, hversion]
      · split
        · simp [ProviderIntentResolution.modelValidate, require, p.provider, hid, htype,
            validReasons]
        · cases hlegacy : legacy p.provider_id p.resource_id <;>
            simp [ProviderIntentResolution.modelValidate, require, p.provider, hid, htype,
              validReasons]

/-- The entry of a resource depends on its coordinate and its fingerprint only. -/
theorem resolution_congr (hprovider : p.provider_id = q.provider_id)
    (htype : p.resource_type = q.resource_type) (hid : p.resource_id = q.resource_id)
    (hfingerprint : p.management_fingerprint = q.management_fingerprint) :
    resolution active legacy p = resolution active legacy q := by
  have hassurance : p.identity_assurance ≠ .authoritative ↔
      q.identity_assurance ≠ .authoritative := by
    rw [not_iff_not, p.assurance, q.assurance, hfingerprint]
  have hsame : sameCoordinate p = sameCoordinate q := by
    funext record
    simp only [sameCoordinate, hprovider, htype, hid]
  unfold resolution
  simp only [hprovider, htype, hid, hfingerprint, hassurance, hsame]

end Resolution

/-! ## The order of the resources -/

section Order

variable {snapshots snapshots' : List ManagedResourceProjection}

/-- Two live resources with one key have one coordinate and one fingerprint. -/
theorem projectionOrder_inj {p q : ManagedResourceProjection}
    (h : projectionOrder p = projectionOrder q) :
    p.provider_id = q.provider_id ∧ p.resource_type = q.resource_type ∧
      p.resource_id = q.resource_id ∧ p.management_fingerprint = q.management_fingerprint := by
  simp only [projectionOrder, List.cons.injEq, and_true] at h
  obtain ⟨hprovider, htype, hid, hfingerprint⟩ := h
  refine ⟨hprovider, htype, hid, ?_⟩
  have hp := p.fingerprint_ne_empty
  have hq := q.fingerprint_ne_empty
  cases hpf : p.management_fingerprint <;> cases hqf : q.management_fingerprint <;>
    simp_all

/-- What depends on the coordinate and the fingerprint of each live resource does not depend on
the order of the resources. -/
theorem map_ordered_eq {β : Type} {f : ManagedResourceProjection → β}
    (hf : ∀ p q, projectionOrder p = projectionOrder q → f p = f q)
    (hperm : snapshots.Perm snapshots') : (ordered snapshots).map f = (ordered snapshots').map f :=
  Rows.map_orderBy_eq_of_perm (fun p _ q _ => hf p q) (hperm.filter _)

theorem ordered_perm (hperm : snapshots.Perm snapshots') :
    (ordered snapshots).Perm (ordered snapshots') :=
  ((Rows.orderBy_perm _ _).trans (hperm.filter _)).trans (Rows.orderBy_perm _ _).symm

theorem unavailable_perm {activation : ProviderIntentActivation}
    {reason : ProviderIntentResolutionReason} (hperm : snapshots.Perm snapshots') :
    unavailable activation reason (ordered snapshots) =
      unavailable activation reason (ordered snapshots') := by
  let entry (p : ManagedResourceProjection) : ProviderIntentResolution :=
    { provider_id := p.provider_id, resource_type := p.resource_type, resource_id := p.resource_id
      status := .unavailable, reason }
  have hentries : (ordered snapshots).map entry = (ordered snapshots').map entry := by
    refine map_ordered_eq (fun p q hkey => ?_) hperm
    obtain ⟨hprovider, htype, hid, -⟩ := projectionOrder_inj hkey
    simp only [entry, hprovider, htype, hid]
  have hresources (live : List ManagedResourceProjection) :
      (live.mapM fun p => (entry p).create) = (live.map entry).mapM (·.create) := by
    rw [List.mapM_map]
    rfl
  change ((ordered snapshots).mapM fun p => (entry p).create) >>= _ =
    ((ordered snapshots').mapM fun p => (entry p).create) >>= _
  rw [hresources, hresources, hentries]

theorem resolveLive_perm {activation : ProviderIntentActivation}
    (hperm : snapshots.Perm snapshots') :
    resolveLive py pd activation db (ordered snapshots) =
      resolveLive py pd activation db (ordered snapshots') := by
  unfold resolveLive
  refine bind_congr fun evidence => ?_
  have hresolutions (legacy : String → String → Option ProviderIntentValue) :
      (ordered snapshots).map (resolution evidence.active_identity_bound_records legacy) =
        (ordered snapshots').map (resolution evidence.active_identity_bound_records legacy) := by
    refine map_ordered_eq (fun p q hkey => ?_) hperm
    obtain ⟨hprovider, htype, hid, hfingerprint⟩ := projectionOrder_inj hkey
    exact resolution_congr hprovider htype hid hfingerprint
  have hresults (legacy : String → String → Option ProviderIntentValue)
      (live : List ManagedResourceProjection) :
      live.mapM (resolveOne evidence.active_identity_bound_records legacy) =
        (live.map (resolution evidence.active_identity_bound_records legacy)).mapM (·.create) := by
    rw [List.mapM_map]
    rfl
  have habsent : absentRecords evidence.active_identity_bound_records (ordered snapshots) =
      absentRecords evidence.active_identity_bound_records (ordered snapshots') := by
    unfold absentRecords
    simp only [(ordered_perm hperm).all_eq]
  dsimp only
  rw [hresults, hresults, hresolutions, habsent]

/-- The result does not depend on the order of the resources. -/
theorem resolve_perm {activation : ProviderIntentActivation} {store : Option Database}
    (hperm : snapshots.Perm snapshots') :
    resolve py pd activation store snapshots = resolve py pd activation store snapshots' := by
  unfold resolve
  simp only [unavailable_perm hperm, resolveLive_perm hperm]

end Order

/-! ## All resources -/

/-- What the entries of the live resources and of the absent records say, when the live resources
are given. -/
structure Answers (py : Python) (pd : Pydantic) (db : Database)
    (live : List ManagedResourceProjection) (resources : List ProviderIntentResolution)
    (answer : ManagedResourceProjection → ProviderIntentResolution) : Prop where
  /-- Each live resource has an entry, and the other entries are missing ones. -/
  entries : ∃ absent : List ProviderIntentRecord,
    resources.Perm (live.map answer ++ absent.map missingResolution) ∧
      ∀ record ∈ absent, CurrentActive py pd db record ∧ ∀ p ∈ live, sameCoordinate p record = false
  coordinate : ∀ p ∈ live, (answer p).provider_id = p.provider_id ∧
    (answer p).resource_type = p.resource_type ∧ (answer p).resource_id = p.resource_id
  /-- At most one record is active at a coordinate. -/
  unique : ∀ p ∈ live, ∀ record record', CurrentActive py pd db record →
    CurrentActive py pd db record' → sameCoordinate p record = true →
    sameCoordinate p record' = true → record = record'
  configured : ∀ p ∈ live, IsIdentified p → ∀ v,
    (answer p).status = .configured ∧ (answer p).expectation = some v ↔
      ∃ record, CurrentActive py pd db record ∧ sameCoordinate p record = true ∧
        record.incarnation_fingerprint = p.management_fingerprint ∧ record.intent_value = v
  mismatch : ∀ p ∈ live, IsIdentified p → ∀ record, CurrentActive py pd db record →
    sameCoordinate p record = true → record.incarnation_fingerprint ≠ p.management_fingerprint →
    (answer p).status = .needsReview ∧ (answer p).reason = .incarnationMismatch ∧
      (answer p).expectation = none
  /-- An active record whose coordinate is not live has one missing entry. -/
  missing : ∀ record, CurrentActive py pd db record → (∀ p ∈ live, sameCoordinate p record = false) →
    (resources.filter fun r => decide (r.status = .missing ∧ r.provider_id = record.provider_id ∧
      some r.resource_type = record.resource_type ∧ r.resource_id = record.resource_id)) =
      [missingResolution record]

section Accepted

variable {live : List ManagedResourceProjection} {active : List ProviderIntentRecord}
  {legacy : String → String → Option ProviderIntentValue}

/-- A current active record is about a virtual machine of Proxmox. -/
theorem CurrentActive.vm {record : ProviderIntentRecord} (h : CurrentActive py pd db record) :
    record.Valid py ∧ record.resource_type = some "qemu" ∧
      ∃ fingerprint, record.incarnation_fingerprint = some fingerprint := by
  have hvalid := h.1.valid
  obtain ⟨-, htype, hfingerprint⟩ := hvalid.bound (by rw [h.2]; decide)
  exact ⟨hvalid, htype, hfingerprint⟩

theorem missingResolution_valid {record : ProviderIntentRecord}
    (h : CurrentActive py pd db record) : (missingResolution record).modelValidate = .ok () := by
  obtain ⟨hvalid, htype, fingerprint, hfingerprint⟩ := h.vm
  have hpattern := hvalid.fingerprint
  rw [hfingerprint, Option.all_some] at hpattern
  have hlength : decide (1 ≤ "qemu".length) = true := by decide
  simp [ProviderIntentResolution.modelValidate, missingResolution, require, validReasons, htype,
    hfingerprint, hpattern, hvalid.resource_id, hvalid.provider, hvalid.version.1, hlength]

/-- The records of an accepted store at the coordinate of a resource are one. -/
theorem Accepted.eq_of_sameCoordinate (h : Accepted py pd db) {p : ManagedResourceProjection}
    {record record' : ProviderIntentRecord} (hrecord : CurrentActive py pd db record)
    (hrecord' : CurrentActive py pd db record') (hsame : sameCoordinate p record = true)
    (hsame' : sameCoordinate p record' = true) : record = record' := by
  obtain ⟨hprovider, htype, hid⟩ := sameCoordinate_iff.mp hsame
  obtain ⟨hprovider', htype', hid'⟩ := sameCoordinate_iff.mp hsame'
  exact h.active.eq_of_coordinate h.unique.active hrecord hrecord' (by rw [hprovider, hprovider'])
    (by rw [htype, htype']) (by rw [hid, hid'])

theorem mem_absentRecords (hactive : ∀ record, record ∈ active ↔ CurrentActive py pd db record)
    {record : ProviderIntentRecord} : record ∈ absentRecords active live ↔
      CurrentActive py pd db record ∧ ∀ p ∈ live, sameCoordinate p record = false := by
  simp only [absentRecords, List.mem_filter, hactive, Bool.and_eq_true, decide_eq_true_eq,
    List.all_eq_true, Bool.not_eq_true']
  exact and_congr_right fun hcurrent => and_iff_right hcurrent.vm.2.1

/-- The entries of an accepted store answer about each resource. -/
theorem Accepted.answers (h : Accepted py pd db) (hnodup : active.Nodup)
    (hactive : ∀ record, record ∈ active ↔ CurrentActive py pd db record)
    {resources : List ProviderIntentResolution}
    (hresources : resources.Perm
      (live.map (resolution active legacy) ++ (absentRecords active live).map missingResolution)) :
    Answers py pd db live resources (resolution active legacy) where
  entries := ⟨_, hresources, fun _ hrecord => (mem_absentRecords hactive).mp hrecord⟩
  coordinate _ _ := resolution_coordinate
  unique _ _ _ _ hrecord hrecord' := h.eq_of_sameCoordinate hrecord hrecord'
  configured p _ hp v := by
    constructor
    · rintro ⟨hstatus, hexpectation⟩
      obtain ⟨record, hmem, hsame, hequal, hvalue⟩ := exists_of_configured hstatus
      rw [hvalue, Option.some.injEq] at hexpectation
      exact ⟨record, (hactive record).mp hmem, hsame, hequal, hexpectation⟩
    · rintro ⟨record, hcurrent, hsame, hequal, rfl⟩
      exact resolution_matching hp ((hactive record).mpr hcurrent) hsame
        (fun other hother hsame' =>
          h.eq_of_sameCoordinate ((hactive other).mp hother) hcurrent hsame' hsame) hequal
  mismatch p _ hp record hcurrent hsame hne := by
    refine resolution_mismatch hp ((hactive record).mpr hcurrent) hsame ?_
    intro other hother hsame'
    rw [h.eq_of_sameCoordinate ((hactive other).mp hother) hcurrent hsame' hsame]
    exact hne
  missing record hcurrent habsent := by
    have hlive : (live.map (resolution active legacy)).filter (fun r => decide
        (r.status = .missing ∧ r.provider_id = record.provider_id ∧
          some r.resource_type = record.resource_type ∧ r.resource_id = record.resource_id)) =
        [] := by
      rw [List.filter_eq_nil_iff]
      intro r hr hmissing
      obtain ⟨p, -, rfl⟩ := List.mem_map.mp hr
      exact resolution_status_ne.2 (of_decide_eq_true hmissing).1
    have habsentNodup : (absentRecords active live).Nodup := hnodup.filter _
    have hothers : (absentRecords active live).filter (fun other => decide
        (other.provider_id = record.provider_id ∧ other.resource_id = record.resource_id)) =
        [record] := by
      refine List.perm_singleton.mp ((List.perm_ext_iff_of_nodup
        (habsentNodup.filter _) (List.nodup_singleton record)).mpr fun other => ?_)
      rw [List.mem_filter, mem_absentRecords hactive, decide_eq_true_eq, List.mem_singleton]
      constructor
      · rintro ⟨⟨hother, -⟩, hprovider, hid⟩
        exact h.active.eq_of_coordinate h.unique.active hother hcurrent hprovider
          (by rw [hother.vm.2.1, hcurrent.vm.2.1]) hid
      · rintro rfl
        exact ⟨⟨hcurrent, habsent⟩, rfl, rfl⟩
    have hfilter := hresources.filter fun r => decide
      (r.status = .missing ∧ r.provider_id = record.provider_id ∧
        some r.resource_type = record.resource_type ∧ r.resource_id = record.resource_id)
    rw [List.filter_append, hlive, List.nil_append, List.filter_map] at hfilter
    have hsame : (absentRecords active live).filter ((fun r : ProviderIntentResolution => decide
        (r.status = .missing ∧ r.provider_id = record.provider_id ∧
          some r.resource_type = record.resource_type ∧ r.resource_id = record.resource_id)) ∘
            missingResolution) = [record] := by
      rw [← hothers]
      refine List.filter_congr fun other hother => ?_
      have htype := ((mem_absentRecords hactive).mp hother).1.vm.2.1
      simp [missingResolution, htype, hcurrent.vm.2.1]
    rw [hsame] at hfilter
    exact List.perm_singleton.mp hfilter

/-- The resolver reads an accepted store, when no live identity is too long. -/
theorem Accepted.resolveLive (h : Accepted py pd db)
    (hshort : ∀ p ∈ live, p.resource_id.length ≤ 200) :
    ∃ resolved answer, ProviderIntents.resolveLive py pd .activated db live = .ok resolved ∧
      resolved.authority_available = true ∧
      Answers py pd db live resolved.resources answer := by
  obtain ⟨histories, hhistories, hread⟩ := h.readSnapshot
  let active := (snapshotOf histories).active_identity_bound_records
  let legacy := legacyByCoordinate (snapshotOf histories).legacy_unbound_records
  have hactive (record : ProviderIntentRecord) : record ∈ active ↔ CurrentActive py pd db record :=
    hhistories.mem_snapshot
  have hlive : live.mapM (resolveOne active legacy) = .ok (live.map (resolution active legacy)) := by
    refine mapM_eq_ok_map fun p hp => ?_
    rw [resolveOne, ProviderIntentResolution.create, resolution_valid
      (fun record hrecord => ((hactive record).mp hrecord).vm.1) (hshort p hp)]
    rfl
  have habsent : ((absentRecords active live).mapM fun record => (missingResolution record).create) =
      .ok ((absentRecords active live).map missingResolution) := by
    refine mapM_eq_ok_map fun record hrecord => ?_
    rw [ProviderIntentResolution.create,
      missingResolution_valid ((mem_absentRecords hactive).mp hrecord).1]
    rfl
  let resources := Rows.orderBy resolutionOrder
    (live.map (resolution active legacy) ++ (absentRecords active live).map missingResolution)
  let resolved : ProviderIntentResolutionSet :=
    { activation := .activated, authority_available := true, resources }
  have hstatus : ∀ r ∈ resources, r.status ≠ .unavailable := by
    intro r hr
    rw [Rows.mem_orderBy, List.mem_append, List.mem_map, List.mem_map] at hr
    obtain ⟨p, -, rfl⟩ | ⟨record, -, rfl⟩ := hr
    · exact resolution_status_ne.1
    · simp [missingResolution]
  have hcreate : resolved.create = .ok resolved := by
    have hvalid : resolved.modelValidate = .ok () := by
      have hany : (resources.any fun r => decide (r.status = .unavailable)) = false := by
        rw [List.any_eq_false]
        exact fun r hr => by simpa using hstatus r hr
      have horder : Rows.orderBy resolutionOrder resources = resources := Rows.orderBy_orderBy
      simp [ProviderIntentResolutionSet.modelValidate, resolved, require, horder, hany]
    rw [ProviderIntentResolutionSet.create, hvalid]
    rfl
  refine ⟨resolved, resolution active legacy, ?_, rfl,
    h.answers hhistories.nodup_snapshot hactive (Rows.orderBy_perm _ _)⟩
  unfold ProviderIntents.resolveLive
  rw [hread, ok_bind]
  dsimp only
  rw [hlive, ok_bind, habsent, ok_bind]
  exact hcreate

end Accepted

/-- The answers do not depend on the order of the resources. -/
theorem Answers.perm {live live' : List ManagedResourceProjection}
    {resources : List ProviderIntentResolution}
    {answer : ManagedResourceProjection → ProviderIntentResolution}
    (h : Answers py pd db live resources answer) (hperm : live.Perm live') :
    Answers py pd db live' resources answer where
  entries := by
    obtain ⟨absent, hresources, habsent⟩ := h.entries
    refine ⟨absent, hresources.trans ((hperm.map answer).append_right _), fun record hrecord => ?_⟩
    exact ⟨(habsent record hrecord).1, fun p hp => (habsent record hrecord).2 p (hperm.mem_iff.mpr hp)⟩
  coordinate p hp := h.coordinate p (hperm.mem_iff.mpr hp)
  unique p hp := h.unique p (hperm.mem_iff.mpr hp)
  configured p hp := h.configured p (hperm.mem_iff.mpr hp)
  mismatch p hp := h.mismatch p (hperm.mem_iff.mpr hp)
  missing record hrecord habsent :=
    h.missing record hrecord fun p hp => habsent p (hperm.mem_iff.mp hp)

/-! ## Histories of calls -/

/-- The fields of a live virtual machine with a given identity. -/
def ManagedResourceProjectionFields.vm (resource_id : String) : ManagedResourceProjectionFields where
  provider_id := "proxmox"
  resource_id
  resource_type := "qemu"
  identity_assurance := .authoritative
  management_fingerprint := some plainFingerprint

theorem ManagedResourceProjectionFields.vm_valid {resource_id : String}
    (h : 1 ≤ resource_id.length) : (vm resource_id).modelValidate = .ok () := by
  have hprovider : matchesKebab "proxmox" = true := by decide
  have htype : 1 ≤ "qemu".length := by decide
  simp only [modelValidate, vm, require_bind_eq_ok, require_eq_ok, Option.all_some,
    matchesManagementFingerprint_plainFingerprint, Option.isSome_some]
  exact ⟨hprovider, decide_eq_true h, decide_eq_true htype, trivial, by simp⟩

/-- A live virtual machine. -/
def ManagedResourceProjection.plain : ManagedResourceProjection where
  toManagedResourceProjectionFields := .vm "100"
  valid := ManagedResourceProjectionFields.vm_valid (by decide)

/-- A live virtual machine with a long identity. -/
def ManagedResourceProjection.long : ManagedResourceProjection where
  toManagedResourceProjectionFields := .vm (String.ofList (List.replicate 201 '1'))
  valid := ManagedResourceProjectionFields.vm_valid (by
    rw [String.length_ofList, List.length_replicate]
    decide)

/-- No expectation crosses incarnations, after any history of calls and for any resources, when
the identities of the live ones are not too long. -/
theorem resolve_runHistory {calls : Calls py} (hseparate : Disjoint calls.boundIds calls.legacyIds)
    (snapshots : List ManagedResourceProjection)
    (hshort : ∀ p ∈ snapshots, p.missing = false → p.resource_id.length ≤ 200) :
    ∃ resolved answer,
      resolve py pd .activated (some (runHistory pd Database.created calls)) snapshots =
        .ok resolved ∧
      resolved.authority_available = true ∧
      Answers py pd (runHistory pd Database.created calls)
        (snapshots.filter fun p => !p.missing) resolved.resources answer ∧
      ∀ snapshots', snapshots'.Perm snapshots →
        resolve py pd .activated (some (runHistory pd Database.created calls)) snapshots' =
          .ok resolved := by
  have haccepted : Accepted py pd (runHistory pd Database.created calls) :=
    (reachable_kept hseparate).accepted
  have hordered : ∀ p ∈ ordered snapshots, p.resource_id.length ≤ 200 := by
    intro p hp
    rw [ordered, Rows.mem_orderBy, List.mem_filter, Bool.not_eq_true'] at hp
    exact hshort p hp.1 hp.2
  obtain ⟨resolved, answer, hresolved, havailable, hanswers⟩ := haccepted.resolveLive hordered
  have hresolve : resolve py pd .activated (some (runHistory pd Database.created calls)) snapshots =
      .ok resolved := by
    unfold resolve
    rw [if_neg (by decide)]
    dsimp only
    rw [hresolved]
  refine ⟨resolved, answer, hresolve, havailable, hanswers.perm (Rows.orderBy_perm _ _), ?_⟩
  intro snapshots' hperm
  rw [resolve_perm hperm, hresolve]

theorem resolve_runHistory_plain :
    ∃ resolved answer,
      resolve Python.plain Pydantic.plain .activated
        (some (runHistory Pydantic.plain Database.created Calls.plain)) [.plain] = .ok resolved ∧
      resolved.authority_available = true ∧
      Answers Python.plain Pydantic.plain
        (runHistory Pydantic.plain Database.created Calls.plain)
        ([ManagedResourceProjection.plain].filter fun p => !p.missing) resolved.resources answer ∧
      ∀ snapshots', snapshots'.Perm [.plain] →
        resolve Python.plain Pydantic.plain .activated
          (some (runHistory Pydantic.plain Database.created Calls.plain)) snapshots' =
            .ok resolved := by
  refine resolve_runHistory ?_ _ ?_
  · rw [Calls.plain_legacyIds]
    exact disjoint_bot_right
  · intro p hp _
    rw [List.mem_singleton.mp hp]
    change "100".length ≤ 200
    decide

/-- A live resource whose identity is too long makes `resolve` raise. -/
theorem resolve_long (h : Accepted py pd db) {p : ManagedResourceProjection}
    (hlive : p.missing = false) (hlong : 200 < p.resource_id.length) :
    resolve py pd .activated (some db) [p] = .error (.python (fieldError "resource_id")) := by
  obtain ⟨histories, hhistories, hread⟩ := h.readSnapshot
  have hordered : ordered [p] = [p] := by
    simp [ordered, hlive, Rows.orderBy_eq_self]
  have hcreate (active : List ProviderIntentRecord)
      (legacy : String → String → Option ProviderIntentValue) :
      resolveOne active legacy p = .error (.python (fieldError "resource_id")) := by
    obtain ⟨hprovider, htype, hid⟩ := @resolution_coordinate active legacy p
    have hlength : lengthWithin 1 200 p.resource_id = false := by
      simp [lengthWithin, hlong]
    have hvalidate : (resolution active legacy p).modelValidate =
        .error (fieldError "resource_id") := by
      unfold ProviderIntentResolution.modelValidate
      rw [hprovider, htype, hid, p.provider, hlength, decide_eq_true p.resource.2]
      rfl
    rw [resolveOne, ProviderIntentResolution.create, hvalidate]
    rfl
  have hraise : resolveLive py pd .activated db [p] =
      .error (.python (fieldError "resource_id")) := by
    unfold resolveLive
    rw [hread, ok_bind]
    dsimp only
    rw [List.mapM_cons, hcreate]
    rfl
  unfold resolve
  rw [if_neg (by decide), hordered]
  dsimp only
  rw [hraise]
  rfl

/-- The empty store and a live virtual machine with an identity of 201 digits. -/
theorem resolve_raises :
    resolve Python.plain Pydantic.plain .activated
        (some (runHistory Pydantic.plain Database.created ([] : Calls Python.plain))) [.long] =
      .error (.python (fieldError "resource_id")) :=
  resolve_long (created_kept ∅).accepted rfl (by
    change 200 < (String.ofList (List.replicate 201 '1')).length
    rw [String.length_ofList, List.length_replicate]
    decide)

end AtlasOS.ProviderIntents
