import AtlasOS.Agent.Persistence

/-!
# Atomicity of aggregate mutations

A mutation that raises is expected to leave the stores and the snapshot as they
were, and one that returns to leave a snapshot that reads back as the stores.
The write exchanges the file before it synchronizes the directory, so a failure
of that last part is the one that keeps the stores and not the file.
-/

namespace AtlasOS.Agent.Coordinator

open Effect

variable {py : Python} {Ctx α : Type} {c : Coordinator Ctx} {mutation : Mutation py Ctx α}
  {s : System py Ctx}

/-- Whether a mutation is atomic: all of it is seen in the stores and in the snapshot, or
nothing. -/
def MutatesAtomically (c : Coordinator Ctx) (fault : Option WriteStep)
    (mutation : Mutation py Ctx α) (s : System py Ctx) : Prop :=
  match exec (c.mutateAggregate fault mutation) s with
  | (.error _, s') => s'.live = s.live ∧ s'.snapshot = s.snapshot
  | (.ok _, s') => ∃ payload, s'.snapshot = .json (.obj payload) ∧
      decodePayload c.context_model payload = .ok s'.live.redact

/-- Whether the write of what a mutation leaves is safe: a failure that comes after the
replacement of the file finds it unchanged, and without a failure the payload reads back. -/
def WritesSafely (c : Coordinator Ctx) (fault : Option WriteStep) (mutation : Mutation py Ctx α)
    (s : System py Ctx) : Prop :=
  ∀ result candidate payload, Commits c mutation s result candidate payload →
    match fault with
    | none => candidate.WellDigested ∧ candidate.NoLegacyShell
    | some w => w.afterReplace = true → s.snapshot = .json (.obj payload)

theorem Commits.unique {result result' : α} {candidate candidate' : Aggregate py Ctx}
    {payload payload' : Fields} (h : Commits c mutation s result candidate payload)
    (h' : Commits c mutation s result' candidate' payload') :
    result = result' ∧ candidate = candidate' ∧ payload = payload' := by
  obtain ⟨hreturned, hvalid, hencoded⟩ := h
  obtain ⟨hreturned', hvalid', hencoded'⟩ := h'
  rw [hreturned, Except.ok.injEq, Prod.mk.injEq] at hreturned'
  obtain ⟨rfl, rfl⟩ := hreturned'
  rw [hencoded, Except.ok.injEq] at hencoded'
  exact ⟨rfl, rfl, hencoded'⟩

/-- A mutation that does not commit is atomic. -/
theorem mutatesAtomically_of_not_commits {fault : Option WriteStep}
    (h : ∀ result candidate payload, ¬Commits c mutation s result candidate payload) :
    MutatesAtomically c fault mutation s := by
  obtain ⟨e, he⟩ := exec_mutateAggregate_of_not_commits h fault
  rw [MutatesAtomically, he]
  exact ⟨rfl, rfl⟩

/-- A mutation that commits without a failure is atomic when its payload reads back. -/
theorem Commits.mutatesAtomically_none {result : α} {candidate : Aggregate py Ctx}
    {payload : Fields} (h : Commits c mutation s result candidate payload) :
    MutatesAtomically c none mutation s ↔ candidate.WellDigested ∧ candidate.NoLegacyShell := by
  rw [MutatesAtomically, h.exec_none, ← h.accepted.decode_redact_iff]
  constructor
  · rintro ⟨payload', hsame, hdecode⟩
    cases hsame
    exact hdecode
  · exact fun hdecode => ⟨payload, rfl, hdecode⟩

/-- A mutation whose write fails is atomic when the file is the same before and after. -/
theorem Commits.mutatesAtomically_some {result : α} {candidate : Aggregate py Ctx}
    {payload : Fields} (h : Commits c mutation s result candidate payload) (w : WriteStep) :
    MutatesAtomically c (some w) mutation s ↔
      (w.afterReplace = true → s.snapshot = .json (.obj payload)) := by
  obtain ⟨e, he⟩ := h.exec_some w
  rw [MutatesAtomically, he]
  cases w.afterReplace with
  | false => simp
  | true => simp [eq_comm]

/-- A mutation is atomic exactly when its write is safe. -/
theorem mutatesAtomically_iff (fault : Option WriteStep) (mutation : Mutation py Ctx α)
    (s : System py Ctx) : MutatesAtomically c fault mutation s ↔ WritesSafely c fault mutation s := by
  by_cases hcommits : ∃ result candidate payload, Commits c mutation s result candidate payload
  · obtain ⟨result, candidate, payload, h⟩ := hcommits
    have hsafe : WritesSafely c fault mutation s ↔
        match fault with
        | none => candidate.WellDigested ∧ candidate.NoLegacyShell
        | some w => w.afterReplace = true → s.snapshot = .json (.obj payload) := by
      constructor
      · exact fun hsafe => hsafe result candidate payload h
      · intro hcase result' candidate' payload' h'
        obtain ⟨-, rfl, rfl⟩ := h.unique h'
        exact hcase
    rw [hsafe]
    cases fault with
    | none => exact h.mutatesAtomically_none
    | some w => exact h.mutatesAtomically_some w
  · push Not at hcommits
    refine ⟨fun _ result candidate payload h => absurd h (hcommits result candidate payload),
      fun _ => mutatesAtomically_of_not_commits hcommits⟩

/-! ## A failing synchronization of the directory -/

/-- The publication of a sprint. -/
def publication : Mutation .plain Fields Unit :=
  Aggregate.publishSprint
    { checkpoint_id := "checkpoint", title := "Title", goal := "Goal", phase := .planned }

/-- A publication whose directory is not synchronized keeps the stores and changes the
snapshot. -/
theorem not_mutatesAtomically_syncDirectory :
    ¬MutatesAtomically plain (some .syncDirectory) publication fresh := by
  have hcommits : Commits plain publication fresh ()
      { Aggregate.empty .plain Fields with
        sprint := some
          { checkpoint_id := "checkpoint", title := "Title", goal := "Goal", phase := .planned } }
      (payloadFields .fields _) :=
    ⟨rfl, ⟨rfl, rfl⟩⟩
  intro h
  have hsame := (hcommits.mutatesAtomically_some .syncDirectory).mp h rfl
  cases hsame

end AtlasOS.Agent.Coordinator
