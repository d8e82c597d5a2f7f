import AtlasOS.Connections.Service
import AtlasOS.Lib.Runtime

/-!
# Updates that meet at the connection test

A call touches the sections and the registered provider of its own identifier
only. When it fails, it restores what it read before its connection test: this
takes nothing away exactly when both sections were there and nothing of the
provider changed in the meantime. In every run whose failing calls meet this,
each provider is as the last successful update left it.
-/

namespace AtlasOS.Connections

variable {P : Type} {env : Environment P}

/-! ## Running a program -/

namespace Update

variable {α β : Type}

theorem exec_bind (program : Update env α) (next : α → Update env β) (s : State env) :
    exec (program >>= next) s =
      match exec program s with
      | (.ok a, s') => exec (next a) s'
      | (.error e, s') => (.error e, s') := by
  simp only [exec, ExceptT.run_bind, StateT.run_bind]
  change (match program.run.run s with | (a, s') => _) = _
  rcases program.run.run s with ⟨_ | a, s'⟩ <;> rfl

@[simp] theorem exec_lift (result : Except ServiceError α) (s : State env) :
    exec (lift result) s = (result, s) := rfl

@[simp] theorem exec_readValues (provider_id : String) (s : State env) :
    exec (readValues provider_id) s =
      (.ok (s.connections.mapping provider_id, s.secrets.mapping provider_id), s) := rfl

@[simp] theorem exec_pure (a : α) (s : State env) : exec (pure a : Update env α) s = (.ok a, s) := rfl

theorem exec_bind_eq_ok {program : Update env α} {next : α → Update env β} {s s' : State env} {b : β} :
    exec (program >>= next) s = (.ok b, s') ↔
      ∃ a t, exec program s = (.ok a, t) ∧ exec (next a) t = (.ok b, s') := by
  rw [exec_bind]
  rcases exec program s with ⟨_ | a, t⟩
  · simp
  · simp

end Update

theorem exec_writeConnections_none {change : Document Json → Except PyError (Document Json)}
    {s : State env} {document : Document Json} (h : change s.connections = .ok document) :
    (writeConnections .none change).exec s = (.ok (), { s with connections := document }) := by
  simp only [Update.exec, writeConnections, ExceptT.run_mk, StateT.run, h]

theorem exec_writeSecrets_none {change : Document String → Except PyError (Document String)}
    {s : State env} {document : Document String} (h : change s.secrets = .ok document) :
    (writeSecrets .none change).exec s = (.ok (), { s with secrets := document }) := by
  simp only [Update.exec, writeSecrets, ExceptT.run_mk, StateT.run, h]

theorem exec_writeConnections_eq_ok {fault : WriteFault}
    {change : Document Json → Except PyError (Document Json)} {s t : State env}
    (h : (writeConnections fault change).exec s = (.ok (), t)) :
    ∃ document, change s.connections = .ok document ∧ t = { s with connections := document } := by
  cases fault <;> cases hchange : change s.connections <;>
    simp only [Update.exec, writeConnections, ExceptT.run_mk, StateT.run, hchange, Prod.mk.injEq,
      reduceCtorEq, false_and, true_and] at h
  exact ⟨_, rfl, h.symm⟩

theorem exec_writeSecrets_eq_ok {fault : WriteFault}
    {change : Document String → Except PyError (Document String)} {s t : State env}
    (h : (writeSecrets fault change).exec s = (.ok (), t)) :
    ∃ document, change s.secrets = .ok document ∧ t = { s with secrets := document } := by
  cases fault <;> cases hchange : change s.secrets <;>
    simp only [Update.exec, writeSecrets, ExceptT.run_mk, StateT.run, hchange, Prod.mk.injEq,
      reduceCtorEq, false_and, true_and] at h
  exact ⟨_, rfl, h.symm⟩

theorem exec_registerProvider_none (p : P) (s : State env) :
    (registerProvider none p).exec s = (.ok (), { s with registry := s.registry.replace p }) := rfl

theorem exec_registerProvider_eq_ok {fault : Option PyError} {p : P} {s t : State env}
    (h : (registerProvider fault p).exec s = (.ok (), t)) :
    t = { s with registry := s.registry.replace p } := by
  cases fault with
  | some error => cases h
  | none => exact (congrArg Prod.snd h).symm

/-! ## What a call does not touch -/

/-- Two states that differ in one provider at most. -/
structure AgreeOff (provider_id : String) (s t : State env) : Prop where
  connections : ∀ id, provider_id ≠ id → t.connections.get id = s.connections.get id
  secrets : ∀ id, provider_id ≠ id → t.secrets.get id = s.secrets.get id
  registry : ∀ id, provider_id ≠ id → t.registry.get id = s.registry.get id
  calls : t.calls = s.calls

namespace AgreeOff

variable {provider_id : String} {s t u : State env}

theorem refl (s : State env) : AgreeOff provider_id s s :=
  ⟨fun _ _ => rfl, fun _ _ => rfl, fun _ _ => rfl, rfl⟩

theorem trans (hst : AgreeOff provider_id s t) (htu : AgreeOff provider_id t u) :
    AgreeOff provider_id s u where
  connections id h := (htu.connections id h).trans (hst.connections id h)
  secrets id h := (htu.secrets id h).trans (hst.secrets id h)
  registry id h := (htu.registry id h).trans (hst.registry id h)
  calls := htu.calls.trans hst.calls

end AgreeOff

/-- A program that touches one provider at most, whose errors are no refusals, and that does not
depend on the calls that wait. -/
structure Confined {α : Type} (provider_id : String) (program : Update env α) : Prop where
  agree : ∀ s, AgreeOff provider_id s (program.exec s).2
  error : ∀ s e, (program.exec s).1 = .error e → e.isRefusal = false
  blind : ∀ s calls, program.exec { s with calls } =
    ((program.exec s).1, { (program.exec s).2 with calls })

section Confined

variable {α β : Type} {provider_id : String}

theorem confined_bind {program : Update env α} {next : α → Update env β}
    (h : Confined provider_id program) (hnext : ∀ a, Confined provider_id (next a)) :
    Confined provider_id (program >>= next) := by
  constructor
  · intro s
    have hfirst := h.agree s
    rw [Update.exec_bind]
    rcases hexec : program.exec s with ⟨_ | a, t⟩
    · rw [hexec] at hfirst
      exact hfirst
    · rw [hexec] at hfirst
      exact hfirst.trans ((hnext a).agree t)
  · intro s e herror
    have hfirst := h.error s
    rw [Update.exec_bind] at herror
    rcases hexec : program.exec s with ⟨e' | a, t⟩
    · rw [hexec] at hfirst herror
      cases herror
      exact hfirst _ rfl
    · rw [hexec] at herror
      exact (hnext a).error t e herror
  · intro s calls
    rw [Update.exec_bind, Update.exec_bind, h.blind]
    rcases program.exec s with ⟨_ | a, t⟩
    · rfl
    · exact (hnext a).blind t calls

theorem confined_ite {c : Prop} [Decidable c] {program program' : Update env α}
    (h : Confined provider_id program) (h' : Confined provider_id program') :
    Confined provider_id (if c then program else program') := by
  split
  · exact h
  · exact h'

theorem confined_lift {result : Except ServiceError α}
    (h : ∀ e, result = .error e → e.isRefusal = false) :
    Confined provider_id (Update.lift result : Update env α) :=
  ⟨fun s => AgreeOff.refl s, fun _ e herror => h e herror, fun _ _ => rfl⟩

theorem confined_pure {a : α} : Confined provider_id (pure a : Update env α) :=
  confined_lift fun _ h => by cases h

theorem confined_readValues {id : String} :
    Confined provider_id (Update.readValues id : Update env _) where
  agree s := AgreeOff.refl s
  error _ _ h := by cases h
  blind _ _ := rfl

theorem confined_writeConnections {fault : WriteFault}
    {change : Document Json → Except PyError (Document Json)}
    (h : ∀ document document', change document = .ok document' →
      ∀ id, provider_id ≠ id → document'.get id = document.get id) :
    Confined provider_id (writeConnections fault change : Update env Unit) := by
  constructor
  · intro s
    have hok (document : Document Json) (hchange : change s.connections = .ok document) :
        AgreeOff provider_id s { s with connections := document } :=
      ⟨h _ _ hchange, fun _ _ => rfl, fun _ _ => rfl, rfl⟩
    cases fault <;> cases hchange : change s.connections <;>
      simp only [Update.exec, writeConnections, ExceptT.run_mk, StateT.run, hchange] <;>
      first | exact AgreeOff.refl s | exact hok _ hchange
  · intro s e herror
    cases fault <;> cases hchange : change s.connections <;>
      simp only [Update.exec, writeConnections, ExceptT.run_mk, StateT.run, hchange,
        Except.error.injEq, reduceCtorEq] at herror <;> rw [← herror] <;> rfl
  · intro s calls
    cases fault <;> cases hchange : change s.connections <;>
      simp only [Update.exec, writeConnections, ExceptT.run_mk, StateT.run, hchange]

theorem confined_writeSecrets {fault : WriteFault}
    {change : Document String → Except PyError (Document String)}
    (h : ∀ document document', change document = .ok document' →
      ∀ id, provider_id ≠ id → document'.get id = document.get id) :
    Confined provider_id (writeSecrets fault change : Update env Unit) := by
  constructor
  · intro s
    have hok (document : Document String) (hchange : change s.secrets = .ok document) :
        AgreeOff provider_id s { s with secrets := document } :=
      ⟨fun _ _ => rfl, h _ _ hchange, fun _ _ => rfl, rfl⟩
    cases fault <;> cases hchange : change s.secrets <;>
      simp only [Update.exec, writeSecrets, ExceptT.run_mk, StateT.run, hchange] <;>
      first | exact AgreeOff.refl s | exact hok _ hchange
  · intro s e herror
    cases fault <;> cases hchange : change s.secrets <;>
      simp only [Update.exec, writeSecrets, ExceptT.run_mk, StateT.run, hchange,
        Except.error.injEq, reduceCtorEq] at herror <;> rw [← herror] <;> rfl
  · intro s calls
    cases fault <;> cases hchange : change s.secrets <;>
      simp only [Update.exec, writeSecrets, ExceptT.run_mk, StateT.run, hchange]

theorem confined_registerProvider {fault : Option PyError} {p : P} (h : env.id p = provider_id) :
    Confined provider_id (registerProvider fault p : Update env Unit) := by
  constructor
  · intro s
    cases fault with
    | some error => exact AgreeOff.refl s
    | none =>
      refine ⟨fun _ _ => rfl, fun _ _ => rfl, fun id hid => ?_, rfl⟩
      exact s.registry.get_replace_of_ne (h ▸ hid)
  · intro s e herror
    cases fault with
    | some error =>
      cases herror
      rfl
    | none => cases herror
  · intro s calls
    cases fault <;> rfl

end Confined

/-- A call is for the identifier of a provider. -/
theorem Call.isSlug_provider_id (call : Call env) : isSlug call.provider_id = true :=
  call.registered ▸ env.isSlug_id call.old_provider

theorem Call.validate_provider_id (call : Call env) :
    validateProviderId call.provider_id = .ok call.provider_id :=
  validateProviderId_of_isSlug call.isSlug_provider_id

theorem confined_writeValues (call : Call env) (attempt : Attempt P)
    (values : Fields × List (String × String)) :
    Confined call.provider_id (writeValues call attempt values) := by
  have hid := call.validate_provider_id
  refine confined_bind (confined_ite confined_pure (confined_writeConnections ?_)) fun _ =>
    confined_ite confined_pure (confined_writeSecrets ?_)
  · intro document document' h id hne
    simp only [updateConnectionValues, hid, ok_bind, check_bind_eq_ok, pure_eq_ok,
      Except.ok.injEq] at h
    rw [← h.2, document.get_merge_of_ne _ hne]
  · intro document document' h id hne
    simp only [updateProviderSecrets, hid, ok_bind, bind_eq_ok, pure_eq_ok, Except.ok.injEq] at h
    obtain ⟨items, -, rfl⟩ := h
    exact document.get_merge_of_ne _ hne

theorem confined_replaceProvider (call : Call env) (attempt : Attempt P) :
    Confined call.provider_id (replaceProvider call attempt) := by
  refine confined_bind confined_readValues fun stored =>
    confined_bind (confined_lift ?_) fun replacement => ?_
  · intro e h
    cases hbuild : attempt.build stored.1 stored.2 with
    | error error =>
      rw [hbuild] at h
      cases h
      rfl
    | ok p =>
      rw [hbuild] at h
      cases h
  · by_cases h : env.id replacement = call.provider_id
    · rw [if_pos h]
      exact confined_registerProvider h
    · rw [if_neg h]
      refine confined_lift fun e h => ?_
      cases h
      rfl

/-- Splitting the values of a request raises no refusal. -/
theorem isRefusal_of_splitValues {schema : ConnectionSchema} {values : Fields} {e : ServiceError}
    (h : splitValues env schema values = .error e) : e.isRefusal = false := by
  have hfold (split : Fields × List (String × String))
      (h : values.foldlM (splitValue env schema) split = .error e) : e.isRefusal = false := by
    clear * - h
    induction values generalizing split with
    | nil => cases h
    | cons item values ih =>
      rw [List.foldlM_cons] at h
      cases hitem : splitValue env schema split item with
      | error error =>
        rw [hitem] at h
        cases h
        unfold splitValue at hitem
        split at hitem
        · cases hitem
          rfl
        · split_ifs at hitem
          split at hitem
          case h_4 => split_ifs at hitem
          all_goals
            cases hitem
            try rfl
      | ok next =>
        rw [hitem] at h
        exact ih next h
  exact hfold _ h

/-- The part of a call after the connection test touches its own provider only. -/
theorem confined_applyUpdate (call : Call env) (attempt : Attempt P) :
    Confined call.provider_id (applyUpdate call attempt) :=
  confined_bind (confined_lift fun _ => isRefusal_of_splitValues) fun values =>
    confined_bind (confined_writeValues call attempt values) fun _ =>
      confined_replaceProvider call attempt

/-- When the part after the connection test goes through, the registered provider was built from
the stored values. -/
theorem built_of_applyUpdate {call : Call env} {attempt : Attempt P} {s s' : State env}
    (h : (applyUpdate call attempt).exec s = (.ok (), s')) :
    ∃ p, attempt.build (s'.connections.mapping call.provider_id)
        (s'.secrets.mapping call.provider_id) = .ok p ∧
      s'.registry.get call.provider_id = some p := by
  obtain ⟨values, t, -, h⟩ := Update.exec_bind_eq_ok.mp h
  obtain ⟨⟨⟩, u, -, h⟩ := Update.exec_bind_eq_ok.mp h
  obtain ⟨v, w, hread, h⟩ := Update.exec_bind_eq_ok.mp h
  obtain ⟨p, x, hbuild, h⟩ := Update.exec_bind_eq_ok.mp h
  rw [Update.exec_readValues, Prod.mk.injEq, Except.ok.injEq] at hread
  obtain ⟨rfl, rfl⟩ := hread
  rw [Update.exec_lift, Prod.mk.injEq] at hbuild
  obtain ⟨hbuild, rfl⟩ := hbuild
  replace hbuild := mapError_eq_ok.mp hbuild
  by_cases hid : env.id p = call.provider_id
  · rw [if_pos hid] at h
    rw [exec_registerProvider_eq_ok h]
    exact ⟨p, hbuild, hid ▸ Registry.get_replace _ p⟩
  · rw [if_neg hid] at h
    cases h

/-! ## What a rollback restores -/

/-- What a failing call would restore is what is there, and restoring does not fail. -/
structure Undoable (call : Call env) (attempt : Attempt P) (s : State env) : Prop where
  connections : s.connections.get call.provider_id = some (some call.previous_connection)
  secrets : s.secrets.get call.provider_id = some (some call.previous_secrets)
  registry : s.registry.get call.provider_id = some call.old_provider
  connectionKeys : validateConnectionValues (call.previous_connection.items.map Prod.fst) = .ok ()
  secretItems : validateReplacements call.previous_secrets.items = .ok call.previous_secrets.items
  undoConnections : attempt.undoConnections = .none
  undoSecrets : attempt.undoSecrets = .none
  undoRegistry : attempt.undoRegistry = none

/-- The stores and the registry of two states are the same. -/
structure SameContent (s t : State env) : Prop where
  connections : t.connections = s.connections
  secrets : t.secrets = s.secrets
  registry : t.registry = s.registry

/-- Restoring what is there takes back everything that the call did. -/
theorem sameContent_of_rollback {call : Call env} {attempt : Attempt P} {s t : State env}
    (h : Undoable call attempt s) (hoff : AgreeOff call.provider_id s t) :
    ∃ u, (rollback call attempt).exec t = (.ok (), u) ∧ SameContent s u ∧ u.calls = t.calls := by
  have hid := call.validate_provider_id
  have hconnections (document : Document Json) :
      replaceConnectionValues document call.provider_id call.previous_connection =
        .ok (document.replace call.provider_id call.previous_connection) := by
    simp [replaceConnectionValues, hid, h.connectionKeys]
  have hsecrets (document : Document String) :
      replaceProviderSecretValues document call.provider_id call.previous_secrets =
        .ok (document.replace call.provider_id call.previous_secrets) := by
    simp [replaceProviderSecretValues, hid, h.secretItems, Dict.ofItems_items]
  refine ⟨{ t with
    connections := t.connections.replace call.provider_id call.previous_connection
    secrets := t.secrets.replace call.provider_id call.previous_secrets
    registry := t.registry.replace call.old_provider }, ?_, ⟨?_, ?_, ?_⟩, rfl⟩
  · rw [rollback, h.undoConnections, h.undoSecrets, h.undoRegistry, Update.exec_bind,
      exec_writeConnections_none (hconnections _)]
    dsimp only
    rw [Update.exec_bind, exec_writeSecrets_none (hsecrets _)]
    exact exec_registerProvider_none _ _
  · apply Dict.ext
    intro id
    by_cases heq : call.provider_id = id
    · rw [← heq, Document.get_replace, h.connections]
    · rw [Document.get_replace_of_ne _ _ heq, hoff.connections id heq]
  · apply Dict.ext
    intro id
    by_cases heq : call.provider_id = id
    · rw [← heq, Document.get_replace, h.secrets]
    · rw [Document.get_replace_of_ne _ _ heq, hoff.secrets id heq]
  · apply Registry.ext
    apply Dict.ext
    intro id
    by_cases heq : call.provider_id = id
    · have hnew : (t.registry.replace call.old_provider).get call.provider_id =
          some call.old_provider := by
        rw [← call.registered]
        exact t.registry.get_replace _
      rw [← heq]
      exact hnew.trans h.registry.symm
    · exact (t.registry.get_replace_of_ne (call.registered ▸ heq)).trans (hoff.registry id heq)

/-- Restoring takes nothing away only if what the call read is what is there. -/
theorem restored_of_rollback {call : Call env} {attempt : Attempt P} {t u : State env}
    (h : (rollback call attempt).exec t = (.ok (), u)) :
    u.connections.get call.provider_id = some (some call.previous_connection) ∧
      u.registry.get call.provider_id = some call.old_provider := by
  have hid := call.validate_provider_id
  obtain ⟨⟨⟩, v, hconnections, h⟩ := Update.exec_bind_eq_ok.mp h
  obtain ⟨⟨⟩, w, hsecrets, h⟩ := Update.exec_bind_eq_ok.mp h
  obtain ⟨document, hdocument, rfl⟩ := exec_writeConnections_eq_ok hconnections
  obtain ⟨secrets, -, rfl⟩ := exec_writeSecrets_eq_ok hsecrets
  rw [exec_registerProvider_eq_ok h]
  simp only [replaceConnectionValues, hid, ok_bind, check_bind_eq_ok, pure_eq_ok,
    Except.ok.injEq] at hdocument
  obtain ⟨-, rfl⟩ := hdocument
  refine ⟨Document.get_replace _ _ _, ?_⟩
  rw [← call.registered]
  exact Registry.get_replace _ _

theorem SameContent.refl (s : State env) : SameContent s s := ⟨rfl, rfl, rfl⟩

theorem SameContent.trans {s t u : State env} (hst : SameContent s t) (htu : SameContent t u) :
    SameContent s u :=
  ⟨htu.connections.trans hst.connections, htu.secrets.trans hst.secrets,
    htu.registry.trans hst.registry⟩

theorem SameContent.symm {s t : State env} (h : SameContent s t) : SameContent t s :=
  ⟨h.connections.symm, h.secrets.symm, h.registry.symm⟩

/-! ## One step -/

/-- A step loses nothing: when its call fails and restores what it read, that is what is there,
and when it goes through, the new provider manages its connection as well. -/
def Sound (s : State env) (event : Event P) : Prop :=
  match progress s event with
  | .over _ _ => True
  | .ended call attempt (.error error) _ => error.isRefusal = false → Undoable call attempt s
  | .ended call _ (.ok ()) t =>
      ((t.registry.get call.provider_id).bind env.schema).isSome = true

/-- What the `try` block of a call has done when it ends. -/
theorem progress_ended {s t : State env} {event : Event P} {call : Call env} {attempt : Attempt P}
    {result : Except ServiceError Unit} (h : progress s event = .ended call attempt result t) :
    ∃ s₀ : State env, SameContent s s₀ ∧ (∀ id ≠ event.call, s₀.calls id = s.calls id) ∧
      ((∃ error, result = .error error ∧ t = s₀) ∨
        (applyUpdate call attempt).exec s₀ = (result, t)) := by
  cases event with
  | start id provider_id request require_test readFault attempt' =>
    simp only [progress] at h
    split at h
    · cases h
    · cases h
    · split at h
      · cases h
        exact ⟨s, .refl s, fun _ _ => rfl, .inl ⟨_, rfl, rfl⟩⟩
      · split_ifs at h
        cases h
        exact ⟨s, .refl s, fun _ _ => rfl, .inr rfl⟩
  | resume id answer attempt' =>
    simp only [progress] at h
    split at h
    · cases h
    · let closed : State env := { s with calls := Function.update s.calls id none }
      have hcalls (other : ℕ) (hne : other ≠ id) : closed.calls other = s.calls other :=
        Function.update_of_ne hne _ _
      split at h
      · cases h
      · cases h
        exact ⟨closed, ⟨rfl, rfl, rfl⟩, hcalls, .inl ⟨_, rfl, rfl⟩⟩
      · cases h
        exact ⟨closed, ⟨rfl, rfl, rfl⟩, hcalls, .inl ⟨_, rfl, rfl⟩⟩
      · cases h
        exact ⟨closed, ⟨rfl, rfl, rfl⟩, hcalls, .inr rfl⟩
      · cases h
        exact ⟨closed, ⟨rfl, rfl, rfl⟩, hcalls, .inr rfl⟩

/-- A step that is over before anything is written. -/
theorem progress_over {s t : State env} {event : Event P} {outcome : Outcome}
    (h : progress s event = .over outcome t) :
    SameContent s t ∧ ∀ provider_id, outcome ≠ .succeeded provider_id := by
  cases event with
  | start id provider_id request require_test readFault attempt =>
    simp only [progress] at h
    split at h
    · cases h
      exact ⟨.refl s, fun _ h => by cases h⟩
    · cases h
      exact ⟨.refl s, fun _ h => by cases h⟩
    · split at h
      · cases h
      · split_ifs at h
        cases h
        exact ⟨⟨rfl, rfl, rfl⟩, fun _ h => by cases h⟩
  | resume id answer attempt =>
    simp only [progress] at h
    split at h
    · cases h
      exact ⟨.refl s, fun _ h => by cases h⟩
    · split at h <;> cases h
      exact ⟨⟨rfl, rfl, rfl⟩, fun _ h => by cases h⟩

theorem attempt_of_progress {s t : State env} {event : Event P} {call : Call env}
    {attempt : Attempt P} {result : Except ServiceError Unit}
    (h : progress s event = .ended call attempt result t) : attempt = event.attempt := by
  cases event with
  | start id provider_id request require_test readFault attempt' =>
    simp only [progress] at h
    split at h
    · cases h
    · cases h
    · split at h
      · cases h
        rfl
      · split_ifs at h
        cases h
        rfl
  | resume id answer attempt' =>
    simp only [progress] at h
    split at h
    · cases h
    · split at h <;> cases h <;> rfl

/-- A refusal comes before anything was written. -/
theorem sameContent_of_refusal {s t : State env} {event : Event P} {call : Call env}
    {attempt : Attempt P} {error : ServiceError}
    (h : progress s event = .ended call attempt (.error error) t) (herror : error.isRefusal = true) :
    SameContent s t := by
  obtain ⟨s₀, hsame, -, ⟨_, -, rfl⟩ | hexec⟩ := progress_ended h
  · exact hsame
  · have hno := (confined_applyUpdate call attempt).error s₀ error (by rw [hexec])
    rw [herror] at hno
    cases hno

/-- The states of one provider. -/
structure View (P : Type) where
  connection : Option (Option (Dict Json))
  secrets : Option (Option (Dict String))
  provider : Option P

/-- What the stores and the registry hold for one provider. -/
def view (s : State env) (provider_id : String) : View P where
  connection := s.connections.get provider_id
  secrets := s.secrets.get provider_id
  provider := s.registry.get provider_id

theorem view_of_sameContent {s t : State env} (h : SameContent s t) : view t = view s := by
  funext id
  simp only [view, h.connections, h.secrets, h.registry]

/-- A step after which the call did not succeed, when it is sound, leaves every content as it
was. -/
theorem sameContent_of_step {s : State env} {event : Event P} (hsound : Sound s event)
    (hfail : ∀ provider_id, (step s event).1 ≠ .succeeded provider_id) :
    SameContent s (step s event).2 := by
  unfold step at hfail ⊢
  unfold Sound at hsound
  cases hprogress : progress s event with
  | «over» outcome t => exact (progress_over hprogress).1
  | ended call attempt result t =>
    rw [hprogress] at hsound hfail
    simp only at hsound hfail ⊢
    cases result with
    | error error =>
      by_cases hrefusal : error.isRefusal = true
      · simp only [conclude, if_pos hrefusal]
        exact sameContent_of_refusal hprogress hrefusal
      · have hundo := hsound (by simpa using hrefusal)
        obtain ⟨s₀, hsame, -, hend⟩ := progress_ended hprogress
        have hundo₀ : Undoable call attempt s₀ :=
          { hundo with
            connections := hsame.connections ▸ hundo.connections
            secrets := hsame.secrets ▸ hundo.secrets
            registry := hsame.registry ▸ hundo.registry }
        have hoff : AgreeOff call.provider_id s₀ t := by
          rcases hend with ⟨_, -, rfl⟩ | hexec
          · exact .refl t
          · have hagree := (confined_applyUpdate call attempt).agree s₀
            rwa [hexec] at hagree
        obtain ⟨u, hexec, hrestored, -⟩ := sameContent_of_rollback hundo₀ hoff
        simp only [conclude, if_neg hrefusal, hexec]
        exact hsame.trans hrestored
    | ok value =>
      obtain ⟨⟩ := value
      simp only at hsound
      cases hschema : (t.registry.get call.provider_id).bind env.schema with
      | none =>
        rw [hschema] at hsound
        cases hsound
      | some schema =>
        exact absurd (by simp only [conclude, hschema]) (hfail call.provider_id)

/-- A step after which the call succeeded changed its own provider only, and registered the one
built from the stored values. -/
theorem step_succeeded {s : State env} {event : Event P} {provider_id : String}
    (h : (step s event).1 = .succeeded provider_id) :
    (∀ id, provider_id ≠ id → view (step s event).2 id = view s id) ∧
      ∃ p, event.attempt.build ((step s event).2.connections.mapping provider_id)
          ((step s event).2.secrets.mapping provider_id) = .ok p ∧
        (step s event).2.registry.get provider_id = some p := by
  unfold step at h ⊢
  cases hprogress : progress s event with
  | «over» outcome t =>
    rw [hprogress] at h
    exact absurd h ((progress_over hprogress).2 provider_id)
  | ended call attempt result t =>
    rw [hprogress] at h
    simp only at h ⊢
    have hattempt : attempt = event.attempt := attempt_of_progress hprogress
    obtain ⟨s₀, hsame, -, hend⟩ := progress_ended hprogress
    cases result with
    | error error =>
      simp only [conclude] at h
      split_ifs at h
      split at h <;> cases h
    | ok value =>
      obtain ⟨⟩ := value
      rcases hend with ⟨_, herror, -⟩ | hexec
      · cases herror
      · have hbuilt := built_of_applyUpdate hexec
        have hagree := (confined_applyUpdate call attempt).agree s₀
        rw [hexec] at hagree
        simp only [conclude] at h ⊢
        split at h
        · cases h
        · cases h
          refine ⟨fun id hid => ?_, hattempt ▸ hbuilt⟩
          simp only [view, hagree.connections id hid, hagree.secrets id hid,
            hagree.registry id hid, hsame.connections, hsame.secrets, hsame.registry]

/-! ## Runs -/

/-- The state after a sequence of events. -/
def run (s : State env) : List (Event P) → State env
  | [] => s
  | event :: events => run (step s event).2 events

/-- Every step of a run loses nothing. -/
def SoundRun (s : State env) : List (Event P) → Prop
  | [] => True
  | event :: events => Sound s event ∧ SoundRun (step s event).2 events

/-- What the last successful update of a provider left, and what it built the provider with. -/
structure Credit (P : Type) where
  view : View P
  build : Option (Dict Json → Dict String → Except PyError P)

/-- What each provider is owed after a run: what its last successful update left. -/
def credit (s : State env) (owed : String → Credit P) : List (Event P) → String → Credit P
  | [] => owed
  | event :: events =>
      credit (step s event).2
        (match (step s event).1 with
        | .succeeded id =>
            Function.update owed id ⟨view (step s event).2 id, some event.attempt.build⟩
        | _ => owed) events

/-- Before any update, a provider is owed what is there. -/
def initialCredit (s : State env) (id : String) : Credit P := ⟨view s id, none⟩

/-- The calls that succeed in a run. -/
def succeededCalls (s : State env) : List (Event P) → List ℕ
  | [] => []
  | event :: events =>
      match (step s event).1 with
      | .succeeded _ => event.call :: succeededCalls (step s event).2 events
      | _ => succeededCalls (step s event).2 events

/-- What is owed is there, and the registered provider was built from the stored values. -/
structure Honoured (s : State env) (owed : String → Credit P) : Prop where
  view : ∀ id, view s id = (owed id).view
  built : ∀ id build, (owed id).build = some build →
    ∃ p, build (s.connections.mapping id) (s.secrets.mapping id) = .ok p ∧
      s.registry.get id = some p

theorem Honoured.of_view {s t : State env} {owed : String → Credit P} {id : String}
    (h : Honoured s owed) (hview : Connections.view t id = Connections.view s id) :
    Connections.view t id = (owed id).view ∧ ∀ build, (owed id).build = some build →
      ∃ p, build (t.connections.mapping id) (t.secrets.mapping id) = .ok p ∧
        t.registry.get id = some p := by
  refine ⟨hview.trans (h.view id), fun build hbuild => ?_⟩
  simp only [Connections.view, View.mk.injEq] at hview
  obtain ⟨hconnections, hsecrets, hregistry⟩ := hview
  have hmapping : t.connections.mapping id = s.connections.mapping id ∧
      t.secrets.mapping id = s.secrets.mapping id := by
    simp only [Document.mapping, hconnections, hsecrets, and_self]
  rw [hmapping.1, hmapping.2, hregistry]
  exact h.built id build hbuild

/-- A sound step keeps what is owed. -/
theorem Honoured.step {s : State env} {owed : String → Credit P} {event : Event P}
    (h : Honoured s owed) (hsound : Sound s event) :
    Honoured (Connections.step s event).2
      (match (Connections.step s event).1 with
      | .succeeded id => Function.update owed id
          ⟨Connections.view (Connections.step s event).2 id, some event.attempt.build⟩
      | _ => owed) := by
  cases houtcome : (Connections.step s event).1 with
  | succeeded provider_id =>
    obtain ⟨hothers, hbuilt⟩ := step_succeeded houtcome
    constructor
    · intro id
      by_cases hid : id = provider_id
      · subst hid
        simp
      · simpa [Function.update_of_ne hid] using (h.of_view (hothers id (Ne.symm hid))).1
    · intro id build hbuild
      by_cases hid : id = provider_id
      · subst hid
        simp only [Function.update_self, Option.some.injEq] at hbuild
        exact hbuild ▸ hbuilt
      · simp only [Function.update_of_ne hid] at hbuild
        exact (h.of_view (hothers id (Ne.symm hid))).2 build hbuild
  | waiting | ignored | raised error =>
    have hsame := sameContent_of_step hsound (by simp [houtcome])
    have hview := view_of_sameContent hsame
    constructor
    · intro id
      exact (h.of_view (congrFun hview id)).1
    · intro id
      exact (h.of_view (congrFun hview id)).2

theorem Honoured.run {s : State env} {owed : String → Credit P} {events : List (Event P)}
    (h : Honoured s owed) (hsound : SoundRun s events) :
    Honoured (Connections.run s events) (credit s owed events) := by
  induction events generalizing s owed with
  | nil => exact h
  | cons event events ih => exact ih (h.step hsound.1) hsound.2

/-! ## The run without a call -/

/-- The restoring of a call touches its own provider only. -/
theorem confined_rollback (call : Call env) (attempt : Attempt P) :
    Confined call.provider_id (rollback call attempt) := by
  have hid := call.validate_provider_id
  refine confined_bind (confined_writeConnections ?_) fun _ =>
    confined_bind (confined_writeSecrets ?_) fun _ => confined_registerProvider call.registered
  · intro document document' h id hne
    simp only [replaceConnectionValues, hid, ok_bind, check_bind_eq_ok, pure_eq_ok,
      Except.ok.injEq] at h
    rw [← h.2, document.get_replace_of_ne _ hne]
  · intro document document' h id hne
    simp only [replaceProviderSecretValues, hid, ok_bind, bind_eq_ok, pure_eq_ok,
      Except.ok.injEq] at h
    obtain ⟨items, -, rfl⟩ := h
    exact document.get_replace_of_ne _ hne

/-- The handling of errors does not depend on the calls that wait. -/
theorem conclude_blind (call : Call env) (attempt : Attempt P) (result : Except ServiceError Unit)
    (s : State env) (calls : ℕ → Option (Call env)) :
    conclude call attempt result { s with calls } =
      ((conclude call attempt result s).1, { (conclude call attempt result s).2 with calls }) := by
  cases result with
  | error error =>
    by_cases hrefusal : error.isRefusal = true
    · simp only [conclude, if_pos hrefusal]
    · simp only [conclude, if_neg hrefusal, (confined_rollback call attempt).blind s calls]
      rcases (rollback call attempt).exec s with ⟨_ | _, t⟩ <;> rfl
  | ok value =>
    simp only [conclude]
    split <;> rfl

theorem conclude_calls (call : Call env) (attempt : Attempt P) (result : Except ServiceError Unit)
    (s : State env) : (conclude call attempt result s).2.calls = s.calls := by
  cases result with
  | error error =>
    by_cases hrefusal : error.isRefusal = true
    · simp only [conclude, if_pos hrefusal]
    · have hcalls := ((confined_rollback call attempt).agree s).calls
      simp only [conclude, if_neg hrefusal]
      rcases hexec : (rollback call attempt).exec s with ⟨_ | _, t⟩ <;> rw [hexec] at hcalls <;>
        exact hcalls
  | ok value =>
    simp only [conclude]
    split <;> rfl

/-- The end of a call, seen from a state where other calls wait. -/
theorem ended_blind (call : Call env) (attempt : Attempt P) (s : State env)
    (calls : ℕ → Option (Call env)) :
    conclude call attempt ((applyUpdate call attempt).exec { s with calls }).1
        ((applyUpdate call attempt).exec { s with calls }).2 =
      ((conclude call attempt ((applyUpdate call attempt).exec s).1
          ((applyUpdate call attempt).exec s).2).1,
        { (conclude call attempt ((applyUpdate call attempt).exec s).1
            ((applyUpdate call attempt).exec s).2).2 with calls }) := by
  rw [(confined_applyUpdate call attempt).blind s calls]
  exact conclude_blind _ _ _ _ _

theorem ended_calls (call : Call env) (attempt : Attempt P) (s : State env) :
    (conclude call attempt ((applyUpdate call attempt).exec s).1
      ((applyUpdate call attempt).exec s).2).2.calls = s.calls :=
  (conclude_calls _ _ _ _).trans ((confined_applyUpdate call attempt).agree s).calls

/-- A step changes what waits under its own call only. -/
theorem step_calls (s : State env) (event : Event P) {id : ℕ} (hid : id ≠ event.call) :
    (step s event).2.calls id = s.calls id := by
  cases event with
  | start call provider_id request require_test readFault attempt =>
    simp only [step, progress]
    cases hcalls : s.calls call with
    | some _ => rfl
    | none =>
      cases openCall s provider_id request readFault with
      | error error => rfl
      | ok opened =>
        simp only
        cases checkRequest opened with
        | error error => exact congrFun (conclude_calls _ _ _ s) id
        | ok value =>
          cases require_test with
          | false => exact congrFun (ended_calls _ _ s) id
          | true => exact Function.update_of_ne hid _ _
  | resume call answer attempt =>
    have hclosed : Function.update s.calls call none id = s.calls id := Function.update_of_ne hid _ _
    simp only [step, progress]
    cases s.calls call with
    | none => rfl
    | some opened =>
      cases answer with
      | cancelled => exact hclosed
      | raised error => exact (congrFun (conclude_calls _ _ _ _) id).trans hclosed
      | failure => exact (congrFun (conclude_calls _ _ _ _) id).trans hclosed
      | success => exact (congrFun (ended_calls _ _ _) id).trans hclosed
      | degraded => exact (congrFun (ended_calls _ _ _) id).trans hclosed

/-- A step depends on what waits under its own call only. -/
theorem step_blind (s : State env) (event : Event P) {calls : ℕ → Option (Call env)}
    (h : calls event.call = s.calls event.call) :
    ∃ calls', step { s with calls } event = ((step s event).1, { (step s event).2 with calls := calls' }) ∧
      ∀ id, calls id = s.calls id → calls' id = (step s event).2.calls id := by
  cases event with
  | start call provider_id request require_test readFault attempt =>
    have hopen : openCall { s with calls } provider_id request readFault =
        openCall s provider_id request readFault := rfl
    simp only [Event.call] at h
    simp only [step, progress, hopen, h]
    cases s.calls call with
    | some _ => exact ⟨calls, rfl, fun _ h => h⟩
    | none =>
      cases openCall s provider_id request readFault with
      | error error => exact ⟨calls, rfl, fun _ h => h⟩
      | ok opened =>
        simp only
        cases checkRequest opened with
        | error error =>
          exact ⟨calls, conclude_blind _ _ _ s calls,
            fun id h => h.trans (congrFun (conclude_calls _ _ _ s) id).symm⟩
        | ok value =>
          cases require_test with
          | false => exact ⟨calls, ended_blind _ _ s calls,
              fun id h => h.trans (congrFun (ended_calls _ _ s) id).symm⟩
          | true =>
            refine ⟨Function.update calls call (some opened), rfl, fun id h => ?_⟩
            simp only [Function.update_apply, h, if_true]
  | resume call answer attempt =>
    simp only [Event.call] at h
    simp only [step, progress, h]
    cases s.calls call with
    | none => exact ⟨calls, rfl, fun _ h => h⟩
    | some opened =>
      let closed : State env := { s with calls := Function.update s.calls call none }
      have hclosed (id : ℕ) (h : calls id = s.calls id) :
          Function.update calls call none id = closed.calls id := by
        simp only [closed, Function.update_apply, h]
      cases answer with
      | cancelled => exact ⟨_, rfl, hclosed⟩
      | raised error =>
        have hcalls := conclude_calls opened attempt (.error (.other error)) closed
        exact ⟨_, conclude_blind _ _ _ closed _, fun id h =>
          (hclosed id h).trans (congrFun hcalls id).symm⟩
      | failure =>
        have hcalls := conclude_calls opened attempt
          (.error (.operation "candidate provider connection test failed.")) closed
        exact ⟨_, conclude_blind _ _ _ closed _, fun id h =>
          (hclosed id h).trans (congrFun hcalls id).symm⟩
      | success | degraded =>
        have hcalls := ended_calls opened attempt closed
        exact ⟨_, ended_blind _ _ closed _, fun id h =>
          (hclosed id h).trans (congrFun hcalls id).symm⟩

/-- Leaving out the events of a call that never succeeds leaves every content as it is. -/
theorem run_without {s : State env} {events : List (Event P)} (hsound : SoundRun s events) {call : ℕ}
    (hcall : call ∉ succeededCalls s events) {calls : ℕ → Option (Call env)}
    (hcalls : ∀ id ≠ call, calls id = s.calls id) :
    SameContent (run s events)
      (run { s with calls } (events.filter fun event => event.call ≠ call)) := by
  induction events generalizing s calls with
  | nil => exact ⟨rfl, rfl, rfl⟩
  | cons event events ih =>
    have hrest : call ∉ succeededCalls (step s event).2 events := by
      rw [succeededCalls] at hcall
      split at hcall
      · exact fun hmem => hcall (List.mem_cons_of_mem _ hmem)
      · exact hcall
    by_cases hevent : event.call = call
    · -- The step is left out: it neither changed a content nor another waiting call.
      have hfail (provider_id : String) : (step s event).1 ≠ .succeeded provider_id := by
        intro houtcome
        rw [succeededCalls, houtcome] at hcall
        exact hcall (hevent ▸ List.mem_cons_self)
      have hsame := sameContent_of_step hsound.1 hfail
      have hstate : { s with calls } = { (step s event).2 with calls } := by
        simp only [hsame.connections, hsame.secrets, hsame.registry]
      have hfilter : (event :: events).filter (fun event => event.call ≠ call) =
          events.filter fun event => event.call ≠ call := by simp [hevent]
      rw [run, hfilter, hstate]
      refine ih hsound.2 hrest fun id hid => ?_
      rw [hcalls id hid, step_calls s event (hevent ▸ hid)]
    · obtain ⟨calls', hstep, hcalls'⟩ := step_blind s event (hcalls event.call hevent)
      have hfilter : (event :: events).filter (fun event => event.call ≠ call) =
          event :: events.filter fun event => event.call ≠ call := by simp [hevent]
      rw [run, hfilter, run, hstep]
      exact ih hsound.2 hrest fun id hid => hcalls' id (hcalls id hid)

/-- When no step of a run takes anything away, then after it each provider is as its last
successful update left it, with the registered provider built from the stored values, and the
calls that did not succeed might as well not have been made. -/
theorem update_isolated {s : State env} {events : List (Event P)} (h : SoundRun s events) :
    (∀ id, view (run s events) id = (credit s (initialCredit s) events id).view) ∧
    (∀ id build, (credit s (initialCredit s) events id).build = some build →
      ∃ p, build ((run s events).connections.mapping id) ((run s events).secrets.mapping id) = .ok p ∧
        (run s events).registry.get id = some p) ∧
    ∀ call, call ∉ succeededCalls s events →
      view (run s (events.filter fun event => event.call ≠ call)) = view (run s events) := by
  have hinitial : Honoured s (initialCredit s) := ⟨fun _ => rfl, fun _ _ h => by cases h⟩
  have hend := hinitial.run h
  refine ⟨hend.view, hend.built, fun call hcall => ?_⟩
  exact view_of_sameContent (run_without h hcall fun _ _ => rfl)

/-! ## A world to run in -/

/-- A world with one provider, whose registered forms are told apart by a flag. -/
def oneProvider : Environment Bool where
  toPython := Python.plain
  int _ := .error (.valueError "invalid literal for int()")
  id _ := "proxmox"
  schema _ := some { fields := [{ key := "host", kind := .host }] }
  isSlug_id _ := by decide

/-- The first form of the provider is registered over two stores. -/
def holding (connections : Document Json) (secrets : Document String) : State oneProvider where
  connections := connections
  secrets := secrets
  registry := ⟨(∅ : Dict Bool).set "proxmox" false, fun h => (Dict.get_set_empty.mp h).1⟩
  calls _ := none

/-- Both stores have a section for the provider. -/
def settled : State oneProvider :=
  holding ((∅ : Document Json).set "proxmox" (some ((∅ : Dict Json).set "host" (.str "a"))))
    ((∅ : Document String).set "proxmox" (some ∅))

/-- A request for another host, and an attempt that builds the second form of the provider. -/
def setHost (host : String) : UpdateRequest := { values := [("host", .str host)], confirmed := true }

@[inherit_doc setHost]
def rebuilt : Attempt Bool where
  build _ _ := .ok true

/-- A call whose connection test fails. -/
def failing (call : ℕ) : List (Event Bool) :=
  [.start call "proxmox" (setHost "b") true none rebuilt, .resume call .failure rebuilt]

/-- A call that succeeds. -/
def succeeding (call : ℕ) : List (Event Bool) :=
  [.start call "proxmox" (setHost "c") true none rebuilt, .resume call .success rebuilt]

theorem soundRun_settled : SoundRun settled (failing 0 ++ succeeding 1) := by
  refine ⟨trivial, fun _ => ⟨?_, ?_, ?_, ?_, ?_, rfl, rfl, rfl⟩, trivial, rfl, trivial⟩
  all_goals decide

/-- `update_isolated` for a failing call and a succeeding one. -/
theorem update_isolated_settled :
    (∀ id, view (run settled (failing 0 ++ succeeding 1)) id =
      (credit settled (initialCredit settled) (failing 0 ++ succeeding 1) id).view) ∧
    (∀ id build,
      (credit settled (initialCredit settled) (failing 0 ++ succeeding 1) id).build = some build →
      ∃ p, build ((run settled (failing 0 ++ succeeding 1)).connections.mapping id)
          ((run settled (failing 0 ++ succeeding 1)).secrets.mapping id) = .ok p ∧
        (run settled (failing 0 ++ succeeding 1)).registry.get id = some p) ∧
    ∀ call, call ∉ succeededCalls settled (failing 0 ++ succeeding 1) →
      view (run settled ((failing 0 ++ succeeding 1).filter fun event => event.call ≠ call)) =
        view (run settled (failing 0 ++ succeeding 1)) :=
  update_isolated soundRun_settled

/-- The connection test of one call fails after another call has succeeded in the meantime. -/
def overlapping : List (Event Bool) :=
  [.start 0 "proxmox" (setHost "b") true none rebuilt] ++ succeeding 1 ++
    [.resume 0 .failure rebuilt]

/-- A failing call takes away what another call has written and registered since it started, and
on its own it makes sections that were not there. -/
theorem update_not_isolated :
    (succeededCalls settled overlapping = [1] ∧
      view (run settled overlapping) "proxmox" ≠
        (credit settled (initialCredit settled) overlapping "proxmox").view) ∧
    (succeededCalls (holding ∅ ∅) (failing 0) = [] ∧
      view (run (holding ∅ ∅) (failing 0)) "proxmox" ≠ view (holding ∅ ∅) "proxmox") := by
  refine ⟨⟨by decide, fun h => ?_⟩, ⟨by decide, fun h => ?_⟩⟩
  · have hprovider := congrArg View.provider h
    exact absurd hprovider (by decide)
  · have hconnection := congrArg View.connection h
    exact absurd hconnection (by decide)

end AtlasOS.Connections
