import AtlasOS.Connections.Stores
import Mathlib.Logic.Function.Basic

/-!
# Updating a provider connection

`ProviderConnectionService.update_connection` as steps of one event loop. A call
reads what it would restore, checks the request and waits for the connection
test; when it resumes, it writes the two stores, builds the provider anew and
registers it, or restores what it had read. Between the two parts any other
call may run.
-/

namespace AtlasOS.Connections

/-- The kinds of connection fields. -/
inductive FieldKind where
  | string | host | url | port | boolean | select | secret | path
  deriving DecidableEq

/-- What the service reads of a connection field. -/
structure ConnectionField where
  key : String
  kind : FieldKind
  editable : Bool := true
  secret : Bool := false

/-- What the service reads of a connection schema. -/
structure ConnectionSchema where
  fields : List ConnectionField
  editable : Bool := true
  metadata : Fields := []

/-- The field of a schema with a given key. -/
def ConnectionSchema.field (schema : ConnectionSchema) (key : String) : Option ConnectionField :=
  schema.fields.find? fun field => field.key == key

/-- `UpdateProviderConnectionRequest` -/
structure UpdateRequest where
  values : Fields
  confirmed : Bool := false

/-- The errors that end an update. -/
inductive ServiceError where
  | providerNotFound
  | notSupported
  | confirmationRequired
  | readOnly
  | validation (message : String)
  | operation (message : String)
  | service (message : String)
  | other (error : PyError)
  | cancelled

/-- The errors after which nothing is restored. -/
def ServiceError.isRefusal : ServiceError → Bool
  | .confirmationRequired | .readOnly | .validation _ | .cancelled => true
  | .providerNotFound | .notSupported | .operation _ | .service _ | .other _ => false

/-- `_sanitize_error` -/
def sanitizeError : ServiceError → String
  | .providerNotFound => "provider is not registered."
  | .notSupported => "provider does not support connection management."
  | .confirmationRequired => "Provider connection updates require confirmed=true."
  | .readOnly => "provider connection is read-only."
  | .validation message | .operation message | .service message =>
      String.ofList ((message.replace "/opt/atlas/data" "[runtime]").toList.take 240)
  | .other _ | .cancelled => "provider connection update failed."

/-- The Python runtime and the providers. -/
structure Environment (P : Type) extends Python where
  /-- `int(value)` -/
  int : Json → Except PyError Int
  /-- `provider.metadata.id` -/
  id : P → String
  /-- `connection_schema` of a provider that manages its connection. -/
  schema : P → Option ConnectionSchema
  /-- `ProviderMetadata` restricts the identifiers. -/
  isSlug_id : ∀ p, isSlug (id p) = true

variable {P : Type} (env : Environment P)

/-- The providers by their identifiers. -/
structure Registry where
  entries : Dict P
  keyed : ∀ {id p}, entries.get id = some p → env.id p = id

variable {env}

theorem Registry.ext {r r' : Registry env} (h : r.entries = r'.entries) : r = r' := by
  cases r
  cases r'
  cases h
  rfl

/-- `ProviderRegistry.get` -/
def Registry.get (r : Registry env) (id : String) : Option P := r.entries.get id

/-- `ProviderRegistry.replace` -/
def Registry.replace (r : Registry env) (p : P) : Registry env where
  entries := r.entries.set (env.id p) p
  keyed := by
    intro id q h
    rw [Dict.get_set] at h
    split_ifs at h with heq
    · cases h
      exact heq
    · exact r.keyed h

@[simp] theorem Registry.get_replace (r : Registry env) (p : P) :
    (r.replace p).get (env.id p) = some p :=
  r.entries.get_set_self _ _

theorem Registry.get_replace_of_ne (r : Registry env) {p : P} {id : String} (h : env.id p ≠ id) :
    (r.replace p).get id = r.get id :=
  r.entries.get_set_of_ne _ h

/-- A call that has read what it would restore. -/
structure Call (env : Environment P) where
  provider_id : String
  request : UpdateRequest
  schema : ConnectionSchema
  old_provider : P
  previous_connection : Dict Json
  previous_secrets : Dict String
  registered : env.id old_provider = provider_id

/-- The two stores, the registry and the calls that wait for their connection test. -/
structure State (env : Environment P) where
  connections : Document Json
  secrets : Document String
  registry : Registry env
  calls : ℕ → Option (Call env)

/-- How the write of a document goes: it may fail before or after the file was replaced. -/
inductive WriteFault where
  | none
  | before (error : PyError)
  | after (error : PyError)

/-- What the world does in the last part of a call. -/
structure Attempt (P : Type) where
  connectionWrite : WriteFault := .none
  secretWrite : WriteFault := .none
  /-- `_resolve_context` and `_build_provider`, from the stored values. -/
  build : Dict Json → Dict String → Except PyError P
  registryReplace : Option PyError := none
  undoConnections : WriteFault := .none
  undoSecrets : WriteFault := .none
  undoRegistry : Option PyError := none

/-! ## Checking the request -/

variable (env) in
/-- One round of `_validate_candidate`. -/
def validateField (schema : ConnectionSchema) (key : String) (value : Json) :
    Except ServiceError Unit :=
  match schema.field key with
  | none => .error (.other (.keyError key))
  | some field => do
      unless field.editable do throw (.validation "candidate connection contains read-only fields.")
      if field.kind = .port ∧ value ≠ .null then
        match env.int value with
        | .ok port =>
            if port < 1 ∨ 65535 < port then throw (.validation "candidate port is invalid.")
        | .error (.typeError _) | .error (.valueError _) =>
            throw (.validation "candidate port is invalid.")
        | .error error => throw (.other error)
      if field.secret ∧ value = .str "" then
        throw (.validation "empty secret values are not valid updates.")

variable (env) in
/-- `_validate_candidate` -/
def validateCandidate (schema : ConnectionSchema) (values : Fields) : Except ServiceError Unit := do
  unless values.all (fun item => (schema.field item.1).isSome) do
    throw (.validation "candidate connection contains unsupported fields.")
  values.forM fun item => validateField env schema item.1 item.2

/-- `_SECRET_FIELDS` -/
def SECRET_FIELDS : List String := ["user", "token_name", "token_value", "api_key", "token"]

variable (env) in
/-- One round of `_split_values`. -/
def splitValue (schema : ConnectionSchema) (split : Fields × List (String × String))
    (item : String × Json) : Except ServiceError (Fields × List (String × String)) :=
  match schema.field item.1 with
  | none => .error (.other (.keyError item.1))
  | some field =>
      if field.secret ∨ field.kind = .secret ∨ item.1 ∈ SECRET_FIELDS then
        match item.2 with
        | .arr _ | .obj _ => .error (.other (.typeError "unhashable type"))
        | .null => .ok split
        | value =>
            if value = .str "" then .ok split
            else .ok (split.1, split.2 ++ [(item.1, env.str value)])
      else .ok (split.1 ++ [item], split.2)

variable (env) in
/-- `_split_values` -/
def splitValues (schema : ConnectionSchema) (values : Fields) :
    Except ServiceError (Fields × List (String × String)) :=
  values.foldlM (splitValue env schema) ([], [])

/-! ## Writing and restoring -/

/-- A program over the state that may raise, without taking back what it did. -/
abbrev Update (env : Environment P) (α : Type) := ExceptT ServiceError (StateM (State env)) α

/-- The outcome of a program and the state it leaves. -/
def Update.exec {α : Type} (program : Update env α) (s : State env) :
    Except ServiceError α × State env := program.run.run s

/-- Raise the error of a computation that does not touch the state. -/
def Update.lift {α : Type} (result : Except ServiceError α) : Update env α :=
  ExceptT.mk (pure result)

/-- Read the stored values of a provider. -/
def Update.readValues (provider_id : String) : Update env (Dict Json × Dict String) := do
  let s ← get
  return (s.connections.mapping provider_id, s.secrets.mapping provider_id)

/-- Write the connection store. -/
def writeConnections (fault : WriteFault)
    (change : Document Json → Except PyError (Document Json)) : Update env Unit :=
  ExceptT.mk fun s =>
    match fault, change s.connections with
    | .before error, _ | _, .error error => (.error (.other error), s)
    | .none, .ok document => (.ok (), { s with connections := document })
    | .after error, .ok document => (.error (.other error), { s with connections := document })

/-- Write the secret store. -/
def writeSecrets (fault : WriteFault)
    (change : Document String → Except PyError (Document String)) : Update env Unit :=
  ExceptT.mk fun s =>
    match fault, change s.secrets with
    | .before error, _ | _, .error error => (.error (.other error), s)
    | .none, .ok document => (.ok (), { s with secrets := document })
    | .after error, .ok document => (.error (.other error), { s with secrets := document })

/-- Register a provider in the place of the one with its identifier. -/
def registerProvider (fault : Option PyError) (p : P) : Update env Unit :=
  ExceptT.mk fun s =>
    match fault with
    | some error => (.error (.other error), s)
    | none => (.ok (), { s with registry := s.registry.replace p })

/-- Write the values of a request, each kind to its store. -/
def writeValues (call : Call env) (attempt : Attempt P) (values : Fields × List (String × String)) :
    Update env Unit := do
  (if values.1 = [] then pure ()
  else writeConnections attempt.connectionWrite fun document =>
    updateConnectionValues document call.provider_id values.1)
  (if values.2 = [] then pure ()
  else writeSecrets attempt.secretWrite fun document =>
    updateProviderSecrets document call.provider_id values.2)

/-- Build the provider from the stored values and register it. -/
def replaceProvider (call : Call env) (attempt : Attempt P) : Update env Unit := do
  let stored ← Update.readValues call.provider_id
  let replacement ← Update.lift ((attempt.build stored.1 stored.2).mapError .other)
  if env.id replacement = call.provider_id then
    registerProvider attempt.registryReplace replacement
  else Update.lift (.error (.service "replacement provider identity mismatch."))

/-- The part of `update_connection` after the connection test. -/
def applyUpdate (call : Call env) (attempt : Attempt P) : Update env Unit := do
  let values ← Update.lift (splitValues env call.schema call.request.values)
  writeValues call attempt values
  replaceProvider call attempt

/-- `_rollback` -/
def rollback (call : Call env) (attempt : Attempt P) : Update env Unit := do
  writeConnections attempt.undoConnections fun document =>
    replaceConnectionValues document call.provider_id call.previous_connection
  writeSecrets attempt.undoSecrets fun document =>
    replaceProviderSecretValues document call.provider_id call.previous_secrets
  registerProvider attempt.undoRegistry call.old_provider

/-! ## The steps of a call -/

/-- What a step of a call ends with. -/
inductive Outcome where
  | waiting
  | ignored
  | succeeded (provider_id : String)
  | raised (error : ServiceError)

/-- The answer of a connection test. -/
inductive TestAnswer where
  | success
  | degraded
  | failure
  | raised (error : PyError)
  | cancelled

/-- What happens next in the event loop. -/
inductive Event (P : Type) where
  /-- A call starts. Without a test it runs to its end at once. -/
  | start (call : ℕ) (provider_id : String) (request : UpdateRequest) (require_test : Bool)
      (readFault : Option PyError) (attempt : Attempt P)
  /-- The connection test of a call ends. -/
  | resume (call : ℕ) (answer : TestAnswer) (attempt : Attempt P)

/-- The call of an event. -/
def Event.call : Event P → ℕ
  | .start call .. => call
  | .resume call .. => call

/-- What the world does at an event. -/
def Event.attempt : Event P → Attempt P
  | .start _ _ _ _ _ attempt => attempt
  | .resume _ _ attempt => attempt

/-- How far a step has come before errors are handled. -/
inductive Progress (env : Environment P) where
  /-- The step is over. -/
  | over (outcome : Outcome) (s : State env)
  /-- The `try` block of the call ended with the result. -/
  | ended (call : Call env) (attempt : Attempt P) (result : Except ServiceError Unit) (s : State env)

/-- What `update_connection` reads before its `try` block. -/
def openCall (s : State env) (provider_id : String) (request : UpdateRequest)
    (readFault : Option PyError) : Except ServiceError (Call env) :=
  match hget : s.registry.get provider_id with
  | none => .error .providerNotFound
  | some old_provider =>
    match env.schema old_provider, readFault, getConnectionValues s.connections provider_id,
        readProviderSecrets s.secrets provider_id with
    | none, _, _, _ => .error .notSupported
    | _, some error, _, _ | _, _, .error error, _ | _, _, _, .error error => .error (.other error)
    | some schema, none, .ok previous_connection, .ok previous_secrets =>
        .ok { provider_id, request, schema, old_provider, previous_connection, previous_secrets,
              registered := s.registry.keyed hget }

/-- The checks of `update_connection` before the connection test. -/
def checkRequest (call : Call env) : Except ServiceError Unit := do
  unless call.request.confirmed do throw .confirmationRequired
  if !call.schema.editable || call.schema.metadata.get "update_supported" = .bool false then
    throw .readOnly
  validateCandidate env call.schema call.request.values

/-- A step up to the handling of errors. -/
def progress (s : State env) : Event P → Progress env
  | .start id provider_id request require_test readFault attempt =>
      match s.calls id, openCall s provider_id request readFault with
      | some _, _ => .over .ignored s
      | none, .error error => .over (.raised error) s
      | none, .ok call =>
        match checkRequest call with
        | .error error => .ended call attempt (.error error) s
        | .ok () =>
          if require_test then
            .over .waiting { s with calls := Function.update s.calls id (some call) }
          else
            let after := (applyUpdate call attempt).exec s
            .ended call attempt after.1 after.2
  | .resume id answer attempt =>
      match s.calls id with
      | none => .over .ignored s
      | some call =>
        let s := { s with calls := Function.update s.calls id none }
        match answer with
        | .cancelled => .over (.raised .cancelled) s
        | .raised error => .ended call attempt (.error (.other error)) s
        | .failure =>
            .ended call attempt (.error (.operation "candidate provider connection test failed.")) s
        | .success | .degraded =>
            let after := (applyUpdate call attempt).exec s
            .ended call attempt after.1 after.2

/-- The handling of errors, and the result of an update that went through. -/
def conclude (call : Call env) (attempt : Attempt P) (result : Except ServiceError Unit)
    (s : State env) : Outcome × State env :=
  match result with
  | .error error =>
      if error.isRefusal then (.raised error, s)
      else
        match (rollback call attempt).exec s with
        | (.ok (), s) => (.raised (.operation (sanitizeError error)), s)
        | (.error _, s) => (.raised (.service "connection update rollback failed."), s)
  | .ok () =>
      match (s.registry.get call.provider_id).bind env.schema with
      | none => (.raised .notSupported, s)
      | some _ => (.succeeded call.provider_id, s)

/-- One step of the event loop. -/
def step (s : State env) (event : Event P) : Outcome × State env :=
  match progress s event with
  | .over outcome s => (outcome, s)
  | .ended call attempt result s => conclude call attempt result s

end AtlasOS.Connections
