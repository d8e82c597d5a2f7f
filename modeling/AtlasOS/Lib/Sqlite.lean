/-!
# Transactions over one embedded database

A store method opens a connection, runs statements on a working copy, and
commits. Any statement may raise a database error, and the connection's context
manager rolls back when the block raises. Programs are ordinary monadic code;
`Spec` is the rule system in which a method is verified once, for every pattern
of database failures.
-/

namespace AtlasOS.Sqlite

/-- The error that the database itself raises from a statement. -/
class DatabaseError (ε : Type) where
  /-- The raised error. -/
  raised : ε

/-- One connection: the committed contents, the working copy of the running
transaction, and for each coming statement whether the database raises. -/
structure Connection (δ : Type) where
  /-- The contents another connection reads. -/
  committed : δ
  /-- The contents this transaction reads and writes. -/
  working : δ
  /-- Which of the coming statements raise; later ones succeed. -/
  faults : List Bool

/-- A block of statements, which returns or raises. -/
def Transaction (ε δ α : Type) := Connection δ → Except ε α × Connection δ

variable {ε δ α β : Type}

namespace Transaction

instance : Monad (Transaction ε δ) where
  pure a := fun c => (.ok a, c)
  bind m f := fun c =>
    match m c with
    | (.ok a, c') => f a c'
    | (.error e, c') => (.error e, c')

instance : MonadExcept ε (Transaction ε δ) where
  throw e := fun c => (.error e, c)
  tryCatch m handler := fun c =>
    match m c with
    | (.ok a, c') => (.ok a, c')
    | (.error e, c') => handler e c'

/-- Run a check that touches no database. -/
def lift (result : Except ε α) : Transaction ε δ α := fun c => (result, c)

variable [DatabaseError ε]

/-- One statement: it raises when the next fault says so, and otherwise acts. -/
def statement (act : Connection δ → α × Connection δ) : Transaction ε δ α := fun c =>
  match c.faults with
  | true :: rest => (.error DatabaseError.raised, { c with faults := rest })
  | false :: rest => let (a, c') := act { c with faults := rest }; (.ok a, c')
  | [] => let (a, c') := act c; (.ok a, c')

/-- `BEGIN IMMEDIATE`: the transaction starts from the committed contents. -/
def beginImmediate : Transaction ε δ Unit :=
  statement fun c => ((), { c with working := c.committed })

/-- A query on the working copy. -/
def select (query : δ → α) : Transaction ε δ α := statement fun c => (query c.working, c)

/-- An insert or update of the working copy. -/
def write (update : δ → δ) : Transaction ε δ Unit :=
  statement fun c => ((), { c with working := update c.working })

/-- A statement that the database may refuse for the contents of the working copy. -/
def execute (update : δ → Except ε δ) : Transaction ε δ Unit := fun c =>
  (do
    let working ← lift (update c.working)
    statement fun c => ((), { c with working })) c

/-- A block of queries with the checks made on their results. -/
def inspect (check : δ → Except ε α) : Transaction ε δ α := do
  let result ← select check
  lift result

/-- Make the working copy durable. -/
def commit : Transaction ε δ Unit := statement fun c => ((), { c with committed := c.working })

/-- Discard the working copy. -/
def rollback : Transaction ε δ Unit := fun c => (.ok (), { c with working := c.committed })

/-- The block run under the connection's context manager, which commits when
the block returns and rolls back when it raises. -/
def withConnection (db : δ) (faults : List Bool) (m : Transaction ε δ α) : Except ε α × δ :=
  match m ⟨db, db, faults⟩ with
  | (.ok a, c) => (.ok a, c.working)
  | (.error e, c) => (.error e, c.committed)

/-! ## Runs in which nothing fails -/

omit [DatabaseError ε] in
theorem bind_apply (m : Transaction ε δ α) (f : α → Transaction ε δ β) (c : Connection δ) :
    (m >>= f) c = match m c with
      | (.ok a, c') => f a c'
      | (.error e, c') => (.error e, c') := rfl

omit [DatabaseError ε] in
@[simp] theorem pure_apply (a : α) (c : Connection δ) :
    (Pure.pure a : Transaction ε δ α) c = (.ok a, c) := rfl

omit [DatabaseError ε] in
theorem lift_ok_bind (a : α) (f : α → Transaction ε δ β) : lift (.ok a) >>= f = f a := rfl

omit [DatabaseError ε] in
/-- A handler does not see a block that returns. -/
theorem tryCatch_apply_of_ok {m : Transaction ε δ α} {handler : ε → Transaction ε δ α}
    {c c' : Connection δ} {a : α} (h : m c = (.ok a, c')) :
    (MonadExcept.tryCatch m handler) c = (.ok a, c') := by
  change (match m c with
    | (.ok a, c') => (Except.ok a, c')
    | (.error e, c') => handler e c') = _
  rw [h]

omit [DatabaseError ε] in
/-- A handler runs from what a block that raised leaves. -/
theorem tryCatch_apply_of_error {m : Transaction ε δ α} {handler : ε → Transaction ε δ α}
    {c c' : Connection δ} {e : ε} (h : m c = (.error e, c')) :
    (MonadExcept.tryCatch m handler) c = handler e c' := by
  change (match m c with
    | (.ok a, c') => (Except.ok a, c')
    | (.error e, c') => handler e c') = _
  rw [h]

@[simp] theorem select_apply (query : δ → α) (d w : δ) :
    (select query : Transaction ε δ α) ⟨d, w, []⟩ = (.ok (query w), ⟨d, w, []⟩) := rfl

@[simp] theorem write_apply (update : δ → δ) (d w : δ) :
    (write update : Transaction ε δ Unit) ⟨d, w, []⟩ = (.ok (), ⟨d, update w, []⟩) := rfl

@[simp] theorem beginImmediate_apply (d w : δ) :
    (beginImmediate : Transaction ε δ Unit) ⟨d, w, []⟩ = (.ok (), ⟨d, d, []⟩) := rfl

@[simp] theorem commit_apply (d w : δ) :
    (commit : Transaction ε δ Unit) ⟨d, w, []⟩ = (.ok (), ⟨w, w, []⟩) := rfl

theorem inspect_apply {check : δ → Except ε α} {d w : δ} {a : α} (h : check w = .ok a) :
    (inspect check : Transaction ε δ α) ⟨d, w, []⟩ = (.ok a, ⟨d, w, []⟩) := by
  rw [inspect, bind_apply, select_apply, h]
  rfl

end Transaction

open Transaction

/-- From the given committed and working contents and under every pattern of
faults, a block that returns satisfies `Q` and a block that raises satisfies `E`. -/
def Spec (m : Transaction ε δ α) (committed working : δ)
    (Q : α → δ → δ → Prop) (E : ε → δ → Prop) : Prop :=
  ∀ faults, match m ⟨committed, working, faults⟩ with
    | (.ok a, c) => Q a c.committed c.working
    | (.error e, c) => E e c.committed

variable {committed working : δ} {Q : α → δ → δ → Prop} {E : ε → δ → Prop}

theorem Spec.pure {a : α} (h : Q a committed working) :
    Spec (Pure.pure a : Transaction ε δ α) committed working Q E := fun _ => h

theorem Spec.throw {e : ε} (h : E e committed) :
    Spec (MonadExcept.throw e : Transaction ε δ α) committed working Q E := fun _ => h

/-- Sequencing: the continuation is verified from whatever the first block leaves. -/
theorem Spec.bind {m : Transaction ε δ α} {f : α → Transaction ε δ β}
    {Q : β → δ → δ → Prop}
    (h : Spec m committed working (fun a d w => Spec (f a) d w Q E) E) :
    Spec (m >>= f) committed working Q E := by
  intro faults
  have hm := h faults
  change match (match m ⟨committed, working, faults⟩ with
    | (.ok a, c') => f a c'
    | (.error e, c') => (.error e, c')) with
    | (.ok a, c) => Q a c.committed c.working
    | (.error e, c) => E e c.committed
  split at hm
  · next c _ => exact hm c.faults
  · exact hm

/-- A specification may promise less. -/
theorem Spec.imp {m : Transaction ε δ α} {Q' : α → δ → δ → Prop} {E' : ε → δ → Prop}
    (h : Spec m committed working Q E) (hQ : ∀ a d w, Q a d w → Q' a d w)
    (hE : ∀ e d, E e d → E' e d) : Spec m committed working Q' E' := by
  intro faults
  have hm := h faults
  split at hm
  · exact hQ _ _ _ hm
  · exact hE _ _ hm

/-- A pure check continues with its value or raises its error. -/
theorem Spec.lift {result : Except ε α} (hok : ∀ a, result = .ok a → Q a committed working)
    (herror : ∀ e, result = .error e → E e committed) :
    Spec (Transaction.lift result) committed working Q E := by
  intro faults
  cases result with
  | ok a => exact hok a rfl
  | error e => exact herror e rfl

/-- A handler is verified from whatever working copy the failed block leaves. -/
theorem Spec.tryCatch {m : Transaction ε δ α} {handler : ε → Transaction ε δ α}
    (h : Spec m committed working Q fun e d => ∀ w, Spec (handler e) d w Q E) :
    Spec (MonadExcept.tryCatch m handler) committed working Q E := by
  intro faults
  have hm := h faults
  change match (match m ⟨committed, working, faults⟩ with
    | (.ok a, c') => (Except.ok a, c')
    | (.error e, c') => handler e c') with
    | (.ok a, c) => Q a c.committed c.working
    | (.error e, c) => E e c.committed
  split at hm
  · exact hm
  · next e c _ => exact hm c.working c.faults

variable [DatabaseError ε]

/-- A statement either raises with nothing changed or performs its action. -/
theorem Spec.statement {act : Connection δ → α × Connection δ}
    (herror : E DatabaseError.raised committed)
    (hact : ∀ faults, Q (act ⟨committed, working, faults⟩).1
      (act ⟨committed, working, faults⟩).2.committed
      (act ⟨committed, working, faults⟩).2.working) :
    Spec (Transaction.statement act) committed working Q E := by
  intro faults
  match faults with
  | [] => exact hact []
  | true :: rest => exact herror
  | false :: rest => exact hact rest

theorem Spec.beginImmediate {Q : Unit → δ → δ → Prop} (herror : E DatabaseError.raised committed)
    (h : Q () committed committed) :
    Spec Transaction.beginImmediate committed working Q E :=
  Spec.statement herror fun _ => h

theorem Spec.select {query : δ → α} (herror : E DatabaseError.raised committed)
    (h : Q (query working) committed working) :
    Spec (Transaction.select query) committed working Q E :=
  Spec.statement herror fun _ => h

theorem Spec.write {update : δ → δ} {Q : Unit → δ → δ → Prop}
    (herror : E DatabaseError.raised committed) (h : Q () committed (update working)) :
    Spec (Transaction.write update) committed working Q E :=
  Spec.statement herror fun _ => h

theorem Spec.execute {update : δ → Except ε δ} {Q : Unit → δ → δ → Prop}
    (hraised : E DatabaseError.raised committed)
    (herror : ∀ e, update working = .error e → E e committed)
    (hok : ∀ w, update working = .ok w → Q () committed w) :
    Spec (Transaction.execute update) committed working Q E := by
  intro faults
  unfold Transaction.execute
  exact Spec.bind (Spec.lift (fun w hw => Spec.statement hraised fun _ => hok w hw) herror) faults

theorem Spec.inspect {check : δ → Except ε α} (hraised : E DatabaseError.raised committed)
    (herror : ∀ e, check working = .error e → E e committed)
    (hok : ∀ a, check working = .ok a → Q a committed working) :
    Spec (Transaction.inspect check) committed working Q E :=
  Spec.bind (Spec.select hraised (Spec.lift hok herror))

theorem Spec.commit {Q : Unit → δ → δ → Prop} (herror : E DatabaseError.raised committed)
    (h : Q () working working) : Spec Transaction.commit committed working Q E :=
  Spec.statement herror fun _ => h

omit [DatabaseError ε] in
theorem Spec.rollback {Q : Unit → δ → δ → Prop} (h : Q () committed committed) :
    Spec (Transaction.rollback : Transaction ε δ Unit) committed working Q E := fun _ => h

omit [DatabaseError ε] in
/-- What a verified block leaves behind its context manager: the working copy
when it returns, the committed contents when it raises. -/
theorem Spec.withConnection {m : Transaction ε δ α} {db : δ} (h : Spec m db db Q E)
    (faults : List Bool) :
    (∀ a db', withConnection db faults m = (.ok a, db') → ∃ d, Q a d db') ∧
      (∀ e db', withConnection db faults m = (.error e, db') → E e db') := by
  have hm := h faults
  unfold Transaction.withConnection
  constructor
  · intro a db' hrun
    split at hm
    · next b c heq =>
      rw [heq] at hrun
      obtain ⟨hb, rfl⟩ := Prod.mk.inj hrun
      cases hb
      exact ⟨_, hm⟩
    · next heq =>
      rw [heq] at hrun
      cases hrun
  · intro e db' hrun
    split at hm
    · next heq =>
      rw [heq] at hrun
      cases hrun
    · next b c heq =>
      rw [heq] at hrun
      obtain ⟨hb, rfl⟩ := Prod.mk.inj hrun
      cases hb
      exact hm

omit [DatabaseError ε] in
/-- A block that commits all or nothing: what it leaves behind its context manager is what
it specifies when it returns, and nothing when it raises. -/
theorem Spec.outcome {m : Transaction ε δ α} {db : δ} {P : α → δ → Prop}
    (h : Spec m db db (fun a d w => d = w ∧ P a w) (fun _ d => d = db)) {faults : List Bool}
    {result : Except ε α} {db' : δ} (hrun : Transaction.withConnection db faults m = (result, db')) :
    match result with
    | .ok a => P a db'
    | .error _ => db' = db := by
  obtain ⟨hok, herror⟩ := Spec.withConnection h faults
  cases result with
  | ok a =>
    obtain ⟨d, -, hP⟩ := hok a db' hrun
    exact hP
  | error e => exact herror e db' hrun

end AtlasOS.Sqlite
