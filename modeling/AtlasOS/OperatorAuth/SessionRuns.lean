import AtlasOS.Lib.Register
import AtlasOS.Lib.Runtime
import AtlasOS.OperatorAuth.Sessions

/-!
# What the sessions of a run are

The table of sessions is a register of the calls: a creation appends a row, and a
rotation or a revocation changes the rows of its digest. Digests that do not collide
tell the rows apart by their tokens, so a token is resolved exactly while the session
that was created with it lasts, and a CSRF value is accepted exactly when it is the
one that was handed out last. Both need the text that is presented to be ASCII.
-/

namespace AtlasOS.OperatorAuth

/-! ## Texts -/

theorem isascii_of_urlsafe (token : UrlSafeToken) : isascii token.text = true := by
  refine List.all_eq_true.mpr fun c hc => ?_
  have hsafe := List.all_eq_true.mp token.urlsafe c hc
  simp only [isUrlSafe, Bool.or_eq_true, Bool.and_eq_true, decide_eq_true_eq, beq_iff_eq,
    Char.le_def, UInt32.le_iff_toNat_le] at hsafe
  rcases hsafe with (((h | h) | h) | rfl) | rfl
  · exact decide_eq_true (lt_of_le_of_lt h.2 (by decide))
  · exact decide_eq_true (lt_of_le_of_lt h.2 (by decide))
  · exact decide_eq_true (lt_of_le_of_lt h.2 (by decide))
  · decide
  · decide

theorem isascii_of_isHexDigest {text : String} (h : isHexDigest text = true) :
    isascii text = true := by
  refine List.all_eq_true.mpr fun c hc => ?_
  have hhex := List.all_eq_true.mp (Bool.and_eq_true _ _ ▸ h).2 c hc
  have hdigits : ("0123456789abcdef".toList.all fun d => decide (d.toNat < 128)) = true := rfl
  exact List.all_eq_true.mp hdigits c (of_decide_eq_true hhex)

/-- The lines of joined lines are those lines, except that no line is read from nothing. -/
theorem filter_splitLines_join {lines : List String} (hne : ∀ line ∈ lines, line ≠ "")
    (hflat : ∀ line ∈ lines, '\n' ∉ line.toList) :
    (splitLines (join "\n" lines)).filter (· ≠ "") = lines := by
  cases lines with
  | nil => decide
  | cons line lines =>
    have hsplit : (join "\n" (line :: lines)).toList.splitOn '\n' =
        (line :: lines).map String.toList := by
      rw [join, String.toList_ofList]
      refine List.splitOn_intercalate '\n' ?_ (by simp)
      intro text htext
      obtain ⟨other, hother, rfl⟩ := List.mem_map.mp htext
      exact hflat other hother
    rw [splitLines, hsplit, List.map_map]
    have hid : (String.ofList ∘ String.toList) = id := funext fun line => line.ofList_toList
    rw [hid, List.map_id]
    exact List.filter_eq_self.mpr fun other hother => by simpa using hne other hother

theorem isLine_ofList {cs : List Char} (h : (cs.isEmpty || cs.elem '\n') = false) :
    String.ofList cs ≠ "" ∧ '\n' ∉ (String.ofList cs).toList := by
  rw [Bool.or_eq_false_iff] at h
  constructor
  · intro hempty
    rw [String.ofList_eq_empty_iff.mp hempty] at h
    cases h.1
  · rw [String.toList_ofList]
    intro hmem
    rw [List.elem_eq_true_of_mem hmem] at h
    cases h.2

theorem supported_permissions : ∀ permission ∈ SUPPORTED_OPERATOR_PERMISSIONS,
    permission ≠ "" ∧ '\n' ∉ permission.toList := by
  -- A literal is read as its list of characters, which is cheaper than taking it apart.
  repeat' refine List.forall_mem_cons.mpr ⟨isLine_ofList rfl, ?_⟩
  exact List.forall_mem_nil _

/-- The column of permissions gives back the permissions. -/
theorem permissions_read_back (credential : OperatorCredential) (now : Instant) :
    (splitLines (join "\n" (OperatorSessionStore.principalOf credential now).permissions)).filter
      (· ≠ "") = (OperatorSessionStore.principalOf credential now).permissions := by
  have hsupported : ∀ permission ∈ (OperatorSessionStore.principalOf credential now).permissions,
      permission ≠ "" ∧ '\n' ∉ permission.toList := by
    intro permission hmem
    exact supported_permissions permission
      (credential.supported ((List.mem_insertionSort _).mp hmem))
  exact filter_splitLines_join (fun line hline => (hsupported line hline).1)
    fun line hline => (hsupported line hline).2

namespace OperatorSessionStore

variable {store : OperatorSessionStore}

theorem digest_token (token : UrlSafeToken) :
    store.digest token.text = .ok (store.py.sha256 token.text) := by
  rw [digest, if_pos (isascii_of_urlsafe token)]

theorem compareDigest_sha256 (a b : String) :
    compareDigest (store.py.sha256 a) (store.py.sha256 b) =
      .ok (decide (store.py.sha256 a = store.py.sha256 b)) := by
  rw [compareDigest, isascii_of_isHexDigest (store.py.sha256_isHexDigest a),
    isascii_of_isHexDigest (store.py.sha256_isHexDigest b)]
  rfl

theorem le_utc (a b : Instant) : (DateTime.utc a).le (.utc b) = .ok (decide (a ≤ b)) := by
  have hinstant : (DateTime.utc a).instant ≤ (DateTime.utc b).instant ↔ a ≤ b := by
    simp only [DateTime.instant, DateTime.utc, Option.map_some, Option.getD_some, Fin.le_def]
    omega
  have hoffset : (DateTime.utc a).offset.isSome = (DateTime.utc b).offset.isSome := rfl
  rw [DateTime.le, if_pos hoffset, decide_eq_decide.mpr hinstant]

/-! ## The table of a run -/

/-- How a call changes a row. -/
def evolve (store : OperatorSessionStore) : SessionCall → SessionRow → SessionRow
  | .rotateCsrf session csrf_token, row =>
      if row.token_digest = session.token_digest ∧ row.revoked = false then
        { row with csrf_digest := store.py.sha256 csrf_token.text }
      else row
  | .revoke session now, row =>
      if row.token_digest = session.token_digest then
        { row with revoked := true, revoked_at := some (store.py.isoformat (.utc now)) }
      else row
  | _, row => row

/-- The row that a call appends. -/
def spawn (store : OperatorSessionStore) : SessionCall → Option SessionRow
  | .create credential now session_id session_token csrf_token =>
      (store.expiry now).toOption.map fun expires_at =>
        store.newRow credential now expires_at session_id (store.py.sha256 session_token.text)
          (store.py.sha256 csrf_token.text)
  | _ => none

/-- A call writes the register when its row clashes with none. -/
theorem object_eq_write {rows : List SessionRow} {call : SessionCall}
    (h : ∀ row, store.spawn call = some row → ∀ other ∈ rows, SessionRow.clash other row = false) :
    (store.object rows call).2 = Register.write store.evolve store.spawn rows call := by
  cases call with
  | create credential now session_id session_token csrf_token =>
    have hsame : rows.map (store.evolve (.create credential now session_id session_token csrf_token)) =
        rows := List.map_id rows
    rw [Register.write, hsame]
    cases hexpiry : store.expiry now with
    | error e =>
      simp only [object, create, spawn, hexpiry, error_bind, Except.toOption, Option.map_none,
        Option.toList_none, List.append_nil]
    | ok expires_at =>
      simp only [spawn, hexpiry, Except.toOption, Option.map_some, Option.toList_some] at h ⊢
      have hinsert := Rows.insert_eq_some.mpr ⟨h _ rfl, rfl⟩
      simp only [object, create, hexpiry, ok_bind, digest_token, insertRow, hinsert, pure_eq_ok]
  | resolve token now =>
    have hsame : rows.map (store.evolve (.resolve token now)) = rows := List.map_id rows
    have hobject : (store.object rows (.resolve token now)).2 = rows := by
      simp only [object]
      split <;> rfl
    rw [Register.write, hsame, hobject]
    exact (List.append_nil rows).symm
  | rotateCsrf session csrf_token =>
    simp only [object, rotateCsrf, digest_token, ok_bind, pure_eq_ok, Register.write, spawn,
      Option.toList_none, List.append_nil]
    rfl
  | verifyCsrf session supplied =>
    have hsame : rows.map (store.evolve (.verifyCsrf session supplied)) = rows := List.map_id rows
    have hobject : (store.object rows (.verifyCsrf session supplied)).2 = rows := by
      simp only [object]
      split <;> rfl
    rw [Register.write, hsame, hobject]
    exact (List.append_nil rows).symm
  | revoke session now => exact (List.append_nil _).symm
  | reopen =>
    have hsame : rows.map (store.evolve .reopen) = rows := List.map_id rows
    rw [Register.write, hsame]
    exact (List.append_nil rows).symm

/-- The constraints of the table hold after every call. -/
theorem separated_after (calls : List SessionCall) :
    Rows.Separated SessionRow.clash (store.object.after [] calls) := by
  refine Object.after_of_step ?_ Rows.separated_nil calls
  intro rows call h
  have hmap {f : SessionRow → SessionRow}
      (hf : ∀ row, (f row).session_id = row.session_id ∧ (f row).token_digest = row.token_digest) :
      Rows.Separated SessionRow.clash (rows.map f) := by
    refine List.pairwise_map.mpr (List.Pairwise.imp ?_ h)
    intro a b hab
    rw [SessionRow.clash, (hf a).1, (hf a).2, (hf b).1, (hf b).2]
    exact hab
  cases call with
  | create credential now session_id session_token csrf_token =>
    simp only [object]
    split
    · next session rows' hcreate =>
      simp only [create, digest_token, ok_bind, bind_eq_ok, pure_eq_ok, Except.ok.injEq,
        Prod.mk.injEq] at hcreate
      obtain ⟨expires_at, -, written, hwritten, -, rfl⟩ := hcreate
      unfold insertRow at hwritten
      split at hwritten
      · next inserted hinsert =>
        obtain rfl := Except.ok.inj hwritten
        obtain ⟨hfresh, rfl⟩ := Rows.insert_eq_some.mp hinsert
        exact h.append_singleton hfresh
      · cases hwritten
    · exact h
  | resolve token now =>
    simp only [object]
    split <;> exact h
  | rotateCsrf session csrf_token =>
    simp only [object, rotateCsrf, digest_token, ok_bind, pure_eq_ok]
    refine hmap fun row => ?_
    split_ifs <;> exact ⟨rfl, rfl⟩
  | verifyCsrf session supplied =>
    simp only [object]
    split <;> exact h
  | revoke session now =>
    refine hmap fun row => ?_
    split_ifs <;> exact ⟨rfl, rfl⟩
  | reopen => exact h

end OperatorSessionStore

/-! ## What is generated in a run -/

namespace SessionCall

/-- The identifier that is generated for a row. -/
def sessionId : SessionCall → Option String
  | .create _ _ session_id _ _ => some session_id
  | _ => none

/-- The session token that is generated. -/
def sessionToken : SessionCall → Option String
  | .create _ _ _ session_token _ => some session_token.text
  | _ => none

/-- The texts that are generated and handed out. -/
def handedOut : SessionCall → List String
  | .create _ _ _ session_token csrf_token => [session_token.text, csrf_token.text]
  | .rotateCsrf _ csrf_token => [csrf_token.text]
  | _ => []

end SessionCall

/-- The generated identifiers and session tokens of a run are distinct. -/
structure Distinct (calls : List SessionCall) : Prop where
  session_ids : (calls.filterMap SessionCall.sessionId).Nodup
  session_tokens : (calls.filterMap SessionCall.sessionToken).Nodup

/-- No two of the texts have one digest. -/
def CollisionFree (py : Python) (texts : List String) : Prop :=
  ∀ a ∈ texts, ∀ b ∈ texts, py.sha256 a = py.sha256 b → a = b

theorem CollisionFree.mono {py : Python} {texts texts' : List String} (h : CollisionFree py texts')
    (hsub : texts ⊆ texts') : CollisionFree py texts :=
  fun a ha b hb => h a (hsub ha) b (hsub hb)

theorem Distinct.of_append {calls later : List SessionCall} (h : Distinct (calls ++ later)) :
    Distinct calls := by
  obtain ⟨hids, htokens⟩ := h
  rw [List.filterMap_append] at hids htokens
  exact ⟨hids.of_append_left, htokens.of_append_left⟩

namespace OperatorSessionStore

variable {store : OperatorSessionStore} {calls : List SessionCall}

theorem token_digest_evolve (call : SessionCall) (row : SessionRow) :
    (store.evolve call row).token_digest = row.token_digest := by
  unfold evolve
  split
  · split_ifs <;> rfl
  · split_ifs <;> rfl
  · rfl

theorem session_id_evolve (call : SessionCall) (row : SessionRow) :
    (store.evolve call row).session_id = row.session_id := by
  unfold evolve
  split
  · split_ifs <;> rfl
  · split_ifs <;> rfl
  · rfl

theorem spawn_eq_some {call : SessionCall} {row : SessionRow} : store.spawn call = some row ↔
    ∃ credential now session_id session_token csrf_token expires_at,
      call = .create credential now session_id session_token csrf_token ∧
        store.expiry now = .ok expires_at ∧
        row = store.newRow credential now expires_at session_id
          (store.py.sha256 session_token.text) (store.py.sha256 csrf_token.text) := by
  constructor
  · intro h
    cases call with
    | create credential now session_id session_token csrf_token =>
      simp only [spawn] at h
      cases hexpiry : store.expiry now with
      | error e =>
        rw [hexpiry] at h
        cases h
      | ok expires_at =>
        rw [hexpiry] at h
        exact ⟨credential, now, session_id, session_token, csrf_token, expires_at, rfl, hexpiry,
          (Option.some.inj h).symm⟩
    | _ => cases h
  · rintro ⟨credential, now, session_id, session_token, csrf_token, expires_at, rfl, hexpiry, rfl⟩
    simp only [spawn, hexpiry, Except.toOption, Option.map_some]

/-- The table is the register of the calls, since what is generated is distinct. -/
theorem after_eq_table (hdistinct : Distinct calls)
    (hfree : CollisionFree store.py (calls.flatMap SessionCall.handedOut)) :
    store.object.after [] calls = Register.table store.evolve store.spawn calls := by
  induction calls using List.reverseRecOn with
  | nil => rfl
  | append_singleton calls last ih =>
    have hfree' : CollisionFree store.py (calls.flatMap SessionCall.handedOut) := by
      rw [List.flatMap_append] at hfree
      exact hfree.mono (List.subset_append_left _ _)
    rw [Object.after_concat, Register.table_concat, ← ih hdistinct.of_append hfree']
    refine object_eq_write fun row hrow other hother => ?_
    rw [ih hdistinct.of_append hfree'] at hother
    -- The other row was appended by an earlier call, which generated other texts.
    obtain ⟨before, call, later, first, rfl, hfirst, rfl⟩ := Register.mem_table.mp hother
    obtain ⟨_, _, id, token, csrf, _, rfl, -, rfl⟩ := spawn_eq_some.mp hrow
    obtain ⟨_, _, id', token', csrf', _, rfl, -, rfl⟩ := spawn_eq_some.mp hfirst
    obtain ⟨hids, htokens⟩ := hdistinct
    simp only [List.filterMap_append, List.filterMap_cons, List.filterMap_nil,
      SessionCall.sessionId, SessionCall.sessionToken, List.nodup_append, List.mem_append,
      List.mem_cons] at hids htokens
    have hid : id' ≠ id := hids.2.2 id' (.inr (.inl rfl)) id (.inl rfl)
    have htoken : token'.text ≠ token.text :=
      htokens.2.2 token'.text (.inr (.inl rfl)) token.text (.inl rfl)
    have hdigest : store.py.sha256 token'.text ≠ store.py.sha256 token.text := by
      intro heq
      refine htoken (hfree _ ?_ _ ?_ heq)
      · simp [SessionCall.handedOut]
      · simp [SessionCall.handedOut]
    rw [SessionRow.clash, Register.apply_evolved session_id_evolve,
      Register.apply_evolved token_digest_evolve, Bool.or_eq_false_iff]
    exact ⟨beq_eq_false_iff_ne.mpr hid, beq_eq_false_iff_ne.mpr hdigest⟩

/-! ## What a run says of a token -/

/-- The token was returned by a creation for the credential, and its session has not been revoked
since. -/
def Issued (store : OperatorSessionStore) (calls : List SessionCall) (token : String)
    (credential : OperatorCredential) (expires_at : Instant) : Prop :=
  ∃ before created_at session_id session_token csrf_token later,
    calls = before ++ .create credential created_at session_id session_token csrf_token :: later ∧
      session_token.text = token ∧ store.expiry created_at = .ok expires_at ∧
      ∀ session now, .revoke session now ∈ later → session.token_digest ≠ store.py.sha256 token

/-- The CSRF token of a session token after a further call. -/
def csrfAfter (store : OperatorSessionStore) (token : String) (current : Option String) :
    SessionCall → Option String
  | .create _ _ _ session_token csrf_token =>
      if session_token.text = token then some csrf_token.text else current
  | .rotateCsrf session csrf_token =>
      if session.token_digest = store.py.sha256 token then some csrf_token.text else current
  | _ => current

/-- The CSRF token that was handed out last for a session token. -/
def latestCsrf (store : OperatorSessionStore) (calls : List SessionCall) (token : String) :
    Option String :=
  calls.foldl (store.csrfAfter token) none

/-- `resolve` answers for a token, with the session of its credential exactly while it lasts. -/
def ResolveExact (store : OperatorSessionStore) (calls : List SessionCall) (token : String)
    (now : Instant) : Prop :=
  ∃ answer, store.resolve (some token) now (store.object.after [] calls) = .ok answer ∧
    (answer.isSome = true ↔
      ∃ credential expires_at, store.Issued calls token credential expires_at ∧ now < expires_at) ∧
    ∀ session, answer = some session →
      ∃ credential expires_at, store.Issued calls token credential expires_at ∧
        session.principal.operator_id = credential.operator_id ∧
        (∀ permission, permission ∈ session.principal.permissions ↔
          permission ∈ credential.permissions) ∧
        session.expires_at = .utc expires_at

/-- `verify_csrf` answers, and accepts the CSRF token that was handed out last. -/
def VerifyExact (store : OperatorSessionStore) (calls : List SessionCall) (token : String)
    (session : ResolvedOperatorSession) (supplied : String) : Prop :=
  ∃ accepted, store.verifyCsrf session (some supplied) = .ok accepted ∧
    (accepted = true ↔ store.latestCsrf calls token = some supplied)

/-! ## One row -/

/-- A row that was created with a token, as the later calls have changed it. -/
structure RowOf (store : OperatorSessionStore) (calls : List SessionCall) (token : String)
    (row : SessionRow) (credential : OperatorCredential) (created_at expires_at : Instant)
    (csrf : String) (before later : List SessionCall) : Prop where
  calls : ∃ session_id session_token csrf_token,
    calls = before ++ .create credential created_at session_id session_token csrf_token :: later ∧
      session_token.text = token ∧ csrf_token.text = csrf ∧
      row = Register.evolved store.evolve (store.newRow credential created_at expires_at session_id
        (store.py.sha256 token) (store.py.sha256 csrf)) later
  expiry : store.expiry created_at = .ok expires_at

theorem revoked_evolved (row : SessionRow) (later : List SessionCall) :
    (Register.evolved store.evolve row later).revoked = false ↔
      row.revoked = false ∧
        ∀ session now, .revoke session now ∈ later → session.token_digest ≠ row.token_digest := by
  induction later using List.reverseRecOn with
  | nil => simp
  | append_singleton later call ih =>
    have hdigest : (Register.evolved store.evolve row later).token_digest = row.token_digest :=
      Register.apply_evolved token_digest_evolve row later
    rw [Register.evolved_concat]
    cases call with
    | revoke session now =>
      simp only [evolve, hdigest]
      split_ifs with hsame
      · simp only [Bool.true_eq_false, false_iff, not_and, not_forall]
        intro _
        exact ⟨session, now, by simp, not_not.mpr hsame.symm⟩
      · rw [ih]
        refine and_congr_right fun _ => ⟨fun h other time hmem => ?_, fun h other time hmem => ?_⟩
        · rcases List.mem_append.mp hmem with hmem | hmem
          · exact h other time hmem
          · obtain ⟨rfl, rfl⟩ := SessionCall.revoke.inj (List.mem_singleton.mp hmem)
            exact fun heq => hsame heq.symm
        · exact h other time (List.mem_append_left _ hmem)
    | rotateCsrf session csrf_token =>
      have hkeep : (store.evolve (.rotateCsrf session csrf_token)
          (Register.evolved store.evolve row later)).revoked =
          (Register.evolved store.evolve row later).revoked := by
        simp only [evolve]
        split_ifs <;> rfl
      rw [hkeep, ih]
      simp
    | _ =>
      change (Register.evolved store.evolve row later).revoked = false ↔ _
      rw [ih]
      simp

/-- The columns of the credential and of the times. -/
def grant (row : SessionRow) : String × String × String × String :=
  (row.operator_id, row.permissions, row.authenticated_at, row.expires_at)

theorem grant_evolve (call : SessionCall) (row : SessionRow) :
    grant (store.evolve call row) = grant row := by
  unfold evolve
  split
  · split_ifs <;> rfl
  · split_ifs <;> rfl
  · rfl

/-- While a session is not revoked, its row has the digest of the CSRF token that was handed out
last. -/
theorem csrf_evolved {row : SessionRow} {token csrf : String} {later : List SessionCall}
    (hdigest : row.token_digest = store.py.sha256 token)
    (hcsrf : row.csrf_digest = store.py.sha256 csrf)
    (hfresh : ∀ call ∈ later, call.sessionToken ≠ some token)
    (hlive : (Register.evolved store.evolve row later).revoked = false) :
    ∃ latest, later.foldl (store.csrfAfter token) (some csrf) = some latest ∧
      (Register.evolved store.evolve row later).csrf_digest = store.py.sha256 latest ∧
      latest ∈ csrf :: later.flatMap SessionCall.handedOut := by
  induction later using List.reverseRecOn with
  | nil => exact ⟨csrf, rfl, hcsrf, List.mem_cons_self⟩
  | append_singleton later call ih =>
    have hlive' : (Register.evolved store.evolve row later).revoked = false := by
      rw [revoked_evolved] at hlive ⊢
      exact ⟨hlive.1, fun session now hmem => hlive.2 session now (List.mem_append_left _ hmem)⟩
    obtain ⟨latest, hlatest, hrow, hmem⟩ :=
      ih (fun call hcall => hfresh call (List.mem_append_left _ hcall)) hlive'
    have hmem' : latest ∈ csrf :: (later ++ [call]).flatMap SessionCall.handedOut := by
      rw [List.flatMap_append, ← List.cons_append]
      exact List.mem_append_left _ hmem
    have hevolved : (Register.evolved store.evolve row later).token_digest =
        store.py.sha256 token := (Register.apply_evolved token_digest_evolve row later).trans hdigest
    rw [List.foldl_append, hlatest, Register.evolved_concat]
    change ∃ latest', store.csrfAfter token (some latest) call = some latest' ∧ _
    cases call with
    | create credential now session_id session_token csrf_token =>
      have hne : session_token.text ≠ token := fun heq =>
        hfresh _ (List.mem_append_right _ List.mem_cons_self) (congrArg some heq)
      exact ⟨latest, if_neg hne, hrow, hmem'⟩
    | rotateCsrf session csrf_token =>
      simp only [csrfAfter, evolve, hevolved, hlive', and_true]
      by_cases hsame : session.token_digest = store.py.sha256 token
      · rw [if_pos hsame, if_pos hsame.symm]
        exact ⟨csrf_token.text, rfl, rfl, by simp [SessionCall.handedOut]⟩
      · rw [if_neg hsame, if_neg fun heq => hsame heq.symm]
        exact ⟨latest, rfl, hrow, hmem'⟩
    | revoke session now =>
      have hother : session.token_digest ≠ row.token_digest :=
        (revoked_evolved row _ |>.mp hlive).2 session now (by simp)
      simp only [csrfAfter, evolve, hevolved]
      rw [if_neg fun heq => hother (heq.symm.trans hdigest.symm)]
      exact ⟨latest, rfl, hrow, hmem'⟩
    | _ => exact ⟨latest, rfl, hrow, hmem'⟩

/-! ## Resolving -/

section Resolving

variable {token csrf : String} {row : SessionRow} {credential : OperatorCredential}
  {created_at expires_at now : Instant} {before later : List SessionCall}

theorem RowOf.mem_table (h : RowOf store calls token row credential created_at expires_at csrf
    before later) : row ∈ Register.table store.evolve store.spawn calls := by
  obtain ⟨session_id, session_token, csrf_token, hcalls, rfl, rfl, hrow⟩ := h.calls
  exact Register.mem_table.mpr ⟨before, _, later, _, hcalls,
    spawn_eq_some.mpr ⟨_, _, _, _, _, _, rfl, h.expiry, rfl⟩, hrow.symm⟩

/-- A row under the digest of a token was created with this token. -/
theorem exists_rowOf
    (hfree : CollisionFree store.py (token :: calls.flatMap SessionCall.handedOut))
    (hrow : row ∈ Register.table store.evolve store.spawn calls)
    (hdigest : row.token_digest = store.py.sha256 token) :
    ∃ credential created_at expires_at csrf before later,
      RowOf store calls token row credential created_at expires_at csrf before later := by
  obtain ⟨before, call, later, first, rfl, hfirst, rfl⟩ := Register.mem_table.mp hrow
  obtain ⟨credential, created_at, id, session_token, csrf_token, expires_at, rfl, hexpiry, rfl⟩ :=
    spawn_eq_some.mp hfirst
  rw [Register.apply_evolved token_digest_evolve] at hdigest
  have htoken : session_token.text = token :=
    hfree _ (by simp [SessionCall.handedOut]) _ List.mem_cons_self hdigest
  subst htoken
  exact ⟨credential, created_at, expires_at, csrf_token.text, before, later,
    ⟨id, session_token, csrf_token, rfl, rfl, rfl, rfl⟩, hexpiry⟩

theorem RowOf.token_digest (h : RowOf store calls token row credential created_at expires_at csrf
    before later) : row.token_digest = store.py.sha256 token := by
  obtain ⟨_, _, _, -, -, -, rfl⟩ := h.calls
  exact Register.apply_evolved token_digest_evolve _ later

/-- What the row of a token is opened to. -/
theorem RowOf.openRow (h : RowOf store calls token row credential created_at expires_at csrf
    before later) : store.openRow row (store.py.sha256 token) now =
      .ok (if row.revoked = true ∨ expires_at ≤ now then none else some {
        token_digest := store.py.sha256 token
        principal := principalOf credential created_at
        expires_at := .utc expires_at
        csrf_digest := row.csrf_digest }) := by
  have hdigest := h.token_digest
  obtain ⟨session_id, _, _, -, -, -, hrow⟩ := h.calls
  have hgrant : grant row = grant (store.newRow credential created_at expires_at session_id
      (store.py.sha256 token) (store.py.sha256 csrf)) := by
    rw [hrow]
    exact Register.apply_evolved grant_evolve _ later
  simp only [grant, newRow, Prod.mk.injEq] at hgrant
  obtain ⟨hoperator, hpermissions, hauthenticated, hexpires⟩ := hgrant
  unfold OperatorSessionStore.openRow
  cases hrevoked : row.revoked with
  | true => simp
  | false =>
    simp only [Bool.false_eq_true, if_false, hdigest, compareDigest_sha256, ok_bind, decide_true,
      Bool.not_true, fromisoformat, hexpires, hauthenticated, Python.fromisoformat_isoformat,
      le_utc, Except.mapError, hoperator, hpermissions, permissions_read_back, pure_eq_ok,
      decide_eq_true_eq, false_or]
    split_ifs <;> rfl

theorem RowOf.revoked_iff (h : RowOf store calls token row credential created_at expires_at csrf
    before later) : row.revoked = false ↔
      ∀ session now, .revoke session now ∈ later → session.token_digest ≠ store.py.sha256 token := by
  obtain ⟨_, _, _, -, -, -, rfl⟩ := h.calls
  rw [revoked_evolved]
  exact and_iff_right rfl

theorem issued_iff : store.Issued calls token credential expires_at ↔
    ∃ row created_at csrf before later,
      RowOf store calls token row credential created_at expires_at csrf before later ∧
        row.revoked = false := by
  constructor
  · rintro ⟨before, created_at, session_id, session_token, csrf_token, later, hcalls, htoken, hexpiry,
      hlive⟩
    have hrow : RowOf store calls token _ credential created_at expires_at csrf_token.text before
        later := ⟨⟨session_id, session_token, csrf_token, hcalls, htoken, rfl, rfl⟩, hexpiry⟩
    exact ⟨_, created_at, csrf_token.text, before, later, hrow, hrow.revoked_iff.mpr hlive⟩
  · rintro ⟨row, created_at, csrf, before, later, hrow, hlive⟩
    obtain ⟨session_id, session_token, csrf_token, hcalls, htoken, -, -⟩ := hrow.calls
    exact ⟨before, created_at, session_id, session_token, csrf_token, later, hcalls, htoken,
      hrow.expiry, hrow.revoked_iff.mp hlive⟩

variable (hdistinct : Distinct calls)
  (hfree : CollisionFree store.py (token :: calls.flatMap SessionCall.handedOut))
include hdistinct hfree

theorem after_eq_register :
    store.object.after [] calls = Register.table store.evolve store.spawn calls :=
  after_eq_table hdistinct (hfree.mono (List.subset_cons_self _ _))

/-- A token that was created is resolved to its row. -/
theorem RowOf.resolve (h : RowOf store calls token row credential created_at expires_at csrf
    before later) : store.resolve (some token) now (store.object.after [] calls) =
      .ok (if row.revoked = true ∨ expires_at ≤ now then none else some {
        token_digest := store.py.sha256 token
        principal := principalOf credential created_at
        expires_at := .utc expires_at
        csrf_digest := row.csrf_digest }) := by
  obtain ⟨_, session_token, _, -, htoken, -, -⟩ := h.calls
  have hne : token ≠ "" := htoken ▸ session_token.nonempty
  have hdigest : store.digest token = .ok (store.py.sha256 token) := htoken ▸ digest_token session_token
  have hmem : row ∈ store.object.after [] calls := by
    rw [after_eq_register hdistinct hfree]
    exact h.mem_table
  have hfind : (store.object.after [] calls).find?
      (fun row => decide (row.token_digest = store.py.sha256 token)) = some row := by
    refine ((separated_after calls).find_eq_some fun a b heq => ?_).mpr ⟨hmem, h.token_digest⟩
    rw [SessionRow.clash, beq_iff_eq.mpr heq, Bool.or_true]
  simp only [OperatorSessionStore.resolve, Option.getD_some, if_neg hne, hdigest, ok_bind, hfind,
    h.openRow]

/-- Any other text is resolved to no session, if it is ASCII. -/
theorem resolve_eq_none (hascii : isascii token = true)
    (h : ∀ row ∈ store.object.after [] calls, row.token_digest ≠ store.py.sha256 token) :
    store.resolve (some token) now (store.object.after [] calls) = .ok none := by
  have hfind : (store.object.after [] calls).find?
      (fun row => decide (row.token_digest = store.py.sha256 token)) = none := by
    simpa using h
  by_cases hempty : token = ""
  · simp [OperatorSessionStore.resolve, hempty]
  · simp only [OperatorSessionStore.resolve, Option.getD_some, if_neg hempty, digest, if_pos hascii,
      ok_bind, hfind, pure_eq_ok]

theorem resolveExact_iff : store.ResolveExact calls token now ↔ isascii token = true := by
  constructor
  · rintro ⟨answer, hanswer, -⟩
    by_contra hascii
    have hne : token ≠ "" := by
      rintro rfl
      exact hascii rfl
    simp only [OperatorSessionStore.resolve, Option.getD_some, if_neg hne, digest, if_neg hascii,
      error_bind] at hanswer
    cases hanswer
  · intro hascii
    by_cases hrow : ∃ row ∈ store.object.after [] calls, row.token_digest = store.py.sha256 token
    · obtain ⟨row, hmem, hdigest⟩ := hrow
      rw [after_eq_register hdistinct hfree] at hmem
      obtain ⟨credential, created_at, expires_at, csrf, before, later, hof⟩ :=
        exists_rowOf hfree hmem hdigest
      have hresolve : store.resolve (some token) now (store.object.after [] calls) = _ :=
        hof.resolve hdistinct hfree
      refine ⟨_, hresolve, ?_, ?_⟩
      · constructor
        · intro hsome
          split_ifs at hsome with hclosed
          · cases hsome
          · rw [not_or, Bool.not_eq_true, not_le] at hclosed
            exact ⟨credential, expires_at,
              issued_iff.mpr ⟨row, created_at, csrf, before, later, hof, hclosed.1⟩, hclosed.2⟩
        · rintro ⟨credential', expires_at', hissued, hnow⟩
          obtain ⟨row', _, _, _, _, hof', hlive⟩ := issued_iff.mp hissued
          have hsame := Except.ok.inj (hresolve.symm.trans (hof'.resolve hdistinct hfree))
          rw [hsame, if_neg (by simp [hlive, hnow])]
          rfl
      · intro session hsession
        split_ifs at hsession with hclosed
        obtain rfl := Option.some.inj hsession
        rw [not_or, Bool.not_eq_true] at hclosed
        exact ⟨credential, expires_at,
          issued_iff.mpr ⟨row, created_at, csrf, before, later, hof, hclosed.1⟩, rfl,
          fun permission => List.mem_insertionSort _, rfl⟩
    · have hnone : store.resolve (some token) now (store.object.after [] calls) = .ok none :=
        resolve_eq_none hdistinct hfree hascii fun row hmem heq => hrow ⟨row, hmem, heq⟩
      refine ⟨none, hnone, ?_, by simp⟩
      constructor
      · intro h
        cases h
      · rintro ⟨credential, expires_at, hissued, -⟩
        obtain ⟨row, _, _, _, _, hof, -⟩ := issued_iff.mp hissued
        refine absurd ⟨row, ?_, hof.token_digest⟩ hrow
        rw [after_eq_register hdistinct hfree]
        exact hof.mem_table

/-- A session that was resolved has the digest that its row has. -/
theorem exists_rowOf_of_resolve {session : ResolvedOperatorSession}
    (h : store.resolve (some token) now (store.object.after [] calls) = .ok (some session)) :
    ∃ row credential created_at expires_at csrf before later,
      RowOf store calls token row credential created_at expires_at csrf before later ∧
        row.revoked = false ∧ session.csrf_digest = row.csrf_digest := by
  have hascii : isascii token = true := by
    by_contra hascii
    have hne : token ≠ "" := by
      rintro rfl
      exact hascii rfl
    simp only [OperatorSessionStore.resolve, Option.getD_some, if_neg hne, digest, if_neg hascii,
      error_bind] at h
    cases h
  have hrow : ∃ row ∈ store.object.after [] calls, row.token_digest = store.py.sha256 token := by
    by_contra hrow
    have hnone := h.symm.trans (resolve_eq_none hdistinct hfree hascii
      fun row hmem heq => hrow ⟨row, hmem, heq⟩)
    cases hnone
  obtain ⟨row, hmem, hdigest⟩ := hrow
  rw [after_eq_register hdistinct hfree] at hmem
  obtain ⟨credential, created_at, expires_at, csrf, before, later, hof⟩ :=
    exists_rowOf hfree hmem hdigest
  have hsame := Except.ok.inj (h.symm.trans (hof.resolve hdistinct hfree))
  split_ifs at hsame with hclosed
  rw [not_or, Bool.not_eq_true] at hclosed
  exact ⟨row, credential, created_at, expires_at, csrf, before, later, hof, hclosed.1,
    congrArg ResolvedOperatorSession.csrf_digest (Option.some.inj hsame)⟩

omit hfree in
/-- The row of a live session has the digest of the CSRF token that was handed out last. -/
theorem RowOf.latest (h : RowOf store calls token row credential created_at expires_at csrf before
    later) (hlive : row.revoked = false) :
    ∃ latest, store.latestCsrf calls token = some latest ∧
      row.csrf_digest = store.py.sha256 latest ∧
      latest ∈ calls.flatMap SessionCall.handedOut := by
  obtain ⟨session_id, session_token, csrf_token, rfl, rfl, rfl, rfl⟩ := h.calls
  have hfresh : ∀ call ∈ later, call.sessionToken ≠ some session_token.text := by
    intro call hcall heq
    have htokens := hdistinct.session_tokens
    simp only [List.filterMap_append, List.filterMap_cons, SessionCall.sessionToken,
      List.nodup_append, List.nodup_cons] at htokens
    exact htokens.2.1.1 (List.mem_filterMap.mpr ⟨call, hcall, heq⟩)
  obtain ⟨latest, hlatest, hrow, hmem⟩ := csrf_evolved rfl rfl hfresh hlive
  refine ⟨latest, ?_, hrow, ?_⟩
  · rw [latestCsrf, List.foldl_append, List.foldl_cons, ← hlatest]
    exact congrArg (later.foldl _) (if_pos rfl)
  · rw [List.flatMap_append, List.flatMap_cons, SessionCall.handedOut]
    rcases List.mem_cons.mp hmem with rfl | hmem
    · simp
    · exact List.mem_append_right _ (List.mem_append_right _ hmem)

end Resolving

theorem ne_empty_of_handedOut {text : String} (h : text ∈ calls.flatMap SessionCall.handedOut) :
    text ≠ "" := by
  obtain ⟨call, -, htext⟩ := List.mem_flatMap.mp h
  cases call with
  | create credential now session_id session_token csrf_token =>
    simp only [SessionCall.handedOut, List.mem_cons, List.not_mem_nil, or_false] at htext
    rcases htext with rfl | rfl
    · exact session_token.nonempty
    · exact csrf_token.nonempty
  | rotateCsrf session csrf_token =>
    simp only [SessionCall.handedOut, List.mem_singleton] at htext
    exact htext ▸ csrf_token.nonempty
  | _ => cases htext

theorem verifyExact_iff {token supplied : String} {now : Instant} {session : ResolvedOperatorSession}
    (hdistinct : Distinct calls)
    (hfree : CollisionFree store.py (token :: supplied :: calls.flatMap SessionCall.handedOut))
    (h : store.resolve (some token) now (store.object.after [] calls) = .ok (some session)) :
    store.VerifyExact calls token session supplied ↔ isascii supplied = true := by
  have hfree' : CollisionFree store.py (token :: calls.flatMap SessionCall.handedOut) :=
    hfree.mono (List.cons_subset_cons _ (List.subset_cons_self _ _))
  obtain ⟨row, _, _, _, _, _, _, hof, hlive, hsession⟩ :=
    exists_rowOf_of_resolve hdistinct hfree' h
  obtain ⟨latest, hlatest, hcsrf, hmem⟩ := hof.latest hdistinct hlive
  unfold VerifyExact
  rw [hlatest, Option.some.injEq]
  constructor
  · rintro ⟨accepted, haccepted, -⟩
    by_contra hascii
    have hne : supplied ≠ "" := by
      rintro rfl
      exact hascii rfl
    simp only [verifyCsrf, Option.getD_some, if_neg hne, digest, if_neg hascii, error_bind]
      at haccepted
    cases haccepted
  · intro hascii
    by_cases hempty : supplied = ""
    · refine ⟨false, by simp [verifyCsrf, hempty], ?_⟩
      simp [hempty, ne_empty_of_handedOut hmem]
    · refine ⟨decide (store.py.sha256 latest = store.py.sha256 supplied), ?_, ?_⟩
      · simp only [verifyCsrf, Option.getD_some, if_neg hempty, digest, if_pos hascii, ok_bind,
          hsession, hcsrf, compareDigest_sha256]
      · rw [decide_eq_true_eq]
        constructor
        · exact hfree latest (List.mem_cons_of_mem _ (List.mem_cons_of_mem _ hmem)) supplied
            (List.mem_cons_of_mem _ List.mem_cons_self)
        · rintro rfl
          rfl

end OperatorSessionStore

/-! ## Every run -/

/-- In every state of a run, a text is resolved to the session that it was returned for, while this
lasts, exactly when it is ASCII; and the CSRF value that is checked for a session just resolved is
accepted if it is the one handed out last, and otherwise refused, exactly when it is ASCII. -/
theorem operator_sessions_exact (store : OperatorSessionStore) (calls : List SessionCall)
    (hdistinct : Distinct calls) :
    (∀ token now, CollisionFree store.py (token :: calls.flatMap SessionCall.handedOut) →
      (store.ResolveExact calls token now ↔ isascii token = true)) ∧
    ∀ token supplied now session,
      CollisionFree store.py (token :: supplied :: calls.flatMap SessionCall.handedOut) →
      store.resolve (some token) now (store.object.after [] calls) = .ok (some session) →
      (store.VerifyExact calls token session supplied ↔ isascii supplied = true) :=
  ⟨fun _ _ hfree => OperatorSessionStore.resolveExact_iff hdistinct hfree,
    fun _ _ _ _ hfree h => OperatorSessionStore.verifyExact_iff hdistinct hfree h⟩

/-! ## One session -/

/-- A token of one character. -/
def repeated (length : ℕ) : UrlSafeToken where
  text := String.ofList (List.replicate (length + 1) 'A')
  nonempty := by simp
  urlsafe := by simp [isUrlSafe]

/-- The digests of the texts below. -/
def knownDigest (text : String) : String :=
  if text = (repeated 63).text then
    "d53eda7a637c99cc7fb566d96e9fa109bf15c478410a3f5eb4d4c4e26cd081f6"
  else if text = (repeated 42).text then
    "0f007385b6f9d4b7eeb2748605afe1a984a0a3bfa3f014d09e2a784ce9e5cd1a"
  else if text = "tampered" then
    "d121be3103007b41edf96f8262925f8c7d61894afe9a041843b631f69445bc57"
  else String.ofList (List.replicate 64 '0')

theorem isHexDigest_knownDigest (text : String) : isHexDigest (knownDigest text) = true := by
  unfold knownDigest
  split_ifs
  · exact isHexDigest_ofList rfl (by decide)
  · exact isHexDigest_ofList rfl (by decide)
  · exact isHexDigest_ofList rfl (by decide)
  · exact isHexDigest_replicate (by decide)

/-- A store whose sessions last for five minutes. -/
def fiveMinutes : OperatorSessionStore where
  py := { Python.plain with
    sha256 := knownDigest
    sha256_isHexDigest := isHexDigest_knownDigest }
  lifetime_seconds := 300

/-- The credential of an operator. -/
def kenny : OperatorCredential where
  operator_id := "kenny"
  permissions := ["operational_intent:create"]
  unique := by simp
  supported := by simp [SUPPORTED_OPERATOR_PERMISSIONS]

/-- The operator logs in. -/
def loginCalls : List SessionCall :=
  [.create kenny ⟨0, zero_lt_MAX_MICROS⟩ "0" (repeated 63) (repeated 42)]

/-- The session that was created is resolved, and a wrong CSRF value is refused. -/
theorem operator_sessions_login :
    (fiveMinutes.ResolveExact loginCalls (repeated 63).text ⟨1, by decide⟩ ↔
        isascii (repeated 63).text = true) ∧
      ∃ session, fiveMinutes.resolve (some (repeated 63).text) ⟨1, by decide⟩
          (fiveMinutes.object.after [] loginCalls) = .ok (some session) ∧
        (fiveMinutes.VerifyExact loginCalls (repeated 63).text session "tampered" ↔
          isascii "tampered" = true) := by
  have hdistinct : Distinct loginCalls := ⟨by decide, by decide⟩
  have hfree : CollisionFree fiveMinutes.py [(repeated 63).text, "tampered", (repeated 63).text,
      (repeated 42).text] := by
    unfold CollisionFree
    decide
  have hresolve : (fiveMinutes.resolve (some (repeated 63).text) ⟨1, by decide⟩
      (fiveMinutes.object.after [] loginCalls)).toOption.join.isSome = true := by decide
  refine ⟨(operator_sessions_exact fiveMinutes loginCalls hdistinct).1 _ _ ?_, ?_⟩
  · exact hfree.mono (List.cons_subset_cons _ (List.subset_cons_self _ _))
  · cases hanswer : fiveMinutes.resolve (some (repeated 63).text) ⟨1, by decide⟩
        (fiveMinutes.object.after [] loginCalls) with
    | error e =>
      rw [hanswer] at hresolve
      cases hresolve
    | ok answer =>
      cases answer with
      | none =>
        rw [hanswer] at hresolve
        cases hresolve
      | some session =>
        exact ⟨session, rfl,
          (operator_sessions_exact fiveMinutes loginCalls hdistinct).2 _ _ _ _ hfree hanswer⟩

/-- A text that is not ASCII makes `resolve` raise. -/
theorem operator_sessions_raise :
    ¬∀ (store : OperatorSessionStore) (calls : List SessionCall) (token : String) (now : Instant),
      Distinct calls → CollisionFree store.py (token :: calls.flatMap SessionCall.handedOut) →
      store.ResolveExact calls token now := by
  intro h
  obtain ⟨answer, hanswer, -⟩ := h fiveMinutes [] "é" ⟨0, by decide⟩ ⟨by decide, by decide⟩ (by
    intro a ha b hb _
    rw [List.mem_singleton.mp ha, List.mem_singleton.mp hb])
  have hraised : fiveMinutes.resolve (some "é") ⟨0, by decide⟩ (fiveMinutes.object.after [] []) =
      .error unicodeEncodeError := by decide
  rw [hraised] at hanswer
  cases hanswer

end AtlasOS.OperatorAuth
