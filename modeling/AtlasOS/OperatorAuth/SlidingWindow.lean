import AtlasOS.OperatorAuth.RateLimit
import Mathlib.Data.Finset.Card

/-!
# The limiter and the sliding window

The reference remembers every admitted call and admits another one while fewer than
`limit` calls of its key lie in the window that ends now. The limiter forgets, so
the invariants below relate what it remembers to that log: the times of a key are
the last ones of the log, and a key that is not remembered has left the window or
is older than all that are.
-/

namespace AtlasOS.OperatorAuth

/-- `allow(key, now)` -/
structure Call where
  key : String
  now : Instant
  deriving DecidableEq

/-- The admitted calls, oldest first. -/
abbrev Log := List Call

/-- The times of the admitted calls of a key. -/
def times (log : Log) (key : String) : List Instant :=
  (log.filter fun call => call.key = key).map Call.now

theorem mem_times {log : Log} {key : String} {time : Instant} :
    time ∈ times log key ↔ ⟨key, time⟩ ∈ log := by
  simp only [times, List.mem_map, List.mem_filter, decide_eq_true_eq]
  constructor
  · rintro ⟨call, ⟨hcall, rfl⟩, rfl⟩
    exact hcall
  · exact fun h => ⟨⟨key, time⟩, ⟨h, rfl⟩, rfl⟩

theorem times_append_self (log : Log) (key : String) (now : Instant) :
    times (log ++ [⟨key, now⟩]) key = times log key ++ [now] := by
  simp [times]

theorem times_append_of_ne (log : Log) {key other : String} (now : Instant) (h : other ≠ key) :
    times (log ++ [⟨key, now⟩]) other = times log other := by
  simp [times, h.symm]

/-- What is dropped from the front of a sorted list is all that is dropped anywhere. -/
theorem dropWhile_eq_filter {α : Type} {p : α → Bool} {l : List α}
    (h : l.Pairwise fun a b => p b = true → p a = true) : l.dropWhile p = l.filter (!p ·) := by
  induction l with
  | nil => rfl
  | cons a l ih =>
    obtain ⟨hhead, htail⟩ := List.pairwise_cons.mp h
    by_cases ha : p a = true
    · rw [List.dropWhile_cons_of_pos ha, List.filter_cons_of_neg (by simp [ha]), ih htail]
    · rw [List.dropWhile_cons_of_neg ha, List.filter_cons_of_pos (by simpa using ha)]
      congr 1
      refine (List.filter_eq_self.mpr fun b hb => ?_).symm
      simpa using mt (hhead b hb) ha

/-- The last element of a part at the end is the last one of the whole. -/
theorem getLast?_of_suffix {α : Type} {part whole : List α} (h : part <:+ whole) (hne : part ≠ []) :
    part.getLast? = whole.getLast? := by
  obtain ⟨front, rfl⟩ := h
  rw [List.getLast?_append, List.getLast?_eq_some_getLast hne, Option.some_or]

namespace OperatorRateLimiter

variable (limiter : OperatorRateLimiter)

/-- Whether a time lies in the half-open window that ends now. -/
def inWindow (now time : Instant) : Bool := time ≤ now && now.val < time.val + limiter.window

/-- The keys of the calls that were admitted in the window that ends now. -/
def windowKeys (log : Log) (now : Instant) : Finset String :=
  ((log.filter fun call => limiter.inWindow now call.now).map Call.key).toFinset

/-- No more keys were ever admitted within one window than may be remembered. -/
def Roomy (log : Log) : Prop :=
  ∀ call ∈ log, (limiter.windowKeys log call.now).card ≤ limiter.max_keys

/-- The reference: a call is admitted while fewer than `limit` admitted calls of its key lie
in the window that ends now. -/
def admits (log : Log) (call : Call) : Bool :=
  log.countP (fun past => past.key = call.key && limiter.inWindow call.now past.now) < limiter.limit

/-- The reference as an object; a window that begins before the calendar is an error. -/
def reference : Object Log Call (Except PyError Bool) := fun log call =>
  let answer := if call.now.val < limiter.window then .error .overflowError
    else .ok (limiter.admits log call)
  (answer, if answer = .ok true then log ++ [call] else log)

/-- The limiter as an object, with a log of the calls that it has admitted. -/
def logged : Object (Events × Log) Call (Except PyError Bool) := fun state call =>
  let result := limiter.allow state.1 call.key call.now
  (result.1, (result.2, if result.1 = .ok true then state.2 ++ [call] else state.2))

/-- What the limiter remembers, and the calls it has admitted, after some calls. -/
def after (calls : List Call) : Events × Log := limiter.logged.after (.empty, []) calls

/-! ## The invariant -/

/-- What the limiter remembers of the log, up to a time. -/
structure Tracks (log : Log) (now : Instant) (events : Events) : Prop where
  past : ∀ call ∈ log, call.now ≤ now
  ordered : log.Pairwise (·.now ≤ ·.now)
  /-- The times of a key are the last ones of the log. -/
  suffix : ∀ key values, events.get key = some values → values ≠ [] ∧ values <:+ times log key
  /-- A key that is not remembered has left the window or is older than all that are. -/
  absent : ∀ key, events.get key = none → ∀ time ∈ times log key,
    limiter.expired now time = true ∨ ∀ other, ∀ time' ∈ events.last other, time ≤ time'

/-- Nothing that lies in the window is forgotten. -/
def Exact (log : Log) (now : Instant) (events : Events) : Prop :=
  ∀ key, (times log key).filter (!limiter.expired now ·) =
    ((events.get key).getD []).filter (!limiter.expired now ·)

variable {limiter} {log : Log} {now later : Instant} {events : Events} {key : String}

theorem expired_mono (h : now ≤ later) {time : Instant} (hexpired : limiter.expired now time = true) :
    limiter.expired later time = true := by
  simp only [expired, decide_eq_true_eq] at *
  have := Fin.le_def.mp h
  omega

theorem Tracks.empty (now : Instant) : limiter.Tracks [] now .empty where
  past _ h := by cases h
  ordered := .nil
  suffix _ _ h := by cases h
  absent _ _ _ h := by cases h

theorem Exact.empty (now : Instant) : limiter.Exact [] now .empty := fun _ => rfl

namespace Tracks

theorem mono (h : limiter.Tracks log now events) (hnow : now ≤ later) :
    limiter.Tracks log later events where
  past call hcall := (h.past call hcall).trans hnow
  ordered := h.ordered
  suffix := h.suffix
  absent key hkey time htime := (h.absent key hkey time htime).imp_left (expired_mono hnow)

theorem filled (h : limiter.Tracks log now events) : Filled events :=
  fun key values hvalues => (h.suffix key values hvalues).1

theorem times_le (h : limiter.Tracks log now events) {time : Instant} (htime : time ∈ times log key) :
    time ≤ now := h.past _ (mem_times.mp htime)

theorem pairwise_times (h : limiter.Tracks log now events) (key : String) :
    (times log key).Pairwise (· ≤ ·) :=
  List.pairwise_map.mpr (h.ordered.sublist List.filter_sublist)

/-- The times of a key are in order. -/
theorem pairwise_values (h : limiter.Tracks log now events) (key : String) :
    ((events.get key).getD []).Pairwise (· ≤ ·) := by
  cases hvalues : events.get key with
  | none => exact .nil
  | some values =>
    exact (h.pairwise_times key).sublist (h.suffix key values hvalues).2.sublist

/-- The last time of a key is the last one of the log. -/
theorem last_eq (h : limiter.Tracks log now events) {time : Instant} (htime : time ∈ events.last key) :
    (times log key).getLast? = some time := by
  unfold Events.last at htime
  cases hvalues : events.get key with
  | none => rw [hvalues] at htime; cases htime
  | some values =>
    obtain ⟨hne, hsuffix⟩ := h.suffix key values hvalues
    rw [hvalues, Option.bind_some] at htime
    rw [← getLast?_of_suffix hsuffix hne]
    exact htime

/-- No time of a key is later than its last one. -/
theorem le_last (h : limiter.Tracks log now events) {time last : Instant}
    (htime : time ∈ times log key) (hlast : last ∈ events.last key) : time ≤ last := by
  obtain ⟨front, hfront⟩ := List.getLast?_eq_some_iff.mp (h.last_eq hlast)
  have hpairwise := h.pairwise_times key
  rw [hfront] at htime hpairwise
  rcases List.mem_append.mp htime with hmem | hmem
  · exact (List.pairwise_append.mp hpairwise).2.2 time hmem last List.mem_cons_self
  · exact (List.mem_singleton.mp hmem).le

theorem last_mem (h : limiter.Tracks log now events) {last : Instant} (hlast : last ∈ events.last key) :
    last ∈ times log key := List.mem_of_getLast? (h.last_eq hlast)

/-- Trimming the times of a key drops exactly those that have left the window. -/
theorem recent_eq (h : limiter.Tracks log now events) (key : String) (current : Instant) :
    limiter.recent events key current =
      ((events.get key).getD []).filter (!limiter.expired current ·) := by
  refine dropWhile_eq_filter ((h.pairwise_values key).imp fun {a b} hle hb => ?_)
  simp only [expired, decide_eq_true_eq] at *
  have := Fin.le_def.mp hle
  omega

theorem recent_suffix (h : limiter.Tracks log now events) (key : String) (current : Instant) :
    limiter.recent events key current <:+ times log key := by
  refine (List.dropWhile_suffix _).trans ?_
  cases hvalues : events.get key with
  | none => exact List.nil_suffix
  | some values => exact (h.suffix key values hvalues).2

/-- A refused call only trims the times of its key. -/
theorem refuse (h : limiter.Tracks log now events) {current : Instant} (hnow : now ≤ current)
    (hne : limiter.recent events key current ≠ []) :
    limiter.Tracks log current (events.set key (limiter.recent events key current)) ∧
      (∀ other, Events.last (events.set key (limiter.recent events key current)) other =
        events.last other) ∧
      key ∈ events.keys := by
  have hpresent : ∃ values, events.get key = some values := by
    by_contra hnone
    rw [← Option.ne_none_iff_exists', not_not] at hnone
    exact hne (by rw [recent, hnone]; rfl)
  obtain ⟨values, hvalues⟩ := hpresent
  have hlast (other : String) :
      Events.last (events.set key (limiter.recent events key current)) other = events.last other := by
    unfold Events.last
    rw [OrderedDict.get_set]
    split
    · next heq =>
      rw [heq, hvalues, Option.bind_some, Option.bind_some]
      refine getLast?_of_suffix ?_ hne
      rw [recent, hvalues]
      exact List.dropWhile_suffix _
    · rfl
  refine ⟨⟨(h.mono hnow).past, h.ordered, fun other values' hvalues' => ?_, fun other hother => ?_⟩,
    hlast, OrderedDict.mem_keys.mpr ⟨values, hvalues⟩⟩
  · rw [OrderedDict.get_set] at hvalues'
    split at hvalues'
    · next heq =>
      cases hvalues'
      rw [heq]
      exact ⟨hne, h.recent_suffix key current⟩
    · exact h.suffix other values' hvalues'
  · rw [OrderedDict.get_set] at hother
    split at hother
    · cases hother
    · intro time htime
      simp only [hlast]
      exact (h.mono hnow).absent other hother time htime

/-- An admitted call is remembered. -/
theorem admitted (h : limiter.Tracks log now events) {current : Instant} (hnow : now ≤ current)
    (key : String) :
    limiter.Tracks (log ++ [⟨key, current⟩]) current
      (events.set key (limiter.recent events key current ++ [current])) := by
  have hlast (other : String) (hne : other ≠ key) :
      Events.last (events.set key (limiter.recent events key current ++ [current])) other =
        events.last other := by
    rw [Events.last, OrderedDict.get_set, if_neg hne, Events.last]
  refine ⟨?_, ?_, fun other values hvalues => ?_, fun other hother time htime => ?_⟩
  · intro call hcall
    rcases List.mem_append.mp hcall with hcall | hcall
    · exact (h.past call hcall).trans hnow
    · rw [List.mem_singleton.mp hcall]
  · refine List.pairwise_append.mpr ⟨h.ordered, List.pairwise_singleton _ _, ?_⟩
    intro call hcall call' hcall'
    rw [List.mem_singleton.mp hcall']
    exact (h.past call hcall).trans hnow
  · rw [OrderedDict.get_set] at hvalues
    split at hvalues
    · next heq =>
      cases hvalues
      obtain ⟨front, hfront⟩ := h.recent_suffix key current
      rw [heq, times_append_self, ← hfront]
      exact ⟨by simp, ⟨front, by simp⟩⟩
    · next hne =>
      rw [times_append_of_ne _ _ hne]
      exact h.suffix other values hvalues
  · rw [OrderedDict.get_set] at hother
    split at hother
    · cases hother
    · next hne =>
      rw [times_append_of_ne _ _ hne] at htime
      refine ((h.mono hnow).absent other hother time htime).imp_right fun hold third time' htime' => ?_
      by_cases heq : third = key
      · have hcurrent : time' = current := by
          rw [heq, Events.last, OrderedDict.get_set_self, Option.bind_some,
            List.getLast?_concat] at htime'
          exact (Option.some.inj htime').symm
        rw [hcurrent]
        exact (h.times_le htime).trans hnow
      · rw [hlast third heq] at htime'
        exact hold third time' htime'

/-- Dropping keys keeps the invariant when the dropped ones are old or oldest. -/
theorem evict (h : limiter.Tracks log now events) {gone : List String}
    (hgone : limiter.Evicts events key now gone) (hlast : events.last key = some now) :
    limiter.Tracks log now (events.popAll gone) where
  past := h.past
  ordered := h.ordered
  suffix other values hvalues := by
    rw [OrderedDict.get_popAll] at hvalues
    split at hvalues
    · cases hvalues
    · exact h.suffix other values hvalues
  absent other hother time htime := by
    -- what is left of another key was there before
    have hkept {third : String} {time' : Instant}
        (htime' : time' ∈ Events.last (events.popAll gone) third) :
        third ∉ gone ∧ time' ∈ events.last third := by
      unfold Events.last at htime'
      rw [OrderedDict.get_popAll] at htime'
      split at htime'
      · cases htime'
      · next hnot => exact ⟨hnot, htime'⟩
    by_cases hin : other ∈ gone
    · obtain ⟨last, hlastother⟩ := last_of_mem_keys (hgone.present other hin) h.filled
      have hle : time ≤ last := h.le_last htime hlastother
      by_cases hold : limiter.Old events now other
      · have hexpired := hold last hlastother
        left
        simp only [expired, decide_eq_true_eq] at *
        have := Fin.le_def.mp hle
        omega
      · right
        intro third time' htime'
        obtain ⟨hnot, hevents⟩ := hkept htime'
        by_cases heq : third = key
        · rw [heq, hlast] at hevents
          rw [← Option.some.inj hevents]
          exact h.times_le htime
        · have hthird : third ∈ events.keys := by
            by_contra habsent
            rw [Events.last, OrderedDict.get_eq_none.mpr habsent] at hevents
            cases hevents
          exact hle.trans
            (hgone.oldest_first other hin hold third hthird hnot heq last hlastother time' hevents)
    · rw [OrderedDict.get_popAll, if_neg hin] at hother
      exact (h.absent other hother time htime).imp_right
        fun hold third time' htime' => hold third time' (hkept htime').2

/-- A key that has not left the window is one of those of the window. -/
theorem mem_windowKeys (h : limiter.Tracks log now events) (hkey : ¬limiter.Old events now key) :
    key ∈ limiter.windowKeys log now := by
  simp only [Old, not_forall, exists_prop] at hkey
  obtain ⟨last, hlast, hyoung⟩ := hkey
  have hmem := h.last_mem hlast
  simp only [windowKeys, List.mem_toFinset, List.mem_map, List.mem_filter]
  refine ⟨⟨key, last⟩, ⟨mem_times.mp hmem, ?_⟩, rfl⟩
  have hle := h.times_le hmem
  simp only [expired, decide_eq_true_eq] at hyoung
  simp only [inWindow, Bool.and_eq_true, decide_eq_true_eq]
  exact ⟨hle, by omega⟩

/-- The keys that stay are as many as may be remembered, when any are dropped. -/
theorem length_kept {gone : List String} (hgone : limiter.Evicts events key now gone)
    {lost : String} (hlost : lost ∈ gone) :
    (events.popAll gone).keys.length = limiter.max_keys := by
  have hlength := OrderedDict.length_popAll hgone.nodup hgone.present
  have hpositive := List.length_pos_of_mem hlost
  have hneeded := hgone.needed
  rw [OrderedDict.length_keys]
  omega

/-- While the window has room, only keys that have left it are dropped. -/
theorem old_of_roomy (h : limiter.Tracks log now events) {gone : List String}
    (hgone : limiter.Evicts events key now gone)
    (hroom : (limiter.windowKeys log now).card ≤ limiter.max_keys) {lost : String}
    (hlost : lost ∈ gone) : limiter.Old events now lost := by
  by_contra hyoung
  -- otherwise this key and all that stay are in the window
  have hsub : (lost :: (events.popAll gone).keys).toFinset ⊆ limiter.windowKeys log now := by
    intro other hother
    rcases List.mem_cons.mp (List.mem_toFinset.mp hother) with rfl | hother
    · exact h.mem_windowKeys hyoung
    · obtain ⟨hmem, hnot⟩ := mem_keys_popAll.mp hother
      exact h.mem_windowKeys fun hold => hyoung (hgone.old_first lost hlost other hmem hnot hold)
  have hnodup : (lost :: (events.popAll gone).keys).Nodup :=
    List.nodup_cons.mpr ⟨fun hin => (mem_keys_popAll.mp hin).2 hlost, OrderedDict.nodup_keys _⟩
  have hcard := Finset.card_le_card hsub
  rw [List.toFinset_card_of_nodup hnodup, List.length_cons, length_kept hgone hlost] at hcard
  omega

/-- When the window has no room, what is dropped is older than what stays. -/
theorem oldest_of_crowded (h : limiter.Tracks log now events) {gone : List String}
    (hgone : limiter.Evicts events key now gone) (hlast : events.last key = some now)
    (hcrowded : limiter.max_keys < (limiter.windowKeys log now).card) {lost kept : String}
    (hlost : lost ∈ gone) (hkept : kept ∈ events.keys) (hnot : kept ∉ gone) {time time' : Instant}
    (htime : time ∈ events.last lost) (htime' : time' ∈ events.last kept) : time ≤ time' := by
  by_cases hold : limiter.Old events now lost
  · -- otherwise a key stays that has left the window, and so few are in it
    by_contra hlt
    have hlt : time' < time := not_le.mp hlt
    have hkeptold : limiter.Old events now kept := by
      intro last hlastkept
      rw [Option.mem_def.mp htime'] at hlastkept
      cases hlastkept
      have hexpired := hold time htime
      simp only [expired, decide_eq_true_eq] at *
      have := Fin.lt_def.mp hlt
      omega
    have hsub : limiter.windowKeys log now ⊆ (events.popAll gone).keys.toFinset.erase kept := by
      intro other hother
      simp only [windowKeys, List.mem_toFinset, List.mem_map, List.mem_filter] at hother
      obtain ⟨call, ⟨hcall, hwindow⟩, rfl⟩ := hother
      have hcalltime : call.now ∈ times log call.key := mem_times.mpr hcall
      simp only [inWindow, Bool.and_eq_true, decide_eq_true_eq] at hwindow
      have hyoung (older : Instant) (hle : call.now ≤ older) : ¬limiter.expired now older = true := by
        have := Fin.le_def.mp hle
        simp only [expired, decide_eq_true_eq]
        omega
      have hpresent : call.key ∈ events.keys := by
        by_contra habsent
        rcases h.absent _ (OrderedDict.get_eq_none.mpr habsent) _ hcalltime with hexpired | holdest
        · exact hyoung _ le_rfl hexpired
        · exact hyoung _ (holdest kept time' htime') (hkeptold time' htime')
      have hcallyoung : ¬limiter.Old events now call.key := by
        intro hcallold
        obtain ⟨last, hlastcall⟩ := last_of_mem_keys hpresent h.filled
        exact hyoung last (h.le_last hcalltime hlastcall) (hcallold last hlastcall)
      rw [Finset.mem_erase, List.mem_toFinset, mem_keys_popAll]
      refine ⟨fun heq => hcallyoung (heq ▸ hkeptold), hpresent, fun hin => hcallyoung ?_⟩
      exact hgone.old_first _ hin kept hkept hnot hkeptold
    have hmem : kept ∈ (events.popAll gone).keys.toFinset :=
      List.mem_toFinset.mpr (mem_keys_popAll.mpr ⟨hkept, hnot⟩)
    have hcard := Finset.card_le_card hsub
    rw [Finset.card_erase_of_mem hmem, List.toFinset_card_of_nodup (OrderedDict.nodup_keys _),
      length_kept hgone hlost] at hcard
    omega
  · by_cases heq : kept = key
    · rw [heq, hlast] at htime'
      cases htime'
      exact h.times_le (h.last_mem htime)
    · exact hgone.oldest_first lost hlost hold kept hkept hnot heq time htime time' htime'

end Tracks

namespace Exact

/-- What has left the window once does not come back into it. -/
theorem mono (h : limiter.Exact log now events) (hnow : now ≤ later) :
    limiter.Exact log later events := by
  have hnarrow (l : List Instant) : l.filter (!limiter.expired later ·) =
      (l.filter (!limiter.expired now ·)).filter (!limiter.expired later ·) := by
    rw [List.filter_filter]
    refine List.filter_congr fun time _ => ?_
    cases hexpired : limiter.expired now time with
    | false => simp
    | true => simp [expired_mono hnow hexpired]
  intro key
  rw [hnarrow, h key, ← hnarrow]

/-- A refused call forgets nothing of the window. -/
theorem refuse (h : limiter.Exact log now events) (htracks : limiter.Tracks log now events)
    (key : String) :
    limiter.Exact log now (events.set key (limiter.recent events key now)) := by
  intro other
  rw [OrderedDict.get_set]
  split
  · next heq =>
    rw [heq, h key, Option.getD_some, htracks.recent_eq, List.filter_filter]
    simp
  · exact h other

theorem admitted (h : limiter.Exact log now events) (htracks : limiter.Tracks log now events)
    (key : String) :
    limiter.Exact (log ++ [⟨key, now⟩]) now
      (events.set key (limiter.recent events key now ++ [now])) := by
  intro other
  rw [OrderedDict.get_set]
  split
  · next heq =>
    rw [heq, times_append_self, Option.getD_some, List.filter_append, List.filter_append, h key,
      htracks.recent_eq, List.filter_filter]
    simp
  · next hne =>
    rw [times_append_of_ne _ _ hne]
    exact h other

/-- Nothing of the window is forgotten with keys that have left it. -/
theorem evict (h : limiter.Exact log now events) (htracks : limiter.Tracks log now events)
    {gone : List String} (hgone : limiter.Evicts events key now gone)
    (hold : ∀ lost ∈ gone, limiter.Old events now lost) :
    limiter.Exact log now (events.popAll gone) := by
  intro other
  rw [OrderedDict.get_popAll]
  split
  · next hin =>
    obtain ⟨last, hlast⟩ := last_of_mem_keys (hgone.present other hin) htracks.filled
    rw [Option.getD_none, List.filter_nil, List.filter_eq_nil_iff]
    intro time htime
    have hexpired := hold other hin last hlast
    have hle := Fin.le_def.mp (htracks.le_last htime hlast)
    simp only [expired, decide_eq_true_eq, Bool.not_eq_true', decide_eq_false_iff_not] at *
    omega
  · exact h other

/-- With nothing forgotten, the limiter counts what the reference counts. -/
theorem length_recent (h : limiter.Exact log now events) (htracks : limiter.Tracks log now events)
    (key : String) :
    decide ((limiter.recent events key now).length < limiter.limit) =
      limiter.admits log ⟨key, now⟩ := by
  have hcount : (limiter.recent events key now).length =
      log.countP fun past => past.key = key && limiter.inWindow now past.now := by
    rw [htracks.recent_eq, ← h key, times, List.filter_map, List.length_map,
      List.filter_filter, List.countP_eq_length_filter]
    congr 1
    refine List.filter_congr fun past hpast => ?_
    have hle := htracks.past past hpast
    rw [Bool.and_comm]
    congr 1
    simp only [Function.comp_apply, inWindow, expired, hle, decide_true, Bool.true_and]
    rw [← decide_not, decide_eq_decide]
    omega
  rw [admits, hcount]

end Exact

/-! ## One call -/

variable (limiter) in
/-- What a call answers and what it leaves, by the log of the admitted calls. -/
structure Slides (state : Events × Log) (call : Call) (answer : Except PyError Bool)
    (next : Events × Log) : Prop where
  /-- A window that begins before the calendar is an error without effect. -/
  calendar : call.now.val < limiter.window → answer = .error .overflowError ∧ next = state
  /-- No other call raises. -/
  total : limiter.window ≤ call.now.val → ∃ admitted, answer = .ok admitted
  bounded : next.1.length ≤ limiter.max_keys
  /-- The key that was just admitted is remembered. -/
  self : answer = .ok true → call.key ∈ next.1.keys
  /-- The history of another key is lost as a whole or not at all. -/
  others : ∀ other ∈ next.1.keys, other ≠ call.key → next.1.get other = state.1.get other
  /-- What is lost has left the window while this has room, and is the oldest otherwise. -/
  lost : ∀ lost ∈ state.1.keys, lost ∉ next.1.keys → lost ≠ call.key ∧
    ∀ time ∈ (times state.2 lost).getLast?,
      if (limiter.windowKeys next.2 call.now).card ≤ limiter.max_keys then
        limiter.expired call.now time = true
      else ∀ kept ∈ next.1.keys, ∀ time' ∈ (times next.2 kept).getLast?, time ≤ time'

theorem last_eq_some_of_log {events : Events} {log : Log} {now : Instant}
    (h : limiter.Tracks log now events) (hkey : key ∈ events.keys) {time : Instant}
    (htime : time ∈ (times log key).getLast?) : time ∈ events.last key := by
  obtain ⟨last, hlast⟩ := last_of_mem_keys hkey h.filled
  rw [h.last_eq hlast] at htime
  exact (Option.some.inj htime) ▸ hlast

variable {state : Events × Log} {call : Call}

/-- One call keeps the invariants and does what the reference does. -/
theorem logged_spec (hlimit : 1 ≤ limiter.limit) (hwindow : 0 < limiter.window)
    (hkeys : 1 ≤ limiter.max_keys) (h : limiter.Tracks state.2 call.now state.1)
    (hbounded : state.1.length ≤ limiter.max_keys) :
    limiter.Slides state call (limiter.logged state call).1 (limiter.logged state call).2 ∧
      limiter.Tracks (limiter.logged state call).2.2 call.now (limiter.logged state call).2.1 ∧
      (limiter.Exact state.2 call.now state.1 →
        (limiter.logged state call).1 = (limiter.reference state.2 call).1 ∧
          ((limiter.windowKeys (limiter.logged state call).2.2 call.now).card ≤ limiter.max_keys ∨
              (limiter.logged state call).1 ≠ .ok true →
            limiter.Exact (limiter.logged state call).2.2 call.now (limiter.logged state call).2.1)) := by
  obtain ⟨events, log⟩ := state
  obtain ⟨key, now⟩ := call
  simp only at h hbounded
  rcases allow_cases hwindow hkeys h.filled key now with
    ⟨hbefore, hallow⟩ | ⟨hbegun, hfull, hallow⟩ | ⟨hbegun, hfew, gone, hgone, hallow⟩
  · -- the window begins before the calendar
    have hlogged : limiter.logged (events, log) ⟨key, now⟩ = (.error .overflowError, (events, log)) := by
      simp [logged, hallow]
    rw [hlogged]
    refine ⟨⟨fun _ => ⟨rfl, rfl⟩, fun hbegun => ?_, hbounded, fun hok => ?_, fun _ _ _ => rfl, ?_⟩, h,
      fun hexact => ⟨?_, fun _ => hexact⟩⟩
    · exact absurd hbegun (by simp only; omega)
    · cases hok
    · exact fun lost hmem hnot => (hnot hmem).elim
    · simp [reference, hbefore]
  · -- too many calls of the key are in the window
    have hlogged : limiter.logged (events, log) ⟨key, now⟩ =
        (.ok false, (events.set key (limiter.recent events key now), log)) := by
      simp [logged, hallow]
    have hne : limiter.recent events key now ≠ [] := by
      intro hnil
      rw [hnil, List.length_nil] at hfull
      omega
    obtain ⟨htracks, hlast, hmem⟩ := h.refuse le_rfl hne
    have hkeyset : (events.set key (limiter.recent events key now)).keys = events.keys := by
      rw [OrderedDict.keys_set, if_pos hmem]
    rw [hlogged]
    refine ⟨⟨fun hbefore => ?_, fun _ => ⟨false, rfl⟩, ?_, fun hok => ?_, fun other _ hother => ?_, ?_⟩,
      htracks, fun hexact => ⟨?_, fun _ => hexact.refuse h key⟩⟩
    · exact absurd hbegun (by simp only at hbefore; omega)
    · rwa [OrderedDict.length_set_of_mem hmem]
    · cases hok
    · exact OrderedDict.get_set_of_ne _ _ hother
    · intro lost hlost hnot
      exact (hnot (by rw [hkeyset]; exact hlost)).elim
    · have hadmits := hexact.length_recent h key
      rw [decide_eq_false (not_lt.mpr hfull)] at hadmits
      simp [reference, ← hadmits, not_lt.mpr hbegun]
  · -- the call is admitted
    have hlogged : limiter.logged (events, log) ⟨key, now⟩ =
        (.ok true, ((events.set key (limiter.recent events key now ++ [now])).popAll gone,
          log ++ [⟨key, now⟩])) := by
      simp [logged, hallow]
    have htracks := h.admitted le_rfl key
    have hself : (events.set key (limiter.recent events key now ++ [now])).get key =
        some (limiter.recent events key now ++ [now]) := OrderedDict.get_set_self _ _ _
    have hlast : Events.last (events.set key (limiter.recent events key now ++ [now])) key = some now := by
      rw [Events.last, hself, Option.bind_some, List.getLast?_concat]
    have hpresent : key ∈ (events.set key (limiter.recent events key now ++ [now])).keys :=
      OrderedDict.mem_keys.mpr ⟨_, hself⟩
    have hafter := htracks.evict hgone hlast
    rw [hlogged]
    refine ⟨⟨fun hbefore => ?_, fun _ => ⟨true, rfl⟩, ?_, fun _ => ?_, fun other hmem hother => ?_,
      fun lost hmem hnot => ?_⟩, hafter, fun hexact => ⟨?_, fun hroom => ?_⟩⟩
    · exact absurd hbegun (by simp only at hbefore; omega)
    · have hlength := OrderedDict.length_popAll hgone.nodup hgone.present
      have hneeded := hgone.needed
      simp only
      omega
    · exact mem_keys_popAll.mpr ⟨hpresent, hgone.other⟩
    · rw [OrderedDict.get_popAll, if_neg (mem_keys_popAll.mp hmem).2,
        OrderedDict.get_set_of_ne _ _ hother]
    · have hmemset : lost ∈ (events.set key (limiter.recent events key now ++ [now])).keys := by
        rw [OrderedDict.keys_set]
        split
        · exact hmem
        · exact List.mem_append_left _ hmem
      have hlost : lost ∈ gone := by
        by_contra hkept
        exact hnot (mem_keys_popAll.mpr ⟨hmemset, hkept⟩)
      have hne : lost ≠ key := fun heq => hgone.other (heq ▸ hlost)
      refine ⟨hne, fun time htime => ?_⟩
      rw [← times_append_of_ne log now hne] at htime
      have htime := last_eq_some_of_log htracks hmemset htime
      split
      · next hroom => exact htracks.old_of_roomy hgone hroom hlost time htime
      · next hcrowded =>
        intro kept hkept time' htime'
        obtain ⟨hkeptset, hkeptnot⟩ := mem_keys_popAll.mp hkept
        exact htracks.oldest_of_crowded hgone hlast (not_le.mp hcrowded) hlost hkeptset hkeptnot htime
          (last_eq_some_of_log htracks hkeptset htime')
    · have hadmits := hexact.length_recent h key
      rw [decide_eq_true hfew] at hadmits
      simp [reference, ← hadmits, not_lt.mpr hbegun]
    · have hroom := hroom.resolve_right fun hrefused => hrefused rfl
      exact (hexact.admitted h key).evict htracks hgone fun lost hlost =>
        htracks.old_of_roomy hgone hroom hlost

/-! ## Runs -/

theorem after_concat (calls : List Call) (call : Call) :
    limiter.after (calls ++ [call]) = (limiter.logged (limiter.after calls) call).2 :=
  Object.after_concat _ calls call

theorem windowKeys_subset {log log' : Log} (h : log ⊆ log') (now : Instant) :
    limiter.windowKeys log now ⊆ limiter.windowKeys log' now := by
  intro other hother
  simp only [windowKeys, List.mem_toFinset, List.mem_map, List.mem_filter] at *
  obtain ⟨call, ⟨hcall, hwindow⟩, hkey⟩ := hother
  exact ⟨call, ⟨h hcall, hwindow⟩, hkey⟩

/-- A part of a log that has room has room. -/
theorem Roomy.subset {log log' : Log} (h : limiter.Roomy log') (hsub : log ⊆ log') :
    limiter.Roomy log := fun call hcall =>
  (Finset.card_le_card (windowKeys_subset hsub call.now)).trans (h call (hsub hcall))

/-- A log only grows. -/
theorem subset_extended (log : Log) (call : Call) (answer : Except PyError Bool) :
    log ⊆ if answer = .ok true then log ++ [call] else log := by
  split
  · exact List.subset_append_left _ _
  · exact List.Subset.refl _

/-- The invariants hold after every run in which time does not go back. -/
theorem tracks_after (hlimit : 1 ≤ limiter.limit) (hwindow : 0 < limiter.window)
    (hkeys : 1 ≤ limiter.max_keys) (calls : List Call) (hordered : calls.Pairwise (·.now ≤ ·.now)) :
    ∀ now, (∀ call ∈ calls, call.now ≤ now) →
      limiter.Tracks (limiter.after calls).2 now (limiter.after calls).1 ∧
      (limiter.after calls).1.length ≤ limiter.max_keys ∧
      (limiter.Roomy (limiter.after calls).2 →
        limiter.Exact (limiter.after calls).2 now (limiter.after calls).1) := by
  induction calls using List.reverseRecOn with
  | nil => exact fun now _ => ⟨.empty now, Nat.zero_le _, fun _ => .empty now⟩
  | append_singleton calls call ih =>
    intro now hnow
    obtain ⟨hbefore, -, hle⟩ := List.pairwise_append.mp hordered
    have hpast : ∀ earlier ∈ calls, earlier.now ≤ call.now :=
      fun earlier hearlier => hle earlier hearlier call List.mem_cons_self
    obtain ⟨htracks, hbounded, hexact⟩ := ih hbefore call.now hpast
    obtain ⟨hslides, hnext, hreference⟩ := logged_spec hlimit hwindow hkeys htracks hbounded
    have hcall : call.now ≤ now := hnow call (by simp)
    rw [after_concat]
    refine ⟨hnext.mono hcall, hslides.bounded, fun hroomy => ?_⟩
    have hlog : (limiter.after calls).2 ⊆ (limiter.logged (limiter.after calls) call).2.2 :=
      subset_extended _ _ _
    refine Exact.mono ((hreference (hexact (hroomy.subset hlog))).2 ?_) hcall
    by_cases hadmitted : (limiter.logged (limiter.after calls) call).1 = .ok true
    · left
      refine hroomy call ?_
      have hresult : (limiter.allow (limiter.after calls).1 call.key call.now).1 = .ok true := hadmitted
      simp [logged, hresult]
    · exact .inr hadmitted

/-- The limiter and the reference answer every run alike in which the window always has room. -/
theorem answers_eq_reference (hlimit : 1 ≤ limiter.limit) (hwindow : 0 < limiter.window)
    (hkeys : 1 ≤ limiter.max_keys) (calls : List Call) (hordered : calls.Pairwise (·.now ≤ ·.now))
    (hroomy : limiter.Roomy (limiter.reference.after [] calls)) :
    (limiter.logged.run (.empty, []) calls).1 = (limiter.reference.run [] calls).1 ∧
      (limiter.after calls).2 = limiter.reference.after [] calls := by
  induction calls using List.reverseRecOn with
  | nil => exact ⟨rfl, rfl⟩
  | append_singleton calls call ih =>
    obtain ⟨hbefore, -, hle⟩ := List.pairwise_append.mp hordered
    rw [Object.after_concat] at hroomy
    have hlog : limiter.reference.after [] calls ⊆
        (limiter.reference (limiter.reference.after [] calls) call).2 := subset_extended _ _ _
    obtain ⟨hanswers, hlogs⟩ := ih hbefore (hroomy.subset hlog)
    obtain ⟨htracks, hbounded, hexact⟩ := tracks_after hlimit hwindow hkeys calls hbefore call.now
      fun earlier hearlier => hle earlier hearlier call List.mem_cons_self
    have hexact := hexact (hlogs ▸ hroomy.subset hlog)
    have hanswer := ((logged_spec hlimit hwindow hkeys htracks hbounded).2.2 hexact).1
    rw [hlogs] at hanswer
    refine ⟨?_, ?_⟩
    · rw [Object.run_concat, Object.run_concat, hanswers]
      exact congrArg _ (congrArg ([·]) hanswer)
    · rw [after_concat, Object.after_concat, ← hlogs]
      show (if (limiter.logged (limiter.after calls) call).1 = .ok true then _ else _) = _
      rw [hanswer, ← hlogs]
      rfl

/-- Every call of a run in which time does not go back slides the window, and while the window
has room the limiter is the reference. -/
theorem allow_slides (hlimit : 1 ≤ limiter.limit) (hwindow : 0 < limiter.window)
    (hkeys : 1 ≤ limiter.max_keys) :
    (∀ (calls : List Call) (call : Call), (calls ++ [call]).Pairwise (·.now ≤ ·.now) →
      limiter.Slides (limiter.after calls) call (limiter.logged (limiter.after calls) call).1
          (limiter.after (calls ++ [call])) ∧
        (limiter.Roomy (limiter.after calls).2 →
          (limiter.logged (limiter.after calls) call).1 =
            (limiter.reference (limiter.after calls).2 call).1)) ∧
      ∀ calls : List Call, calls.Pairwise (·.now ≤ ·.now) →
        limiter.Roomy (limiter.reference.after [] calls) →
          (limiter.logged.run (.empty, []) calls).1 = (limiter.reference.run [] calls).1 := by
  refine ⟨fun calls call hordered => ?_, fun calls hordered hroomy =>
    (answers_eq_reference hlimit hwindow hkeys calls hordered hroomy).1⟩
  obtain ⟨hbefore, -, hle⟩ := List.pairwise_append.mp hordered
  obtain ⟨htracks, hbounded, hexact⟩ := tracks_after hlimit hwindow hkeys calls hbefore call.now
    fun earlier hearlier => hle earlier hearlier call List.mem_cons_self
  obtain ⟨hslides, -, hreference⟩ := logged_spec hlimit hwindow hkeys htracks hbounded
  rw [after_concat]
  exact ⟨hslides, fun hroomy => (hreference (hexact hroomy)).1⟩

/-- The limiter of the tests, at a time at which its window has room. -/
theorem allow_slides_login :
    let limiter : OperatorRateLimiter := ⟨2, 60000000, 2⟩
    let call : Call := ⟨"operator:a", ⟨120000000, by decide⟩⟩
    limiter.Slides (limiter.after [call, call]) call
      (limiter.logged (limiter.after [call, call]) call).1 (limiter.after ([call, call] ++ [call])) :=
  ((@allow_slides ⟨2, 60000000, 2⟩ (by decide) (by decide) (by decide)).1 _ _
    (by decide)).1

/-- A call in the first second of the calendar raises, so that not every call answers. -/
theorem allow_raises :
    ¬∀ limiter : OperatorRateLimiter, 1 ≤ limiter.limit → 0 < limiter.window → 1 ≤ limiter.max_keys →
      ∀ calls : List Call, calls.Pairwise (·.now ≤ ·.now) →
        ∀ answer ∈ (limiter.logged.run (.empty, []) calls).1, ∃ admitted, answer = .ok admitted := by
  intro h
  have hanswer := h ⟨1, 60000000, 1⟩ (by decide) (by decide) (by decide)
    [⟨"operator:a", ⟨0, by decide⟩⟩] (by decide) (.error .overflowError) (by decide)
  obtain ⟨admitted, hadmitted⟩ := hanswer
  cases hadmitted

end OperatorRateLimiter

end AtlasOS.OperatorAuth
