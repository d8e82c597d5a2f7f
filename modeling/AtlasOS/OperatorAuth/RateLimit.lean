import AtlasOS.Lib.Json
import AtlasOS.Lib.Objects
import AtlasOS.Lib.OrderedDict
import AtlasOS.Lib.Rows

/-!
# The rate limiter of operators

`OperatorRateLimiter.allow` keeps the times of the admitted calls of every key, in
the order in which the keys came. It trims the times of the key that calls and,
when there are too many keys, drops some of them: first those whose last call has
left the window, then those whose last call is the oldest.
-/

namespace AtlasOS.OperatorAuth

/-- A reading of the UTC clock. -/
abbrev Instant := Fin MAX_MICROS

/-- `OperatorRateLimiter`, without what it remembers. -/
structure OperatorRateLimiter where
  limit : ℕ
  /-- The window in microseconds. -/
  window : ℕ
  max_keys : ℕ

/-- `self._events` -/
abbrev Events := OrderedDict (List Instant)

/-- `values[-1]` for the times of a key. -/
def Events.last (events : Events) (key : String) : Option Instant :=
  (events.get key).bind List.getLast?

namespace OperatorRateLimiter

variable (limiter : OperatorRateLimiter)

/-- Whether a time has left the window, `time <= current - self.window`. -/
def expired (current time : Instant) : Bool := time.val + limiter.window ≤ current.val

/-- `cutoff`, from which on times are in the window; dates begin with the year 1. -/
def cutoff (current : Instant) : Except PyError Instant :=
  if limiter.window ≤ current.val then
    .ok ⟨current.val - limiter.window, (Nat.sub_le _ _).trans_lt current.isLt⟩
  else .error .overflowError

/-- `empty_or_old` -/
def emptyOrOld (events : Events) (cutoff : Instant) : List String :=
  (events.items.filter fun item => item.2.getLast?.all (· ≤ cutoff)).map Prod.fst

/-- `self._events[item_key][-1]`, the key by which the oldest are found. -/
def lastEvent (item : String × List Instant) : Except PyError (String × Instant) :=
  match item.2.getLast? with
  | some last => .ok (item.1, last)
  | none => .error .indexError

/-- `oldest` -/
def oldest (events : Events) (key : String) : Except PyError (List String) := do
  let lasts ← (events.items.filter (·.1 ≠ key)).mapM lastEvent
  return (Rows.orderBy Prod.snd lasts).map Prod.fst

/-- `allow`, once the call is admitted and its time is remembered. -/
def evict (events : Events) (key : String) (cutoff : Instant) : Except PyError Bool × Events :=
  if limiter.max_keys < events.length then
    let empty_or_old := emptyOrOld events cutoff
    let events := events.popAll (empty_or_old.take (events.length - limiter.max_keys))
    let overflow := events.length - limiter.max_keys
    if 0 < overflow then
      match oldest events key with
      | .ok oldest => (.ok true, events.popAll (oldest.take overflow))
      | .error e => (.error e, events)
    else (.ok true, events)
  else (.ok true, events)

/-- `allow` -/
def allow (events : Events) (key : String) (current : Instant) : Except PyError Bool × Events :=
  match limiter.cutoff current with
  | .error e => (.error e, events)
  | .ok cutoff =>
      let values := ((events.get key).getD []).dropWhile (· ≤ cutoff)
      let events := events.set key values
      if limiter.limit ≤ values.length then (.ok false, events)
      else limiter.evict (events.set key (values ++ [current])) key cutoff

/-! ## What is dropped -/

/-- Every key that is remembered has a time. -/
def Filled (events : Events) : Prop := ∀ key values, events.get key = some values → values ≠ []

/-- All that is remembered of a key has left the window. -/
def Old (events : Events) (current : Instant) (key : String) : Prop :=
  ∀ time ∈ events.last key, limiter.expired current time = true

/-- The keys `gone` may be dropped after `key` was admitted. -/
structure Evicts (events : Events) (key : String) (current : Instant) (gone : List String) :
    Prop where
  /-- They are remembered. -/
  present : ∀ lost ∈ gone, lost ∈ events.keys
  nodup : gone.Nodup
  /-- The admitted key stays. -/
  other : key ∉ gone
  /-- No more are dropped than there are too many. -/
  needed : gone.length = events.length - limiter.max_keys
  /-- While a key stays that has left the window, only such keys go. -/
  old_first : ∀ lost ∈ gone, ∀ kept ∈ events.keys, kept ∉ gone →
    limiter.Old events current kept → limiter.Old events current lost
  /-- What goes besides is older than the others that stay. -/
  oldest_first : ∀ lost ∈ gone, ¬limiter.Old events current lost →
    ∀ kept ∈ events.keys, kept ∉ gone → kept ≠ key →
      ∀ time ∈ events.last lost, ∀ time' ∈ events.last kept, time ≤ time'

variable {limiter} {events : Events} {key : String} {current cut : Instant}

theorem cutoff_eq_ok (h : limiter.cutoff current = .ok cut) (time : Instant) :
    decide (time ≤ cut) = limiter.expired current time := by
  unfold cutoff at h
  split at h
  · next hwindow =>
    cases h
    rw [expired, decide_eq_decide, Fin.le_def]
    show time.val ≤ current.val - limiter.window ↔ _
    omega
  · cases h

theorem last_of_mem {item : String × List Instant} (h : item ∈ events.items) :
    events.last item.1 = item.2.getLast? := by
  rw [Events.last, OrderedDict.get_eq_some.mpr h, Option.bind_some]

theorem last_of_mem_keys (h : key ∈ events.keys) (hfilled : Filled events) :
    ∃ time, events.last key = some time := by
  obtain ⟨values, hvalues⟩ := OrderedDict.mem_keys.mp h
  have hne := hfilled key values hvalues
  exact ⟨_, by rw [Events.last, hvalues, Option.bind_some, List.getLast?_eq_some_getLast hne]⟩

/-- The keys that are dropped first are those that have left the window. -/
theorem mem_emptyOrOld (hcut : limiter.cutoff current = .ok cut) :
    key ∈ emptyOrOld events cut ↔ key ∈ events.keys ∧ limiter.Old events current key := by
  have hold (item : String × List Instant) (hitem : item ∈ events.items) :
      item.2.getLast?.all (· ≤ cut) = true ↔ limiter.Old events current item.1 := by
    rw [Old, last_of_mem hitem]
    simp only [Option.all_eq_true, cutoff_eq_ok hcut, Option.mem_def]
  simp only [emptyOrOld, OrderedDict.keys, List.mem_map, List.mem_filter]
  constructor
  · rintro ⟨item, ⟨hitem, hall⟩, rfl⟩
    exact ⟨⟨item, hitem, rfl⟩, (hold item hitem).mp hall⟩
  · rintro ⟨⟨item, hitem, rfl⟩, h⟩
    exact ⟨item, ⟨hitem, (hold item hitem).mpr h⟩, rfl⟩

theorem nodup_emptyOrOld (events : Events) (cut : Instant) : (emptyOrOld events cut).Nodup :=
  events.nodup.sublist (List.filter_sublist.map Prod.fst)

/-- The other keys are found in the order of their last calls. -/
theorem exists_oldest (hfilled : Filled events) (key : String) :
    ∃ keys, oldest events key = .ok keys ∧ keys.Nodup ∧
      (∀ other, other ∈ keys ↔ other ∈ events.keys ∧ other ≠ key) ∧
      keys.Pairwise fun first second =>
        ∀ time ∈ events.last first, ∀ time' ∈ events.last second, time ≤ time' := by
  let others := events.items.filter (·.1 ≠ key)
  -- every key has a last call, so that a default time for the others does not matter
  let lasts := others.map fun item => (item.1, item.2.getLast?.getD ⟨0, by decide⟩)
  have hlast (item : String × List Instant) (hitem : item ∈ others) :
      lastEvent item = .ok (item.1, item.2.getLast?.getD ⟨0, by decide⟩) := by
    have hmem := (List.mem_filter.mp hitem).1
    have hne := hfilled item.1 item.2 (OrderedDict.get_eq_some.mpr hmem)
    rw [lastEvent, List.getLast?_eq_some_getLast hne, Option.getD_some]
  have hperm : ((Rows.orderBy Prod.snd lasts).map Prod.fst).Perm (others.map Prod.fst) := by
    have hfst : lasts.map Prod.fst = others.map Prod.fst := by simp [lasts]
    exact hfst ▸ (Rows.orderBy_perm Prod.snd lasts).map Prod.fst
  refine ⟨_, by rw [oldest, mapM_eq_ok_map hlast]; rfl, ?_, fun other => ?_, ?_⟩
  · exact hperm.nodup_iff.mpr (events.nodup.sublist (List.filter_sublist.map Prod.fst))
  · rw [hperm.mem_iff]
    simp only [others, OrderedDict.keys, List.mem_map, List.mem_filter, decide_eq_true_eq]
    constructor
    · rintro ⟨item, ⟨hitem, hne⟩, rfl⟩
      exact ⟨⟨item, hitem, rfl⟩, hne⟩
    · rintro ⟨⟨item, hitem, rfl⟩, hne⟩
      exact ⟨item, ⟨hitem, hne⟩, rfl⟩
  · have hpair : ∀ pair ∈ Rows.orderBy Prod.snd lasts, ∀ time ∈ events.last pair.1, time = pair.2 := by
      intro pair hpair time htime
      rw [Rows.mem_orderBy, List.mem_map] at hpair
      obtain ⟨item, hitem, rfl⟩ := hpair
      rw [last_of_mem (List.mem_filter.mp hitem).1] at htime
      rw [Option.mem_def.mp htime, Option.getD_some]
    rw [List.pairwise_map]
    refine (Rows.pairwise_orderBy Prod.snd lasts).imp_of_mem ?_
    intro first second hfirst hsecond hle time htime time' htime'
    rw [hpair first hfirst time htime, hpair second hsecond time' htime']
    exact hle

theorem Evicts.nil (h : events.length ≤ limiter.max_keys) : limiter.Evicts events key current [] where
  present _ hlost := by cases hlost
  nodup := .nil
  other := List.not_mem_nil
  needed := by rw [List.length_nil, Nat.sub_eq_zero_of_le h]
  old_first _ hlost := by cases hlost
  oldest_first _ hlost := by cases hlost

/-- Removing keys leaves the last calls of the others. -/
theorem last_popAll {gone : List String} {kept : String} (h : kept ∉ gone) :
    Events.last (events.popAll gone) kept = events.last kept := by
  rw [Events.last, OrderedDict.get_popAll, if_neg h, Events.last]

theorem mem_keys_popAll {gone : List String} {kept : String} :
    kept ∈ (events.popAll gone).keys ↔ kept ∈ events.keys ∧ kept ∉ gone := by
  rw [OrderedDict.keys_popAll, List.mem_filter, decide_eq_true_eq]

theorem Filled.popAll (h : Filled events) (gone : List String) : Filled (events.popAll gone) := by
  intro key values hvalues
  rw [OrderedDict.get_popAll] at hvalues
  split at hvalues
  · cases hvalues
  · exact h key values hvalues

/-- What `allow` drops after it has admitted a call. -/
theorem exists_evicts (hkeys : 1 ≤ limiter.max_keys) (hcut : limiter.cutoff current = .ok cut)
    (hfilled : Filled events) (hkey : key ∈ events.keys) (hnew : ¬limiter.Old events current key) :
    ∃ gone, limiter.Evicts events key current gone ∧
      limiter.evict events key cut = (.ok true, events.popAll gone) := by
  unfold evict
  by_cases hmany : limiter.max_keys < events.length
  · rw [if_pos hmany]
    let first := (emptyOrOld events cut).take (events.length - limiter.max_keys)
    have hfirst (lost : String) (hlost : lost ∈ first) :
        lost ∈ events.keys ∧ limiter.Old events current lost :=
      (mem_emptyOrOld hcut).mp (List.mem_of_mem_take hlost)
    have hnodup : first.Nodup := (nodup_emptyOrOld events cut).sublist (List.take_sublist _ _)
    have hlength : (events.popAll first).length + first.length = events.length :=
      OrderedDict.length_popAll hnodup fun lost hlost => (hfirst lost hlost).1
    have hother : key ∉ first := fun hin => hnew (hfirst key hin).2
    have htaken : first.length =
        min (events.length - limiter.max_keys) (emptyOrOld events cut).length := List.length_take
    by_cases hoverflow : 0 < (events.popAll first).length - limiter.max_keys
    · -- all that has left the window is gone
      have hall : first = emptyOrOld events cut := List.take_of_length_le (by omega)
      have hyoung (kept : String) (hkept : kept ∈ (events.popAll first).keys) :
          ¬limiter.Old events current kept := by
        obtain ⟨hmem, hnot⟩ := mem_keys_popAll.mp hkept
        rw [hall] at hnot
        exact fun hold => hnot ((mem_emptyOrOld hcut).mpr ⟨hmem, hold⟩)
      obtain ⟨keys, hkeysort, hkeysnodup, hkeysmem, hpairwise⟩ :=
        exists_oldest (hfilled.popAll first) key
      have hcount : keys.length + 1 = (events.popAll first).length := by
        have hperm : (key :: keys).Perm (events.popAll first).keys := by
          rw [List.perm_ext_iff_of_nodup (List.nodup_cons.mpr ⟨fun h => ((hkeysmem key).mp h).2 rfl,
            hkeysnodup⟩) (OrderedDict.nodup_keys _)]
          intro other
          rw [List.mem_cons, hkeysmem]
          by_cases heq : other = key
          · simp only [heq, true_or, true_iff]
            exact mem_keys_popAll.mpr ⟨hkey, hother⟩
          · simp [heq]
        have := hperm.length_eq
        rwa [List.length_cons, OrderedDict.length_keys] at this
      let second := keys.take ((events.popAll first).length - limiter.max_keys)
      have hsecond (lost : String) (hlost : lost ∈ second) :
          lost ∈ (events.popAll first).keys ∧ lost ≠ key :=
        (hkeysmem lost).mp (List.mem_of_mem_take hlost)
      refine ⟨first ++ second, ⟨?_, ?_, ?_, ?_, ?_, ?_⟩, ?_⟩
      · intro lost hlost
        rcases List.mem_append.mp hlost with hlost | hlost
        · exact (hfirst lost hlost).1
        · exact (mem_keys_popAll.mp (hsecond lost hlost).1).1
      · refine hnodup.append (hkeysnodup.sublist (List.take_sublist _ _)) fun lost hlost hlost' => ?_
        exact (mem_keys_popAll.mp (hsecond lost hlost').1).2 hlost
      · intro hin
        rcases List.mem_append.mp hin with hin | hin
        · exact hother hin
        · exact (hsecond key hin).2 rfl
      · have hsecondlength : second.length =
            min ((events.popAll first).length - limiter.max_keys) keys.length := List.length_take
        rw [List.length_append]
        omega
      · intro lost _ kept hkept hnot hold
        refine (hyoung kept (mem_keys_popAll.mpr ⟨hkept, fun hin => hnot ?_⟩) hold).elim
        exact List.mem_append_left _ hin
      · intro lost hlost hlostyoung kept hkept hnot hne time htime time' htime'
        rw [List.mem_append, not_or] at hnot
        have hlost : lost ∈ second := by
          rcases List.mem_append.mp hlost with hlost | hlost
          · exact (hlostyoung (hfirst lost hlost).2).elim
          · exact hlost
        have hkept : kept ∈ keys.drop ((events.popAll first).length - limiter.max_keys) := by
          have hmem := (hkeysmem kept).mpr ⟨mem_keys_popAll.mpr ⟨hkept, hnot.1⟩, hne⟩
          rw [← List.take_append_drop ((events.popAll first).length - limiter.max_keys) keys] at hmem
          exact (List.mem_append.mp hmem).resolve_left hnot.2
        rw [← List.take_append_drop ((events.popAll first).length - limiter.max_keys) keys] at hpairwise
        have hle := (List.pairwise_append.mp hpairwise).2.2 lost hlost kept hkept
        have hlostkeys := mem_keys_popAll.mp (hsecond lost hlost).1
        rw [last_popAll hlostkeys.2, last_popAll hnot.1] at hle
        exact hle time htime time' htime'
      · show (if _ then _ else _) = _
        rw [if_pos hoverflow]
        show (match oldest (events.popAll first) key with | .ok _ => _ | .error _ => _) = _
        rw [hkeysort]
        simp only [OrderedDict.popAll, List.foldl_append]
        rfl
    · refine ⟨first, ⟨fun lost hlost => (hfirst lost hlost).1, hnodup, hother, by omega, ?_, ?_⟩, ?_⟩
      · exact fun lost hlost _ _ _ _ => (hfirst lost hlost).2
      · exact fun lost hlost hyoung => (hyoung (hfirst lost hlost).2).elim
      · show (if _ then _ else _) = _
        rw [if_neg hoverflow]
  · rw [if_neg hmany]
    exact ⟨[], .nil (by omega), rfl⟩

variable (limiter) in
/-- The times of a key that `allow` does not trim. -/
def recent (events : Events) (key : String) (current : Instant) : List Instant :=
  ((events.get key).getD []).dropWhile (limiter.expired current)

theorem Filled.set (h : Filled events) {values : List Instant} (hne : values ≠ []) :
    Filled (events.set key values) := by
  intro other values' hvalues
  rw [OrderedDict.get_set] at hvalues
  split at hvalues
  · cases hvalues
    exact hne
  · exact h other values' hvalues

/-- A call is refused by the calendar or for too many calls, or it is admitted. -/
theorem allow_cases (hwindow : 0 < limiter.window) (hkeys : 1 ≤ limiter.max_keys)
    (hfilled : Filled events) (key : String) (current : Instant) :
    current.val < limiter.window ∧
        limiter.allow events key current = (.error .overflowError, events) ∨
      limiter.window ≤ current.val ∧ limiter.limit ≤ (limiter.recent events key current).length ∧
        limiter.allow events key current =
          (.ok false, events.set key (limiter.recent events key current)) ∨
      limiter.window ≤ current.val ∧ (limiter.recent events key current).length < limiter.limit ∧
        ∃ gone, limiter.Evicts (events.set key (limiter.recent events key current ++ [current]))
            key current gone ∧
          limiter.allow events key current =
            (.ok true,
              (events.set key (limiter.recent events key current ++ [current])).popAll gone) := by
  unfold allow
  cases hcut : limiter.cutoff current with
  | error e =>
    left
    unfold cutoff at hcut
    split at hcut
    · cases hcut
    · next hbefore =>
      cases hcut
      exact ⟨by omega, rfl⟩
  | ok cut =>
    right
    have hbegun : limiter.window ≤ current.val := by
      by_contra hbefore
      rw [cutoff, if_neg hbefore] at hcut
      cases hcut
    have hrecent : ((events.get key).getD []).dropWhile (· ≤ cut) =
        limiter.recent events key current := by
      rw [recent, funext (cutoff_eq_ok hcut)]
    simp only [hrecent, OrderedDict.set_set]
    by_cases hfull : limiter.limit ≤ (limiter.recent events key current).length
    · exact .inl ⟨hbegun, hfull, by rw [if_pos hfull]⟩
    · rw [if_neg hfull]
      refine .inr ⟨hbegun, by omega, ?_⟩
      refine exists_evicts hkeys hcut (hfilled.set (by simp)) ?_ ?_
      · exact OrderedDict.mem_keys.mpr ⟨_, OrderedDict.get_set_self _ _ _⟩
      · intro hold
        have hexpired := hold current (by simp [Events.last])
        simp only [expired, decide_eq_true_eq] at hexpired
        omega

end OperatorRateLimiter

end AtlasOS.OperatorAuth
