import AtlasOS.Actions.HistoryRuns

/-!
# Answers of the history

A list and an export answer from the state that their own pruning leaves. A page is
built from two calls at the lock, and what other calls and the passing time do between
them decides whether its items and its total describe one state of the store.
-/

namespace AtlasOS.Actions

open ProviderActionAuditEntry

section Limited

variable {α β : Type} {limit offset : ℤ}

theorem limited_map (f : α → β) (limit offset : ℤ) (rows : List α) :
    limited limit offset (rows.map f) = (limited limit offset rows).map f := by
  unfold limited
  split_ifs
  · rw [List.map_drop]
  · rw [List.map_take, List.map_drop]

theorem mem_of_mem_limited {row : α} {rows : List α} (h : row ∈ limited limit offset rows) : row ∈ rows := by
  unfold limited at h
  split_ifs at h
  · exact List.mem_of_mem_drop h
  · exact List.mem_of_mem_drop (List.mem_of_mem_take h)

theorem length_limited (hlimit : 1 ≤ limit) (rows : List α) :
    (limited limit offset rows).length = min limit.toNat (rows.length - offset.toNat) := by
  rw [limited, if_neg (by omega), List.length_take, List.length_drop]

/-- There are more rows after the limit exactly when the rows of the page do not reach the end. -/
theorem add_length_limited_lt (hlimit : 1 ≤ limit) (hoffset : 0 ≤ offset) (rows : List α) :
    offset + (limited limit offset rows).length < rows.length ↔ offset + limit < rows.length := by
  rw [length_limited hlimit]
  omega

end Limited

namespace ProviderActionHistory

variable (history : ProviderActionHistory)

/-- The entries of the reference that the arguments select. -/
def selected (steps : List Step) (now : Now) (filters : Filters) : List ProviderActionAuditEntry :=
  (history.reference steps now).filter filters.selects

/-- The integer can be bound to a statement. -/
def fits (value : ℤ) : Bool := -2 ^ 63 ≤ value && value < 2 ^ 63

/-- Whether the arguments have a meaning for the database. -/
def accepts (now : Now) (filters : Filters) (limit offset : ℤ) : Bool :=
  history.works now && filters.convertible && fits limit && fits offset

variable {history} {steps : List Step} {now : Now} {rows pruned : List Row} {filters : Filters}
  {condition : Row → Bool} {limit offset : ℤ}

theorem isUtc_of_mem_selected {entry : ProviderActionAuditEntry}
    (h : entry ∈ history.selected steps now filters) : entry.IsUtc :=
  isUtc_of_mem_appended (Recent.mem_of_mem_recent (List.mem_of_mem_filter h))

/-- What a query selects in the store of a read is what the arguments select in the reference. -/
theorem select_of_holds (hholds : history.Holds steps now rows)
    (hcondition : ∀ entry : ProviderActionAuditEntry, entry.IsUtc →
      condition entry.row = filters.selects entry) :
    select condition rows = (history.selected steps now filters).map row := by
  rw [select, Recent.listing_filter, hholds, List.filter_map, selected]
  refine congrArg (List.map row) (List.filter_congr fun entry hentry => ?_)
  exact hcondition entry (isUtc_of_mem_appended (Recent.mem_of_mem_recent hentry))

theorem mapM_limited (limit offset : ℤ) :
    (limited limit offset ((history.selected steps now filters).map row)).mapM entryFromRow =
      .ok (limited limit offset (history.selected steps now filters)) := by
  rw [limited_map]
  exact mapM_map_eq_ok fun entry hentry =>
    entryFromRow_row (isUtc_of_mem_selected (mem_of_mem_limited hentry))

theorem countP_of_holds (hholds : history.Holds steps now rows)
    (hcondition : ∀ entry : ProviderActionAuditEntry, entry.IsUtc →
      condition entry.row = filters.selects entry) :
    rows.countP condition = (history.selected steps now filters).length := by
  have hlength : (select condition rows).length = (rows.filter condition).length :=
    (Recent.listing_perm _).length_eq
  rw [List.countP_eq_length_filter, ← hlength, select_of_holds hholds hcondition, List.length_map]

theorem bindInt_eq (value : ℤ) :
    bindInt value = if fits value = true then .ok value else .error .overflowError := by
  simp only [bindInt, fits, Bool.and_eq_true, decide_eq_true_eq]

/-- A list answers with the selected slice of the reference, or refuses its arguments. -/
theorem list_answer (h : history.Kept steps rows) (hle : ∀ earlier ∈ steps, earlier.now ≤ now)
    (hdistinct : Distinct steps) :
    (history.list now filters limit offset rows).1 =
      if history.accepts now filters limit offset = true then
        .ok (limited limit offset (history.selected steps now filters))
      else .error .overflowError := by
  cases hconvertible : filters.convertible with
  | false =>
    rw [accepts, hconvertible, Bool.and_false, Bool.false_and, Bool.false_and,
      if_neg Bool.false_ne_true, list, Filters.queryParts_of_not_convertible hconvertible]
  | true =>
    obtain ⟨condition, hquery, hcondition⟩ := Filters.queryParts_of_convertible hconvertible
    cases hworks : history.works now with
    | false =>
      rw [accepts, hworks, Bool.false_and, Bool.false_and, Bool.false_and, if_neg Bool.false_ne_true, list,
        hquery]
      simp only [prune_of_not_works hworks, error_bind, transact, Except.bind]
    | true =>
      obtain ⟨-, pruned, -, -, hprune, -⟩ := prune_of_works hworks (h.nodup hdistinct)
      have hselect := select_of_holds (h.prune hle hdistinct hprune).1 hcondition
      rw [accepts, hworks, hconvertible, Bool.true_and, Bool.true_and, list, hquery]
      simp only [hprune, ok_bind, bindInt_eq]
      cases hlimit : fits limit with
      | false => simp only [Bool.false_eq_true, if_false, error_bind, transact, Except.bind, Bool.false_and]
      | true =>
        cases hoffset : fits offset with
        | false =>
          simp only [Bool.false_eq_true, if_true, if_false, ok_bind, error_bind, transact, Except.bind,
            Bool.true_and]
        | true =>
          simp only [if_true, ok_bind, transact, Except.bind, Bool.true_and, hselect, mapM_limited]

/-- A count answers with the number of selected entries, or refuses its arguments. -/
theorem count_answer (h : history.Kept steps rows) (hle : ∀ earlier ∈ steps, earlier.now ≤ now)
    (hdistinct : Distinct steps) :
    (history.count now filters rows).1 =
      if (history.works now && filters.convertible) = true then
        .ok (history.selected steps now filters).length
      else .error .overflowError := by
  cases hconvertible : filters.convertible with
  | false =>
    rw [Bool.and_false, if_neg Bool.false_ne_true, count,
      Filters.queryParts_of_not_convertible hconvertible]
  | true =>
    obtain ⟨condition, hquery, hcondition⟩ := Filters.queryParts_of_convertible hconvertible
    cases hworks : history.works now with
    | false =>
      rw [Bool.false_and, if_neg Bool.false_ne_true, count, hquery]
      simp only [prune_of_not_works hworks, error_bind, transact]
    | true =>
      obtain ⟨-, pruned, -, -, hprune, -⟩ := prune_of_works hworks (h.nodup hdistinct)
      have hcount := countP_of_holds (h.prune hle hdistinct hprune).1 hcondition
      rw [Bool.and_self, if_pos rfl, count, hquery]
      simp only [hprune, ok_bind, transact, hcount]

theorem export_answer (h : history.Kept steps rows) (hle : ∀ earlier ∈ steps, earlier.now ≤ now)
    (hdistinct : Distinct steps) :
    (history.exportEntries now filters rows).1 =
      if history.accepts now filters history.max_entries 0 = true then
        .ok (history.selected steps now filters)
      else .error .overflowError := by
  have hlength : (history.selected steps now filters).length ≤ history.max_entries :=
    (List.length_filter_le _ _).trans (Recent.length_recent_le _ _ _)
  have hall : limited history.max_entries 0 (history.selected steps now filters) =
      history.selected steps now filters := by
    rw [limited, if_neg (by omega)]
    exact List.take_of_length_le hlength
  rw [exportEntries, list_answer h hle hdistinct, hall]

end ProviderActionHistory

/-! ## Pages -/

/-- A call of `page`: its call of `list`, what other threads do then, and its call of `count`. -/
structure PageCall where
  before : List Step
  between : List Step
  listed : Now
  counted : Now
  filters : Filters
  limit : ℤ
  offset : ℤ
  deriving DecidableEq

namespace PageCall

variable (call : PageCall)

/-- The steps up to the call of `list`. -/
def toList : List Step := call.before ++ [⟨call.listed, .list call.filters call.limit call.offset⟩]

/-- The steps before the call of `count`. -/
def toBetween : List Step := call.toList ++ call.between

/-- The steps up to the call of `count`. -/
def steps : List Step := call.toBetween ++ [⟨call.counted, .count call.filters⟩]

end PageCall

/-- The steps of some threads, in the order in which they take the lock, and their calls of `page`. -/
structure Run where
  steps : List Step
  pages : List PageCall
  steps_prefix : ∀ call ∈ pages, call.steps <+: steps

/-- The items, the total and `has_more` of a page are those of a state of the store. -/
def Describes (filters : Filters) (rows : List Row) (page : ProviderActionHistoryPage) : Prop :=
  ∃ condition, filters.queryParts = .ok condition ∧
    (limited page.limit page.offset (select condition rows)).mapM entryFromRow = .ok page.items ∧
    page.total = rows.countP condition ∧
    (page.has_more = true ↔ page.offset + page.limit < rows.countP condition)

namespace ProviderActionHistory

variable (history : ProviderActionHistory)

/-- What a call of `page` answers. -/
def paged (call : PageCall) : Except HistoryError ProviderActionHistoryPage :=
  page call.limit call.offset
    (history.list call.listed call.filters call.limit call.offset (history.after call.before)).1
    (history.count call.counted call.filters (history.after call.toBetween)).1

/-- The entries that the filters select in the reference when a page lists them. -/
def listedEntries (call : PageCall) : List ProviderActionAuditEntry :=
  history.selected call.before call.listed call.filters

/-- The entries that the filters select in the reference when a page counts them. -/
def countedEntries (call : PageCall) : List ProviderActionAuditEntry :=
  history.selected call.toBetween call.counted call.filters

/-- Between its two steps, other calls and the passing time have not changed both the entries at
the positions of the page and the number of the entries that the filters select. -/
def Undisturbed (call : PageCall) : Prop :=
  limited call.limit call.offset (history.countedEntries call) =
      limited call.limit call.offset (history.listedEntries call) ∨
    (history.countedEntries call).length = (history.listedEntries call).length

/-- The lists and exports of a run have arguments with a meaning for the database. -/
structure Accepted (steps : List Step) : Prop where
  list : ∀ now filters limit offset, ⟨now, .list filters limit offset⟩ ∈ steps →
    history.accepts now filters limit offset = true
  exportEntries : ∀ now filters, ⟨now, .exportEntries filters⟩ ∈ steps →
    history.accepts now filters history.max_entries 0 = true

/-- The history behaves as its reference in a run. -/
structure EqualsReference (run : Run) : Prop where
  /-- At every read that returns, the store holds what the reference selects. -/
  holds : ∀ before step, before ++ [step] <+: run.steps → (∀ earlier ∈ before, earlier.now ≤ step.now) →
    step.call ≠ .clear → (history.perform step (history.after before)).1 = .ok () →
      history.Holds (before ++ [step]) step.now (history.after (before ++ [step]))
  /-- A list returns the slice of what its filters select. -/
  list : ∀ before now filters limit offset, before ++ [⟨now, .list filters limit offset⟩] <+: run.steps →
    (history.list now filters limit offset (history.after before)).1 =
      .ok (limited limit offset (history.selected before now filters))
  /-- An export returns all of it. -/
  exportEntries : ∀ before now filters, before ++ [⟨now, .exportEntries filters⟩] <+: run.steps →
    (history.exportEntries now filters (history.after before)).1 =
      .ok (history.selected before now filters)
  /-- A page describes one state between the two calls it makes. -/
  page : ∀ call ∈ run.pages, ∀ page, history.paged call = .ok page →
    ∃ steps, call.toList <+: steps ∧ steps <+: call.steps ∧
      Describes call.filters (history.after steps) page

variable {history} {steps : List Step} {now : Now} {rows : List Row} {filters : Filters}
  {limit offset : ℤ} {page : ProviderActionHistoryPage} {call : PageCall}

/-- The log and the clock of a read are those of the steps before it. -/
theorem selected_concat_of_read {step : Step} (hlog : history.appended (steps ++ [step]) = history.appended steps) :
    history.selected (steps ++ [step]) now filters = history.selected steps now filters := by
  rw [selected, selected, reference, reference, hlog]

theorem page_eq_ok {items : Except HistoryError (List ProviderActionAuditEntry)}
    {total : Except HistoryError ℕ} (h : ProviderActionHistory.page limit offset items total = .ok page) :
    items = .ok page.items ∧ total = .ok page.total ∧ page.limit = limit ∧ page.offset = offset ∧
      page.has_more = decide (offset + page.items.length < page.total) := by
  cases items with
  | error error => cases h
  | ok items =>
    cases total with
    | error error => cases h
    | ok total =>
      simp only [ProviderActionHistory.page, ok_bind] at h
      split at h
      · rw [Except.ok.injEq] at h
        rw [← h]
        exact ⟨rfl, rfl, rfl, rfl, rfl⟩
      · cases h

/-- A page describes the store of a read when its items and its total are those of the reference. -/
theorem describes_iff (hholds : history.Holds steps now rows) (hconvertible : filters.convertible = true)
    (hmore : page.has_more = decide (page.offset + page.items.length < page.total)) :
    Describes filters rows page ↔
      limited page.limit page.offset (history.selected steps now filters) = page.items ∧
        page.total = (history.selected steps now filters).length := by
  obtain ⟨condition, hquery, hcondition⟩ := Filters.queryParts_of_convertible hconvertible
  have hselect := select_of_holds hholds hcondition
  have hcount := countP_of_holds hholds hcondition
  constructor
  · rintro ⟨condition', hquery', hitems, htotal, -⟩
    rw [hquery, Except.ok.injEq] at hquery'
    rw [← hquery', hselect, mapM_limited, Except.ok.injEq] at hitems
    exact ⟨hitems, htotal.trans (hquery' ▸ hcount)⟩
  · rintro ⟨hitems, htotal⟩
    refine ⟨condition, hquery, ?_, htotal.trans hcount.symm, ?_⟩
    · rw [hselect, mapM_limited, hitems]
    · rw [hmore, decide_eq_true_eq, ← hitems, htotal, hcount]
      exact add_length_limited_lt page.limit_pos page.offset_nonneg _

theorem before_le {step : Step} (h : Ordered (steps ++ [step])) (hcall : step.call ≠ .pruneExpired) :
    ∀ earlier ∈ steps, earlier.now ≤ step.now := by
  intro earlier hearlier
  have hlater := (List.pairwise_append.mp h).2.2 earlier hearlier step List.mem_cons_self
  exact hlater.resolve_right hcall

/-- The store after a step that returns. -/
theorem holds_after {step : Step} (hordered : Ordered (steps ++ [step])) (hdistinct : Distinct (steps ++ [step]))
    (hle : ∀ earlier ∈ steps, earlier.now ≤ step.now) (hclear : step.call ≠ .clear)
    (hok : (history.perform step (history.after steps)).1 = .ok ()) :
    history.Holds (steps ++ [step]) step.now (history.after (steps ++ [step])) := by
  have hkept := @kept_after history steps hordered.of_append hdistinct.of_append
  rw [after_concat]
  exact (perform_spec hkept hordered hdistinct).2 hle hclear hok

/-- What a page that is returned shows. -/
theorem paged_answer (hordered : Ordered call.steps) (hdistinct : Distinct call.steps)
    (h : history.paged call = .ok page) :
    call.filters.convertible = true ∧
      page.items = limited call.limit call.offset (history.listedEntries call) ∧
        page.total = (history.countedEntries call).length := by
  obtain ⟨hitems, htotal, -⟩ := page_eq_ok h
  have hordered' : Ordered call.toList := (hordered.of_append).of_append
  have hdistinct' : Distinct call.toList := (hdistinct.of_append).of_append
  have hlist := @list_answer history call.before _ _ call.filters call.limit call.offset
    (kept_after _ hordered'.of_append hdistinct'.of_append) (before_le hordered' nofun)
    hdistinct'.of_append
  have hcount := @count_answer history call.toBetween _ _ call.filters
    (kept_after _ hordered.of_append hdistinct.of_append) (before_le hordered nofun) hdistinct.of_append
  rw [hitems] at hlist
  rw [htotal] at hcount
  split_ifs at hlist hcount with haccepts hworks
  exact ⟨(Bool.and_eq_true_iff.mp hworks).2, Except.ok.inj hlist, Except.ok.inj hcount⟩

/-- When a page describes the state that its list leaves, and the state that its count leaves. -/
theorem paged_spec (hordered : Ordered call.steps) (hdistinct : Distinct call.steps)
    (h : history.paged call = .ok page) :
    (Describes call.filters (history.after call.toList) page ↔
        (history.countedEntries call).length = (history.listedEntries call).length) ∧
      (Describes call.filters (history.after call.steps) page ↔
        limited call.limit call.offset (history.countedEntries call) =
          limited call.limit call.offset (history.listedEntries call)) := by
  obtain ⟨hconvertible, hlist, hcount⟩ := paged_answer hordered hdistinct h
  obtain ⟨hitems, htotal, hlimit, hoffset, hmore⟩ := page_eq_ok h
  have hordered' : Ordered call.toList := (hordered.of_append).of_append
  have hdistinct' : Distinct call.toList := (hdistinct.of_append).of_append
  have hafter : history.Holds call.toList call.listed (history.after call.toList) := by
    refine holds_after hordered' hdistinct' (before_le hordered' nofun) nofun ?_
    change (history.list _ _ _ _ (history.after call.before)).1.map _ = _
    rw [hitems]
    rfl
  have hafter' : history.Holds call.steps call.counted (history.after call.steps) := by
    refine holds_after hordered hdistinct (before_le hordered nofun) nofun ?_
    change (history.count _ _ (history.after call.toBetween)).1.map _ = _
    rw [htotal]
    rfl
  have hselected : history.selected call.toList call.listed call.filters = history.listedEntries call :=
    selected_concat_of_read (appended_concat _ _)
  have hselected' : history.selected call.steps call.counted call.filters = history.countedEntries call :=
    selected_concat_of_read (appended_concat _ _)
  rw [← hoffset] at hmore
  rw [describes_iff hafter hconvertible hmore, describes_iff hafter' hconvertible hmore, hselected,
    hselected', hlimit, hoffset, hlist, hcount]
  exact ⟨and_iff_right rfl, and_iff_left rfl⟩

/-- A page whose arguments have a meaning is returned. -/
theorem exists_paged (hordered : Ordered call.steps) (hdistinct : Distinct call.steps)
    (haccepts : history.accepts call.listed call.filters call.limit call.offset = true)
    (hworks : history.works call.counted = true) (hoffset : 0 ≤ call.offset) (hlimit : 1 ≤ call.limit) :
    ∃ page, history.paged call = .ok page := by
  have hordered' : Ordered call.toList := (hordered.of_append).of_append
  have hdistinct' : Distinct call.toList := (hdistinct.of_append).of_append
  have hconvertible : call.filters.convertible = true := by
    simp only [accepts, Bool.and_eq_true] at haccepts
    exact haccepts.1.1.2
  have hlist := @list_answer history call.before _ _ call.filters call.limit call.offset
    (kept_after _ hordered'.of_append hdistinct'.of_append) (before_le hordered' nofun)
    hdistinct'.of_append
  have hcount := @count_answer history call.toBetween _ _ call.filters
    (kept_after _ hordered.of_append hdistinct.of_append) (before_le hordered nofun) hdistinct.of_append
  rw [if_pos haccepts] at hlist
  rw [if_pos (Bool.and_eq_true_iff.mpr ⟨hworks, hconvertible⟩)] at hcount
  rw [paged, hlist, hcount]
  exact ⟨_, dif_pos ⟨hoffset, hlimit⟩⟩

/-- The history equals its reference in every run whose lists and exports are accepted and whose
pages are undisturbed; a list or export that is not accepted raises, and a page that is disturbed
describes neither of the states that its two calls read. -/
theorem history_equals_reference (run : Run) (hordered : Ordered run.steps)
    (hdistinct : Distinct run.steps) :
    (history.Accepted run.steps → (∀ call ∈ run.pages, history.Undisturbed call) →
        history.EqualsReference run) ∧
      (history.EqualsReference run → history.Accepted run.steps) ∧
      ∀ call ∈ run.pages, ∀ page, history.paged call = .ok page →
        (Describes call.filters (history.after call.toList) page ∨
          Describes call.filters (history.after call.steps) page ↔ history.Undisturbed call) := by
  have hof {part : List Step} (h : part <+: run.steps) : Ordered part ∧ Distinct part := by
    obtain ⟨later, hlater⟩ := h
    rw [← hlater] at hordered hdistinct
    exact ⟨hordered.of_append, hdistinct.of_append⟩
  have hlist (before : List Step) (now : Now) (filters : Filters) (limit offset : ℤ)
      (h : before ++ [⟨now, .list filters limit offset⟩] <+: run.steps) :=
    @list_answer history before now _ filters limit offset
      (kept_after _ (hof h).1.of_append (hof h).2.of_append) (before_le (hof h).1 nofun)
      (hof h).2.of_append
  have hexport (before : List Step) (now : Now) (filters : Filters)
      (h : before ++ [⟨now, .exportEntries filters⟩] <+: run.steps) :=
    @export_answer history before now _ filters
      (kept_after _ (hof h).1.of_append (hof h).2.of_append) (before_le (hof h).1 nofun)
      (hof h).2.of_append
  have hpage : ∀ call ∈ run.pages, ∀ page, history.paged call = .ok page →
      (Describes call.filters (history.after call.toList) page ∨
        Describes call.filters (history.after call.steps) page ↔ history.Undisturbed call) := by
    intro call hcall page hok
    obtain ⟨hordered', hdistinct'⟩ := hof (run.steps_prefix call hcall)
    obtain ⟨hfirst, hsecond⟩ := paged_spec hordered' hdistinct' hok
    rw [hfirst, hsecond, or_comm]
    rfl
  refine ⟨fun haccepted hundisturbed => ?_, fun hequals => ?_, hpage⟩
  · constructor
    case holds =>
      intro before step hprefix hle hclear hok
      exact holds_after (hof hprefix).1 (hof hprefix).2 hle hclear hok
    case list =>
      intro before now filters limit offset hprefix
      have hmem : ⟨now, .list filters limit offset⟩ ∈ run.steps :=
        hprefix.subset (List.mem_append_right _ List.mem_cons_self)
      rw [hlist before now filters limit offset hprefix, if_pos (haccepted.list _ _ _ _ hmem)]
    case exportEntries =>
      intro before now filters hprefix
      have hmem : ⟨now, .exportEntries filters⟩ ∈ run.steps :=
        hprefix.subset (List.mem_append_right _ List.mem_cons_self)
      rw [hexport before now filters hprefix, if_pos (haccepted.exportEntries _ _ hmem)]
    case page =>
      intro call hcall page hok
      have hlisted : call.toList <+: call.steps :=
        (List.prefix_append _ _).trans (List.prefix_append _ _)
      rcases (hpage call hcall page hok).mpr (hundisturbed call hcall) with hfirst | hsecond
      · exact ⟨call.toList, List.prefix_refl _, hlisted, hfirst⟩
      · exact ⟨call.steps, hlisted, List.prefix_refl _, hsecond⟩
  · constructor
    case list =>
      intro now filters limit offset hmem
      obtain ⟨before, later, hsteps⟩ := List.mem_iff_append.mp hmem
      have hprefix : before ++ [⟨now, .list filters limit offset⟩] <+: run.steps :=
        ⟨later, by rw [hsteps, List.append_assoc, List.singleton_append]⟩
      have hanswer := hlist before now filters limit offset hprefix
      rw [hequals.list before now filters limit offset hprefix] at hanswer
      split_ifs at hanswer with haccepts
      exact haccepts
    case exportEntries =>
      intro now filters hmem
      obtain ⟨before, later, hsteps⟩ := List.mem_iff_append.mp hmem
      have hprefix : before ++ [⟨now, .exportEntries filters⟩] <+: run.steps :=
        ⟨later, by rw [hsteps, List.append_assoc, List.singleton_append]⟩
      have hanswer := hexport before now filters hprefix
      rw [hequals.exportEntries before now filters hprefix] at hanswer
      split_ifs at hanswer with haccepts
      exact haccepts

/-! ### A page between two states -/

/-- An action that was completed at the beginning of 2026. -/
def diagnostics : ProviderActionAuditEntry where
  id := "first"
  provider_id := "ollama"
  provider_name := "Ollama"
  action_id := "run-diagnostics"
  action_label := "Run Diagnostics"
  status := .succeeded
  success := true
  message := "Action completed."
  confirmed := false
  destructive := false
  parameter_names := []
  request_id := none
  started_at := .utc ⟨63902822400000000, by decide⟩
  completed_at := .utc ⟨63902822400000000, by decide⟩
  duration_ms := ⟨.finite 1, by decide⟩

/-- The first page of all entries, during which another thread may act. -/
def firstPage (before between : List Step) : PageCall where
  before
  between
  listed := ⟨63902822400000001, by decide⟩
  counted := ⟨63902822400000003, by decide⟩
  filters := ⟨none, none, none, none, none⟩
  limit := 50
  offset := 0

/-- The step that appends the action at a moment. -/
def appendDiagnostics (now : Now) : Step := ⟨now, .append diagnostics⟩

/-- The settings of the tests. -/
def small : ProviderActionHistory := ⟨2, 30, by decide, by decide⟩

/-- A page of the appended action, with nothing between its steps. -/
def quietPage : PageCall := firstPage [appendDiagnostics ⟨63902822400000000, by decide⟩] []

/-- A run of this page. -/
def quietRun : Run where
  steps := quietPage.steps
  pages := [quietPage]
  steps_prefix := by
    intro call hcall
    rw [List.mem_singleton.mp hcall]

theorem history_equals_reference_quiet : small.EqualsReference quietRun := by
  refine (history_equals_reference quietRun ?_ ?_).1 ⟨?_, ?_⟩ ?_
  · unfold Ordered
    decide
  · unfold Distinct
    decide
  · intro now filters limit offset hmem
    simp only [quietRun, quietPage, firstPage, PageCall.steps, PageCall.toBetween, PageCall.toList,
      appendDiagnostics, List.append_nil, List.cons_append, List.nil_append, List.mem_cons,
      Step.mk.injEq, Call.list.injEq, List.not_mem_nil, reduceCtorEq, and_false, false_or, or_false] at hmem
    obtain ⟨rfl, rfl, rfl, rfl⟩ := hmem
    decide
  · intro now filters hmem
    simp [quietRun, quietPage, firstPage, PageCall.steps, PageCall.toBetween, PageCall.toList,
      appendDiagnostics] at hmem
  · intro call hcall
    rw [List.mem_singleton.mp hcall]
    exact .inr (by decide)

/-- An entry that another thread appends between the two steps of a page is counted but not
listed, and in no state are there entries of which the first page shows none. -/
theorem history_page_torn :
    ¬∀ (history : ProviderActionHistory) (run : Run), Ordered run.steps → Distinct run.steps →
      history.EqualsReference run := by
  intro h
  let step := appendDiagnostics ⟨63902822400000002, by decide⟩
  let call := firstPage [] [step]
  have hordered : Ordered call.steps := by
    unfold Ordered
    decide
  have hdistinct : Distinct call.steps := by
    unfold Distinct
    decide
  obtain ⟨page, hpage⟩ := @exists_paged small call hordered hdistinct (by decide) (by decide) (by decide)
    (by decide)
  obtain ⟨steps, hfirst, hlast, hdescribes⟩ := (h small ⟨call.steps, [call], fun other hother => by
    rw [List.mem_singleton.mp hother]⟩ hordered hdistinct).page call List.mem_cons_self page hpage
  obtain ⟨hlisted, hcounted⟩ := paged_spec hordered hdistinct hpage
  have hlength : steps.length = 1 ∨ steps.length = 2 ∨ steps.length = 3 := by
    have hlower : 1 ≤ steps.length := hfirst.length_le
    have hupper : steps.length ≤ 3 := hlast.length_le
    omega
  have htake : steps = call.steps.take steps.length := List.prefix_iff_eq_take.mp hlast
  rcases hlength with hone | htwo | hthree
  · rw [hone] at htake
    rw [htake] at hdescribes
    exact absurd (hlisted.mp hdescribes) (by decide)
  · rw [htwo] at htake
    obtain ⟨-, -, hlimit, hoffset, hmore⟩ := page_eq_ok hpage
    obtain ⟨hconvertible, hitems, -⟩ := paged_answer hordered hdistinct hpage
    have hkept := @kept_after small call.toList hordered.of_append.of_append hdistinct.of_append.of_append
    have hafter : small.Holds (call.toList ++ [step]) step.now (small.after (call.toList ++ [step])) := by
      rw [after_concat]
      rcases append_spec hkept hdistinct.of_append (before_le hordered.of_append nofun) with
        ⟨-, -, hlog⟩ | ⟨hholds, -⟩
      · exact absurd hlog (by decide)
      · exact hholds
    rw [htake] at hdescribes
    rw [← hoffset] at hmore
    have hsame := ((describes_iff hafter hconvertible hmore).mp hdescribes).1
    rw [hlimit, hoffset, hitems] at hsame
    exact absurd hsame (by decide)
  · rw [hthree] at htake
    rw [htake] at hdescribes
    exact absurd (hcounted.mp hdescribes) (by decide)

end ProviderActionHistory

end AtlasOS.Actions
