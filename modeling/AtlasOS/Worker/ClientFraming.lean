import AtlasOS.Worker.Client

/-!
# Framing of the response

A stream is framed when it is one header block and then exactly the body that the
block declares. The read loop accepts when some of the chunks, from the first on, make
up a framed stream. It stops there, so that what arrives in later chunks is not seen.
-/

namespace AtlasOS.Worker.Client

/-- A stream is one complete header block and the body that it declares. -/
structure Framed (stream : Bytes) (response : Response) : Prop where
  intro ::
  /-- The first blank line ends the header block. -/
  exists_block : ∃ block size, firstAt headerEnd stream = some block ∧
    block + 4 ≤ MAX_RESPONSE_HEADER_BYTES ∧
    responseHeaders (stream.take block) = .ok (response.status, size) ∧
    stream.length = block + 4 + size ∧ response.body = stream.drop (block + 4)

/-- How a stream may arrive. -/
structure Arrives (stream : Bytes) (chunks : List Bytes) : Prop where
  flatten : chunks.flatten = stream
  ne_nil : ∀ chunk ∈ chunks, chunk ≠ []
  length_le : ∀ chunk ∈ chunks, chunk.length ≤ RECEIVE_BYTES

/-- A framed stream ends with a chunk that is not the last one. -/
def Overrun (chunks : List Bytes) : Prop :=
  ∃ front back, chunks = front ++ back ∧ back ≠ [] ∧ ∃ response, Framed front.flatten response

/-- No stream that begins so is framed. -/
def Refused (buffer : Bytes) : Prop := ∀ more response, ¬Framed (buffer ++ more) response

/-- What the loop knows when it reads on. -/
inductive Pending (buffer : Bytes) : Option Header → Prop where
  | searching (hnone : firstAt headerEnd buffer = none)
      (hlength : buffer.length ≤ MAX_RESPONSE_HEADER_BYTES) : Pending buffer none
  | counting (header : Header) (hfound : firstAt headerEnd buffer = some header.header_end)
      (hbound : header.header_end + 4 ≤ MAX_RESPONSE_HEADER_BYTES)
      (hparsed : responseHeaders (buffer.take header.header_end) = .ok (header.status, header.expected))
      (hlength : buffer.length < header.header_end + 4 + header.expected) : Pending buffer (some header)

variable {stream buffer more chunk : Bytes} {chunks : List Bytes} {header : Option Header}
  {response response' : Response}

theorem headerEnd_ne_nil : headerEnd ≠ [] := by decide

theorem length_of_firstAt {block : ℕ} (h : firstAt headerEnd buffer = some block) :
    block + 4 ≤ buffer.length := (add_length_le_of_firstAt h).resolve_right headerEnd_ne_nil

/-- The declared size is within the bound. -/
theorem size_le_of_responseHeaders {raw : Bytes} {status size : ℕ}
    (h : responseHeaders raw = .ok (status, size)) : size ≤ MAX_RESPONSE_BODY_BYTES := by
  unfold responseHeaders at h
  split at h
  · cases h
  · split at h
    · cases h
    · simp only [bind_eq_ok] at h
      obtain ⟨headers, -, h⟩ := h
      split_ifs at h with hframing hsize
      cases h
      exact not_lt.mp hsize

/-- More of a stream does not change its header block. -/
theorem take_append_of_firstAt {block : ℕ} (h : firstAt headerEnd buffer = some block) (more : Bytes) :
    (buffer ++ more).take block = buffer.take block :=
  List.take_append_of_le_length (by have := length_of_firstAt h; omega)

namespace Framed

theorem unique (h : Framed stream response) (h' : Framed stream response') : response = response' := by
  obtain ⟨block, size, hfound, -, hparsed, -, hbody⟩ := h
  obtain ⟨block', size', hfound', -, hparsed', -, hbody'⟩ := h'
  have hblock : block = block' := Option.some.inj (hfound.symm.trans hfound')
  subst hblock
  have hheaders := Except.ok.inj (hparsed.symm.trans hparsed')
  cases response
  cases response'
  simp only [Prod.mk.injEq] at hheaders hbody hbody'
  rw [hheaders.1, hbody, hbody']

/-- A framed stream does not go on. -/
theorem append_eq_nil (h : Framed stream response) (h' : Framed (stream ++ more) response') : more = [] := by
  obtain ⟨block, size, hfound, -, hparsed, hlength, -⟩ := h
  obtain ⟨block', size', hfound', -, hparsed', hlength', -⟩ := h'
  have hblock : block = block' :=
    Option.some.inj ((firstAt_append headerEnd_ne_nil hfound more).symm.trans hfound')
  subst hblock
  rw [take_append_of_firstAt hfound, hparsed, Except.ok.injEq, Prod.mk.injEq] at hparsed'
  rw [List.length_append] at hlength'
  have hmore : more.length = 0 := by omega
  exact List.length_eq_zero_iff.mp hmore

end Framed

/-- A header block that is too long, or that is refused, is so with more of the stream. -/
theorem refused_of_firstAt {block : ℕ} (hfound : firstAt headerEnd buffer = some block)
    (h : MAX_RESPONSE_HEADER_BYTES < block + 4 ∨ (∃ error, responseHeaders (buffer.take block) = .error error) ∨
      ∃ status size, responseHeaders (buffer.take block) = .ok (status, size) ∧ block + 4 + size < buffer.length) :
    Refused buffer := by
  rintro more response ⟨block', size', hfound', hbound, hparsed, hlength, -⟩
  rw [firstAt_append headerEnd_ne_nil hfound, Option.some.injEq] at hfound'
  subst hfound'
  rw [take_append_of_firstAt hfound] at hparsed
  rcases h with hlong | ⟨error, herror⟩ | ⟨status, size, hok, hexcess⟩
  · omega
  · rw [herror] at hparsed
    cases hparsed
  · rw [hok, Except.ok.injEq, Prod.mk.injEq] at hparsed
    rw [List.length_append] at hlength
    omega

/-- A header block cannot end within the bound any more. -/
theorem refused_of_long (hnone : firstAt headerEnd buffer = none)
    (hlength : MAX_RESPONSE_HEADER_BYTES < buffer.length) : Refused buffer := by
  rintro more response ⟨block, size, hfound, hbound, -⟩
  have hlate := length_lt_of_firstAt_append hnone hfound
  have hfour : headerEnd.length = 4 := rfl
  omega

theorem Pending.not_framed (h : Pending buffer header) : ¬Framed buffer response := by
  rintro ⟨block, size, hfound, -, hparsed, hlength, -⟩
  cases h with
  | searching hnone => exact absurd (hnone.symm.trans hfound) nofun
  | counting header hfound' hbound hparsed' hlength' =>
    have hblock : header.header_end = block := Option.some.inj (hfound'.symm.trans hfound)
    subst hblock
    rw [hparsed', Except.ok.injEq, Prod.mk.injEq] at hparsed
    omega

/-! ## One chunk -/

/-- What is known after a chunk has arrived. -/
theorem receive_spec (h : Pending buffer header) (chunk : Bytes) :
    (∃ error, receive (buffer ++ chunk) header = .error error ∧ Refused (buffer ++ chunk)) ∨
      (receive (buffer ++ chunk) header = .ok none ∧ Pending (buffer ++ chunk) none) ∨
      ∃ known : Header, receive (buffer ++ chunk) header = .ok (some known) ∧
        firstAt headerEnd (buffer ++ chunk) = some known.header_end ∧
        known.header_end + 4 ≤ MAX_RESPONSE_HEADER_BYTES ∧
        responseHeaders ((buffer ++ chunk).take known.header_end) = .ok (known.status, known.expected) := by
  cases h with
  | counting header hfound hbound hparsed hlength =>
    refine .inr (.inr ⟨header, rfl, firstAt_append headerEnd_ne_nil hfound chunk, hbound, ?_⟩)
    rw [take_append_of_firstAt hfound, hparsed]
  | searching hnone hlength =>
    unfold receive
    cases hfound : firstAt headerEnd (buffer ++ chunk) with
    | none =>
      by_cases hlong : MAX_RESPONSE_HEADER_BYTES < (buffer ++ chunk).length
      · exact .inl ⟨_, if_pos hlong, refused_of_long hfound hlong⟩
      · exact .inr (.inl ⟨if_neg hlong, .searching hfound (not_lt.mp hlong)⟩)
    | some block =>
      by_cases hlong : MAX_RESPONSE_HEADER_BYTES < block + 4
      · exact .inl ⟨_, if_pos hlong, refused_of_firstAt hfound (.inl hlong)⟩
      · cases hparsed : responseHeaders ((buffer ++ chunk).take block) with
        | error error =>
          refine .inl ⟨error, ?_, refused_of_firstAt hfound (.inr (.inl ⟨error, hparsed⟩))⟩
          simp only [if_neg hlong, hparsed, error_bind]
        | ok parsed =>
          refine .inr (.inr ⟨⟨block, parsed.1, parsed.2⟩, ?_, rfl, not_lt.mp hlong, hparsed⟩)
          simp only [if_neg hlong, hparsed, ok_bind]

/-! ## The run -/

/-- The loop accepts exactly when some of the chunks complete a framed stream. -/
theorem readLoop_eq_ok (h : Pending buffer header) (hchunks : ∀ chunk ∈ chunks, chunk ≠ []) :
    (readLoop buffer header chunks).1 = .ok response ↔
      ∃ front, front <+: chunks ∧ Framed (buffer ++ front.flatten) response := by
  induction chunks generalizing buffer header with
  | nil =>
    refine ⟨fun herror => (by cases herror), ?_⟩
    rintro ⟨front, hfront, hframed⟩
    rw [List.prefix_nil.mp hfront, List.flatten_nil, List.append_nil] at hframed
    exact absurd hframed h.not_framed
  | cons chunk chunks ih =>
    obtain ⟨hne, hrest⟩ := List.forall_mem_cons.mp hchunks
    -- the stream is not framed before this chunk
    have hfronts : (∃ front, front <+: chunk :: chunks ∧ Framed (buffer ++ front.flatten) response) ↔
        ∃ front, front <+: chunks ∧ Framed (buffer ++ chunk ++ front.flatten) response := by
      constructor
      · rintro ⟨front, hfront, hframed⟩
        cases front with
        | nil =>
          rw [List.flatten_nil, List.append_nil] at hframed
          exact absurd hframed h.not_framed
        | cons first front =>
          obtain ⟨hfirst, hprefix⟩ := List.cons_prefix_cons.mp hfront
          rw [hfirst, List.flatten_cons, ← List.append_assoc] at hframed
          exact ⟨front, hprefix, hframed⟩
      · rintro ⟨front, hfront, hframed⟩
        refine ⟨chunk :: front, List.cons_prefix_cons.mpr ⟨rfl, hfront⟩, ?_⟩
        rwa [List.flatten_cons, ← List.append_assoc]
    rw [hfronts, readLoop, if_neg hne]
    rcases receive_spec h chunk with ⟨error, hreceive, hrefused⟩ | ⟨hreceive, hpending⟩ |
        ⟨known, hreceive, hfound, hbound, hparsed⟩
    · simp only [hreceive]
      refine ⟨fun herror => (by cases herror), ?_⟩
      rintro ⟨front, -, hframed⟩
      exact absurd hframed (hrefused _ _)
    · simp only [hreceive]
      exact ih hpending hrest
    · simp only [hreceive]
      have hlength := length_of_firstAt hfound
      by_cases hexcess : known.expected < (buffer ++ chunk).length - known.header_end - 4
      · simp only [if_pos hexcess]
        refine ⟨fun herror => (by cases herror), ?_⟩
        rintro ⟨front, -, hframed⟩
        have hrefused : Refused (buffer ++ chunk) :=
          refused_of_firstAt hfound (.inr (.inr ⟨known.status, known.expected, hparsed, by omega⟩))
        exact absurd hframed (hrefused _ _)
      · simp only [if_neg hexcess]
        by_cases hcomplete : (buffer ++ chunk).length - known.header_end - 4 = known.expected
        · simp only [if_pos hcomplete, Except.ok.injEq]
          have hframed : Framed (buffer ++ chunk)
              ⟨known.status, (buffer ++ chunk).drop (known.header_end + 4)⟩ :=
            ⟨known.header_end, known.expected, hfound, hbound, hparsed, by omega, rfl⟩
          constructor
          · rintro rfl
            exact ⟨[], List.nil_prefix, by rwa [List.flatten_nil, List.append_nil]⟩
          · rintro ⟨front, -, hfront⟩
            have hnil := hframed.append_eq_nil hfront
            rw [hnil, List.append_nil] at hfront
            exact hframed.unique hfront
        · simp only [if_neg hcomplete]
          exact ih (.counting known hfound hbound hparsed (by omega)) hrest

/-- What was buffered before a chunk is within the bounds of header block and body. -/
theorem Pending.length_le (h : Pending buffer header) :
    buffer.length ≤ MAX_RESPONSE_HEADER_BYTES + MAX_RESPONSE_BODY_BYTES := by
  cases h with
  | searching hnone hlength => omega
  | counting header hfound hbound hparsed hlength =>
    have hsize := size_le_of_responseHeaders hparsed
    omega

/-- The loop ends before what follows arrives, or it still knows too little. -/
theorem readLoop_append (h : Pending buffer header) (hchunks : ∀ chunk ∈ chunks, chunk ≠ []) :
    (∀ later, readLoop buffer header (chunks ++ later) = readLoop buffer header chunks) ∨
      ∃ header', Pending (buffer ++ chunks.flatten) header' := by
  induction chunks generalizing buffer header with
  | nil =>
    refine .inr ⟨header, ?_⟩
    rwa [List.flatten_nil, List.append_nil]
  | cons chunk chunks ih =>
    obtain ⟨hne, hrest⟩ := List.forall_mem_cons.mp hchunks
    rw [List.flatten_cons, ← List.append_assoc]
    simp only [List.cons_append, readLoop, if_neg hne]
    rcases receive_spec h chunk with ⟨error, hreceive, -⟩ | ⟨hreceive, hpending⟩ |
        ⟨known, hreceive, hfound, hbound, hparsed⟩
    · simp only [hreceive]
      exact .inl fun later => trivial
    · simp only [hreceive]
      exact ih hpending hrest
    · simp only [hreceive]
      have hlength := length_of_firstAt hfound
      by_cases hexcess : known.expected < (buffer ++ chunk).length - known.header_end - 4
      · simp only [if_pos hexcess]
        exact .inl fun later => trivial
      · simp only [if_neg hexcess]
        by_cases hcomplete : (buffer ++ chunk).length - known.header_end - 4 = known.expected
        · simp only [if_pos hcomplete]
          exact .inl fun later => trivial
        · simp only [if_neg hcomplete]
          exact ih (.counting known hfound hbound hparsed (by omega)) hrest

/-- The buffer of the loop never exceeds both bounds by more than one chunk. -/
theorem length_readLoop_le (h : Pending buffer header)
    (hchunks : ∀ chunk ∈ chunks, chunk.length ≤ RECEIVE_BYTES) :
    (readLoop buffer header chunks).2.length ≤
      MAX_RESPONSE_HEADER_BYTES + MAX_RESPONSE_BODY_BYTES + RECEIVE_BYTES := by
  induction chunks generalizing buffer header with
  | nil => exact h.length_le.trans (Nat.le_add_right _ _)
  | cons chunk chunks ih =>
    obtain ⟨hchunk, hrest⟩ := List.forall_mem_cons.mp hchunks
    have hbefore := h.length_le
    have hbuffer : (buffer ++ chunk).length ≤
        MAX_RESPONSE_HEADER_BYTES + MAX_RESPONSE_BODY_BYTES + RECEIVE_BYTES := by
      rw [List.length_append]
      omega
    by_cases hne : chunk = []
    · rw [readLoop, if_pos hne]
      exact hbefore.trans (Nat.le_add_right _ _)
    rw [readLoop, if_neg hne]
    rcases receive_spec h chunk with ⟨error, hreceive, -⟩ | ⟨hreceive, hpending⟩ |
        ⟨known, hreceive, hfound, hbound, hparsed⟩
    · simp only [hreceive]
      exact hbuffer
    · simp only [hreceive]
      exact ih hpending hrest
    · simp only [hreceive]
      have hlength := length_of_firstAt hfound
      by_cases hexcess : known.expected < (buffer ++ chunk).length - known.header_end - 4
      · simp only [if_pos hexcess]
        exact hbuffer
      · simp only [if_neg hexcess]
        by_cases hcomplete : (buffer ++ chunk).length - known.header_end - 4 = known.expected
        · simp only [if_pos hcomplete]
          exact hbuffer
        · simp only [if_neg hcomplete]
          exact ih (.counting known hfound hbound hparsed (by omega)) hrest

theorem pending_nil : Pending [] none := .searching rfl (Nat.zero_le _)

theorem read_eq_ok (hchunks : ∀ chunk ∈ chunks, chunk ≠ []) :
    (read chunks).1 = .ok response ↔ ∃ front, front <+: chunks ∧ Framed front.flatten response := by
  have hloop := @readLoop_eq_ok [] chunks none response pending_nil hchunks
  simp only [List.nil_append] at hloop
  exact hloop

/-- How the loop should treat a stream that arrives in some chunks. -/
structure Exact (stream : Bytes) (chunks : List Bytes) : Prop where
  /-- It accepts exactly the framed streams, with their body. -/
  accepts : ∀ response, (read chunks).1 = .ok response ↔ Framed stream response
  /-- It ends in time, whatever else would arrive. -/
  ends : MAX_RESPONSE_HEADER_BYTES + MAX_RESPONSE_BODY_BYTES < stream.length →
    ∀ later, read (chunks ++ later) = read chunks
  /-- It buffers no more than the bounds of header block and body, and one chunk. -/
  buffered : (read chunks).2.length ≤
    MAX_RESPONSE_HEADER_BYTES + MAX_RESPONSE_BODY_BYTES + RECEIVE_BYTES

/-- The stream goes on after a complete response. -/
def GoesOn (stream : Bytes) : Prop :=
  ∃ front back response, stream = front ++ back ∧ back ≠ [] ∧ Framed front response

/-- Two beginnings of a stream that are framed are the same. -/
theorem Framed.eq_of_prefix {front front' : Bytes} (h : Framed front response) (h' : Framed front' response')
    (hfront : front <+: stream) (hfront' : front' <+: stream) : front = front' := by
  rcases List.prefix_or_prefix_of_prefix hfront hfront' with ⟨more, rfl⟩ | ⟨more, rfl⟩
  · rw [h.append_eq_nil h', List.append_nil]
  · rw [h'.append_eq_nil h, List.append_nil]

theorem flatten_singletons (bytes : Bytes) : (bytes.map fun b => [b]).flatten = bytes := by
  induction bytes with
  | nil => rfl
  | cons b bytes ih => rw [List.map_cons, List.flatten_cons, ih, List.singleton_append]

theorem length_flatten_prefix {front : List Bytes} (h : front <+: chunks) :
    front.flatten.length ≤ chunks.flatten.length := by
  obtain ⟨back, rfl⟩ := h
  rw [List.flatten_append, List.length_append]
  exact Nat.le_add_right _ _

/-- The chunks of a complete response, and then of what goes on, byte by byte. -/
theorem exists_accepted {front back : Bytes} (h : Framed front response) :
    ∃ chunks, Arrives (front ++ back) chunks ∧ (read chunks).1 = .ok response := by
  have hone : ∀ chunk ∈ (front ++ back).map fun b => [b], chunk.length = 1 := by
    intro chunk hchunk
    obtain ⟨b, -, rfl⟩ := List.mem_map.mp hchunk
    rfl
  have hne : ∀ chunk ∈ (front ++ back).map fun b => [b], chunk ≠ [] := by
    rintro chunk hchunk rfl
    exact absurd (hone _ hchunk) nofun
  refine ⟨_, ⟨flatten_singletons _, hne, fun chunk hchunk => (hone chunk hchunk).trans_le (by decide)⟩, ?_⟩
  refine (read_eq_ok hne).mpr ⟨front.map fun b => [b], ?_, ?_⟩
  · rw [List.map_append]
    exact List.prefix_append _ _
  · rwa [flatten_singletons]

/-- The chunks of which one has the end of the response and the byte after it. -/
theorem exists_refused {front back : Bytes} {b : UInt8} (h : Framed front response) :
    ∃ chunks, Arrives (front ++ b :: back) chunks ∧ ∀ response, (read chunks).1 ≠ .ok response := by
  obtain ⟨first, last, rfl⟩ : ∃ first last, front = first ++ [last] := by
    obtain ⟨block, size, hfound, -⟩ := h
    have hlength := length_of_firstAt hfound
    have hne : front ≠ [] := by
      rintro rfl
      rw [List.length_nil] at hlength
      omega
    exact ⟨front.dropLast, front.getLast hne, (List.dropLast_append_getLast hne).symm⟩
  let chunks := (first.map fun b => [b]) ++ [last, b] :: back.map fun b => [b]
  have hflatten : chunks.flatten = first ++ [last] ++ b :: back := by
    rw [List.flatten_append, List.flatten_cons, flatten_singletons, flatten_singletons, List.append_assoc]
    rfl
  have htwo : ∀ chunk ∈ chunks, 1 ≤ chunk.length ∧ chunk.length ≤ 2 := by
    intro chunk hchunk
    rcases List.mem_append.mp hchunk with hchunk | hchunk
    · obtain ⟨b, -, rfl⟩ := List.mem_map.mp hchunk
      exact ⟨le_rfl, Nat.le_succ 1⟩
    · rcases List.mem_cons.mp hchunk with rfl | hchunk
      · exact ⟨Nat.le_succ 1, le_rfl⟩
      · obtain ⟨b, -, rfl⟩ := List.mem_map.mp hchunk
        exact ⟨le_rfl, Nat.le_succ 1⟩
  have hne : ∀ chunk ∈ chunks, chunk ≠ [] := fun chunk hchunk =>
    List.length_pos_iff.mp (htwo chunk hchunk).1
  refine ⟨chunks, ⟨hflatten, hne, fun chunk hchunk => (htwo chunk hchunk).2.trans (by decide)⟩, ?_⟩
  intro response' hok
  obtain ⟨accepted, haccepted, hframed⟩ := (read_eq_ok hne).mp hok
  -- the framed beginning ends between two bytes of one chunk
  have heq : accepted.flatten = first ++ [last] := by
    have hbegins : accepted.flatten <+: first ++ [last] ++ b :: back := by
      obtain ⟨rest, hrest⟩ := haccepted
      rw [← hflatten, ← hrest, List.flatten_append]
      exact List.prefix_append _ _
    exact hframed.eq_of_prefix h hbegins (List.prefix_append _ _)
  have hlength := congrArg List.length heq
  rw [List.length_append, List.length_singleton] at hlength
  rcases List.prefix_or_prefix_of_prefix haccepted
    (List.prefix_append (first.map fun b => [b]) ([last, b] :: back.map fun b => [b])) with hbefore | hafter
  · have hle := length_flatten_prefix hbefore
    rw [flatten_singletons] at hle
    omega
  · obtain ⟨tail, rfl⟩ := hafter
    rw [List.flatten_append, List.length_append, flatten_singletons] at hlength
    have htail : tail <+: [last, b] :: back.map fun b => [b] := (List.prefix_append_right_inj _).mp haccepted
    cases tail with
    | nil =>
      rw [List.flatten_nil, List.length_nil] at hlength
      omega
    | cons chunk tail =>
      rw [(List.cons_prefix_cons.mp htail).1, List.flatten_cons, List.length_append, List.length_cons,
        List.length_singleton] at hlength
      omega

/-- The loop is exact for the chunks of a stream unless a complete response ends with a chunk
that is not the last one. -/
theorem read_exact_iff (stream : Bytes) :
    (∀ chunks, Arrives stream chunks → (Exact stream chunks ↔ ¬Overrun chunks)) ∧
      ((∀ chunks chunks', Arrives stream chunks → Arrives stream chunks' →
        ∀ response, (read chunks).1 = .ok response ↔ (read chunks').1 = .ok response) ↔
          ¬GoesOn stream) := by
  refine ⟨fun chunks harrives => ⟨fun hexact => ?_, fun hnot => ?_⟩,
    ⟨fun hsame => ?_, fun hnot => ?_⟩⟩
  · rintro ⟨front, back, rfl, hback, response, hframed⟩
    have hok : (read (front ++ back)).1 = .ok response :=
      (read_eq_ok harrives.ne_nil).mpr ⟨front, List.prefix_append _ _, hframed⟩
    have hwhole := (hexact.accepts response).mp hok
    rw [← harrives.flatten, List.flatten_append] at hwhole
    have hnil := hframed.append_eq_nil hwhole
    obtain ⟨chunk, back, rfl⟩ := List.exists_cons_of_ne_nil hback
    rw [List.flatten_cons, List.append_eq_nil_iff] at hnil
    exact harrives.ne_nil chunk (List.mem_append_right _ List.mem_cons_self) hnil.1
  · refine ⟨fun response => ?_, fun hlong => ?_, length_readLoop_le pending_nil harrives.length_le⟩
    · rw [read_eq_ok harrives.ne_nil, ← harrives.flatten]
      constructor
      · rintro ⟨front, ⟨back, rfl⟩, hframed⟩
        have hback : back = [] := by
          by_contra hback
          exact hnot ⟨front, back, rfl, hback, response, hframed⟩
        rwa [hback, List.append_nil]
      · exact fun hframed => ⟨chunks, List.prefix_refl _, hframed⟩
    · rcases readLoop_append pending_nil harrives.ne_nil with hends | ⟨header, hpending⟩
      · exact hends
      · have hlength := hpending.length_le
        rw [List.nil_append, harrives.flatten] at hlength
        omega
  · rintro ⟨front, back, response, rfl, hback, hframed⟩
    obtain ⟨b, back, rfl⟩ := List.exists_cons_of_ne_nil hback
    obtain ⟨chunks, harrives, hok⟩ := @exists_accepted response front (b :: back) hframed
    obtain ⟨chunks', harrives', hrefused⟩ := @exists_refused response front back b hframed
    exact hrefused response ((hsame chunks chunks' harrives harrives' response).mp hok)
  · have hexact (chunks : List Bytes) (harrives : Arrives stream chunks) (response : Response) :
        (read chunks).1 = .ok response ↔ Framed stream response := by
      rw [read_eq_ok harrives.ne_nil]
      constructor
      · rintro ⟨front, ⟨back, rfl⟩, hframed⟩
        by_contra hstream
        refine hnot ⟨front.flatten, back.flatten, response, ?_, ?_, hframed⟩
        · rw [← harrives.flatten, List.flatten_append]
        · intro hback
          rw [← harrives.flatten, List.flatten_append, hback, List.append_nil] at hstream
          exact hstream hframed
      · exact fun hframed => ⟨chunks, List.prefix_refl _, harrives.flatten ▸ hframed⟩
    intro chunks chunks' harrives harrives' response
    rw [hexact chunks harrives, hexact chunks' harrives']

/-- A health response of two bytes. -/
def health : Bytes := ascii "HTTP/1.1 200 OK\r\nContent-Length: 2\r\n\r\n{}"

/-- The blank line is split between the two chunks. -/
theorem read_exact_health : Exact health [health.take 36, health.drop 36] := by
  refine ((read_exact_iff health).1 _ ⟨?_, by decide, by decide⟩).mpr ?_
  · rw [List.flatten_cons, List.flatten_cons, List.flatten_nil, List.append_nil, List.take_append_drop]
  · rintro ⟨front, back, hchunks, hback, response, block, size, hfound, -⟩
    rcases front with _ | ⟨first, _ | ⟨second, front⟩⟩
    · cases hfound
    · rw [List.singleton_append, List.cons.injEq] at hchunks
      rw [← hchunks.1] at hfound
      exact absurd (Option.isSome_of_eq_some hfound) (by decide)
    · rw [List.cons_append, List.cons_append, List.cons.injEq, List.cons.injEq, eq_comm (a := []),
        List.append_eq_nil_iff] at hchunks
      exact hback hchunks.2.2.2

/-- A byte after the response is not seen when it arrives in a later chunk. -/
theorem read_not_exact : ¬∀ stream chunks, Arrives stream chunks → Exact stream chunks := by
  intro h
  have hexact := h (health ++ [120]) [health, [120]] ⟨by decide, by decide, by decide⟩
  obtain ⟨block, size, hfound, -, hparsed, hlength, -⟩ :=
    (hexact.accepts ⟨200, ascii "{}"⟩).mp (by decide)
  have hblock : block = 34 := Option.some.inj (hfound.symm.trans (by decide))
  subst hblock
  have hsize : (200, size) = ((200, 2) : ℕ × ℕ) := Except.ok.inj (hparsed.symm.trans (by decide))
  rw [(Prod.mk.inj hsize).2] at hlength
  exact absurd hlength (by decide)

end AtlasOS.Worker.Client
