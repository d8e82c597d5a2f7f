import AtlasOS.Lib.Utf8
import AtlasOS.Worker.Runner

/-!
# Bounded output

A capture takes the chunks of a stream as they are read, keeps the first bytes up to its
limit and counts all of them. Its output is the text of what it kept, without the bytes
that are not UTF-8, so that the text is never longer than what was kept.
-/

namespace AtlasOS.Worker

/-! ## What a capture keeps -/

namespace Capture

theorem foldl_add (c : Capture) (chunks : List (List UInt8)) :
    (chunks.foldl add c).kept = c.kept ++ chunks.flatten.take (c.limit - c.kept.length) ∧
      (chunks.foldl add c).total = c.total + chunks.flatten.length := by
  induction chunks generalizing c with
  | nil => simp
  | cons chunk chunks ih =>
    obtain ⟨hkept, htotal⟩ := ih (c.add chunk)
    rw [List.foldl_cons]
    constructor
    · have hrest : c.limit - (c.kept ++ chunk.take (c.limit - c.kept.length)).length =
          c.limit - c.kept.length - chunk.length := by
        rw [List.length_append, List.length_take]
        omega
      rw [hkept, List.flatten_cons, List.take_append]
      simp only [add, hrest, List.append_assoc]
    · rw [htotal, List.flatten_cons, List.length_append]
      simp only [add]
      omega

theorem kept_ofChunks (limit : ℕ) (chunks : List (List UInt8)) :
    (ofChunks limit chunks).kept = chunks.flatten.take limit :=
  (foldl_add ⟨limit, [], 0⟩ chunks).1

theorem total_ofChunks (limit : ℕ) (chunks : List (List UInt8)) :
    (ofChunks limit chunks).total = chunks.flatten.length :=
  ((foldl_add ⟨limit, [], 0⟩ chunks).2).trans (Nat.zero_add _)

end Capture

/-! ## The decoder -/

/-- The decoder keeps a text, and drops some of the bytes that are not one. -/
structure Decoder.Faithful (d : Decoder) : Prop where
  decode_utf8 : ∀ text, d.decode (utf8 text) = text
  lossy : ∀ bytes, decodeUtf8 bytes = none → (d.decode bytes).utf8ByteSize < bytes.length

variable {d : Decoder} {limit : ℕ} {chunks : List (List UInt8)}

/-- A capture is complete when what was written is a text within the limit. -/
theorem truncated_output (hd : d.Faithful) :
    ((Capture.ofChunks limit chunks).output d).truncated = false ↔
      chunks.flatten.length ≤ limit ∧ decodeUtf8 chunks.flatten ≠ none := by
  simp only [Capture.output, Capture.kept_ofChunks, Capture.total_ofChunks, decide_eq_false_iff_not,
    not_lt]
  have hsize := d.size_le (chunks.flatten.take limit)
  rw [List.length_take] at hsize
  constructor
  · intro h
    have hlimit : chunks.flatten.length ≤ limit := by omega
    refine ⟨hlimit, fun hnone => ?_⟩
    rw [List.take_of_length_le hlimit] at h
    have hlossy := hd.lossy _ hnone
    omega
  · rintro ⟨hlimit, hsome⟩
    obtain ⟨text, htext⟩ := Option.ne_none_iff_exists'.mp hsome
    rw [List.take_of_length_le hlimit, decodeUtf8_eq_some.mp htext, hd.decode_utf8, length_utf8]

theorem text_output (hd : d.Faithful) {text : String} (h : chunks.flatten = utf8 text)
    (hlimit : text.utf8ByteSize ≤ limit) :
    ((Capture.ofChunks limit chunks).output d).text = text := by
  have hlength : (utf8 text).length ≤ limit := by rwa [length_utf8]
  simp only [Capture.output, Capture.kept_ofChunks, h, List.take_of_length_le hlength,
    hd.decode_utf8]

/-- The decoder that leaves errors out keeps some of the bytes. -/
def ignoreDecoder : Decoder where
  decode := decodeIgnore
  size_le bytes := by
    rw [← length_utf8]
    exact (utf8_decodeIgnore_sublist bytes).length_le
  decode_nil := rfl

theorem ignoreDecoder_faithful : ignoreDecoder.Faithful := by
  refine ⟨decodeIgnore_utf8, fun bytes hnone => ?_⟩
  have hsublist := utf8_decodeIgnore_sublist bytes
  have hle := hsublist.length_le
  by_contra hall
  have hlength : (utf8 (decodeIgnore bytes)).length = bytes.length := by
    rw [length_utf8] at hle ⊢
    exact le_antisymm hle (not_lt.mp hall)
  have hsame := decodeUtf8_eq_some.mpr (hsublist.eq_of_length hlength).symm
  rw [hsame] at hnone
  cases hnone

/-! ## The output of a capture -/

/-- What a capture with a limit makes of a stream that is read in chunks. -/
def captured (limit : ℕ) (chunks : List (List UInt8)) : BoundedOutput :=
  (Capture.ofChunks limit chunks).output ignoreDecoder

/-- The chunks do not matter, only the stream that they make up. -/
theorem captured_eq (limit : ℕ) (chunks : List (List UInt8)) :
    captured limit chunks =
      let text := decodeIgnore (chunks.flatten.take limit)
      ⟨text, decide (text.utf8ByteSize < chunks.flatten.length),
        some (chunks.flatten.length : ℤ)⟩ := by
  simp only [captured, Capture.output, Capture.kept_ofChunks, Capture.total_ofChunks, ignoreDecoder]

/-- The text of a capture is encoded by some of the bytes that it kept. -/
theorem captured_text_sublist (limit : ℕ) (chunks : List (List UInt8)) :
    (utf8 (captured limit chunks).text).Sublist (chunks.flatten.take limit) := by
  rw [captured_eq]
  exact utf8_decodeIgnore_sublist _

/-- What a bounded capture of a stream is. -/
structure Captures (limit : ℕ) (stream : List UInt8) (output : BoundedOutput) : Prop where
  /-- The text is encoded by some of the first bytes, in their order. -/
  kept : (utf8 output.text).Sublist (stream.take limit)
  size : output.text.utf8ByteSize ≤ limit
  /-- The flag tells whether bytes were dropped. -/
  truncated : output.truncated = true ↔ utf8 output.text ≠ stream
  original_bytes : output.original_bytes = some (stream.length : ℤ)

theorem captures_captured (limit : ℕ) (chunks : List (List UInt8)) :
    Captures limit chunks.flatten (captured limit chunks) := by
  have hkept := captured_text_sublist limit chunks
  have hstream := hkept.trans (List.take_sublist limit chunks.flatten)
  have hsize : (captured limit chunks).text.utf8ByteSize ≤ limit := by
    have hlength := hkept.length_le
    rw [length_utf8, List.length_take] at hlength
    omega
  refine ⟨hkept, hsize, ?_, by rw [captured_eq]⟩
  have hflag : (captured limit chunks).truncated = true ↔
      (captured limit chunks).text.utf8ByteSize < chunks.flatten.length := by
    rw [captured_eq]
    exact decide_eq_true_iff
  rw [hflag, ← length_utf8]
  constructor
  · intro hlt hsame
    rw [hsame] at hlt
    exact lt_irrefl _ hlt
  · intro hdropped
    exact lt_of_le_of_ne hstream.length_le fun hlength => hdropped (hstream.eq_of_length hlength)

/-! ## Commands -/

/-- Whether `run_command` takes a timeout. -/
def validTimeout : Unchecked → Bool
  | .int seconds => 0 < seconds && seconds ≤ 3600
  | .float (.finite seconds) => 0 < seconds && seconds ≤ 3600
  | _ => false

/-- `run_command` of a caller's timeout and bound -/
def runCommandWithin (timeout : Unchecked) (output_limit : ℤ) (answer : CommandAnswer) :
    Except RunnerError CapturedCommand :=
  if !validTimeout timeout then
    .error (.other (.valueError "command timeout must be finite and positive"))
  else if ¬(0 < output_limit ∧ output_limit ≤ MAX_CAPTURE_BYTES) then
    .error (.other (.valueError "invalid output capture bound"))
  else runCommand ignoreDecoder output_limit.toNat answer

/-- The outputs that a command leaves, whether it ended in time or not. -/
def outputsOf : Except RunnerError CapturedCommand → List BoundedOutput
  | .ok command => [command.stdout, command.stderr]
  | .error (.timeoutExpired (some (stdout, stderr))) => [stdout, stderr]
  | .error _ => []

theorem validate_captured {limit : ℕ} (hlimit : limit ≤ MAX_TEXT_BYTES)
    (chunks : List (List UInt8)) : (captured limit chunks).validate = .ok () :=
  Capture.validate_output ignoreDecoder hlimit chunks

/-- Each output of a command is what a capture within the bound of the contract makes of a
stream. -/
theorem exists_captured {timeout : Unchecked} {output_limit : ℤ} {answer : CommandAnswer}
    {output : BoundedOutput} (h : output ∈ outputsOf (runCommandWithin timeout output_limit answer)) :
    output_limit ≤ MAX_TEXT_BYTES ∧ ∃ chunks, output = captured output_limit.toNat chunks := by
  rw [runCommandWithin] at h
  split_ifs at h with htimeout hlimit
  · simp [outputsOf] at h
  · refine ⟨hlimit.2, ?_⟩
    cases answer with
    | finished returncode stdout stderr =>
      simp only [runCommand, outputsOf, List.mem_cons, List.not_mem_nil, or_false] at h
      rcases h with rfl | rfl
      · exact ⟨stdout, rfl⟩
      · exact ⟨stderr, rfl⟩
    | timedOut stdout stderr =>
      simp only [runCommand, outputsOf, List.mem_cons, List.not_mem_nil, or_false] at h
      rcases h with rfl | rfl
      · exact ⟨stdout, rfl⟩
      · exact ⟨stderr, rfl⟩
    | expired => simp [runCommand, outputsOf] at h
    | failed error => simp [runCommand, outputsOf] at h
  · simp [outputsOf] at h

/-! ## Values of the runner -/

/-- The argument of `_bounded`. -/
inductive BoundedValue where
  | str (value : String)
  | bytes (value : List UInt8)
  | none

/-- The text of a value. -/
def BoundedValue.text : BoundedValue → String
  | .str value => value
  | .bytes value => decodeReplace value
  | .none => ""

/-- `_bounded` -/
def boundedOutput (value : BoundedValue) : BoundedOutput :=
  let raw := utf8 value.text
  if raw.length ≤ MAX_CAPTURE_BYTES then ⟨value.text, false, some (raw.length : ℤ)⟩
  else ⟨decodeIgnore (raw.take MAX_CAPTURE_BYTES), true, some (raw.length : ℤ)⟩

/-- A text within the bound is taken as it is. -/
theorem boundedOutput_str {text : String} (h : text.utf8ByteSize ≤ MAX_CAPTURE_BYTES) :
    boundedOutput (.str text) = bounded text := by
  simp only [boundedOutput, BoundedValue.text, length_utf8, h, if_true, bounded]

/-- The text is measured once it is decoded, so the marks of a decoding count. -/
theorem validate_boundedOutput (value : BoundedValue) : (boundedOutput value).validate = .ok () := by
  have hread {text : String} {total : ℕ} (hsize : text.utf8ByteSize ≤ MAX_TEXT_BYTES)
      (htotal : text.utf8ByteSize ≤ total) := BoundedOutput.validate_of_read hsize htotal
  simp only [boundedOutput, length_utf8]
  split_ifs with hsize
  · have hwhole := hread hsize le_rfl
    rw [decide_eq_false (lt_irrefl _)] at hwhole
    exact hwhole
  · have hcut := (utf8_decodeIgnore_sublist ((utf8 value.text).take MAX_CAPTURE_BYTES)).length_le
    rw [length_utf8, List.length_take, length_utf8] at hcut
    have hshort := hread (hcut.trans (min_le_left _ _)) (hcut.trans (min_le_right _ _))
    rw [decide_eq_true (by omega)] at hshort
    exact hshort

end AtlasOS.Worker
