import SuitApi.Library.Json
import SuitApi.Library.Utf8
import SuitApi.Text

/-! # The usage in a stream of answers

`_stream_proxy` looks for a usage in each chunk on its own, in whatever pieces the
transport delivers.  A cut into single bytes hides every usage, so two cuts agree on
every stream in which no cut shows a count.
-/

namespace SuitApi.AIService

/-! ## _extract_usage_from_chunk -/

/-- A decoded JSON object. -/
abbrev Usage := List (String × Json)

inductive UsageRead where
  | nothing
  | raised
  | found (usage : Usage)
  deriving Repr

/-- One turn of the loop over the lines.  `depth` is the nesting that the stack admits
    in `json.loads`, whose other exceptions than `JSONDecodeError` are not caught. -/
def usageOfLine (depth : Nat) (line : List Char) : UsageRead :=
  if "data:".toList.isPrefixOf line then
    let payload := strip (line.drop 5)
    if payload = [] ∨ payload = "[DONE]".toList then .nothing
    else
      match Json.loads depth payload with
      | .error .malformed => .nothing
      | .error _ => .raised
      | .ok (.obj data) =>
          match Json.get data "usage" with
          | some (.obj usage) => .found usage
          | _ => .nothing
      | .ok _ => .raised
  else .nothing

def usageOfLines (depth : Nat) : List (List Char) → UsageRead
  | [] => .nothing
  | line :: rest =>
      match usageOfLine depth line with
      | .nothing => usageOfLines depth rest
      | .raised => .raised
      | .found usage => .found usage

def extractUsageFromChunk (depth : Nat) (chunk : List UInt8) : UsageRead :=
  usageOfLines depth (splitLines (Utf8.decodeIgnore chunk))

/-! ## Reading the counts -/

/-- Python's truth value. -/
def truthy : Json → Bool
  | .null => false
  | .bool b => b
  | .int n => n ≠ 0
  | .float (.finite q) => q ≠ 0
  | .float _ => true
  | .str text => text ≠ ""
  | .arr items => !items.isEmpty
  | .obj members => !members.isEmpty

/-- `int(value)`, or `none` where it raises. -/
def intOf : Json → Option Int
  | .bool b => some (if b then 1 else 0)
  | .int n => some n
  | .float x => x.truncate
  | .str text =>
      if (text.toList.filter fun c => (digitOf c).isSome).length ≤ Json.maxStrDigits then intOfText text else none
  | _ => none

/-- `int(usage.get(key, before) or before)`, or `none` where it raises. -/
def readCount (usage : Usage) (key : String) (before : Int) : Option Int :=
  match Json.get usage key with
  | none => some before
  | some value => if truthy value then intOf value else some before

structure Counts where
  promptTokens : Int := 0
  completionTokens : Int := 0
  deriving Repr, DecidableEq

/-- The two assignments, and whether one of them raised. -/
def Counts.read (usage : Usage) (counts : Counts) : Counts × Bool :=
  match readCount usage "prompt_tokens" counts.promptTokens with
  | none => (counts, true)
  | some promptTokens =>
      match readCount usage "completion_tokens" counts.completionTokens with
      | none => ({ counts with promptTokens }, true)
      | some completionTokens => (⟨promptTokens, completionTokens⟩, false)

/-- One turn of the loop over the chunks; an exception ends the loop. -/
def readChunk (depth : Nat) (counts : Counts) (chunk : List UInt8) : Counts × Bool :=
  if chunk = [] then (counts, false)
  else
    match extractUsageFromChunk depth chunk with
    | .nothing => (counts, false)
    | .raised => (counts, true)
    | .found usage => if usage = [] then (counts, false) else counts.read usage

def readChunks (depth : Nat) : Counts → List (List UInt8) → Counts
  | counts, [] => counts
  | counts, chunk :: rest =>
      if (readChunk depth counts chunk).2 then (readChunk depth counts chunk).1
      else readChunks depth (readChunk depth counts chunk).1 rest

/-- What the upstream does with a streamed request. -/
inductive Upstream where
  | unreachable
  /-- The chunks are those that arrive before the stream ends or breaks off. -/
  | answered (statusCode : Int) (chunks : List (List UInt8))

/-- The counts and the status code that `_stream_proxy` records. -/
def streamProxy (depth : Nat) : Upstream → Counts × Int
  | .unreachable => ({}, 200)
  | .answered statusCode chunks =>
      if 400 ≤ statusCode then ({}, statusCode) else (readChunks depth {} chunks, statusCode)

end SuitApi.AIService

namespace SuitApi.UsageStream

open AIService

/-! ## What a line gives -/

theorem usageOfLine_short {line : List Char} (short : line.length < 5) (depth : Nat) :
    usageOfLine depth line = .nothing := by
  have other : "data:".toList.isPrefixOf line ≠ true := by
    intro begins
    have long := (List.isPrefixOf_iff_prefix.mp begins).length_le
    have five : "data:".toList.length = 5 := by decide
    omega
  rw [usageOfLine, if_neg other]

theorem usageOfLines_nothing {depth : Nat} {lines : List (List Char)}
    (all : ∀ line ∈ lines, usageOfLine depth line = .nothing) : usageOfLines depth lines = .nothing := by
  induction lines with
  | nil => rfl
  | cons line rest ih =>
      rw [usageOfLines, all line List.mem_cons_self]
      exact ih fun line inside => all line (List.mem_cons_of_mem _ inside)

theorem usageOfLines_found {depth : Nat} {lines : List (List Char)} {usage : Usage}
    (found : usageOfLines depth lines = .found usage) : ∃ line ∈ lines, usageOfLine depth line = .found usage := by
  induction lines with
  | nil => cases found
  | cons line rest ih =>
      rw [usageOfLines] at found
      split at found
      · obtain ⟨line, inside, here⟩ := ih found
        exact ⟨line, List.mem_cons_of_mem _ inside, here⟩
      · cases found
      · rename_i here
        cases found
        exact ⟨line, List.mem_cons_self, here⟩

/-- The usage of a chunk is that of a part of the chunk that is one line. -/
theorem extractUsageFromChunk_found {depth : Nat} {chunk : List UInt8} {usage : Usage}
    (found : extractUsageFromChunk depth chunk = .found usage) :
    ∃ piece, piece <:+: chunk ∧ Unbroken (Utf8.decodeIgnore piece) ∧
      usageOfLine depth (Utf8.decodeIgnore piece) = .found usage := by
  obtain ⟨line, member, here⟩ := usageOfLines_found found
  obtain ⟨inside, unbroken⟩ := mem_splitLines member
  obtain ⟨piece, part, gives⟩ := Decoder.decode_infix inside
  have same : Utf8.decodeIgnore piece = line := gives
  exact ⟨piece, part, by rw [same]; exact unbroken, by rw [same]; exact here⟩

/-- A chunk that is one line has the usage of this line. -/
theorem extractUsageFromChunk_line {depth : Nat} {chunk : List UInt8} {usage : Usage}
    (unbroken : Unbroken (Utf8.decodeIgnore chunk))
    (here : usageOfLine depth (Utf8.decodeIgnore chunk) = .found usage) :
    chunk ≠ [] ∧ extractUsageFromChunk depth chunk = .found usage := by
  have nonempty : Utf8.decodeIgnore chunk ≠ [] := by
    intro empty
    rw [empty, usageOfLine_short (by decide)] at here
    cases here
  constructor
  · rintro rfl
    exact nonempty rfl
  · rw [extractUsageFromChunk, splitLines_unbroken unbroken nonempty, usageOfLines, here]

/-! ## Single bytes -/

theorem readChunk_byte (depth : Nat) (counts : Counts) (b : UInt8) : readChunk depth counts [b] = (counts, false) := by
  have nothing : extractUsageFromChunk depth [b] = .nothing := by
    apply usageOfLines_nothing
    intro line member
    apply usageOfLine_short
    have short : (Utf8.decodeIgnore [b]).length ≤ 1 := Utf8.decoder.length_decodeFrom _ [b]
    exact lt_of_le_of_lt ((mem_splitLines member).1.length_le.trans short) (by decide)
  rw [readChunk, if_neg (List.cons_ne_nil b []), nothing]

/-- The cut into single bytes. -/
theorem flatten_bytes (bytes : List UInt8) : (bytes.map fun b => [b]).flatten = bytes := by
  rw [← List.flatMap_def, List.flatMap_singleton']

theorem readChunks_bytes (depth : Nat) (counts : Counts) (bytes : List UInt8) (rest : List (List UInt8)) :
    readChunks depth counts (bytes.map (fun b => [b]) ++ rest) = readChunks depth counts rest := by
  induction bytes with
  | nil => rfl
  | cons b bytes ih =>
      rw [List.map_cons, List.cons_append, readChunks, readChunk_byte]
      exact ih

/-- A cut that singles out one piece records what the piece alone gives. -/
theorem readChunks_around (depth : Nat) (before piece after : List UInt8) :
    readChunks depth {} (before.map (fun b => [b]) ++ piece :: after.map fun b => [b]) =
      (readChunk depth {} piece).1 := by
  rw [readChunks_bytes, readChunks]
  split
  · rfl
  · have tail := readChunks_bytes depth (readChunk depth {} piece).1 after []
    rwa [List.append_nil] at tail

/-! ## Cuts -/

/-- No part of the stream is a data line whose usage has a count to read. -/
def Silent (depth : Nat) (stream : List UInt8) : Prop :=
  ∀ piece usage, piece <:+: stream → Unbroken (Utf8.decodeIgnore piece) →
    usageOfLine depth (Utf8.decodeIgnore piece) = .found usage → (Counts.read usage {}).1 = {}

theorem readChunk_silent {depth : Nat} {stream chunk : List UInt8} (silent : Silent depth stream)
    (part : chunk <:+: stream) : (readChunk depth {} chunk).1 = {} := by
  unfold readChunk
  split
  · rfl
  · split
    · rfl
    · rfl
    · rename_i usage found
      obtain ⟨piece, inside, unbroken, here⟩ := extractUsageFromChunk_found found
      split
      · rfl
      · exact silent piece usage (inside.trans part) unbroken here

theorem readChunks_silent {depth : Nat} {stream : List UInt8} (silent : Silent depth stream)
    {chunks : List (List UInt8)} (part : chunks.flatten <:+: stream) : readChunks depth {} chunks = {} := by
  induction chunks with
  | nil => rfl
  | cons chunk rest ih =>
      rw [List.flatten_cons] at part
      have none := readChunk_silent silent ((List.prefix_append chunk rest.flatten).isInfix.trans part)
      rw [readChunks, none]
      split
      · rfl
      · exact ih ((List.suffix_append chunk rest.flatten).isInfix.trans part)

/-- Two cuts of a successful stream always record the same counts if and only if no
    part of the stream is a data line with a count. -/
theorem cut_independent_iff (depth : Nat) (stream : List UInt8) :
    (∀ (statusCode : Int) (first second : List (List UInt8)), statusCode < 400 →
        first.flatten = stream → second.flatten = stream →
        streamProxy depth (.answered statusCode first) = streamProxy depth (.answered statusCode second)) ↔
      Silent depth stream := by
  constructor
  · rintro same piece usage ⟨before, after, rfl⟩ unbroken here
    have cuts := same 200 (before.map (fun b => [b]) ++ piece :: after.map fun b => [b])
      ((before ++ piece ++ after).map fun b => [b]) (by decide) (by simp [flatten_bytes]) (flatten_bytes _)
    have bytes := readChunks_bytes depth {} (before ++ piece ++ after) []
    rw [List.append_nil] at bytes
    have recorded : readChunks depth {} (before.map (fun b => [b]) ++ piece :: after.map fun b => [b]) = {} := by
      have counts := congrArg Prod.fst cuts
      simp only [streamProxy] at counts
      rw [if_neg (by decide), if_neg (by decide), bytes] at counts
      exact counts
    rw [readChunks_around] at recorded
    obtain ⟨nonempty, found⟩ := extractUsageFromChunk_line unbroken here
    rw [readChunk, if_neg nonempty, found] at recorded
    by_cases empty : usage = []
    · rw [empty]
      rfl
    · simp only [if_neg empty] at recorded
      exact recorded
  · intro silent statusCode first second successful cutFirst cutSecond
    have none := fun (chunks : List (List UInt8)) (cut : chunks.flatten = stream) =>
      readChunks_silent silent (cut ▸ List.infix_rfl : chunks.flatten <:+: stream)
    simp only [streamProxy, if_neg (not_le.mpr successful), none first cutFirst, none second cutSecond]

/-- One data line with a usage, in one chunk and in two. -/
theorem cut_inside_usage :
    ¬ ∀ (depth : Nat) (stream : List UInt8) (statusCode : Int) (first second : List (List UInt8)),
    statusCode < 400 → first.flatten = stream → second.flatten = stream →
    streamProxy depth (.answered statusCode first) = streamProxy depth (.answered statusCode second) := by
  intro all
  have same := all 900 "data: \x7b\"usage\":\x7b\"prompt_tokens\":7\x7d\x7d\n".toUTF8.toList 200
    ["data: \x7b\"usage\":\x7b\"prompt_tokens\":7\x7d\x7d\n".toUTF8.toList]
    ["data: \x7b\"us".toUTF8.toList, "age\":\x7b\"prompt_tokens\":7\x7d\x7d\n".toUTF8.toList]
    (by decide) (by decide +kernel) (by decide +kernel)
  exact absurd same (by decide +kernel)

end SuitApi.UsageStream
