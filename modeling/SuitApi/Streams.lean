import SuitApi.Gateway
import SuitApi.Library.Runs

/-! # Streams side by side

`_stream_proxy` is an asynchronous generator.  At each of its awaits other requests go on and
the client may leave; the row of the call is written when the generator ends, however it
ends.  The books come out as if every call had been made at once, when it ended.
-/

namespace SuitApi.Streams

open AIService
open BillingService (ApiCall)

/-! ## The generators -/

/-- The arguments of `_stream_proxy` that go into the row. -/
structure Request where
  endpoint : String
  modelName : Option String
  userId : UserId
  apiKey : String

def Request.call (request : Request) (latencyMs : Int) (recorded : Counts × Int) : ApiCall where
  userId := some request.userId
  apiKey := some request.apiKey
  modelName := request.modelName
  endpoint := request.endpoint
  tokensInput := recorded.1.promptTokens
  tokensOutput := recorded.1.completionTokens
  latencyMs := some latencyMs
  statusCode := some recorded.2

inductive Phase where
  /-- Nobody has asked for a chunk yet. -/
  | created
  | requested
  /-- The answer is an error, whose body is read before it is raised. -/
  | failing (statusCode : Int)
  | reading (statusCode : Int) (counts : Counts)
  /-- The latency in the row, or `none` for a generator that never ran. -/
  | closed (latencyMs : Option Int)

structure Stream where
  request : Request
  phase : Phase := .created
  yielded : List (List UInt8) := []
  /-- What has come from the upstream so far. -/
  upstream : Upstream := .unreachable

/-- A call that has been made, or anything else that happened to the books. -/
inductive Commit where
  | call (i : Nat) (request : Request) (upstream : Upstream) (latencyMs : Int)
  | elsewhere (change : Books → Books)

structure State where
  books : Books
  counters : Counters := fun _ => 0
  streams : List Stream := []
  history : List Commit := []

/-- What a generator waits for. -/
inductive Event where
  /-- The first chunk is asked for. -/
  | start
  | headers (statusCode : Int)
  | chunk (bytes : List UInt8)
  /-- The request fails, the answer ends or breaks off, or the client leaves. -/
  | close

inductive Op where
  | request (startedAt : InstanceId → Time) (endpoint : String) (payload : Dict) (user : User) (apiKey : String)
  | resume (i : Nat) (event : Event) (latencyMs : Int)
  | elsewhere (change : Books → Books)

def modelName (payload : Dict) : Option String :=
  match Dict.get payload "model" with
  | some (.str name) => some name
  | _ => none

def received (bytes : List UInt8) : Upstream → Upstream
  | .unreachable => .unreachable
  | .answered statusCode chunks => .answered statusCode (chunks ++ [bytes])

def put (i : Nat) (stream : Stream) (s : State) : State := { s with streams := s.streams.set i stream }

/-- The `finally` clause. -/
def finish (i : Nat) (stream : Stream) (latencyMs : Int) (recorded : Counts × Int) (s : State) : State :=
  { s with
    books := recordApiCall (stream.request.call latencyMs recorded) s.books
    streams := s.streams.set i { stream with phase := .closed (some latencyMs) }
    history := s.history ++ [.call i stream.request stream.upstream latencyMs] }

/-- How the generator goes on. -/
def resume (depth : Nat) (i : Nat) (stream : Stream) (latencyMs : Int) (event : Event) (s : State) : State :=
  match stream.phase, event with
  | .created, .start => put i { stream with phase := .requested } s
  | .created, .close => put i { stream with phase := .closed none } s
  | .requested, .headers statusCode =>
      let upstream := .answered statusCode []
      if 400 ≤ statusCode then put i { stream with phase := .failing statusCode, upstream } s
      else put i { stream with phase := .reading statusCode {}, upstream } s
  | .requested, .close => finish i stream latencyMs ({}, 200) s
  | .failing statusCode, .close => finish i stream latencyMs ({}, statusCode) s
  | .reading statusCode counts, .chunk bytes =>
      let upstream := received bytes stream.upstream
      let read := readChunk depth counts bytes
      if read.2 then finish i { stream with upstream } latencyMs (read.1, statusCode) s
      else
        let yielded := if bytes = [] then stream.yielded else stream.yielded ++ [bytes]
        put i { stream with phase := .reading statusCode read.1, upstream, yielded } s
  | .reading statusCode counts, .close => finish i stream latencyMs (counts, statusCode) s
  | _, _ => s

def exec (depth : Nat) : Op → State → State
  | .request startedAt endpoint payload user apiKey, s =>
      match route startedAt s.counters payload s.books.db with
      | (.error _, counters) => { s with counters }
      | (.ok _, counters) =>
          { s with
            counters
            streams := s.streams ++ [{ request := ⟨endpoint, modelName payload, user.id, apiKey⟩ }] }
  | .resume i event latencyMs, s =>
      match s.streams[i]? with
      | none => s
      | some stream => resume depth i stream latencyMs event s
  | .elsewhere change, s => { s with books := change s.books, history := s.history ++ [.elsewhere change] }

/-! ## Calls at once -/

/-- The level where a call has no inside. -/
def Commit.exec (depth : Nat) : Commit → Books → Books
  | .call _ request upstream latencyMs, books =>
      recordApiCall (request.call latencyMs (streamProxy depth upstream)) books
  | .elsewhere change, books => change books

/-- A call at once is what `_proxy_openai_request` does with a streamed request. -/
theorem proxied_eq_exec {env : CallEnv} {counters : Counters} {payload : Dict} {books : Books} {row : ModelInstance}
    (routed : (route env.startedAt counters payload books.db).1 = .ok row)
    (streamed : ((Dict.get payload "stream").map Value.truthy).getD false = true) (endpoint : String) (user : User)
    (apiKey : String) (i : Nat) :
    proxied env counters endpoint payload user apiKey books =
      Commit.exec env.depth
        (.call i ⟨endpoint, modelName payload, user.id, apiKey⟩ env.streamed env.latencyMs) books := by
  have reached : proxyOpenaiRequest env counters endpoint payload user apiKey books.db =
      some (Request.call ⟨endpoint, modelName payload, user.id, apiKey⟩ env.latencyMs
        (streamProxy env.depth env.streamed)) := by
    rw [proxyOpenaiRequest, routed]
    simp only [Except.toOption, Option.bind_eq_bind, Option.bind_some, streamed, if_true]
    rfl
  rw [proxied, reached, Commit.exec]

def Commit.about (i : Nat) : Commit → Bool
  | .call j _ _ _ => j = i
  | .elsewhere _ => false

/-- The call that a generator has made. -/
def Stream.made (i : Nat) (stream : Stream) : Option Commit :=
  match stream.phase with
  | .closed (some latencyMs) => some (.call i stream.request stream.upstream latencyMs)
  | _ => none

/-- What the loop over the chunks yields. -/
def passed (depth : Nat) : Counts → List (List UInt8) → List (List UInt8)
  | _, [] => []
  | counts, chunk :: rest =>
      if (readChunk depth counts chunk).2 then []
      else
        let later := passed depth (readChunk depth counts chunk).1 rest
        if chunk = [] then later else chunk :: later

def passedOn (depth : Nat) : Upstream → List (List UInt8)
  | .unreachable => []
  | .answered statusCode chunks => if 400 ≤ statusCode then [] else passed depth {} chunks

def sent : Upstream → List UInt8
  | .unreachable => []
  | .answered _ chunks => chunks.flatten

/-- The books are those of the calls made so far, each at once.  They are the calls of the
    generators that ran and ended, once each.  Every client has got the beginning of what its
    upstream has sent. -/
structure Atomic (depth : Nat) (books : Books) (s : State) : Prop where
  books : s.books = Runs.run (Commit.exec depth) s.history books
  once : ∀ i, s.history.filter (Commit.about i) = (s.streams[i]?.bind (Stream.made i)).toList
  yielded : ∀ stream ∈ s.streams, stream.yielded = passedOn depth stream.upstream
  delivered : ∀ stream ∈ s.streams, stream.yielded.flatten <+: sent stream.upstream

/-! ## The loop over the chunks -/

/-- No chunk makes the loop raise. -/
def Intact (depth : Nat) : Counts → List (List UInt8) → Prop
  | _, [] => True
  | counts, chunk :: rest =>
      (readChunk depth counts chunk).2 = false ∧ Intact depth (readChunk depth counts chunk).1 rest

section

variable {depth : Nat} {counts : Counts} {chunks : List (List UInt8)}

theorem readChunks_append (intact : Intact depth counts chunks) (rest : List (List UInt8)) :
    readChunks depth counts (chunks ++ rest) = readChunks depth (readChunks depth counts chunks) rest := by
  induction chunks generalizing counts with
  | nil => rfl
  | cons chunk chunks ih =>
      obtain ⟨here, later⟩ := intact
      simp only [List.cons_append, readChunks, here, Bool.false_eq_true, if_false]
      exact ih later

theorem passed_append (intact : Intact depth counts chunks) (rest : List (List UInt8)) :
    passed depth counts (chunks ++ rest) =
      passed depth counts chunks ++ passed depth (readChunks depth counts chunks) rest := by
  induction chunks generalizing counts with
  | nil => rfl
  | cons chunk chunks ih =>
      obtain ⟨here, later⟩ := intact
      simp only [List.cons_append, passed, readChunks, here, Bool.false_eq_true, if_false, ih later]
      split <;> rfl

theorem intact_append (intact : Intact depth counts chunks) {rest : List (List UInt8)}
    (more : Intact depth (readChunks depth counts chunks) rest) : Intact depth counts (chunks ++ rest) := by
  induction chunks generalizing counts with
  | nil => exact more
  | cons chunk chunks ih =>
      obtain ⟨here, later⟩ := intact
      simp only [readChunks, here, Bool.false_eq_true, if_false] at more
      exact ⟨here, ih later more⟩

theorem passed_delivered (depth : Nat) (counts : Counts) (chunks : List (List UInt8)) :
    (passed depth counts chunks).flatten <+: chunks.flatten := by
  induction chunks generalizing counts with
  | nil => exact List.prefix_rfl
  | cons chunk rest ih =>
      have later := (List.prefix_append_right_inj chunk).mpr (ih (readChunk depth counts chunk).1)
      rw [passed, List.flatten_cons]
      split
      · exact List.nil_prefix
      · simp only
        split
        · rename_i empty
          subst empty
          exact later
        · exact later

theorem passedOn_delivered (depth : Nat) (upstream : Upstream) :
    (passedOn depth upstream).flatten <+: sent upstream := by
  cases upstream with
  | unreachable => exact List.prefix_rfl
  | answered statusCode chunks =>
      rw [passedOn]
      split
      · exact List.nil_prefix
      · exact passed_delivered depth {} chunks

end

/-! ## One generator -/

/-- What a generator has counted and yielded fits what came from its upstream. -/
def Sound (depth : Nat) (stream : Stream) : Prop :=
  match stream.phase with
  | .created | .requested => stream.upstream = .unreachable ∧ stream.yielded = []
  | .failing statusCode => 400 ≤ statusCode ∧ stream.upstream = .answered statusCode [] ∧ stream.yielded = []
  | .reading statusCode counts => statusCode < 400 ∧ ∃ chunks, stream.upstream = .answered statusCode chunks ∧
      Intact depth {} chunks ∧ readChunks depth {} chunks = counts ∧ stream.yielded = passed depth {} chunks
  | .closed _ => stream.yielded = passedOn depth stream.upstream

/-- The books and the history agree, and every generator is sound. -/
structure Inv (depth : Nat) (books : Books) (s : State) : Prop where
  books : s.books = Runs.run (Commit.exec depth) s.history books
  once : ∀ i, s.history.filter (Commit.about i) = (s.streams[i]?.bind (Stream.made i)).toList
  sound : ∀ stream ∈ s.streams, Sound depth stream

section

variable {depth : Nat} {books : Books} {s : State} {i : Nat} {old stream : Stream}

theorem Inv.put (h : Inv depth books s) (running : s.streams[i]? = some old) (unfinished : old.made i = none)
    (silent : stream.made i = none) (sound : Sound depth stream) : Inv depth books (put i stream s) := by
  obtain ⟨inside, here⟩ := List.getElem?_eq_some_iff.mp running
  constructor
  case books => exact h.books
  case once =>
    intro j
    have before := h.once j
    by_cases same : j = i
    · subst same
      rw [running, Option.bind_some, unfinished] at before
      rw [Streams.put, List.getElem?_set_self inside, Option.bind_some, silent]
      exact before
    · rw [Streams.put, List.getElem?_set_ne (Ne.symm same)]
      exact before
  case sound =>
    intro other member
    rcases List.mem_or_eq_of_mem_set member with before | rfl
    · exact h.sound other before
    · exact sound

theorem Inv.finish (h : Inv depth books s) (running : s.streams[i]? = some old) (unfinished : old.made i = none)
    (yielded : stream.yielded = passedOn depth stream.upstream) (latencyMs : Int) :
    Inv depth books (finish i stream latencyMs (streamProxy depth stream.upstream) s) := by
  obtain ⟨inside, here⟩ := List.getElem?_eq_some_iff.mp running
  constructor
  case books =>
    rw [Streams.finish, Runs.run_append, ← h.books]
    rfl
  case once =>
    intro j
    have before := h.once j
    rw [Streams.finish, List.filter_append]
    by_cases same : j = i
    · subst same
      rw [running, Option.bind_some, unfinished] at before
      rw [before, List.getElem?_set_self inside]
      simp [Commit.about, Stream.made]
    · rw [List.getElem?_set_ne (Ne.symm same), before]
      simp [Commit.about, Ne.symm same]
  case sound =>
    intro other member
    rcases List.mem_or_eq_of_mem_set member with before | rfl
    · exact h.sound other before
    · exact yielded

theorem inv_chunk (h : Inv depth books s) (running : s.streams[i]? = some stream) {statusCode : Int} {counts : Counts}
    (phase : stream.phase = .reading statusCode counts) (latencyMs : Int) (bytes : List UInt8) :
    Inv depth books (resume depth i stream latencyMs (.chunk bytes) s) := by
  have unfinished : stream.made i = none := by rw [Stream.made, phase]
  have sound := h.sound stream (List.mem_of_getElem? running)
  rw [Sound, phase] at sound
  obtain ⟨successful, chunks, upstream, intact, rfl, yielded⟩ := sound
  have arrived : received bytes stream.upstream = .answered statusCode (chunks ++ [bytes]) := by rw [upstream]; rfl
  simp only [resume, phase, arrived]
  split
  · rename_i raised
    have recorded : (⟨(readChunk depth (readChunks depth {} chunks) bytes).1, statusCode⟩ : Counts × Int) =
        streamProxy depth (.answered statusCode (chunks ++ [bytes])) := by
      rw [streamProxy, if_neg (not_le.mpr successful), readChunks_append intact, readChunks, if_pos raised]
    rw [recorded]
    apply h.finish running unfinished
    simp only [passedOn, if_neg (not_le.mpr successful), passed_append intact, passed, if_pos raised, List.append_nil]
    exact yielded
  · rename_i passes
    rw [Bool.not_eq_true] at passes
    apply h.put running unfinished rfl
    refine ⟨successful, chunks ++ [bytes], rfl, intact_append intact ⟨passes, trivial⟩, ?_, ?_⟩
    · rw [readChunks_append intact, readChunks, passes]
      rfl
    · rw [passed_append intact, passed, passes]
      simp only [Bool.false_eq_true, if_false, passed, yielded]
      split <;> simp

theorem inv_close (h : Inv depth books s) (running : s.streams[i]? = some stream) (latencyMs : Int) :
    Inv depth books (resume depth i stream latencyMs .close s) := by
  have sound := h.sound stream (List.mem_of_getElem? running)
  rw [Sound] at sound
  unfold resume
  cases phase : stream.phase with
  | created =>
      simp only [phase] at sound ⊢
      obtain ⟨upstream, yielded⟩ := sound
      apply h.put running (by rw [Stream.made, phase]) rfl
      simp only [Sound, upstream, yielded, passedOn]
  | requested =>
      simp only [phase] at sound ⊢
      obtain ⟨upstream, yielded⟩ := sound
      have recorded : (({}, 200) : Counts × Int) = streamProxy depth stream.upstream := by rw [upstream]; rfl
      rw [recorded]
      apply h.finish running (by rw [Stream.made, phase])
      rw [upstream, yielded, passedOn]
  | failing statusCode =>
      simp only [phase] at sound ⊢
      obtain ⟨failed, upstream, yielded⟩ := sound
      have recorded : (({}, statusCode) : Counts × Int) = streamProxy depth stream.upstream := by
        rw [upstream, streamProxy, if_pos failed]
      rw [recorded]
      apply h.finish running (by rw [Stream.made, phase])
      rw [upstream, yielded, passedOn, if_pos failed]
  | reading statusCode counts =>
      simp only [phase] at sound ⊢
      obtain ⟨successful, chunks, upstream, intact, rfl, yielded⟩ := sound
      have recorded : (⟨readChunks depth {} chunks, statusCode⟩ : Counts × Int) =
          streamProxy depth stream.upstream := by
        rw [upstream, streamProxy, if_neg (not_le.mpr successful)]
      rw [recorded]
      apply h.finish running (by rw [Stream.made, phase])
      rw [upstream, yielded, passedOn, if_neg (not_le.mpr successful)]
  | closed latency =>
      simp only
      exact h

theorem inv_resume (h : Inv depth books s) (running : s.streams[i]? = some stream) (latencyMs : Int) (event : Event) :
    Inv depth books (resume depth i stream latencyMs event s) := by
  have sound := h.sound stream (List.mem_of_getElem? running)
  cases event with
  | close => exact inv_close h running latencyMs
  | chunk bytes =>
      cases phase : stream.phase with
      | reading statusCode counts => exact inv_chunk h running phase latencyMs bytes
      | _ => simpa only [resume, phase] using h
  | start =>
      cases phase : stream.phase with
      | created =>
          simp only [resume, phase]
          apply h.put running (by rw [Stream.made, phase]) rfl
          rw [Sound, phase] at sound
          exact sound
      | _ => simpa only [resume, phase] using h
  | headers statusCode =>
      cases phase : stream.phase with
      | requested =>
          rw [Sound, phase] at sound
          simp only [resume, phase]
          split
          · rename_i failed
            apply h.put running (by rw [Stream.made, phase]) rfl
            exact ⟨failed, rfl, sound.2⟩
          · rename_i successful
            apply h.put running (by rw [Stream.made, phase]) rfl
            exact ⟨not_le.mp successful, [], rfl, trivial, rfl, sound.2⟩
      | _ => simpa only [resume, phase] using h

end

/-! ## Runs -/

theorem exec_inv {depth : Nat} {books : Books} (s : State) (op : Op) (h : Inv depth books s) :
    Inv depth books (exec depth op s) := by
  cases op with
  | resume i event latencyMs =>
      simp only [exec]
      cases running : s.streams[i]? with
      | none => exact h
      | some stream => exact inv_resume h running latencyMs event
  | elsewhere change =>
      constructor
      case books =>
        rw [exec, Runs.run_append, ← h.books]
        rfl
      case once =>
        intro i
        rw [exec, List.filter_append, h.once i]
        simp [Commit.about]
      case sound => exact h.sound
  | request startedAt endpoint payload user apiKey =>
      simp only [exec]
      split
      · exact ⟨h.books, h.once, h.sound⟩
      · constructor
        case books => exact h.books
        case once =>
          intro i
          rw [h.once i]
          rcases lt_trichotomy i s.streams.length with before | last | beyond
          · rw [List.getElem?_append_left before]
          · simp [last, Stream.made]
          · rw [List.getElem?_eq_none (by omega), List.getElem?_eq_none (by simp; omega)]
        case sound =>
          intro stream member
          rcases List.mem_append.mp member with before | added
          · exact h.sound stream before
          · obtain rfl := List.mem_singleton.mp added
            exact ⟨rfl, rfl⟩

theorem Sound.yielded {depth : Nat} {stream : Stream} (sound : Sound depth stream) :
    stream.yielded = passedOn depth stream.upstream := by
  rw [Sound] at sound
  split at sound
  · rw [sound.1, sound.2, passedOn]
  · rw [sound.1, sound.2, passedOn]
  · obtain ⟨failed, upstream, yielded⟩ := sound
    rw [upstream, yielded, passedOn, if_pos failed]
  · obtain ⟨successful, chunks, upstream, _, _, yielded⟩ := sound
    rw [upstream, yielded, passedOn, if_neg (not_le.mpr successful)]
  · exact sound

/-- However the generators of the calls take turns, and wherever their clients leave, the
    books are those of the same calls made at once, in the order in which they ended. -/
theorem streams_atomic (depth : Nat) (books : Books) (ops : List Op) :
    Atomic depth books (Runs.run (exec depth) ops { books }) := by
  have start : Inv depth books { books } := by
    constructor
    case books => rfl
    case once => exact fun i => rfl
    case sound =>
      intro stream member
      cases member
  have h := Runs.run_invariant (I := Inv depth books) exec_inv ops start
  constructor
  case books => exact h.books
  case once => exact h.once
  case yielded => exact fun stream member => (h.sound stream member).yielded
  case delivered =>
    intro stream member
    rw [(h.sound stream member).yielded]
    exact passedOn_delivered depth stream.upstream

end SuitApi.Streams
