import SuitApi.Wire

/-! # The pub/sub listener of the scheduler

The backend announces tasks on two Redis channels, and a thread of the scheduler listens to
them.  Redis keeps no message for a client that is not subscribed, and what a client has not
read when its connection ends is gone.
-/

namespace SuitApi.Listener

/-- The two channels that are subscribed to. -/
inductive Channel where
  | newTask | taskFinished
  deriving Repr, DecidableEq

inductive MessageData where
  | dict (members : List (String × Json))
  | text (data : String)
  | other

structure Message where
  channel : Channel
  data : MessageData

section

variable (py : Python)

/-! ## What is sent and how it is read -/

def announcement (taskId : TaskId) : Json := .obj [("task_id", .str taskId)]

/-- The message of `publish_task_finished`, or of the PUBLISH of `enqueue_task`. -/
def message (channel : Channel) (taskId : TaskId) : Message := ⟨channel, .text (py.dumps (announcement taskId))⟩

def parsePubsubMessage : MessageData → Except Json.Failure (List (String × Json))
  | .dict members => .ok members
  | .text data =>
      match py.loads data with
      | .ok (.obj members) => .ok members
      | .ok _ => .ok []
      | .error .malformed => .ok [("task_id", .str data)]
      | .error failure => .error failure
  | .other => .ok []

/-- The primary key that `handle_task_finished` looks up for `data.get("task_id", "")`, if the
    lookup does not raise; a false value is as good as an empty one. -/
def finishedId (taskKey : Value → Option TaskId) (data : List (String × Json)) : Option TaskId :=
  let value := Wire.valueOf py ((Json.get data "task_id").getD (.str ""))
  if value.truthy then
    match value with
    | .str taskId => some taskId
    | other => taskKey other
  else some ""

/-! ## The scheduler's threads and the backend -/

inductive Phase where
  /-- Not subscribed: not yet, or in the three seconds after a crash. -/
  | away
  | listening (inbox : List Message)
  /-- Between the two critical sections of `handle_task_finished`. -/
  | rescheduling (inbox : List Message)

def Phase.inbox : Phase → List Message
  | .away => []
  | .listening inbox | .rescheduling inbox => inbox

/-- A published message reaches a subscribed client. -/
def Phase.receive (m : Message) : Phase → Phase
  | .away => .away
  | .listening inbox => .listening (inbox ++ [m])
  | .rescheduling inbox => .rescheduling (inbox ++ [m])

def Phase.subscribed : Phase → Bool
  | .away => false
  | .listening _ | .rescheduling _ => true

structure System extends World where
  phase : Phase := .away
  /-- The tasks whose finish Redis was told of, in order. -/
  published : List TaskId := []
  /-- The tasks whose `handle_task_finished` got through its first section, in order. -/
  handled : List TaskId := []

/-- The operations that publish, and the one that only the listener does. -/
def announces : Platform.Op → Bool
  | .submit .. | .callback .. | .finished _ => true
  | _ => false

inductive Op where
  | callback (redisFails : Bool) (now : Time) (payload : TaskCallbackRequest) (t : TaskId)
  | submit (fault : QueueService.Fault) (enqueuedAt : String) (user : User) (t : TaskId)
  /-- Any other operation of the platform, the scheduler's main loop included. -/
  | other (op : Platform.Op) (silent : announces op = false)
  | subscribe
  /-- The listener takes its next message; `commits` tells whether the transaction of
      `handle_task_finished` goes through. -/
  | listen (env : Scheduler.Env) (commits : Bool)
  | reschedule (env : Scheduler.Env)
  /-- `listen` finds the connection ended and raises. -/
  | disconnect
  /-- The scheduler's process ends and is started again. -/
  | restart

/-- `handle_callback` comes to `publish_task_finished`, and Redis takes the message. -/
def publishes (redisFails : Bool) (payload : TaskCallbackRequest) (t : TaskId) (s : System) : Bool :=
  (s.db.tasks.get t).isSome && TaskService.publishesFinished payload && !redisFails

/-- What one message makes the listener do. -/
def handle (env : Scheduler.Env) (commits : Bool) (m : Message) (rest : List Message) (s : System) : System :=
  match parsePubsubMessage py m.data with
  | .error _ => { s with phase := .away }
  | .ok data =>
      match m.channel with
      | .newTask =>
          { s with
            toWorld := Platform.schedule env s.toWorld
            phase := if (Scheduler.scheduleOne env s.toStore).returned = none then .away else .listening rest }
      | .taskFinished =>
          match finishedId py env.taskKey data with
          | none => { s with phase := .away }
          | some t =>
              if commits then
                { toWorld := Platform.exec (.finished t) s.toWorld
                  phase := if t = "" then .listening rest else .rescheduling rest
                  published := s.published
                  handled := s.handled ++ [t] }
              else { s with phase := .away }

def exec : Op → System → System
  | .callback redisFails now payload t, s =>
      let after := { s with toWorld := Platform.exec (.callback now payload t) s.toWorld }
      if publishes redisFails payload t s then
        { after with
          phase := s.phase.receive (message py .taskFinished t)
          published := s.published ++ [t] }
      else after
  | .submit fault enqueuedAt user t, s =>
      let after := { s with toWorld := Platform.exec (.submit fault enqueuedAt user t) s.toWorld }
      if (TaskService.submitTask fault enqueuedAt user t s.toStore).1.toBool then
        { after with phase := s.phase.receive (message py .newTask t) }
      else after
  | .other op _, s => { s with toWorld := Platform.exec op s.toWorld }
  | .subscribe, s =>
      match s.phase with
      | .away => { s with phase := .listening [] }
      | .listening _ | .rescheduling _ => s
  | .listen env commits, s =>
      match s.phase with
      | .listening (m :: rest) => handle py env commits m rest s
      | .listening [] | .rescheduling _ | .away => s
  | .reschedule env, s =>
      match s.phase with
      | .rescheduling inbox =>
          { s with toWorld := Platform.schedule env s.toWorld, phase := .listening inbox }
      | .listening _ | .away => s
  | .disconnect, s =>
      match s.phase with
      | .listening _ => { s with phase := .away }
      | .rescheduling _ | .away => s
  | .restart, s => { s with phase := .away }

/-- The operations of the platform that a step consists of. -/
def performed : Op → System → List Platform.Op
  | .callback _ now payload t, _ => [.callback now payload t]
  | .submit fault enqueuedAt user t, _ => [.submit fault enqueuedAt user t]
  | .other op _, _ => [op]
  | .listen env commits, s =>
      match s.phase with
      | .listening (m :: _) =>
          match parsePubsubMessage py m.data with
          | .error _ => []
          | .ok data =>
              match m.channel with
              | .newTask => [.schedule env]
              | .taskFinished =>
                  match finishedId py env.taskKey data with
                  | none => []
                  | some t => if commits then [.finished t] else []
      | .listening [] | .rescheduling _ | .away => []
  | .reschedule env, s =>
      match s.phase with
      | .rescheduling _ => [.schedule env]
      | .listening _ | .away => []
  | .subscribe, _ | .disconnect, _ | .restart, _ => []

/-! ## Messages of the backend -/

@[simp] theorem parse_announcement (t : TaskId) :
    parsePubsubMessage py (.text (py.dumps (announcement t))) = .ok [("task_id", .str t)] := by
  have writable : Json.Writable py.floatText py.depth (announcement t) := by
    have deep := py.deep
    cases depth : py.depth with
    | zero => omega
    | succ d => simp [announcement, Json.Writable]
  rw [parsePubsubMessage, py.loads_dumps writable, announcement]

@[simp] theorem finishedId_announcement (taskKey : Value → Option TaskId) (t : TaskId) :
    finishedId py taskKey [("task_id", .str t)] = some t := by
  have looked : Json.get [("task_id", .str t)] "task_id" = some (.str t) := rfl
  rw [finishedId, looked]
  by_cases empty : t = ""
  · simp [Wire.valueOf, Value.truthy, empty]
  · simp [Wire.valueOf, Value.truthy, empty]

/-- The task whose finish a message tells of. -/
def finishedTask (m : Message) : Option TaskId :=
  match m.channel, parsePubsubMessage py m.data with
  | .taskFinished, .ok data => finishedId py (fun _ => none) data
  | _, _ => none

/-- The finishes in the messages that the listener has not taken yet. -/
def waiting (s : System) : List TaskId := s.phase.inbox.filterMap (finishedTask py)

@[simp] theorem finishedTask_message (channel : Channel) (t : TaskId) :
    finishedTask py (message py channel t) = if channel = .taskFinished then some t else none := by
  cases channel with
  | newTask => rfl
  | taskFinished =>
      simp only [finishedTask, message, parse_announcement, finishedId_announcement, if_true]

theorem handle_newTask (env : Scheduler.Env) (commits : Bool) (t : TaskId) (rest : List Message) (s : System) :
    handle py env commits (message py .newTask t) rest s =
      { s with
        toWorld := Platform.schedule env s.toWorld
        phase := if (Scheduler.scheduleOne env s.toStore).returned = none then .away else .listening rest } := by
  rw [handle, message, parse_announcement]

theorem handle_taskFinished (env : Scheduler.Env) (commits : Bool) (t : TaskId) (rest : List Message)
    (s : System) :
    handle py env commits (message py .taskFinished t) rest s =
      if commits then
        { toWorld := Platform.exec (.finished t) s.toWorld
          phase := if t = "" then .listening rest else .rescheduling rest
          published := s.published
          handled := s.handled ++ [t] }
      else { s with phase := .away } := by
  rw [handle, message, parse_announcement]
  simp only [finishedId_announcement]

/-! ## Where finishes get lost -/

/-- The finishes that a step makes Redis take. -/
def announced (s : System) : Op → List TaskId
  | .callback redisFails _ payload t => if publishes redisFails payload t s then [t] else []
  | _ => []

/-- A finish is published to nobody, its transaction fails, or the listener goes away while
    one is waiting. -/
def Loses (s : System) : Op → Prop
  | .callback redisFails _ payload t => publishes redisFails payload t s = true ∧ s.phase.subscribed = false
  | .listen env commits =>
      match s.phase with
      | .listening (⟨.newTask, _⟩ :: rest) =>
          (Scheduler.scheduleOne env s.toStore).returned = none ∧ rest.filterMap (finishedTask py) ≠ []
      | .listening (⟨.taskFinished, _⟩ :: _) => commits = false
      | .listening [] | .rescheduling _ | .away => False
  | .disconnect =>
      match s.phase with
      | .listening _ => waiting py s ≠ []
      | .rescheduling _ | .away => False
  | .restart => waiting py s ≠ []
  | .submit .. | .other .. | .subscribe | .reschedule _ => False

/-- Every message that waits is one of the backend's. -/
def Sent (s : System) : Prop := ∀ m ∈ s.phase.inbox, ∃ channel t, m = message py channel t

/-- The finishes after a step: what was there before and what it adds, in this order, if it
    loses nothing, and else only some of it. -/
structure Step (s s' : System) (op : Op) : Prop where
  sent : Sent py s'
  published : s'.published = s.published ++ announced s op
  sublist : (s'.handled ++ waiting py s').Sublist (s.handled ++ waiting py s ++ announced s op)
  whole : s'.handled ++ waiting py s' = s.handled ++ waiting py s ++ announced s op ↔ ¬ Loses py s op

variable {py}

theorem Step.kept {s s' : System} {op : Op} (sent : Sent py s')
    (published : s'.published = s.published ++ announced s op)
    (left : s'.handled ++ waiting py s' = s.handled ++ waiting py s ++ announced s op)
    (safe : ¬ Loses py s op) : Step py s s' op where
  sent
  published
  sublist := left ▸ List.Sublist.refl _
  whole := iff_of_true left safe

theorem Step.lost {s s' : System} {op : Op} (sent : Sent py s')
    (published : s'.published = s.published ++ announced s op)
    (sublist : (s'.handled ++ waiting py s').Sublist (s.handled ++ waiting py s ++ announced s op))
    (fewer : (s'.handled ++ waiting py s').length < (s.handled ++ waiting py s ++ announced s op).length)
    (loses : Loses py s op) : Step py s s' op where
  sent
  published
  sublist
  whole := iff_of_false (fun same => absurd (congrArg List.length same) (Nat.ne_of_lt fewer)) (not_not.mpr loses)

theorem inbox_receive (m : Message) (phase : Phase) :
    (phase.receive m).inbox = if phase.subscribed then phase.inbox ++ [m] else [] := by
  cases phase <;> rfl

theorem sent_away {s : System} (away : s.phase = .away) : Sent py s := by
  intro m inside
  rw [away] at inside
  cases inside

theorem waiting_away {s : System} (away : s.phase = .away) : waiting py s = [] := by
  rw [waiting, away]
  rfl

theorem waiting_listening {s : System} {inbox : List Message} (phase : s.phase = .listening inbox) :
    waiting py s = inbox.filterMap (finishedTask py) := by
  rw [waiting, phase, Phase.inbox]

/-- The listener goes away, with nothing else done to the finishes. -/
theorem step_away {s s' : System} {op : Op} (away : s'.phase = .away) (published : s'.published = s.published)
    (handled : s'.handled = s.handled) (silent : announced s op = [])
    (loses : Loses py s op ↔ waiting py s ≠ []) : Step py s s' op := by
  have none : waiting py s' = [] := waiting_away away
  by_cases empty : waiting py s = []
  · apply Step.kept (sent_away away)
    · rw [published, silent, List.append_nil]
    · simp only [none, handled, empty, silent, List.append_nil]
    · exact fun here => loses.mp here empty
  · apply Step.lost (sent_away away)
    · rw [published, silent, List.append_nil]
    · rw [none, handled, silent, List.append_nil, List.append_nil]
      exact List.sublist_append_left _ _
    · have some := List.length_pos_iff.mpr empty
      simp only [none, handled, silent, List.append_nil, List.length_append]
      omega
    · exact loses.mpr empty

/-- A step that changes neither the listener nor the two lists. -/
theorem step_quiet {s s' : System} {op : Op} (sent : Sent py s) (phase : s'.phase.inbox = s.phase.inbox)
    (published : s'.published = s.published) (handled : s'.handled = s.handled) (silent : announced s op = [])
    (safe : ¬ Loses py s op) : Step py s s' op := by
  apply Step.kept _ _ _ safe
  · intro m inside
    rw [phase] at inside
    exact sent m inside
  · rw [published, silent, List.append_nil]
  · rw [waiting, phase, handled, silent, List.append_nil]
    rfl

theorem waiting_receive {s s' : System} {m : Message} (phase : s'.phase = s.phase.receive m)
    (subscribed : s.phase.subscribed = true) :
    waiting py s' = waiting py s ++ (finishedTask py m).toList := by
  rw [waiting, phase, inbox_receive, if_pos subscribed, List.filterMap_append]
  cases told : finishedTask py m <;> simp [waiting, told]

theorem sent_receive {s s' : System} {channel : Channel} {t : TaskId} (sent : Sent py s)
    (phase : s'.phase = s.phase.receive (message py channel t)) : Sent py s' := by
  intro m inside
  rw [phase, inbox_receive] at inside
  split at inside
  · rcases List.mem_append.mp inside with old | new
    · exact sent m old
    · exact ⟨channel, t, List.mem_singleton.mp new⟩
  · cases inside

theorem receive_away {m : Message} {phase : Phase} (unsubscribed : phase.subscribed = false) :
    phase.receive m = .away := by
  cases phase with
  | away => rfl
  | listening | rescheduling => cases unsubscribed

theorem callback_step (redisFails : Bool) (now : Time) (payload : TaskCallbackRequest) (t : TaskId) {s : System}
    (sent : Sent py s) :
    Step py s (exec py (.callback redisFails now payload t) s) (.callback redisFails now payload t) := by
  rw [exec]
  cases publishing : publishes redisFails payload t s with
  | false =>
      simp only [Bool.false_eq_true, if_false]
      refine step_quiet sent rfl rfl rfl ?_ ?_
      · simp only [announced, publishing, Bool.false_eq_true, if_false]
      · intro loses
        rw [Loses, publishing] at loses
        cases loses.1
  | true =>
      simp only [if_true]
      have told : announced s (.callback redisFails now payload t) = [t] := by
        simp only [announced, publishing, if_true]
      cases subscribed : s.phase.subscribed with
      | true =>
          apply Step.kept
          · exact sent_receive sent rfl
          · rw [told]
          · rw [waiting_receive (s := s) rfl subscribed, told, finishedTask_message, if_pos rfl,
              Option.toList_some, List.append_assoc]
          · intro loses
            rw [Loses, subscribed] at loses
            cases loses.2
      | false =>
          have before : waiting py s = [] := by
            cases phase : s.phase with
            | away => exact waiting_away phase
            | listening | rescheduling =>
                rw [phase] at subscribed
                cases subscribed
          have away := receive_away (m := message py .taskFinished t) subscribed
          apply Step.lost
          · exact sent_receive sent rfl
          · rw [told]
          · rw [waiting_away away, before, List.append_nil]
            exact List.sublist_append_left _ _
          · rw [waiting_away away, before, told]
            simp only [List.append_nil, List.length_append, List.length_singleton]
            omega
          · exact ⟨publishing, subscribed⟩

theorem submit_step (fault : QueueService.Fault) (enqueuedAt : String) (user : User) (t : TaskId) {s : System}
    (sent : Sent py s) :
    Step py s (exec py (.submit fault enqueuedAt user t) s) (.submit fault enqueuedAt user t) := by
  rw [exec]
  split
  · cases subscribed : s.phase.subscribed with
    | true =>
        have silent : announced s (.submit fault enqueuedAt user t) = [] := rfl
        apply Step.kept (sent_receive sent rfl)
        · rw [silent, List.append_nil]
        · rw [waiting_receive (s := s) rfl subscribed, finishedTask_message, silent]
          simp only [reduceCtorEq, if_false, Option.toList_none, List.append_nil]
        · exact not_false
    | false =>
        refine step_quiet sent ?_ rfl rfl rfl not_false
        rw [receive_away subscribed]
        cases phase : s.phase with
        | away => rfl
        | listening | rescheduling =>
            rw [phase] at subscribed
            cases subscribed
  · exact step_quiet sent rfl rfl rfl rfl not_false

theorem listen_step (env : Scheduler.Env) (commits : Bool) {s : System} (sent : Sent py s) :
    Step py s (exec py (.listen env commits) s) (.listen env commits) := by
  rw [exec]
  cases phase : s.phase with
  | away | rescheduling inbox =>
      refine step_quiet sent rfl rfl rfl rfl ?_
      rw [Loses, phase]
      exact not_false
  | listening inbox =>
      cases inbox with
      | nil =>
          refine step_quiet sent rfl rfl rfl rfl ?_
          rw [Loses, phase]
          exact not_false
      | cons m rest =>
          have inside : ∀ m' ∈ m :: rest, ∃ channel t, m' = message py channel t := by
            intro m' here
            apply sent m'
            rw [phase]
            exact here
          obtain ⟨channel, t, rfl⟩ := inside m (List.mem_cons_self ..)
          have before : waiting py s = (message py channel t :: rest).filterMap (finishedTask py) :=
            waiting_listening phase
          rw [List.filterMap_cons, finishedTask_message] at before
          cases channel with
          | newTask =>
              simp only [reduceCtorEq, if_false] at before
              simp only [handle_newTask]
              by_cases raised : (Scheduler.scheduleOne env s.toStore).returned = none
              · apply step_away
                · simp only [if_pos raised]
                · rfl
                · rfl
                · rfl
                · simp only [Loses, phase, message, raised, true_and, before]
              · apply Step.kept
                · intro m' here
                  simp only [if_neg raised, Phase.inbox] at here
                  exact inside m' (List.mem_cons_of_mem _ here)
                · exact (List.append_nil _).symm
                · have silent : announced s (.listen env commits) = [] := rfl
                  rw [before, silent, waiting, if_neg raised, Phase.inbox, List.append_nil]
                · simp only [Loses, phase, message, raised, false_and, not_false_eq_true]
          | taskFinished =>
              simp only [if_true] at before
              simp only [handle_taskFinished]
              cases commits with
              | false =>
                  simp only [Bool.false_eq_true, if_false]
                  refine step_away rfl rfl rfl rfl ?_
                  simp only [Loses, phase, message, before, ne_eq, reduceCtorEq, not_false_eq_true]
              | true =>
                  simp only [if_true]
                  have left : (if t = "" then Phase.listening rest else Phase.rescheduling rest).inbox = rest := by
                    split <;> rfl
                  apply Step.kept
                  · intro m' here
                    rw [left] at here
                    exact inside m' (List.mem_cons_of_mem _ here)
                  · exact (List.append_nil _).symm
                  · have silent : announced s (.listen env true) = [] := rfl
                    rw [waiting, left, before, silent, List.append_nil, List.append_assoc, List.singleton_append]
                  · simp only [Loses, phase, message, Bool.true_eq_false, not_false_eq_true]

theorem exec_step (op : Op) {s : System} (sent : Sent py s) : Step py s (exec py op s) op := by
  cases op with
  | callback redisFails now payload t => exact callback_step redisFails now payload t sent
  | submit fault enqueuedAt user t => exact submit_step fault enqueuedAt user t sent
  | other op silent => exact step_quiet sent rfl rfl rfl rfl not_false
  | listen env commits => exact listen_step env commits sent
  | restart => exact step_away rfl rfl rfl rfl Iff.rfl
  | subscribe =>
      rw [exec]
      cases phase : s.phase with
      | away =>
          refine step_quiet sent ?_ rfl rfl rfl not_false
          rw [phase]
          rfl
      | listening | rescheduling => exact step_quiet sent rfl rfl rfl rfl not_false
  | reschedule env =>
      rw [exec]
      cases phase : s.phase with
      | away | listening => exact step_quiet sent rfl rfl rfl rfl not_false
      | rescheduling inbox =>
          refine step_quiet sent ?_ rfl rfl rfl not_false
          rw [phase]
          rfl
  | disconnect =>
      rw [exec]
      cases phase : s.phase with
      | listening inbox =>
          refine step_away rfl rfl rfl rfl ?_
          rw [Loses, phase]
      | away | rescheduling =>
          refine step_quiet sent rfl rfl rfl rfl ?_
          rw [Loses, phase]
          exact not_false

/-! ## Runs -/

/-- `handle_task_finished` releases the GPUs of this task. -/
def finishes : Platform.Op → Option TaskId
  | .finished t => some t
  | _ => none

/-- `handle_callback` has a final status for this task. -/
def finals : Platform.Op → Option TaskId
  | .callback _ payload t => if TaskService.publishesFinished payload then some t else none
  | _ => none

theorem finishes_silent {op : Platform.Op} (silent : announces op = false) : finishes op = none := by
  cases op with
  | finished => cases silent
  | _ => rfl

theorem exec_performed (op : Op) (s : System) :
    (exec py op s).toWorld = Runs.run Platform.exec (performed py op s) s.toWorld ∧
      (exec py op s).handled = s.handled ++ (performed py op s).filterMap finishes := by
  have same : s.handled = s.handled ++ [] := (List.append_nil _).symm
  cases op with
  | callback redisFails now payload t =>
      simp only [exec, performed]
      split <;> exact ⟨rfl, same⟩
  | submit fault enqueuedAt user t =>
      simp only [exec, performed]
      split <;> exact ⟨rfl, same⟩
  | other op silent =>
      rw [performed, List.filterMap_cons, finishes_silent silent]
      exact ⟨rfl, same⟩
  | restart => exact ⟨rfl, same⟩
  | subscribe | disconnect =>
      simp only [exec, performed]
      split <;> exact ⟨rfl, same⟩
  | reschedule env =>
      simp only [exec, performed]
      cases s.phase <;> exact ⟨rfl, same⟩
  | listen env commits =>
      simp only [exec, performed]
      cases s.phase with
      | away | rescheduling => exact ⟨rfl, same⟩
      | listening inbox =>
          cases inbox with
          | nil => exact ⟨rfl, same⟩
          | cons m rest =>
              simp only [handle]
              cases parsePubsubMessage py m.data with
              | error failure => exact ⟨rfl, same⟩
              | ok data =>
                  cases m.channel with
                  | newTask => exact ⟨rfl, same⟩
                  | taskFinished =>
                      simp only
                      cases finishedId py env.taskKey data with
                      | none => exact ⟨rfl, same⟩
                      | some t =>
                          cases commits with
                          | true => exact ⟨rfl, rfl⟩
                          | false => exact ⟨rfl, same⟩

theorem announced_finals (op : Op) (s : System) :
    (announced s op).Sublist ((performed py op s).filterMap finals) := by
  cases op with
  | callback redisFails now payload t =>
      simp only [announced, performed]
      split
      · rename_i publishing
        have final : TaskService.publishesFinished payload = true := by
          simp only [publishes, Bool.and_eq_true] at publishing
          exact publishing.1.2
        rw [List.filterMap_cons, finals, if_pos final]
        exact List.Sublist.refl _
      · exact List.nil_sublist _
  | _ => exact List.nil_sublist _

variable (py)

/-- What holds between the lists of the listener, at any time. -/
structure Inv (s : System) : Prop where
  sent : Sent py s
  order : (s.handled ++ waiting py s).Sublist s.published

/-- Every finish that Redis was told of is handled or waits. -/
def Delivered (s : System) : Prop := s.handled ++ waiting py s = s.published

variable {py}

theorem inv_start (db : Database) : Inv py { db } where
  sent := sent_away rfl
  order := List.nil_sublist _

theorem inv_step (op : Op) {s : System} (h : Inv py s) : Inv py (exec py op s) := by
  have step := exec_step op h.sent
  refine ⟨step.sent, ?_⟩
  rw [step.published]
  exact step.sublist.trans (h.order.append_right _)

theorem delivered_step (op : Op) {s : System} (h : Inv py s) :
    Delivered py (exec py op s) ↔ Delivered py s ∧ ¬ Loses py s op := by
  have step := exec_step op h.sent
  rw [Delivered, Delivered, step.published]
  constructor
  · intro all
    have both : s.handled ++ waiting py s ++ announced s op = s.published ++ announced s op := by
      apply List.Sublist.antisymm (h.order.append_right _)
      rw [← all]
      exact step.sublist
    exact ⟨List.append_cancel_right both, step.whole.mp (all.trans both.symm)⟩
  · intro ⟨before, safe⟩
    rw [step.whole.mpr safe, before]

end

section

variable (py : Python)

/-- The operations of the platform that a run consists of, in order. -/
def done (ops : List Op) (s : System) : List Platform.Op := (Runs.trace (exec py) (performed py) ops s).flatten

theorem run_done (ops : List Op) {s : System} (h : Inv py s) :
    (Runs.run (exec py) ops s).toWorld = Runs.run Platform.exec (done py ops s) s.toWorld ∧
      (Runs.run (exec py) ops s).handled = s.handled ++ (done py ops s).filterMap finishes ∧
      (Runs.run (exec py) ops s).published.Sublist (s.published ++ (done py ops s).filterMap finals) := by
  induction ops generalizing s with
  | nil => exact ⟨rfl, (List.append_nil _).symm, List.sublist_append_left _ _⟩
  | cons op rest ih =>
      obtain ⟨world, handled, published⟩ := ih (inv_step op h)
      obtain ⟨first, noted⟩ := exec_performed op s
      have split : done py (op :: rest) s = performed py op s ++ done py rest (exec py op s) := List.flatten_cons
      rw [Runs.run_cons, split, List.filterMap_append, List.filterMap_append]
      refine ⟨?_, ?_, ?_⟩
      · rw [world, first, Runs.run_append]
      · rw [handled, noted, List.append_assoc]
      · rw [(exec_step op h.sent).published, List.append_assoc] at published
        exact published.trans (((announced_finals op s).append_right _).append_left _)

/-- In every run the listener and the other threads do together what a run of the platform
    does.  The finishes that are notified in it, and then those that wait, are some of those
    that Redis was told of, in their order; and these are some of the final callbacks. -/
theorem notified_in_order (db : Database) (ops : List Op) :
    (Runs.run (exec py) ops { db }).toWorld = Runs.run Platform.exec (done py ops { db }) { db } ∧
      (done py ops { db }).filterMap finishes = (Runs.run (exec py) ops { db }).handled ∧
      ((Runs.run (exec py) ops { db }).handled ++ waiting py (Runs.run (exec py) ops { db })).Sublist
        (Runs.run (exec py) ops { db }).published ∧
      (Runs.run (exec py) ops { db }).published.Sublist ((done py ops { db }).filterMap finals) := by
  obtain ⟨world, handled, published⟩ := run_done py ops (inv_start db)
  have kept : Inv py (Runs.run (exec py) ops { db }) :=
    Runs.run_invariant (fun _ op h => inv_step op h) ops (inv_start db)
  exact ⟨world, handled.symm, kept.order, published⟩

/-- A run leaves no finish behind exactly when none of its steps loses one. -/
theorem delivered_iff (db : Database) (ops : List Op) :
    Delivered py (Runs.run (exec py) ops { db }) ↔
      Runs.Along (exec py) (fun s op => ¬ Loses py s op) ops { db } := by
  have general : ∀ s, Inv py s → (Delivered py (Runs.run (exec py) ops s) ↔
      Delivered py s ∧ Runs.Along (exec py) (fun s op => ¬ Loses py s op) ops s) := by
    induction ops with
    | nil => exact fun s h => (and_iff_left trivial).symm
    | cons op rest ih =>
        intro s h
        rw [Runs.run_cons, ih _ (inv_step op h), delivered_step op h, Runs.Along, and_assoc]
  exact (general _ (inv_start db)).trans (and_iff_right rfl)

end

end SuitApi.Listener
