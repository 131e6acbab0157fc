import Mathlib.Data.List.Forall2
import SuitApi.TaskDesk

/-! # The console's task list

`submitTask` and `cancelTask` of the tasks store send a request and put the answer into
the lists.  The entry is looked for by a field that the two routes do not send.
-/

namespace SuitApi

namespace TasksStore

open TaskService

/-! ## Objects of the console -/

def numberOf : Value → Option ℚ
  | .int n => some n
  | .float q => some q
  | _ => none

/-- `a === b`, where `none` is undefined.  Arrays and objects of different entries are
    never the same. -/
def identical : Option Value → Option Value → Bool
  | none, none => true
  | some a, some b =>
      match numberOf a, numberOf b, a, b with
      | some m, some n, _, _ => m = n
      | _, _, .null, .null => true
      | _, _, .bool p, .bool q => p = q
      | _, _, .str s, .str t => s = t
      | _, _, _, _ => false
  | _, _ => false

/-- `{ ...a, ...b }`. -/
def spread (a b : Dict) : Dict := b.foldl (fun d row => d.set row.1 row.2) a

/-! ## The store -/

def replaceTask (list : List Dict) (nextTask : Dict) : List Dict :=
  match list.findIdx? fun task => identical (task.get "id") (nextTask.get "id") with
  | some index => list.modify index fun task => spread task nextTask
  | none => nextTask :: list

structure TasksState where
  tasks : List Dict := []
  recentTasks : List Dict := []
  currentTask : Option Dict := none

/-- What an action does with the task that the request returned. -/
def received (task : Dict) (state : TasksState) : TasksState where
  tasks := replaceTask state.tasks task
  recentTasks := replaceTask state.recentTasks task
  currentTask :=
    if identical (state.currentTask.bind (·.get "id")) (task.get "id") then
      some (spread (state.currentTask.getD []) task)
    else state.currentTask

/-! ## The request -/

structure Envelope where
  code : Int
  data : Dict
  message : String

def successResponse (data : Dict) : Envelope := ⟨0, data, "ok"⟩

/-- The body of the two routes, or `none` for an answer with an error status. -/
def routeBody : Response → Option Envelope
  | .task task => some (successResponse [("status", .str task.status.text)])
  | _ => none

/-- The interceptor of the responses; `none` where it rejects. -/
def intercepted (payload : Envelope) : Option Dict := if payload.code = 0 then some payload.data else none

/-- A call of one of the two actions, with what its route draws from outside. -/
inductive Action where
  | submitTask (fault : QueueService.Fault) (enqueuedAt : String) (loggedAt : Time)
  | cancelTask (now loggedAt : Time)

/-- `submitTaskApi(id)` and `cancelTaskApi(id)`, as the route serves them. -/
def Action.call (id : TaskId) : Action → Call
  | .submitTask fault enqueuedAt loggedAt => .submitTask fault enqueuedAt loggedAt id
  | .cancelTask now loggedAt => .cancelTask now loggedAt id

/-- The store after `submitTask(id)` or `cancelTask(id)`. -/
def perform (user : User) (action : Action) (id : TaskId) (desk : Desk) (state : TasksState) : TasksState :=
  match (routeBody (answer user (action.call id) desk)).bind intercepted with
  | some task => received task state
  | none => state

/-! ## In place -/

/-- An entry keeps its id; that of the task has the new status, any other is as it was. -/
structure Kept (id : TaskId) (status : String) (entry entry' : Dict) : Prop where
  sameId : entry'.get "id" = entry.get "id"
  updated : entry.get "id" = some (.str id) → entry'.get "status" = some (.str status)
  other : entry.get "id" ≠ some (.str id) → ∀ key, entry'.get key = entry.get key

/-- The list is updated in place. -/
def InPlace (id : TaskId) (status : String) : List Dict → List Dict → Prop := List.Forall₂ (Kept id status)

/-- Some entry has no id, the first such shows the status, and so does the entry of `id`. -/
def Shown (id : TaskId) (status : String) (list : List Dict) : Prop :=
  ((list.find? fun entry => (entry.get "id").isNone).bind (·.get "status")) = some (.str status) ∧
    ∀ entry ∈ list, entry.get "id" = some (.str id) → entry.get "status" = some (.str status)

section

variable {id : TaskId} {status : String} {list front back : List Dict} {entry entry' : Dict}

/-- What the interceptor makes of a completed reply. -/
def reply (status : String) : Dict := [("status", .str status)]

theorem reply_id (status : String) : (reply status).get "id" = none := rfl

/-- Without an id in the reply, the entry that is looked for is one without an id. -/
theorem identical_none (value : Option Value) : identical value none = value.isNone := by
  cases value <;> rfl

theorem kept_self : Kept id status entry entry ↔
    (entry.get "id" = some (.str id) → entry.get "status" = some (.str status)) :=
  ⟨Kept.updated, fun shown => ⟨rfl, shown, fun _ _ => rfl⟩⟩

theorem kept_set (anonymous : entry.get "id" = none) :
    Kept id status entry (entry.set "status" (.str status)) ↔ entry.get "status" = some (.str status) := by
  constructor
  · intro kept
    have same := kept.other (by simp [anonymous]) "status"
    rw [Dict.get_set, if_pos rfl] at same
    exact same.symm
  · intro shown
    refine ⟨?_, ?_, ?_⟩
    · rw [Dict.get_set, if_neg (by decide)]
    · intro named
      rw [anonymous] at named
      cases named
    · intro _ key
      rw [Dict.get_set]
      split
      · rename_i here
        rw [here, shown]
      · rfl

/-- One entry replaced. -/
theorem inPlace_middle : InPlace id status (front ++ entry :: back) (front ++ entry' :: back) ↔
    (∀ x ∈ front, Kept id status x x) ∧ Kept id status entry entry' ∧ ∀ x ∈ back, Kept id status x x := by
  induction front with
  | nil =>
      rw [List.nil_append, List.nil_append, InPlace, List.forall₂_cons, List.forall₂_same,
        and_iff_right (List.forall_mem_nil _)]
  | cons first rest ih =>
      rw [List.cons_append, List.cons_append, List.forall_mem_cons, and_assoc, ← ih, InPlace, List.forall₂_cons]

theorem modify_middle (f : Dict → Dict) :
    (front ++ entry :: back).modify front.length f = front ++ f entry :: back := by
  induction front with
  | nil => rfl
  | cons first rest ih => rw [List.cons_append, List.length_cons, List.modify_succ_cons, ih, List.cons_append]

theorem replaceTask_missing (named : ∀ x ∈ list, (x.get "id").isNone = false) :
    replaceTask list (reply status) = reply status :: list := by
  have missing : list.findIdx? (fun task => identical (task.get "id") none) = none := by
    simp only [identical_none]
    exact List.findIdx?_eq_none_iff.mpr named
  rw [replaceTask, reply_id, missing]

/-- The reply goes into the first entry without an id. -/
theorem replaceTask_found (named : ∀ x ∈ front, (x.get "id").isNone = false) (anonymous : entry.get "id" = none) :
    replaceTask (front ++ entry :: back) (reply status) = front ++ entry.set "status" (.str status) :: back := by
  have index : (front ++ entry :: back).findIdx? (fun task => identical (task.get "id") none) =
      some front.length := by
    simp only [identical_none]
    rw [List.findIdx?_append, List.findIdx?_eq_none_iff.mpr named, Option.none_or, List.findIdx?_cons,
      if_pos (by rw [anonymous]; rfl), Option.map_some, Nat.zero_add]
  rw [replaceTask, reply_id, index]
  exact modify_middle _

theorem inPlace_replaceTask : InPlace id status list (replaceTask list (reply status)) ↔ Shown id status list := by
  cases found : list.find? fun entry => (entry.get "id").isNone with
  | none =>
      have named : ∀ x ∈ list, (x.get "id").isNone = false := fun x inside =>
        Bool.eq_false_of_not_eq_true (List.find?_eq_none.mp found x inside)
      rw [replaceTask_missing named, Shown, found]
      refine iff_of_false ?_ fun shown => nomatch shown.1
      -- the list has grown
      intro same
      have longer := same.length_eq
      rw [List.length_cons] at longer
      omega
  | some entry =>
      obtain ⟨anonymous, front, back, rfl, named⟩ := List.find?_eq_some_iff_append.mp found
      have first := Option.isNone_iff_eq_none.mp anonymous
      have named : ∀ x ∈ front, (x.get "id").isNone = false := by simpa using named
      rw [replaceTask_found named first, inPlace_middle, kept_set first, Shown, found, Option.bind_some]
      simp only [kept_self, List.forall_mem_append, List.forall_mem_cons]
      constructor
      · rintro ⟨before, shown, after⟩
        exact ⟨shown, before, fun _ => shown, after⟩
      · rintro ⟨shown, before, _, after⟩
        exact ⟨before, shown, after⟩

end

/-- The row that a completed action returns is the one that is stored now. -/
theorem completed_row {user : User} {action : Action} {id : TaskId} {desk : Desk} {task : Task}
    (completed : answer user (action.call id) desk = .task task) :
    (exec user (action.call id) desk).db.tasks.get id = some task := by
  have stored : ∀ db : Database, refreshed id db = .task task → db.tasks.get id = some task := by
    intro db shown
    unfold refreshed at shown
    split at shown
    · cases shown
    · rename_i row found
      cases shown
      exact found
  cases action with
  | submitTask fault enqueuedAt loggedAt =>
      simp only [Action.call, answer, exec, serve] at completed ⊢
      cases outcome : submitTask fault enqueuedAt user id desk.toStore with
      | mk result store =>
          rw [outcome] at completed
          cases result with
          | error refusal => cases completed
          | ok done => exact stored store.db completed
  | cancelTask now loggedAt =>
      simp only [Action.call, answer, exec, serve] at completed ⊢
      cases outcome : cancelTask now user id desk.db with
      | mk result db =>
          rw [outcome] at completed
          cases result with
          | error refusal => cases completed
          | ok stop => exact stored db completed

/-- A completed action returns the task as it is stored now.  A list is updated in place
    with its status exactly when it has an entry without an id, the first of these shows
    the status already, and the entry of the task does. -/
theorem in_place_iff (user : User) (action : Action) (id : TaskId) (desk : Desk) (state : TasksState) {task : Task}
    (completed : answer user (action.call id) desk = .task task) :
    (exec user (action.call id) desk).db.tasks.get id = some task ∧
    (InPlace id task.status.text state.tasks (perform user action id desk state).tasks ↔
      Shown id task.status.text state.tasks) ∧
    (InPlace id task.status.text state.recentTasks (perform user action id desk state).recentTasks ↔
      Shown id task.status.text state.recentTasks) := by
  refine ⟨completed_row completed, ?_⟩
  rw [perform, completed]
  exact ⟨inPlace_replaceTask, inPlace_replaceTask⟩

namespace Sample

def user : User := { id := "u" }

def task : Task := { id := "t", userId := "u" }

def desk : Desk where
  db := { tasks := .singleton task }

def action : Action := .submitTask .none "" 1

/-- A list that shows the task, as `list_tasks` answered it. -/
def fetched : TasksState where
  tasks := [[("id", .str "t"), ("status", .str "pending")]]
  recentTasks := [[("id", .str "t"), ("status", .str "pending")]]

/-- The event of the submission came first, and an earlier reply is still in the lists. -/
def informed : TasksState where
  tasks := [[("status", .str "queued")], [("id", .str "t"), ("status", .str "queued")]]
  recentTasks := [[("status", .str "queued")], [("id", .str "t"), ("status", .str "queued")]]

theorem informed_in_place : InPlace "t" "queued" informed.tasks (perform user action "t" desk informed).tasks := by
  have completed : answer user (action.call "t") desk = .task { task with status := .queued } := by decide
  have shown : Shown "t" "queued" informed.tasks := by
    refine ⟨rfl, ?_⟩
    decide
  exact (in_place_iff user action "t" desk informed completed).2.1.mpr shown

/-- The list gains an entry with a status alone, and the task is still pending there. -/
theorem fetched_grows : ¬ ∀ (user : User) (action : Action) (id : TaskId) (desk : Desk) (state : TasksState)
    (task : Task),
    (∃ entry ∈ state.tasks, entry.get "id" = some (.str id)) →
    (∃ entry ∈ state.recentTasks, entry.get "id" = some (.str id)) →
    answer user (action.call id) desk = .task task →
    InPlace id task.status.text state.tasks (perform user action id desk state).tasks ∧
      InPlace id task.status.text state.recentTasks (perform user action id desk state).recentTasks := by
  intro always
  have same := (always user action "t" desk fetched { task with status := .queued } (by decide) (by decide)
    (by decide)).1
  have longer : (perform user action "t" desk fetched).tasks.length = 2 := by decide
  rw [← same.length_eq] at longer
  exact absurd longer (by decide)

end Sample

end TasksStore

end SuitApi
