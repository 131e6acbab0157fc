import SuitApi.Library.Runs
import SuitApi.TaskDesk

/-! # Each user's own part of the task service

A user without the admin role is served as if the service held that user's drawer and
nothing else.  The drawer has the user's tasks, their logs, and the ids of those that
a row of `running_containers` refers to, which the answer to `delete_task` depends on.
-/

namespace SuitApi.Tenants

open TaskService

@[ext]
structure Drawer where
  tasks : List Task
  logs : List LogRow
  held : List TaskId

/-- What a call does to the tasks and the logs. -/
inductive Change where
  | kept
  | created (task : Task) (row : LogRow)
  | written (t : TaskId) (f : Task → Task) (row : LogRow)
  | deleted (t : TaskId)

namespace Change

def tasks : Change → List Task → List Task
  | .kept, rows => rows
  | .created task _, rows => rows ++ [task]
  | .written t f _, rows => rows.map fun task => if task.id = t then f task else task
  | .deleted t, rows => rows.filter fun task => task.id ≠ t

def logs : Change → List LogRow → List LogRow
  | .kept, rows => rows
  | .created _ row, rows => rows ++ [row]
  | .written _ _ row, rows => rows ++ [row]
  | .deleted t, rows => rows.filter fun row => row.taskId ≠ t

def drawer (change : Change) (d : Drawer) : Drawer :=
  { d with tasks := change.tasks d.tasks, logs := change.logs d.logs }

end Change

/-! ## The service of one drawer -/

/-- The task that a call names, if it names one that should be there. -/
def about : Call → Option TaskId
  | .getTaskDetail t | .submitTask _ _ _ t | .cancelTask _ _ t | .getTaskLogs t _ | .deleteTask t => some t
  | .createTask _ _ _ _ | .listTasks _ _ _ _ => none

namespace Drawer

def find (d : Drawer) (t : TaskId) : Option Task := d.tasks.find? fun task => task.id = t

def serve (user : User) : Call → Drawer → Response × Change
  | .createTask t now loggedAt payload, _ =>
      if t = "" then (.raised, .kept)
      else
        (.task (newTask t now user payload),
          .created (newTask t now user payload) (systemLog t "task created" loggedAt))
  | .listTasks statusValue taskType page pageSize, d =>
      match pageOf statusValue taskType page pageSize d.tasks with
      | none => (.raised, .kept)
      | some (items, total) => (.page items total, .kept)
  | .getTaskDetail t, d =>
      match d.find t with
      | none => (.refused notFound, .kept)
      | some task => (detailOf task d.logs, .kept)
  | .submitTask fault _ loggedAt t, d =>
      match d.find t with
      | none => (.refused notFound, .kept)
      | some task =>
          match submitGuard task with
          | .error refusal => (.refused refusal, .kept)
          | .ok _ =>
              match fault with
              | .none =>
                  (.task (submitted task),
                    .written t submitted (systemLog t "task submitted to scheduler queue" loggedAt))
              | _ => (.refused (.make 503 "redis queue unavailable"), .kept)
  | .cancelTask now loggedAt t, d =>
      match d.find t with
      | none => (.refused notFound, .kept)
      | some task =>
          match cancelGuard task with
          | .error refusal => (.refused refusal, .kept)
          | .ok _ =>
              (.task (cancelled now task), .written t (cancelled now) (systemLog t "task cancelled" loggedAt))
  | .getTaskLogs t tail, d =>
      match d.find t with
      | none => (.refused notFound, .kept)
      | some task => (logsOf task tail d.logs, .kept)
  | .deleteTask t, d =>
      match d.find t with
      | none => (.refused notFound, .kept)
      | some task =>
          if task.status ∉ [TaskStatus.success, .failed, .cancelled] then
            (.refused (.make 400 "only finished task can be deleted"), .kept)
          else if t ∈ d.held then (.raised, .kept)
          else (.deleted, .deleted t)

/-- A call about a task that is not there is refused. -/
theorem serve_missing {user : User} {call : Call} {d : Drawer} {t : TaskId} (names : about call = some t)
    (missing : d.find t = none) : serve user call d = (.refused notFound, .kept) := by
  cases call with
  | createTask | listTasks => cases names
  | getTaskDetail | submitTask | cancelTask | getTaskLogs | deleteTask =>
      cases names
      simp only [serve, missing]

def exec (user : User) (call : Call) (d : Drawer) : Drawer := (serve user call d).2.drawer d

def answer (user : User) (call : Call) (d : Drawer) : Response := (serve user call d).1

end Drawer

/-! ## The drawer in the store -/

def ids (rows : List Task) : List TaskId := rows.map (·.id)

def referenced (db : Database) (t : TaskId) : Bool := db.runningContainers.rows.any fun row => row.taskId = some t

/-- The part of the store that belongs to the tasks of one kind. -/
def part (kind : Task → Bool) (desk : Desk) : Drawer where
  tasks := desk.db.tasks.rows.filter kind
  logs := desk.logs.filter fun row => row.taskId ∈ ids (desk.db.tasks.rows.filter kind)
  held := (ids (desk.db.tasks.rows.filter kind)).filter (referenced desk.db)

def own (user : User) (task : Task) : Bool := task.userId = user.id

def view (user : User) (desk : Desk) : Drawer := part (own user) desk

/-- The foreign keys of `task_logs` and `running_containers`. -/
structure Referential (desk : Desk) : Prop where
  logs : ∀ row ∈ desk.logs, (desk.db.tasks.get row.taskId).isSome = true
  containers : ∀ row ∈ desk.db.runningContainers.rows, ∀ t, row.taskId = some t →
    (desk.db.tasks.get t).isSome = true

/-- The generated id is a new one. -/
def Fresh (desk : Desk) : Call → Prop
  | .createTask t _ _ _ => desk.db.tasks.get t = none
  | _ => True

theorem find_part (kind : Task → Bool) (desk : Desk) (t : TaskId) :
    (part kind desk).find t = (desk.db.tasks.get t).filter kind := by
  have same : (desk.db.tasks.deleteWhere fun task => !kind task).get t = (part kind desk).find t := by
    simp only [Table.get, Table.deleteWhere_rows, Bool.not_not, Drawer.find, part]
  rw [← same, Table.get_deleteWhere]
  simp only [Bool.not_not]

/-- Without the admin role a task is loaded from the own drawer. -/
theorem getOwnedTask_find {user : User} (plain : user.role ≠ "admin") (desk : Desk) (t : TaskId) :
    getOwnedTask desk.db t user =
      match (view user desk).find t with
      | none => .error notFound
      | some task => .ok task := by
  rw [view, find_part]
  cases found : desk.db.tasks.get t with
  | none => simp only [getOwnedTask, found, Option.filter_none]
  | some task =>
      rw [getOwnedTask_eq found, Option.filter_some]
      by_cases mine : task.userId = user.id
      · rw [if_pos (.inr mine), if_pos (show own user task = true from decide_eq_true mine)]
      · have other : ¬ Owned user task := by
          rintro (admin | same)
          · exact plain admin
          · exact mine same
        rw [if_neg other, if_neg (by simpa [own] using mine)]

theorem mem_ids_part {kind : Task → Bool} {desk : Desk} {t : TaskId} :
    t ∈ ids (desk.db.tasks.rows.filter kind) ↔ ∃ task, desk.db.tasks.get t = some task ∧ kind task = true := by
  rw [ids, List.mem_map]
  constructor
  · rintro ⟨task, inside, rfl⟩
    obtain ⟨member, kept⟩ := List.mem_filter.mp inside
    exact ⟨task, Table.get_of_mem member, kept⟩
  · rintro ⟨task, found, kept⟩
    exact ⟨task, List.mem_filter.mpr ⟨Table.mem_of_get found, kept⟩, Table.key_of_get found⟩

/-! ## What a change does to the parts -/

/-- The change is one of the user's own tasks. -/
def Allowed (user : User) (desk : Desk) : Change → Prop
  | .kept => True
  | .created task row => own user task = true ∧ row.taskId = task.id ∧ desk.db.tasks.get task.id = none
  | .written t f row => row.taskId = t ∧ (∀ task, (f task).id = task.id ∧ (f task).userId = task.userId) ∧
      ∃ task, desk.db.tasks.get t = some task ∧ own user task = true
  | .deleted t => referenced desk.db t = false ∧ ∃ task, desk.db.tasks.get t = some task ∧ own user task = true

structure Makes (user : User) (desk desk' : Desk) (change : Change) : Prop where
  allowed : Allowed user desk change
  tasks : desk'.db.tasks.rows = change.tasks desk.db.tasks.rows
  logs : desk'.logs = change.logs desk.logs
  containers : desk'.db.runningContainers = desk.db.runningContainers

section

variable {user : User} {desk desk' : Desk} {change : Change}

theorem referenced_makes (makes : Makes user desk desk' change) : referenced desk'.db = referenced desk.db := by
  funext t
  rw [referenced, makes.containers, referenced]

/-- A task that is not stored has no logs and no containers. -/
theorem Referential.unstored (valid : Referential desk) {t : TaskId} (missing : desk.db.tasks.get t = none) :
    (∀ row ∈ desk.logs, row.taskId ≠ t) ∧ referenced desk.db t = false := by
  constructor
  · rintro row inside rfl
    have stored := valid.logs row inside
    rw [missing] at stored
    cases stored
  · rw [referenced, List.any_eq_false]
    intro row inside refers
    have stored := valid.containers row inside t (of_decide_eq_true refers)
    rw [missing] at stored
    cases stored

theorem filter_written {kind : Task → Bool} {f : Task → Task} (keeps : ∀ task, kind (f task) = kind task)
    (t : TaskId) (rows : List Task) :
    (rows.map fun task => if task.id = t then f task else task).filter kind =
      (rows.filter kind).map fun task => if task.id = t then f task else task := by
  rw [List.filter_map]
  congr 2
  funext task
  simp only [Function.comp]
  split
  · exact keeps task
  · rfl

theorem ids_written {f : Task → Task} (keeps : ∀ task, (f task).id = task.id) (t : TaskId) (rows : List Task) :
    ids (rows.map fun task => if task.id = t then f task else task) = ids rows := by
  rw [ids, List.map_map]
  apply List.map_congr_left
  intro task _
  simp only [Function.comp]
  split
  · exact keeps task
  · rfl

theorem ids_deleted (t : TaskId) (rows : List Task) :
    ids (rows.filter fun task => task.id ≠ t) = (ids rows).filter fun id => id ≠ t := by
  rw [ids, ids, List.filter_map]
  rfl

/-- The user's own part changes as the drawer does. -/
theorem view_makes (valid : Referential desk) (makes : Makes user desk desk' change) :
    view user desk' = change.drawer (view user desk) := by
  have same := referenced_makes makes
  obtain ⟨allowed, tasks, logs, _⟩ := makes
  cases change with
  | kept => simp only [view, part, Change.drawer, tasks, logs, same, Change.tasks, Change.logs]
  | created task row =>
      obtain ⟨mine, about, missing⟩ := allowed
      obtain ⟨unlogged, unheld⟩ := valid.unstored missing
      have rows : desk'.db.tasks.rows.filter (own user) = desk.db.tasks.rows.filter (own user) ++ [task] := by
        rw [tasks, Change.tasks, List.filter_append, List.filter_cons_of_pos mine, List.filter_nil]
      have more : ids (desk.db.tasks.rows.filter (own user) ++ [task]) =
          ids (desk.db.tasks.rows.filter (own user)) ++ [task.id] := List.map_append
      ext1
      case tasks => exact rows
      case logs =>
        simp only [view, part, Change.drawer, Change.logs, logs, rows, more]
        rw [List.filter_append, List.filter_cons_of_pos (by simp [about]), List.filter_nil]
        congr 1
        apply List.filter_congr
        intro old inside
        simp [unlogged old inside]
      case held =>
        simp only [view, part, Change.drawer, rows, more, same]
        rw [List.filter_append, List.filter_cons_of_neg (by simp [unheld]), List.filter_nil, List.append_nil]
  | written t f row =>
      obtain ⟨about, keeps, task, found, mine⟩ := allowed
      have kind : ∀ task, own user (f task) = own user task := by
        intro task
        rw [own, own, (keeps task).2]
      have rows : desk'.db.tasks.rows.filter (own user) =
          (desk.db.tasks.rows.filter (own user)).map fun task => if task.id = t then f task else task := by
        rw [tasks]
        exact filter_written kind t _
      have same' := ids_written (fun task => (keeps task).1) t (desk.db.tasks.rows.filter (own user))
      have inside : t ∈ ids (desk.db.tasks.rows.filter (own user)) := mem_ids_part.mpr ⟨task, found, mine⟩
      ext1
      case tasks => exact rows
      case logs =>
        simp only [view, part, Change.drawer, Change.logs, logs, rows, same']
        rw [List.filter_append, List.filter_cons_of_pos (by simpa [about] using inside), List.filter_nil]
      case held => simp only [view, part, Change.drawer, rows, same', same]
  | deleted t =>
      obtain ⟨unheld, task, found, mine⟩ := allowed
      have rows : desk'.db.tasks.rows.filter (own user) =
          (desk.db.tasks.rows.filter (own user)).filter fun task => task.id ≠ t := by
        rw [tasks, Change.tasks, List.filter_comm]
      ext1
      case tasks => exact rows
      case logs =>
        simp only [view, part, Change.drawer, Change.logs, logs, rows, ids_deleted]
        rw [List.filter_comm, List.filter_filter, List.filter_filter]
        apply List.filter_congr
        intro row _
        by_cases here : row.taskId = t <;> simp [here]
      case held =>
        simp only [view, part, Change.drawer, rows, ids_deleted, same]
        rw [List.filter_filter]
        apply List.filter_congr
        intro id _
        by_cases here : id = t
        · simp [here, unheld]
        · simp [here]

/-- A write to one's own task leaves the tasks of another kind alone. -/
theorem filter_written_other {kind : Task → Bool} {f : Task → Task} {t : TaskId}
    (away : ∀ task ∈ desk.db.tasks.rows, task.id = t → kind task = false ∧ kind (f task) = false) :
    (desk.db.tasks.rows.map fun task => if task.id = t then f task else task).filter kind =
      desk.db.tasks.rows.filter kind := by
  rw [List.filter_map]
  have kept : desk.db.tasks.rows.filter (kind ∘ fun task => if task.id = t then f task else task) =
      desk.db.tasks.rows.filter kind := by
    apply List.filter_congr
    intro task inside
    simp only [Function.comp]
    split
    · rename_i here
      rw [(away task inside here).1, (away task inside here).2]
    · rfl
  rw [kept]
  refine (List.map_congr_left ?_).trans (List.map_id _)
  intro task inside
  obtain ⟨member, shown⟩ := List.mem_filter.mp inside
  refine if_neg ?_
  intro here
  rw [(away task member here).1] at shown
  cases shown

/-- The parts of others stay as they are. -/
theorem part_makes (makes : Makes user desk desk' change) {kind : Task → Bool}
    (others : ∀ task, kind task = true → own user task = false) : part kind desk' = part kind desk := by
  have same := referenced_makes makes
  obtain ⟨allowed, tasks, logs, _⟩ := makes
  have foreign : ∀ task, own user task = true → kind task = false := by
    intro task mine
    rw [← Bool.not_eq_true]
    intro here
    rw [others task here] at mine
    cases mine
  have outside : ∀ t task, desk.db.tasks.get t = some task → own user task = true →
      t ∉ ids (desk.db.tasks.rows.filter kind) := by
    intro t task found mine inside
    obtain ⟨task', found', here⟩ := mem_ids_part.mp inside
    cases found.symm.trans found'
    rw [foreign task mine] at here
    cases here
  suffices rows : desk'.db.tasks.rows.filter kind = desk.db.tasks.rows.filter kind ∧
      desk'.logs.filter (fun row => row.taskId ∈ ids (desk.db.tasks.rows.filter kind)) =
        desk.logs.filter (fun row => row.taskId ∈ ids (desk.db.tasks.rows.filter kind)) by
    simp only [part, rows.1, rows.2, same]
  rw [tasks, logs]
  cases change with
  | kept => exact ⟨rfl, rfl⟩
  | created task row =>
      obtain ⟨mine, about, missing⟩ := allowed
      have unlisted : row.taskId ∉ ids (desk.db.tasks.rows.filter kind) := by
        rw [about, mem_ids_part]
        rintro ⟨_, found, _⟩
        rw [missing] at found
        cases found
      constructor
      · rw [Change.tasks, List.filter_append, List.filter_cons_of_neg (by simp [foreign task mine]),
          List.filter_nil, List.append_nil]
      · rw [Change.logs, List.filter_append, List.filter_cons_of_neg (by simpa using unlisted),
          List.filter_nil, List.append_nil]
  | written t f row =>
      obtain ⟨about, keeps, task, found, mine⟩ := allowed
      have away := outside t task found mine
      constructor
      · apply filter_written_other
        intro row inside here
        have equal := (Table.get_of_mem inside).symm.trans (here ▸ found)
        cases Option.some.inj equal
        refine ⟨foreign _ mine, foreign _ ?_⟩
        rw [own, (keeps _).2]
        exact mine
      · rw [Change.logs, List.filter_append, List.filter_cons_of_neg (by simpa [about] using away),
          List.filter_nil, List.append_nil]
  | deleted t =>
      obtain ⟨_, task, found, mine⟩ := allowed
      have away := outside t task found mine
      constructor
      · rw [Change.tasks, List.filter_comm, List.filter_eq_self]
        intro task inside
        have other : task.id ≠ t := by
          rintro rfl
          exact away (List.mem_map.mpr ⟨task, inside, rfl⟩)
        simpa using other
      · rw [Change.logs, List.filter_filter]
        apply List.filter_congr
        intro row _
        by_cases here : row.taskId = t
        · simp [here, away]
        · simp [here]

theorem stored_iff (desk : Desk) (t : TaskId) :
    (desk.db.tasks.get t).isSome = true ↔ t ∈ ids desk.db.tasks.rows := by
  rw [Option.isSome_iff_exists, ids, List.mem_map]
  constructor
  · rintro ⟨task, found⟩
    exact ⟨task, Table.get_eq_some.mp found⟩
  · rintro ⟨task, here⟩
    exact ⟨task, Table.get_eq_some.mpr here⟩

theorem referential_makes (valid : Referential desk) (makes : Makes user desk desk' change) : Referential desk' := by
  have logged : ∀ row ∈ desk.logs, row.taskId ∈ ids desk.db.tasks.rows :=
    fun row inside => (stored_iff desk _).mp (valid.logs row inside)
  have named : ∀ row ∈ desk.db.runningContainers.rows, ∀ t, row.taskId = some t →
      t ∈ ids desk.db.tasks.rows :=
    fun row inside t refers => (stored_iff desk t).mp (valid.containers row inside t refers)
  obtain ⟨allowed, tasks, logs, containers⟩ := makes
  suffices kept : (∀ row ∈ change.logs desk.logs, row.taskId ∈ ids (change.tasks desk.db.tasks.rows)) ∧
      ∀ row ∈ desk.db.runningContainers.rows, ∀ t, row.taskId = some t →
        t ∈ ids (change.tasks desk.db.tasks.rows) by
    constructor
    case logs =>
      intro row inside
      rw [stored_iff, tasks]
      exact kept.1 row (logs ▸ inside)
    case containers =>
      intro row inside t refers
      rw [stored_iff, tasks]
      exact kept.2 row (containers ▸ inside) t refers
  cases change with
  | kept => exact ⟨logged, named⟩
  | created task row =>
      obtain ⟨_, about, _⟩ := allowed
      have more : ids (desk.db.tasks.rows ++ [task]) = ids desk.db.tasks.rows ++ [task.id] := List.map_append
      simp only [Change.tasks, Change.logs, more, List.mem_append, List.mem_singleton]
      constructor
      · rintro old (inside | rfl)
        · exact .inl (logged old inside)
        · exact .inr about
      · exact fun old inside t refers => .inl (named old inside t refers)
  | written t f row =>
      obtain ⟨about, keeps, task, found, _⟩ := allowed
      have same := ids_written (fun task => (keeps task).1) t desk.db.tasks.rows
      simp only [Change.tasks, Change.logs, same, List.mem_append, List.mem_singleton]
      constructor
      · rintro old (inside | rfl)
        · exact logged old inside
        · rw [about, ← stored_iff, found]
          rfl
      · exact named
  | deleted t =>
      obtain ⟨unheld, _⟩ := allowed
      simp only [Change.tasks, Change.logs, ids_deleted, List.mem_filter, decide_eq_true_eq]
      constructor
      · exact fun old inside => ⟨logged old inside.1, inside.2⟩
      · intro old inside id refers
        refine ⟨named old inside id refers, ?_⟩
        rintro rfl
        have holds : referenced desk.db id = true := List.any_eq_true.mpr ⟨old, inside, decide_eq_true refers⟩
        rw [unheld] at holds
        cases holds

end

/-! ## What a call does -/

section

variable {user : User} {desk : Desk}

theorem recentLogs_view {t : TaskId} {task : Task} (found : desk.db.tasks.get t = some task)
    (mine : own user task = true) (limit : Int) :
    recentLogs t limit (view user desk).logs = recentLogs t limit desk.logs := by
  have inside : t ∈ ids (desk.db.tasks.rows.filter (own user)) := mem_ids_part.mpr ⟨task, found, mine⟩
  have same : (view user desk).logs.filter (fun row => row.taskId = t) =
      desk.logs.filter fun row => row.taskId = t := by
    rw [view, part, List.filter_filter]
    apply List.filter_congr
    intro row _
    by_cases here : row.taskId = t
    · simp [here, inside]
    · simp [here]
  rw [recentLogs, same, recentLogs]

theorem mem_held {t : TaskId} {task : Task} (found : desk.db.tasks.get t = some task) (mine : own user task = true) :
    t ∈ (view user desk).held ↔ referenced desk.db t = true := by
  rw [view, part, List.mem_filter]
  exact and_iff_right (mem_ids_part.mpr ⟨task, found, mine⟩)

/-- The call makes the change that it makes in the drawer, and is answered as there. -/
structure Serves (user : User) (desk : Desk) (call : Call) : Prop where
  answer : answer user call desk = Drawer.answer user call (view user desk)
  makes : Makes user desk (exec user call desk) (Drawer.serve user call (view user desk)).2

theorem serves_kept {call : Call} (response : Response) (here : serve user call desk = (response, desk))
    (there : Drawer.serve user call (view user desk) = (response, .kept)) : Serves user desk call := by
  constructor
  case answer => rw [answer, Drawer.answer, here, there]
  case makes =>
    rw [exec, here, there]
    exact ⟨trivial, rfl, rfl, rfl⟩

theorem serves_created {t : TaskId} (now loggedAt : Time) (payload : TaskCreate)
    (fresh : desk.db.tasks.get t = none) : Serves user desk (.createTask t now loggedAt payload) := by
  by_cases empty : t = ""
  · apply serves_kept .raised
    · simp only [serve, createTask, if_pos empty]
    · simp only [Drawer.serve, if_pos empty]
  · obtain ⟨tasks, inserted⟩ := Table.insert?_isSome (r := newTask t now user payload) fresh
    have created : createTask t now user payload desk.db =
        some ({ desk.db with tasks }.addLog t "system" "task created") := by
      rw [createTask, if_neg empty, inserted, Option.map_some]
    have read : tasks.get t = some (newTask t now user payload) := by
      rw [Table.get_insert? inserted]
      exact if_pos rfl
    constructor
    case answer =>
      simp only [answer, serve, created, refreshed, Database.addLog_tasks, read, Drawer.answer, Drawer.serve,
        if_neg empty]
    case makes =>
      simp only [exec, serve, created, Drawer.serve, if_neg empty]
      exact ⟨⟨decide_eq_true rfl, rfl, fresh⟩, Table.insert?_rows inserted, rfl, rfl⟩

theorem serves_listed (plain : user.role ≠ "admin") (statusValue taskType : Option String) (page pageSize : Int) :
    Serves user desk (.listTasks statusValue taskType page pageSize) := by
  have same : listTasks user statusValue taskType page pageSize desk.db =
      pageOf statusValue taskType page pageSize (view user desk).tasks := by
    rw [listTasks, if_pos plain]
    rfl
  cases shown : pageOf statusValue taskType page pageSize (view user desk).tasks with
  | none =>
      apply serves_kept .raised
      · simp only [serve, same, shown]
      · simp only [Drawer.serve, shown]
  | some read =>
      apply serves_kept (.page read.1 read.2)
      · simp only [serve, same, shown]
      · simp only [Drawer.serve, shown]

theorem find_view {t : TaskId} {task : Task} (here : (view user desk).find t = some task) :
    desk.db.tasks.get t = some task ∧ own user task = true ∧ task.id = t := by
  rw [view, find_part, Option.filter_eq_some_iff] at here
  exact ⟨here.1, here.2, Table.key_of_get here.1⟩

/-- A task that is not in the drawer is not found, whether it exists or not. -/
theorem serves_missing (plain : user.role ≠ "admin") {call : Call} {t : TaskId} (names : about call = some t)
    (here : (view user desk).find t = none) : Serves user desk call := by
  have loaded := getOwnedTask_find plain desk t
  rw [here] at loaded
  refine serves_kept (.refused notFound) ?_ (Drawer.serve_missing names here)
  cases call with
  | createTask | listTasks => cases names
  | getTaskDetail | getTaskLogs =>
      cases names
      simp only [serve, loaded]
  | submitTask =>
      cases names
      simp only [serve, submitTask, loaded]
  | cancelTask =>
      cases names
      simp only [serve, cancelTask, loaded]
  | deleteTask =>
      cases names
      simp only [serve, deleteTask, loaded]

theorem getOwnedTask_of_find (plain : user.role ≠ "admin") {t : TaskId} {task : Task}
    (here : (view user desk).find t = some task) : getOwnedTask desk.db t user = .ok task := by
  rw [getOwnedTask_find plain desk t, here]

theorem serves_detail (plain : user.role ≠ "admin") {t : TaskId} {task : Task}
    (here : (view user desk).find t = some task) : Serves user desk (.getTaskDetail t) := by
  have loaded := getOwnedTask_of_find plain here
  obtain ⟨found, mine, rfl⟩ := find_view here
  apply serves_kept (detailOf task desk.logs)
  · simp only [serve, loaded]
  · simp only [Drawer.serve, here, detailOf, recentLogs_view found mine]

theorem serves_logs (plain : user.role ≠ "admin") {t : TaskId} {task : Task}
    (here : (view user desk).find t = some task) (tail : Int) : Serves user desk (.getTaskLogs t tail) := by
  have loaded := getOwnedTask_of_find plain here
  obtain ⟨found, mine, rfl⟩ := find_view here
  apply serves_kept (logsOf task tail desk.logs)
  · simp only [serve, loaded]
  · simp only [Drawer.serve, here, logsOf, recentLogs_view found mine]

/-- A committed write to an own task. -/
theorem makes_written {t : TaskId} {task : Task} (found : desk.db.tasks.get t = some task)
    (mine : own user task = true) {f : Task → Task} (keeps : ∀ task, (f task).id = task.id)
    (owner : ∀ task, (f task).userId = task.userId) (message : String) (loggedAt : Time) (queues : Queues) :
    refreshed t ((desk.db.updateTask task.id f keeps).addLog task.id "system" message) = .task (f task) ∧
      Makes user desk ⟨⟨(desk.db.updateTask task.id f keeps).addLog task.id "system" message, queues⟩,
        desk.logs ++ [systemLog t message loggedAt]⟩ (.written t f (systemLog t message loggedAt)) := by
  obtain rfl := Table.key_of_get found
  constructor
  · have read : ((desk.db.updateTask task.id f keeps).addLog task.id "system" message).tasks.get task.id =
        some (f task) := by
      rw [Database.addLog_tasks, Database.updateTask_get, if_pos rfl, found, Option.map_some]
    rw [refreshed, read]
  · constructor
    case allowed => exact ⟨rfl, fun task => ⟨keeps task, owner task⟩, task, found, mine⟩
    case tasks =>
      simp only [Database.addLog_tasks, Database.updateTask, Table.update, Table.updateWhere, Change.tasks,
        decide_eq_true_eq]
    case logs => rfl
    case containers => rfl

theorem serves_submitted (plain : user.role ≠ "admin") {t : TaskId} {task : Task}
    (here : (view user desk).find t = some task) (fault : QueueService.Fault) (enqueuedAt : String)
    (loggedAt : Time) : Serves user desk (.submitTask fault enqueuedAt loggedAt t) := by
  have loaded := getOwnedTask_of_find plain here
  obtain ⟨found, mine, _⟩ := find_view here
  cases guarded : submitGuard task with
  | error refusal =>
      apply serves_kept (.refused refusal)
      · simp only [serve, submitTask, loaded, guarded]
      · simp only [Drawer.serve, here, guarded]
  | ok passed =>
      cases fault with
      | none =>
          obtain ⟨read, makes⟩ := makes_written found mine submitted_id (fun _ => rfl)
            "task submitted to scheduler queue" loggedAt
            (QueueService.enqueueTask .none enqueuedAt task.id task.priority desk.queues).2
          constructor
          case answer =>
            simp only [answer, Drawer.answer, serve, submitTask, loaded, guarded, QueueService.enqueueTask,
              Drawer.serve, here, read]
          case makes =>
            simp only [exec, serve, submitTask, loaded, guarded, QueueService.enqueueTask, Drawer.serve, here]
            exact makes
      | lpush =>
          apply serves_kept (.refused (.make 503 "redis queue unavailable"))
          · simp only [serve, submitTask, loaded, guarded, QueueService.enqueueTask]
          · simp only [Drawer.serve, here, guarded]
      | publish =>
          -- the push has reached Redis, which is no part of the drawer
          constructor
          case answer =>
            simp only [answer, Drawer.answer, serve, submitTask, loaded, guarded, QueueService.enqueueTask,
              Drawer.serve, here]
          case makes =>
            simp only [exec, serve, submitTask, loaded, guarded, QueueService.enqueueTask, Drawer.serve, here]
            exact ⟨trivial, rfl, rfl, rfl⟩

theorem serves_cancelled (plain : user.role ≠ "admin") {t : TaskId} {task : Task}
    (here : (view user desk).find t = some task) (now loggedAt : Time) :
    Serves user desk (.cancelTask now loggedAt t) := by
  have loaded := getOwnedTask_of_find plain here
  obtain ⟨found, mine, _⟩ := find_view here
  cases guarded : cancelGuard task with
  | error refusal =>
      apply serves_kept (.refused refusal)
      · simp only [serve, cancelTask, loaded, guarded]
      · simp only [Drawer.serve, here, guarded]
  | ok passed =>
      obtain ⟨read, makes⟩ := makes_written found mine (cancelled_id now) (fun _ => rfl) "task cancelled" loggedAt
        desk.queues
      constructor
      case answer =>
        simp only [answer, Drawer.answer, serve, cancelTask, loaded, guarded, Drawer.serve, here, read]
      case makes =>
        simp only [exec, serve, cancelTask, loaded, guarded, Drawer.serve, here]
        exact makes

theorem serves_deleted (plain : user.role ≠ "admin") {t : TaskId} {task : Task}
    (here : (view user desk).find t = some task) : Serves user desk (.deleteTask t) := by
  have loaded := getOwnedTask_of_find plain here
  obtain ⟨found, mine, rfl⟩ := find_view here
  by_cases unfinished : task.status ∉ [TaskStatus.success, .failed, .cancelled]
  · apply serves_kept (.refused (.make 400 "only finished task can be deleted"))
    · simp only [serve, deleteTask, loaded, if_pos unfinished]
    · simp only [Drawer.serve, here, if_pos unfinished]
  · by_cases held : referenced desk.db task.id = true
    · have inside := (mem_held found mine).mpr held
      rw [referenced] at held
      apply serves_kept .raised
      · simp only [serve, deleteTask, loaded, if_neg unfinished, held, if_true]
      · simp only [Drawer.serve, here, if_neg unfinished, if_pos inside]
    · have outside : task.id ∉ (view user desk).held := fun inside => held ((mem_held found mine).mp inside)
      have unreferenced : referenced desk.db task.id = false := Bool.not_eq_true _ ▸ held
      rw [referenced] at held
      constructor
      case answer =>
        simp only [answer, Drawer.answer, serve, deleteTask, loaded, if_neg unfinished, if_neg held,
          Drawer.serve, here, if_neg outside]
      case makes =>
        simp only [exec, serve, deleteTask, loaded, if_neg unfinished, if_neg held, Drawer.serve, here,
          if_neg outside]
        refine ⟨⟨unreferenced, task, found, mine⟩, ?_, rfl, rfl⟩
        simp only [Table.deleteWhere_rows, Change.tasks, decide_not]

/-- A user without the admin role is served as the drawer alone would be. -/
theorem serves (plain : user.role ≠ "admin") {call : Call} (fresh : Fresh desk call) : Serves user desk call := by
  cases named : about call with
  | none =>
      cases call with
      | createTask t now loggedAt payload => exact serves_created now loggedAt payload fresh
      | listTasks statusValue taskType page pageSize => exact serves_listed plain statusValue taskType page pageSize
      | getTaskDetail | submitTask | cancelTask | getTaskLogs | deleteTask => cases named
  | some t =>
      cases here : (view user desk).find t with
      | none => exact serves_missing plain named here
      | some task =>
          cases call with
          | createTask | listTasks => cases named
          | getTaskDetail =>
              cases named
              exact serves_detail plain here
          | submitTask fault enqueuedAt loggedAt =>
              cases named
              exact serves_submitted plain here fault enqueuedAt loggedAt
          | cancelTask now loggedAt =>
              cases named
              exact serves_cancelled plain here now loggedAt
          | getTaskLogs _ tail =>
              cases named
              exact serves_logs plain here tail
          | deleteTask =>
              cases named
              exact serves_deleted plain here

theorem exec_referential (plain : user.role ≠ "admin") {call : Call} (valid : Referential desk)
    (fresh : Fresh desk call) : Referential (exec user call desk) :=
  referential_makes valid (serves plain fresh).makes

theorem exec_view (plain : user.role ≠ "admin") {call : Call} (valid : Referential desk) (fresh : Fresh desk call) :
    view user (exec user call desk) = Drawer.exec user call (view user desk) :=
  view_makes valid (serves plain fresh).makes

theorem exec_part (plain : user.role ≠ "admin") {call : Call} (fresh : Fresh desk call) {kind : Task → Bool}
    (others : ∀ task, kind task = true → own user task = false) :
    part kind (exec user call desk) = part kind desk :=
  part_makes (serves plain fresh).makes others

end

/-! ## The order of equal rows -/

/-- A query reads the tables in any order, and sorts what it reads. -/
structure Shuffled (desk desk' : Desk) : Prop where
  tasks : desk'.db.tasks.rows.Perm desk.db.tasks.rows
  logs : desk'.logs.Perm desk.logs
  same : desk' = { desk with db := { desk.db with tasks := desk'.db.tasks }, logs := desk'.logs }

/-- The calls can be answered so: rows that are equal in the order of a query stand in its
    answer as the database happens to find them. -/
def Answered (user : User) : List Call → Desk → List Response → Prop
  | [], _, responses => responses = []
  | call :: rest, desk, responses => ∃ desk' later, Shuffled desk desk' ∧
      Answered user rest (exec user call desk) later ∧ responses = answer user call desk' :: later

/-- The drawers have the same rows, in whatever order. -/
structure Alike (d d' : Drawer) : Prop where
  tasks : d.tasks.Perm d'.tasks
  logs : d.logs.Perm d'.logs
  held : ∀ t, t ∈ d.held ↔ t ∈ d'.held

theorem Alike.trans {d d' d'' : Drawer} (first : Alike d d') (second : Alike d' d'') : Alike d d'' where
  tasks := first.tasks.trans second.tasks
  logs := first.logs.trans second.logs
  held t := (first.held t).trans (second.held t)

theorem Alike.symm {d d' : Drawer} (alike : Alike d d') : Alike d' d where
  tasks := alike.tasks.symm
  logs := alike.logs.symm
  held t := (alike.held t).symm

theorem Alike.find {d d' : Drawer} (alike : Alike d d') (unique : (ids d.tasks).Nodup) (t : TaskId) :
    d.find t = d'.find t := by
  let first : Table Task.id := ⟨d.tasks, unique⟩
  let second : Table Task.id := ⟨d'.tasks, (alike.tasks.map _).nodup_iff.mp unique⟩
  exact (Table.get_perm alike.tasks t : first.get t = second.get t)

/-- The answer depends on which tasks are held, not on their order. -/
theorem Drawer.answer_congr {user : User} {call : Call} {d d' : Drawer} (tasks : d.tasks = d'.tasks)
    (logs : d.logs = d'.logs) (held : ∀ t, t ∈ d.held ↔ t ∈ d'.held) :
    Drawer.answer user call d = Drawer.answer user call d' := by
  have find : d.find = d'.find := by
    funext t
    rw [Drawer.find, tasks, Drawer.find]
  unfold Drawer.answer
  cases call with
  | deleteTask t => simp only [Drawer.serve, find, held]
  | createTask | listTasks | getTaskDetail | submitTask | cancelTask | getTaskLogs =>
      simp only [Drawer.serve, find, tasks, logs]

/-- What a call changes does not depend on the order of the rows. -/
theorem Alike.change {user : User} {d d' : Drawer} (alike : Alike d d') (unique : (ids d.tasks).Nodup)
    (call : Call) : (Drawer.serve user call d).2 = (Drawer.serve user call d').2 := by
  cases call with
  | createTask => rfl
  | listTasks statusValue taskType page pageSize =>
      have kept : ∀ d : Drawer, (Drawer.serve user (.listTasks statusValue taskType page pageSize) d).2 = .kept := by
        intro d
        simp only [Drawer.serve]
        split <;> rfl
      rw [kept, kept]
  | getTaskDetail t | getTaskLogs t =>
      simp only [Drawer.serve, alike.find unique t]
      split <;> rfl
  | submitTask _ _ _ t | cancelTask _ _ t => simp only [Drawer.serve, alike.find unique t]
  | deleteTask t => simp only [Drawer.serve, alike.find unique t, alike.held t]

theorem Alike.exec {user : User} {d d' : Drawer} (alike : Alike d d') (unique : (ids d.tasks).Nodup) (call : Call) :
    Alike (Drawer.exec user call d) (Drawer.exec user call d') := by
  rw [Drawer.exec, Drawer.exec, ← alike.change unique call]
  refine ⟨?_, ?_, alike.held⟩
  · cases (Drawer.serve user call d).2 with
    | kept => exact alike.tasks
    | created task row => exact alike.tasks.append_right _
    | written t f row => exact alike.tasks.map _
    | deleted t => exact alike.tasks.filter _
  · cases (Drawer.serve user call d).2 with
    | kept => exact alike.logs
    | created task row | written t f row => exact alike.logs.append_right _
    | deleted t => exact alike.logs.filter _

section

variable {user : User} {desk desk' : Desk}

theorem view_unique : (ids (view user desk).tasks).Nodup :=
  desk.db.tasks.unique.sublist (List.filter_sublist.map _)

theorem Shuffled.fresh (shuffled : Shuffled desk desk') {call : Call} (fresh : Fresh desk call) :
    Fresh desk' call := by
  cases call with
  | createTask t now loggedAt payload =>
      rw [Fresh, Table.get_perm shuffled.tasks]
      exact fresh
  | listTasks | getTaskDetail | submitTask | cancelTask | getTaskLogs | deleteTask => trivial

theorem Shuffled.alike (shuffled : Shuffled desk desk') : Alike (view user desk') (view user desk) := by
  have tasks : (view user desk').tasks.Perm (view user desk).tasks := shuffled.tasks.filter _
  have listed : ∀ t, t ∈ ids (view user desk').tasks ↔ t ∈ ids (view user desk).tasks :=
    fun t => (tasks.map _).mem_iff
  have refers : referenced desk'.db = referenced desk.db := by
    rw [shuffled.same]
    rfl
  refine ⟨tasks, ?_, ?_⟩
  · have rows := shuffled.logs.filter fun row => row.taskId ∈ ids (view user desk').tasks
    refine rows.trans (List.Perm.of_eq (List.filter_congr ?_))
    intro row _
    exact decide_eq_decide.mpr (listed row.taskId)
  · intro t
    simp only [view, part, List.mem_filter, refers]
    exact and_congr_left fun _ => listed t

/-- What is kept by a filter can be read in any order. -/
theorem filter_reordered {α : Type} {kept : α → Bool} {l rows : List α} (perm : l.Perm (rows.filter kept)) :
    (l ++ rows.filter (!kept ·)).Perm rows ∧ (l ++ rows.filter (!kept ·)).filter kept = l := by
  constructor
  · exact (perm.append_right _).trans (List.filter_append_perm kept rows)
  · have whole : l.filter kept = l := by
      apply List.filter_eq_self.mpr
      intro row inside
      exact (List.mem_filter.mp (perm.mem_iff.mp inside)).2
    have none : (rows.filter (!kept ·)).filter kept = [] := by
      apply List.filter_eq_nil_iff.mpr
      intro row inside
      simpa using (List.mem_filter.mp inside).2
    rw [List.filter_append, whole, none, List.append_nil]

/-- A query may find the user's own rows in any order. -/
theorem exists_shuffled {d : Drawer} (alike : Alike d (view user desk)) :
    ∃ desk', Shuffled desk desk' ∧ (view user desk').tasks = d.tasks ∧ (view user desk').logs = d.logs := by
  obtain ⟨perm, own⟩ := filter_reordered alike.tasks
  obtain ⟨permLogs, ownLogs⟩ := filter_reordered alike.logs
  let tasks : Table Task.id := ⟨_, (perm.map _).nodup_iff.mpr desk.db.tasks.unique⟩
  refine ⟨{ desk with db := { desk.db with tasks }, logs := _ }, ⟨perm, permLogs, rfl⟩, own, ?_⟩
  refine Eq.trans (List.filter_congr ?_) ownLogs
  intro row _
  exact decide_eq_decide.mpr ((List.Perm.of_eq own).trans alike.tasks |>.map _).mem_iff

end

/-! ## Two stores -/

/-- The generated ids of the run are new ones. -/
def AllFresh (user : User) (calls : List Call) (desk : Desk) : Prop :=
  Runs.Along (exec user) Fresh calls desk

/-- The two stores have the same tasks of the user, the same logs of these, and the same
    nodes. -/
structure Agree (user : User) (first second : Desk) : Prop where
  tasks : (view user first).tasks.Perm (view user second).tasks
  logs : (view user first).logs.Perm (view user second).logs
  nodes : first.db.nodes = second.db.nodes

def others (user : User) (desk : Desk) : Drawer := part (fun task => !own user task) desk

/-- What can be answered in one store can be answered in the other. -/
theorem answered_alike {user : User} (plain : user.role ≠ "admin") {calls : List Call} {first second : Desk}
    (validFirst : Referential first) (validSecond : Referential second)
    (alike : Alike (view user first) (view user second)) (freshFirst : AllFresh user calls first)
    (freshSecond : AllFresh user calls second) {responses : List Response}
    (answered : Answered user calls first responses) : Answered user calls second responses := by
  induction calls generalizing first second responses with
  | nil => exact answered
  | cons call rest ih =>
      obtain ⟨first', later, shuffled, answeredLater, rfl⟩ := answered
      have read : Alike (view user first') (view user second) := shuffled.alike.trans alike
      obtain ⟨second', shuffled', tasks, logs⟩ := exists_shuffled read
      have here : answer user call second' = answer user call first' := by
        rw [(serves plain (shuffled'.fresh freshSecond.1)).answer, (serves plain (shuffled.fresh freshFirst.1)).answer]
        exact Drawer.answer_congr tasks logs (shuffled'.alike.trans read.symm).held
      refine ⟨second', later, shuffled', ?_, by rw [here]⟩
      apply ih (exec_referential plain validFirst freshFirst.1) (exec_referential plain validSecond freshSecond.1) _
        freshFirst.2 freshSecond.2 answeredLater
      rw [exec_view plain validFirst freshFirst.1, exec_view plain validSecond freshSecond.1]
      exact alike.exec view_unique call

theorem others_unchanged {user : User} (plain : user.role ≠ "admin") {desk : Desk} (valid : Referential desk)
    {calls : List Call} (fresh : AllFresh user calls desk) :
    others user (Runs.run (exec user) calls desk) = others user desk := by
  have along : Runs.Along (exec user) Fresh calls desk := fresh
  refine along.unchanged ?_ ?_ valid
  · exact fun _ _ valid fresh => exec_referential plain valid fresh
  · intro desk call _ fresh
    apply exec_part plain fresh
    intro task foreign
    exact (Bool.not_eq_true' _).mp foreign

/-- Whatever the others have, a user without the admin role can get the same answers, and
    leaves what the others have as it is. -/
theorem tenants_isolated {user : User} (plain : user.role ≠ "admin") {first second : Desk}
    (validFirst : Referential first) (validSecond : Referential second) (agree : Agree user first second)
    (held : ∀ t, t ∈ (view user first).held ↔ t ∈ (view user second).held) {calls : List Call}
    (freshFirst : AllFresh user calls first) (freshSecond : AllFresh user calls second) :
    (∀ responses, Answered user calls first responses ↔ Answered user calls second responses) ∧
      others user (Runs.run (exec user) calls first) = others user first ∧
      others user (Runs.run (exec user) calls second) = others user second := by
  refine ⟨?_, others_unchanged plain validFirst freshFirst, others_unchanged plain validSecond freshSecond⟩
  have alike : Alike (view user first) (view user second) := ⟨agree.tasks, agree.logs, held⟩
  intro responses
  exact ⟨answered_alike plain validFirst validSecond alike freshFirst freshSecond,
    answered_alike plain validSecond validFirst alike.symm freshSecond freshFirst⟩

/-! ## A user with one finished task -/

namespace Sample

def user : User := { id := "u" }

def finished : Task := { id := "t", userId := "u", status := .success }

/-- The user's task alone. -/
def alone : Desk where
  db := { tasks := .singleton finished }

/-- Beside the task of another user, who has a log. -/
def crowded : Desk where
  db := { tasks := ⟨[{ id := "s", userId := "v" }, finished], by decide⟩ }
  logs := [systemLog "s" "task created" 0]

/-- A container of the task has not been reported gone. -/
def lingering : Desk where
  db :=
    { tasks := .singleton finished
      runningContainers := .singleton { containerId := "c", nodeId := "n1", taskId := some "t" } }

theorem alone_referential : Referential alone where
  logs := by decide
  containers := by rintro _ ⟨⟩

theorem crowded_referential : Referential crowded where
  logs := by decide
  containers := by rintro _ ⟨⟩

theorem lingering_referential : Referential lingering where
  logs := by decide
  containers := by
    intro row inside t refers
    obtain rfl := List.mem_singleton.mp inside
    cases refers
    decide

def calls : List Call :=
  [.createTask "n" 1 2 { name := "job", taskType := "train", containerImage := "image", containerCommand := "run" },
    .submitTask .none "" 3 "n", .getTaskDetail "s", .listTasks (some "queued") none 1 20, .deleteTask "t"]

end Sample

theorem sample_isolated :
    (∀ responses, Answered Sample.user Sample.calls Sample.alone responses ↔
      Answered Sample.user Sample.calls Sample.crowded responses) ∧
    others Sample.user (Runs.run (exec Sample.user) Sample.calls Sample.alone) = others Sample.user Sample.alone ∧
    others Sample.user (Runs.run (exec Sample.user) Sample.calls Sample.crowded) =
      others Sample.user Sample.crowded :=
  tenants_isolated (by decide) Sample.alone_referential Sample.crowded_referential ⟨by decide, by decide, rfl⟩
    (fun _ => Iff.rfl) ⟨rfl, trivial, trivial, trivial, trivial, trivial⟩
    ⟨rfl, trivial, trivial, trivial, trivial, trivial⟩

/-- The stores differ in a container of the user's task, and in the answer to its deletion. -/
theorem container_shows : ¬ ∀ (user : User), user.role ≠ "admin" → ∀ (first second : Desk),
    Referential first → Referential second → Agree user first second →
    ∀ (calls : List Call), AllFresh user calls first → AllFresh user calls second →
    (∀ responses, Answered user calls first responses ↔ Answered user calls second responses) ∧
      others user (Runs.run (exec user) calls first) = others user first ∧
      others user (Runs.run (exec user) calls second) = others user second := by
  intro all
  have same := (all Sample.user (by decide) Sample.alone Sample.lingering Sample.alone_referential
    Sample.lingering_referential ⟨.refl _, .refl _, rfl⟩ [.deleteTask "t"] ⟨trivial, trivial⟩
    ⟨trivial, trivial⟩).1 [.deleted]
  have deleted : Answered Sample.user [.deleteTask "t"] Sample.alone [.deleted] :=
    ⟨Sample.alone, [], ⟨.refl _, .refl _, rfl⟩, rfl, by decide⟩
  obtain ⟨desk', later, shuffled, _, answered⟩ := same.mp deleted
  have read : desk'.db.tasks = Sample.lingering.db.tasks :=
    Table.ext_rows (List.perm_singleton.mp shuffled.tasks)
  rw [shuffled.same, read] at answered
  have raised : ∀ logs, answer Sample.user (.deleteTask "t") { Sample.lingering with logs } = .raised :=
    fun _ => rfl
  have refused := (List.cons.inj answered).1.trans (raised desk'.logs)
  cases refused

end SuitApi.Tenants
