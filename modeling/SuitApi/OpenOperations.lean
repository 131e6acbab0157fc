import SuitApi.Lifecycle
import SuitApi.LostUpdate

/-! # Operations that are open side by side

An operation on a task is open from its read to its commit, and any number of others
may commit meanwhile.  What it commits was decided on the row it has read.
-/

namespace SuitApi.OpenOperations

open LostUpdate Overlap Platform

/-! ## What an operation looks at -/

/-- The stores agree on what the operations on the task look at. -/
structure Agree (t : TaskId) (db db' : Database) : Prop where
  row : db.tasks.get t = db'.tasks.get t
  gpus : db.gpus = db'.gpus
  nodes : db.nodes = db'.nodes

instance (t : TaskId) (db db' : Database) : Decidable (Agree t db db') :=
  decidable_of_iff (db.tasks.get t = db'.tasks.get t ∧ db.gpus.rows = db'.gpus.rows ∧
      db.nodes.rows = db'.nodes.rows)
    ⟨fun same => ⟨same.1, Table.ext_rows same.2.1, Table.ext_rows same.2.2⟩,
      fun agree => ⟨agree.row, congrArg _ agree.gpus, congrArg _ agree.nodes⟩⟩

theorem Agree.symm {t : TaskId} {db db' : Database} (agree : Agree t db db') : Agree t db' db :=
  ⟨agree.row.symm, agree.gpus.symm, agree.nodes.symm⟩

theorem Agree.trans {t : TaskId} {db db' db'' : Database} (first : Agree t db db') (second : Agree t db' db'') :
    Agree t db db'' :=
  ⟨first.row.trans second.row, first.gpus.trans second.gpus, first.nodes.trans second.nodes⟩

theorem Agree.same {t : TaskId} {db db' : Database} (agree : Agree t db db') : Same t db db' :=
  ⟨agree.row, fun slot => congrArg (fun table => table.get slot) agree.gpus⟩

/-- The row that a commit leaves, whether it finds one or not. -/
theorem commit_get (t : TaskId) (op : TaskOp) (read current : Database) :
    (commit t op read current).tasks.get t =
      match read.tasks.get t with
      | none => current.tasks.get t
      | some row => (current.tasks.get t).map (commitRow row (effect op read row)) := by
  cases found : read.tasks.get t with
  | none => exact congrArg (fun table => table.get t) (commit_missing found op current).1
  | some row =>
      simp only [commit, found, outcome_row op found]
      rw [Table.get_update _ _ _ (commitRow_id _ _), if_pos rfl]

/-- What an operation commits depends on what it looks at. -/
theorem commit_agree {t : TaskId} (op : TaskOp) {read read' current current' : Database}
    (reads : Agree t read read') (agree : Agree t current current') :
    Agree t (commit t op read current) (commit t op read' current') where
  row := by
    rw [commit_get, commit_get, reads.row, agree.row]
    cases read'.tasks.get t with
    | none => rfl
    | some row => simp only [effect_congr reads.gpus reads.nodes]
  gpus := by
    apply commit_gpus_congr _ agree.gpus
    cases op with
    | submit | cancel | callback => rfl
    | schedule env fields =>
        simp only [granted, reads.row]
        cases read'.tasks.get t with
        | none => rfl
        | some row => simp only [launchReply_congr reads.gpus reads.nodes]
  nodes := agree.nodes

/-! ## The open operations -/

/-- What has been committed, of what an operation looks at, since it has read. -/
inductive Since where
  | nothing
  /-- The commit of one other operation on the task, which had read the same. -/
  | one (op : TaskOp)
  | more

/-- An operation between its read and its commit. -/
structure Open where
  t : TaskId
  op : TaskOp
  read : Database
  since : Since := .nothing

namespace Open

/-- How a launch ends that the operation makes. -/
def plan (o : Open) : Option (Allocation × Except String (ContainerId × Dict)) :=
  match o.op, o.read.tasks.get o.t with
  | .schedule env _, some task => launchReply env o.read task
  | _, _ => none

/-- The GPU rows that a launch has locked. -/
def locks (o : Open) : List (NodeId × Int) :=
  o.plan.elim [] fun planned => planned.1.gpuIndices.map fun index => (planned.1.nodeId, index)

def result (o : Open) (db : Database) : Database := commit o.t o.op o.read db

/-- The store has changed, by the commit of the operation `committed` or otherwise. -/
def moved (o : Open) (committed : Option Open) (db db' : Database) : Open :=
  if Agree o.t db db' then o
  else
    match committed, o.since with
    | some ⟨t, op, _, .nothing⟩, .nothing => { o with since := if t = o.t then .one op else .more }
    | _, _ => { o with since := .more }

theorem moved_same (o : Open) (committed : Option Open) (db db' : Database) :
    (o.moved committed db db').t = o.t ∧ (o.moved committed db db').op = o.op ∧
      (o.moved committed db db').read = o.read := by
  unfold moved
  split
  · exact ⟨rfl, rfl, rfl⟩
  · split <;> exact ⟨rfl, rfl, rfl⟩

end Open

/-! ## Runs -/

structure System extends World where
  opened : List Open := []

inductive Op where
  /-- Anything that reads and commits at once. -/
  | alone (op : Platform.Op)
  | read (t : TaskId) (op : TaskOp)
  | commit (i : Nat)

def takesScheduleLock : Platform.Op → Bool
  | .schedule _ | .finished _ => true
  | _ => false

/-- The schedule lock keeps the sections of the scheduler apart, and nothing writes the
    GPU rows that an open launch has locked. -/
def admitted (s : System) : Op → Bool
  | .alone op =>
      !(takesScheduleLock op && s.opened.any (·.op.schedules)) &&
        s.opened.all fun o => o.locks.all fun slot =>
          (Platform.exec op s.toWorld).db.gpus.get slot = s.db.gpus.get slot
  | .read _ op => !(op.schedules && s.opened.any (·.op.schedules))
  | .commit _ => true

/-- The lists and the containers are not looked at here; what an open operation does to
    them counts as one of the steps that change them. -/
def step : Op → System → System
  | .alone op, s =>
      { toWorld := Platform.exec op s.toWorld
        opened := s.opened.map (·.moved none s.db (Platform.exec op s.toWorld).db) }
  | .read t op, s => { s with opened := s.opened ++ [{ t, op, read := s.db }] }
  | .commit i, s =>
      match s.opened[i]? with
      | none => s
      | some mine =>
          { s with
            db := mine.result s.db
            launches := s.launches ++ mine.plan.toList.map fun _ => mine.t
            opened := (s.opened.eraseIdx i).map (·.moved (some mine) s.db (mine.result s.db)) }

def exec (op : Op) (s : System) : System := if admitted s op then step op s else s

/-! ## The property and its condition -/

/-- The guard of the operation, on the status alone. -/
def guards : TaskOp → TaskStatus → Bool
  | .submit _ _ _, status => status = .pending
  | .cancel _ _, status => status = .pending || status = .queued
  | .callback _ _, _ => true
  | .schedule _ _, status => status = .queued

def submits : TaskOp → Bool
  | .submit _ _ _ => true
  | _ => false

/-- The commit of an open operation loses nothing. -/
structure Safe (s : System) (mine : Open) : Prop where
  /-- One that nothing has overtaken leaves what it leaves alone. -/
  undisturbed : mine.since = .nothing → Same mine.t (mine.result s.db) (outcome mine.t mine.op s.db)
  /-- Two that have read the same leave the task row and the GPU rows of a serial order. -/
  serial : ∀ other, mine.since = .one other →
    Same mine.t (mine.result s.db)
        (alone (commit mine.t mine.op) (alone (commit mine.t other) mine.read)) ∨
      Same mine.t (mine.result s.db)
        (alone (commit mine.t other) (alone (commit mine.t mine.op) mine.read))
  /-- A committed status gives way only to an operation whose guard it passes. -/
  status : ∀ old new, s.row mine.t = some old → (mine.result s.db).tasks.get mine.t = some new →
    new.status ≠ old.status → guards mine.op old.status = true
  /-- The end of a task is not overwritten by the commit of its start. -/
  ended : ∀ old new, s.row mine.t = some old → (mine.result s.db).tasks.get mine.t = some new →
    old.status ∈ [TaskStatus.cancelled, .success, .failed] → mine.op.schedules = true → new.status ≠ .running
  /-- A launched task is not put back to the queue. -/
  launched : ∀ new, mine.t ∈ s.launches → (mine.result s.db).tasks.get mine.t = some new →
    submits mine.op = true → new.status ≠ .queued

def NothingLost (s : System) : Op → Prop
  | .commit i => ∀ mine, s.opened[i]? = some mine → Safe s mine
  | _ => True

/-- The committed row is still in a state for the operation, or in that which it leaves. -/
def InPlace (s : System) (mine : Open) (task : Task) : Prop :=
  ∀ now, s.row mine.t = some now →
    match mine.op with
    | .submit _ _ _ => now.status = .pending ∨ now.status = .queued
    | .cancel _ _ => now.status = .pending ∨ now.status = .queued ∨ now.status = .cancelled
    | .callback _ _ => True
    | .schedule env _ => now.status = .queued ∨ ∃ a reply, launchReply env mine.read task = some (a, reply) ∧
        now.status = if reply.isOk then .running else .failed

/-- An operation that writes finds its row in place, and is compatible with the one other
    operation that has overtaken it. -/
def Harmless (s : System) : Op → Prop
  | .commit i => ∀ mine, s.opened[i]? = some mine → ∀ task, mine.read.tasks.get mine.t = some task →
      Acts mine.op mine.read task → InPlace s mine task ∧
        ∀ other, mine.since = .one other → Acts other mine.read task →
          Compatible mine.read task other mine.op
  | _ => True

/-! ## What every run keeps -/

/-- The task has left the states from which a launch is possible. -/
def Left (task : Task) : Prop := task.status ≠ .pending ∧ task.status ≠ .queued

/-- What the operation knows of the committed store. -/
def Seen (db : Database) (o : Open) : Prop :=
  match o.since with
  | .nothing => Agree o.t o.read db
  | .one other => (other.schedules = false ∨ o.op.schedules = false) ∧
      Agree o.t (alone (commit o.t other) o.read) db
  | .more => True

structure Inv (s : System) : Prop where
  waits : ∀ t task, s.row t = some task → WaitsBlank task
  launched : ∀ t ∈ s.launches, ∃ task, s.row t = some task ∧ Left task
  reads : ∀ o ∈ s.opened, ∀ task, o.read.tasks.get o.t = some task →
    WaitsBlank task ∧ ∃ now, s.row o.t = some now ∧ (Left task → Left now)
  seen : ∀ o ∈ s.opened, Seen s.db o
  lock : s.opened.Pairwise fun a b => a.op.schedules = false ∨ b.op.schedules = false

/-! ## One commit -/

section

variable {s : System} {mine : Open}

theorem Inv.mem {i : Nat} (here : s.opened[i]? = some mine) : mine ∈ s.opened := List.mem_of_getElem? here

/-- A commit on a row that was there finds it, and leaves it. -/
theorem Inv.result_get (inv : Inv s) (inside : mine ∈ s.opened) {task : Task}
    (found : mine.read.tasks.get mine.t = some task) :
    ∃ now, s.row mine.t = some now ∧ (Left task → Left now) ∧
      (mine.result s.db).tasks.get mine.t = some (commitRow task (effect mine.op mine.read task) now) := by
  obtain ⟨_, now, here, left⟩ := inv.reads mine inside task found
  refine ⟨now, here, left, ?_⟩
  rw [World.row] at here
  rw [Open.result, commit_get, found, here]
  rfl

/-- An operation that does not write leaves the row as it is. -/
theorem result_idle (idle : ∀ task, mine.read.tasks.get mine.t = some task → ¬ Acts mine.op mine.read task) :
    (mine.result s.db).tasks.get mine.t = s.row mine.t := by
  rw [Open.result, commit_get, World.row]
  cases found : mine.read.tasks.get mine.t with
  | none => rfl
  | some task =>
      have same : commitRow task task = id := funext (commitRow_unchanged task)
      simp only [effect_idle (idle task found), same, Option.map_id, id_eq]

theorem undisturbed (seen : Seen s.db mine) (nothing : mine.since = .nothing) :
    Same mine.t (mine.result s.db) (outcome mine.t mine.op s.db) := by
  rw [Seen, nothing] at seen
  have agree := commit_agree mine.op seen (⟨rfl, rfl, rfl⟩ : Agree mine.t s.db s.db)
  exact agree.same.trans (alone_outcome mine.t mine.op s.db)

/-- The pair of an operation and the one that has overtaken it. -/
theorem serial_iff (inv : Inv s) (inside : mine ∈ s.opened) {other : TaskOp} (one : mine.since = .one other) :
    (Same mine.t (mine.result s.db)
          (alone (commit mine.t mine.op) (alone (commit mine.t other) mine.read)) ∨
        Same mine.t (mine.result s.db)
          (alone (commit mine.t other) (alone (commit mine.t mine.op) mine.read))) ↔
      ∀ task, mine.read.tasks.get mine.t = some task → Acts mine.op mine.read task →
        Acts other mine.read task → Compatible mine.read task other mine.op := by
  have seen := inv.seen mine inside
  rw [Seen, one] at seen
  obtain ⟨lock, agree⟩ := seen
  have pair : Same mine.t (mine.result s.db)
      (commit mine.t mine.op mine.read (alone (commit mine.t other) mine.read)) :=
    (commit_agree mine.op ⟨rfl, rfl, rfl⟩ agree.symm).same
  have replace : ∀ db, Same mine.t (mine.result s.db) db ↔
      Same mine.t (commit mine.t mine.op mine.read (alone (commit mine.t other) mine.read)) db :=
    fun db => ⟨pair.symm.trans, pair.trans⟩
  rw [replace, replace]
  cases found : mine.read.tasks.get mine.t with
  | none =>
      refine iff_of_true (.inl (same_of_missing found other mine.op)) ?_
      intro task here
      cases here
  | some task =>
      simp only [Option.some.injEq, forall_eq']
      by_cases acts : Acts mine.op mine.read task
      · by_cases acts' : Acts other mine.read task
        · simp only [acts, acts', forall_const]
          exact pair_iff found (inv.reads mine inside task found).1 lock acts' acts
        · refine iff_of_true (serial_of_idle _ _ found (.inl acts')) ?_
          exact fun _ both => absurd both acts'
      · refine iff_of_true (serial_of_idle _ _ found (.inr acts)) ?_
        exact fun both => absurd both acts

/-- The status that an operation commits when it writes. -/
theorem result_status (inv : Inv s) (inside : mine ∈ s.opened) {task new : Task}
    (found : mine.read.tasks.get mine.t = some task) (acts : Acts mine.op mine.read task)
    (here : (mine.result s.db).tasks.get mine.t = some new) :
    match mine.op with
    | .submit _ _ _ => new.status = .queued
    | .cancel _ _ => new.status = .cancelled
    | .callback _ _ => True
    | .schedule env _ => ∃ a reply, launchReply env mine.read task = some (a, reply) ∧
        new.status = if reply.isOk then .running else .failed := by
  obtain ⟨now, current, _, _⟩ := inv.result_get inside found
  have status : ∀ {status}, ((mine.result s.db).tasks.get mine.t).map (·.status) = some status →
      new.status = status := by
    intro status same
    rw [here] at same
    exact Option.some.inj same
  obtain ⟨t, op, read, since⟩ := mine
  cases op with
  | submit fault enqueuedAt user => exact status (stale_submit found current acts)
  | cancel at' user =>
      refine status (commit_status found current acts ?_)
      rcases acts.2 with waiting | waiting <;> rw [waiting] <;> rintro ⟨⟩
  | callback => trivial
  | schedule env fields =>
      obtain ⟨queued, a, reply, planned⟩ := launchReply_queued acts
      exact ⟨a, reply, planned, status (stale_schedule found current queued planned)⟩

/-- Where an operation writes, it keeps to its guard exactly when the row is in place. -/
theorem status_iff (inv : Inv s) (inside : mine ∈ s.opened) {task : Task}
    (found : mine.read.tasks.get mine.t = some task) (acts : Acts mine.op mine.read task) :
    (∀ old new, s.row mine.t = some old → (mine.result s.db).tasks.get mine.t = some new →
        new.status ≠ old.status → guards mine.op old.status = true) ↔ InPlace s mine task := by
  obtain ⟨now, current, _, here⟩ := inv.result_get inside found
  have status := result_status inv inside found acts here
  simp only [InPlace, current, here, Option.some.injEq, forall_eq', forall_apply_eq_imp_iff]
  generalize commitRow task (effect mine.op mine.read task) now = new at status
  cases op : mine.op with
  | submit fault enqueuedAt user =>
      simp only [op] at status
      rw [status]
      cases now.status <;> simp [guards]
  | cancel at' user =>
      simp only [op] at status
      rw [status]
      cases now.status <;> simp [guards]
  | callback => simp [guards]
  | schedule env fields =>
      simp only [op] at status
      obtain ⟨a, reply, planned, status⟩ := status
      rw [status]
      simp only [guards, planned, decide_eq_true_eq, Option.some.injEq, Prod.mk.injEq]
      constructor
      · intro keeps
        by_cases same : now.status = if reply.isOk = true then .running else .failed
        · exact .inr ⟨a, reply, ⟨rfl, rfl⟩, same⟩
        · exact .inl (keeps (Ne.symm same))
      · rintro (queued | ⟨_, _, ⟨rfl, rfl⟩, same⟩) changed
        · exact queued
        · exact absurd same.symm changed

/-- A commit is safe exactly when it is harmless. -/
theorem safe_iff (inv : Inv s) (inside : mine ∈ s.opened) :
    Safe s mine ↔ ∀ task, mine.read.tasks.get mine.t = some task → Acts mine.op mine.read task →
      InPlace s mine task ∧ ∀ other, mine.since = .one other → Acts other mine.read task →
        Compatible mine.read task other mine.op := by
  constructor
  · intro safe task found acts
    refine ⟨(status_iff inv inside found acts).mp safe.status, ?_⟩
    intro other one acts'
    exact (serial_iff inv inside one).mp (safe.serial other one) task found acts acts'
  · intro harmless
    have status : ∀ old new, s.row mine.t = some old → (mine.result s.db).tasks.get mine.t = some new →
        new.status ≠ old.status → guards mine.op old.status = true := by
      by_cases writes : ∃ task, mine.read.tasks.get mine.t = some task ∧ Acts mine.op mine.read task
      · obtain ⟨task, found, acts⟩ := writes
        exact (status_iff inv inside found acts).mpr (harmless task found acts).1
      · intro old new before after changed
        rw [result_idle fun task found acts => writes ⟨task, found, acts⟩, before] at after
        exact absurd (congrArg Task.status (Option.some.inj after)).symm changed
    refine ⟨undisturbed (inv.seen mine inside), ?_, status, ?_, ?_⟩
    · intro other one
      apply (serial_iff inv inside one).mpr
      exact fun task found acts acts' => (harmless task found acts).2 other one acts'
    · intro old new before after closed schedules running
      have changed : new.status ≠ old.status := by
        rw [running]
        rintro same
        rw [← same] at closed
        exact absurd closed (by decide)
      have queued := status old new before after changed
      cases op : mine.op with
      | schedule env fields =>
          rw [op, guards, decide_eq_true_eq] at queued
          rw [queued] at closed
          exact absurd closed (by decide)
      | submit | cancel | callback =>
          rw [op] at schedules
          cases schedules
    · intro new launched after submit queued
      obtain ⟨old, before, left⟩ := inv.launched mine.t launched
      have pending := status old new before after (by rw [queued]; exact left.2.symm)
      cases op : mine.op with
      | submit fault enqueuedAt user =>
          rw [op, guards, decide_eq_true_eq] at pending
          exact left.1 pending
      | schedule | cancel | callback =>
          rw [op] at submit
          cases submit

/-! ## What a safe commit keeps -/

theorem waits_of_left {task : Task} (pending : task.status ≠ .pending) (queued : task.status ≠ .queued) :
    WaitsBlank task := fun waiting => absurd waiting (by simp [pending, queued])


/-- A row that has left the queue does not come back by a safe commit. -/
theorem Safe.left (safe : Safe s mine) {now new : Task} (before : s.row mine.t = some now)
    (after : (mine.result s.db).tasks.get mine.t = some new) (left : Left now) : Left new := by
  by_cases changed : new.status = now.status
  · rw [Left, changed]
    exact left
  · have guard := safe.status now new before after changed
    cases op : mine.op with
    | submit =>
        rw [op, guards, decide_eq_true_eq] at guard
        exact absurd guard left.1
    | cancel =>
        rw [op, guards, Bool.or_eq_true, decide_eq_true_eq, decide_eq_true_eq] at guard
        exact absurd guard (not_or.mpr left)
    | schedule =>
        rw [op, guards, decide_eq_true_eq] at guard
        exact absurd guard left.2
    | callback at' payload =>
        rw [Open.result, commit_get] at after
        rw [World.row] at before
        cases found : mine.read.tasks.get mine.t with
        | none =>
            rw [found, before] at after
            cases after
            exact left
        | some task =>
            rw [found, before] at after
            obtain rfl := Option.some.inj after
            have own : Left (effect mine.op mine.read task) := by
              rw [op, effect_callback]
              exact ⟨(calledBack_left at' payload task).1, (calledBack_left at' payload task).2.1⟩
            rw [Left, commitRow, column]
            split
            · exact left
            · exact own

/-- A waiting row that a safe commit leaves is blank. -/
theorem Safe.waits (safe : Safe s mine) (inv : Inv s) (inside : mine ∈ s.opened) {new : Task}
    (after : (mine.result s.db).tasks.get mine.t = some new) : WaitsBlank new := by
  by_cases writes : ∃ task, mine.read.tasks.get mine.t = some task ∧ Acts mine.op mine.read task
  · obtain ⟨task, found, acts⟩ := writes
    obtain ⟨now, before, kept, here⟩ := inv.result_get inside found
    have status := result_status inv inside found acts after
    cases op : mine.op with
    | cancel =>
        simp only [op] at status
        exact waits_of_left (by rw [status]; rintro ⟨⟩) (by rw [status]; rintro ⟨⟩)
    | schedule =>
        simp only [op] at status
        obtain ⟨_, reply, _, status⟩ := status
        cases reply <;> exact waits_of_left (by rw [status]; rintro ⟨⟩) (by rw [status]; rintro ⟨⟩)
    | submit fault enqueuedAt user =>
        -- the submit finds a waiting row, and writes its status alone
        have place := (status_iff inv inside found acts).mp safe.status now before
        simp only [op] at place
        obtain ⟨node, container, result, started, finished⟩ := inv.waits _ now before place
        cases here.symm.trans after
        rw [effect_acting acts, op]
        exact fun _ => ⟨by simpa [commitRow, written, TaskService.submitted] using node,
          by simpa [commitRow, written, TaskService.submitted] using container,
          by simpa [commitRow, written, TaskService.submitted] using result,
          by simpa [commitRow, written, TaskService.submitted] using started,
          by simpa [commitRow, written, TaskService.submitted] using finished⟩
    | callback at' payload =>
        -- a callback that keeps the status has read a row that had left the queue
        have left : Left new := by
          have own : Left (effect mine.op mine.read task) := by
            rw [op, effect_callback]
            exact ⟨(calledBack_left at' payload task).1, (calledBack_left at' payload task).2.1⟩
          cases here.symm.trans after
          rw [Left, commitRow, column]
          split
          · rename_i same
            apply kept
            rw [Left, ← same]
            exact own
          · exact own
        exact waits_of_left left.1 left.2
  · rw [result_idle fun task found acts => writes ⟨task, found, acts⟩] at after
    exact inv.waits _ new after

end

/-! ## The steps -/

theorem rowStep_waits {t : TaskId} {op : Platform.Op} {old new : Option Task} {launches : Nat}
    (step : RowStep t op old new launches) (before : ∀ task, old = some task → WaitsBlank task) :
    ∀ task, new = some task → WaitsBlank task := by
  intro task here
  cases step with
  | kept => exact before task here
  | created =>
      cases here
      exact fun _ => ⟨rfl, rfl, rfl, rfl, rfl⟩
  | submitted fault enqueuedAt user pending =>
      cases here
      obtain ⟨node, container, result, started, finished⟩ := before _ rfl (.inl pending)
      exact fun _ => ⟨node, container, result, started, finished⟩
  | cleared old =>
      cases here
      intro waiting
      obtain ⟨node, container, result, started, finished⟩ := before old rfl waiting
      exact ⟨node, container, result, started, finished⟩
  | calledBack now payload old =>
      cases here
      exact waits_of_left (calledBack_left now payload old).1 (calledBack_left now payload old).2.1
  | billed rate success =>
      cases here
      apply waits_of_left
      · exact fun pending => by cases success.symm.trans pending
      · exact fun queued => by cases success.symm.trans queued
  | cancelled | started | failed | lost =>
      cases here
      exact waits_of_left (by rintro ⟨⟩) (by rintro ⟨⟩)

/-- No step of the platform takes a row away, or brings it back to the queue. -/
theorem rowStep_later {t : TaskId} {op : Platform.Op} {task : Task} {new : Option Task} {launches : Nat}
    (step : RowStep t op (some task) new launches) : ∃ now, new = some now ∧ (Left task → Left now) := by
  cases step with
  | kept => exact ⟨task, rfl, fun left => left⟩
  | submitted fault enqueuedAt user pending => exact ⟨_, rfl, fun left => absurd pending left.1⟩
  | cancelled now user waiting => exact ⟨_, rfl, fun left => absurd waiting (not_or.mpr left)⟩
  | calledBack now payload =>
      exact ⟨_, rfl, fun _ => ⟨(calledBack_left now payload task).1, (calledBack_left now payload task).2.1⟩⟩
  | started env queued | failed env queued => exact ⟨_, rfl, fun left => absurd queued left.2⟩
  | cleared | billed => exact ⟨_, rfl, fun left => left⟩
  | lost => exact ⟨_, rfl, fun _ => ⟨nofun, nofun⟩⟩

/-- A task is launched from the queue, and leaves it. -/
theorem rowStep_launched {t : TaskId} {op : Platform.Op} {old new : Option Task} {launches : Nat}
    (step : RowStep t op old new launches) (launched : 0 < launches) : ∃ now, new = some now ∧ Left now := by
  cases step with
  | started | failed => exact ⟨_, rfl, nofun, nofun⟩
  | kept | created | submitted | cancelled | calledBack | cleared | lost | billed =>
      exact absurd launched (lt_irrefl 0)

theorem Seen.moved {db db' : Database} {o : Open} (seen : Seen db o) : Seen db' (o.moved none db db') := by
  unfold Open.moved
  split
  · rename_i same
    obtain ⟨t, op, read, since⟩ := o
    cases since with
    | nothing => exact Agree.trans seen same
    | one other => exact ⟨seen.1, seen.2.trans same⟩
    | more => trivial
  · exact trivial

/-- What an open operation knows when another one has committed. -/
theorem Seen.committed {db : Database} {mine o : Open} (own : Seen db mine) (seen : Seen db o)
    (lock : mine.op.schedules = false ∨ o.op.schedules = false) :
    Seen (mine.result db) (o.moved (some mine) db (mine.result db)) := by
  unfold Open.moved
  split
  · rename_i same
    obtain ⟨t, op, read, since⟩ := o
    cases since with
    | nothing => exact Agree.trans seen same
    | one other => exact ⟨seen.1, seen.2.trans same⟩
    | more => trivial
  · obtain ⟨t, op, read, since⟩ := o
    obtain ⟨t', op', read', since'⟩ := mine
    cases since' with
    | one | more => exact trivial
    | nothing =>
        cases since with
        | one | more => exact trivial
        | nothing =>
            by_cases same : t' = t
            · subst same
              simp only [if_true, Seen]
              exact ⟨lock, commit_agree op' (Agree.trans seen own.symm) seen⟩
            · simp only [if_neg same, Seen]

/-- An element of a list is related to all the others. -/
theorem pairwise_eraseIdx {α : Type} {R : α → α → Prop} (symm : ∀ a b, R a b → R b a) {l : List α}
    (all : l.Pairwise R) {i : Nat} {a : α} (here : l[i]? = some a) : ∀ b ∈ l.eraseIdx i, R a b := by
  induction l generalizing i with
  | nil => cases here
  | cons first rest ih =>
      obtain ⟨before, later⟩ := List.pairwise_cons.mp all
      intro b inside
      cases i with
      | zero =>
          cases here
          exact before b inside
      | succ i =>
          rw [List.eraseIdx_cons_succ, List.mem_cons] at inside
          rw [List.getElem?_cons_succ] at here
          rcases inside with rfl | inside
          · exact symm _ _ (before a (List.mem_of_getElem? here))
          · exact ih later here b inside

theorem Inv.alone {s : System} (inv : Inv s) (op : Platform.Op) : Inv (step (.alone op) s) where
  waits t task here := by
    obtain ⟨launches, row, _⟩ := exec_row op s.toWorld t
    exact rowStep_waits row (inv.waits t) task here
  launched t inside := by
    obtain ⟨launches, row, count⟩ := exec_row op s.toWorld t
    have positive := List.count_pos_iff.mpr inside
    by_cases before : t ∈ s.launches
    · obtain ⟨task, found, left⟩ := inv.launched t before
      rw [World.row] at found
      rw [found] at row
      obtain ⟨now, here, kept⟩ := rowStep_later row
      exact ⟨now, here, kept left⟩
    · have none := List.count_eq_zero.mpr before
      exact rowStep_launched row (by simp only [step] at positive; omega)
  reads o inside task found := by
    obtain ⟨old, member, rfl⟩ := List.mem_map.mp inside
    obtain ⟨t, _, read⟩ := old.moved_same none s.db (Platform.exec op s.toWorld).db
    rw [t, read] at found
    obtain ⟨waits, now, here, kept⟩ := inv.reads old member task found
    obtain ⟨launches, row, _⟩ := exec_row op s.toWorld old.t
    rw [World.row] at here
    rw [here] at row
    obtain ⟨new, here', kept'⟩ := rowStep_later row
    exact ⟨waits, new, by rw [t]; exact here', fun left => kept' (kept left)⟩
  seen o inside := by
    obtain ⟨old, member, rfl⟩ := List.mem_map.mp inside
    exact (inv.seen old member).moved
  lock := by
    refine List.pairwise_map.mpr (inv.lock.imp ?_)
    intro a b apart
    rwa [(a.moved_same _ _ _).2.1, (b.moved_same _ _ _).2.1]

theorem Inv.read {s : System} (inv : Inv s) (t : TaskId) (op : TaskOp)
    (free : (op.schedules && s.opened.any (·.op.schedules)) = false) : Inv (step (.read t op) s) where
  waits := inv.waits
  launched := inv.launched
  reads o inside task found := by
    rcases List.mem_append.mp inside with old | new
    · exact inv.reads o old task found
    · obtain rfl := List.mem_singleton.mp new
      exact ⟨inv.waits t task found, task, found, fun left => left⟩
  seen o inside := by
    rcases List.mem_append.mp inside with old | new
    · exact inv.seen o old
    · obtain rfl := List.mem_singleton.mp new
      exact ⟨rfl, rfl, rfl⟩
  lock := by
    refine List.pairwise_append.mpr ⟨inv.lock, List.pairwise_singleton _ _, ?_⟩
    intro o inside new only
    obtain rfl := List.mem_singleton.mp only
    rw [Bool.and_eq_false_iff, List.any_eq_false] at free
    rcases free with other | none
    · exact .inr other
    · exact .inl (Bool.not_eq_true _ ▸ none o inside)

/-- An open launch that commits leaves a task that has left the queue. -/
theorem Inv.launching {s : System} (inv : Inv s) {mine : Open} (inside : mine ∈ s.opened)
    {planned : Allocation × Except String (ContainerId × Dict)} (launches : mine.plan = some planned) :
    ∃ new, (mine.result s.db).tasks.get mine.t = some new ∧ Left new := by
  unfold Open.plan at launches
  split at launches
  · rename_i env fields task op found
    have acts : Acts mine.op mine.read task := by
      rw [op, Acts, launches]
      rfl
    obtain ⟨now, _, _, after⟩ := inv.result_get inside found
    have status := result_status inv inside found acts after
    simp only [op] at status
    obtain ⟨_, reply, _, status⟩ := status
    refine ⟨_, after, ?_⟩
    rw [Left, op, status]
    cases reply <;> exact ⟨by rintro ⟨⟩, by rintro ⟨⟩⟩
  · cases launches

theorem Inv.commit {s : System} (inv : Inv s) {i : Nat} {mine : Open} (here : s.opened[i]? = some mine)
    (safe : Safe s mine) : Inv (step (.commit i) s) := by
  have inside := List.mem_of_getElem? here
  simp only [step, here]
  -- a row is that of the task, or as it was
  have rows : ∀ t, t = mine.t ∨ (mine.result s.db).tasks.get t = s.row t := by
    intro t
    by_cases same : t = mine.t
    · exact .inl same
    · exact .inr (commit_other same mine.op mine.read s.db)
  have kept : ∀ t now, s.row t = some now →
      ∃ new, (mine.result s.db).tasks.get t = some new ∧ (Left now → Left new) := by
    intro t now before
    rcases rows t with rfl | same
    · have after : ∃ new, (mine.result s.db).tasks.get mine.t = some new := by
        rw [World.row] at before
        rw [Open.result, commit_get, before]
        cases mine.read.tasks.get mine.t with
        | none => exact ⟨now, rfl⟩
        | some task => exact ⟨_, rfl⟩
      obtain ⟨new, after⟩ := after
      exact ⟨new, after, safe.left before after⟩
    · exact ⟨now, same.trans before, fun left => left⟩
  constructor
  case waits =>
    intro t task after
    rcases rows t with rfl | same
    · exact safe.waits inv inside after
    · exact inv.waits t task (same.symm.trans after)
  case launched =>
    intro t launched
    rcases List.mem_append.mp launched with old | new
    · obtain ⟨now, before, left⟩ := inv.launched t old
      obtain ⟨new, after, keeps⟩ := kept t now before
      exact ⟨new, after, keeps left⟩
    · obtain ⟨planned, member, rfl⟩ := List.mem_map.mp new
      exact inv.launching inside (Option.mem_toList.mp member)
  case reads =>
    intro o member task found
    obtain ⟨old, before, rfl⟩ := List.mem_map.mp member
    obtain ⟨t, _, read⟩ := old.moved_same (some mine) s.db (mine.result s.db)
    rw [t, read] at found
    obtain ⟨waits, now, there, keeps⟩ := inv.reads old (List.mem_of_mem_eraseIdx before) task found
    obtain ⟨new, after, keeps'⟩ := kept old.t now there
    exact ⟨waits, new, by rw [t]; exact after, fun left => keeps' (keeps left)⟩
  case seen =>
    intro o member
    obtain ⟨old, before, rfl⟩ := List.mem_map.mp member
    have lock := pairwise_eraseIdx (fun _ _ => Or.symm) inv.lock here old before
    exact (inv.seen mine inside).committed (inv.seen old (List.mem_of_mem_eraseIdx before)) lock
  case lock =>
    refine List.pairwise_map.mpr ((inv.lock.sublist (List.eraseIdx_sublist _ _)).imp ?_)
    intro a b apart
    rwa [(a.moved_same _ _ _).2.1, (b.moved_same _ _ _).2.1]

theorem inv_step (s : System) (op : Op) (inv : Inv s) (nothingLost : NothingLost s op) : Inv (exec op s) := by
  unfold exec
  split
  · rename_i allowed
    cases op with
    | alone op => exact inv.alone op
    | read t op => exact inv.read t op (Bool.not_eq_true' _ ▸ allowed)
    | commit i =>
        cases here : s.opened[i]? with
        | none =>
            simp only [step, here]
            exact inv
        | some mine => exact inv.commit here (nothingLost mine here)
  · exact inv

/-- In a run from the empty platform, with any number of operations open side by side,
    every commit is safe if and only if every commit is harmless. -/
theorem nothing_lost_iff (ops : List Op) :
    Runs.Along exec NothingLost ops {} ↔ Runs.Along exec Harmless ops {} := by
  apply Runs.along_congr (I := Inv) inv_step
  · intro s op inv
    cases op with
    | alone | read => exact Iff.rfl
    | commit i =>
        exact forall₂_congr fun mine here => safe_iff inv (List.mem_of_getElem? here)
  · constructor
    case waits =>
      intro t task none
      cases none
    case launched | reads | seen =>
      intro _ none
      cases none
    case lock => exact List.Pairwise.nil

/-! ## A cancellation during the launch -/

def queuedTask : List Op :=
  [.alone (Sample.beat 0 []), .alone (.create "t" 1 Sample.user Sample.payload),
    .alone (.submit .none "" Sample.user "t")]

/-- The scheduler reads the queued task and launches it; the user cancels it before the
    scheduler commits. -/
def cancelDuringLaunch : List Op :=
  [.read "t" (.schedule (Sample.env "c" 3) []), .read "t" (.cancel 2 Sample.user), .commit 1]

/-- The committed `cancelled` is overwritten by `running`. -/
theorem cancelled_overwritten : ¬ ∀ ops : List Op, Runs.Along exec NothingLost ops {} := by
  intro all
  have safe := (all (queuedTask ++ cancelDuringLaunch ++ .commit 0 :: [])).here _ rfl
  exact safe.ended _ _ rfl rfl (by decide) rfl rfl

/-- Two submits have read `pending`; the task is launched between their commits. -/
def submitAfterLaunch : List Op :=
  [.alone (Sample.beat 0 []), .alone (.create "t" 1 Sample.user Sample.payload),
    .read "t" (.submit .none "" Sample.user), .read "t" (.submit .none "" Sample.user), .commit 0,
    .read "t" (.schedule (Sample.env "c" 3) []), .commit 1]

example : ¬ NothingLost (Runs.run exec submitAfterLaunch {}) (.commit 0) := by
  intro safe
  exact (safe _ rfl).launched _ (by decide) rfl rfl rfl

end SuitApi.OpenOperations
