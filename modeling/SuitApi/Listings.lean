import SuitApi.Library.Pages
import SuitApi.TaskDesk

/-! # Listings in pages

`list_tasks` and `list_billing_records` cut one page from a sorted query.  Every page
comes from a query of its own, and rows that are equal in its order may change places.
-/

namespace SuitApi

/-! ## list_tasks -/

namespace TaskService

/-- The filters of the query that the caller chooses. -/
def selects (statusValue taskType : Option String) (task : Task) : Bool :=
  (truthyText statusValue).all (fun text => task.status.text = text) &&
    (truthyText taskType).all fun text => task.taskType = some text

/-- The rows that `list_tasks` counts and selects. -/
def matching (user : User) (statusValue taskType : Option String) (db : Database) : List Task :=
  if user.role ≠ "admin" then
    (db.tasks.rows.filter fun task => task.userId = user.id).filter (selects statusValue taskType)
  else db.tasks.rows.filter (selects statusValue taskType)

/-- `ORDER BY created_at DESC`. -/
def newestFirst (task : Task) : Intᵒᵈ := OrderDual.toDual task.createdAt

/-- The items of a page, from the rows in the order in which the database returns them. -/
def listItems (page pageSize : Int) (answer : List Task) : Option (List TaskRead) := do
  let shown ← window ((page - 1) * pageSize) pageSize answer
  shown.mapM TaskRead.modelValidate

theorem pageOf_eq (statusValue taskType : Option String) (page pageSize : Int) (rows : List Task) :
    pageOf statusValue taskType page pageSize rows =
      (listItems page pageSize ((rows.filter (selects statusValue taskType)).insertionSort
        fun a b => newestFirst a ≤ newestFirst b)).map fun items =>
          (items, (rows.filter (selects statusValue taskType)).length) := by
  unfold pageOf listItems
  simp only [newestFirst, OrderDual.toDual_le_toDual, Option.bind_eq_bind, Option.pure_def, Option.map_eq_bind,
    Option.bind_assoc, Function.comp_def]
  rfl

/-- `listTasks` is `list_tasks` on a database that leaves equal rows in the order of the
    table. -/
theorem listTasks_eq (user : User) (statusValue taskType : Option String) (page pageSize : Int) (db : Database) :
    listTasks user statusValue taskType page pageSize db =
      (listItems page pageSize ((matching user statusValue taskType db).insertionSort
        fun a b => newestFirst a ≤ newestFirst b)).map fun items =>
          (items, (matching user statusValue taskType db).length) := by
  unfold listTasks matching
  split <;> exact pageOf_eq statusValue taskType page pageSize _

end TaskService

/-! ## list_billing_records -/

/-- A row of `billing_records` with the number that the database gives it. -/
structure BillingRow extends BillingRecord where
  id : Int
  deriving Repr, DecidableEq

/-- The database with the numbers of the billing records. -/
structure Accounts where
  db : Database
  billing : Table BillingRow.id
  same : billing.rows.map (·.toBillingRecord) = db.billingRecords

namespace BillingService

def twoDigits (n : Int) : String := if n < 10 then s!"0{n}" else s!"{n}"

def formatDuration (durationSeconds : Int) : String :=
  let hours := max durationSeconds 0 / 3600
  let remainder := max durationSeconds 0 % 3600
  let minutes := remainder / 60
  let seconds := remainder % 60
  if hours ≠ 0 then s!"{hours}h" ++ twoDigits minutes ++ "m"
  else if minutes ≠ 0 then s!"{minutes}m" ++ twoDigits seconds ++ "s"
  else s!"{seconds}s"

structure BillingItem where
  id : Int
  taskId : Option TaskId
  taskName : Option String
  resourceType : String
  gpuModel : Option String
  durationSeconds : Int
  durationDisplay : String
  cost : ℚ
  createdAt : Time
  deriving Repr, DecidableEq

/-- The item of a row, joined with the name of its task. -/
def billingItem (tasks : Table Task.id) (row : BillingRow) : BillingItem where
  id := row.id
  taskId := row.taskId
  taskName := (row.taskId.bind tasks.get).map (·.name)
  resourceType := row.resourceType
  gpuModel := row.gpuModel
  durationSeconds := row.durationSeconds
  durationDisplay := formatDuration row.durationSeconds
  cost := row.costCredits
  createdAt := row.createdAt

structure BillingPage where
  items : List BillingItem
  total : Nat
  page : Int
  pageSize : Int
  deriving Repr, DecidableEq

def billingOf (user : User) (accounts : Accounts) : List BillingRow :=
  accounts.billing.rows.filter fun row => row.userId = user.id

/-- `ORDER BY created_at DESC, id DESC`. -/
def latestFirst (row : BillingRow) : Lex (Intᵒᵈ × Intᵒᵈ) :=
  toLex (OrderDual.toDual row.createdAt, OrderDual.toDual row.id)

def listBillingRecords (user : User) (page pageSize : Int) (accounts : Accounts) (answer : List BillingRow) :
    Option BillingPage := do
  let page := max page 1
  let pageSize := max (min pageSize 100) 1
  let shown ← TaskService.window ((page - 1) * pageSize) pageSize answer
  return {
    items := shown.map (billingItem accounts.db.tasks)
    total := (billingOf user accounts).length
    page
    pageSize }

end BillingService

namespace Listings

open TaskService BillingService

/-! ## The pages of one listing -/

/-- What the pages are to hold: pages 1 up to the last one every row once, read as an
    item, and the page `beyond` nothing. -/
def Partitioned {ρ ι κ : Type} [LinearOrder κ] (key : ρ → κ) (read : ρ → Option ι)
    (items : Int → List ρ → Option (List ι)) (rows : List ρ) (pageSize beyond : Int) : Prop :=
  ∀ answers : Int → List ρ, (∀ page, Pages.Answer key rows (answers page)) →
    (∃ shown whole, ((List.range (Pages.pages pageSize.toNat rows.length)).mapM fun i : Nat =>
        items (i + 1) (answers (i + 1))) = some shown ∧ rows.mapM read = some whole ∧ shown.flatten.Perm whole) ∧
      items beyond (answers beyond) = some []

section

variable {ρ ι : Type} {read : ρ → Option ι}

theorem mapM_eq_map {f : ρ → ι} {rows : List ρ} (each : ∀ row ∈ rows, read row = some (f row)) :
    rows.mapM read = some (rows.map f) := by
  induction rows with
  | nil => rfl
  | cons row rest ih =>
      rw [List.mapM_cons, each row List.mem_cons_self,
        ih fun other inside => each other (List.mem_cons_of_mem _ inside)]
      rfl

theorem mapM_of_isSome {rows : List ρ} (all : ∀ row ∈ rows, (read row).isSome = true) :
    rows.mapM read = some (rows.filterMap read) := by
  induction rows with
  | nil => rfl
  | cons row rest ih =>
      obtain ⟨item, found⟩ := Option.isSome_iff_exists.mp (all row List.mem_cons_self)
      rw [List.mapM_cons, found, ih fun other inside => all other (List.mem_cons_of_mem _ inside),
        List.filterMap_cons_some found]
      rfl

/-- Items that name their rows have the names of the rows. -/
theorem map_filterMap_names {ν : Type} {rowName : ρ → ν} {itemName : ι → ν}
    (named : ∀ row item, read row = some item → itemName item = rowName row) {rows : List ρ}
    (all : ∀ row ∈ rows, (read row).isSome = true) : (rows.filterMap read).map itemName = rows.map rowName := by
  induction rows with
  | nil => rfl
  | cons row rest ih =>
      obtain ⟨item, found⟩ := Option.isSome_iff_exists.mp (all row List.mem_cons_self)
      rw [List.filterMap_cons_some found, List.map_cons, List.map_cons, named row item found,
        ih fun other inside => all other (List.mem_cons_of_mem _ inside)]

theorem isSome_of_mapM {rows : List ρ} {items : List ι} (done : rows.mapM read = some items) :
    ∀ row ∈ rows, (read row).isSome = true := by
  induction rows generalizing items with
  | nil => simp
  | cons row rest ih =>
      rw [List.mapM_cons] at done
      obtain ⟨item, found, more⟩ := Option.bind_eq_some_iff.mp done
      obtain ⟨others, later, _⟩ := Option.bind_eq_some_iff.mp more
      intro other inside
      rcases List.mem_cons.mp inside with rfl | inside
      · rw [found]
        rfl
      · exact ih later other inside

/-- A page whose rows can all be read. -/
theorem window_page {pageSize : Int} (positive : 1 ≤ pageSize) (bound : pageSize ≤ 100) (rows : List ρ) {i : Nat}
    (small : i * pageSize < 2 ^ 63) :
    window (((i : Int) + 1 - 1) * pageSize) pageSize rows = some (Pages.page pageSize.toNat rows i) := by
  obtain ⟨size, rfl⟩ := Int.eq_ofNat_of_zero_le (by omega : 0 ≤ pageSize)
  have offset : 0 ≤ (i : Int) * size := Int.mul_nonneg (by omega) (by omega)
  have place : ((i : Int) * size).toNat = i * size := by rw [← Int.natCast_mul, Int.toNat_natCast]
  rw [window, Int.add_sub_cancel, if_pos ⟨⟨offset, small⟩, by omega, by omega⟩, place, Int.toNat_natCast]
  rfl

/-! ## When they do -/

variable {κ : Type} [LinearOrder κ] {key : ρ → κ} {items : Int → List ρ → Option (List ι)} {rows : List ρ}
  {pageSize beyond : Int}

/-- The listing cuts its pages with `OFFSET` and `LIMIT` and reads their rows. -/
def Cuts (read : ρ → Option ι) (items : Int → List ρ → Option (List ι)) (pageSize : Int) : Prop :=
  ∀ page answer, 1 ≤ page → items page answer = (window ((page - 1) * pageSize) pageSize answer).bind (·.mapM read)

theorem page_rows {l : List ρ} (answer : Pages.Answer key rows l) {size i : Nat} :
    ∀ row ∈ Pages.page size l i, row ∈ rows :=
  fun _ inside => answer.perm.mem_iff.mp (List.mem_of_mem_drop (List.mem_of_mem_take inside))

theorem items_page (cuts : Cuts read items pageSize) (positive : 1 ≤ pageSize) (bound : pageSize ≤ 100)
    (all : ∀ row ∈ rows, (read row).isSome = true) {l : List ρ} (answer : Pages.Answer key rows l) {i : Nat}
    (small : i * pageSize < 2 ^ 63) :
    items (i + 1) l = some ((Pages.page pageSize.toNat l i).filterMap read) := by
  rw [cuts _ _ (by omega), window_page positive bound l small, Option.bind_some, mapM_of_isSome]
  exact fun row inside => all row (page_rows answer row inside)

/-- The pages together show the rows that were cut. -/
theorem pages_shown (cuts : Cuts read items pageSize) (positive : 1 ≤ pageSize) (bound : pageSize ≤ 100)
    (all : ∀ row ∈ rows, (read row).isSome = true) {answers : Int → List ρ}
    (valid : ∀ page, Pages.Answer key rows (answers page)) {n : Nat} (small : ∀ i < n, i * pageSize < 2 ^ 63) :
    ∃ shown, ((List.range n).mapM fun i : Nat => items (i + 1) (answers (i + 1))) = some shown ∧
      shown.flatten =
        ((List.range n).flatMap fun i : Nat => Pages.page pageSize.toNat (answers (i + 1)) i).filterMap read := by
  refine ⟨_, mapM_eq_map fun i inside =>
    items_page cuts positive bound all (valid (i + 1)) (small i (List.mem_range.mp inside)), ?_⟩
  rw [← List.flatMap_def, List.filterMap_flatMap]

/-- With items that name their rows, the pages hold every row once exactly when every row
    can be read, no page ends between two rows that are equal in the order, and the
    database takes the offset of the page beyond the last. -/
theorem partitioned_iff {ν : Type} (cuts : Cuts read items pageSize) (positive : 1 ≤ pageSize)
    (bound : pageSize ≤ 100) {rowName : ρ → ν} {itemName : ι → ν}
    (named : ∀ row item, read row = some item → itemName item = rowName row)
    (distinct : (rows.map rowName).Nodup) (past : Pages.pages pageSize.toNat rows.length < beyond) :
    Partitioned key read items rows pageSize beyond ↔
      (∀ row ∈ rows, (read row).isSome = true) ∧ (∀ i, ¬ Pages.Parts key rows (i * pageSize.toNat)) ∧
        (beyond - 1) * pageSize < 2 ^ 63 := by
  have size : 0 < pageSize.toNat := by omega
  obtain ⟨last, rfl⟩ : ∃ last : Nat, beyond = last + 1 := ⟨(beyond - 1).toNat, by omega⟩
  rw [Int.add_sub_cancel]
  have small : last * pageSize < 2 ^ 63 → ∀ i < Pages.pages pageSize.toNat rows.length, i * pageSize < 2 ^ 63 := by
    intro offset i inside
    have order : (i : Int) * pageSize ≤ last * pageSize := Int.mul_le_mul_of_nonneg_right (by omega) (by omega)
    omega
  constructor
  · intro partitioned
    obtain ⟨l, answer⟩ := Pages.exists_answer key rows
    obtain ⟨⟨_, whole, _, read_, _⟩, empty⟩ := partitioned (fun _ => l) fun _ => answer
    have all := isSome_of_mapM read_
    have offset : last * pageSize < 2 ^ 63 := by
      by_contra far
      rw [cuts _ _ (by omega), Int.add_sub_cancel, window, if_neg fun fits => far fits.1.2] at empty
      cases empty
    refine ⟨all, ?_, offset⟩
    intro i parts
    obtain ⟨answers, valid, twice⟩ := Pages.exists_twice size parts
    have valid' : ∀ page : Int, Pages.Answer key rows (answers (page - 1).toNat) := fun _ => valid _
    obtain ⟨⟨shown, items', done, read', perm⟩, _⟩ := partitioned _ valid'
    obtain ⟨shown', done', flat⟩ := pages_shown cuts positive bound all valid' (small offset)
    cases done.symm.trans done'
    cases read'.symm.trans (mapM_of_isSome all)
    have number : ∀ i : Nat, ((i : Int) + 1 - 1).toNat = i := by omega
    simp only [number] at flat
    -- the names of the rows that are cut are those of the listing, each once
    rw [flat] at perm
    have names := perm.map itemName
    rw [map_filterMap_names named all, map_filterMap_names named] at names
    · exact twice (names.nodup_iff.mpr distinct).of_map
    · intro row inside
      obtain ⟨i, _, here⟩ := List.mem_flatMap.mp inside
      exact all row (page_rows (valid i) row here)
  · rintro ⟨all, whole, offset⟩ answers valid
    obtain ⟨shown, done, flat⟩ := pages_shown cuts positive bound all valid (small offset)
    refine ⟨⟨shown, rows.filterMap read, done, mapM_of_isSome all, ?_⟩, ?_⟩
    · rw [flat]
      exact (Pages.flatMap_page_perm distinct.of_map size whole fun i => valid (i + 1)).filterMap read
    · have far : Pages.pages pageSize.toNat rows.length ≤ last := by omega
      have none := (valid (last + 1)).page_beyond size far
      rw [items_page cuts positive bound all (valid (last + 1)) offset, none]
      rfl

end

/-! ## The two listings -/

theorem matching_distinct (user : User) (statusValue taskType : Option String) (db : Database) :
    ((matching user statusValue taskType db).map (·.id)).Nodup := by
  have part : (matching user statusValue taskType db).Sublist db.tasks.rows := by
    unfold matching
    split
    · exact List.filter_sublist.trans List.filter_sublist
    · exact List.filter_sublist
  exact db.tasks.unique.sublist (part.map _)

theorem modelValidate_id {task : Task} {read : TaskRead} (valid : TaskRead.modelValidate task = some read) :
    read.id = task.id := by
  unfold TaskRead.modelValidate at valid
  obtain ⟨_, _, valid⟩ := Option.bind_eq_some_iff.mp valid
  obtain ⟨_, _, valid⟩ := Option.bind_eq_some_iff.mp valid
  obtain ⟨_, _, valid⟩ := Option.bind_eq_some_iff.mp valid
  cases valid
  rfl

theorem tasks_cut (pageSize : Int) :
    Cuts TaskRead.modelValidate (fun page => listItems page pageSize) pageSize := fun _ _ _ => rfl

/-- The numbers of the records break all ties. -/
theorem latestFirst_distinct (user : User) (accounts : Accounts) :
    ((billingOf user accounts).map latestFirst).Nodup := by
  have ids : ((billingOf user accounts).map (·.id)).Nodup :=
    accounts.billing.unique.sublist (List.filter_sublist.map _)
  apply List.Nodup.of_map fun key => OrderDual.ofDual (ofLex key).2
  rw [List.map_map]
  exact ids

theorem records_cut (user : User) (accounts : Accounts) {pageSize : Int} (positive : 1 ≤ pageSize)
    (bound : pageSize ≤ 100) :
    Cuts (fun row => some (billingItem accounts.db.tasks row))
      (fun page answer => (listBillingRecords user page pageSize accounts answer).map (·.items)) pageSize := by
  intro page answer first
  have size : max (min pageSize 100) 1 = pageSize := by omega
  have number : max page 1 = page := by omega
  have items : ∀ rows : List BillingRow, (rows.mapM fun row => some (billingItem accounts.db.tasks row)) =
      some (rows.map (billingItem accounts.db.tasks)) := fun rows => mapM_eq_map fun _ _ => rfl
  simp only [listBillingRecords, size, number, items]
  cases window ((page - 1) * pageSize) pageSize answer <;> rfl

/-- The pages of `list_tasks` hold every matching task once, and those beyond the last
    nothing, if and only if every matching task has the columns that an item demands, no
    page ends between two tasks created at the same time, and the offset beyond the last page
    is one that the database takes.  Those of `list_billing_records` do under the last
    condition alone. -/
theorem pages_partition_iff (user : User) (statusValue taskType : Option String) (accounts : Accounts)
    {pageSize : Int} (positive : 1 ≤ pageSize) (bound : pageSize ≤ 100) {beyond beyond' : Int}
    (past : Pages.pages pageSize.toNat (matching user statusValue taskType accounts.db).length < beyond)
    (past' : Pages.pages pageSize.toNat (billingOf user accounts).length < beyond') :
    (Partitioned newestFirst TaskRead.modelValidate (fun page => listItems page pageSize)
        (matching user statusValue taskType accounts.db) pageSize beyond ↔
      (∀ task ∈ matching user statusValue taskType accounts.db, (TaskRead.modelValidate task).isSome = true) ∧
        (∀ i, ¬ Pages.Parts newestFirst (matching user statusValue taskType accounts.db) (i * pageSize.toNat)) ∧
        (beyond - 1) * pageSize < 2 ^ 63) ∧
    (Partitioned latestFirst (fun row => some (billingItem accounts.db.tasks row))
        (fun page answer => (listBillingRecords user page pageSize accounts answer).map (·.items))
        (billingOf user accounts) pageSize beyond' ↔
      (beyond' - 1) * pageSize < 2 ^ 63) := by
  constructor
  · exact partitioned_iff (tasks_cut pageSize) positive bound (fun _ _ => modelValidate_id)
      (matching_distinct user statusValue taskType accounts.db) past
  · have distinct := latestFirst_distinct user accounts
    have named : ∀ row item, some (billingItem accounts.db.tasks row) = some item →
        toLex (OrderDual.toDual item.createdAt, OrderDual.toDual item.id) = latestFirst row := by
      rintro row _ ⟨⟩
      rfl
    rw [partitioned_iff (records_cut user accounts positive bound) positive bound named distinct past']
    have all : ∀ row ∈ billingOf user accounts, (some (billingItem accounts.db.tasks row)).isSome = true :=
      fun _ _ => rfl
    rw [and_iff_right all, and_iff_right fun i => Pages.not_parts distinct _]

namespace Sample

/-- Two tasks created at the same time. -/
def task (t : TaskId) : Task where
  id := t
  userId := "u"
  taskType := some "train"
  containerImage := some "image"
  containerCommand := some "run"

def user : User := { id := "u" }

def accounts : Accounts where
  db := { tasks := ⟨[task "s", task "t"], by decide⟩ }
  billing := .empty
  same := rfl

/-- On a page of two they stand together. -/
theorem sample_partitioned :
    Partitioned newestFirst TaskRead.modelValidate (fun page => listItems page 2)
      (matching user none none accounts.db) 2 2 := by
  have whole : ∀ i, ¬ Pages.Parts newestFirst (matching user none none accounts.db) (i * (2 : Int).toNat) := by
    intro i parts
    obtain ⟨positive, inside⟩ := parts.inside
    have length : (matching user none none accounts.db).length = 2 := by decide
    have size : (2 : Int).toNat = 2 := rfl
    rw [size] at positive inside
    omega
  have cut := pages_partition_iff user none none accounts (show (1 : Int) ≤ 2 by omega) (by omega)
    (show _ < (2 : Int) by decide) (show _ < (1 : Int) by decide)
  exact cut.1.mpr ⟨by decide, whole, by omega⟩

/-- On pages of one, the first page may show the one and the second page as well. -/
theorem ties_repeat : ¬ ∀ (user : User) (statusValue taskType : Option String) (accounts : Accounts)
    (pageSize beyond : Int), 1 ≤ pageSize → pageSize ≤ 100 →
    Pages.pages pageSize.toNat (matching user statusValue taskType accounts.db).length < beyond →
    (beyond - 1) * pageSize < 2 ^ 63 →
    (∀ task ∈ matching user statusValue taskType accounts.db, (TaskRead.modelValidate task).isSome = true) →
    Partitioned newestFirst TaskRead.modelValidate (fun page => listItems page pageSize)
      (matching user statusValue taskType accounts.db) pageSize beyond := by
  intro always
  have partitioned := always user none none accounts 1 3 (by omega) (by omega) (by decide) (by omega) (by decide)
  have whole := ((partitioned_iff (tasks_cut 1) (by omega) (by omega) (fun _ _ => modelValidate_id)
    (matching_distinct user none none accounts.db) (by decide)).mp partitioned).2.1 1
  exact whole ⟨task "s", by decide, by decide, by decide⟩

end Sample

end Listings

end SuitApi
