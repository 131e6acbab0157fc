import Mathlib.Data.List.Nodup

/-! # Tables with a primary key

Rows are kept in insertion order, as a query without `ORDER BY` would find them.
The key's uniqueness is a field of the table, so no update can break it: row
updates must preserve keys, and an insertion whose key is taken is refused.
-/

structure Table {ρ κ : Type} (key : ρ → κ) where
  rows : List ρ
  unique : (rows.map key).Nodup

namespace Table

variable {ρ κ : Type} {key : ρ → κ}

def empty : Table key := ⟨[], List.nodup_nil⟩

def singleton (r : ρ) : Table key := ⟨[r], List.nodup_singleton _⟩

/-- Replace the rows selected by `select`, keeping every key. -/
def updateWhere (t : Table key) (select : ρ → Bool) (f : ρ → ρ) (keeps : ∀ r, key (f r) = key r) :
    Table key where
  rows := t.rows.map fun r => if select r then f r else r
  unique := by
    have same : (t.rows.map fun r => if select r then f r else r).map key = t.rows.map key := by
      rw [List.map_map]
      apply List.map_congr_left
      intro r _
      simp only [Function.comp_apply]
      split
      · exact keeps r
      · rfl
    rw [same]
    exact t.unique

def deleteWhere (t : Table key) (select : ρ → Bool) : Table key where
  rows := t.rows.filter fun r => !select r
  unique := t.unique.sublist (List.filter_sublist.map key)

/-- What an update leaves alone in the rows it selects, it leaves alone. -/
theorem map_updateWhere {β : Type} (t : Table key) (select : ρ → Bool) (f : ρ → ρ)
    (keeps : ∀ r, key (f r) = key r) (g : ρ → β) (same : ∀ r ∈ t.rows, select r = true → g (f r) = g r) :
    (t.updateWhere select f keeps).rows.map g = t.rows.map g := by
  rw [updateWhere, List.map_map]
  apply List.map_congr_left
  intro r inside
  rw [Function.comp_apply]
  split
  · rename_i selected
    exact same r inside selected
  · rfl

theorem ext_rows {first second : Table key} (same : first.rows = second.rows) : first = second := by
  cases first
  cases second
  cases same
  rfl

theorem deleteWhere_rows (t : Table key) (select : ρ → Bool) :
    (t.deleteWhere select).rows = t.rows.filter fun r => !select r := rfl

theorem deleteWhere_same {t : Table key} {select : ρ → Bool} (none : ∀ r ∈ t.rows, select r = false) :
    t.deleteWhere select = t := by
  apply ext_rows
  apply List.filter_eq_self.mpr
  intro r inside
  rw [none r inside]
  rfl

theorem updateWhere_same {t : Table key} {select : ρ → Bool} {f : ρ → ρ} (keeps : ∀ r, key (f r) = key r)
    (fixed : ∀ r ∈ t.rows, select r = true → f r = r) : t.updateWhere select f keeps = t := by
  apply ext_rows
  refine (List.map_congr_left fun r inside => ?_).trans (List.map_id _)
  split
  · rename_i selected
    exact fixed r inside selected
  · rfl

/-- An update that undoes another one in the rows it has changed restores the table. -/
theorem updateWhere_undo (t : Table key) (select : ρ → Bool) (f g : ρ → ρ) (keepsF : ∀ r, key (f r) = key r)
    (keepsG : ∀ r, key (g r) = key r) (stays : ∀ r, select (f r) = select r)
    (undoes : ∀ r ∈ t.rows, select r = true → g (f r) = r) :
    (t.updateWhere select f keepsF).updateWhere select g keepsG = t := by
  apply ext_rows
  have twice : ((t.updateWhere select f keepsF).updateWhere select g keepsG).rows =
      (t.rows.map fun r => if select r then f r else r).map fun r => if select r then g r else r := rfl
  rw [twice, List.map_map]
  refine (List.map_congr_left fun r inside => ?_).trans (List.map_id _)
  cases selected : select r with
  | false => simp [selected]
  | true => simp [selected, stays, undoes r inside selected]

variable [DecidableEq κ]

def get (t : Table key) (k : κ) : Option ρ := t.rows.find? fun r => key r = k

/-- Update the row with the given key, if there is one. -/
def update (t : Table key) (k : κ) (f : ρ → ρ) (keeps : ∀ r, key (f r) = key r) : Table key :=
  t.updateWhere (fun r => key r = k) f keeps

/-- Insert a row; the key constraint refuses one whose key is taken. -/
def insert? (t : Table key) (r : ρ) : Option (Table key) :=
  if fresh : key r ∈ t.rows.map key then none
  else some ⟨t.rows ++ [r], by
    rw [List.map_append, List.map_singleton]
    exact List.nodup_append.mpr ⟨t.unique, List.nodup_singleton _, fun a ha b hb same => by
      rw [List.mem_singleton] at hb
      subst hb
      subst same
      exact fresh ha⟩⟩

theorem get_eq_some {t : Table key} {k : κ} {r : ρ} :
    t.get k = some r ↔ r ∈ t.rows ∧ key r = k := by
  constructor
  · intro found
    exact ⟨List.mem_of_find?_eq_some found, by simpa using List.find?_some found⟩
  · rintro ⟨member, rfl⟩
    cases found : t.get (key r) with
    | none =>
        have := List.find?_eq_none.mp found r member
        simp at this
    | some other =>
        have inside : other ∈ t.rows := List.mem_of_find?_eq_some found
        have same : key other = key r := by simpa using List.find?_some found
        rw [List.inj_on_of_nodup_map t.unique inside member same]

/-- What is stored under a key does not depend on the order of the rows. -/
theorem get_perm {t t' : Table key} (same : t.rows.Perm t'.rows) (k : κ) : t.get k = t'.get k := by
  ext r
  rw [get_eq_some, get_eq_some, same.mem_iff]

theorem get_eq_none {t : Table key} {k : κ} : t.get k = none ↔ ∀ r ∈ t.rows, key r ≠ k := by
  simp [get]

theorem key_of_get {t : Table key} {k : κ} {r : ρ} (found : t.get k = some r) : key r = k :=
  (get_eq_some.mp found).2

theorem mem_of_get {t : Table key} {k : κ} {r : ρ} (found : t.get k = some r) : r ∈ t.rows :=
  (get_eq_some.mp found).1

theorem get_of_mem {t : Table key} {r : ρ} (member : r ∈ t.rows) : t.get (key r) = some r :=
  get_eq_some.mpr ⟨member, rfl⟩

theorem get_updateWhere (t : Table key) (select : ρ → Bool) (f : ρ → ρ)
    (keeps : ∀ r, key (f r) = key r) (k : κ) :
    (t.updateWhere select f keeps).get k = (t.get k).map fun r => if select r then f r else r := by
  cases found : t.get k with
  | none =>
      rw [get_eq_none] at found
      rw [Option.map_none, get_eq_none]
      intro r member
      obtain ⟨old, inside, rfl⟩ := List.mem_map.mp member
      split
      · rw [keeps]
        exact found old inside
      · exact found old inside
  | some r =>
      obtain ⟨inside, rfl⟩ := get_eq_some.mp found
      rw [Option.map_some, get_eq_some]
      refine ⟨List.mem_map.mpr ⟨r, inside, rfl⟩, ?_⟩
      split
      · exact keeps r
      · rfl

theorem get_update (t : Table key) (k : κ) (f : ρ → ρ) (keeps : ∀ r, key (f r) = key r) (k' : κ) :
    (t.update k f keeps).get k' = if k' = k then (t.get k').map f else t.get k' := by
  rw [update, get_updateWhere]
  cases found : t.get k' with
  | none => simp
  | some r =>
      have here := key_of_get found
      by_cases same : k' = k <;> simp [here, same]

theorem get_insert? {t t' : Table key} {r : ρ} (done : t.insert? r = some t') (k : κ) :
    t'.get k = if k = key r then some r else t.get k := by
  unfold insert? at done
  split at done
  · cases done
  · rename_i fresh
    cases done
    by_cases same : k = key r
    · subst same
      rw [if_pos rfl, get_eq_some]
      exact ⟨List.mem_append_right _ (List.mem_singleton_self _), rfl⟩
    · rw [if_neg same]
      simp [get, List.find?_append, Ne.symm same]

theorem insert?_rows {t t' : Table key} {r : ρ} (done : t.insert? r = some t') :
    t'.rows = t.rows ++ [r] := by
  unfold insert? at done
  split at done
  · cases done
  · cases done
    rfl

theorem insert?_fresh {t t' : Table key} {r : ρ} (done : t.insert? r = some t') :
    t.get (key r) = none := by
  unfold insert? at done
  split at done
  · cases done
  · rename_i fresh
    rw [get_eq_none]
    intro old inside same
    exact fresh (List.mem_map.mpr ⟨old, inside, same⟩)

theorem insert?_isSome {t : Table key} {r : ρ} (fresh : t.get (key r) = none) :
    ∃ t', t.insert? r = some t' := by
  have outside : key r ∉ t.rows.map key := by
    intro taken
    obtain ⟨old, inside, same⟩ := List.mem_map.mp taken
    exact get_eq_none.mp fresh old inside same
  exact ⟨_, by rw [insert?, dif_neg outside]⟩

theorem get_deleteWhere (t : Table key) (select : ρ → Bool) (k : κ) :
    (t.deleteWhere select).get k = (t.get k).filter fun r => !select r := by
  cases found : t.get k with
  | none =>
      rw [get_eq_none] at found
      rw [Option.filter_none, get_eq_none]
      exact fun r member => found r (List.mem_of_mem_filter member)
  | some r =>
      obtain ⟨inside, rfl⟩ := get_eq_some.mp found
      cases hit : select r with
      | false =>
          rw [Option.filter_some, hit]
          exact get_of_mem (List.mem_filter.mpr ⟨inside, by rw [hit]; rfl⟩)
      | true =>
          rw [Option.filter_some, hit]
          apply get_eq_none.mpr
          intro other member same
          have inside' := List.mem_of_mem_filter member
          rw [List.inj_on_of_nodup_map t.unique inside' inside same] at member
          simpa [hit] using (List.mem_filter.mp member).2

theorem rows_eq_filterMap (t : Table key) : t.rows = (t.rows.map key).filterMap t.get := by
  have each : t.rows.filterMap (t.get ∘ key) = t.rows.filterMap some := by
    apply List.filterMap_congr
    intro r inside
    exact get_of_mem inside
  rw [List.filterMap_map, each, List.filterMap_some]

/-- Tables with the same keys in the same order and the same row under each key are the same. -/
theorem ext_get {first second : Table key} (keys : first.rows.map key = second.rows.map key)
    (same : ∀ k, first.get k = second.get k) : first = second := by
  apply ext_rows
  rw [rows_eq_filterMap first, rows_eq_filterMap second, keys]
  apply List.filterMap_congr
  intro k _
  exact same k

/-! ## The row with a given key among the others -/

section

variable {t : Table key} {before after : List ρ} {r : ρ}

omit [DecidableEq κ] in
theorem key_ne_of_split (split : t.rows = before ++ r :: after) {x : ρ} (other : x ∈ before ++ after) :
    key x ≠ key r := by
  have distinct := t.unique
  rw [split, List.map_append, List.map_cons, List.nodup_middle, List.nodup_cons, ← List.map_append] at distinct
  intro same
  exact distinct.1 (same ▸ List.mem_map_of_mem other)

/-- Deleting a row by its key leaves the others in place. -/
theorem deleteWhere_rows_of_split (split : t.rows = before ++ r :: after) :
    (t.deleteWhere fun x => key x = key r).rows = before ++ after := by
  have kept : (before ++ after).filter (fun x => !decide (key x = key r)) = before ++ after := by
    apply List.filter_eq_self.mpr
    intro x inside
    simpa using key_ne_of_split split inside
  rw [List.filter_append] at kept
  simpa [deleteWhere, split] using kept

/-- Updating a row by its key leaves the others as they are. -/
theorem update_rows_of_split (split : t.rows = before ++ r :: after) (f : ρ → ρ)
    (keeps : ∀ x, key (f x) = key x) : (t.update (key r) f keeps).rows = before ++ f r :: after := by
  have kept : ∀ rows : List ρ, (∀ x ∈ rows, x ∈ before ++ after) →
      rows.map (fun x => if decide (key x = key r) = true then f x else x) = rows := by
    intro rows inside
    refine (List.map_congr_left fun x member => ?_).trans (List.map_id rows)
    rw [if_neg (by simpa using key_ne_of_split split (inside x member)), id]
  have whole : (t.update (key r) f keeps).rows =
      t.rows.map fun x => if decide (key x = key r) = true then f x else x := rfl
  rw [whole, split, List.map_append, List.map_cons,
    kept before fun x => List.mem_append_left after, kept after fun x => List.mem_append_right before]
  simp

end

end Table
