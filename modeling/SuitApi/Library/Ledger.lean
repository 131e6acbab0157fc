import Mathlib.Logic.ExistsUnique
import Mathlib.Logic.Basic

/-! # Ownership ledgers

The purpose of an allocator, in its own terms: every resource has at most one
owner; a client claims resources nobody owns and drops all that it owns.

A concrete system usually keeps the ledger twice, as an in-use flag on each
resource and as a list in each client.  `Represents` says that the two records
describe one ledger, and the lemmas below say which changes of the records are
claims and drops.
-/

namespace Ledger

variable {R C : Type}

/-- The owner of each resource, if it has one. -/
abbrev Owners (R C : Type) := R → Option C

/-- The client becomes the owner of the resources in `S`. -/
def claim (owners : Owners R C) (c : C) (S : R → Prop) [DecidablePred S] : Owners R C :=
  fun r => if S r then some c else owners r

/-- The client gives up all it owns. -/
def drop [DecidableEq C] (owners : Owners R C) (c : C) : Owners R C :=
  fun r => if owners r = some c then none else owners r

/-- The in-use flags and the clients' lists are two views of one ledger. -/
structure Represents (used : R → Prop) (lists : C → R → Prop) (owners : Owners R C) : Prop where
  used_iff : ∀ r, used r ↔ ∃ c, owners r = some c
  lists_iff : ∀ c r, lists c r ↔ owners r = some c

namespace Represents

variable {used used' : R → Prop} {lists lists' : C → R → Prop} {owners : Owners R C}

theorem empty (unused : ∀ r, ¬ used r) (unlisted : ∀ c r, ¬ lists c r) :
    Represents used lists fun _ => none where
  used_iff r := ⟨fun h => absurd h (unused r), fun ⟨_, h⟩ => by cases h⟩
  lists_iff c r := ⟨fun h => absurd h (unlisted c r), fun h => by cases h⟩

theorem congr (h : Represents used lists owners) (sameUsed : ∀ r, used' r ↔ used r)
    (sameLists : ∀ c r, lists' c r ↔ lists c r) : Represents used' lists' owners where
  used_iff r := (sameUsed r).trans (h.used_iff r)
  lists_iff c r := (sameLists c r).trans (h.lists_iff c r)

/-- No resource is listed by two clients. -/
theorem unique (h : Represents used lists owners) {c d : C} {r : R} (hc : lists c r) (hd : lists d r) :
    c = d :=
  Option.some.inj (((h.lists_iff c r).mp hc).symm.trans ((h.lists_iff d r).mp hd))

/-- A resource is in use exactly when one client lists it. -/
theorem used_iff_existsUnique (h : Represents used lists owners) (r : R) :
    used r ↔ ∃! c, lists c r := by
  rw [h.used_iff]
  constructor
  · rintro ⟨c, owned⟩
    exact ⟨c, (h.lists_iff c r).mpr owned, fun d listed => h.unique listed ((h.lists_iff c r).mpr owned)⟩
  · rintro ⟨c, listed, _⟩
    exact ⟨c, (h.lists_iff c r).mp listed⟩

/-- There is a ledger behind the two records when every resource in use is listed, every
    listed one is in use, and no two clients list the same. -/
theorem of_views (used_iff : ∀ r, used r ↔ ∃ c, lists c r)
    (once : ∀ c d r, lists c r → lists d r → c = d) : ∃ owners, Represents used lists owners := by
  classical
  refine ⟨fun r => if h : ∃ c, lists c r then some h.choose else none, ?_, ?_⟩
  · intro r
    rw [used_iff]
    by_cases listed : ∃ c, lists c r <;> simp [listed]
  · intro c r
    by_cases listed : ∃ c, lists c r
    · simp only [dif_pos listed, Option.some.injEq]
      constructor
      · exact fun here => once _ _ r listed.choose_spec here
      · exact fun same => same ▸ listed.choose_spec
    · simp only [dif_neg listed, reduceCtorEq, iff_false]
      exact fun here => listed ⟨c, here⟩

theorem used_of_lists (h : Represents used lists owners) {c : C} {r : R} (listed : lists c r) : used r :=
  (h.used_iff r).mpr ⟨c, (h.lists_iff c r).mp listed⟩

theorem lists_of_used (h : Represents used lists owners) {r : R} (inUse : used r) : ∃ c, lists c r := by
  obtain ⟨c, owned⟩ := (h.used_iff r).mp inUse
  exact ⟨c, (h.lists_iff c r).mpr owned⟩

/-- A client that listed nothing lists the unused resources `S`. -/
theorem claim (h : Represents used lists owners) {c : C} {S : R → Prop} [DecidablePred S]
    (free : ∀ r, S r → ¬ used r) (before : ∀ r, ¬ lists c r)
    (nowUsed : ∀ r, used' r ↔ S r ∨ used r)
    (nowLists : ∀ d r, lists' d r ↔ (d = c ∧ S r) ∨ (d ≠ c ∧ lists d r)) :
    Represents used' lists' (Ledger.claim owners c S) where
  used_iff r := by
    rw [nowUsed, h.used_iff, Ledger.claim]
    by_cases inside : S r <;> simp [inside]
  lists_iff d r := by
    rw [nowLists, h.lists_iff, Ledger.claim]
    by_cases inside : S r
    · have unowned : owners r ≠ some d :=
        fun owned => free r inside ((h.used_iff r).mpr ⟨d, owned⟩)
      simp [inside, unowned, eq_comm]
    · have unowned : owners r ≠ some c := fun owned => before r ((h.lists_iff c r).mpr owned)
      simp only [inside, and_false, false_or, if_false]
      constructor
      · exact fun kept => kept.2
      · exact fun owned => ⟨fun same => unowned (same ▸ owned), owned⟩

/-- A client's resources become unused and its list is cleared. -/
theorem drop [DecidableEq C] (h : Represents used lists owners) {c : C}
    (nowUsed : ∀ r, used' r ↔ used r ∧ ¬ lists c r)
    (nowLists : ∀ d r, lists' d r ↔ d ≠ c ∧ lists d r) :
    Represents used' lists' (Ledger.drop owners c) where
  used_iff r := by
    rw [nowUsed, h.used_iff, h.lists_iff, Ledger.drop]
    by_cases owned : owners r = some c <;> simp [owned]
  lists_iff d r := by
    rw [nowLists, h.lists_iff, Ledger.drop]
    by_cases owned : owners r = some c
    · simp [owned, eq_comm]
    · rw [if_neg owned]
      exact ⟨fun kept => kept.2, fun here => ⟨fun same => owned (same ▸ here), here⟩⟩

end Represents

end Ledger
