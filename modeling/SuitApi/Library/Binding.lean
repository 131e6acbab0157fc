import Mathlib.Data.List.Basic

/-! # Binding arguments to parameters

A function has named parameters, some with a default, and is called with positional
and keyword arguments.  Positional arguments fill the parameters from the left, a
keyword fills the parameter of its name, and what is left takes its default.
-/

namespace Binding

variable {ν : Type}

structure Parameter (ν : Type) where
  name : String
  default_ : Option ν := none

structure Arguments (ν : Type) where
  positional : List ν := []
  keywords : List (String × ν) := []

inductive Error where
  | unexpected (name : String)
  | multiple (name : String)
  | tooMany (most given : Nat)
  | missing (names : List String)
  deriving Repr, DecidableEq

/-- The parameters that have got a value. -/
abbrev Bound (ν : Type) := List (String × ν)

def bindPositional (parameters : List (Parameter ν)) (positional : List ν) : Bound ν :=
  (parameters.map (·.name)).zip positional

def bindKeywords (parameters : List (Parameter ν)) : List (String × ν) → Bound ν → Except Error (Bound ν)
  | [], bound => .ok bound
  | (name, value) :: rest, bound =>
      if name ∉ parameters.map (·.name) then .error (.unexpected name)
      else if (bound.lookup name).isSome then .error (.multiple name)
      else bindKeywords parameters rest (bound ++ [(name, value)])

def bindDefaults (parameters : List (Parameter ν)) (bound : Bound ν) : Except Error (Bound ν) :=
  let unbound := parameters.filter fun parameter => (bound.lookup parameter.name).isNone
  let missing := unbound.filter fun parameter => parameter.default_.isNone
  if missing = [] then
    .ok (bound ++ unbound.filterMap fun parameter => parameter.default_.map fun value => (parameter.name, value))
  else .error (.missing (missing.map (·.name)))

/-- Keywords come before the count of the positional arguments, and that before the
    defaults. -/
def bind (parameters : List (Parameter ν)) (arguments : Arguments ν) : Except Error (Bound ν) :=
  match bindKeywords parameters arguments.keywords (bindPositional parameters arguments.positional) with
  | .error error => .error error
  | .ok bound =>
      if parameters.length < arguments.positional.length then
        .error (.tooMany parameters.length arguments.positional.length)
      else bindDefaults parameters bound

/-! ## Names that are bound -/

theorem lookup_append_isSome {name : String} {first : Bound ν} (second : Bound ν)
    (here : (first.lookup name).isSome = true) : ((first ++ second).lookup name).isSome = true := by
  rw [List.lookup_append]
  cases found : first.lookup name with
  | none => simp [found] at here
  | some value => simp

/-- A keyword for a parameter that already has a value is an error. -/
theorem bindKeywords_conflict {parameters : List (Parameter ν)} {keywords : List (String × ν)} {bound : Bound ν}
    {name : String} (given : name ∈ keywords.map Prod.fst) (taken : (bound.lookup name).isSome = true) :
    ∃ error, bindKeywords parameters keywords bound = .error error := by
  induction keywords generalizing bound with
  | nil => cases given
  | cons keyword rest ih =>
      obtain ⟨name', value⟩ := keyword
      rw [bindKeywords]
      split
      · exact ⟨_, rfl⟩
      · split
        · exact ⟨_, rfl⟩
        · rename_i free
          rw [List.map_cons, List.mem_cons] at given
          rcases given with same | later
          · subst same
            exact absurd taken free
          · exact ih later (lookup_append_isSome _ taken)

/-- Keywords bind no other names than their own. -/
theorem lookup_bindKeywords {parameters : List (Parameter ν)} {keywords : List (String × ν)} {bound bound' : Bound ν}
    (done : bindKeywords parameters keywords bound = .ok bound') {name : String}
    (ungiven : name ∉ keywords.map Prod.fst) : bound'.lookup name = bound.lookup name := by
  induction keywords generalizing bound with
  | nil =>
      cases done
      rfl
  | cons keyword rest ih =>
      obtain ⟨name', value⟩ := keyword
      rw [List.map_cons, List.mem_cons, not_or] at ungiven
      rw [bindKeywords] at done
      split at done
      · cases done
      · split at done
        · cases done
        · have other : (name == name') = false := beq_eq_false_iff_ne.mpr ungiven.1
          rw [ih done ungiven.2, List.lookup_append]
          rw [List.lookup_cons, other, List.lookup_nil, Option.or_none]

/-- A positional argument and a keyword for the same parameter are an error. -/
theorem bind_conflict {parameters : List (Parameter ν)} {arguments : Arguments ν} {name : String}
    (given : name ∈ arguments.keywords.map Prod.fst)
    (taken : ((bindPositional parameters arguments.positional).lookup name).isSome = true) :
    ∃ error, bind parameters arguments = .error error := by
  obtain ⟨error, failed⟩ := @bindKeywords_conflict _ parameters _ _ _ given taken
  exact ⟨error, by rw [bind, failed]⟩

/-- A parameter without a default and without an argument is an error. -/
theorem bind_missing {parameters : List (Parameter ν)} {arguments : Arguments ν} {parameter : Parameter ν}
    (inside : parameter ∈ parameters) (required : parameter.default_ = none)
    (ungiven : parameter.name ∉ arguments.keywords.map Prod.fst)
    (unfilled : (bindPositional parameters arguments.positional).lookup parameter.name = none) :
    ∃ error, bind parameters arguments = .error error := by
  unfold bind
  split
  · exact ⟨_, rfl⟩
  · rename_i bound done
    split
    · exact ⟨_, rfl⟩
    · have unbound : bound.lookup parameter.name = none := (lookup_bindKeywords done ungiven).trans unfilled
      unfold bindDefaults
      simp only
      split
      · rename_i complete
        have absent : parameter ∈ (parameters.filter fun parameter => (bound.lookup parameter.name).isNone).filter
            fun parameter => parameter.default_.isNone := by simp [inside, unbound, required]
        rw [complete] at absent
        cases absent
      · exact ⟨_, rfl⟩

end Binding
