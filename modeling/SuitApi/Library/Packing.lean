import Mathlib.Data.List.Basic

/-! # Equal requests from bins

Every request takes `size` from one bin that still has that much.  Which bin it is does not
matter for how many requests are served: the bins together have room for
`∑ ⌊free / size⌋` of them, and each one that is served uses up one place.
-/

namespace Packing

variable {B : Type}

def capacity (size : Nat) (free : B → Nat) : List B → Nat
  | [] => 0
  | bin :: rest => free bin / size + capacity size free rest

end Packing
