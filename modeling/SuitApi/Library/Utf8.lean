import Mathlib.Data.List.Infix

/-! # Decoders that start afresh after every output

A decoder reads a stream item by item and now and then emits something.  When every
emission leaves it where it began, any contiguous part of its output is the output of
a contiguous part of its input.  UTF-8 with ill-formed bytes ignored is such a decoder.
-/

structure Decoder (β α : Type) where
  State : Type
  fresh : State
  step : State → β → State × Option α
  /-- An emission resets the decoder. -/
  resets : ∀ s b, (step s b).2.isSome = true → (step s b).1 = fresh

namespace Decoder

variable {β α : Type} (d : Decoder β α)

/-- What is emitted over the items; what is pending at the end is dropped. -/
def decodeFrom : d.State → List β → List α
  | _, [] => []
  | s, b :: rest => (d.step s b).2.toList ++ decodeFrom (d.step s b).1 rest

def decode (items : List β) : List α := d.decodeFrom d.fresh items

/-- The state that the items lead to, when they emit nothing. -/
def silentFrom : d.State → List β → Option d.State
  | s, [] => some s
  | s, b :: rest => if (d.step s b).2.isSome then none else silentFrom (d.step s b).1 rest

variable {d}

theorem silentFrom_nil (s : d.State) : d.silentFrom s [] = some s := rfl

theorem silentFrom_concat {s s' : d.State} {items : List β} (silent : d.silentFrom s items = some s') {b : β}
    (quiet : (d.step s' b).2 = none) : d.silentFrom s (items ++ [b]) = some (d.step s' b).1 := by
  induction items generalizing s with
  | nil =>
      cases silent
      simp only [List.nil_append, silentFrom, quiet, Option.isSome_none, Bool.false_eq_true, if_false]
  | cons a rest ih =>
      unfold silentFrom at silent
      split at silent
      · cases silent
      · rename_i still
        rw [List.cons_append, silentFrom, if_neg still]
        exact ih silent

/-- Items that emit nothing only change the state. -/
theorem decodeFrom_silent {s s' : d.State} {items : List β} (silent : d.silentFrom s items = some s')
    (rest : List β) : d.decodeFrom s (items ++ rest) = d.decodeFrom s' rest := by
  induction items generalizing s with
  | nil =>
      cases silent
      rfl
  | cons a items ih =>
      unfold silentFrom at silent
      split at silent
      · cases silent
      · rename_i still
        rw [List.cons_append, decodeFrom, Option.not_isSome_iff_eq_none.mp still, ih silent]
        rfl

/-- A prefix of the output is the output of a prefix. -/
theorem decodeFrom_prefix {s : d.State} {items : List β} {out after : List α}
    (emits : d.decodeFrom s items = out ++ after) : ∃ first, first <+: items ∧ d.decodeFrom s first = out := by
  induction items generalizing s out with
  | nil => exact ⟨[], List.prefix_rfl, (List.append_eq_nil_iff.mp emits.symm).1.symm⟩
  | cons b rest ih =>
      cases out with
      | nil => exact ⟨[], List.nil_prefix, rfl⟩
      | cons c out =>
          rw [decodeFrom] at emits
          cases emitted : (d.step s b).2 with
          | none =>
              rw [emitted] at emits
              obtain ⟨first, inside, gives⟩ := ih emits
              refine ⟨b :: first, List.cons_prefix_cons.mpr ⟨rfl, inside⟩, ?_⟩
              rw [decodeFrom, emitted, gives]
              rfl
          | some e =>
              rw [emitted, Option.toList_some, List.singleton_append, List.cons_append] at emits
              obtain ⟨same, more⟩ := List.cons.inj emits
              obtain ⟨first, inside, gives⟩ := ih more
              refine ⟨b :: first, List.cons_prefix_cons.mpr ⟨rfl, inside⟩, ?_⟩
              rw [decodeFrom, emitted, gives, same]
              rfl

/-- A suffix of the output is the output of a suffix, read afresh.  `pending` is what
    was read since the last emission. -/
theorem decodeFrom_suffix {s : d.State} {pending items : List β} (silent : d.silentFrom d.fresh pending = some s)
    {before out : List α} (emits : d.decodeFrom s items = before ++ out) :
    ∃ last, last <:+ pending ++ items ∧ d.decode last = out := by
  induction items generalizing s pending before with
  | nil => exact ⟨[], List.nil_suffix, (List.append_eq_nil_iff.mp emits.symm).2.symm⟩
  | cons b rest ih =>
      cases before with
      | nil => exact ⟨pending ++ b :: rest, List.suffix_rfl, by rw [decode, decodeFrom_silent silent, emits]; rfl⟩
      | cons c before =>
          rw [decodeFrom] at emits
          cases emitted : (d.step s b).2 with
          | none =>
              rw [emitted] at emits
              obtain ⟨last, inside, gives⟩ := ih (silentFrom_concat silent emitted) emits
              exact ⟨last, by simpa using inside, gives⟩
          | some e =>
              have afresh := d.resets s b (by rw [emitted]; rfl)
              rw [emitted, Option.toList_some, List.singleton_append, List.cons_append, afresh] at emits
              obtain ⟨last, inside, gives⟩ := ih (silentFrom_nil d.fresh) (List.cons.inj emits).2
              exact ⟨last, inside.trans ((List.suffix_cons b rest).trans (List.suffix_append pending _)), gives⟩

/-- A contiguous part of the output is the output of a contiguous part of the input. -/
theorem decode_infix {items : List β} {out : List α} (inside : out <:+: d.decode items) :
    ∃ piece, piece <:+: items ∧ d.decode piece = out := by
  obtain ⟨before, after, whole⟩ := inside
  rw [List.append_assoc] at whole
  obtain ⟨last, suffix, gives⟩ := decodeFrom_suffix (silentFrom_nil d.fresh) whole.symm
  obtain ⟨piece, here, exact⟩ := decodeFrom_prefix gives
  exact ⟨piece, here.isInfix.trans suffix.isInfix, exact⟩

/-- Each item emits once at most. -/
theorem length_decodeFrom (s : d.State) (items : List β) : (d.decodeFrom s items).length ≤ items.length := by
  induction items generalizing s with
  | nil => exact le_rfl
  | cons b rest ih =>
      have most : (d.step s b).2.toList.length ≤ 1 := by
        cases (d.step s b).2 <;> simp
      have more := ih (d.step s b).1
      simp only [decodeFrom, List.length_append, List.length_cons]
      omega

end Decoder

/-! ## UTF-8 -/

namespace Utf8

/-- Between two characters, or inside one: the bits read so far, the bytes still owed,
    and the range of the next. -/
inductive State where
  | start
  | inside (bits owed : Nat) (low high : UInt8)
  deriving Repr, DecidableEq

/-- A byte where a character should begin.  The ranges of the second byte keep out
    overlong forms, surrogates and what is beyond the last code point. -/
def first (b : UInt8) : State × Option Char :=
  let bits := b.toNat
  if b < 0x80 then (.start, some (Char.ofNat bits))
  else if b < 0xc2 then (.start, none)
  else if b < 0xe0 then (.inside (bits - 0xc0) 1 0x80 0xbf, none)
  else if b < 0xf0 then
    (.inside (bits - 0xe0) 2 (if b = 0xe0 then 0xa0 else 0x80) (if b = 0xed then 0x9f else 0xbf), none)
  else if b < 0xf5 then
    (.inside (bits - 0xf0) 3 (if b = 0xf0 then 0x90 else 0x80) (if b = 0xf4 then 0x8f else 0xbf), none)
  else (.start, none)

/-- A byte that cannot go on with the character is read as the beginning of the next
    one; what came before it is ignored. -/
def step : State → UInt8 → State × Option Char
  | .start, b => first b
  | .inside bits owed low high, b =>
      if low ≤ b ∧ b ≤ high then
        if owed ≤ 1 then (.start, some (Char.ofNat (bits * 64 + (b.toNat - 0x80))))
        else (.inside (bits * 64 + (b.toNat - 0x80)) (owed - 1) 0x80 0xbf, none)
      else first b

theorem first_resets (b : UInt8) (emits : (first b).2.isSome = true) : (first b).1 = .start := by
  simp only [first] at emits ⊢
  split
  · rfl
  · rename_i wide
    rw [if_neg wide] at emits
    split_ifs at emits <;> cases emits

def decoder : Decoder UInt8 Char where
  State := State
  fresh := .start
  step := step
  resets := by
    intro s b emits
    cases s with
    | start => exact first_resets b emits
    | inside bits owed low high =>
        simp only [step] at emits ⊢
        split_ifs at emits ⊢ with fits done
        · rfl
        · cases emits
        · exact first_resets b emits

/-- Decoding that ignores ill-formed bytes. -/
def decodeIgnore (bytes : List UInt8) : List Char := decoder.decode bytes

example : decodeIgnore [0x61, 0xe4, 0xbb, 0xbb, 0xff, 0xe4, 0xbb, 0x62] = ['a', '任', 'b'] := by decide

end Utf8
