import Mathlib.Init

/-! # Python's reading of text

White space and decimal digits are those of Unicode, as `str.strip`, `int` and
the classes `\s` and `\d` of `re` know them.
-/

namespace SuitApi

/-- The characters that `str.strip` removes and `\s` matches. -/
def isPySpace (c : Char) : Bool :=
  c.toNat ∈ [0x20, 0x85, 0xa0, 0x1680, 0x2028, 0x2029, 0x202f, 0x205f, 0x3000] ||
    (0x09 ≤ c.toNat && c.toNat ≤ 0x0d) || (0x1c ≤ c.toNat && c.toNat ≤ 0x1f) ||
    (0x2000 ≤ c.toNat && c.toNat ≤ 0x200a)

/-- The zeros of the scripts that have decimal digits; one to nine follow each. -/
def digitZeros : List Nat :=
  [0x30, 0x660, 0x6f0, 0x7c0, 0x966, 0x9e6, 0xa66, 0xae6, 0xb66, 0xbe6, 0xc66, 0xce6, 0xd66, 0xde6,
    0xe50, 0xed0, 0xf20, 0x1040, 0x1090, 0x17e0, 0x1810, 0x1946, 0x19d0, 0x1a80, 0x1a90, 0x1b50,
    0x1bb0, 0x1c40, 0x1c50, 0xa620, 0xa8d0, 0xa900, 0xa9d0, 0xa9f0, 0xaa50, 0xabf0, 0xff10, 0x104a0,
    0x10d30, 0x11066, 0x110f0, 0x11136, 0x111d0, 0x112f0, 0x11450, 0x114d0, 0x11650, 0x116c0, 0x11730,
    0x118e0, 0x11950, 0x11c50, 0x11d50, 0x11da0, 0x16a60, 0x16ac0, 0x16b50, 0x1d7ce, 0x1d7d8, 0x1d7e2,
    0x1d7ec, 0x1d7f6, 0x1e140, 0x1e2f0, 0x1e950, 0x1fbf0]

/-- The value of a decimal digit. -/
def digitOf (c : Char) : Option Nat :=
  (digitZeros.find? fun base => base ≤ c.toNat && c.toNat < base + 10).map fun base => c.toNat - base

/-- Decimal digits, single underscores allowed between two of them. -/
def digitsValue (acc : Nat) (afterDigit : Bool) : List Char → Option Nat
  | [] => if afterDigit then some acc else none
  | c :: rest =>
      match digitOf c with
      | some digit => digitsValue (acc * 10 + digit) true rest
      | none => if c = '_' && afterDigit && !rest.isEmpty then digitsValue acc false rest else none

/-- The text between the blanks at its ends. -/
def stripBy (blank : Char → Bool) (text : List Char) : List Char :=
  ((text.dropWhile blank).reverse.dropWhile blank).reverse

/-- `text.strip()`. -/
def strip (text : List Char) : List Char := stripBy isPySpace text

/-- The characters at which `str.splitlines` ends a line. -/
def isLineBreak (c : Char) : Bool :=
  c.toNat ∈ [0x0a, 0x0b, 0x0c, 0x0d, 0x1c, 0x1d, 0x1e, 0x85, 0x2028, 0x2029]

/-- The lines of a text, of whose first one `line` was read before. -/
def splitLinesFrom (line : List Char) : List Char → List (List Char)
  | [] => if line = [] then [] else [line]
  | '\r' :: '\n' :: rest => line :: splitLinesFrom [] rest
  | c :: rest => if isLineBreak c then line :: splitLinesFrom [] rest else splitLinesFrom (line ++ [c]) rest

/-- `text.splitlines()`. -/
def splitLines (text : List Char) : List (List Char) := splitLinesFrom [] text

/-- A text without line breaks. -/
def Unbroken (text : List Char) : Prop := ∀ c ∈ text, isLineBreak c = false

theorem unbroken_concat {line : List Char} (unbroken : Unbroken line) {c : Char} (inside : isLineBreak c = false) :
    Unbroken (line ++ [c]) := by
  intro x member
  rw [List.mem_append, List.mem_singleton] at member
  cases member with
  | inl earlier => exact unbroken x earlier
  | inr last => rw [last, inside]

/-- Each line is a part of the text and has no break in it. -/
theorem mem_splitLinesFrom {line text l : List Char} (unbroken : Unbroken line)
    (member : l ∈ splitLinesFrom line text) :
    l <:+: line ++ text ∧ Unbroken l := by
  fun_induction splitLinesFrom line text with
  | case1 => cases member
  | case2 line =>
      cases List.mem_singleton.mp member
      exact ⟨by simp, unbroken⟩
  | case3 line rest ih =>
      cases List.mem_cons.mp member with
      | inl first =>
          subst first
          exact ⟨(List.prefix_append _ _).isInfix, unbroken⟩
      | inr later =>
          have found := ih (by intro _ inside; cases inside) later
          exact ⟨found.1.trans ⟨line ++ ['\r', '\n'], [], by simp⟩, found.2⟩
  | case4 line c rest _ _ ih =>
      cases List.mem_cons.mp member with
      | inl first =>
          subst first
          exact ⟨(List.prefix_append _ _).isInfix, unbroken⟩
      | inr later =>
          have found := ih (by intro _ inside; cases inside) later
          exact ⟨found.1.trans ⟨line ++ [c], [], by simp⟩, found.2⟩
  | case5 line c rest _ inside ih =>
      have found := ih (unbroken_concat unbroken (Bool.not_eq_true _ ▸ inside)) member
      exact ⟨by simpa using found.1, found.2⟩

theorem mem_splitLines {text l : List Char} (member : l ∈ splitLines text) : l <:+: text ∧ Unbroken l :=
  mem_splitLinesFrom (by intro _ inside; cases inside) member

/-- A text without line breaks is one line. -/
theorem splitLinesFrom_unbroken {line text : List Char} (unbroken : Unbroken text) (begun : line ++ text ≠ []) :
    splitLinesFrom line text = [line ++ text] := by
  fun_induction splitLinesFrom line text with
  | case1 => exact absurd rfl begun
  | case2 line => rw [List.append_nil]
  | case3 line rest => exact absurd (unbroken '\r' List.mem_cons_self) (by decide)
  | case4 line c rest _ ends => exact absurd (unbroken c List.mem_cons_self) (by rw [ends]; decide)
  | case5 line c rest _ _ ih =>
      rw [ih (fun x inside => unbroken x (List.mem_cons_of_mem _ inside)) (by simp), List.append_assoc]
      rfl

theorem splitLines_unbroken {text : List Char} (unbroken : Unbroken text) (nonempty : text ≠ []) :
    splitLines text = [text] :=
  splitLinesFrom_unbroken unbroken nonempty

/-- The characters that `int` strips: the separators U+001C to U+001F are not among them. -/
def isIntSpace (c : Char) : Bool := isPySpace c && !(0x1c ≤ c.toNat && c.toNat ≤ 0x1f)

/-- `int(text)`, or `none` where it raises. -/
def intOfText (text : String) : Option Int :=
  match stripBy isIntSpace text.toList with
  | '-' :: digits => (digitsValue 0 false digits).map fun n => -(n : Int)
  | '+' :: digits => (digitsValue 0 false digits).map fun n => (n : Int)
  | digits => (digitsValue 0 false digits).map fun n => (n : Int)

end SuitApi
