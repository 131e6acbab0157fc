import SuitApi.Library.Binary64
import SuitApi.Text

/-! # Python's `float` on text

Digits may be those of any script and have underscores between them; an exponent, `inf`,
`infinity` and `nan` are read in either case.
-/

namespace SuitApi

/-- A decimal digit of any script as the ASCII one. -/
def asciiDigit (c : Char) : Char :=
  match digitOf c with
  | some digit => Char.ofNat (48 + digit)
  | none => c

/-- The text without its underscores, of which each must stand between two digits. -/
def dropUnderscores (previous : Char) : List Char → Option (List Char)
  | [] => if previous = '_' then none else some []
  | c :: rest =>
      if c = '_' then
        if previous.isDigit then dropUnderscores c rest else none
      else if previous = '_' ∧ c.isDigit = false then none
      else (dropUnderscores c rest).map (c :: ·)

def isNegative (text : List Char) : Bool := text.head? = some '-'

/-- The letters behind a sign, in lower case. -/
def wordOf (text : List Char) : String := String.ofList ((Json.afterSign text).map Char.toLower)

/-- The exact value of a decimal numeral without a sign. -/
def decimalValue (text : List Char) : Option ℚ :=
  let whole := text.takeWhile Char.isDigit
  let point := text.dropWhile Char.isDigit
  let decimals := if point.head? = some '.' then point.tail.takeWhile Char.isDigit else []
  let behind := if point.head? = some '.' then point.tail.dropWhile Char.isDigit else point
  let power := Json.exponent behind
  if whole ++ decimals = [] ∨ power.2 ≠ [] then none
  else some (Json.natOf (whole ++ decimals) * 10 ^ (power.1.getD 0 - decimals.length))

def numeralValue (text : List Char) : Option ℚ :=
  (decimalValue (Json.afterSign text)).map fun size => if isNegative text then -size else size

/-- `float(text)` for a text without white space, or `none` where it raises ValueError. -/
def floatOfText (text : List Char) : Option Binary64 := do
  let plain ← dropUnderscores '\x00' (text.map asciiDigit)
  if wordOf plain = "inf" ∨ wordOf plain = "infinity" then some (.infinite (isNegative plain))
  else if wordOf plain = "nan" then some .nan
  else (numeralValue plain).map Binary64.ofRat

/-- `text.split()[0]`, or `none` where it raises IndexError. -/
def firstWord (text : List Char) : Option (List Char) :=
  let rest := text.dropWhile isPySpace
  if rest = [] then none else some (rest.takeWhile fun c => !isPySpace c)

example : floatOfText "-1_024.5e1".toList = some (.finite (-10245)) := by decide +kernel

/-- A text that names an infinity, or a number beyond all of binary64. -/
def Endless (text : List Char) : Prop :=
  ∃ plain, dropUnderscores '\x00' (text.map asciiDigit) = some plain ∧
    (wordOf plain = "inf" ∨ wordOf plain = "infinity" ∨ ∃ q, numeralValue plain = some q ∧ Binary64.limit ≤ |q|)

/-- A numeral begins with a digit or a point. -/
theorem decimalValue_cons_eq_none {c : Char} (digit : c.isDigit = false) (point : c ≠ '.') (rest : List Char) :
    decimalValue (c :: rest) = none := by
  have head : (c :: rest).head? ≠ some '.' := fun same => point (Option.some.inj same)
  have whole : (c :: rest).takeWhile Char.isDigit = [] := List.takeWhile_cons_of_neg (by rw [digit]; decide)
  have all : (c :: rest).dropWhile Char.isDigit = c :: rest := List.dropWhile_cons_of_neg (by rw [digit]; decide)
  unfold decimalValue
  simp only [whole, all, if_neg head, List.append_nil, true_or, if_true]

theorem isDigit_of_toLower {c : Char} (letter : c.toLower = 'n') : c.isDigit = false := by
  by_contra digit
  rw [Bool.not_eq_false, Char.isDigit, Bool.and_eq_true, decide_eq_true_eq, decide_eq_true_eq] at digit
  -- a digit is no capital, so it stays as it is
  have small : ¬ c.val ≥ 'A'.val := fun capital => absurd (UInt32.le_trans capital digit.2) (by decide)
  have same : c.toLower = c := dif_neg fun both => small both.1
  rw [← same, letter] at digit
  exact absurd digit.2 (by decide)

theorem numeralValue_of_nan {plain : List Char} (word : wordOf plain = "nan") : numeralValue plain = none := by
  have letters : (Json.afterSign plain).map Char.toLower = ['n', 'a', 'n'] := by
    have texts := congrArg String.toList word
    rw [wordOf, String.toList_ofList] at texts
    exact texts
  obtain ⟨c, rest, split, lower, _⟩ := List.map_eq_cons_iff.mp letters
  have point : c ≠ '.' := by
    rintro rfl
    exact absurd lower (by decide)
  rw [numeralValue, split, decimalValue_cons_eq_none (isDigit_of_toLower lower) point]
  rfl

theorem floatOfText_infinite_iff {text : List Char} :
    (∃ negative, floatOfText text = some (.infinite negative)) ↔ Endless text := by
  unfold floatOfText Endless
  cases dropUnderscores '\x00' (text.map asciiDigit) with
  | none => simp
  | some plain =>
      simp only [Option.bind_eq_bind, Option.bind_some, Option.some.injEq, exists_eq_left']
      by_cases named : wordOf plain = "inf" ∨ wordOf plain = "infinity"
      · rw [← or_assoc]
        simp [named]
      · rw [if_neg named, ← or_assoc, or_iff_right named]
        by_cases nan : wordOf plain = "nan"
        · simp [nan, numeralValue_of_nan nan]
        · rw [if_neg nan]
          cases numeralValue plain with
          | none => simp
          | some q =>
              simp only [Option.map_some, Option.some.injEq, exists_eq_left']
              exact Binary64.ofRat_infinite_iff

end SuitApi
