import Mathlib.Algebra.Order.Floor.Ring
import Mathlib.Data.Int.Log
import Mathlib.Data.Rat.Floor

/-! # JSON texts as Python's `json.loads` reads them

A reader takes something off the front of a text and carries the proof that the text
got shorter, so every loop over a text ends.  The three failures are the three
exceptions that `json.loads` raises on a text.
-/

/-- A binary64 number; signed zeros are not told apart. -/
inductive Binary64 where
  | finite (q : ℚ)
  | infinite (negative : Bool)
  | nan
  deriving Repr, DecidableEq

namespace Binary64

/-- To the nearest multiple of the unit, a tie to the even one. -/
def nearest (q unit : ℚ) : ℚ :=
  let n := ⌊q / unit⌋
  let rest := q / unit - n
  if rest < 1 / 2 ∨ (rest = 1 / 2 ∧ n % 2 = 0) then n * unit else (n + 1) * unit

def ofRat (q : ℚ) : Binary64 :=
  let rounded := nearest q (2 ^ (max (Int.log 2 |q|) (-1022) - 52))
  if 2 ^ (1024 : ℤ) ≤ |rounded| then .infinite (rounded < 0) else .finite rounded

/-- `int(x)`, or `none` where it raises. -/
def truncate : Binary64 → Option Int
  | .finite q => some (if 0 ≤ q then ⌊q⌋ else ⌈q⌉)
  | .infinite _ => none
  | .nan => none

end Binary64

/-- A decoded text; an object keeps its members in the order of the text. -/
inductive Json where
  | null
  | bool (b : Bool)
  | int (n : Int)
  | float (x : Binary64)
  | str (text : String)
  | arr (items : List Json)
  | obj (members : List (String × Json))
  deriving Repr

namespace Json

/-- `d.get(key)`: of several members of one name the last one stands. -/
def get (members : List (String × Json)) (key : String) : Option Json := members.reverse.lookup key

inductive Failure where
  /-- `JSONDecodeError`. -/
  | malformed
  /-- The `ValueError` of an integer with more digits than `int` converts. -/
  | digits
  /-- `RecursionError`. -/
  | depth
  deriving Repr, DecidableEq

/-- What was taken off the front of `s`. -/
structure Taken (α : Type) (s : List Char) where
  value : α
  rest : List Char
  shorter : rest.length < s.length

abbrev Reader (α : Type) := (s : List Char) → Except Failure (Taken α s)

def Taken.map {α β : Type} {s : List Char} (f : α → β) (taken : Taken α s) : Taken β s :=
  ⟨f taken.value, taken.rest, taken.shorter⟩

/-- One taken after the other. -/
def Taken.before {α β γ : Type} {s : List Char} (f : α → β → γ) (taken : Taken α s) (more : Taken β taken.rest) :
    Taken γ s :=
  ⟨f taken.value more.value, more.rest, more.shorter.trans taken.shorter⟩

def Taken.behind {α : Type} {s : List Char} (c : Char) (taken : Taken α s) : Taken α (c :: s) :=
  ⟨taken.value, taken.rest, taken.shorter.trans (Nat.lt_succ_self _)⟩

/-! ## White space and single characters -/

def isSpace (c : Char) : Bool := c = ' ' || c = '\t' || c = '\n' || c = '\r'

def skipSpace (s : List Char) : List Char := s.dropWhile isSpace

theorem length_skipSpace_le (s : List Char) : (skipSpace s).length ≤ s.length :=
  (List.dropWhile_suffix _).length_le

def Taken.skipped {α : Type} {s : List Char} (taken : Taken α (skipSpace s)) : Taken α s :=
  ⟨taken.value, taken.rest, lt_of_lt_of_le taken.shorter (length_skipSpace_le s)⟩

def anyChar : Reader Char
  | [] => .error .malformed
  | c :: rest => .ok ⟨c, rest, Nat.lt_succ_self _⟩

/-- The next character behind white space. -/
def mark (s : List Char) : Except Failure (Taken Char s) := (anyChar (skipSpace s)).map Taken.skipped

/-! ## Strings -/

def hexDigit (c : Char) : Option Nat :=
  if c.isDigit then some (c.toNat - 48)
  else if 'a' ≤ c ∧ c ≤ 'f' then some (c.toNat - 87)
  else if 'A' ≤ c ∧ c ≤ 'F' then some (c.toNat - 55)
  else none

def hexUnit (digits : List Char) : Option Nat :=
  digits.foldlM (fun acc c => (hexDigit c).map fun d => acc * 16 + d) 0

def escapes : List (Char × Nat) :=
  [('"', 0x22), ('\\', 0x5c), ('/', 0x2f), ('b', 0x08), ('f', 0x0c), ('n', 0x0a), ('r', 0x0d), ('t', 0x09)]

/-- The unit that an escape stands for, behind its backslash. -/
def escape : Reader Nat
  | 'u' :: a :: b :: c :: d :: rest =>
      match hexUnit [a, b, c, d] with
      | some unit => .ok ⟨unit, rest, by simp only [List.length_cons]; omega⟩
      | none => .error .malformed
  | c :: rest =>
      match escapes.lookup c with
      | some unit => .ok ⟨unit, rest, Nat.lt_succ_self _⟩
      | none => .error .malformed
  | [] => .error .malformed

/-- The units of a string up to its closing quote. -/
def units (s : List Char) : Except Failure (Taken (List Nat) s) :=
  match s with
  | [] => .error .malformed
  | c :: rest =>
      if c = '"' then .ok ⟨[], rest, Nat.lt_succ_self _⟩
      else if c = '\\' then do
        let unit ← escape rest
        let more ← units unit.rest
        return (unit.before List.cons more).behind c
      else if c.toNat < 0x20 then .error .malformed
      else do
        let more ← units rest
        return (more.map (c.toNat :: ·)).behind c
termination_by s.length
decreasing_by
  · exact unit.shorter.trans (Nat.lt_succ_self _)
  · exact Nat.lt_succ_self _

/-- Escaped surrogates are joined in pairs.  One that is left alone is no `Char`; the
    replacement character stands for it. -/
def joined : List Nat → List Char
  | high :: low :: rest =>
      if 0xd800 ≤ high ∧ high < 0xdc00 ∧ 0xdc00 ≤ low ∧ low < 0xe000 then
        Char.ofNat (0x10000 + (high - 0xd800) * 0x400 + (low - 0xdc00)) :: joined rest
      else single high :: joined (low :: rest)
  | [unit] => [single unit]
  | [] => []
where
  single (unit : Nat) : Char := if 0xd800 ≤ unit ∧ unit < 0xe000 then Char.ofNat 0xfffd else Char.ofNat unit

def quoted (s : List Char) : Except Failure (Taken String s) :=
  (units s).map fun taken => taken.map fun read => String.ofList (joined read)

/-! ## Numbers -/

def natOf (digits : List Char) : Nat := digits.foldl (fun acc c => acc * 10 + (c.toNat - 48)) 0

/-- `0`, or digits that begin with another. -/
def wholeDigits : Reader (List Char)
  | [] => .error .malformed
  | c :: rest =>
      if c = '0' then .ok ⟨[c], rest, Nat.lt_succ_self _⟩
      else if c.isDigit then
        .ok ⟨c :: rest.takeWhile Char.isDigit, rest.dropWhile Char.isDigit,
          Nat.lt_succ_of_le (List.dropWhile_suffix _).length_le⟩
      else .error .malformed

/-- The digits behind a point, if a digit follows it, and the rest of the text. -/
def fraction : List Char → List Char × List Char
  | '.' :: rest =>
      if (rest.takeWhile Char.isDigit).isEmpty then ([], '.' :: rest)
      else (rest.takeWhile Char.isDigit, rest.dropWhile Char.isDigit)
  | s => ([], s)

def afterSign (s : List Char) : List Char := if s.head? = some '-' ∨ s.head? = some '+' then s.tail else s

/-- The exponent, if a digit follows its sign, and the rest of the text. -/
def exponent : List Char → Option Int × List Char
  | e :: rest =>
      if (e = 'e' ∨ e = 'E') ∧ ((afterSign rest).takeWhile Char.isDigit).isEmpty = false then
        let size := natOf ((afterSign rest).takeWhile Char.isDigit)
        (some (if rest.head? = some '-' then -(size : Int) else size), (afterSign rest).dropWhile Char.isDigit)
      else (none, e :: rest)
  | [] => (none, [])

theorem length_fraction_le (s : List Char) : (fraction s).2.length ≤ s.length := by
  unfold fraction
  split
  · split
    · exact le_rfl
    · exact (List.dropWhile_suffix _).length_le.trans (Nat.le_succ _)
  · exact le_rfl

theorem length_afterSign_le (s : List Char) : (afterSign s).length ≤ s.length := by
  unfold afterSign
  split
  · exact (List.tail_suffix s).length_le
  · exact le_rfl

theorem length_exponent_le (s : List Char) : (exponent s).2.length ≤ s.length := by
  unfold exponent
  split
  · rename_i e rest
    split
    · have digits := (List.dropWhile_suffix (l := afterSign rest) Char.isDigit).length_le
      exact (digits.trans (length_afterSign_le rest)).trans (Nat.le_succ _)
    · exact le_rfl
  · exact le_rfl

/-- `sys.get_int_max_str_digits()`. -/
def maxStrDigits : Nat := 4300

def unsigned (negative : Bool) (s : List Char) : Except Failure (Taken Json s) := do
  let whole ← wholeDigits s
  let decimals := fraction whole.rest
  let power := exponent decimals.2
  have shorter : power.2.length < s.length :=
    ((length_exponent_le _).trans (length_fraction_le _)).trans_lt whole.shorter
  if decimals.1.isEmpty && power.1.isNone then
    if maxStrDigits < whole.value.length then .error .digits
    else return ⟨.int (if negative then -(natOf whole.value : Int) else natOf whole.value), power.2, shorter⟩
  else
    let size : ℚ := natOf (whole.value ++ decimals.1) * 10 ^ (power.1.getD 0 - decimals.1.length)
    return ⟨.float (.ofRat (if negative then -size else size)), power.2, shorter⟩

def number : Reader Json
  | '-' :: rest => (unsigned true rest).map (Taken.behind '-')
  | s => unsigned false s

/-! ## Values -/

/-- The names of constants; Python admits the last three. -/
def constants : List (String × Json) :=
  [("null", .null), ("true", .bool true), ("false", .bool false), ("NaN", .float .nan),
    ("Infinity", .float (.infinite false)), ("-Infinity", .float (.infinite true))]

/-- A constant or a number. -/
def atom (s : List Char) : Except Failure (Taken Json s) :=
  match constants.find? fun constant => constant.1.toList.isPrefixOf s with
  | some constant =>
      match s.drop constant.1.length with
      | rest => if shorter : rest.length < s.length then .ok ⟨constant.2, rest, shorter⟩ else .error .malformed
  | none => number s

/-- One item and those behind it, up to the closing bracket. -/
def items {α : Type} (item : Reader α) (close : Char) (s : List Char) : Except Failure (Taken (List α) s) := do
  let first ← item s
  let next ← mark first.rest
  if next.value = close then return first.before (fun value _ => [value]) next
  else if next.value = ',' then
    let more ← items item close (skipSpace next.rest)
    return first.before List.cons (next.before (fun _ values => values) more.skipped)
  else .error .malformed
termination_by s.length
decreasing_by
  exact (length_skipSpace_le _).trans_lt (next.shorter.trans first.shorter)

/-- The items of an array or an object, behind its opening bracket. -/
def collection {α : Type} (item : Reader α) (close : Char) (s : List Char) : Except Failure (Taken (List α) s) := do
  let next ← mark s
  if next.value = close then return next.map fun _ => []
  else return (← items item close (skipSpace s)).skipped

def member (value : Reader Json) : Reader (String × Json)
  | '"' :: rest => do
      let key ← quoted rest
      let next ← mark key.rest
      if next.value = ':' then
        let read ← value (skipSpace next.rest)
        return (key.before Prod.mk (next.before (fun _ value => value) read.skipped)).behind '"'
      else .error .malformed
  | _ => .error .malformed

/-- A value with at most `depth` arrays and objects around its parts. -/
def value : Nat → Reader Json
  | _, '"' :: rest => (quoted rest).map fun taken => (taken.map Json.str).behind '"'
  | 0, '{' :: _ => .error .depth
  | 0, '[' :: _ => .error .depth
  | depth + 1, '{' :: rest =>
      (collection (member (value depth)) '}' rest).map fun taken => (taken.map Json.obj).behind '{'
  | depth + 1, '[' :: rest =>
      (collection (value depth) ']' rest).map fun taken => (taken.map Json.arr).behind '['
  | _, s => atom s

/-- `json.loads`, where the stack admits `depth` nested arrays and objects. -/
def loads (depth : Nat) (s : List Char) : Except Failure Json := do
  let read ← value depth (skipSpace s)
  if skipSpace read.rest = [] then return read.value else .error .malformed

end Json
