import Mathlib.Data.List.Induction
import SuitApi.Library.Json

/-! # JSON texts as Python's `json.dumps` writes them

The text of a value is plain ASCII: any other character is escaped, one beyond the basic
plane as a pair of surrogates.  What is written reads back as the same value.
-/

namespace Json

/-! ## Writing -/

/-- A hexadecimal digit in lower case. -/
def hexChar (digit : Nat) : Char := Char.ofNat (if digit < 10 then 48 + digit else 87 + digit)

/-- `\uXXXX`. -/
def unitEscape (unit : Nat) : List Char :=
  ['\\', 'u', hexChar (unit / 4096 % 16), hexChar (unit / 256 % 16), hexChar (unit / 16 % 16), hexChar (unit % 16)]

/-- `ESCAPE_DCT`. -/
def shortEscapes : List (Char × Char) :=
  [('\\', '\\'), ('"', '"'), ('\x08', 'b'), ('\x0c', 'f'), ('\n', 'n'), ('\r', 'r'), ('\t', 't')]

def escaped (c : Char) : List Char :=
  match shortEscapes.lookup c with
  | some short => ['\\', short]
  | none =>
      if 0x20 ≤ c.toNat ∧ c.toNat < 0x7f then [c]
      else if c.toNat < 0x10000 then unitEscape c.toNat
      else
        unitEscape (0xd800 + (c.toNat - 0x10000) / 0x400) ++ unitEscape (0xdc00 + (c.toNat - 0x10000) % 0x400)

def quotedText (text : String) : List Char := '"' :: (text.toList.flatMap escaped ++ ['"'])

def intText (n : Int) : List Char := if n < 0 then '-' :: Nat.toDigits 10 n.natAbs else Nat.toDigits 10 n.natAbs

/-- The parts with a comma and a blank between them. -/
def separated : List (List Char) → List Char
  | [] => []
  | [part] => part
  | part :: next :: rest => part ++ ',' :: ' ' :: separated (next :: rest)

section

-- `float.__repr__`
variable (floatText : Binary64 → List Char)

mutual

/-- `json.dumps`, where Python writes the value at all. -/
def dumps : Json → List Char
  | .null => "null".toList
  | .bool true => "true".toList
  | .bool false => "false".toList
  | .int n => intText n
  | .float x => floatText x
  | .str text => quotedText text
  | .arr items => '[' :: (separated (dumpsItems items) ++ [']'])
  | .obj members => '{' :: (separated (dumpsMembers members) ++ ['}'])

def dumpsItems : List Json → List (List Char)
  | [] => []
  | value :: rest => dumps value :: dumpsItems rest

def dumpsMembers : List (String × Json) → List (List Char)
  | [] => []
  | (key, value) :: rest => (quotedText key ++ ':' :: ' ' :: dumps value) :: dumpsMembers rest

end

end

/-! ## Dictionaries -/

mutual

/-- What is left of a decoded text when the members of an object become a dictionary: the
    place of the first member of each name, with the value of the last. -/
def dicts : Json → Json
  | .arr items => .arr (dictsItems items)
  | .obj members => .obj (dictsMembers members)
  | v => v

def dictsItems : List Json → List Json
  | [] => []
  | item :: rest => dicts item :: dictsItems rest

def dictsMembers : List (String × Json) → List (String × Json)
  | [] => []
  | (key, value) :: rest =>
      let later := dictsMembers rest
      (key, (later.lookup key).getD (dicts value)) :: later.filter (·.1 ≠ key)

end

theorem dictsItems_eq {items : List Json} (each : ∀ item ∈ items, dicts item = item) : dictsItems items = items := by
  induction items with
  | nil => rfl
  | cons item rest ih =>
      rw [dictsItems, each item List.mem_cons_self, ih fun other inside => each other (List.mem_cons_of_mem _ inside)]

theorem dictsMembers_eq {members : List (String × Json)} (unique : (members.map (·.1)).Nodup)
    (each : ∀ member ∈ members, dicts member.2 = member.2) : dictsMembers members = members := by
  induction members with
  | nil => rfl
  | cons member rest ih =>
      obtain ⟨fresh, unique⟩ := List.nodup_cons.mp unique
      have later := ih unique fun other inside => each other (List.mem_cons_of_mem _ inside)
      have apart : ∀ other ∈ rest, other.1 ≠ member.1 := by
        intro other inside same
        apply fresh
        exact List.mem_map.mpr ⟨other, inside, same⟩
      have absent : rest.lookup member.1 = none := by
        rw [List.lookup_eq_none_iff]
        intro other inside
        exact bne_iff_ne.mpr (apart other inside).symm
      have others : rest.filter (·.1 ≠ member.1) = rest := by
        rw [List.filter_eq_self]
        exact fun other inside => decide_eq_true (apart other inside)
      simp only [dictsMembers, later, absent, Option.getD_none, others, each member List.mem_cons_self]

/-! ## Reading a string back -/

/-- The reader's result is this value, with this much of the text left. -/
def Reads {α : Type} {s : List Char} (result : Except Failure (Taken α s)) (value : α) (rest : List Char) : Prop :=
  ∃ shorter, result = .ok ⟨value, rest, shorter⟩

section

variable {s rest tail : List Char} {c : Char} {unit : Nat} {more : List Nat}

theorem hexDigit_hexChar : ∀ digit < 16, hexDigit (hexChar digit) = some digit := by decide

theorem reads_escape_unit (small : unit < 0x10000) (rest : List Char) :
    Reads (escape ((unitEscape unit).tail ++ rest)) unit rest := by
  have digit : ∀ n, hexDigit (hexChar (n % 16)) = some (n % 16) := fun n => hexDigit_hexChar _ (by omega)
  have whole : (((0 * 16 + unit / 4096 % 16) * 16 + unit / 256 % 16) * 16 + unit / 16 % 16) * 16 + unit % 16 =
      unit := by
    omega
  refine ⟨by simp only [unitEscape, List.tail_cons, List.cons_append, List.nil_append, List.length_cons]; omega, ?_⟩
  simp only [unitEscape, List.tail_cons, List.cons_append, List.nil_append, escape, hexUnit, List.foldlM_cons,
    List.foldlM_nil, digit, Option.map_some, Option.bind_eq_bind, Option.bind_some, Option.pure_def, whole]

theorem reads_escape_short : ∀ row ∈ shortEscapes, ∀ rest, Reads (escape (row.2 :: rest)) row.1.toNat rest := by
  intro row inside rest
  simp only [shortEscapes, List.mem_cons, List.not_mem_nil, or_false] at inside
  rcases inside with rfl | rfl | rfl | rfl | rfl | rfl | rfl <;> exact ⟨Nat.lt_succ_self _, rfl⟩

theorem reads_units_end (rest : List Char) : Reads (units ('"' :: rest)) [] rest :=
  ⟨Nat.lt_succ_self _, by rw [units, if_pos rfl]⟩

theorem reads_units_escape (first : Reads (escape s) unit tail) (later : Reads (units tail) more rest) :
    Reads (units ('\\' :: s)) (unit :: more) rest := by
  obtain ⟨shorter, first⟩ := first
  obtain ⟨shorter', later⟩ := later
  refine ⟨(shorter'.trans shorter).trans (Nat.lt_succ_self _), ?_⟩
  rw [units, if_neg (by decide), if_pos rfl, first]
  simp only [bind, Except.bind, later]
  rfl

theorem reads_units_plain (quote : c ≠ '"') (backslash : c ≠ '\\') (visible : 0x20 ≤ c.toNat)
    (later : Reads (units s) more rest) : Reads (units (c :: s)) (c.toNat :: more) rest := by
  obtain ⟨shorter, later⟩ := later
  refine ⟨shorter.trans (Nat.lt_succ_self _), ?_⟩
  rw [units, if_neg quote, if_neg backslash, if_neg (Nat.not_lt.mpr visible), later]
  rfl

/-- The units that the escapes of a character stand for. -/
def charUnits (c : Char) : List Nat :=
  if c.toNat < 0x10000 then [c.toNat]
  else [0xd800 + (c.toNat - 0x10000) / 0x400, 0xdc00 + (c.toNat - 0x10000) % 0x400]

theorem toNat_lt (c : Char) : c.toNat < 0x110000 := by
  have valid := c.valid
  rw [UInt32.isValidChar, Nat.isValidChar] at valid
  change c.val.toNat < 0x110000
  omega

theorem toNat_ne_surrogate (c : Char) : c.toNat < 0xd800 ∨ 0xe000 ≤ c.toNat := by
  have valid := c.valid
  rw [UInt32.isValidChar, Nat.isValidChar] at valid
  change c.val.toNat < 0xd800 ∨ 0xe000 ≤ c.val.toNat
  omega

/-- The four forms in which a character is written. -/
theorem escaped_cases (c : Char) :
    (∃ row ∈ shortEscapes, c = row.1 ∧ escaped c = ['\\', row.2]) ∨
      (c ≠ '"' ∧ c ≠ '\\' ∧ 0x20 ≤ c.toNat ∧ c.toNat < 0x10000 ∧ escaped c = [c]) ∨
      (c.toNat < 0x10000 ∧ escaped c = unitEscape c.toNat) ∨
      (0x10000 ≤ c.toNat ∧ escaped c =
        unitEscape (0xd800 + (c.toNat - 0x10000) / 0x400) ++
          unitEscape (0xdc00 + (c.toNat - 0x10000) % 0x400)) := by
  unfold escaped
  cases short : shortEscapes.lookup c with
  | some mark =>
      obtain ⟨front, back, split, _⟩ := List.lookup_eq_some_iff.mp short
      exact .inl ⟨(c, mark), by rw [split]; simp, rfl, rfl⟩
  | none =>
      right
      have other : ∀ row ∈ shortEscapes, c ≠ row.1 := by
        intro row inside same
        exact absurd (List.lookup_eq_none_iff.mp short row inside) (by simp [same])
      by_cases visible : 0x20 ≤ c.toNat ∧ c.toNat < 0x7f
      · left
        exact ⟨other ('"', '"') (by decide), other ('\\', '\\') (by decide), visible.1, by omega, if_pos visible⟩
      · right
        simp only [if_neg visible]
        by_cases small : c.toNat < 0x10000
        · exact .inl ⟨small, if_pos small⟩
        · exact .inr ⟨Nat.not_lt.mp small, if_neg small⟩

theorem reads_units_escaped (later : Reads (units tail) more rest) :
    Reads (units (escaped c ++ tail)) (charUnits c ++ more) rest := by
  have bound := toNat_lt c
  unfold charUnits
  rcases escaped_cases c with ⟨row, inside, rfl, written⟩ | ⟨quote, backslash, visible, small, written⟩ |
    ⟨small, written⟩ | ⟨large, written⟩
  · have small : row.1.toNat < 0x10000 := by
      revert row
      decide
    rw [written, if_pos small]
    exact reads_units_escape (reads_escape_short row inside tail) later
  · rw [written, if_pos small]
    exact reads_units_plain quote backslash visible later
  · rw [written, if_pos small]
    exact reads_units_escape (reads_escape_unit small tail) later
  · rw [written, if_neg (Nat.not_lt.mpr large), List.append_assoc]
    apply reads_units_escape (reads_escape_unit (by omega) _)
    exact reads_units_escape (reads_escape_unit (by omega) tail) later

theorem reads_units_text (text rest : List Char) :
    Reads (units (text.flatMap escaped ++ '"' :: rest)) (text.flatMap charUnits) rest := by
  induction text with
  | nil => exact reads_units_end rest
  | cons c text ih =>
      rw [List.flatMap_cons, List.flatMap_cons, List.append_assoc]
      exact reads_units_escaped ih

theorem joined_small {unit : Nat} (plain : unit < 0xd800 ∨ 0xe000 ≤ unit) (more : List Nat) :
    joined (unit :: more) = Char.ofNat unit :: joined more := by
  have single : joined.single unit = Char.ofNat unit := by
    rw [joined.single, if_neg (by omega)]
  cases more with
  | nil => rw [joined, single, joined]
  | cons next more => rw [joined, if_neg (by omega), single]

/-- A pair of surrogates is put together again. -/
theorem joined_text (text : List Char) : joined (text.flatMap charUnits) = text := by
  induction text with
  | nil => rfl
  | cons c text ih =>
      have bound := toNat_lt c
      rw [List.flatMap_cons, charUnits]
      split
      · rw [List.singleton_append, joined_small (toNat_ne_surrogate c), ih, Char.ofNat_toNat]
      · have whole : 0x10000 + (0xd800 + (c.toNat - 0x10000) / 0x400 - 0xd800) * 0x400 +
            (0xdc00 + (c.toNat - 0x10000) % 0x400 - 0xdc00) = c.toNat := by
          omega
        rw [List.cons_append, List.cons_append, List.nil_append, joined, if_pos (by omega), whole, Char.ofNat_toNat, ih]

end

theorem reads_quoted (text : String) (rest : List Char) :
    Reads (quoted (text.toList.flatMap escaped ++ '"' :: rest)) text rest := by
  obtain ⟨shorter, read⟩ := reads_units_text text.toList rest
  refine ⟨shorter, ?_⟩
  rw [quoted, read]
  simp only [Except.map, Taken.map, joined_text, String.ofList_toList]

/-! ## Reading a number back -/

/-- No number goes on here. -/
def Ended (rest : List Char) : Prop :=
  ∀ c ∈ rest.head?, c.isDigit = false ∧ c ≠ '.' ∧ c ≠ 'e' ∧ c ≠ 'E'

section

variable {rest : List Char}

theorem digitChar_ne_zero : ∀ n < 10, 0 < n → n.digitChar ≠ '0' := by decide

theorem head_toDigits (n : Nat) (positive : 0 < n) :
    ∃ c more, Nat.toDigits 10 n = c :: more ∧ c ≠ '0' ∧ ∀ d ∈ c :: more, d.isDigit = true := by
  obtain ⟨c, more, split⟩ := List.exists_cons_of_ne_nil (Nat.toDigits_ne_nil (n := n) (b := 10))
  refine ⟨c, more, split, ?_, fun d inside => ?_⟩
  · induction n using Nat.strong_induction_on generalizing c more with
    | _ n ih =>
        rw [Nat.toDigits_eq_if (by decide)] at split
        split at split
        · rename_i small
          rw [List.cons.injEq] at split
          rw [← split.1]
          exact digitChar_ne_zero n small positive
        · rename_i large
          obtain ⟨c', more', split'⟩ := List.exists_cons_of_ne_nil (Nat.toDigits_ne_nil (n := n / 10) (b := 10))
          rw [split', List.cons_append, List.cons.injEq] at split
          rw [← split.1]
          exact ih (n / 10) (by omega) (by omega) c' more' split'
  · exact Nat.isDigit_of_mem_toDigits (by decide) (by decide) (split ▸ inside)

theorem natOf_toDigits (n : Nat) : natOf (Nat.toDigits 10 n) = n := by
  have same : ∀ digits : List Char, ∀ init, digits.foldl (fun acc c => acc * 10 + (c.toNat - 48)) init =
      Nat.ofDigitChars 10 digits init := by
    intro digits
    induction digits with
    | nil => exact fun _ => rfl
    | cons c digits ih =>
        intro init
        rw [List.foldl_cons, ih, Nat.ofDigitChars_cons, Nat.mul_comm]
        rfl
  rw [natOf, same, Nat.ofDigitChars_ten_toDigits]

theorem reads_wholeDigits (n : Nat) (ended : Ended rest) :
    Reads (wholeDigits (Nat.toDigits 10 n ++ rest)) (Nat.toDigits 10 n) rest := by
  rcases Nat.eq_zero_or_pos n with rfl | positive
  · exact ⟨Nat.lt_succ_self _, rfl⟩
  · obtain ⟨c, more, split, nonzero, digits⟩ := head_toDigits n positive
    rw [split]
    have stop : rest.takeWhile Char.isDigit = [] ∧ rest.dropWhile Char.isDigit = rest := by
      cases rest with
      | nil => exact ⟨rfl, rfl⟩
      | cons d rest =>
          have other := (ended d rfl).1
          exact ⟨List.takeWhile_cons_of_neg (by simp [other]), List.dropWhile_cons_of_neg (by simp [other])⟩
    have taken : (more ++ rest).takeWhile Char.isDigit = more := by
      rw [List.takeWhile_append_of_pos fun d inside => digits d (List.mem_cons_of_mem _ inside), stop.1,
        List.append_nil]
    have left : (more ++ rest).dropWhile Char.isDigit = rest := by
      rw [List.dropWhile_append_of_pos fun d inside => digits d (List.mem_cons_of_mem _ inside), stop.2]
    refine ⟨by simp only [List.cons_append, List.length_cons, List.length_append]; omega, ?_⟩
    simp only [List.cons_append, wholeDigits, if_neg nonzero, if_pos (digits c List.mem_cons_self), taken, left]

theorem fraction_ended (ended : Ended rest) : fraction rest = ([], rest) := by
  unfold fraction
  split
  · exact absurd rfl (ended '.' rfl).2.1
  · rfl

theorem exponent_ended (ended : Ended rest) : exponent rest = (none, rest) := by
  unfold exponent
  split
  · rename_i e rest
    rw [if_neg]
    rintro ⟨rfl | rfl, _⟩
    · exact (ended 'e' rfl).2.2.1 rfl
    · exact (ended 'E' rfl).2.2.2 rfl
  · rfl

theorem reads_unsigned (negative : Bool) (n : Nat) (short : (Nat.toDigits 10 n).length ≤ maxStrDigits)
    (ended : Ended rest) :
    Reads (unsigned negative (Nat.toDigits 10 n ++ rest)) (.int (if negative then -n else n)) rest := by
  obtain ⟨shorter, whole⟩ := reads_wholeDigits n ended
  refine ⟨shorter, ?_⟩
  rw [unsigned, whole]
  simp only [bind, Except.bind, fraction_ended ended, exponent_ended ended, List.isEmpty_nil, Option.isNone_none,
    Bool.and_self, if_true, if_neg (Nat.not_lt.mpr short), natOf_toDigits, pure, Except.pure]

end

/-! ## Reading a value back -/

section

variable {floatText : Binary64 → List Char} {depth : Nat} {rest : List Char}

theorem skipSpace_cons {c : Char} (dark : isSpace c = false) (s : List Char) : skipSpace (c :: s) = c :: s :=
  List.dropWhile_cons_of_neg (by simp [dark])

theorem skipSpace_blank (s : List Char) : skipSpace (' ' :: s) = skipSpace s := List.dropWhile_cons_of_pos rfl

theorem Reads.skipped {α : Type} {s : List Char} {result : Except Failure (Taken α (skipSpace s))} {value : α}
    (read : Reads result value rest) : Reads (result.map Taken.skipped) value rest := by
  obtain ⟨shorter, rfl⟩ := read
  exact ⟨_, rfl⟩

theorem reads_mark {c : Char} (dark : isSpace c = false) (s : List Char) : Reads (mark (c :: s)) c s := by
  apply Reads.skipped
  rw [skipSpace_cons dark]
  exact ⟨Nat.lt_succ_self _, rfl⟩

theorem separated_cons (part next : List Char) (parts : List (List Char)) :
    separated (part :: next :: parts) = part ++ ',' :: ' ' :: separated (next :: parts) := rfl

/-- The text begins, and neither with white space nor with a closing bracket. -/
def Begins (s : List Char) : Prop := ∃ c tail, s = c :: tail ∧ isSpace c = false ∧ c ≠ ']' ∧ c ≠ '}'

theorem Begins.append {s : List Char} (begins : Begins s) (t : List Char) : Begins (s ++ t) := by
  obtain ⟨c, tail, rfl, opening⟩ := begins
  exact ⟨c, tail ++ t, rfl, opening⟩

theorem Begins.skipSpace {s : List Char} (begins : Begins s) : skipSpace s = s := by
  obtain ⟨c, tail, rfl, dark, _⟩ := begins
  exact skipSpace_cons dark tail

theorem ended_of_head {c : Char} {s : List Char} (head : c = ',' ∨ c = ']' ∨ c = '}') : Ended (c :: s) := by
  rintro _ ⟨⟩
  rcases head with rfl | rfl | rfl <;> decide

/-- The reader takes the text of this value off whatever it stands in front of. -/
structure ReadsBack {α : Type} (item : Reader α) (text : List Char) (value : α) : Prop where
  begins : Begins text
  reads : ∀ rest, Ended rest → Reads (item (text ++ rest)) value rest

/-- A value of Python, whose dictionaries have each key once, that is written and read where
    the stack admits `depth` nested arrays and objects; the text of each of its floating-point
    numbers reads back as this number. -/
def Writable (floatText : Binary64 → List Char) : Nat → Json → Prop
  | _, .null | _, .bool _ | _, .str _ => True
  | _, .int n => (Nat.toDigits 10 n.natAbs).length ≤ maxStrDigits
  | depth, .float x => ReadsBack (value depth) (floatText x) (.float x)
  | 0, .arr _ | 0, .obj _ => False
  | depth + 1, .arr items => ∀ item ∈ items, Writable floatText depth item
  | depth + 1, .obj members =>
      (members.map (·.1)).Nodup ∧ ∀ member ∈ members, Writable floatText depth member.2

section

variable {α : Type} {item : Reader α} {write : α → List Char} {close : Char}

theorem begins_separated {part : List Char} (begins : Begins part) (parts : List (List Char)) (tail : List Char) :
    Begins (separated (part :: parts) ++ tail) := by
  cases parts with
  | nil => exact begins.append tail
  | cons next parts =>
      rw [separated, List.append_assoc]
      exact begins.append _

section

variable {s tail tail' : List Char} {value : α} {values : List α}

theorem reads_items_last (first : Reads (item s) value tail) (next : Reads (mark tail) close rest) :
    Reads (items item close s) [value] rest := by
  obtain ⟨shorter, first⟩ := first
  obtain ⟨shorter', next⟩ := next
  refine ⟨shorter'.trans shorter, ?_⟩
  rw [items, first]
  simp only [bind, Except.bind, next, if_true]
  rfl

theorem reads_items_more (comma : ',' ≠ close) (first : Reads (item s) value tail)
    (next : Reads (mark tail) ',' tail') (later : Reads (items item close (skipSpace tail')) values rest) :
    Reads (items item close s) (value :: values) rest := by
  obtain ⟨shorter, first⟩ := first
  obtain ⟨shorter', next⟩ := next
  obtain ⟨shorter'', later⟩ := later
  refine ⟨(shorter''.trans_le (length_skipSpace_le _)).trans (shorter'.trans shorter), ?_⟩
  rw [items, first]
  simp only [bind, Except.bind, next, if_neg comma, if_true, later]
  rfl

end

/-- The items of a collection read back, one after the other. -/
theorem reads_items (closing : close = ']' ∨ close = '}') (rest : List Char) (values : List α) :
    values ≠ [] → (∀ value ∈ values, ReadsBack item (write value) value) →
      Reads (items item close (separated (values.map write) ++ close :: rest)) values rest := by
  have dark : isSpace close = false := by
    rcases closing with rfl | rfl <;> decide
  have comma : ',' ≠ close := by
    rcases closing with rfl | rfl <;> decide
  induction values with
  | nil => exact fun nonempty => absurd rfl nonempty
  | cons value values ih =>
      intro _ back
      have reads := (back value List.mem_cons_self).reads
      cases values with
      | nil => exact reads_items_last (reads (close :: rest) (ended_of_head (.inr closing))) (reads_mark dark rest)
      | cons second values =>
          have later := ih nofun fun value inside => back value (List.mem_cons_of_mem _ inside)
          have begins := begins_separated (back second (List.mem_cons_of_mem _ List.mem_cons_self)).begins
            (values.map write) (close :: rest)
          rw [List.map_cons, List.map_cons, separated_cons, List.append_assoc, List.cons_append, List.cons_append]
          apply reads_items_more comma (reads _ (ended_of_head (.inl rfl))) (reads_mark (by decide) _)
          rw [skipSpace_blank, begins.skipSpace]
          exact later

theorem reads_collection (closing : close = ']' ∨ close = '}') (rest : List Char) (values : List α)
    (back : ∀ value ∈ values, ReadsBack item (write value) value) :
    Reads (collection item close (separated (values.map write) ++ close :: rest)) values rest := by
  have dark : isSpace close = false := by
    rcases closing with rfl | rfl <;> decide
  cases values with
  | nil =>
      obtain ⟨shorter, next⟩ := reads_mark dark rest
      refine ⟨shorter, ?_⟩
      change collection item close (close :: rest) = _
      rw [collection, next]
      simp only [bind, Except.bind, if_true]
      rfl
  | cons value values =>
      have read := reads_items closing rest (value :: values) nofun back
      obtain ⟨c, tail, text, dark', notBracket, notBrace⟩ :=
        begins_separated (back value List.mem_cons_self).begins (values.map write) (close :: rest)
      rw [List.map_cons, text] at read ⊢
      obtain ⟨_, next⟩ := reads_mark dark' tail
      have other : c ≠ close := by
        rcases closing with rfl | rfl
        · exact notBracket
        · exact notBrace
      rw [← skipSpace_cons dark' tail] at read
      obtain ⟨shorter, read⟩ := read
      refine ⟨shorter.trans_le (length_skipSpace_le _), ?_⟩
      rw [collection, next]
      simp only [bind, Except.bind, if_neg other, read]
      rfl

end

theorem dumpsItems_eq (items : List Json) : dumpsItems floatText items = items.map (dumps floatText) := by
  induction items with
  | nil => rfl
  | cons value rest ih => rw [dumpsItems, ih, List.map_cons]

def memberText (floatText : Binary64 → List Char) (member : String × Json) : List Char :=
  quotedText member.1 ++ ':' :: ' ' :: dumps floatText member.2

theorem dumpsMembers_eq (members : List (String × Json)) :
    dumpsMembers floatText members = members.map (memberText floatText) := by
  induction members with
  | nil => rfl
  | cons member rest ih => rw [dumpsMembers, ih, List.map_cons, memberText]

theorem quotedText_append (text : String) (rest : List Char) :
    quotedText text ++ rest = '"' :: (text.toList.flatMap escaped ++ '"' :: rest) := by
  rw [quotedText, List.cons_append, List.append_assoc, List.singleton_append]

theorem begins_quotedText (text : String) : Begins (quotedText text) :=
  ⟨'"', _, rfl, by decide, by decide, by decide⟩

theorem Reads.behind {α β : Type} {s : List Char} {result : Except Failure (Taken α s)} {value : α}
    (read : Reads result value rest) (f : α → β) (c : Char) :
    Reads (result.map fun taken => (taken.map f).behind c) (f value) rest := by
  obtain ⟨shorter, rfl⟩ := read
  exact ⟨shorter.trans (Nat.lt_succ_self _), rfl⟩

theorem reads_member {read : Reader Json} {s tail tail' : List Char} {key : String} {v : Json}
    (name : Reads (quoted s) key tail) (next : Reads (mark tail) ':' tail')
    (behind : Reads (read (skipSpace tail')) v rest) : Reads (member read ('"' :: s)) (key, v) rest := by
  obtain ⟨shorter, name⟩ := name
  obtain ⟨shorter', next⟩ := next
  obtain ⟨shorter'', behind⟩ := behind
  have before := (shorter''.trans_le (length_skipSpace_le _)).trans (shorter'.trans shorter)
  refine ⟨before.trans (Nat.lt_succ_self _), ?_⟩
  rw [member, name]
  simp only [bind, Except.bind, next, if_true, behind]
  rfl

theorem readsBack_member {m : String × Json} (back : ReadsBack (value depth) (dumps floatText m.2) m.2) :
    ReadsBack (member (value depth)) (memberText floatText m) m where
  begins := (begins_quotedText m.1).append _
  reads := by
    intro rest ended
    rw [memberText, List.append_assoc, quotedText_append, List.cons_append, List.cons_append]
    apply reads_member (reads_quoted m.1 _) (reads_mark (by decide) _)
    rw [skipSpace_blank, (back.begins.append rest).skipSpace]
    exact back.reads rest ended

/-! ### Constants and numbers -/

theorem value_atom {c : Char} (plain : c ≠ '"' ∧ c ≠ '{' ∧ c ≠ '[') (s : List Char) :
    value depth (c :: s) = atom (c :: s) := by
  apply value.eq_6
  · exact fun _ same => plain.1 (List.cons.inj same).1
  · exact fun _ _ same => plain.2.1 (List.cons.inj same).1
  · exact fun _ _ same => plain.2.2 (List.cons.inj same).1
  · exact fun _ _ _ same => plain.2.1 (List.cons.inj same).1
  · exact fun _ _ _ same => plain.2.2 (List.cons.inj same).1

theorem reads_constant {name : String} {v : Json} (first : constants.find? (fun constant =>
      constant.1.toList.isPrefixOf (name.toList ++ rest)) = some (name, v)) (named : name ≠ "") :
    Reads (atom (name.toList ++ rest)) v rest := by
  have dropped : (name.toList ++ rest).drop name.length = rest := by
    rw [← String.length_toList]
    exact List.drop_left
  have shorter : rest.length < (name.toList ++ rest).length := by
    have nonempty : name.toList ≠ [] := mt String.toList_eq_nil_iff.mp named
    have := List.length_pos_iff.mpr nonempty
    rw [List.length_append]
    omega
  refine ⟨shorter, ?_⟩
  rw [atom, first]
  simp only [dropped, dif_pos shorter]

theorem number_plain {c : Char} (other : c ≠ '-') (s : List Char) : number (c :: s) = unsigned false (c :: s) :=
  number.eq_2 _ fun _ same => other (List.cons.inj same).1

/-- The text of a number begins with a digit, or with a sign and a digit. -/
theorem intText_cases (n : Int) :
    (∃ c more, intText n = '-' :: Nat.toDigits 10 n.natAbs ∧ Nat.toDigits 10 n.natAbs = c :: more ∧
        c.isDigit = true ∧ n < 0) ∨
      ∃ c more, intText n = Nat.toDigits 10 n.natAbs ∧ Nat.toDigits 10 n.natAbs = c :: more ∧
        c.isDigit = true ∧ 0 ≤ n := by
  obtain ⟨c, more, split⟩ := List.exists_cons_of_ne_nil (Nat.toDigits_ne_nil (n := n.natAbs) (b := 10))
  have digit : c.isDigit = true := Nat.isDigit_of_mem_toDigits (by decide) (by decide) (split ▸ List.mem_cons_self)
  by_cases negative : n < 0
  · exact .inl ⟨c, more, if_pos negative, split, digit, negative⟩
  · exact .inr ⟨c, more, if_neg negative, split, digit, by omega⟩

theorem ne_of_isDigit {c d : Char} (digit : c.isDigit = true) (other : d.isDigit = false) : c ≠ d := by
  rintro rfl
  rw [digit] at other
  cases other

theorem Reads.negative {s : List Char} {v : Json} (read : Reads (unsigned true s) v rest) :
    Reads (number ('-' :: s)) v rest := by
  obtain ⟨shorter, read⟩ := read
  refine ⟨shorter.trans (Nat.lt_succ_self _), ?_⟩
  rw [number, read]
  rfl

theorem reads_number (n : Int) (short : (Nat.toDigits 10 n.natAbs).length ≤ maxStrDigits) (ended : Ended rest) :
    Reads (number (intText n ++ rest)) (.int n) rest := by
  rcases intText_cases n with ⟨c, more, text, split, digit, negative⟩ | ⟨c, more, text, split, digit, positive⟩
  · have same : -(n.natAbs : Int) = n := by omega
    have read := reads_unsigned true n.natAbs short ended
    rw [if_pos rfl, same] at read
    rw [text]
    exact read.negative
  · have same : (n.natAbs : Int) = n := by omega
    have read := reads_unsigned false n.natAbs short ended
    rw [if_neg Bool.false_ne_true, same] at read
    rw [text]
    rw [split, List.cons_append] at read ⊢
    rwa [number_plain (ne_of_isDigit digit (by decide))]

/-- No constant begins with a digit, or with a sign and a digit. -/
theorem constants_intText (n : Int) :
    constants.find? (fun constant => constant.1.toList.isPrefixOf (intText n ++ rest)) = none := by
  have letter : ∀ {c : Char}, c.isDigit = true → ∀ d : Char, d.isDigit = false → ¬ d = c :=
    fun digit _ other => (ne_of_isDigit digit other).symm
  rcases intText_cases n with ⟨c, more, text, split, digit, _⟩ | ⟨c, more, text, split, digit, _⟩
  · rw [text, split]
    simp [constants, letter digit 'I' rfl]
  · rw [text, split]
    simp [constants, letter digit 'n' rfl, letter digit 't' rfl, letter digit 'f' rfl, letter digit 'N' rfl,
      letter digit 'I' rfl, letter digit '-' rfl]

theorem readsBack_int {n : Int} (short : (Nat.toDigits 10 n.natAbs).length ≤ maxStrDigits) :
    ReadsBack (value depth) (intText n) (.int n) := by
  have head : ∃ c more, intText n = c :: more ∧ (c = '-' ∨ c.isDigit = true) := by
    rcases intText_cases n with ⟨c, more, text, split, digit, _⟩ | ⟨c, more, text, split, digit, _⟩
    · exact ⟨'-', _, text, .inl rfl⟩
    · exact ⟨c, more, text.trans split, .inr digit⟩
  obtain ⟨c, more, text, kind⟩ := head
  have other : ∀ d : Char, d ≠ '-' → d.isDigit = false → c ≠ d := by
    intro d sign letter
    rcases kind with rfl | digit
    · exact sign.symm
    · exact ne_of_isDigit digit letter
  constructor
  case begins =>
    refine ⟨c, more, text, ?_, other ']' (by decide) rfl, other '}' (by decide) rfl⟩
    simp [isSpace, other ' ' (by decide) rfl, other '\t' (by decide) rfl, other '\n' (by decide) rfl,
      other '\r' (by decide) rfl]
  case reads =>
    intro rest ended
    have read : Reads (atom (intText n ++ rest)) (.int n) rest := by
      rw [atom, constants_intText]
      exact reads_number n short ended
    rw [text, List.cons_append] at read ⊢
    rwa [value_atom ⟨other '"' (by decide) rfl, other '{' (by decide) rfl, other '[' (by decide) rfl⟩]

theorem readsBack_constant (name : String) {v : Json} {c : Char} {more : List Char} (text : name.toList = c :: more)
    (opening : isSpace c = false ∧ c ≠ ']' ∧ c ≠ '}') (plain : c ≠ '"' ∧ c ≠ '{' ∧ c ≠ '[')
    (first : ∀ rest, constants.find? (fun constant => constant.1.toList.isPrefixOf (name.toList ++ rest)) =
      some (name, v)) : ReadsBack (value depth) name.toList v where
  begins := ⟨c, more, text, opening⟩
  reads := by
    intro rest _
    have read := reads_constant (first rest) (by rintro rfl; cases text)
    rw [text, List.cons_append] at read ⊢
    rwa [value_atom plain]

theorem readsBack_null : ReadsBack (value depth) "null".toList .null :=
  readsBack_constant "null" rfl (by decide) (by decide) fun _ => by simp [constants]

theorem readsBack_bool (b : Bool) : ReadsBack (value depth) (dumps floatText (.bool b)) (.bool b) := by
  cases b with
  | false => exact readsBack_constant "false" rfl (by decide) (by decide) fun _ => by simp [constants]
  | true => exact readsBack_constant "true" rfl (by decide) (by decide) fun _ => by simp [constants]

theorem readsBack_str (text : String) : ReadsBack (value depth) (quotedText text) (.str text) where
  begins := begins_quotedText text
  reads := by
    intro rest _
    rw [quotedText_append, value]
    exact (reads_quoted text rest).behind Json.str '"'

theorem readsBack_arr {items : List Json}
    (each : ∀ item ∈ items, ReadsBack (value depth) (dumps floatText item) item) :
    ReadsBack (value (depth + 1)) (dumps floatText (.arr items)) (.arr items) where
  begins := ⟨'[', _, rfl, by decide, by decide, by decide⟩
  reads := by
    intro rest _
    rw [dumps, dumpsItems_eq, List.cons_append, List.append_assoc, List.singleton_append, value]
    exact (reads_collection (.inl rfl) rest items each).behind Json.arr '['

theorem readsBack_obj {members : List (String × Json)}
    (each : ∀ m ∈ members, ReadsBack (value depth) (dumps floatText m.2) m.2) :
    ReadsBack (value (depth + 1)) (dumps floatText (.obj members)) (.obj members) where
  begins := ⟨'{', _, rfl, by decide, by decide, by decide⟩
  reads := by
    intro rest _
    rw [dumps, dumpsMembers_eq, List.cons_append, List.append_assoc, List.singleton_append, value]
    have read := reads_collection (.inr rfl) rest members fun m inside => readsBack_member (each m inside)
    exact read.behind Json.obj '{'

/-- A value that stands in front of anything a number cannot go on with reads back. -/
theorem readsBack_dumps {v : Json} (writable : Writable floatText depth v) :
    ReadsBack (value depth) (dumps floatText v) v := by
  induction depth generalizing v with
  | zero =>
      cases v with
      | null => exact readsBack_null
      | bool b => exact readsBack_bool b
      | int n => exact readsBack_int writable
      | str text => exact readsBack_str text
      | float x => exact writable
      | arr | obj => exact writable.elim
  | succ depth ih =>
      cases v with
      | null => exact readsBack_null
      | bool b => exact readsBack_bool b
      | int n => exact readsBack_int writable
      | str text => exact readsBack_str text
      | float x => exact writable
      | arr items => exact readsBack_arr fun item inside => ih (writable item inside)
      | obj members => exact readsBack_obj fun m inside => ih (writable.2 m inside)

/-- A value of Python keeps its members. -/
theorem dicts_of_writable {v : Json} (writable : Writable floatText depth v) : dicts v = v := by
  induction depth generalizing v with
  | zero =>
      cases v with
      | arr | obj => exact writable.elim
      | null | bool | int | float | str => rfl
  | succ depth ih =>
      cases v with
      | arr items => rw [dicts, dictsItems_eq fun item inside => ih (writable item inside)]
      | obj members => rw [dicts, dictsMembers_eq writable.1 fun m inside => ih (writable.2 m inside)]
      | null | bool | int | float | str => rfl

/-- What is written reads back as the same value. -/
theorem loads_dumps {v : Json} (writable : Writable floatText depth v) : loads depth (dumps floatText v) = .ok v := by
  have back : ReadsBack (value depth) (dumps floatText v) v := readsBack_dumps writable
  have read := back.reads [] nofun
  rw [List.append_nil] at read
  rw [loads, back.begins.skipSpace]
  obtain ⟨shorter, read⟩ := read
  rw [read]
  rfl

end

end Json
