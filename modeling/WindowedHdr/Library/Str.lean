import Mathlib.Data.List.DropRight
import Mathlib.Tactic.Common

/-!
# Operations on Unicode text

A text is the list of its characters; offsets into it count the bytes of its UTF-8 encoding.
`slice` has a value only between two character boundaries (`slice_append`), and `lines` cuts
a text at its line feeds (`lines_append`).
-/

namespace Str

/-- The characters with the property `White_Space`. -/
def isWhitespace (c : Char) : Bool :=
  let n := c.toNat
  (9 ≤ n && n ≤ 13) || n == 0x20 || n == 0x85 || n == 0xA0 || n == 0x1680 ||
    (0x2000 ≤ n && n ≤ 0x200A) || n == 0x2028 || n == 0x2029 || n == 0x202F || n == 0x205F ||
    n == 0x3000

/-- The text without the whitespace at both of its ends. -/
def trim (s : List Char) : List Char := (s.dropWhile isWhitespace).rdropWhile isWhitespace

/-- The text with `A` to `Z` in lower case. -/
def toAsciiLowercase (s : List Char) : List Char := s.map Char.toLower

/-- The texts differ in the case of `A` to `Z` at most. -/
def eqIgnoreAsciiCase (s t : List Char) : Bool := toAsciiLowercase s == toAsciiLowercase t

/-- What stands before and after the first `c`. -/
def splitOnce (c : Char) (s : List Char) : Option (List Char × List Char) :=
  if c ∈ s then some (s.takeWhile (· != c), (s.dropWhile (· != c)).tail) else none

/-- The text before a final `c`. -/
def stripSuffix (c : Char) (s : List Char) : Option (List Char) :=
  if s.getLast? = some c then some s.dropLast else none

/-! ### Byte offsets -/

/-- The number of bytes. -/
def len : List Char → Nat
  | [] => 0
  | c :: s => c.utf8Size + len s

/-- The text in two parts, the first of `n` bytes; `none` when that is not between two
characters. -/
def splitAtByte (n : Nat) : List Char → Option (List Char × List Char)
  | [] => if n = 0 then some ([], []) else none
  | c :: s =>
    if n = 0 then some ([], c :: s)
    else if c.utf8Size ≤ n then
      (splitAtByte (n - c.utf8Size) s).map fun (front, rest) => (c :: front, rest)
    else none

/-- `s[start..finish]`. -/
def slice (s : List Char) (start finish : Nat) : Option (List Char) :=
  if start ≤ finish then
    (splitAtByte finish s).bind fun parts => (splitAtByte start parts.1).map Prod.snd
  else none

/-- Bytes add up. -/
theorem len_append (s t : List Char) : len (s ++ t) = len s + len t := by
  induction s with
  | nil => simp [len]
  | cons c s ih => rw [List.cons_append, len, len, ih, Nat.add_assoc]

/-- Nothing stands in front of the first byte. -/
theorem splitAtByte_zero (s : List Char) : splitAtByte 0 s = some ([], s) := by
  cases s <;> rfl

/-- A text splits where its first part ends. -/
theorem splitAtByte_append (s t : List Char) : splitAtByte (len s) (s ++ t) = some (s, t) := by
  induction s with
  | nil => exact splitAtByte_zero t
  | cons c s ih =>
    -- a character has a byte, so the offset is past it
    have hpos : c.utf8Size ≠ 0 := Nat.pos_iff_ne_zero.mp c.utf8Size_pos
    rw [List.cons_append, len, splitAtByte, if_neg (by omega), if_pos (by omega),
      Nat.add_sub_cancel_left, ih, Option.map_some]

/-- The slice between two character boundaries. -/
theorem slice_append (s t u : List Char) :
    slice (s ++ t ++ u) (len s) (len s + len t) = some t := by
  -- cut at the end first, and at the start of what is left then
  rw [slice, if_pos (Nat.le_add_right _ _), ← len_append, splitAtByte_append, Option.bind_some,
    splitAtByte_append, Option.map_some]

/-! ### Lines -/

/-- A line feed. -/
def lineFeed : Char := Char.ofNat 0x0A

/-- A carriage return. -/
def carriageReturn : Char := Char.ofNat 0x0D

/-- The text cut behind each of its line feeds. -/
def splitInclusive : List Char → List (List Char)
  | [] => []
  | c :: s =>
    if c = lineFeed then [c] :: splitInclusive s
    else
      match splitInclusive s with
      | [] => [[c]]
      | piece :: pieces => (c :: piece) :: pieces

/-- The piece without the characters that end the line. -/
def stripLineEnd (piece : List Char) : List Char :=
  match stripSuffix lineFeed piece with
  | none => piece
  | some line => (stripSuffix carriageReturn line).getD line

/-- The lines of the text. -/
def lines (s : List Char) : List (List Char) := (splitInclusive s).map stripLineEnd

/-- A line feed ends its piece, so what follows is cut by itself. -/
theorem splitInclusive_append (s t : List Char) :
    splitInclusive (s ++ lineFeed :: t) = splitInclusive (s ++ [lineFeed]) ++ splitInclusive t := by
  induction s with
  | nil => simp [splitInclusive]
  | cons c s ih =>
    rw [List.cons_append, List.cons_append, splitInclusive, splitInclusive, ih]
    split
    -- a line feed in front is a piece of its own
    · rw [List.cons_append]
    · -- `s` ends with a line feed here, so its first piece is there to be extended
      cases hs : splitInclusive (s ++ [lineFeed]) with
      | nil =>
        exfalso
        cases s with
        | nil => simp [splitInclusive] at hs
        | cons c' s =>
          rw [List.cons_append, splitInclusive] at hs
          split at hs
          · cases hs
          · split at hs <;> cases hs
      | cons piece pieces => rfl

/-- The lines of a text, a line feed and another text. -/
theorem lines_append (s t : List Char) :
    lines (s ++ lineFeed :: t) = lines (s ++ [lineFeed]) ++ lines t := by
  rw [lines, splitInclusive_append, List.map_append, lines, lines]

end Str
