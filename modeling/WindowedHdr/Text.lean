import Mathlib.Algebra.Group.Nat.Defs
import Mathlib.Tactic.Common

/-!
# Formatting of numbers and addresses

The format specifiers that the error texts of this repository use.
-/

namespace WindowedHdr

/-- Zeros in front of `digits`, up to `width` characters. -/
def padZeros (width : Nat) (digits : String) : String :=
  String.ofList (List.replicate (width - digits.length) '0') ++ digits

/-- `{n:0widthX}`. -/
def hexUpper (width n : Nat) : String :=
  padZeros width (String.ofList ((Nat.toDigits 16 n).map Char.toUpper))

/-- `{address:p}`. -/
def pointerText (address : UInt64) : String :=
  "0x" ++ String.ofList (Nat.toDigits 16 address.toNat)

example : hexUpper 8 0x2B152C8 = "02B152C8" := by decide

/-! ### Text from bytes -/

/-- The bytes of an ASCII text. -/
def asciiBytes (text : String) : List UInt8 := text.toList.map fun c => UInt8.ofNat c.toNat

/-- The text with these ASCII bytes. -/
def asciiText (bytes : List UInt8) : String :=
  String.ofList (bytes.map fun byte => Char.ofNat byte.toNat)

/-- A text of ASCII bytes has one character for each. -/
@[simp] theorem length_asciiText (bytes : List UInt8) :
    (asciiText bytes).length = bytes.length := by
  rw [asciiText, String.length_ofList, List.length_map]

/-- The character of an ASCII byte. -/
theorem toNat_ofNat_of_ascii {byte : UInt8} (h : byte < 128) :
    (Char.ofNat byte.toNat).toNat = byte.toNat := by
  have hlt : byte.toNat < 128 := UInt8.lt_iff_toNat_lt.mp h
  have hvalid : byte.toNat.isValidChar := .inl (by omega)
  rw [Char.ofNat, dif_pos hvalid]
  rfl

/-- ASCII bytes survive being read as text. -/
theorem asciiBytes_asciiText (bytes : List UInt8) (hascii : ∀ byte ∈ bytes, byte < 128) :
    asciiBytes (asciiText bytes) = bytes := by
  rw [asciiBytes, asciiText, String.toList_ofList, List.map_map]
  conv_rhs => rw [← List.map_id bytes]
  apply List.map_congr_left
  intro byte hbyte
  rw [Function.comp_apply, toNat_ofNat_of_ascii (hascii byte hbyte), UInt8.ofNat_toNat, id]

/-- `str::from_utf8`. -/
def fromUtf8 (bytes : List UInt8) : Option String := String.fromUTF8? bytes.toByteArray

/-- The UTF-8 encoding of an ASCII character is its byte. -/
theorem utf8EncodeChar_of_ascii {byte : UInt8} (h : byte < 128) :
    String.utf8EncodeChar (Char.ofNat byte.toNat) = [byte] := by
  have hchar := toNat_ofNat_of_ascii h
  have hlt : byte.toNat < 128 := UInt8.lt_iff_toNat_lt.mp h
  -- below 128 one byte is enough
  have hsize : (Char.ofNat byte.toNat).utf8Size = 1 := by
    rw [Char.utf8Size_eq_one_iff, UInt32.le_iff_toNat_le]
    show (Char.ofNat byte.toNat).toNat ≤ 127
    omega
  rw [String.utf8EncodeChar_eq_singleton hsize, List.singleton_inj, ← UInt8.toNat_inj,
    UInt32.toNat_toUInt8]
  show (Char.ofNat byte.toNat).toNat % 256 = byte.toNat
  omega

/-- **ASCII is UTF-8.** -/
theorem fromUtf8_of_ascii (bytes : List UInt8) (hascii : ∀ byte ∈ bytes, byte < 128) :
    fromUtf8 bytes = some (asciiText bytes) := by
  have hencode : bytes.toByteArray =
      (bytes.map fun byte => Char.ofNat byte.toNat).utf8Encode := by
    rw [List.utf8Encode, List.flatMap_map]
    congr 1
    induction bytes with
    | nil => rfl
    | cons byte bytes ih =>
      rw [List.flatMap_cons, utf8EncodeChar_of_ascii (hascii byte (by simp)),
        List.singleton_append, ← ih fun b hb => hascii b (List.mem_cons_of_mem byte hb)]
  -- an encoded text is valid, and the only text that it encodes
  have hvalid : bytes.toByteArray.IsValidUTF8 := ⟨_, hencode⟩
  rw [fromUtf8, String.fromUTF8?, dif_pos hvalid]
  exact congrArg some (String.toByteArray_inj.mp hencode)

/-- The ranges of the bytes that have to follow `lead` in a UTF-8 sequence; `none` when no
sequence starts with it. -/
def utf8Continuation (lead : UInt8) : Option (List (UInt8 × UInt8)) :=
  if lead ≤ 0x7F then some []
  else if 0xC2 ≤ lead ∧ lead ≤ 0xDF then some [(0x80, 0xBF)]
  else if lead = 0xE0 then some [(0xA0, 0xBF), (0x80, 0xBF)]
  else if lead = 0xED then some [(0x80, 0x9F), (0x80, 0xBF)]
  else if 0xE1 ≤ lead ∧ lead ≤ 0xEF then some [(0x80, 0xBF), (0x80, 0xBF)]
  else if lead = 0xF0 then some [(0x90, 0xBF), (0x80, 0xBF), (0x80, 0xBF)]
  else if 0xF1 ≤ lead ∧ lead ≤ 0xF3 then some [(0x80, 0xBF), (0x80, 0xBF), (0x80, 0xBF)]
  else if lead = 0xF4 then some [(0x80, 0x8F), (0x80, 0xBF), (0x80, 0xBF)]
  else none

/-- The bytes at the front that lie in the given ranges, one byte for each. -/
def takeRanges : List (UInt8 × UInt8) → List UInt8 → List UInt8
  | (low, high) :: ranges, byte :: bytes =>
    if low ≤ byte ∧ byte ≤ high then byte :: takeRanges ranges bytes else []
  | _, _ => []

/-- The code point of a complete sequence. -/
def utf8Decode (lead : UInt8) (tail : List UInt8) : Char :=
  -- the lead byte gives up one bit for each byte that follows, and one more
  let leadBits := if tail.isEmpty then 128 else 2 ^ (6 - tail.length)
  Char.ofNat (tail.foldl (fun value byte => value * 64 + byte.toNat % 64) (lead.toNat % leadBits))

/-- What stands for bytes that are not UTF-8. -/
def replacementCharacter : Char := Char.ofNat 0xFFFD

/-- Decode at most `fuel` sequences. -/
def decodeUtf8Lossy : Nat → List UInt8 → List Char
  | fuel + 1, lead :: bytes =>
    match utf8Continuation lead with
    -- a byte that starts no sequence is replaced alone
    | none => replacementCharacter :: decodeUtf8Lossy fuel bytes
    | some ranges =>
      let tail := takeRanges ranges bytes
      -- an incomplete sequence is replaced as a whole
      let decoded :=
        if tail.length = ranges.length then utf8Decode lead tail else replacementCharacter
      decoded :: decodeUtf8Lossy fuel (bytes.drop tail.length)
  | _, _ => []

/-- `String::from_utf8_lossy`. -/
def fromUtf8Lossy (bytes : List UInt8) : String :=
  String.ofList (decodeUtf8Lossy bytes.length bytes)

example : (fromUtf8Lossy [0x2E, 0xE2, 0x82, 0x74]).toList = ['.', replacementCharacter, 't'] := by
  decide

end WindowedHdr
