import Mathlib.Data.Nat.Prime.Defs
import WindowedHdr.Library.Blockwise
import WindowedHdr.Library.ByteMemory

/-!
# SHA-256

The secure hash algorithm SHA-256 as the standard states it, on bit strings: the padding
(section 5.1.1), the functions and constants (4.1.2, 4.2.2, 5.3.3), the message schedule and
the rounds (6.2.2). A word is a 32-bit unsigned integer, and bit strings are written with the
most significant bit first.

The constants are not written down but computed, as the standard defines them: the first
thirty-two bits of the fractional parts of the square and cube roots of the first primes
(`fractionOfRoot_spec`).

The second half reads the algorithm on messages of whole bytes (`sha256_bitsOfBytes`): the
padding appends the byte `0x80`, zero bytes and the length in eight bytes, and the words of a
block are big-endian.

Nothing here refers to an implementation. The definitions follow the sections of the standard in
their order, and are evaluated only on the constants; what is used of the hash itself is that it
iterates `compress` over the blocks of the padded message.
-/

namespace Fips180

/-- A bit string. -/
abbrev Bits : Type := List Bool

/-- The lowest `width` bits of a number. -/
def bitsOfNat (width value : Nat) : Bits :=
  (List.range width).map fun i => value.testBit (width - 1 - i)

/-- The number that a bit string denotes. -/
def natOfBits (bits : Bits) : Nat := bits.foldl (fun value bit => 2 * value + bit.toNat) 0

/-! ### Constants -/

/-- The largest `r` below `root + 2 ^ bits` with `r ^ k ≤ n`, built from its top bit down. -/
def integerRoot (k n : Nat) : Nat → Nat → Nat
  | 0, root => root
  | bit + 1, root =>
    integerRoot k n bit (if (root + 2 ^ bit) ^ k ≤ n then root + 2 ^ bit else root)

/-- The first sixty-four primes. -/
def primes : List Nat := (List.range 312).filter fun n => Nat.Prime n

/-- The first thirty-two bits of the fractional part of the `k`-th root of a small number. -/
def fractionOfRoot (k p : Nat) : UInt32 := .ofNat (integerRoot k (p * 2 ^ (32 * k)) 40 0)

/-- The constants `K_t`. -/
def roundConstant (t : Nat) : UInt32 := fractionOfRoot 3 (primes.getD t 0)

/-- The initial hash value. -/
def initialHash : Vector UInt32 8 := .ofFn fun i => fractionOfRoot 2 (primes.getD i 0)

/-- The result stays below the root and comes within one of it. The search keeps the root between
`root` and `root + 2 ^ bits`. -/
theorem integerRoot_spec {k n : Nat} (bits root : Nat) (hlow : root ^ k ≤ n)
    (hhigh : n < (root + 2 ^ bits) ^ k) :
    integerRoot k n bits root ^ k ≤ n ∧ n < (integerRoot k n bits root + 1) ^ k := by
  induction bits generalizing root with
  | zero => exact ⟨hlow, hhigh⟩
  | succ bit ih =>
    rw [integerRoot]
    -- the bit is kept exactly when the power is still not too large
    split
    · next hle =>
      refine ih _ hle ?_
      rwa [Nat.add_assoc, ← Nat.two_mul, ← pow_succ']
    · next hlt => exact ih _ hlow (not_le.mp hlt)

/-- What the constants are: `r` is the integral part of the root, scaled by `2 ^ 32`. -/
theorem fractionOfRoot_spec {k p : Nat} (hk : k ≠ 0) (hp : p < 2 ^ (8 * k)) :
    ∃ r, r ^ k ≤ p * 2 ^ (32 * k) ∧ p * 2 ^ (32 * k) < (r + 1) ^ k ∧
      fractionOfRoot k p = .ofNat r := by
  -- forty bits are enough for the root of a number below `2 ^ 8`, scaled
  have hhigh : p * 2 ^ (32 * k) < (0 + 2 ^ 40) ^ k := by
    calc p * 2 ^ (32 * k) < 2 ^ (8 * k) * 2 ^ (32 * k) :=
          Nat.mul_lt_mul_of_pos_right hp (Nat.two_pow_pos _)
      _ = (0 + 2 ^ 40) ^ k := by
          rw [Nat.zero_add, ← pow_add, ← pow_mul, ← Nat.add_mul]
  have hlow : 0 ^ k ≤ p * 2 ^ (32 * k) := by rw [zero_pow hk]; exact Nat.zero_le _
  obtain ⟨hle, hlt⟩ := integerRoot_spec 40 0 hlow hhigh
  exact ⟨_, hle, hlt, rfl⟩

/-! ### Functions -/

def rotr (n x : UInt32) : UInt32 := x >>> n ||| x <<< (32 - n)

def shr (n x : UInt32) : UInt32 := x >>> n

def ch (x y z : UInt32) : UInt32 := (x &&& y) ^^^ (~~~x &&& z)

def maj (x y z : UInt32) : UInt32 := (x &&& y) ^^^ (x &&& z) ^^^ (y &&& z)

/-- `Σ₀`. -/
def bigSigma0 (x : UInt32) : UInt32 := rotr 2 x ^^^ rotr 13 x ^^^ rotr 22 x

/-- `Σ₁`. -/
def bigSigma1 (x : UInt32) : UInt32 := rotr 6 x ^^^ rotr 11 x ^^^ rotr 25 x

/-- `σ₀`. -/
def smallSigma0 (x : UInt32) : UInt32 := rotr 7 x ^^^ rotr 18 x ^^^ shr 3 x

/-- `σ₁`. -/
def smallSigma1 (x : UInt32) : UInt32 := rotr 17 x ^^^ rotr 19 x ^^^ shr 10 x

/-! ### Hash computation -/

/-- The message schedule `W_t` of a block with words `M_t`. -/
def schedule (M : Nat → UInt32) (t : Nat) : UInt32 :=
  if t < 16 then
    M t
  else
    smallSigma1 (schedule M (t - 2)) + schedule M (t - 7) + smallSigma0 (schedule M (t - 15)) +
      schedule M (t - 16)
termination_by t

/-- The first sixteen words of the schedule are those of the block. -/
theorem schedule_of_lt {M : Nat → UInt32} {t : Nat} (ht : t < 16) : schedule M t = M t := by
  rw [schedule, if_pos ht]

/-- A later word of the schedule is a sum of four earlier ones. -/
theorem schedule_of_le {M : Nat → UInt32} {t : Nat} (ht : 16 ≤ t) :
    schedule M t = smallSigma1 (schedule M (t - 2)) + schedule M (t - 7) +
      smallSigma0 (schedule M (t - 15)) + schedule M (t - 16) := by
  rw [schedule, if_neg (not_lt.mpr ht)]

/-- The working variables. -/
structure Working where
  a : UInt32
  b : UInt32
  c : UInt32
  d : UInt32
  e : UInt32
  f : UInt32
  g : UInt32
  h : UInt32

/-- One round. -/
def Working.round (v : Working) (K W : UInt32) : Working :=
  let T₁ := v.h + bigSigma1 v.e + ch v.e v.f v.g + K + W
  let T₂ := bigSigma0 v.a + maj v.a v.b v.c
  { a := T₁ + T₂, b := v.a, c := v.b, d := v.c, e := v.d + T₁, f := v.e, g := v.f, h := v.g }

/-- The working variables before the first round. -/
def Working.ofHash (H : Vector UInt32 8) : Working :=
  ⟨H[0], H[1], H[2], H[3], H[4], H[5], H[6], H[7]⟩

/-- The sum with the previous hash value. -/
def Working.addHash (v : Working) (H : Vector UInt32 8) : Vector UInt32 8 :=
  #v[v.a + H[0], v.b + H[1], v.c + H[2], v.d + H[3], v.e + H[4], v.f + H[5], v.g + H[6],
    v.h + H[7]]

/-- The next hash value. -/
def compress (H : Vector UInt32 8) (M : Nat → UInt32) : Vector UInt32 8 :=
  let v := (List.range 64).foldl (fun v t => v.round (roundConstant t) (schedule M t))
    (Working.ofHash H)
  v.addHash H

/-- The words of a block. -/
def blockWords (block : Bits) (t : Nat) : UInt32 :=
  .ofNat (natOfBits ((block.drop (32 * t)).take 32))

/-- The zero bits between the message and its length. -/
def paddingZeros (length : Nat) : Nat := (448 + 512 - (length + 1) % 512) % 512

/-- The padded message. -/
def pad (message : Bits) : Bits :=
  message ++ true :: (List.replicate (paddingZeros message.length) false ++
    bitsOfNat 64 message.length)

/-- The message digest. -/
def sha256 (message : Bits) : Bits :=
  (chain (fun H block => compress H (blockWords block)) 512 initialHash
    (pad message)).toList.flatMap fun word => bitsOfNat 32 word.toNat

/-- The number of zero bits is the least one that leaves room for the length. -/
theorem paddingZeros_spec (length : Nat) :
    (length + 1 + paddingZeros length) % 512 = 448 ∧
      ∀ k, (length + 1 + k) % 512 = 448 → paddingZeros length ≤ k := by
  unfold paddingZeros
  refine ⟨by omega, fun k hk => by omega⟩

/-- A number is written in as many bits as the width says. -/
@[simp] theorem length_bitsOfNat (width value : Nat) : (bitsOfNat width value).length = width := by
  simp [bitsOfNat]

/-- The padded message is a number of whole blocks. -/
theorem dvd_length_pad (message : Bits) : 512 ∣ (pad message).length := by
  have h := (paddingZeros_spec message.length).1
  have hlen : (pad message).length = message.length + 1 + paddingZeros message.length + 64 := by
    simp [pad]
    omega
  omega

/-! ### Bits of numbers -/

/-- The high and the low bits of a number. -/
theorem bitsOfNat_add (high low value : Nat) :
    bitsOfNat (high + low) value = bitsOfNat high (value / 2 ^ low) ++ bitsOfNat low value := by
  rw [bitsOfNat, List.range_add, List.map_append, List.map_map]
  refine congrArg₂ (· ++ ·) (List.map_congr_left fun i hi => ?_)
    (List.map_congr_left fun i hi => ?_)
  -- the high bits are those of the quotient
  · have hi := List.mem_range.mp hi
    rw [Nat.testBit_div_two_pow, show high + low - 1 - i = low + (high - 1 - i) by omega,
      Nat.add_comm]
  · rw [Function.comp_apply, show high + low - 1 - (high + i) = low - 1 - i by omega]

/-- Only the lowest bits count. -/
theorem bitsOfNat_mod (width value : Nat) :
    bitsOfNat width (value % 2 ^ width) = bitsOfNat width value := by
  refine List.map_congr_left fun i hi => ?_
  have hi := List.mem_range.mp hi
  rw [Nat.testBit_mod_two_pow]
  simp
  omega

/-- The bits read so far count for as many places as there are bits left. -/
theorem foldl_bits (bits : Bits) (value : Nat) :
    bits.foldl (fun value bit => 2 * value + bit.toNat) value =
      value * 2 ^ bits.length + natOfBits bits := by
  induction bits generalizing value with
  | nil => simp [natOfBits]
  | cons bit bits ih =>
    rw [natOfBits, List.foldl_cons, List.foldl_cons, ih, ih (2 * 0 + bit.toNat),
      List.length_cons, pow_succ']
    ring

/-- The number of two bit strings in a row. -/
theorem natOfBits_append (high low : Bits) :
    natOfBits (high ++ low) = natOfBits high * 2 ^ low.length + natOfBits low := by
  rw [natOfBits, List.foldl_append, foldl_bits]
  rfl

/-! ### Messages of whole bytes -/

/-- The bits of a byte. -/
def bitsOfByte (byte : UInt8) : Bits := bitsOfNat 8 byte.toNat

/-- The bits of a string of bytes. -/
def bitsOfBytes (bytes : List UInt8) : Bits := bytes.flatMap bitsOfByte

/-- A byte has eight bits. -/
theorem length_bitsOfByte (byte : UInt8) : (bitsOfByte byte).length = 8 :=
  length_bitsOfNat 8 byte.toNat

/-- Bytes have eight bits each. -/
@[simp] theorem length_bitsOfBytes (bytes : List UInt8) :
    (bitsOfBytes bytes).length = 8 * bytes.length :=
  length_flatMap_of_length length_bitsOfByte bytes

/-- The bits of two strings of bytes in a row. -/
@[simp] theorem bitsOfBytes_append (first rest : List UInt8) :
    bitsOfBytes (first ++ rest) = bitsOfBytes first ++ bitsOfBytes rest :=
  List.flatMap_append

/-- The bits of the first byte come first. -/
theorem bitsOfBytes_cons (byte : UInt8) (rest : List UInt8) :
    bitsOfBytes (byte :: rest) = bitsOfByte byte ++ bitsOfBytes rest :=
  List.flatMap_cons

/-- The bytes of a number spell its bits. -/
theorem bitsOfBytes_toBigEndian (width value : Nat) :
    bitsOfBytes (toBigEndian width value) = bitsOfNat (8 * width) value := by
  induction width generalizing value with
  | zero => rfl
  | succ width ih =>
    -- the last byte is the remainder, and those before it spell the quotient
    have hlow : bitsOfBytes [UInt8.ofNat value] = bitsOfNat 8 value := by
      rw [bitsOfBytes, List.flatMap_singleton, bitsOfByte, UInt8.toNat_ofNat', bitsOfNat_mod]
    have hhigh := ih (value / 256)
    rw [toBigEndian] at hhigh
    rw [toBigEndian, toLittleEndian, List.reverse_cons, bitsOfBytes_append, hlow, hhigh,
      Nat.mul_succ, bitsOfNat_add]
    rfl

/-- A byte is the number that its bits denote. -/
theorem natOfBits_bitsOfByte (byte : UInt8) : natOfBits (bitsOfByte byte) = byte.toNat := by
  -- all 256 bytes are tried
  have h : ∀ n < 256, natOfBits (bitsOfByte (UInt8.ofNat n)) = n := by decide +kernel
  have hbyte := h byte.toNat byte.toNat_lt
  rwa [UInt8.ofNat_toNat] at hbyte

/-- The bits of a string of bytes denote its big-endian number. -/
theorem natOfBits_bitsOfBytes (bytes : List UInt8) :
    natOfBits (bitsOfBytes bytes) = ofBigEndian bytes := by
  induction bytes with
  | nil => rfl
  | cons byte bytes ih =>
    have hpow : (2 : Nat) ^ (8 * bytes.length) = 256 ^ bytes.length :=
      pow_mul 2 8 bytes.length
    rw [bitsOfBytes, List.flatMap_cons, natOfBits_append, natOfBits_bitsOfByte, ← bitsOfBytes, ih,
      length_bitsOfBytes, hpow, ofBigEndian, ofBigEndian, List.reverse_cons,
      ofLittleEndian_append, List.length_reverse]
    simp only [ofLittleEndian]
    ring

/-- The words of a block of bytes are big-endian. -/
theorem blockWords_bitsOfBytes (block : List UInt8) (t : Nat) :
    blockWords (bitsOfBytes block) t = .ofNat (ofBigEndian ((block.drop (4 * t)).take 4)) := by
  -- a word of 32 bits is four bytes
  have hword : ((bitsOfBytes block).drop (32 * t)).take 32 =
      bitsOfBytes ((block.drop (4 * t)).take 4) := by
    rw [show 32 * t = 8 * (4 * t) by ring, bitsOfBytes,
      drop_flatMap_of_length length_bitsOfByte]
    exact take_flatMap_of_length length_bitsOfByte _ 4
  rw [blockWords, hword, natOfBits_bitsOfBytes]

/-- The zero bytes between the byte `0x80` and the length. -/
def paddingZeroBytes (length : Nat) : Nat := (56 + 64 - (length + 1) % 64) % 64

/-- The padding of a message of whole bytes. -/
def padBytes (message : List UInt8) : List UInt8 :=
  message ++ 0x80 :: (List.replicate (paddingZeroBytes message.length) 0 ++
    toBigEndian 8 (8 * message.length))

/-- Zero bytes are zero bits. -/
theorem bitsOfBytes_replicate_zero (count : Nat) :
    bitsOfBytes (List.replicate count 0) = List.replicate (8 * count) false := by
  induction count with
  | zero => rfl
  | succ count ih =>
    rw [List.replicate_succ, Nat.mul_succ, Nat.add_comm, List.replicate_add, ← ih]
    rfl

/-- **The padding in bytes.** -/
theorem pad_bitsOfBytes (message : List UInt8) :
    pad (bitsOfBytes message) = bitsOfBytes (padBytes message) := by
  -- the bit that ends the message and the next seven zero bits are the byte `0x80`
  have hzeros : paddingZeros (8 * message.length) =
      7 + 8 * paddingZeroBytes message.length := by
    unfold paddingZeros paddingZeroBytes
    omega
  have hmarker : bitsOfByte 0x80 = true :: List.replicate 7 false := by decide
  rw [pad, length_bitsOfBytes, hzeros, padBytes, bitsOfBytes_append, List.replicate_add,
    ← bitsOfBytes_replicate_zero, bitsOfBytes_cons, hmarker, bitsOfBytes_append,
    bitsOfBytes_toBigEndian]
  rfl

/-- **SHA-256 in bytes.** -/
theorem sha256_bitsOfBytes (message : List UInt8) :
    sha256 (bitsOfBytes message) =
      bitsOfBytes ((chain (fun H block => compress H (blockWords (bitsOfBytes block))) 64
        initialHash (padBytes message)).toList.flatMap fun word => toBigEndian 4 word.toNat) := by
  -- the blocks of 512 bits are the blocks of 64 bytes
  have hchain := chain_flatMap (f := fun H block => compress H (blockWords block)) (n := 64)
    (s := initialHash) (by decide : 0 < 8) length_bitsOfByte (padBytes message)
  rw [sha256, pad_bitsOfBytes, bitsOfBytes, hchain, bitsOfBytes, List.flatMap_assoc]
  refine List.flatMap_congr fun word _ => ?_
  exact (bitsOfBytes_toBigEndian 4 word.toNat).symm

end Fips180
