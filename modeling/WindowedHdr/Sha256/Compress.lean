import Mathlib.Tactic.IntervalCases
import WindowedHdr.Library.Fips180

/-!
# The compression function

The part of the SHA-256 implementation that works on whole blocks: the constants, the message
schedule, the rounds. The constants are the ones the standard defines, and `compress_eq` says
that `compress` is the standard's compression function on the bits of the block.

The implementation copies and shifts arrays where the standard has recursive definitions, so
each part has a lemma that turns the one into the other: the schedule is a fold that extends a
sliding window of words (`foldl_scheduleStep`), a round is a permutation of eight registers
(`roundStep_eq`), and the final addition is made word by word (`addWorking_eq`).
-/

namespace WindowedHdr

open Fips180 (Working bitsOfBytes blockWords)

/-! ### Constants -/

/-- `INITIAL_STATE`. -/
def initialState : Vector UInt32 8 :=
  #v[0x6a09e667, 0xbb67ae85, 0x3c6ef372, 0xa54ff53a, 0x510e527f, 0x9b05688c, 0x1f83d9ab,
    0x5be0cd19]

/-- `ROUND_CONSTANTS`. -/
def roundConstants : Vector UInt32 64 :=
  #v[0x428a2f98, 0x71374491, 0xb5c0fbcf, 0xe9b5dba5, 0x3956c25b, 0x59f111f1, 0x923f82a4,
    0xab1c5ed5, 0xd807aa98, 0x12835b01, 0x243185be, 0x550c7dc3, 0x72be5d74, 0x80deb1fe,
    0x9bdc06a7, 0xc19bf174, 0xe49b69c1, 0xefbe4786, 0x0fc19dc6, 0x240ca1cc, 0x2de92c6f,
    0x4a7484aa, 0x5cb0a9dc, 0x76f988da, 0x983e5152, 0xa831c66d, 0xb00327c8, 0xbf597fc7,
    0xc6e00bf3, 0xd5a79147, 0x06ca6351, 0x14292967, 0x27b70a85, 0x2e1b2138, 0x4d2c6dfc,
    0x53380d13, 0x650a7354, 0x766a0abb, 0x81c2c92e, 0x92722c85, 0xa2bfe8a1, 0xa81a664b,
    0xc24b8b70, 0xc76c51a3, 0xd192e819, 0xd6990624, 0xf40e3585, 0x106aa070, 0x19a4c116,
    0x1e376c08, 0x2748774c, 0x34b0bcb5, 0x391c0cb3, 0x4ed8aa4a, 0x5b9cca4f, 0x682e6ff3,
    0x748f82ee, 0x78a5636f, 0x84c87814, 0x8cc70208, 0x90befffa, 0xa4506ceb, 0xbef9a3f7,
    0xc67178f2]

/-- The initial state is that of the standard. -/
theorem initialState_eq : initialState = Fips180.initialHash := by decide +kernel

/-- The table of the source has the constants of the standard. -/
theorem roundConstants_eq {t : Nat} (ht : t < 64) :
    roundConstants[t]! = Fips180.roundConstant t := by
  revert t
  decide +kernel

/-! ### Arrays of bytes -/

section Copy

variable {n : Nat} (block : Vector UInt8 n) (offset : Nat) (source : List UInt8)

/-- `block[offset..offset + source.len()].copy_from_slice(source)`. -/
def copyInto : Vector UInt8 n :=
  .ofFn fun i => if offset ≤ i.val then source[i.val - offset]?.getD block[i] else block[i]

/-- The array in three parts: before, in and behind the copied range. -/
theorem toList_copyInto (h : offset + source.length ≤ n) :
    (copyInto block offset source).toList =
      block.toList.take offset ++ source ++ block.toList.drop (offset + source.length) := by
  -- place by place, by which of the three parts it lies in
  apply List.ext_getElem
  · simp only [Vector.length_toList, List.length_append, List.length_take, List.length_drop]
    omega
  · intro i h₁ h₂
    simp only [copyInto, Vector.getElem_toList, Vector.getElem_ofFn]
    grind

end Copy

/-! ### Compression -/

/-- `u32::rotate_right`. -/
def rotateRight (x : UInt32) (n : Nat) : UInt32 := ⟨x.toBitVec.rotateRight n⟩

/-- A rotation is the two shifts of the standard. -/
theorem rotateRight_eq {n : Nat} (x : UInt32) (hpos : 0 < n) (hn : n < 32) :
    rotateRight x n = Fips180.rotr (.ofNat n) x := by
  have hright : n % 32 = n := Nat.mod_eq_of_lt hn
  -- the shift to the left is a subtraction from zero, taken modulo 32
  have hleft : (4294967296 - n % 4294967296) % 32 = 32 - n := by omega
  apply UInt32.eq_of_toBitVec_eq
  rw [rotateRight, Fips180.rotr, BitVec.rotateRight_def]
  simp [hright, hleft]

/-- `s0` of the schedule. -/
theorem smallSigma0_eq (x : UInt32) :
    rotateRight x 7 ^^^ rotateRight x 18 ^^^ x >>> 3 = Fips180.smallSigma0 x := by
  rw [rotateRight_eq x (by decide) (by decide), rotateRight_eq x (by decide) (by decide)]
  rfl

/-- `s1` of the schedule. -/
theorem smallSigma1_eq (x : UInt32) :
    rotateRight x 17 ^^^ rotateRight x 19 ^^^ x >>> 10 = Fips180.smallSigma1 x := by
  rw [rotateRight_eq x (by decide) (by decide), rotateRight_eq x (by decide) (by decide)]
  rfl

/-- `sum0` of a round. -/
theorem bigSigma0_eq (x : UInt32) :
    rotateRight x 2 ^^^ rotateRight x 13 ^^^ rotateRight x 22 = Fips180.bigSigma0 x := by
  rw [rotateRight_eq x (by decide) (by decide), rotateRight_eq x (by decide) (by decide),
    rotateRight_eq x (by decide) (by decide)]
  rfl

/-- `sum1` of a round. -/
theorem bigSigma1_eq (x : UInt32) :
    rotateRight x 6 ^^^ rotateRight x 11 ^^^ rotateRight x 25 = Fips180.bigSigma1 x := by
  rw [rotateRight_eq x (by decide) (by decide), rotateRight_eq x (by decide) (by decide),
    rotateRight_eq x (by decide) (by decide)]
  rfl

/-- One iteration of the loop over the schedule. -/
def scheduleStep (schedule : Vector UInt32 64) (index : Nat) : Vector UInt32 64 :=
  let s0 := rotateRight schedule[index - 15]! 7 ^^^ rotateRight schedule[index - 15]! 18 ^^^
    schedule[index - 15]! >>> 3
  let s1 := rotateRight schedule[index - 2]! 17 ^^^ rotateRight schedule[index - 2]! 19 ^^^
    schedule[index - 2]! >>> 10
  schedule.set! index (schedule[index - 16]! + s0 + schedule[index - 7]! + s1)

/-- One iteration of the loop over the rounds. -/
def roundStep (schedule : Vector UInt32 64) (v : Working) (index : Nat) : Working :=
  let sum1 := rotateRight v.e 6 ^^^ rotateRight v.e 11 ^^^ rotateRight v.e 25
  let choice := (v.e &&& v.f) ^^^ (~~~v.e &&& v.g)
  let temporary1 := v.h + sum1 + choice + roundConstants[index]! + schedule[index]!
  let sum0 := rotateRight v.a 2 ^^^ rotateRight v.a 13 ^^^ rotateRight v.a 22
  let majority := (v.a &&& v.b) ^^^ (v.a &&& v.c) ^^^ (v.b &&& v.c)
  let temporary2 := sum0 + majority
  -- the assignments of the source, from the last register to the first
  { h := v.g
    g := v.f
    f := v.e
    e := v.d + temporary1
    d := v.c
    c := v.b
    b := v.a
    a := temporary1 + temporary2 }

/-- The schedule with the words of the block, and zeros. -/
def copyWords (block : Vector UInt8 64) : Vector UInt32 64 :=
  (List.range 16).foldl (fun schedule index =>
    let offset := index * 4
    schedule.set! index (.ofNat (ofBigEndian
      [block[offset]!, block[offset + 1]!, block[offset + 2]!, block[offset + 3]!])))
    -- the words behind the block are filled in by the schedule
    (Vector.replicate 64 0)

/-- The schedule of a block. -/
def blockSchedule (block : Vector UInt8 64) : Vector UInt32 64 :=
  (List.range' 16 48).foldl scheduleStep (copyWords block)

/-- The loop over the rounds. -/
def rounds (schedule : Vector UInt32 64) (v : Working) : Working :=
  (List.range 64).foldl (roundStep schedule) v

/-- `let [mut a, mut b, …] = *state`. -/
def startWorking (state : Vector UInt32 8) : Working :=
  .ofHash state

/-- The final additions. -/
def addWorking (state : Vector UInt32 8) (v : Working) : Vector UInt32 8 :=
  state.zipWith (· + ·) #v[v.a, v.b, v.c, v.d, v.e, v.f, v.g, v.h]

/-- `compress`. -/
def compress (state : Vector UInt32 8) (block : Vector UInt8 64) : Vector UInt32 8 :=
  addWorking state (rounds (blockSchedule block) (startWorking state))

/-- A store is seen at its index, and nowhere else. -/
theorem getElem!_set! {n i j : Nat} {xs : Vector UInt32 n} {x : UInt32} (hi : i < n) :
    (xs.set! i x)[j]! = if i = j then x else xs[j]! := by
  split
  · next h =>
    subst h
    rw [getElem!_pos _ i hi, Vector.getElem_set!_self]
  · next h =>
    rw [getElem!_def, getElem!_def, Vector.getElem?_set!_ne h]

/-- A loop that stores a value for every index. -/
theorem foldl_set! {n : Nat} (v : Nat → UInt32) (xs : Vector UInt32 n) {count : Nat}
    (hcount : count ≤ n) {t : Nat} (ht : t < count) :
    ((List.range count).foldl (fun xs i => xs.set! i (v i)) xs)[t]! = v t := by
  induction count with
  | zero => omega
  | succ count ih =>
    rw [List.range_succ, List.foldl_append, List.foldl_cons, List.foldl_nil,
      getElem!_set! (by omega)]
    -- the last iteration stores the value, or an earlier one did
    split
    · next h => rw [h]
    · next h => exact ih (by omega) (by omega)

/-- The words of a block, read byte by byte. -/
theorem blockWords_toList (block : Vector UInt8 64) {t : Nat} (ht : t < 16) :
    blockWords (bitsOfBytes block.toList) t = .ofNat (ofBigEndian
      [block[t * 4]!, block[t * 4 + 1]!, block[t * 4 + 2]!, block[t * 4 + 3]!]) := by
  -- the four bytes at the place of the word
  have hword : (block.toList.drop (4 * t)).take 4 =
      [block[t * 4]!, block[t * 4 + 1]!, block[t * 4 + 2]!, block[t * 4 + 3]!] := by
    have hlen := block.length_toList
    rw [Nat.mul_comm, List.drop_eq_getElem_cons (by omega), List.drop_eq_getElem_cons (by omega),
      List.drop_eq_getElem_cons (by omega), List.drop_eq_getElem_cons (by omega),
      getElem!_pos block (t * 4) (by omega), getElem!_pos block (t * 4 + 1) (by omega),
      getElem!_pos block (t * 4 + 2) (by omega), getElem!_pos block (t * 4 + 3) (by omega)]
    rfl
  rw [Fips180.blockWords_bitsOfBytes, hword]

/-- **The schedule loop.** After `count` iterations it holds the first `16 + count` words. -/
theorem foldl_scheduleStep {M : Nat → UInt32} {words : Vector UInt32 64}
    (hwords : ∀ t < 16, words[t]! = M t) {count : Nat} (hcount : count ≤ 48) {t : Nat}
    (ht : t < 16 + count) :
    ((List.range' 16 count).foldl scheduleStep words)[t]! = Fips180.schedule M t := by
  induction count generalizing t with
  | zero => rw [List.range'_zero, List.foldl_nil, hwords t ht, Fips180.schedule_of_lt ht]
  | succ count ih =>
    rw [List.range'_1_concat, List.foldl_append, List.foldl_cons, List.foldl_nil, scheduleStep,
      getElem!_set! (by omega)]
    split
    · next h =>
      -- the word of this iteration, from four words of earlier ones
      subst h
      rw [ih (by omega) (by omega), ih (by omega) (by omega), ih (by omega) (by omega),
        ih (by omega) (by omega), Fips180.schedule_of_le (Nat.le_add_right 16 count),
        smallSigma0_eq, smallSigma1_eq]
      ac_rfl
    · next h => exact ih (by omega) (by omega)

/-- The final additions are those of the standard, in the other order. -/
theorem addWorking_eq (state : Vector UInt32 8) (v : Working) :
    addWorking state v = v.addHash state := by
  apply Vector.ext
  intro i hi
  rw [addWorking, Vector.getElem_zipWith, UInt32.add_comm]
  -- one addition for each of the eight words
  interval_cases i <;> rfl

/-- **The schedule** of a block. -/
theorem blockSchedule_eq (block : Vector UInt8 64) {t : Nat} (ht : t < 64) :
    (blockSchedule block)[t]! = Fips180.schedule (blockWords (bitsOfBytes block.toList)) t := by
  -- the first loop has stored the words of the block
  have hwords : ∀ t < 16, (copyWords block)[t]! = blockWords (bitsOfBytes block.toList) t := by
    intro t ht
    rw [blockWords_toList block ht]
    exact foldl_set! _ _ (by decide) ht
  exact foldl_scheduleStep hwords (Nat.le_refl 48) ht

/-- **One round.** -/
theorem roundStep_eq {schedule : Vector UInt32 64} {K W : UInt32} {index : Nat} (v : Working)
    (hW : schedule[index]! = W) (hK : roundConstants[index]! = K) :
    roundStep schedule v index = v.round K W := by
  subst hW hK
  unfold roundStep
  rw [bigSigma0_eq, bigSigma1_eq]
  rfl

/-- **All rounds**, with the schedule of the block. -/
theorem rounds_eq (block : Vector UInt8 64) (v : Working) :
    rounds (blockSchedule block) v =
      (List.range 64).foldl (fun v t => v.round (Fips180.roundConstant t)
        (Fips180.schedule (blockWords (bitsOfBytes block.toList)) t)) v := by
  refine List.foldl_ext _ _ v fun v t ht => ?_
  -- every round reads the words and the constants below 64
  have ht := List.mem_range.mp ht
  exact roundStep_eq v (blockSchedule_eq block ht) (roundConstants_eq ht)

/-- **The compression function** is the standard's, on the bits of the block. -/
theorem compress_eq (state : Vector UInt32 8) (block : Vector UInt8 64) :
    compress state block = Fips180.compress state (blockWords (bitsOfBytes block.toList)) :=
  calc compress state block
      = addWorking state (rounds (blockSchedule block) (startWorking state)) := rfl
    _ = addWorking state ((List.range 64).foldl (fun v t => v.round (Fips180.roundConstant t)
          (Fips180.schedule (blockWords (bitsOfBytes block.toList)) t)) (startWorking state)) :=
        congrArg (addWorking state) (rounds_eq block (startWorking state))
    _ = Fips180.compress state (blockWords (bitsOfBytes block.toList)) :=
        addWorking_eq state _

end WindowedHdr
