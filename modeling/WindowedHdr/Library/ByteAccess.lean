import WindowedHdr.Library.ByteMemory
import WindowedHdr.Library.Faults

/-!
# Faulting operations on bytes and numbers

Indexing and slicing a run of bytes faults when it leaves the run, and so does turning a slice
into an array of another length. The sum of two signed 128-bit numbers faults when it is not one.
Each operation has a lemma that says when it does not fault, and what it is then.
-/

universe u

variable {ε : Type u}

namespace Bytes

/-- `bytes[i]`. -/
def index (bytes : List UInt8) (i : Nat) : Except (Stop ε) UInt8 := Except.expect bytes[i]?

/-- `&bytes[start..finish]`. -/
def range (bytes : List UInt8) (start finish : Nat) : Except (Stop ε) (List UInt8) :=
  if start ≤ finish ∧ finish ≤ bytes.length then .ok (slice bytes start finish)
  else .error .fault

/-- `<[u8; N]>::try_from`. -/
def toArray (bytes : List UInt8) (n : Nat) : Option (List UInt8) :=
  if bytes.length = n then some bytes else none

/-- `u32::from_le_bytes(bytes[start..finish].try_into().expect(..))`. -/
def u32Field (bytes : List UInt8) (start finish : Nat) : Except (Stop ε) Nat := do
  let part ← range bytes start finish
  -- the slice has four bytes, or the conversion faults
  let field ← Except.expect (toArray part 4)
  return ofLittleEndian field

/-- `i32::from_le_bytes(bytes[start..finish].try_into().expect(..))`. -/
def i32Field (bytes : List UInt8) (start finish : Nat) : Except (Stop ε) Int := do
  let part ← range bytes start finish
  let field ← Except.expect (toArray part 4)
  return signedOfLittleEndian field

variable {bytes : List UInt8} {start finish : Nat}

/-- An index in the run does not fault. -/
theorem index_eq_ok {i : Nat} {byte : UInt8} (h : bytes[i]? = some byte) :
    (index bytes i : Except (Stop ε) UInt8) = .ok byte := by
  rw [index, h, Except.expect_some]

/-- A range in the run does not fault. -/
theorem range_eq_ok (hstart : start ≤ finish) (hfinish : finish ≤ bytes.length) :
    (range bytes start finish : Except (Stop ε) (List UInt8)) = .ok (slice bytes start finish) :=
  if_pos ⟨hstart, hfinish⟩

/-- The slice is as long as its range. -/
theorem length_slice (hfinish : finish ≤ bytes.length) :
    (slice bytes start finish).length = finish - start := by
  rw [slice, List.length_take, List.length_drop]
  omega

/-- Bytes of the right length are an array. -/
theorem toArray_eq_some {n : Nat} (h : bytes.length = n) : toArray bytes n = some bytes :=
  if_pos h

/-- Four bytes of the run are read as an unsigned number. -/
theorem u32Field_eq_ok (hstart : start + 4 = finish) (hfinish : finish ≤ bytes.length) :
    (u32Field bytes start finish : Except (Stop ε) Nat) =
      .ok (ofLittleEndian (slice bytes start finish)) := by
  have hlen : (slice bytes start finish).length = 4 := by
    rw [length_slice hfinish]
    omega
  refine Except.bind_of_eq_ok (range_eq_ok (by omega) hfinish) ?_
  rw [toArray_eq_some hlen]
  rfl

/-- Four bytes of the run are read as a signed number. -/
theorem i32Field_eq_ok (hstart : start + 4 = finish) (hfinish : finish ≤ bytes.length) :
    (i32Field bytes start finish : Except (Stop ε) Int) =
      .ok (signedOfLittleEndian (slice bytes start finish)) := by
  have hlen : (slice bytes start finish).length = 4 := by
    rw [length_slice hfinish]
    omega
  refine Except.bind_of_eq_ok (range_eq_ok (by omega) hfinish) ?_
  rw [toArray_eq_some hlen]
  rfl

end Bytes

namespace I128

/-- `a + b`, which faults when it does not fit. -/
def add (a b : Int) : Except (Stop ε) Int :=
  if -2 ^ 127 ≤ a + b ∧ a + b < 2 ^ 127 then .ok (a + b) else .error .fault

/-- A machine word and a 32-bit displacement always fit. -/
theorem add_eq_ok {a : Nat} {b : Int} (ha : a < Usize.size) (hb : -2 ^ 31 ≤ b ∧ b < 2 ^ 31) :
    (add a b : Except (Stop ε) Int) = .ok (a + b) := by
  rw [Usize.size] at ha
  -- both are far from the bounds of 128 bits
  refine if_pos ?_
  omega

end I128

/-- The field of four bytes is a 32-bit number. -/
theorem signedOfLittleEndian_bounds {bytes : List UInt8} (h : bytes.length = 4) :
    -2 ^ 31 ≤ signedOfLittleEndian bytes ∧ signedOfLittleEndian bytes < 2 ^ 31 := by
  have hlt := ofLittleEndian_lt bytes
  unfold signedOfLittleEndian
  dsimp only
  rw [h] at hlt ⊢
  -- the sign bit takes the upper half below zero
  split
  · omega
  · omega
