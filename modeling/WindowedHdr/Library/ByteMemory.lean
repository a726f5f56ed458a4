import Mathlib.Tactic.Common
import Mathlib.Tactic.Ring

/-!
# Byte-addressed memory and little-endian fields

A memory gives every 64-bit address a byte, and `read` and `write` move runs of bytes
that may wrap at the end of the address space. `read_write` is the only law of the two
that needs an argument: the offsets of a run of at most `2 ^ 64` bytes are distinct.

`toLittleEndian` and `ofLittleEndian` convert a number to and from a fixed number of
bytes, least significant first; each is the inverse of the other at its width. The big-endian
forms are the same bytes in the opposite order.

A pointer occupies eight bytes, and a table is a run of pointers (`slot`). Two pointers are
`Apart` when they share no byte; a write to one is then not seen at the other. Pointers in
disjoint regions are apart, and so are two different slots of one table.

The lemmas on pointers are the ones that the rest of the development uses: a pointer reads back
what was written to it (`readPointer_writePointer_self`), and a write elsewhere is not seen
(`readPointer_writePointer_of_apart`). For aligned pointers the two are one statement
(`readPointer_writePointer_of_aligned`), since aligned pointers are equal or apart.
-/

/-! ### Little-endian fields -/

/-- The `width` lowest bytes of `value`, least significant first. -/
def toLittleEndian : Nat → Nat → List UInt8
  | 0, _ => []
  | width + 1, value => UInt8.ofNat value :: toLittleEndian width (value / 256)

/-- The number whose bytes are given, least significant first. -/
def ofLittleEndian : List UInt8 → Nat
  | [] => 0
  | byte :: bytes => byte.toNat + 256 * ofLittleEndian bytes

/-- The two's-complement reading of the bytes, least significant first. -/
def signedOfLittleEndian (bytes : List UInt8) : Int :=
  let value := ofLittleEndian bytes
  if 2 * value < 256 ^ bytes.length then value else value - (256 ^ bytes.length : Nat)

/-- The `width` lowest bytes of `value`, most significant first. -/
def toBigEndian (width value : Nat) : List UInt8 := (toLittleEndian width value).reverse

/-- The number whose bytes are given, most significant first. -/
def ofBigEndian (bytes : List UInt8) : Nat := ofLittleEndian bytes.reverse

/-- `bytes[start..finish]`. -/
def slice (bytes : List UInt8) (start finish : Nat) : List UInt8 :=
  (bytes.drop start).take (finish - start)

/-- A number is encoded in as many bytes as the width says. -/
@[simp] theorem length_toLittleEndian (width value : Nat) :
    (toLittleEndian width value).length = width := by
  induction width generalizing value with
  | zero => rfl
  | succ width ih =>
    rw [toLittleEndian, List.length_cons, ih]

/-- A number is encoded in as many bytes as the width says. -/
@[simp] theorem length_toBigEndian (width value : Nat) :
    (toBigEndian width value).length = width := by
  rw [toBigEndian, List.length_reverse, length_toLittleEndian]

/-- Later bytes count for more. -/
theorem ofLittleEndian_append (first rest : List UInt8) :
    ofLittleEndian (first ++ rest) =
      ofLittleEndian first + 256 ^ first.length * ofLittleEndian rest := by
  induction first with
  | nil => simp [ofLittleEndian]
  | cons byte first ih =>
    rw [List.cons_append, ofLittleEndian, ofLittleEndian, ih, List.length_cons, pow_succ]
    ring

/-- Encoding keeps what fits into the width. -/
theorem ofLittleEndian_toLittleEndian (width value : Nat) :
    ofLittleEndian (toLittleEndian width value) = value % 256 ^ width := by
  induction width generalizing value with
  | zero => simp [toLittleEndian, ofLittleEndian, Nat.mod_one]
  | succ width ih =>
    have hbyte : (UInt8.ofNat value).toNat = value % 256 := by simp
    -- the lowest byte, and the rest by induction
    rw [toLittleEndian, ofLittleEndian, ih, hbyte, pow_succ', Nat.mod_mul]

/-- A field of the given width is below its bound. -/
theorem ofLittleEndian_lt (bytes : List UInt8) : ofLittleEndian bytes < 256 ^ bytes.length := by
  induction bytes with
  | nil => simp [ofLittleEndian]
  | cons byte bytes ih =>
    have hbyte : byte.toNat < 256 := byte.toNat_lt
    rw [ofLittleEndian, List.length_cons, pow_succ]
    omega

/-- Decoding loses nothing. -/
theorem toLittleEndian_ofLittleEndian (bytes : List UInt8) :
    toLittleEndian bytes.length (ofLittleEndian bytes) = bytes := by
  induction bytes with
  | nil => rfl
  | cons byte bytes ih =>
    have hbyte : byte.toNat < 256 := byte.toNat_lt
    -- the first byte is the remainder by 256, and the others are the quotient
    have hlow : UInt8.ofNat (byte.toNat + 256 * ofLittleEndian bytes) = byte := by
      apply UInt8.toNat.inj
      rw [UInt8.toNat_ofNat']
      omega
    have hhigh : (byte.toNat + 256 * ofLittleEndian bytes) / 256 = ofLittleEndian bytes := by
      omega
    rw [List.length_cons, ofLittleEndian, toLittleEndian, hlow, hhigh, ih]

/-! ### Memory -/

/-- A memory of bytes over a 64-bit address space. -/
abbrev ByteMemory := UInt64 → UInt8

namespace ByteMemory

variable (m : ByteMemory) (address : UInt64) (bytes : List UInt8)

/-- The `length` bytes from `address` on. -/
def read (length : Nat) : List UInt8 :=
  (List.range length).map fun i => m (address + UInt64.ofNat i)

/-- Overwrite the bytes from `address` on. -/
def write : ByteMemory := fun a => bytes[(a - address).toNat]?.getD (m a)

/-- The pointer stored at `address`. -/
def readPointer : UInt64 := UInt64.ofNat (ofLittleEndian (m.read address 8))

/-- A read returns as many bytes as it was asked for. -/
@[simp] theorem length_read (length : Nat) : (m.read address length).length = length := by
  simp [read]

/-- Each byte of a read is the memory's at its address. -/
theorem getElem_read {length i : Nat} (h : i < (m.read address length).length) :
    (m.read address length)[i] = m (address + UInt64.ofNat i) := by
  simp [read]

/-- A part of a run is itself a run. -/
theorem slice_read {length start finish : Nat} (h : finish ≤ length) :
    slice (m.read address length) start finish =
      m.read (address + UInt64.ofNat start) (finish - start) := by
  apply List.ext_getElem
  · simp only [slice, List.length_take, List.length_drop, length_read]
    omega
  · intro i h₁ h₂
    simp only [slice, List.getElem_take, List.getElem_drop, getElem_read]
    rw [UInt64.ofNat_add, UInt64.add_assoc]

/-- The first bytes of a run are a shorter run from the same address. -/
theorem take_read {length n : Nat} (h : n ≤ length) :
    (m.read address length).take n = m.read address n := by
  have hslice := @slice_read m address length 0 n h
  rwa [slice, List.drop_zero, Nat.sub_zero, show UInt64.ofNat 0 = 0 from rfl,
    UInt64.add_zero] at hslice

/-- A run in two parts. -/
theorem read_add (n k : Nat) :
    m.read address (n + k) = m.read address n ++ m.read (address + UInt64.ofNat n) k := by
  rw [read, List.range_add, List.map_append, List.map_map]
  -- the second part counts on from where the first one ends
  refine congrArg (m.read address n ++ ·) (List.map_congr_left fun i _ => ?_)
  rw [Function.comp_apply, UInt64.ofNat_add, UInt64.add_assoc]

/-- A run whose bytes are two lists in a row. -/
theorem read_eq_append {n k : Nat} {first rest : List UInt8} (hn : first.length = n)
    (h : m.read address (n + k) = first ++ rest) :
    m.read address n = first ∧ m.read (address + UInt64.ofNat n) k = rest := by
  rw [read_add] at h
  exact List.append_inj h (by rw [length_read, hn])

/-- The offset of a position within a run. -/
theorem add_offset_sub {i : Nat} (hi : i < 2 ^ 64) :
    (address + UInt64.ofNat i - address).toNat = i := by
  have h : address + UInt64.ofNat i - address = UInt64.ofNat i := by
    rw [UInt64.add_comm, UInt64.add_sub_cancel]
  rw [h, UInt64.toNat_ofNat']
  exact Nat.mod_eq_of_lt hi

/-- What was written is read back. -/
theorem read_write (hlen : bytes.length ≤ 2 ^ 64) :
    (m.write address bytes).read address bytes.length = bytes := by
  apply List.ext_getElem
  · simp
  · intro i h₁ h₂
    -- no two offsets of the run fall on one address
    have hi : i < 2 ^ 64 := Nat.lt_of_lt_of_le h₂ hlen
    simp only [read, write, List.getElem_map, List.getElem_range]
    rw [add_offset_sub address hi, List.getElem?_eq_getElem h₂, Option.getD_some]

/-- A slot holds a pointer exactly when its bytes are those of the pointer. -/
theorem readPointer_eq_iff {value : UInt64} :
    m.readPointer address = value ↔ m.read address 8 = toLittleEndian 8 value.toNat := by
  have hlen : (m.read address 8).length = 8 := by simp
  constructor
  · intro h
    have hlt := ofLittleEndian_lt (m.read address 8)
    rw [hlen] at hlt
    -- eight bytes are not truncated
    have hval : value.toNat = ofLittleEndian (m.read address 8) := by
      rw [← h, readPointer, UInt64.toNat_ofNat']
      exact Nat.mod_eq_of_lt hlt
    have hback := toLittleEndian_ofLittleEndian (m.read address 8)
    rw [hlen] at hback
    rw [hval, hback]
  · intro h
    have hlt : value.toNat < 256 ^ 8 := value.toNat_lt
    rw [readPointer, h, ofLittleEndian_toLittleEndian, Nat.mod_eq_of_lt hlt,
      UInt64.ofNat_toNat]

/-! ### Filling and copying -/

/-- Set the `size` bytes from `address` on to `byte`. -/
def fill (byte : UInt8) (size : Nat) : ByteMemory :=
  fun a => if (a - address).toNat < size then byte else m a

/-- Copy the `size` bytes from `source` on to `destination`. -/
def copy (source destination : UInt64) (size : Nat) : ByteMemory :=
  fun a => if (a - destination).toNat < size then m (source + (a - destination)) else m a

/-- A copied byte is the one at its offset in the source. -/
theorem copy_add_of_lt {source destination : UInt64} {size n : Nat} (hn : n < size)
    (hsize : size ≤ 2 ^ 64) :
    m.copy source destination size (destination + UInt64.ofNat n) =
      m (source + UInt64.ofNat n) := by
  have hoff := add_offset_sub destination (Nat.lt_of_lt_of_le hn hsize)
  -- the byte's distance from the destination is its distance from the source
  have hback : destination + UInt64.ofNat n - destination = UInt64.ofNat n := by
    rw [UInt64.add_comm, UInt64.add_sub_cancel]
  rw [copy, hoff, if_pos hn, hback]

/-! ### Pointers and tables -/

/-- Overwrite the pointer stored at `address`. -/
def writePointer (value : UInt64) : ByteMemory := m.write address (toLittleEndian 8 value.toNat)

/-- A pointer that was written is read back. -/
theorem readPointer_writePointer_self (value : UInt64) :
    (m.writePointer address value).readPointer address = value := by
  rw [readPointer_eq_iff]
  have h := read_write m address (toLittleEndian 8 value.toNat) (by simp)
  rw [length_toLittleEndian] at h
  exact h

/-- A pointer is read through its eight bytes only. -/
theorem readPointer_congr {m m' : ByteMemory} {a b : UInt64}
    (h : ∀ k < 8, m' (b + UInt64.ofNat k) = m (a + UInt64.ofNat k)) :
    m'.readPointer b = m.readPointer a := by
  unfold readPointer
  congr 2
  exact List.map_congr_left fun k hk => h k (List.mem_range.mp hk)

/-- The pointers at the two addresses share no byte. -/
def Apart (a b : UInt64) : Prop := 8 ≤ (a - b).toNat ∧ 8 ≤ (b - a).toNat

/-- Being apart is symmetric. -/
theorem Apart.symm {a b : UInt64} (h : Apart a b) : Apart b a := ⟨h.2, h.1⟩

/-- A write is not seen at a pointer it shares no byte with. -/
theorem readPointer_writePointer_of_apart {a b : UInt64} (h : Apart a b) (value : UInt64) :
    (m.writePointer a value).readPointer b = m.readPointer b := by
  apply readPointer_congr
  intro k hk
  have hab : (a - b).toNat = (2 ^ 64 - b.toNat + a.toNat) % 2 ^ 64 := UInt64.toNat_sub a b
  have hba : (b - a).toNat = (2 ^ 64 - a.toNat + b.toNat) % 2 ^ 64 := UInt64.toNat_sub b a
  -- `k` is small, so it is not truncated
  have hk64 : (UInt64.ofNat k).toNat = k := by
    rw [UInt64.toNat_ofNat']
    omega
  -- the byte's offset from the written pointer is past its eight bytes
  have hoff : 8 ≤ (b + UInt64.ofNat k - a).toNat := by
    have ha := a.toNat_lt
    have hb := b.toNat_lt
    have h₁ := h.1
    have h₂ := h.2
    rw [UInt64.toNat_sub, UInt64.toNat_add, hk64]
    omega
  rw [writePointer, write, List.getElem?_eq_none (by simpa using hoff), Option.getD_none]

/-- The address of entry `i` of the table of pointers at `table`. -/
def slot (table : UInt64) (i : Nat) : UInt64 := table + UInt64.ofNat (8 * i)

/-- Two different slots of one table are apart. -/
theorem apart_slot (table : UInt64) {i j : Nat} (hij : i ≠ j) (hi : i < 2 ^ 60)
    (hj : j < 2 ^ 60) : Apart (slot table i) (slot table j) := by
  -- the distance is a multiple of eight, and too small to wrap
  have hdist : ∀ {a b : Nat}, a ≠ b → a < 2 ^ 60 → b < 2 ^ 60 →
      8 ≤ (slot table a - slot table b).toNat := by
    intro a b hab ha hb
    have ht := table.toNat_lt
    rw [slot, slot, UInt64.toNat_sub, UInt64.toNat_add, UInt64.toNat_add, UInt64.toNat_ofNat',
      UInt64.toNat_ofNat']
    omega
  exact ⟨hdist hij hi hj, hdist hij.symm hj hi⟩

/-- A byte of a slot, as an offset from where the table's region begins. -/
theorem slot_eq_add {table base : UInt64} {offset : Nat}
    (htable : table = base + UInt64.ofNat offset) (i k : Nat) :
    slot table i + UInt64.ofNat k = base + UInt64.ofNat (offset + 8 * i + k) := by
  rw [slot, htable, UInt64.ofNat_add, UInt64.ofNat_add, ← UInt64.add_assoc, ← UInt64.add_assoc]

/-! ### Aligned pointers -/

/-- The address of a pointer that is aligned to its size. -/
def Aligned (a : UInt64) : Prop := a.toNat % 8 = 0

instance (a : UInt64) : Decidable (Aligned a) := inferInstanceAs (Decidable (_ = _))

/-- Aligned pointers coincide or share no byte. -/
theorem Aligned.apart {a b : UInt64} (ha : Aligned a) (hb : Aligned b) (hab : a ≠ b) :
    Apart a b := by
  -- two multiples of eight that differ are at least eight apart
  have hne : a.toNat ≠ b.toNat := fun h => hab (UInt64.toNat_inj.mp h)
  have halt := a.toNat_lt
  have hblt := b.toNat_lt
  unfold Aligned at ha hb
  constructor
  · rw [UInt64.toNat_sub]
    omega
  · rw [UInt64.toNat_sub]
    omega

/-- A pointer is not apart from itself. -/
theorem Apart.ne {a b : UInt64} (h : Apart a b) : a ≠ b := by
  rintro rfl
  have hself : (a - a).toNat = 0 := by rw [UInt64.sub_self]; rfl
  have hle := h.1
  omega

/-- The slots of an aligned table are aligned. -/
theorem Aligned.slot {table : UInt64} (h : Aligned table) (i : Nat) : Aligned (slot table i) := by
  unfold Aligned at h ⊢
  rw [ByteMemory.slot, UInt64.toNat_add, UInt64.toNat_ofNat']
  omega

/-- Among aligned pointers, a write is seen where it was made. -/
theorem readPointer_writePointer_of_aligned (m : ByteMemory) {a b : UInt64} (ha : Aligned a)
    (hb : Aligned b) (value : UInt64) :
    (m.writePointer a value).readPointer b = if a = b then value else m.readPointer b := by
  split
  · next heq => rw [← heq, readPointer_writePointer_self]
  · next hne => exact readPointer_writePointer_of_apart m (ha.apart hb hne) value

/-- The slots of one table are different pointers. -/
theorem slot_inj {table : UInt64} {i j : Nat} (hi : i < 2 ^ 60) (hj : j < 2 ^ 60)
    (h : slot table i = slot table j) : i = j := by
  by_contra hij
  exact (apart_slot table hij hi hj).ne h

/-! ### Regions -/

/-- The `size` bytes from `base` on. -/
structure Region where
  base : UInt64
  size : Nat
  deriving DecidableEq

/-- The byte at `address` is one of the region's. -/
def Region.Contains (r : Region) (address : UInt64) : Prop := (address - r.base).toNat < r.size

instance (r : Region) (address : UInt64) : Decidable (r.Contains address) :=
  inferInstanceAs (Decidable (_ < _))

/-- The two regions share no byte. -/
def Region.Disjoint (r r' : Region) : Prop := ∀ address, r.Contains address → ¬ r'.Contains address

/-- The region of one pointer. -/
def Region.pointer (address : UInt64) : Region := ⟨address, 8⟩

/-- The bytes of a pointer. -/
theorem Region.exists_of_pointer {p a : UInt64} (h : (Region.pointer p).Contains a) :
    ∃ k < 8, a = p + UInt64.ofNat k := by
  refine ⟨(a - p).toNat, h, ?_⟩
  rw [UInt64.ofNat_toNat, UInt64.add_comm, UInt64.sub_add_cancel]

/-- Being disjoint is symmetric. -/
theorem Region.Disjoint.symm {r r' : Region} (h : r.Disjoint r') : r'.Disjoint r :=
  fun a ha' ha => h a ha ha'

/-- Pointers within disjoint regions are apart. -/
theorem Region.Disjoint.apart {r r' : Region} (h : r.Disjoint r') {a b : UInt64}
    (ha : ∀ k < 8, r.Contains (a + UInt64.ofNat k))
    (hb : ∀ k < 8, r'.Contains (b + UInt64.ofNat k)) : Apart a b := by
  -- a pointer that starts within the other one shares its first byte with it
  have hoff : ∀ x y : UInt64, x = y + UInt64.ofNat (x - y).toNat := by
    intro x y
    rw [UInt64.ofNat_toNat, UInt64.add_comm, UInt64.sub_add_cancel]
  constructor
  · by_contra hlt
    have hfirst := ha 0 (by omega)
    rw [show UInt64.ofNat 0 = 0 from rfl, UInt64.add_zero, hoff a b] at hfirst
    exact h _ hfirst (hb _ (by omega))
  · by_contra hlt
    have hfirst := hb 0 (by omega)
    rw [show UInt64.ofNat 0 = 0 from rfl, UInt64.add_zero, hoff b a] at hfirst
    exact h _ (ha _ (by omega)) hfirst

/-- An offset below the size is inside the region. -/
theorem Region.contains_add {r : Region} {n : Nat} (hn : n < r.size) (hsize : r.size ≤ 2 ^ 64) :
    r.Contains (r.base + UInt64.ofNat n) := by
  rw [Region.Contains, add_offset_sub r.base (Nat.lt_of_lt_of_le hn hsize)]
  exact hn

/-- The bytes of a slot that ends inside the region are the region's. -/
theorem Region.contains_slot {r : Region} {table : UInt64} {offset i k : Nat}
    (htable : table = r.base + UInt64.ofNat offset) (hend : offset + 8 * (i + 1) ≤ r.size)
    (hsize : r.size ≤ 2 ^ 64) (hk : k < 8) : r.Contains (slot table i + UInt64.ofNat k) := by
  rw [slot_eq_add htable i k]
  exact Region.contains_add (by omega) hsize

end ByteMemory
