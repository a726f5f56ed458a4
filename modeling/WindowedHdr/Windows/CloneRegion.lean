import WindowedHdr.Library.Fallible
import WindowedHdr.Windows.WriteMemory

/-!
# Cloning the memory region of a vtable

`clone_memory_region_containing` asks `VirtualQuery` for the region of a COM vtable and
copies the whole region into fresh memory, so that the clone has the vtable at the same
distance from its neighbours. When the vtable is too close to the start of its region, a
zero-filled prefix makes room for a negative metadata slot.

`Clones` is what a successful call returns (`clones_of_ok`). `VirtualAlloc` hands out memory
that nothing else uses (`CloneOutcome.AllocatesApartFrom`); the clone then reads, slot by
slot, like the vtable it was taken from (`Clones.readPointer_slot`).

The sizes and addresses of the source are machine words, and the checks that the function makes
before it allocates are what keeps their sums from wrapping; `clones_of_ok` states the exact
numbers. The lemmas about a clone come in two kinds, those on what its slots hold and those on
what it is apart from, and every later module reads a clone through them.
-/

namespace WindowedHdr
namespace Windows

open ByteMemory Usize

def pageNoaccess : UInt32 := 0x01
def pageGuard : UInt32 := 0x100
def memCommit : UInt32 := 0x1000

/-- What is read of a `MEMORY_BASIC_INFORMATION`. -/
structure MemoryBasicInformation where
  baseAddress : UInt64
  regionSize : UInt64
  state : UInt32
  protect : UInt32
  deriving DecidableEq

/-- The region that was queried. -/
def MemoryBasicInformation.region (self : MemoryBasicInformation) : Region :=
  ⟨self.baseAddress, self.regionSize.toNat⟩

/-- The region can be cloned: it is committed, readable and not empty. -/
def MemoryBasicInformation.Cloneable (self : MemoryBasicInformation) : Prop :=
  self.state = memCommit ∧ self.protect &&& (pageNoaccess ||| pageGuard) = 0 ∧
    self.regionSize ≠ 0

instance (self : MemoryBasicInformation) : Decidable self.Cloneable :=
  inferInstanceAs (Decidable (_ ∧ _ ∧ _))

/-- What the calls of `clone_memory_region_containing` return. -/
structure CloneOutcome where
  /-- `VirtualQuery`; `none` when it does not fill the whole structure. -/
  virtualQuery : UInt64 → Option MemoryBasicInformation
  /-- `VirtualAlloc`, by the size it is asked for; null when it fails. -/
  virtualAlloc : Nat → UInt64

/-- `VirtualAlloc` hands out memory outside of `used`. -/
def CloneOutcome.AllocatesApartFrom (o : CloneOutcome) (used : Region) : Prop :=
  ∀ size, o.virtualAlloc size ≠ 0 → Region.Disjoint ⟨o.virtualAlloc size, size⟩ used

/-- A pointer within memory that is in use is in use. -/
theorem CloneOutcome.AllocatesApartFrom.pointer {o : CloneOutcome} {used : Region}
    (h : o.AllocatesApartFrom used) {p : UInt64}
    (hp : ∀ k < 8, used.Contains (p + UInt64.ofNat k)) :
    o.AllocatesApartFrom (Region.pointer p) := by
  intro size hsize a ha hpointer
  obtain ⟨k, hk, rfl⟩ := Region.exists_of_pointer hpointer
  exact h size hsize _ ha (hp k hk)

/-- The clone of a region, with the clone of the address it was made for. -/
structure ClonedRegion where
  clone : NonNull
  clonedAddress : UInt64
  cloneSize : Nat

/-- The number of bytes to put before a clone. -/
def prefixPadding (requiredBytesBeforeAddress offset : Nat) : Nat :=
  requiredBytesBeforeAddress - offset

/-- Copy the queried region behind `padding` zero bytes. -/
def fillClone (memory : ByteMemory) (information : MemoryBasicInformation) (clone : UInt64)
    (padding : Nat) : ByteMemory :=
  (memory.fill clone 0 padding).copy information.baseAddress (clone + UInt64.ofNat padding)
    information.regionSize.toNat

/-- `clone_memory_region_containing`: the clone, and the memory with it. -/
def cloneMemoryRegionContaining (o : CloneOutcome) (memory : ByteMemory) (address : UInt64)
    (requiredBytesBeforeAddress requiredBytesAfterAddress maximumRegionSize : Nat) :
    Except String (ClonedRegion × ByteMemory) := do
  Except.require (address ≠ 0) "cannot clone memory around a null address"
  let information ← (o.virtualQuery address).okOr "VirtualQuery failed for the COM vtable"
  Except.require information.Cloneable "COM vtable is not in a readable committed region"
  let offset ← (checkedSub address.toNat information.baseAddress.toNat).okOr
    "COM vtable is outside its queried memory region"
  let requiredEnd ← (checkedAdd offset requiredBytesAfterAddress).okOr
    "COM vtable clone size overflow"
  Except.require (requiredEnd ≤ information.regionSize.toNat)
    "COM vtable extends beyond its readable memory region"
  -- room for the metadata slot of a vtable that starts its region
  let padding := prefixPadding requiredBytesBeforeAddress offset
  let cloneSize ← (checkedAdd information.regionSize.toNat padding).okOr
    "COM vtable clone size overflow"
  -- the zero bytes count towards the limit
  Except.require (cloneSize ≤ maximumRegionSize)
    s!"COM vtable memory clone is unexpectedly large ({cloneSize} bytes)"
  let clone ← allocateReadWrite (o.virtualAlloc cloneSize) cloneSize
  return ({ clone := clone
            clonedAddress := clone.1 + UInt64.ofNat (padding + offset)
            cloneSize := cloneSize },
    fillClone memory information clone.1 padding)

/-- The clone is what `VirtualAlloc` returned, unless that is null. -/
theorem allocateReadWrite_eq_ok {allocation : UInt64} {size : Nat} {clone : NonNull} :
    allocateReadWrite allocation size = .ok clone ↔ size ≠ 0 ∧ clone.1 = allocation := by
  unfold allocateReadWrite
  -- an empty region, a failed call, and an address
  split_ifs with hsize hnull
  · refine iff_of_false (fun h => nomatch h) ?_
    rintro ⟨hne, -⟩
    exact hne (by simpa using hsize)
  · refine iff_of_false (fun h => nomatch h) ?_
    rintro ⟨-, heq⟩
    exact clone.2 (heq.trans hnull)
  · have hne : size ≠ 0 := by simpa using hsize
    constructor
    · intro h
      obtain rfl := Except.ok.inj h
      exact ⟨hne, rfl⟩
    · rintro ⟨-, heq⟩
      exact congrArg Except.ok (Subtype.ext heq.symm)

variable {o : CloneOutcome} {memory memory' : ByteMemory} {address : UInt64}
  {before after maximum : Nat} {r : ClonedRegion}

/-- What a successful clone of the vtable at `address` is: the queried region is
`information`, the vtable lies `offset` bytes into it. -/
structure Clones (o : CloneOutcome) (memory : ByteMemory) (address : UInt64)
    (before after maximum : Nat) (information : MemoryBasicInformation) (offset : Nat)
    (r : ClonedRegion) (memory' : ByteMemory) : Prop where
  address_ne : address ≠ 0
  query : o.virtualQuery address = some information
  cloneable : information.Cloneable
  address_eq : address = information.baseAddress + UInt64.ofNat offset
  fits : offset + after ≤ information.regionSize.toNat
  cloneSize : r.cloneSize = information.regionSize.toNat + prefixPadding before offset
  le_maximum : r.cloneSize ≤ maximum
  clone : r.clone.1 = o.virtualAlloc r.cloneSize
  clonedAddress :
    r.clonedAddress = r.clone.1 + UInt64.ofNat (prefixPadding before offset + offset)
  memory : memory' = fillClone memory information r.clone.1 (prefixPadding before offset)

/-- **A successful clone.** -/
theorem clones_of_ok
    (h : cloneMemoryRegionContaining o memory address before after maximum = .ok (r, memory')) :
    ∃ information offset,
      Clones o memory address before after maximum information offset r memory' := by
  unfold cloneMemoryRegionContaining at h
  -- the checks, one after the other, and then what each of them says
  obtain ⟨_, hnull, h⟩ := Except.bind_eq_ok.mp h
  obtain ⟨information, hquery, h⟩ := Except.bind_eq_ok.mp h
  obtain ⟨_, hcloneable, h⟩ := Except.bind_eq_ok.mp h
  obtain ⟨offset, hoffset, h⟩ := Except.bind_eq_ok.mp h
  obtain ⟨requiredEnd, hend, h⟩ := Except.bind_eq_ok.mp h
  obtain ⟨_, hfits, h⟩ := Except.bind_eq_ok.mp h
  obtain ⟨cloneSize, hsize, h⟩ := Except.bind_eq_ok.mp h
  obtain ⟨_, hmaximum, h⟩ := Except.bind_eq_ok.mp h
  obtain ⟨clone, hclone, h⟩ := Except.bind_eq_ok.mp h
  obtain ⟨rfl, rfl⟩ := Prod.mk.inj (Except.ok.inj h)
  obtain ⟨rfl, hle⟩ := checkedSub_eq_some.mp (Option.okOr_eq_ok.mp hoffset)
  obtain ⟨rfl, -⟩ := checkedAdd_eq_some.mp (Option.okOr_eq_ok.mp hend)
  obtain ⟨rfl, -⟩ := checkedAdd_eq_some.mp (Option.okOr_eq_ok.mp hsize)
  -- the offset is the distance that was checked not to be negative
  have haddress : address = information.baseAddress +
      UInt64.ofNat (address.toNat - information.baseAddress.toNat) := by
    rw [UInt64.ofNat_sub hle, UInt64.ofNat_toNat, UInt64.ofNat_toNat, UInt64.add_comm,
      UInt64.sub_add_cancel]
  exact ⟨information, _,
    { address_ne := Except.require_eq_ok.mp hnull
      query := Option.okOr_eq_ok.mp hquery
      cloneable := Except.require_eq_ok.mp hcloneable
      address_eq := haddress
      fits := Except.require_eq_ok.mp hfits
      cloneSize := rfl
      le_maximum := Except.require_eq_ok.mp hmaximum
      clone := (allocateReadWrite_eq_ok.mp hclone).2
      clonedAddress := rfl
      memory := rfl }⟩

namespace Clones

variable {information : MemoryBasicInformation} {offset : Nat}

/-- The region that the clone occupies. -/
theorem region_disjoint
    (h : Clones o memory address before after maximum information offset r memory')
    {used : Region} (hapart : o.AllocatesApartFrom used) :
    Region.Disjoint ⟨r.clone.1, r.cloneSize⟩ used := by
  have hne : o.virtualAlloc r.cloneSize ≠ 0 := by
    rw [← h.clone]
    exact r.clone.2
  rw [h.clone]
  exact hapart _ hne

/-- The bytes of a cloned slot are bytes of the clone. -/
theorem contains_slot
    (h : Clones o memory address before after maximum information offset r memory')
    (hmaximum : maximum ≤ 2 ^ 64) {i : Nat}
    (hi : offset + 8 * (i + 1) ≤ information.regionSize.toNat) :
    ∀ k < 8, Region.Contains ⟨r.clone.1, r.cloneSize⟩
      (slot r.clonedAddress i + UInt64.ofNat k) := by
  intro k hk
  have hsize := h.cloneSize
  exact Region.contains_slot h.clonedAddress (by simp only; omega)
    (Nat.le_trans h.le_maximum hmaximum) hk

/-- The bytes of a slot of the vtable are bytes of the queried region. -/
theorem contains_source_slot
    (h : Clones o memory address before after maximum information offset r memory')
    {i : Nat} (hi : offset + 8 * (i + 1) ≤ information.regionSize.toNat) :
    ∀ k < 8, information.region.Contains (slot address i + UInt64.ofNat k) := by
  intro k hk
  have hlt := information.regionSize.toNat_lt
  exact Region.contains_slot h.address_eq hi (Nat.le_of_lt hlt) hk

/-- **The clone reads like the vtable.** -/
theorem readPointer_slot
    (h : Clones o memory address before after maximum information offset r memory')
    (hapart : o.AllocatesApartFrom information.region) {i : Nat}
    (hi : offset + 8 * (i + 1) ≤ information.regionSize.toNat) :
    memory'.readPointer (slot r.clonedAddress i) = memory.readPointer (slot address i) := by
  apply readPointer_congr
  intro k hk
  have hlt := information.regionSize.toNat_lt
  -- the slot is reached from the copy's start by the same distance
  have hclone : r.clonedAddress =
      r.clone.1 + UInt64.ofNat (prefixPadding before offset) + UInt64.ofNat offset := by
    rw [h.clonedAddress, UInt64.ofNat_add, ← UInt64.add_assoc]
  have hsize := h.cloneSize
  -- the zero prefix is part of the clone, so it is not read
  have hprefix : ¬ (information.baseAddress + UInt64.ofNat (offset + 8 * i + k) -
      r.clone.1).toNat < prefixPadding before offset := by
    intro hlt'
    have hsource := h.contains_source_slot hi k hk
    rw [slot_eq_add h.address_eq i k] at hsource
    refine h.region_disjoint hapart _ ?_ hsource
    show (_ - r.clone.1).toNat < r.cloneSize
    omega
  rw [h.memory, fillClone, slot_eq_add hclone i k, copy_add_of_lt _ (by omega) (by omega), fill,
    if_neg hprefix, slot_eq_add h.address_eq i k]

/-- Nothing outside of the clone is changed. -/
theorem apply_of_not_contains
    (h : Clones o memory address before after maximum information offset r memory')
    (hmaximum : maximum < 2 ^ 64) {a : UInt64}
    (ha : ¬ Region.Contains ⟨r.clone.1, r.cloneSize⟩ a) : memory' a = memory a := by
  have hsize := h.cloneSize
  have hle := h.le_maximum
  -- neither the prefix nor the copy reaches that far
  have hout : r.cloneSize ≤ (a - r.clone.1).toNat := Nat.le_of_not_lt ha
  have hcopy : ¬ (a - (r.clone.1 + UInt64.ofNat (prefixPadding before offset))).toNat <
      information.regionSize.toNat := by
    have hlt := a.toNat_lt
    have hlt' := r.clone.1.toNat_lt
    -- the distances are compared as numbers, so that nothing wraps
    rw [UInt64.toNat_sub] at hout
    rw [UInt64.toNat_sub, UInt64.toNat_add, UInt64.toNat_ofNat']
    omega
  rw [h.memory, fillClone, copy, if_neg hcopy, fill, if_neg (by omega)]

/-- A pointer that was in use keeps its value. -/
theorem readPointer_used
    (h : Clones o memory address before after maximum information offset r memory')
    (hmaximum : maximum < 2 ^ 64) {pointer : UInt64}
    (hapart : o.AllocatesApartFrom (Region.pointer pointer)) :
    memory'.readPointer pointer = memory.readPointer pointer := by
  apply readPointer_congr
  intro k hk
  apply h.apply_of_not_contains hmaximum
  intro hclone
  exact h.region_disjoint hapart _ hclone (Region.contains_add hk (by simp [Region.pointer]))

/-- No slot of the clone shares a byte with a slot of the vtable. -/
theorem apart_source_slot
    (h : Clones o memory address before after maximum information offset r memory')
    (hapart : o.AllocatesApartFrom information.region) (hmaximum : maximum ≤ 2 ^ 64) {i j : Nat}
    (hi : offset + 8 * (i + 1) ≤ information.regionSize.toNat)
    (hj : offset + 8 * (j + 1) ≤ information.regionSize.toNat) :
    Apart (slot r.clonedAddress i) (slot address j) :=
  (h.region_disjoint hapart).apart (h.contains_slot hmaximum hi) (h.contains_source_slot hj)

/-- No slot of the clone shares a byte with a pointer that was in use. -/
theorem apart_pointer
    (h : Clones o memory address before after maximum information offset r memory')
    {pointer : UInt64} (hapart : o.AllocatesApartFrom (Region.pointer pointer))
    (hmaximum : maximum ≤ 2 ^ 64) {i : Nat}
    (hi : offset + 8 * (i + 1) ≤ information.regionSize.toNat) :
    Apart (slot r.clonedAddress i) pointer :=
  (h.region_disjoint hapart).apart (h.contains_slot hmaximum hi) fun _ hk =>
    Region.contains_add hk (by simp [Region.pointer])

end Clones

end Windows
end WindowedHdr
