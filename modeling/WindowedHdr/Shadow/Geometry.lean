import WindowedHdr.Shadow.Separation

/-!
# The geometry of a cloned vtable

An installation clones the region of a vtable with room for one pointer before the vtable,
and counts the entries that fit behind it. Two functions share this work, with checked,
saturating and unchecked arithmetic on machine words.

`VtableGeometry` says that every word that they compute is the exact number it stands for,
and where the cloned vtable lies in its clone: at least one slot behind the start of the
clone, with all of its capacity before the end. `VtableBytes` says what the clone holds. Of
`VirtualAlloc` this needs that the allocated memory lies in the address space
(`CloneOutcome.AllocatesInSpace`) and outside of the region that was queried.

The bounds are those that the source checks. A sum that is not checked there is shown not to
wrap from the region that `VirtualQuery` reported, and the numbers of `shadowCapacity` from the
clone that was allocated (`shadowCapacity_ok`).
-/

namespace WindowedHdr

namespace Windows

open Usize

/-- What `VirtualAlloc` hands out ends at an address. -/
def CloneOutcome.AllocatesInSpace (o : CloneOutcome) : Prop :=
  ∀ size, o.virtualAlloc size ≠ 0 → (o.virtualAlloc size).toNat + size < Usize.size

/-- A region that is cloned does not start behind the address it was queried for. -/
theorem baseAddress_le_of_ok {o : CloneOutcome} {memory memory' : ByteMemory} {address : UInt64}
    {before after maximum : Nat} {r : ClonedRegion} {information : MemoryBasicInformation}
    (h : cloneMemoryRegionContaining o memory address before after maximum = .ok (r, memory'))
    (hquery : o.virtualQuery address = some information) :
    information.baseAddress.toNat ≤ address.toNat := by
  unfold cloneMemoryRegionContaining at h
  obtain ⟨_, -, h⟩ := Except.bind_eq_ok.mp h
  obtain ⟨information', hquery', h⟩ := Except.bind_eq_ok.mp h
  obtain ⟨_, -, h⟩ := Except.bind_eq_ok.mp h
  obtain ⟨offset, hoffset, -⟩ := Except.bind_eq_ok.mp h
  obtain rfl := Option.some.inj (hquery.symm.trans (Option.okOr_eq_ok.mp hquery'))
  -- the offset is a difference, so it was not negative
  exact (checkedSub_eq_some.mp (Option.okOr_eq_ok.mp hoffset)).2

end Windows

namespace Shadow

open ByteMemory Usize Windows

variable {o : InstallOutcome} {memory cloned : ByteMemory} {root : UInt64}
  {entryCount entryCapacity offset : Nat} {clone : ClonedRegion}
  {information : MemoryBasicInformation}

/-- Where a cloned vtable lies. Every equation is one of natural numbers, so none of the
machine words that it speaks of has wrapped. -/
structure VtableGeometry (information : MemoryBasicInformation) (offset : Nat) (root : UInt64)
    (entryCount entryCapacity : Nat) (clone : ClonedRegion) : Prop where
  /-- The vtable lies `offset` bytes into its region. -/
  root_eq : root.toNat = information.baseAddress.toNat + offset
  /-- The entries that are asked for lie in the region. -/
  entries_le : offset + entryCount * pointerSize ≤ information.regionSize.toNat
  cloneSize_eq :
    clone.cloneSize = information.regionSize.toNat + prefixPadding pointerSize offset
  cloneSize_le : clone.cloneSize ≤ maxVtableCloneRegionSize
  /-- The clone lies in the address space. -/
  clone_lt : clone.clone.1.toNat + clone.cloneSize < Usize.size
  /-- The shadow address is the vtable's place in the clone. -/
  shadow_eq : clone.clonedAddress.toNat =
    clone.clone.1.toNat + (prefixPadding pointerSize offset + offset)
  /-- There is a slot before the shadow address. -/
  slot_before : clone.clone.1.toNat + pointerSize ≤ clone.clonedAddress.toNat
  /-- The capacity is what fits behind the shadow address, -/
  capacity_eq : entryCapacity =
    (clone.cloneSize - (clone.clonedAddress.toNat - clone.clone.1.toNat)) / pointerSize
  /-- it is all in the clone, -/
  capacity_le : clone.clonedAddress.toNat + entryCapacity * pointerSize ≤
    clone.clone.1.toNat + clone.cloneSize
  /-- and there is room for the entries that are asked for. -/
  entryCount_le : entryCount ≤ entryCapacity

/-- What the clone holds: zeros in front of it, and behind them each byte of the region, at
its distance from the vtable. -/
structure VtableBytes (information : MemoryBasicInformation) (offset : Nat) (root : UInt64)
    (clone : ClonedRegion) (memory cloned : ByteMemory) : Prop where
  zeros : ∀ n < prefixPadding pointerSize offset, cloned (clone.clone.1 + UInt64.ofNat n) = 0
  bytes : ∀ n, prefixPadding pointerSize offset ≤ n → n < clone.cloneSize →
    ∃ distance, clone.clone.1 + UInt64.ofNat n = clone.clonedAddress + distance ∧
      information.region.Contains (root + distance) ∧
      cloned (clone.clone.1 + UInt64.ofNat n) = memory (root + distance)

/-- The capacity of a clone that lies in the address space. -/
theorem shadowCapacity_eq (hshadow : clone.clonedAddress.toNat = clone.clone.1.toNat + offset)
    (hoffset : offset ≤ clone.cloneSize) :
    shadowCapacity clone = .ok ((clone.cloneSize - offset) / pointerSize) := by
  -- the two subtractions of the source do not fail
  have hsub : checkedSub clone.clonedAddress.toNat clone.clone.1.toNat = some offset := by
    rw [checkedSub_eq_some]
    omega
  have hroom : checkedSub clone.cloneSize offset = some (clone.cloneSize - offset) :=
    checkedSub_eq_some.mpr ⟨rfl, hoffset⟩
  rw [shadowCapacity, hsub]
  change ((checkedSub clone.cloneSize offset).okOr _ >>= _) = _
  rw [hroom]
  rfl

/-- The region behind the zeros is copied byte by byte. -/
theorem vtableBytes_of_clones
    (h : Clones o.clone memory root pointerSize (entryCount * pointerSize)
      maxVtableCloneRegionSize information offset clone cloned)
    (hapart : o.clone.AllocatesApartFrom information.region) :
    VtableBytes information offset root clone memory cloned := by
  have hsize := h.cloneSize
  have hmaximum := h.le_maximum
  have hbound := maxVtableCloneRegionSize_le
  have hfits := h.fits
  have hcopied : ∀ k < information.regionSize.toNat, cloned
      (clone.clone.1 + UInt64.ofNat (prefixPadding pointerSize offset + k)) =
        memory (information.baseAddress + UInt64.ofNat k) := by
    intro k hk
    have hregion : information.region.Contains (information.baseAddress + UInt64.ofNat k) :=
      Region.contains_add (r := information.region) hk
        (Nat.le_of_lt information.regionSize.toNat_lt)
    -- the zeros are bytes of the clone, so none of them is copied
    have hzeros : ¬ (information.baseAddress + UInt64.ofNat k - clone.clone.1).toNat <
        prefixPadding pointerSize offset := by
      intro hlt
      refine h.region_disjoint hapart _ ?_ hregion
      show (_ - clone.clone.1).toNat < clone.cloneSize
      omega
    rw [h.memory, fillClone, UInt64.ofNat_add, ← UInt64.add_assoc,
      copy_add_of_lt _ hk (by omega), fill, if_neg hzeros]
  -- first the zeros, and then the bytes that were copied
  constructor
  · intro n hn
    have hoff : (clone.clone.1 + UInt64.ofNat n - clone.clone.1).toNat = n :=
      add_offset_sub _ (by omega)
    -- the copy starts behind the zeros and does not come around to them
    have hcopy : ¬ (clone.clone.1 + UInt64.ofNat n -
        (clone.clone.1 + UInt64.ofNat (prefixPadding pointerSize offset))).toNat <
          information.regionSize.toNat := by
      have hlt := clone.clone.1.toNat_lt
      rw [UInt64.toNat_sub, UInt64.toNat_add, UInt64.toNat_add, UInt64.toNat_ofNat',
        UInt64.toNat_ofNat']
      omega
    rw [h.memory, fillClone, copy, if_neg hcopy, fill, hoff, if_pos hn]
  · intro n hle hlt
    obtain ⟨k, rfl⟩ := Nat.exists_eq_add_of_le hle
    have hk : k < information.regionSize.toNat := by omega
    -- the distances from the vtable, in the region and in the clone
    have hsource : root + (UInt64.ofNat k - UInt64.ofNat offset) =
        information.baseAddress + UInt64.ofNat k := by
      rw [h.address_eq, UInt64.add_assoc, UInt64.add_comm (UInt64.ofNat offset),
        UInt64.sub_add_cancel]
    have hclone : clone.clonedAddress + (UInt64.ofNat k - UInt64.ofNat offset) =
        clone.clone.1 + UInt64.ofNat (prefixPadding pointerSize offset + k) := by
      rw [h.clonedAddress, UInt64.ofNat_add, UInt64.ofNat_add, UInt64.add_assoc,
        UInt64.add_assoc, UInt64.add_comm (UInt64.ofNat offset), UInt64.sub_add_cancel]
    refine ⟨UInt64.ofNat k - UInt64.ofNat offset, hclone.symm, ?_, ?_⟩
    · rw [hsource]
      exact Region.contains_add (r := information.region) hk
        (Nat.le_of_lt information.regionSize.toNat_lt)
    · rw [hsource]
      exact hcopied k hk

/-- **Geometry.** Whatever region `VirtualQuery` answers with, a successful clone makes a
shadow whose capacity holds the entries that are asked for and lies in the clone, behind a
slot of its own, and the clone holds the region as it lies around the vtable. -/
theorem cloned_vtable_geometry
    (h : cloneMemoryRegionContaining o.clone memory root pointerSize (entryCount * pointerSize)
      maxVtableCloneRegionSize = .ok (clone, cloned))
    (hspace : o.clone.AllocatesInSpace)
    (hapart : ∀ information, o.clone.virtualQuery root = some information →
      o.clone.AllocatesApartFrom information.region) :
    ∃ information offset entryCapacity,
      o.clone.virtualQuery root = some information ∧
      cloneVtable o memory root entryCount = .ok (clone, entryCapacity, cloned) ∧
      VtableGeometry information offset root entryCount entryCapacity clone ∧
      VtableBytes information offset root clone memory cloned := by
  obtain ⟨information, offset, hclones⟩ := clones_of_ok h
  have hbase := baseAddress_le_of_ok h hclones.query
  have hsize := hclones.cloneSize
  have hmaximum := hclones.le_maximum
  have hfits := hclones.fits
  have hbound := maxVtableCloneRegionSize_le
  have hspan : clone.clone.1.toNat + clone.cloneSize < Usize.size := by
    have hne : o.clone.virtualAlloc clone.cloneSize ≠ 0 := by
      rw [← hclones.clone]
      exact clone.clone.2
    rw [hclones.clone]
    exact hspace _ hne
  have hregion := information.regionSize.toNat_lt
  have hsource := information.baseAddress.toNat_lt
  have hroot : root.toNat = information.baseAddress.toNat + offset := by
    have heq := congrArg UInt64.toNat hclones.address_eq
    rw [UInt64.toNat_add, UInt64.toNat_ofNat'] at heq
    omega
  -- the vtable's place in the clone is not behind its end
  have hoffset : prefixPadding pointerSize offset + offset ≤ clone.cloneSize := by omega
  have hshadow : clone.clonedAddress.toNat =
      clone.clone.1.toNat + (prefixPadding pointerSize offset + offset) := by
    rw [hclones.clonedAddress, UInt64.toNat_add, UInt64.toNat_ofNat',
      Nat.mod_eq_of_lt (show prefixPadding pointerSize offset + offset < 2 ^ 64 by omega)]
    exact Nat.mod_eq_of_lt (by unfold Usize.size at hspan; omega)
  have hcapacity := shadowCapacity_eq hshadow hoffset
  have hclone : cloneVtable o memory root entryCount = .ok (clone,
      (clone.cloneSize - (prefixPadding pointerSize offset + offset)) / pointerSize, cloned) := by
    have hrequired : checkedMul entryCount pointerSize = some (entryCount * pointerSize) :=
      checkedMul_eq_some.mpr ⟨rfl, by unfold Usize.size; omega⟩
    refine Except.bind_eq_ok.mpr ⟨_, Option.okOr_eq_ok.mpr hrequired, ?_⟩
    refine Except.bind_eq_ok.mpr ⟨_, h, ?_⟩
    exact Except.bind_eq_ok.mpr ⟨_, hcapacity, rfl⟩
  refine ⟨information, offset, _, hclones.query, hclone, ?_,
    vtableBytes_of_clones hclones (hapart information hclones.query)⟩
  simp only [prefixPadding, pointerSize] at hsize hfits hshadow hoffset ⊢
  exact {
    root_eq := hroot
    entries_le := hfits
    cloneSize_eq := hsize
    cloneSize_le := hmaximum
    clone_lt := hspan
    shadow_eq := hshadow
    slot_before := by simp only [pointerSize]; omega
    capacity_eq := by simp only [pointerSize]; omega
    capacity_le := by simp only [pointerSize]; omega
    entryCount_le := by omega }

/-- A vtable near the end of its region is cloned with the rest of the region. -/
theorem cloned_vtable_geometry_sample :
    cloneMemoryRegionContaining sampleOutcome.clone sampleState.memory 0x1f00 pointerSize
      (18 * pointerSize) maxVtableCloneRegionSize =
        .ok (⟨⟨0x20000, by decide⟩, 0x20008, 0x408⟩,
          fillClone sampleState.memory sampleRegion 0x20000 8) ∧
    ∃ information offset entryCapacity,
      sampleOutcome.clone.virtualQuery 0x1f00 = some information ∧
      cloneVtable sampleOutcome sampleState.memory 0x1f00 18 =
        .ok (⟨⟨0x20000, by decide⟩, 0x20008, 0x408⟩, entryCapacity,
          fillClone sampleState.memory sampleRegion 0x20000 8) ∧
      VtableGeometry information offset 0x1f00 18 entryCapacity
        ⟨⟨0x20000, by decide⟩, 0x20008, 0x408⟩ ∧
      VtableBytes information offset 0x1f00 ⟨⟨0x20000, by decide⟩, 0x20008, 0x408⟩
        sampleState.memory (fillClone sampleState.memory sampleRegion 0x20000 8) := by
  refine ⟨rfl, cloned_vtable_geometry rfl ?_ ?_⟩
  · intro size hsize
    have hle : size ≤ 0x1000 := by
      by_contra hgt
      exact hsize (if_neg hgt)
    have hbase : sampleOutcome.clone.virtualAlloc size = 0x20000 := if_pos hle
    rw [hbase]
    exact Nat.lt_of_le_of_lt (Nat.add_le_add_left hle _) (by decide)
  · intro information h
    obtain rfl := Option.some.inj h
    exact sampleOutcomeAt_allocatesApartFrom (by decide) (by decide)

end Shadow
end WindowedHdr
