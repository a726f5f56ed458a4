import WindowedHdr.Shadow.System

/-!
# Shadows do not overlap what they shadow

`VirtualAlloc` hands out memory that is not in use: neither the object that is being shadowed
nor the region of its vtable (`AllocatesUnused`). Two things follow. The originals that a
fresh shadow saves are the entries of the root vtable (`FreshShadow.readTable_eq`), although
they are read from the clone. And no slot of a shadow shares a byte with a slot of its root
or with the object's vtable pointer, in any state of such runs (`separate_of_reachable`), so
writing to a shadow changes neither.

The proof goes from the allocation to the records: the clone lies apart from what was in use,
the shadow lies in the clone, and a shadow that grows stays where it is.
-/

namespace WindowedHdr
namespace Shadow

open ByteMemory Usize Windows

variable {code : HookFunction → UInt64} {s s' : ShadowState} {a : ShadowAction}
  {o : InstallOutcome} {object root : UInt64} {kind : ShadowKind} {entryCount entryCapacity : Nat}
  {hooks : List VtableHook} {clone : ClonedRegion} {memory cloned : ByteMemory}

/-- The memory that is allocated for a shadow is not the object, nor the region of its
vtable. -/
def InstallOutcome.AllocatesUnused (o : InstallOutcome) (memory : ByteMemory)
    (object : UInt64) : Prop :=
  o.clone.AllocatesApartFrom (Region.pointer object) ∧
    ∀ information, o.clone.virtualQuery (memory.readPointer object) = some information →
      o.clone.AllocatesApartFrom information.region

/-- An installation allocates unused memory. -/
def ShadowAction.AllocatesUnused (s : ShadowState) : ShadowAction → Prop
  | .patch object _ _ o => o.AllocatesUnused s.memory object
  | _ => True

/-! ### The geometry of a clone -/

/-- The largest clone is far smaller than the address space. -/
theorem maxVtableCloneRegionSize_le : maxVtableCloneRegionSize ≤ 2 ^ 60 := by decide

/-- The capacity is what fits between the shadow and the end of its clone. -/
theorem shadowCapacity_ok {capacity offset : Nat} (h : shadowCapacity clone = .ok capacity)
    (haddress : clone.clonedAddress = clone.clone.1 + UInt64.ofNat offset)
    (hoffset : offset < 2 ^ 64) :
    offset ≤ clone.cloneSize ∧ capacity = (clone.cloneSize - offset) / 8 := by
  unfold shadowCapacity at h
  obtain ⟨shadowOffset, hshadow, h⟩ := Except.bind_eq_ok.mp h
  obtain ⟨room, hroom, h⟩ := Except.bind_eq_ok.mp h
  obtain rfl := Except.ok.inj h
  obtain ⟨rfl, hle⟩ := checkedSub_eq_some.mp (Option.okOr_eq_ok.mp hshadow)
  obtain ⟨rfl, hfits⟩ := checkedSub_eq_some.mp (Option.okOr_eq_ok.mp hroom)
  -- the subtraction would have failed if the clone's address had wrapped
  have hsum : clone.clonedAddress.toNat = clone.clone.1.toNat + offset := by
    rw [haddress, UInt64.toNat_add, UInt64.toNat_ofNat'] at hle ⊢
    omega
  rw [hsum, Nat.add_sub_cancel_left] at hfits ⊢
  exact ⟨hfits, rfl⟩

/-- A cloned vtable: the clone of its region, and as many entries as fit. -/
theorem cloneVtable_ok
    (h : cloneVtable o memory root entryCount = .ok (clone, entryCapacity, cloned)) :
    ∃ information offset,
      Clones o.clone memory root pointerSize (entryCount * pointerSize)
        maxVtableCloneRegionSize information offset clone cloned ∧
      offset + 8 * entryCapacity ≤ information.regionSize.toNat ∧
      entryCount ≤ entryCapacity ∧ entryCapacity < 2 ^ 60 := by
  unfold cloneVtable at h
  obtain ⟨requiredBytes, hrequired, h⟩ := Except.bind_eq_ok.mp h
  obtain ⟨⟨clone', cloned'⟩, hclone, h⟩ := Except.bind_eq_ok.mp h
  obtain ⟨capacity, hcapacity, h⟩ := Except.bind_eq_ok.mp h
  have heq := Except.ok.inj h
  simp only [Prod.mk.injEq] at heq
  obtain ⟨rfl, rfl, rfl⟩ := heq
  obtain ⟨rfl, -⟩ := checkedMul_eq_some.mp (Option.okOr_eq_ok.mp hrequired)
  obtain ⟨information, offset, hclones⟩ := clones_of_ok hclone
  have hsize := hclones.cloneSize
  have hmaximum := hclones.le_maximum
  have hfits := hclones.fits
  have hbound := maxVtableCloneRegionSize_le
  -- the capacity is counted from the vtable to the end of the clone
  obtain ⟨hoffset, rfl⟩ := shadowCapacity_ok hcapacity hclones.clonedAddress (by omega)
  refine ⟨information, offset, hclones, ?_, ?_, ?_⟩
  · omega
  · simp only [pointerSize] at hfits
    omega
  · omega

/-- **What a fresh shadow saves** are the entries of the root vtable at that time. -/
theorem FreshShadow.readTable_eq
    (h : FreshShadow o s object kind entryCount hooks root clone entryCapacity cloned)
    (ho : o.AllocatesUnused s.memory object) :
    readTable cloned clone.clonedAddress entryCount = readTable s.memory root entryCount := by
  obtain ⟨information, offset, hclones, hroom, hle, -⟩ := cloneVtable_ok h.cloneVtable
  have hapart := ho.2 information (by rw [h.root_eq]; exact hclones.query)
  -- every entry lies within the region, which was copied
  apply List.map_congr_left
  intro i hi
  have hi : i < entryCount := List.mem_range.mp hi
  exact hclones.readPointer_slot hapart (by omega)

/-- Writing hooks does not touch what is apart from every hooked slot. -/
theorem readPointer_writeHooks_of_apart {shadow b : UInt64}
    (h : ∀ hook ∈ hooks, Apart (slot shadow hook.index) b) :
    (writeHooks shadow hooks memory).readPointer b = memory.readPointer b := by
  unfold writeHooks
  induction hooks generalizing memory with
  | nil => rfl
  | cons hook hooks ih =>
    rw [List.forall_mem_cons] at h
    rw [List.foldl_cons, ih h.2, readPointer_writePointer_of_apart memory h.1]

/-! ### Separation -/

/-- The slots of a record's shadows are apart from those of its root and from the object. -/
def ShadowRecord.Separate (record : ShadowRecord) : Prop :=
  ∀ g ∈ record.generations, g.entryCapacity < 2 ^ 60 ∧ ∀ i < g.entryCapacity,
    Apart (slot g.vtable i) record.object ∧
    ∀ j < g.entryCapacity, Apart (slot g.vtable i) (slot record.rootOriginalVtable j)

/-- A fresh shadow lies apart from the object and from its vtable. -/
theorem FreshShadow.separate
    (h : FreshShadow o s object kind entryCount hooks root clone entryCapacity cloned)
    (ho : o.AllocatesUnused s.memory object) :
    ((newRecord o object kind entryCount root clone cloned).publishShadowGeneration
      (newGeneration entryCount entryCapacity clone)).Separate := by
  obtain ⟨information, offset, hclones, hroom, -, hcapacity⟩ := cloneVtable_ok h.cloneVtable
  -- the one generation lies in the clone, which is apart from the object and the region
  have hapart := ho.2 information (by rw [h.root_eq]; exact hclones.query)
  have hmaximum : maxVtableCloneRegionSize ≤ 2 ^ 64 := by decide
  intro g hg
  obtain rfl := List.mem_singleton.mp hg
  refine ⟨hcapacity, fun i hi => ⟨?_, fun j hj => ?_⟩⟩
  · have hi : i < entryCapacity := hi
    exact hclones.apart_pointer ho.1 hmaximum (by omega)
  · have hi : i < entryCapacity := hi
    have hj : j < entryCapacity := hj
    exact hclones.apart_source_slot hapart hmaximum (by omega) (by omega)

/-- A shadow that grows stays in the clone that it was given. -/
theorem RecordStep.separate {r r' : ShadowRecord} (h : RecordStep code s a r r')
    (hr : r.Separate) : r'.Separate := by
  cases h with
  | kept => exact hr
  | retired => exact hr
  | grown object kind entryCount o i _ g oldOriginals _ hgrow =>
    intro g' hg'
    obtain rfl | hg' := List.mem_cons.mp hg'
    · -- the new generation is the one that grew, with more entries
      exact hr g (List.mem_of_find?_eq_some hgrow.generation_eq)
    · exact hr g' hg'

/-- A record is published with its shadow apart. -/
theorem NewRecord.separate {r : ShadowRecord} (h : NewRecord code s a r)
    (ha : a.AllocatesUnused s) : r.Separate := by
  cases h with
  | lost =>
    intro g hg
    exact nomatch hg
  | installed o object kind entryCount root clone entryCapacity cloned hpatch _ hfresh =>
    subst hpatch
    exact hfresh.separate ha

/-- **Shadows stay apart from what they shadow.** -/
theorem separate_of_reachable
    (h : (shadowSystem code).ReachableWhere (fun s a => a.AllocatesUnused s) s) :
    ∀ (i : Nat) (r : ShadowRecord), s.records[i]? = some r → r.Separate := by
  exact forall_records_of_reachable (fun _ _ _ _ _ hstep => hstep.separate)
    (fun _ _ _ ha hnew => hnew.separate ha) h

/-! ### The sample process -/

/-- The sample allocations lie above everything that ends below their base. -/
theorem sampleOutcomeAt_allocatesApartFrom {allocation : UInt64} {used : Region}
    (hused : used.base.toNat + used.size ≤ allocation.toNat)
    (hallocation : allocation.toNat + 0x1000 < 2 ^ 64) :
    (sampleOutcomeAt allocation).clone.AllocatesApartFrom used := by
  intro size hsize address hclone hother
  have hle : size ≤ 0x1000 := by
    by_contra hgt
    exact hsize (if_neg hgt)
  have hbase : (sampleOutcomeAt allocation).clone.virtualAlloc size = allocation := if_pos hle
  rw [Region.Contains, hbase, UInt64.toNat_sub] at hclone
  rw [Region.Contains, UInt64.toNat_sub] at hother
  -- as offsets that do not wrap, both containments are linear
  have haddress := address.toNat_lt
  simp only at hclone
  omega

/-- The sample clone is allocated above the object and its vtable. -/
theorem sampleState_allocatesUnused :
    sampleOutcome.AllocatesUnused sampleState.memory sampleObject := by
  refine ⟨sampleOutcomeAt_allocatesApartFrom (by decide) (by decide), fun information h => ?_⟩
  obtain rfl := Option.some.inj h
  exact sampleOutcomeAt_allocatesApartFrom (by decide) (by decide)

/-- The capture of the sample swap chain allocates unused memory. -/
theorem sampleShadowed_reachable_unused :
    (shadowSystem sampleCode).ReachableWhere (fun s a => a.AllocatesUnused s) sampleShadowed := by
  refine .step (.init sampleState_init) ?_ sampleState_capture
  exact sampleState_allocatesUnused

end Shadow
end WindowedHdr
