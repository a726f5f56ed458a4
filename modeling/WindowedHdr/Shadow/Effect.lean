import WindowedHdr.Shadow.Install

/-!
# What an installation can do

`InstallEffect` lists the outcomes of `install_shadow_vtable` once, and
`installEffect_of_install` shows that there are no others; every property of runs is proved
over these cases. An installation

* is rejected, or finds nothing to do, and changes nothing;
* is abandoned after the vtable was cloned, and leaves an unused clone behind;
* loses the object to another module after its record was published, and retires the record;
* shadows the object (`FreshShadow` says what was checked), or
* lets the object's shadow grow (`GrowingShadow`); this happens also when the shadow could
  not be protected again, although the call then reports an error.

Each outcome carries what was checked on the way to it, so that a property of an installation is
proved from the outcome alone. Conversely, when everything that `FreshShadow` or `GrowingShadow`
lists holds, the installation has that outcome (`installShadowVtable_of_fresh`,
`installShadowVtable_of_growing`); this is what the samples use, and the race with a release.
-/

namespace WindowedHdr
namespace Shadow

open ByteMemory Usize Windows

/-! ### The checks -/

variable {o : InstallOutcome} {s s' : ShadowState} {object : UInt64} {kind : ShadowKind}
  {entryCount : Nat} {hooks : List VtableHook} {result : Except String Unit}
  {memory : ByteMemory}

/-- The first check is passed by hooks that lie within a table that is not empty. -/
theorem checkHooks_eq_ok {a : Unit} :
    checkHooks kind entryCount hooks = .ok a ↔
      entryCount ≠ 0 ∧ ∀ hook ∈ hooks, hook.index < entryCount := by
  rw [checkHooks, Except.bind_eq_ok]
  constructor
  · rintro ⟨_, hcount, hindex⟩
    -- the loop over the hooks has passed at every hook
    refine ⟨Except.require_eq_ok.mp hcount, fun hook hhook => ?_⟩
    exact Except.require_eq_ok.mp (Except.forM_eq_ok.mp hindex hook hhook)
  · rintro ⟨hcount, hindex⟩
    refine ⟨⟨⟩, Except.require_eq_ok.mpr hcount, Except.forM_eq_ok.mpr fun hook hhook => ?_⟩
    exact Except.require_eq_ok.mpr (hindex hook hhook)

/-- Every hooked original can be called and is not the replacement. -/
def OriginalsUsable (hooks : List VtableHook) (originals : List UInt64) : Prop :=
  ∀ hook ∈ hooks, originals.getD hook.index 0 ≠ 0 ∧
    originals.getD hook.index 0 ≠ hook.replacement

/-- The second check is passed by originals that are usable. -/
theorem checkOriginals_eq_ok {originals : List UInt64} {a : Unit} :
    checkOriginals hooks originals = .ok a ↔ OriginalsUsable hooks originals := by
  rw [checkOriginals, Except.forM_eq_ok]
  apply forall₂_congr
  intro hook _
  rw [Except.bind_eq_ok]
  constructor
  · rintro ⟨_, hnull, hreplacement⟩
    exact ⟨Except.require_eq_ok.mp hnull, Except.require_eq_ok.mp hreplacement⟩
  · rintro ⟨hnull, hreplacement⟩
    exact ⟨⟨⟩, Except.require_eq_ok.mpr hnull, Except.require_eq_ok.mpr hreplacement⟩

/-- A table is read with as many entries as it was asked for. -/
@[simp] theorem length_readTable (memory : ByteMemory) (table : UInt64) (length : Nat) :
    (readTable memory table length).length = length := by
  simp [readTable]

/-- Each entry of a table that was read is what the slot holds. -/
theorem getElem?_readTable {memory : ByteMemory} {table : UInt64} {length i : Nat}
    (hi : i < length) :
    (readTable memory table length)[i]? = some (memory.readPointer (slot table i)) := by
  simp [readTable, hi]

/-- The vtable pointer of an object is read if neither it nor the object is null. -/
theorem objectVtable_eq_ok {memory : ByteMemory} {vtable : UInt64} :
    objectVtable memory object = .ok vtable ↔
      object ≠ 0 ∧ vtable ≠ 0 ∧ memory.readPointer object = vtable := by
  rw [objectVtable]
  -- the null checks come in this order, and each has an error of its own
  split_ifs with hobject hvtable
  · exact iff_of_false (fun h => nomatch h) fun h => h.1 hobject
  · refine iff_of_false (fun h => nomatch h) fun h => h.2.1 ?_
    rw [← h.2.2, hvtable]
  · constructor
    · intro h
      obtain rfl := Except.ok.inj h
      exact ⟨hobject, hvtable, rfl⟩
    · rintro ⟨-, -, rfl⟩
      rfl

/-! ### The outcomes -/

/-- What was checked when an object gets a shadow. The memory with the clone, before any
hook is written, is `cloned`. -/
structure FreshShadow (o : InstallOutcome) (s : ShadowState) (object : UInt64)
    (kind : ShadowKind) (entryCount : Nat) (hooks : List VtableHook) (root : UInt64)
    (clone : ClonedRegion) (entryCapacity : Nat) (cloned : ByteMemory) : Prop where
  noRecord : s.findShadowRecord object kind = none
  object_ne : object ≠ 0
  root_ne : root ≠ 0
  root_eq : s.memory.readPointer object = root
  hooks_lt : ∀ hook ∈ hooks, hook.index < entryCount
  cloneVtable : cloneVtable o s.memory root entryCount = .ok (clone, entryCapacity, cloned)
  originals : OriginalsUsable hooks (readTable cloned clone.clonedAddress entryCount)

/-- The record of a new shadow, before its first generation. -/
def newRecord (o : InstallOutcome) (object : UInt64) (kind : ShadowKind) (entryCount : Nat)
    (root : UInt64) (clone : ClonedRegion) (cloned : ByteMemory) : ShadowRecord :=
  freshRecord object kind entryCount root o.rootInDxgi
    (readTable cloned clone.clonedAddress entryCount)

/-- The first generation of a new shadow. -/
def newGeneration (entryCount entryCapacity : Nat) (clone : ClonedRegion) : ShadowGeneration where
  vtable := clone.clonedAddress
  entryCount := entryCount
  entryCapacity := entryCapacity
  regionBase := clone.clone.1
  regionSize := clone.cloneSize

/-- What was checked when a shadow grows. -/
structure GrowingShadow (s : ShadowState) (object : UInt64) (kind : ShadowKind)
    (entryCount : Nat) (hooks : List VtableHook) (i : Nat) (record : ShadowRecord)
    (generation : ShadowGeneration) (oldOriginals : List UInt64) : Prop where
  found : s.findShadowRecord object kind = some i
  record_eq : s.records[i]? = some record
  object_ne : object ≠ 0
  generation_eq : record.findShadowGeneration (s.memory.readPointer object) = some generation
  larger : generation.entryCount < entryCount
  fits : entryCount ≤ generation.entryCapacity
  hooks_lt : ∀ hook ∈ hooks, hook.index < entryCount
  oldOriginals_eq : record.originals = some oldOriginals
  originals :
    OriginalsUsable hooks (expandedOriginals s.memory generation oldOriginals entryCount)

/-- The memory after a shadow grew. -/
def grownMemory (s : ShadowState) (generation : ShadowGeneration) (hooks : List VtableHook) :
    ByteMemory :=
  hooks.foldl (expandSlot generation.vtable generation.entryCount) s.memory

/-- **The outcomes of `install_shadow_vtable`.** -/
inductive InstallEffect (o : InstallOutcome) (s : ShadowState) (object : UInt64)
    (kind : ShadowKind) (entryCount : Nat) (hooks : List VtableHook) :
    Except String Unit → ShadowState → Prop
  /-- A check failed before anything was done. -/
  | rejected (error : String) : InstallEffect o s object kind entryCount hooks (.error error) s
  /-- The shadow is large enough, or the object belongs to another module. -/
  | kept (i : Nat) : s.findShadowRecord object kind = some i →
      (∀ (record : ShadowRecord) (generation : ShadowGeneration), s.records[i]? = some record →
        record.findShadowGeneration (s.memory.readPointer object) = some generation →
        entryCount ≤ generation.entryCount) →
      InstallEffect o s object kind entryCount hooks (.ok ()) s
  /-- A check failed after the vtable was cloned. -/
  | abandoned (error : String) (memory : ByteMemory) :
      s.findShadowRecord object kind = none →
      InstallEffect o s object kind entryCount hooks (.error error) { s with memory := memory }
  /-- The exchange failed. -/
  | lost (error : String) (root : UInt64) (clone : ClonedRegion) (entryCapacity : Nat)
      (cloned memory : ByteMemory) :
      FreshShadow o s object kind entryCount hooks root clone entryCapacity cloned →
      InstallEffect o s object kind entryCount hooks (.error error)
        { s with
          memory := memory
          records :=
            s.records ++ [(newRecord o object kind entryCount root clone cloned).retire] }
  /-- The object is shadowed. -/
  | installed (root : UInt64) (clone : ClonedRegion) (entryCapacity : Nat)
      (cloned : ByteMemory) :
      FreshShadow o s object kind entryCount hooks root clone entryCapacity cloned →
      InstallEffect o s object kind entryCount hooks (.ok ())
        { s with
          memory := (interlope o object
            (writeHooks clone.clonedAddress hooks cloned)).writePointer object
              clone.clonedAddress
          records := s.records ++
            [(newRecord o object kind entryCount root clone cloned).publishShadowGeneration
              (newGeneration entryCount entryCapacity clone)] }
  /-- The shadow grew; the result says whether it is protected again. -/
  | expanded (result : Except String Unit) (i : Nat) (record : ShadowRecord)
      (generation : ShadowGeneration) (oldOriginals : List UInt64) :
      GrowingShadow s object kind entryCount hooks i record generation oldOriginals →
      InstallEffect o s object kind entryCount hooks result
        { s with
          memory := grownMemory s generation hooks
          records := s.records.modify i fun r => r.expand entryCount
            (expandedOriginals s.memory generation oldOriginals entryCount) generation }

/-- An installation that stops at a check is rejected. -/
theorem InstallEffect.of_rejected {error : String} (h : (.error error, s) = (result, s')) :
    InstallEffect o s object kind entryCount hooks result s' := by
  obtain ⟨rfl, rfl⟩ := Prod.mk.inj h
  exact .rejected error

/-- An installation that stops after the clone was made is abandoned. -/
theorem InstallEffect.of_abandoned {error : String}
    (hnone : s.findShadowRecord object kind = none)
    (h : (.error error, { s with memory := memory }) = (result, s')) :
    InstallEffect o s object kind entryCount hooks result s' := by
  obtain ⟨rfl, rfl⟩ := Prod.mk.inj h
  exact .abandoned error memory hnone

/-- A modification at the end of a list changes the element that was appended. -/
theorem modify_append_singleton {α : Type} (l : List α) (a : α) (f : α → α) :
    (l ++ [a]).modify l.length f = l ++ [f a] :=
  List.modifyTailIdx_add (List.modifyHead f) 0 l [a]

/-- The exchange decides between a shadowed object and a retired record. -/
theorem publishShadow_cases (o : InstallOutcome) (s : ShadowState) (record : ShadowRecord)
    (generation : ShadowGeneration) :
    (∃ error, publishShadow o s record generation = (.error error,
      { s with
        memory := interlope o record.object s.memory
        records := s.records ++ [record.retire] })) ∨
    publishShadow o s record generation = (.ok (),
      { s with
        memory := (interlope o record.object s.memory).writePointer record.object
          generation.vtable
        records := s.records ++ [record.publishShadowGeneration generation] }) := by
  -- the exchange cannot be made, finds something else, or stores the shadow
  have hcommit := compareExchangePointer_cases (interlope o record.object s.memory)
    record.object record.rootOriginalVtable generation.vtable
  obtain ⟨error, h⟩ | h | h := hcommit
  · left
    refine ⟨error, ?_⟩
    simp only [publishShadow, ShadowState.publishShadowRecord, ShadowState.updateRecord, h,
      modify_append_singleton]
  · left
    -- another module has written to the object in between
    refine ⟨exchangeLost record.kind, ?_⟩
    simp only [publishShadow, ShadowState.publishShadowRecord, ShadowState.updateRecord, h,
      modify_append_singleton]
  · right
    simp only [publishShadow, ShadowState.publishShadowRecord, ShadowState.updateRecord, h,
      modify_append_singleton]

/-- A fresh installation is rejected, abandoned, lost or completed. -/
theorem installEffect_of_fresh {root : UInt64} (hnone : s.findShadowRecord object kind = none)
    (hvtable : objectVtable s.memory object = .ok root)
    (hhooks : ∀ hook ∈ hooks, hook.index < entryCount)
    (h : installFreshShadow o s object kind entryCount hooks root = (result, s')) :
    InstallEffect o s object kind entryCount hooks result s' := by
  obtain ⟨hobject, hroot, heq⟩ := objectVtable_eq_ok.mp hvtable
  rw [installFreshShadow] at h
  cases hclone : cloneVtable o s.memory root entryCount with
  | error error =>
    rw [hclone] at h
    exact .of_rejected h
  | ok cloned =>
    obtain ⟨clone, entryCapacity, cloned⟩ := cloned
    simp only [hclone] at h
    cases horiginals : checkOriginals hooks (readTable cloned clone.clonedAddress entryCount) with
    | error error =>
      -- the clone is left behind, unused
      simp only [horiginals] at h
      exact .of_abandoned hnone h
    | ok _ =>
      simp only [horiginals] at h
      cases hprotect : protectReadOnly o.protectReadOnly clone.clone.1 clone.cloneSize with
      | error error =>
        simp only [hprotect] at h
        exact .of_abandoned hnone h
      | ok _ =>
        simp only [hprotect] at h
        have hfresh : FreshShadow o s object kind entryCount hooks root clone entryCapacity
            cloned :=
          ⟨hnone, hobject, hroot, heq, hhooks, hclone, checkOriginals_eq_ok.mp horiginals⟩
        -- everything but the exchange has succeeded
        obtain ⟨error, hlost⟩ | hdone := publishShadow_cases o _ _ _
        · rw [hlost] at h
          obtain ⟨rfl, rfl⟩ := Prod.mk.inj h
          exact .lost error root clone entryCapacity cloned _ hfresh
        · rw [hdone] at h
          obtain ⟨rfl, rfl⟩ := Prod.mk.inj h
          exact .installed root clone entryCapacity cloned hfresh

/-- An expansion is rejected or lets the shadow grow. -/
theorem installEffect_of_expand {i : Nat} {record : ShadowRecord}
    {generation : ShadowGeneration} (hfound : s.findShadowRecord object kind = some i)
    (hrecord : s.records[i]? = some record) (hobject : object ≠ 0)
    (hgeneration : record.findShadowGeneration (s.memory.readPointer object) = some generation)
    (hlarger : generation.entryCount < entryCount)
    (hhooks : ∀ hook ∈ hooks, hook.index < entryCount)
    (h : expandOwnedShadow o s i record generation entryCount hooks = (result, s')) :
    InstallEffect o s object kind entryCount hooks result s' := by
  rw [expandOwnedShadow] at h
  by_cases hfits : generation.entryCapacity < entryCount
  -- there is no room behind the vtable in its region
  · rw [if_pos hfits] at h
    exact .of_rejected h
  rw [if_neg hfits] at h
  cases hold : record.originals with
  | none =>
    simp only [hold] at h
    exact .of_rejected h
  | some oldOriginals =>
    simp only [hold] at h
    cases horiginals : checkOriginals hooks
        (expandedOriginals s.memory generation oldOriginals entryCount) with
    | error error =>
      simp only [horiginals] at h
      -- an entry that is to be hooked is null, or hooked by us already
      exact .of_rejected h
    | ok a =>
      have husable := checkOriginals_eq_ok.mp horiginals
      simp only [horiginals] at h
      cases hprotect : protectReadWrite o.protectReadWrite generation.regionBase
          generation.regionSize with
      | error error =>
        simp only [hprotect] at h
        exact .of_rejected h
      | ok _ =>
        -- the hooks are written, so whether the region is protected again only decides the result
        simp only [hprotect] at h
        obtain ⟨rfl, rfl⟩ := Prod.mk.inj h
        exact .expanded _ i record generation oldOriginals
          ⟨hfound, hrecord, hobject, hgeneration, hlarger, Nat.le_of_not_lt hfits, hhooks, hold,
            husable⟩

/-- **Every installation has one of the outcomes.** -/
theorem installEffect_of_install
    (h : installShadowVtable o s object kind entryCount hooks = (result, s')) :
    InstallEffect o s object kind entryCount hooks result s' := by
  rw [installShadowVtable] at h
  cases hvtable : objectVtable s.memory object with
  | error error =>
    rw [hvtable] at h
    exact .of_rejected h
  | ok root =>
    simp only [hvtable] at h
    cases hhooks : checkHooks kind entryCount hooks with
    | error error =>
      simp only [hhooks] at h
      exact .of_rejected h
    | ok _ =>
      simp only [hhooks] at h
      -- the object and the hooks are valid; what happens depends on its record
      have hlt := (checkHooks_eq_ok.mp hhooks).2
      cases hfound : s.findShadowRecord object kind with
      | none =>
        simp only [hfound] at h
        exact installEffect_of_fresh hfound hvtable hlt h
      | some i =>
        obtain ⟨record, hrecord, -⟩ := ShadowState.exists_of_findShadowRecord hfound
        obtain ⟨hobject, -, heq⟩ := objectVtable_eq_ok.mp hvtable
        simp only [hfound, hrecord] at h
        cases hgeneration : record.findShadowGeneration root with
        | none =>
          -- a foreign vtable: there is no generation that could be too small
          simp only [hgeneration] at h
          obtain ⟨rfl, rfl⟩ := Prod.mk.inj h
          refine .kept i hfound fun record' generation' hrecord' hgeneration' => ?_
          obtain rfl := Option.some.inj (hrecord.symm.trans hrecord')
          rw [heq, hgeneration] at hgeneration'
          exact nomatch hgeneration'
        | some generation =>
          simp only [hgeneration] at h
          rw [← heq] at hgeneration
          split at h
          · next hle =>
            obtain ⟨rfl, rfl⟩ := Prod.mk.inj h
            refine .kept i hfound fun record' generation' hrecord' hgeneration' => ?_
            obtain rfl := Option.some.inj (hrecord.symm.trans hrecord')
            obtain rfl := Option.some.inj (hgeneration.symm.trans hgeneration')
            -- the shadow has the entries already
            exact hle
          · next hlarger =>
            exact installEffect_of_expand hfound hrecord hobject hgeneration
              (Nat.lt_of_not_le hlarger) hlt h

/-! ### Success -/

/-- A fresh installation succeeds when the clone can be protected and nobody interferes. -/
theorem installShadowVtable_of_fresh {root : UInt64} {clone : ClonedRegion}
    {entryCapacity : Nat} {cloned : ByteMemory}
    (h : FreshShadow o s object kind entryCount hooks root clone entryCapacity cloned)
    (hcount : entryCount ≠ 0)
    (hprotect : protectReadOnly o.protectReadOnly clone.clone.1 clone.cloneSize = .ok ())
    (hexchange : compareExchangePointer
      (interlope o object (writeHooks clone.clonedAddress hooks cloned)) object root
        clone.clonedAddress = (.ok true, memory)) :
    installShadowVtable o s object kind entryCount hooks = (.ok (),
      { s with
        memory := memory
        records := s.records ++
          [(newRecord o object kind entryCount root clone cloned).publishShadowGeneration
            (newGeneration entryCount entryCapacity clone)] }) := by
  -- every check on the way passes
  have hvtable : objectVtable s.memory object = .ok root :=
    objectVtable_eq_ok.mpr ⟨h.object_ne, h.root_ne, h.root_eq⟩
  have hhooks : checkHooks kind entryCount hooks = .ok () :=
    checkHooks_eq_ok.mpr ⟨hcount, h.hooks_lt⟩
  have horiginals : checkOriginals hooks (readTable cloned clone.clonedAddress entryCount) =
      .ok () := checkOriginals_eq_ok.mpr h.originals
  simp only [installShadowVtable, hvtable, hhooks, h.noRecord, installFreshShadow, h.cloneVtable,
    horiginals, hprotect, publishShadow, ShadowState.publishShadowRecord,
    ShadowState.updateRecord, freshRecord, hexchange, modify_append_singleton]
  rfl

/-- An expansion gets as far as the last protection once the region is writable. -/
theorem installShadowVtable_of_growing {i : Nat} {record : ShadowRecord}
    {generation : ShadowGeneration} {oldOriginals : List UInt64}
    (h : GrowingShadow s object kind entryCount hooks i record generation oldOriginals)
    (hvtable : s.memory.readPointer object ≠ 0)
    (hprotect : protectReadWrite o.protectReadWrite generation.regionBase
      generation.regionSize = .ok ()) :
    installShadowVtable o s object kind entryCount hooks =
      (protectReadOnly o.protectReadOnly generation.regionBase generation.regionSize,
        { s with
          memory := grownMemory s generation hooks
          records := s.records.modify i fun r => r.expand entryCount
            (expandedOriginals s.memory generation oldOriginals entryCount) generation }) := by
  -- every check on the way passes, except for the last protection, whose result is returned
  have hlarger := h.larger
  have hobject : objectVtable s.memory object = .ok (s.memory.readPointer object) :=
    objectVtable_eq_ok.mpr ⟨h.object_ne, hvtable, rfl⟩
  have hhooks : checkHooks kind entryCount hooks = .ok () :=
    checkHooks_eq_ok.mpr ⟨by omega, h.hooks_lt⟩
  have horiginals : checkOriginals hooks
      (expandedOriginals s.memory generation oldOriginals entryCount) = .ok () :=
    checkOriginals_eq_ok.mpr h.originals
  simp only [installShadowVtable, hobject, hhooks, h.found, h.record_eq, h.generation_eq,
    Nat.not_le.mpr hlarger, if_false, expandOwnedShadow, Nat.not_lt.mpr h.fits,
    h.oldOriginals_eq, horiginals, hprotect]
  rfl

/-- An object that points at a foreign vtable is left alone. -/
theorem installShadowVtable_of_foreign {i : Nat} {record : ShadowRecord}
    (hobject : object ≠ 0) (hvtable : s.memory.readPointer object ≠ 0)
    (hcount : entryCount ≠ 0) (hhooks : ∀ hook ∈ hooks, hook.index < entryCount)
    (hfound : s.findShadowRecord object kind = some i) (hrecord : s.records[i]? = some record)
    (hforeign : record.findShadowGeneration (s.memory.readPointer object) = none) :
    installShadowVtable o s object kind entryCount hooks = (.ok (), s) := by
  -- the checks pass, and then there is no generation to compare with
  have hok : objectVtable s.memory object = .ok (s.memory.readPointer object) :=
    objectVtable_eq_ok.mpr ⟨hobject, hvtable, rfl⟩
  have hchecked : checkHooks kind entryCount hooks = .ok () :=
    checkHooks_eq_ok.mpr ⟨hcount, hhooks⟩
  simp only [installShadowVtable, hok, hchecked, hfound, hrecord, hforeign]

end Shadow
end WindowedHdr
