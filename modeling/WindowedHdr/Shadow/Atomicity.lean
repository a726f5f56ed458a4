import WindowedHdr.Shadow.Expansion

/-!
# An installation commits or changes nothing

`install_shadow_vtable` returns early in a dozen places, and it stores in several steps. Over
all outcomes of the calls it makes, and for any list of hooks:

* either nothing that can be observed has changed (`NothingChanged`), except that another
  module may have written the object's vtable pointer meanwhile;
* or the installation is complete (`Committed`), also where it reports an error because the
  shadow could not be protected again.

What it writes is `Local`: the root vtable, the vtable pointers of other objects and their
records stay as they are.

`installSystem` runs installations with any hooks, calls of `Release` and writes of other
modules one after the other, and the theorem holds in all of its reachable states. What is
assumed of an installation is `SafeInstall`: `VirtualAlloc` hands out memory that is not in
use, and an object lies neither in a shadow nor in the vtable that is cloned.

Every outcome of `installEffect_of_install` is one of the two. The failures differ only in how
much of an unused clone was written and in whether a record was published and retired, neither
of which can be observed (`nothingChanged_of_failed`). The successes leave in every hooked slot
either the replacement, or what another module had written there before. The records stay
`Consistent` over runs: each is well formed and lies in the memory that was allocated for it,
and no two share any.
-/

namespace WindowedHdr
namespace Shadow

open ByteMemory Usize Windows

/-! ### Operations with any hooks -/

/-- One whole operation. -/
inductive InstallAction
  /-- `install_shadow_vtable`. -/
  | install (object : UInt64) (kind : ShadowKind) (entryCount : Nat) (hooks : List VtableHook)
      (o : InstallOutcome)
  /-- `release_shadow_object`; the native call returns `remaining`. -/
  | release (object : UInt64) (kind : ShadowKind) (remaining : UInt32)
  /-- Another module writes a pointer. -/
  | write (address value : UInt64)

/-- The system of whole operations. -/
def installSystem : ActionSystem ShadowState InstallAction where
  Init s := s.records = []
  step s
    | .install object kind entryCount hooks o =>
      some (installShadowVtable o s object kind entryCount hooks).2
    | .release object kind remaining => some (releaseShadowObject remaining s object kind).2
    | .write address value => some { s with memory := s.memory.writePointer address value }

variable {s s' : ShadowState} {o : InstallOutcome} {object root p : UInt64} {kind : ShadowKind}
  {entryCount entryCapacity i : Nat} {hooks : List VtableHook} {result : Except String Unit}
  {clone : ClonedRegion} {memory cloned : ByteMemory} {r r' : ShadowRecord}

/-! ### What is assumed of memory -/

/-- The memory that a shadow was cloned into. -/
def ShadowGeneration.region (self : ShadowGeneration) : Region :=
  ⟨self.regionBase, self.regionSize⟩

/-- A pointer that is in no shadow. -/
def ShadowState.OutsideShadows (s : ShadowState) (p : UInt64) : Prop :=
  ∀ (i : Nat) (r : ShadowRecord), s.records[i]? = some r → ∀ g ∈ r.generations,
    Region.Disjoint g.region (Region.pointer p)

/-- The vtable that an object had before it was shadowed. -/
def ShadowState.rootVtable (s : ShadowState) (object : UInt64) (kind : ShadowKind) : UInt64 :=
  match (s.findShadowRecord object kind).bind (s.records[·]?) with
  | none => s.memory.readPointer object
  | some record => record.rootOriginalVtable

/-- What the operating system and the caller guarantee: the memory that is allocated for a
clone is not the object, its vtable or an earlier shadow, and the object lies neither in a
shadow nor in the vtable that is cloned. -/
structure SafeInstall (o : InstallOutcome) (s : ShadowState) (object : UInt64)
    (entryCount : Nat) : Prop where
  unused : o.AllocatesUnused s.memory object
  unused_shadows : ∀ (i : Nat) (r : ShadowRecord), s.records[i]? = some r →
    ∀ g ∈ r.generations, o.clone.AllocatesApartFrom g.region
  object_outside : s.OutsideShadows object
  object_apart : ∀ r,
    cloneVtable o s.memory (s.memory.readPointer object) entryCount = .ok r →
      ∀ j < entryCount, Apart object (slot (s.memory.readPointer object) j)

/-- Every installation is safe. -/
def InstallAction.Safe (s : ShadowState) : InstallAction → Prop
  | .install object _ entryCount _ o => SafeInstall o s object entryCount
  | _ => True

/-! ### Records of any run -/

/-- What holds of every record: its sizes fit together, its shadows are apart from what they
shadow and lie in their region. -/
structure ShadowRecord.Consistent (r : ShadowRecord) : Prop where
  sized : r.Sized
  separate : r.Separate
  inside : ∀ g ∈ r.generations, ∀ j < g.entryCapacity, ∀ k < 8,
    g.region.Contains (slot g.vtable j + UInt64.ofNat k)

/-- The shadows of two records share no memory. -/
def ShadowRecord.RegionsApart (r r' : ShadowRecord) : Prop :=
  ∀ g ∈ r.generations, ∀ g' ∈ r'.generations, Region.Disjoint g.region g'.region

/-- What holds of all records. -/
structure ShadowState.Consistent (s : ShadowState) : Prop where
  record : ∀ (i : Nat) (r : ShadowRecord), s.records[i]? = some r → r.Consistent
  apart : NewestFirst.Pairwise ShadowRecord.RegionsApart s.records

/-- A record changes in a way that keeps it consistent and in its memory. -/
def ShadowRecord.StaysConsistent (r r' : ShadowRecord) : Prop :=
  (r.Consistent → r'.Consistent) ∧ ∀ g' ∈ r'.generations, ∃ g ∈ r.generations, g.region = g'.region

/-- A record that may be published in `s`. -/
def ShadowState.NewConsistent (s : ShadowState) (r : ShadowRecord) : Prop :=
  r.Consistent ∧ ∀ (i : Nat) (r' : ShadowRecord), s.records[i]? = some r' → r'.RegionsApart r

/-- A record that is left alone stays consistent. -/
theorem ShadowRecord.StaysConsistent.refl (r : ShadowRecord) : r.StaysConsistent r :=
  ⟨id, fun g hg => ⟨g, hg, rfl⟩⟩

/-- A retired record keeps its table and its shadows. -/
theorem ShadowRecord.staysConsistent_retire (r : ShadowRecord) : r.StaysConsistent r.retire :=
  ⟨fun h => ⟨⟨h.sized.saved, h.sized.oneTable, h.sized.newest⟩, h.separate, h.inside⟩,
    fun g hg => ⟨g, hg, rfl⟩⟩

/-- Records that stay consistent, and new ones in memory of their own, are consistent. -/
theorem ShadowState.Consistent.of_evolves (hs : s.Consistent)
    (h : NewestFirst.Evolves ShadowRecord.StaysConsistent s.NewConsistent s.records s'.records) :
    s'.Consistent where
  record := h.forall_of (fun _ _ hstep => hstep.1) (fun _ hnew => hnew.1) hs.record
  apart := by
    refine h.pairwise (fun r r' happart g hg g' hg' => (happart g' hg' g hg).symm) ?_ ?_ hs.apart
    · intro r₁ r₁' r₂ r₂' hstep₁ hstep₂ happart g₁' hg₁' g₂' hg₂'
      -- two old records: their shadows lie where they lay
      obtain ⟨g₁, hg₁, heq₁⟩ := hstep₁.2 g₁' hg₁'
      obtain ⟨g₂, hg₂, heq₂⟩ := hstep₂.2 g₂' hg₂'
      rw [← heq₁, ← heq₂]
      exact happart g₁ hg₁ g₂ hg₂
    · intro i r₁ r₁' r₂ hr₁ hstep₁ hnew g₁' hg₁' g₂ hg₂
      -- an old record and a new one, which has memory of its own
      obtain ⟨g₁, hg₁, heq₁⟩ := hstep₁.2 g₁' hg₁'
      rw [← heq₁]
      exact hnew.2 i r₁ hr₁ g₁ hg₁ g₂ hg₂

/-- The record of a new shadow. -/
theorem FreshShadow.newConsistent
    (h : FreshShadow o s object kind entryCount hooks root clone entryCapacity cloned)
    (hsafe : SafeInstall o s object entryCount) :
    s.NewConsistent ((newRecord o object kind entryCount root clone cloned).publishShadowGeneration
      (newGeneration entryCount entryCapacity clone)) := by
  obtain ⟨information, offset, hclones, hroom, -, -⟩ := cloneVtable_ok h.cloneVtable
  have hmaximum : maxVtableCloneRegionSize ≤ 2 ^ 64 := by decide
  refine ⟨⟨sized_installed o object root kind entryCount entryCapacity clone cloned,
    h.separate hsafe.unused, ?_⟩, ?_⟩
  · intro g hg j hj k hk
    obtain rfl := List.mem_singleton.mp hg
    have hj : j < entryCapacity := hj
    exact hclones.contains_slot hmaximum (by omega) k hk
  · -- the clone was allocated apart from every earlier shadow
    intro i r hr g hg g' hg'
    obtain rfl := List.mem_singleton.mp hg'
    exact (hclones.region_disjoint (hsafe.unused_shadows i r hr g hg)).symm

/-- A record whose shadow grows. -/
theorem GrowingShadow.staysConsistent {generation : ShadowGeneration}
    {oldOriginals : List UInt64}
    (h : GrowingShadow s object kind entryCount hooks i r generation oldOriginals) :
    r.StaysConsistent (r.expand entryCount
      (expandedOriginals s.memory generation oldOriginals entryCount) generation) := by
  have hmem : generation ∈ r.generations := List.mem_of_find?_eq_some h.generation_eq
  constructor
  -- the grown generation lies where the one that it replaces lies
  · intro hr
    refine ⟨h.sized hr.sized, ?_, ?_⟩
    · intro g hg
      obtain rfl | hg := List.mem_cons.mp hg
      · exact hr.separate generation hmem
      · exact hr.separate g hg
    · intro g hg
      obtain rfl | hg := List.mem_cons.mp hg
      · exact hr.inside generation hmem
      · exact hr.inside g hg
  · intro g hg
    obtain rfl | hg := List.mem_cons.mp hg
    · exact ⟨generation, hmem, rfl⟩
    · exact ⟨g, hg, rfl⟩

/-- An installation. -/
theorem InstallEffect.consistent
    (h : InstallEffect o s object kind entryCount hooks result s')
    (hsafe : SafeInstall o s object entryCount) (hs : s.Consistent) : s'.Consistent := by
  refine hs.of_evolves ?_
  cases h with
  | rejected => exact .of_eq ShadowRecord.StaysConsistent.refl rfl
  | kept => exact .of_eq ShadowRecord.StaysConsistent.refl rfl
  | abandoned => exact .of_eq ShadowRecord.StaysConsistent.refl rfl
  | lost _ root clone entryCapacity cloned _ hfresh =>
    -- a retired record never had a generation
    refine .of_append ShadowRecord.StaysConsistent.refl rfl ⟨⟨?_, nofun, nofun⟩, ?_⟩
    · exact sized_lost o object root kind entryCount clone cloned
    · intro i r _ g _ g' hg'
      exact nomatch hg'
  | installed root clone entryCapacity cloned hfresh =>
    exact .of_append ShadowRecord.StaysConsistent.refl rfl (hfresh.newConsistent hsafe)
  | expanded _ i record generation oldOriginals hgrow =>
    refine .of_modify ShadowRecord.StaysConsistent.refl rfl fun r hr => ?_
    obtain rfl := Option.some.inj (hgrow.record_eq.symm.trans hr)
    exact hgrow.staysConsistent

/-- **All records are consistent**, after any run. -/
theorem consistent_of_reachable (h : installSystem.ReachableWhere (fun s a => a.Safe s) s) :
    s.Consistent := by
  refine h.invariant (I := ShadowState.Consistent) ?_ ?_
  · -- no records at first
    intro s hrecords
    constructor
    · intro i r hr
      rw [hrecords] at hr
      exact nomatch hr
    · intro i j r r' hr
      rw [hrecords] at hr
      exact nomatch hr
  · intro s a s' hs hsafe hstep
    cases a with
    | install object kind entryCount hooks o =>
      obtain rfl := Option.some.inj hstep
      exact InstallEffect.consistent (installEffect_of_install rfl) hsafe hs
    | release object kind remaining =>
      -- at most one record is retired, and keeps its shadow
      obtain rfl := Option.some.inj hstep
      refine hs.of_evolves ?_
      obtain heq | ⟨i, -, -, heq⟩ := releaseShadowObject_records remaining s object kind
      · exact .of_eq ShadowRecord.StaysConsistent.refl heq
      · exact .of_modify ShadowRecord.StaysConsistent.refl heq
          fun r _ => r.staysConsistent_retire
    | write address value =>
      obtain rfl := Option.some.inj hstep
      exact hs.of_evolves (.of_eq ShadowRecord.StaysConsistent.refl rfl)

/-! ### What a fresh installation writes -/

section Fresh

variable (hclone : cloneVtable o memory root entryCount = .ok (clone, entryCapacity, cloned))

include hclone

/-- The clone is written into memory that was not in use. -/
theorem readPointer_cloned (hp : o.clone.AllocatesApartFrom (Region.pointer p)) :
    cloned.readPointer p = memory.readPointer p := by
  -- what was allocated is apart from what was in use
  obtain ⟨information, offset, hclones, -, -, -⟩ := cloneVtable_ok hclone
  exact hclones.readPointer_used (by decide) hp

/-- A slot of the clone is not memory that was in use. -/
theorem apart_cloned_slot (hp : o.clone.AllocatesApartFrom (Region.pointer p)) {j : Nat}
    (hj : j < entryCapacity) : Apart (slot clone.clonedAddress j) p := by
  obtain ⟨information, offset, hclones, hroom, -, -⟩ := cloneVtable_ok hclone
  exact hclones.apart_pointer hp (by decide) (by omega)

/-- Neither are the hooks. -/
theorem readPointer_hooked (hp : o.clone.AllocatesApartFrom (Region.pointer p))
    (hindex : ∀ hook ∈ hooks, hook.index < entryCount) :
    (writeHooks clone.clonedAddress hooks cloned).readPointer p = memory.readPointer p := by
  obtain ⟨-, -, -, -, hle, -⟩ := cloneVtable_ok hclone
  rw [readPointer_writeHooks_of_apart, readPointer_cloned hclone hp]
  intro hook hhook
  have hlt := hindex hook hhook
  exact apart_cloned_slot hclone hp (by omega)

end Fresh

/-- Another module's write to the object is nowhere else. -/
theorem readPointer_interlope (h : Apart object p) :
    (interlope o object memory).readPointer p = memory.readPointer p := by
  rw [interlope]
  split
  · rfl
  · exact readPointer_writePointer_of_apart memory h _

/-- It leaves the object with the pointer it had, or with its own. -/
theorem readPointer_interlope_self :
    (interlope o object memory).readPointer object = memory.readPointer object ∨
      o.interloper = some ((interlope o object memory).readPointer object) := by
  rw [interlope]
  split
  · exact .inl rfl
  · next vtable hinterloper =>
    right
    rw [readPointer_writePointer_self, hinterloper]

/-- **The memory after a fresh installation that fails.** -/
theorem memory_of_failed {error : String} (hnone : s.findShadowRecord object kind = none)
    (h : installShadowVtable o s object kind entryCount hooks = (.error error, s')) :
    s'.memory = s.memory ∨ ∃ clone entryCapacity cloned,
      cloneVtable o s.memory (s.memory.readPointer object) entryCount =
        .ok (clone, entryCapacity, cloned) ∧
      (∀ hook ∈ hooks, hook.index < entryCount) ∧
      (s'.memory = cloned ∨ s'.memory = writeHooks clone.clonedAddress hooks cloned ∨
        s'.memory = interlope o object (writeHooks clone.clonedAddress hooks cloned)) := by
  rw [installShadowVtable] at h
  cases hvtable : objectVtable s.memory object with
  | error error =>
    simp only [hvtable] at h
    obtain ⟨-, rfl⟩ := Prod.mk.inj h
    exact .inl rfl
  | ok root =>
    obtain ⟨-, -, rfl⟩ := objectVtable_eq_ok.mp hvtable
    simp only [hvtable] at h
    cases hhooks : checkHooks kind entryCount hooks with
    | error error =>
      simp only [hhooks] at h
      obtain ⟨-, rfl⟩ := Prod.mk.inj h
      exact .inl rfl
    | ok _ =>
      simp only [hhooks, hnone, installFreshShadow] at h
      cases hclone : cloneVtable o s.memory (s.memory.readPointer object) entryCount with
      | error error =>
        simp only [hclone] at h
        obtain ⟨-, rfl⟩ := Prod.mk.inj h
        exact .inl rfl
      | ok r =>
        obtain ⟨clone, entryCapacity, cloned⟩ := r
        simp only [hclone] at h
        refine .inr ⟨clone, entryCapacity, cloned, rfl, (checkHooks_eq_ok.mp hhooks).2, ?_⟩
        -- each of the later failures leaves one more of the stores behind
        cases horiginals : checkOriginals hooks
            (readTable cloned clone.clonedAddress entryCount) with
        | error error =>
          simp only [horiginals] at h
          obtain ⟨-, rfl⟩ := Prod.mk.inj h
          exact .inl rfl
        | ok _ =>
          simp only [horiginals] at h
          cases hprotect : protectReadOnly o.protectReadOnly clone.clone.1 clone.cloneSize with
          | error error =>
            simp only [hprotect] at h
            obtain ⟨-, rfl⟩ := Prod.mk.inj h
            exact .inr (.inl rfl)
          | ok _ =>
            simp only [hprotect] at h
            obtain ⟨error, hlost⟩ | hdone := publishShadow_cases o _ _ _
            · rw [hlost] at h
              obtain ⟨-, rfl⟩ := Prod.mk.inj h
              exact .inr (.inr rfl)
            · rw [hdone] at h
              cases (Prod.mk.inj h).1

/-! ### What an installation leaves alone -/

/-- A fresh installation touches only the object and memory that was not in use. -/
theorem readPointer_of_fresh (hnone : s.findShadowRecord object kind = none)
    (h : installShadowVtable o s object kind entryCount hooks = (result, s'))
    (hp : ∀ r, cloneVtable o s.memory (s.memory.readPointer object) entryCount = .ok r →
      o.clone.AllocatesApartFrom (Region.pointer p) ∧ Apart object p) :
    s'.memory.readPointer p = s.memory.readPointer p := by
  -- what a failure leaves behind
  have hfailed : ∀ error s', installShadowVtable o s object kind entryCount hooks =
      (.error error, s') → s'.memory.readPointer p = s.memory.readPointer p := by
    intro error s' h
    obtain heq | ⟨clone, entryCapacity, cloned, hclone, hindex, heq | heq | heq⟩ :=
      memory_of_failed hnone h
    · rw [heq]
    · rw [heq, readPointer_cloned hclone (hp _ hclone).1]
    · rw [heq, readPointer_hooked hclone (hp _ hclone).1 hindex]
    · rw [heq, readPointer_interlope (hp _ hclone).2,
        readPointer_hooked hclone (hp _ hclone).1 hindex]
  -- only a completed installation writes more than a failure does: it writes to the object
  have heffect := installEffect_of_install h
  cases heffect with
  | rejected => rfl
  | kept => rfl
  | abandoned error memory _ => exact hfailed error _ h
  | lost error root clone entryCapacity cloned memory _ => exact hfailed error _ h
  | installed root clone entryCapacity cloned hfresh =>
    obtain rfl := hfresh.root_eq
    have hclone := hfresh.cloneVtable
    obtain ⟨hunused, hapart⟩ := hp _ hclone
    show (writePointer _ object clone.clonedAddress).readPointer p = _
    rw [readPointer_writePointer_of_apart _ hapart, readPointer_interlope hapart,
      readPointer_hooked hclone hunused hfresh.hooks_lt]
  | expanded _ i record generation oldOriginals hgrow =>
    rw [hgrow.found] at hnone
    exact nomatch hnone

/-- An installation on a shadowed object touches only its shadow. -/
theorem readPointer_of_found (hfound : s.findShadowRecord object kind = some i)
    (hrecord : s.records[i]? = some r)
    (h : installShadowVtable o s object kind entryCount hooks = (result, s'))
    (hp : ∀ g ∈ r.generations, entryCount ≤ g.entryCapacity → ∀ j < g.entryCapacity,
      Apart (slot g.vtable j) p) :
    s'.memory.readPointer p = s.memory.readPointer p := by
  have heffect := installEffect_of_install h
  cases heffect with
  | rejected => rfl
  | kept => rfl
  | abandoned _ _ hnone =>
    -- the other effects are those of an object without a record
    rw [hfound] at hnone
    exact nomatch hnone
  | lost _ _ _ _ _ _ hfresh =>
    have hnone := hfresh.noRecord
    rw [hfound] at hnone
    exact nomatch hnone
  | installed _ _ _ _ hfresh =>
    have hnone := hfresh.noRecord
    rw [hfound] at hnone
    exact nomatch hnone
  | expanded _ i' record generation oldOriginals hgrow =>
    -- the hooks go into slots of a generation that has room for them
    obtain rfl := Option.some.inj (hfound.symm.trans hgrow.found)
    obtain rfl := Option.some.inj (hrecord.symm.trans hgrow.record_eq)
    refine readPointer_foldl_expandSlot_of_apart fun hook hhook => ?_
    have hlt := hgrow.hooks_lt hook hhook
    have hfits := hgrow.fits
    exact hp generation (List.mem_of_find?_eq_some hgrow.generation_eq) hfits hook.index (by omega)

/-- The slots of earlier shadows are memory in use. -/
theorem SafeInstall.unused_slot (h : SafeInstall o s object entryCount)
    (hs : s.Consistent) (hr : s.records[i]? = some r) {g : ShadowGeneration}
    (hg : g ∈ r.generations) {j : Nat} (hj : j < g.entryCapacity) :
    o.clone.AllocatesApartFrom (Region.pointer (slot g.vtable j)) :=
  (h.unused_shadows i r hr g hg).pointer ((hs.record i r hr).inside g hg j hj)

/-- A pointer outside of all shadows is apart from each of their slots. -/
theorem ShadowState.OutsideShadows.apart (h : s.OutsideShadows p) (hs : s.Consistent)
    (hr : s.records[i]? = some r) {g : ShadowGeneration} (hg : g ∈ r.generations) {j : Nat}
    (hj : j < g.entryCapacity) : Apart (slot g.vtable j) p := by
  refine (h i r hr g hg).apart ((hs.record i r hr).inside g hg j hj) fun k hk => ?_
  exact Region.contains_add hk (by simp [Region.pointer])

/-- The slots of the root vtable are memory in use. -/
theorem SafeInstall.unused_root (h : SafeInstall o s object entryCount)
    (hclone : cloneVtable o s.memory (s.memory.readPointer object) entryCount =
      .ok (clone, entryCapacity, cloned)) {j : Nat} (hj : j < entryCount) :
    o.clone.AllocatesApartFrom (Region.pointer (slot (s.memory.readPointer object) j)) := by
  obtain ⟨information, offset, hclones, hroom, hle, -⟩ := cloneVtable_ok hclone
  exact (h.unused.2 information hclones.query).pointer
    (hclones.contains_source_slot (by omega))

/-- **What an installation leaves alone.** -/
structure Local (o : InstallOutcome) (s s' : ShadowState) (object : UInt64) (kind : ShadowKind)
    (entryCount : Nat) : Prop where
  /-- The root vtable is not written. -/
  root : ∀ j < entryCount, s'.memory.readPointer (slot (s.rootVtable object kind) j) =
    s.memory.readPointer (slot (s.rootVtable object kind) j)
  /-- Other objects keep their vtable pointers. -/
  objects : ∀ other, Apart object other → s.OutsideShadows other →
    o.clone.AllocatesApartFrom (Region.pointer other) →
      s'.memory.readPointer other = s.memory.readPointer other
  /-- Other objects keep their records, and get no new ones. -/
  records : ∀ (i : Nat) (r : ShadowRecord), r.object ≠ object ∨ r.kind ≠ kind →
    (s'.records[i]? = some r ↔ s.records[i]? = some r)
  /-- Their shadows keep what is in their slots. -/
  shadows : ∀ (i : Nat) (r : ShadowRecord), s.records[i]? = some r →
    r.object ≠ object ∨ r.kind ≠ kind → ∀ g ∈ r.generations, ∀ j < g.entryCapacity,
      s'.memory.readPointer (slot g.vtable j) = s.memory.readPointer (slot g.vtable j)

/-- A record that is added, or changed in place, for one object and kind is not seen at the
records of others. -/
theorem InstallEffect.records_iff
    (h : InstallEffect o s object kind entryCount hooks result s')
    (hr : r.object ≠ object ∨ r.kind ≠ kind) :
    s'.records[i]? = some r ↔ s.records[i]? = some r := by
  -- a record of this object and kind is none of another object or kind
  have hnew : ∀ b : ShadowRecord, b.object = object → b.kind = kind →
      ((s.records ++ [b])[i]? = some r ↔ s.records[i]? = some r) := by
    intro b hobject hkind
    obtain hlt | hle := Nat.lt_or_ge i s.records.length
    · rw [List.getElem?_append_left hlt]
    · rw [List.getElem?_append_right hle, List.getElem?_eq_none hle]
      refine iff_of_false (fun hb => ?_) (fun hb => nomatch hb)
      obtain rfl := List.mem_singleton.mp (List.mem_of_getElem? hb)
      exact hr.elim (fun hne => hne hobject) (fun hne => hne hkind)
  cases h with
  | rejected => exact Iff.rfl
  | kept => exact Iff.rfl
  | abandoned => exact Iff.rfl
  | lost => exact hnew _ rfl rfl
  | installed => exact hnew _ rfl rfl
  | expanded _ k record generation oldOriginals hgrow =>
    rw [List.getElem?_modify]
    by_cases hki : k = i
    · subst hki
      obtain ⟨hobject, hkind, -⟩ := hgrow.isFor
      rw [hgrow.record_eq]
      simp only [if_true, Option.map_eq_map, Option.map_some, Option.some.injEq]
      -- neither the old nor the new record is one of another object or kind
      refine iff_of_false ?_ ?_
      · rintro rfl
        exact hr.elim (fun hne => hne hobject) (fun hne => hne hkind)
      · rintro rfl
        exact hr.elim (fun hne => hne hobject) (fun hne => hne hkind)
    · simp [hki]

/-- **An installation is local**, whatever its outcome. -/
theorem local_of_install (hs : s.Consistent) (hsafe : SafeInstall o s object entryCount)
    (h : installShadowVtable o s object kind entryCount hooks = (result, s')) :
    Local o s s' object kind entryCount := by
  have heffect := installEffect_of_install h
  cases hfound : s.findShadowRecord object kind with
  | none =>
    -- a fresh shadow is written into memory that nobody uses
    have hroot : s.rootVtable object kind = s.memory.readPointer object := by
      rw [ShadowState.rootVtable, hfound]
      rfl
    refine ⟨?_, ?_, fun i r hr => heffect.records_iff hr, ?_⟩
    · intro j hj
      rw [hroot]
      exact readPointer_of_fresh hfound h fun _ hclone =>
        ⟨hsafe.unused_root hclone hj, hsafe.object_apart _ hclone j hj⟩
    · intro other hother _ hunused
      exact readPointer_of_fresh hfound h fun _ _ => ⟨hunused, hother⟩
    · intro i r hr _ g hg j hj
      exact readPointer_of_fresh hfound h fun _ _ =>
        ⟨hsafe.unused_slot hs hr hg hj, (hsafe.object_outside.apart hs hr hg hj).symm⟩
  | some k =>
    -- a growing shadow is apart from its own root vtable and from the other shadows
    obtain ⟨record, hrecord, hobject, hkind, -⟩ := ShadowState.exists_of_findShadowRecord hfound
    have hroot : s.rootVtable object kind = record.rootOriginalVtable := by
      rw [ShadowState.rootVtable, hfound, Option.bind_some, hrecord]
    refine ⟨?_, ?_, fun i r hr => heffect.records_iff hr, ?_⟩
    · intro j hj
      rw [hroot]
      refine readPointer_of_found hfound hrecord h fun g hg hfits j' hj' => ?_
      obtain ⟨-, hseparate⟩ := (hs.record k record hrecord).separate g hg
      exact (hseparate j' hj').2 j (Nat.lt_of_lt_of_le hj hfits)
    · intro other _ houtside _
      -- the other object lies outside of all shadows, and so outside of this one
      exact readPointer_of_found hfound hrecord h
        fun g hg _ j hj => houtside.apart hs hrecord hg hj
    · intro i r hr hne g hg j hj
      -- the other record is another one, so its shadows share no memory with the one that grows
      have hki : k ≠ i := by
        rintro rfl
        obtain rfl := Option.some.inj (hrecord.symm.trans hr)
        exact hne.elim (fun h => h hobject) (fun h => h hkind)
      refine readPointer_of_found hfound hrecord h fun g' hg' _ j' hj' => ?_
      exact (hs.apart k i record r hrecord hr hki g' hg' g hg).apart
        ((hs.record k record hrecord).inside g' hg' j' hj')
        ((hs.record i r hr).inside g hg j hj)

/-! ### Commitment -/

/-- **Nothing that can be observed has changed**, except what another module wrote to the
object. A record that was published and retired again is not observed. -/
structure NothingChanged (o : InstallOutcome) (s s' : ShadowState) (object : UInt64) : Prop where
  vtable : s'.memory.readPointer object = s.memory.readPointer object ∨
    o.interloper = some (s'.memory.readPointer object)
  active : ∀ (i : Nat) (r : ShadowRecord), r.active = true →
    (s'.records[i]? = some r ↔ s.records[i]? = some r)
  records : ∀ (i : Nat) (r : ShadowRecord), s.records[i]? = some r → s'.records[i]? = some r
  shadows : ∀ (i : Nat) (r : ShadowRecord), s.records[i]? = some r → ∀ g ∈ r.generations,
    ∀ j < g.entryCapacity,
      s'.memory.readPointer (slot g.vtable j) = s.memory.readPointer (slot g.vtable j)

/-- **The installation is complete.** The object points at the newest generation of its active
record, which has the requested size, as does the table of originals. Every hooked slot holds
the replacement of its last hook, or the foreign function that was in it before, if the shadow
had the slot already. -/
structure Committed (s s' : ShadowState) (object : UInt64) (kind : ShadowKind)
    (entryCount : Nat) (hooks : List VtableHook) : Prop where
  record : ∃ i r originals g, s'.findShadowRecord object kind = some i ∧
    s'.records[i]? = some r ∧ r.active = true ∧ r.entryCount = entryCount ∧
    r.originals = some originals ∧ originals.length = entryCount ∧
    r.generations.head? = some g ∧ g.entryCount = entryCount ∧
    g.vtable = s'.memory.readPointer object
  slots : ∀ hook ∈ hooks,
    (∃ hook' ∈ hooks, hook'.index = hook.index ∧
      s'.memory.readPointer (slot (s'.memory.readPointer object) hook.index) =
        hook'.replacement) ∨
    ∃ i r, s.findShadowRecord object kind = some i ∧ s.records[i]? = some r ∧
      hook.index < r.entryCount ∧
      s'.memory.readPointer (slot (s'.memory.readPointer object) hook.index) =
        s.memory.readPointer (slot (s'.memory.readPointer object) hook.index) ∧
      s.memory.readPointer (slot (s'.memory.readPointer object) hook.index) ≠ hook.replacement

/-- Nothing changed where nothing was done. -/
theorem NothingChanged.refl (o : InstallOutcome) (s : ShadowState) (object : UInt64) :
    NothingChanged o s s object :=
  ⟨.inl rfl, fun _ _ _ => Iff.rfl, fun _ _ h => h, fun _ _ _ _ _ _ _ => rfl⟩

/-- A fresh installation that fails. -/
theorem nothingChanged_of_failed {error : String} (hs : s.Consistent)
    (hsafe : SafeInstall o s object entryCount)
    (hnone : s.findShadowRecord object kind = none)
    (h : installShadowVtable o s object kind entryCount hooks = (.error error, s')) :
    NothingChanged o s s' object := by
  have hshadows : ∀ (i : Nat) (r : ShadowRecord), s.records[i]? = some r → ∀ g ∈ r.generations,
      ∀ j < g.entryCapacity,
        s'.memory.readPointer (slot g.vtable j) = s.memory.readPointer (slot g.vtable j) := by
    intro i r hr g hg j hj
    exact readPointer_of_fresh hnone h fun _ _ =>
      ⟨hsafe.unused_slot hs hr hg hj, (hsafe.object_outside.apart hs hr hg hj).symm⟩
  -- the stores before the exchange go into the clone, and another module may write to the object
  have hvtable : s'.memory.readPointer object = s.memory.readPointer object ∨
      o.interloper = some (s'.memory.readPointer object) := by
    have hunused := hsafe.unused.1
    obtain heq | ⟨clone, entryCapacity, cloned, hclone, hindex, heq | heq | heq⟩ :=
      memory_of_failed hnone h
    · exact .inl (by rw [heq])
    · exact .inl (by rw [heq, readPointer_cloned hclone hunused])
    · exact .inl (by rw [heq, readPointer_hooked hclone hunused hindex])
    · rw [heq, ← readPointer_hooked hclone hunused hindex]
      exact readPointer_interlope_self
  have heffect := installEffect_of_install h
  cases heffect with
  | rejected => exact .refl o s object
  | abandoned => exact ⟨hvtable, fun _ _ _ => Iff.rfl, fun _ _ h => h, hshadows⟩
  | lost _ root clone entryCapacity cloned memory hfresh =>
    refine ⟨hvtable, fun i r hactive => ?_, fun i r hr => ?_, hshadows⟩
    · obtain hlt | hle := Nat.lt_or_ge i s.records.length
      · rw [List.getElem?_append_left hlt]
      · -- the record behind the old ones is the retired one
        rw [List.getElem?_append_right hle, List.getElem?_eq_none hle]
        refine iff_of_false (fun hr => ?_) (fun hr => nomatch hr)
        obtain rfl := List.mem_singleton.mp (List.mem_of_getElem? hr)
        exact nomatch hactive
    · have hlt : i < s.records.length := (List.getElem?_eq_some_iff.mp hr).1
      rw [List.getElem?_append_left hlt, hr]
  | expanded _ i record generation oldOriginals hgrow =>
    rw [hgrow.found] at hnone
    exact nomatch hnone

/-- What the hooks leave in the slots of a clone. -/
theorem readPointer_writeHooks {shadow : UInt64} {hook : VtableHook} (hhook : hook ∈ hooks)
    (hlt : ∀ hook ∈ hooks, hook.index < 2 ^ 60) :
    ∃ hook' ∈ hooks, hook'.index = hook.index ∧
      (writeHooks shadow hooks memory).readPointer (slot shadow hook.index) =
        hook'.replacement := by
  refine readPointer_foldl_hooks ?_ ?_ ⟨hook, hhook, rfl⟩
  · intro m hook' heq
    rw [heq]
    exact readPointer_writePointer_self m _ _
  · intro m hook' hhook' hne
    have hapart := apart_slot shadow hne (hlt hook' hhook') (hlt hook hhook)
    exact readPointer_writePointer_of_apart m hapart _

/-- A fresh installation that succeeds. -/
theorem committed_of_installed
    (h : FreshShadow o s object kind entryCount hooks root clone entryCapacity cloned)
    (hsafe : SafeInstall o s object entryCount) :
    Committed s { s with
        memory := (interlope o object
          (writeHooks clone.clonedAddress hooks cloned)).writePointer object clone.clonedAddress
        records := s.records ++
          [(newRecord o object kind entryCount root clone cloned).publishShadowGeneration
            (newGeneration entryCount entryCapacity clone)] } object kind entryCount hooks := by
  obtain ⟨-, -, -, -, hle, hcapacity⟩ := cloneVtable_ok h.cloneVtable
  constructor
  · refine ⟨s.records.length, _, _, _, ?_, List.getElem?_concat_length, rfl, rfl, rfl,
      length_readTable _ _ _, rfl, rfl, (readPointer_writePointer_self _ _ _).symm⟩
    -- the lookup goes backwards, and the new record is the last one
    exact NewestFirst.find_concat (ShadowRecord.isActiveFor_iff.mpr ⟨rfl, rfl, rfl⟩)
  · intro hook hhook
    have hlt : ∀ hook ∈ hooks, hook.index < 2 ^ 60 := by
      intro hook hhook
      have hlt := h.hooks_lt hook hhook
      omega
    have hindex := h.hooks_lt hook hhook
    -- neither the commit nor what comes before it writes to the slot
    have hapart : Apart object (slot clone.clonedAddress hook.index) :=
      (apart_cloned_slot h.cloneVtable hsafe.unused.1 (by omega)).symm
    obtain ⟨hook', hhook', heq, hvalue⟩ := readPointer_writeHooks hhook hlt
    refine .inl ⟨hook', hhook', heq, ?_⟩
    show (writePointer _ object clone.clonedAddress).readPointer
      (slot ((writePointer _ object clone.clonedAddress).readPointer object) hook.index) = _
    rw [readPointer_writePointer_self, readPointer_writePointer_of_apart _ hapart,
      readPointer_interlope hapart, hvalue]

/-- A shadow that grows. -/
theorem committed_of_expanded {generation : ShadowGeneration} {oldOriginals : List UInt64}
    (h : GrowingShadow s object kind entryCount hooks i r generation oldOriginals)
    (hr : r.Consistent) :
    Committed s { s with
        memory := grownMemory s generation hooks
        records := s.records.modify i fun r => r.expand entryCount
          (expandedOriginals s.memory generation oldOriginals entryCount) generation }
      object kind entryCount hooks := by
  obtain ⟨hobject, hkind, hactive⟩ := h.isFor
  obtain ⟨-, hvtable⟩ := hr.sized.findShadowGeneration h.generation_eq
  obtain ⟨hcount, -⟩ := h.expandedOriginals_eq hr.sized
  obtain ⟨hcapacity, hseparate⟩ := hr.separate generation
    (List.mem_of_find?_eq_some h.generation_eq)
  obtain ⟨originals, horiginals, hlength⟩ := (h.sized hr.sized).saved
  obtain rfl := Option.some.inj horiginals
  have hfits := h.fits
  -- the object is apart from the slots that were written
  have hpointer : (grownMemory s generation hooks).readPointer object = generation.vtable := by
    rw [hvtable]
    refine readPointer_foldl_expandSlot_of_apart fun hook hhook => ?_
    have hlt := h.hooks_lt hook hhook
    rw [← hobject]
    exact (hseparate hook.index (by omega)).1
  constructor
  · refine ⟨i, r.expand entryCount
      (expandedOriginals s.memory generation oldOriginals entryCount) generation, _, _, ?_, ?_,
      hactive, rfl, rfl, hlength, rfl, rfl, hpointer.symm⟩
    -- an expansion does not change what the lookup looks at
    · rw [← h.found]
      exact NewestFirst.find_modify fun _ _ => rfl
    · rw [List.getElem?_modify, h.record_eq]
      simp only [if_true, Option.map_eq_map, Option.map_some]
  · intro hook hhook
    have hlt : ∀ hook ∈ hooks, hook.index < 2 ^ 60 := by
      intro hook hhook
      have hlt := h.hooks_lt hook hhook
      omega
    show _ ∨ ∃ i r, _ ∧ _ ∧ _ ∧ (grownMemory s generation hooks).readPointer _ = _ ∧ _
    simp only [hpointer]
    obtain hold | hnew := Nat.lt_or_ge hook.index generation.entryCount
    · -- a slot of the old shadow is not written
      have hkept : (grownMemory s generation hooks).readPointer
          (slot generation.vtable hook.index) =
            s.memory.readPointer (slot generation.vtable hook.index) :=
        readPointer_foldl_expandSlot_of_lt (hlt hook hhook) hlt hold
      by_cases hours : s.memory.readPointer (slot generation.vtable hook.index) =
          hook.replacement
      · exact .inl ⟨hook, hhook, rfl, hkept.trans hours⟩
      · exact .inr ⟨i, r, h.found, h.record_eq, hcount ▸ hold, hkept, hours⟩
    · exact .inl (readPointer_foldl_expandSlot_of_le (hlt hook hhook) hlt hnew
        ⟨hook, hhook, rfl⟩)

/-- **An installation is all or nothing, and local.** In any reachable state and for every
outcome of the calls it makes, an installation changes nothing that can be observed or is
complete; a fresh installation that reports an error changes nothing; and the root vtable,
the vtable pointers of other objects and their records are left alone. -/
theorem installation_commits_or_changes_nothing (s s' : ShadowState) (object : UInt64)
    (kind : ShadowKind) (entryCount : Nat) (hooks : List VtableHook) (o : InstallOutcome)
    (result : Except String Unit)
    (hreachable : installSystem.ReachableWhere (fun s a => a.Safe s) s)
    (hsafe : SafeInstall o s object entryCount)
    (h : installShadowVtable o s object kind entryCount hooks = (result, s')) :
    (NothingChanged o s s' object ∨ Committed s s' object kind entryCount hooks) ∧
      (∀ error, s.findShadowRecord object kind = none → result = .error error →
        NothingChanged o s s' object) ∧
      Local o s s' object kind entryCount := by
  have hs := consistent_of_reachable hreachable
  refine ⟨?_, ?_, local_of_install hs hsafe h⟩
  · -- only two of the effects publish a shadow
    have heffect := installEffect_of_install h
    cases heffect with
    | rejected => exact .inl (.refl o s object)
    | kept => exact .inl (.refl o s object)
    | abandoned _ _ hnone => exact .inl (nothingChanged_of_failed hs hsafe hnone h)
    | lost _ _ _ _ _ _ hfresh =>
      exact .inl (nothingChanged_of_failed hs hsafe hfresh.noRecord h)
    | installed root clone entryCapacity cloned hfresh =>
      exact .inr (committed_of_installed hfresh hsafe)
    | expanded _ i record generation oldOriginals hgrow =>
      exact .inr (committed_of_expanded hgrow (hs.record i record hgrow.record_eq))
  · rintro error hnone rfl
    exact nothingChanged_of_failed hs hsafe hnone h

/-- The sample installation allocates unused memory, and there are no shadows yet. -/
theorem sampleState_safe :
    SafeInstall sampleOutcome sampleState sampleObject swapChainVtableLength where
  unused := sampleState_allocatesUnused
  unused_shadows := by
    intro i r hr
    exact nomatch hr
  object_outside := by
    intro i r hr
    exact nomatch hr
  object_apart := by
    intro _ _
    rw [sampleState_fresh.root_eq]
    unfold Apart
    decide

/-- The first installation of the sample process. -/
theorem installation_commits_or_changes_nothing_sample :
    (NothingChanged sampleOutcome sampleState sampleShadowed sampleObject ∨
      Committed sampleState sampleShadowed sampleObject .swapChain swapChainVtableLength
        (ShadowKind.swapChain.hooks sampleCode swapChainVtableLength)) ∧
      (∀ error, sampleState.findShadowRecord sampleObject .swapChain = none →
        (.ok () : Except String Unit) = .error error →
          NothingChanged sampleOutcome sampleState sampleShadowed sampleObject) ∧
      Local sampleOutcome sampleState sampleShadowed sampleObject .swapChain
        swapChainVtableLength := by
  exact installation_commits_or_changes_nothing sampleState sampleShadowed sampleObject .swapChain
    swapChainVtableLength (ShadowKind.swapChain.hooks sampleCode swapChainVtableLength)
    sampleOutcome (.ok ()) (.init rfl) sampleState_safe sampleState_install

end Shadow
end WindowedHdr
