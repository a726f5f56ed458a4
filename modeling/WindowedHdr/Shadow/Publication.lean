import WindowedHdr.Shadow.Atomicity

/-!
# Installing while others call

`install_shadow_vtable` runs under a lock, but its stores become visible one by one to callers
that take no lock. `publicationSystem code` interleaves one installation after the other, store
by store (`Installer`), with any number of callers, load by load (`Caller`). Memory is
sequentially consistent.

Between its stores an installation reads and checks, and writes into memory that nobody else
uses; `beginInstall` is what comes before its first visible store. From there:

* a fresh shadow has its record published, the object's vtable pointer exchanged for the shadow,
  and its first generation published; a lost exchange retires the record;
* a growing shadow has its record's originals replaced, then the number of entries raised, then
  each slot written in turn, and its new generation published.

`installShadowVtable_eq_stores` says that these stores, one directly after the other, are what
the function does. A caller loads the object's vtable and the slot; where it finds one of our
replacements, that one looks for the object's record, newest first, and loads the number of
entries, the originals, and the entry.

Objects are created and destroyed, the records of those that are gone are retired at some later
time, and other modules write to memory; `PublicationAction.Safe` says what of this is assumed.

The stores of an installation are the steps of `Installer.store`, and what it still has to do is
its state; so a run may stop between any two of them. `StoresTo` runs an installer to its end,
which is how the equality with the function is proved: by induction over the hooks that are left
(`storesTo_loadingSlot`), and by cases for the rest.
-/

namespace WindowedHdr
namespace Shadow

open ByteMemory Usize Windows HookFunction

/-! ### The installer -/

/-- The expansion of the shadow of the record at index `i`. -/
structure Expansion where
  i : Nat
  object : UInt64
  /-- The generation that grows. -/
  generation : ShadowGeneration
  entryCount : Nat
  originals : List UInt64

/-- Where the holder of `SHADOW_INSTALL_LOCK` is. -/
inductive Installer
  | idle
  /-- About to publish the record of a fresh shadow. -/
  | publishing (record : ShadowRecord) (generation : ShadowGeneration)
  /-- About to exchange the object's vtable pointer. -/
  | exchanging (i : Nat) (record : ShadowRecord) (generation : ShadowGeneration)
  /-- The exchange was lost; about to retire the record. -/
  | retiring (i : Nat) (object : UInt64)
  /-- About to publish the first generation. -/
  | publishingGeneration (i : Nat) (object : UInt64) (generation : ShadowGeneration)
  | storingOriginals (e : Expansion) (hooks : List VtableHook)
  | storingEntryCount (e : Expansion) (hooks : List VtableHook)
  /-- At the head of the loop over the hooks, and behind it when none is left. -/
  | loadingSlot (e : Expansion) (hooks : List VtableHook)
  /-- About to write the slot of a hook. -/
  | storingSlot (e : Expansion) (hook : VtableHook) (hooks : List VtableHook)

/-- A fresh installation up to its first visible store, with the memory that it leaves. -/
def beginFreshShadow (o : InstallOutcome) (s : ShadowState) (object : UInt64)
    (kind : ShadowKind) (entryCount : Nat) (hooks : List VtableHook) (rootVtable : UInt64) :
    Installer × ByteMemory :=
  match cloneVtable o s.memory rootVtable entryCount with
  | .error _ => (.idle, s.memory)
  | .ok (clone, entryCapacity, memory) =>
    let shadow := clone.clonedAddress
    let originalEntries := readTable memory shadow entryCount
    match checkOriginals hooks originalEntries with
    | .error _ => (.idle, memory)
    | .ok _ =>
      match protectReadOnly o.protectReadOnly clone.clone.1 clone.cloneSize with
      | .error _ => (.idle, writeHooks shadow hooks memory)
      | .ok _ =>
        (.publishing (freshRecord object kind entryCount rootVtable o.rootInDxgi originalEntries)
          { vtable := shadow
            entryCount := entryCount
            entryCapacity := entryCapacity
            regionBase := clone.clone.1
            regionSize := clone.cloneSize },
          writeHooks shadow hooks memory)

/-- `expand_owned_shadow` up to its first store. -/
def beginExpansion (o : InstallOutcome) (s : ShadowState) (i : Nat) (object : UInt64)
    (record : ShadowRecord) (generation : ShadowGeneration) (entryCount : Nat)
    (hooks : List VtableHook) : Installer :=
  if generation.entryCapacity < entryCount then
    .idle
  else
    match record.originals with
    | none => .idle
    | some oldOriginals =>
      let originalEntries := expandedOriginals s.memory generation oldOriginals entryCount
      match checkOriginals hooks originalEntries with
      | .error _ => .idle
      | .ok _ =>
        match protectReadWrite o.protectReadWrite generation.regionBase
            generation.regionSize with
        | .error _ => .idle
        | .ok _ =>
          .storingOriginals ⟨i, object, generation, entryCount, originalEntries⟩ hooks

/-- `install_shadow_vtable` up to its first visible store. -/
def beginInstall (o : InstallOutcome) (s : ShadowState) (object : UInt64) (kind : ShadowKind)
    (entryCount : Nat) (hooks : List VtableHook) : Installer × ByteMemory :=
  match objectVtable s.memory object with
  | .error _ => (.idle, s.memory)
  | .ok currentVtable =>
    match checkHooks kind entryCount hooks with
    | .error _ => (.idle, s.memory)
    | .ok _ =>
      match s.findShadowRecord object kind with
      -- the object is not ours yet
      | none => beginFreshShadow o s object kind entryCount hooks currentVtable
      | some i =>
        match s.records[i]? with
        | none => (.idle, s.memory)
        | some record =>
          match record.findShadowGeneration currentVtable with
          | none => (.idle, s.memory)
          | some generation =>
            -- the shadow is large enough already
            if entryCount ≤ generation.entryCount then
              (.idle, s.memory)
            else
              (beginExpansion o s i object record generation entryCount hooks, s.memory)

/-- The next store, or the next look at a slot. -/
def Installer.store (s : ShadowState) : Installer → Option (Installer × ShadowState)
  | .idle => none
  | .publishing record generation =>
    some (.exchanging s.records.length record generation, s.publishShadowRecord record)
  | .exchanging i record generation =>
    match compareExchangePointer s.memory record.object record.rootOriginalVtable
        generation.vtable with
    | (.ok true, memory) =>
      -- the object calls the shadow before its generation is published
      some (.publishingGeneration i record.object generation, { s with memory := memory })
    | (_, memory) => some (.retiring i record.object, { s with memory := memory })
  | .retiring i _ => some (.idle, s.updateRecord i ShadowRecord.retire)
  | .publishingGeneration i _ generation =>
    some (.idle, s.updateRecord i (·.publishShadowGeneration generation))
  | .storingOriginals e hooks =>
    -- the originals before the number of entries, so that no counted entry lacks one
    some (.storingEntryCount e hooks,
      s.updateRecord e.i fun r => { r with originals := some e.originals })
  | .storingEntryCount e hooks =>
    -- and both before the hooks that look them up
    some (.loadingSlot e hooks, s.updateRecord e.i fun r => { r with entryCount := e.entryCount })
  | .loadingSlot e [] =>
    some (.idle, s.updateRecord e.i
      (·.publishShadowGeneration { e.generation with entryCount := e.entryCount }))
  | .loadingSlot e (hook :: hooks) =>
    let current := s.memory.readPointer (slot e.generation.vtable hook.index)
    if hook.index < e.generation.entryCount ∧ current ≠ hook.replacement then
      -- wrapped in place by another module
      some (.loadingSlot e hooks, s)
    else if current ≠ hook.replacement then
      some (.storingSlot e hook hooks, s)
    else
      some (.loadingSlot e hooks, s)
  | .storingSlot e hook hooks =>
    some (.loadingSlot e hooks,
      { s with
        memory :=
          s.memory.writePointer (slot e.generation.vtable hook.index) hook.replacement })

/-- The stores of an installation, one directly after the other. -/
inductive StoresTo : Installer → ShadowState → ShadowState → Prop
  | done (s : ShadowState) : StoresTo .idle s s
  | store {w w' : Installer} {s s' s'' : ShadowState} :
      w.store s = some (w', s') → StoresTo w' s' s'' → StoresTo w s s''

section Stores

variable {s s' : ShadowState} {o : InstallOutcome} {object root : UInt64} {kind : ShadowKind}
  {entryCount : Nat} {hooks : List VtableHook}

/-- The stores of the loop over the hooks. -/
theorem storesTo_loadingSlot (e : Expansion) (hooks : List VtableHook) (s : ShadowState) :
    StoresTo (.loadingSlot e hooks) s
      ({ s with memory :=
          hooks.foldl (expandSlot e.generation.vtable e.generation.entryCount) s.memory
        }.updateRecord e.i
          (·.publishShadowGeneration { e.generation with entryCount := e.entryCount })) := by
  induction hooks generalizing s with
  | nil => exact .store rfl (.done _)
  | cons hook hooks ih =>
    rw [List.foldl_cons]
    -- the slot is wrapped by another module, does not hold the hook yet, or holds it already
    by_cases hwrapped : hook.index < e.generation.entryCount ∧
        s.memory.readPointer (slot e.generation.vtable hook.index) ≠ hook.replacement
    · have hkept : expandSlot e.generation.vtable e.generation.entryCount s.memory hook =
          s.memory := if_pos hwrapped
      rw [hkept]
      exact .store (if_pos hwrapped) (ih s)
    · by_cases hother :
          s.memory.readPointer (slot e.generation.vtable hook.index) ≠ hook.replacement
      · have hwritten : expandSlot e.generation.vtable e.generation.entryCount s.memory hook =
            s.memory.writePointer (slot e.generation.vtable hook.index) hook.replacement :=
          (if_neg hwrapped).trans (if_pos hother)
        rw [hwritten]
        refine .store ((if_neg hwrapped).trans (if_pos hother)) (.store rfl ?_)
        exact ih { s with memory :=
          s.memory.writePointer (slot e.generation.vtable hook.index) hook.replacement }
      · have hkept : expandSlot e.generation.vtable e.generation.entryCount s.memory hook =
            s.memory := (if_neg hwrapped).trans (if_neg hother)
        rw [hkept]
        exact .store ((if_neg hwrapped).trans (if_neg hother)) (ih s)

/-- A lost exchange has one store left. -/
theorem storesTo_retiring (i : Nat) (object : UInt64) (s : ShadowState) :
    StoresTo (.retiring i object) s (s.updateRecord i ShadowRecord.retire) :=
  .store rfl (.done _)

/-- An exchange that was made has one store left. -/
theorem storesTo_publishingGeneration (i : Nat) (object : UInt64)
    (generation : ShadowGeneration) (s : ShadowState) :
    StoresTo (.publishingGeneration i object generation) s
      (s.updateRecord i (·.publishShadowGeneration generation)) :=
  .store rfl (.done _)

/-- The stores of a fresh installation, when no other module interferes. -/
theorem storesTo_publishing (ho : o.interloper = none) (s : ShadowState) (record : ShadowRecord)
    (generation : ShadowGeneration) :
    StoresTo (.publishing record generation) s (publishShadow o s record generation).2 := by
  have hinterlope : interlope o record.object s.memory = s.memory := by
    rw [interlope, ho]
  refine .store rfl ?_
  simp only [publishShadow, ShadowState.publishShadowRecord, hinterlope]
  -- the exchange cannot be made, is lost, or is made
  obtain ⟨error, h⟩ | h | h := compareExchangePointer_cases s.memory record.object
    record.rootOriginalVtable generation.vtable
  · rw [h]
    refine .store ?_ (storesTo_retiring s.records.length record.object _)
    simp only [Installer.store, h]
  · rw [h]
    refine .store ?_ (storesTo_retiring s.records.length record.object _)
    simp only [Installer.store, h]
  · rw [h]
    refine .store ?_ (storesTo_publishingGeneration s.records.length record.object generation _)
    simp only [Installer.store, h]

/-- The stores of an expansion. -/
theorem storesTo_storingOriginals (e : Expansion) (hooks : List VtableHook) (s : ShadowState) :
    StoresTo (.storingOriginals e hooks) s
      ({ s with memory :=
          hooks.foldl (expandSlot e.generation.vtable e.generation.entryCount) s.memory
        }.updateRecord e.i fun r => r.expand e.entryCount e.originals e.generation) := by
  refine .store rfl (.store rfl ?_)
  -- the loop runs on the record with its new originals and number of entries
  have hloop := storesTo_loadingSlot e hooks
    ((s.updateRecord e.i fun r => { r with originals := some e.originals }).updateRecord e.i
      fun r => { r with entryCount := e.entryCount })
  simp only [ShadowState.updateRecord, List.modify_modify_eq] at hloop ⊢
  exact hloop

/-- The stores of a fresh installation, from its first check on. -/
theorem storesTo_beginFreshShadow (ho : o.interloper = none) :
    StoresTo (beginFreshShadow o s object kind entryCount hooks root).1
      { s with memory := (beginFreshShadow o s object kind entryCount hooks root).2 }
      (installFreshShadow o s object kind entryCount hooks root).2 := by
  simp only [beginFreshShadow, installFreshShadow]
  cases cloneVtable o s.memory root entryCount with
  | error error => exact .done s
  | ok cloned =>
    obtain ⟨clone, entryCapacity, memory⟩ := cloned
    simp only
    -- a failure from here on leaves the clone behind, and stores nothing visible
    cases checkOriginals hooks (readTable memory clone.clonedAddress entryCount) with
    | error error => exact .done _
    | ok _ =>
      simp only
      cases protectReadOnly o.protectReadOnly clone.clone.1 clone.cloneSize with
      | error error => exact .done _
      | ok _ => exact storesTo_publishing ho _ _ _

/-- The stores of an expansion, from its first check on. -/
theorem storesTo_beginExpansion (i : Nat) (record : ShadowRecord)
    (generation : ShadowGeneration) :
    StoresTo (beginExpansion o s i object record generation entryCount hooks) s
      (expandOwnedShadow o s i record generation entryCount hooks).2 := by
  rw [beginExpansion, expandOwnedShadow]
  split
  · exact .done s
  · cases record.originals with
    | none => exact .done s
    | some oldOriginals =>
      simp only
      cases checkOriginals hooks
          (expandedOriginals s.memory generation oldOriginals entryCount) with
      | error error => exact .done s
      | ok _ =>
        simp only
        cases protectReadWrite o.protectReadWrite generation.regionBase
            generation.regionSize with
        | error error => exact .done s
        -- the protection is set back after the last store, whatever becomes of that
        | ok _ => exact storesTo_storingOriginals _ hooks s

/-- **An installation is its stores**, when no other module interferes. -/
theorem installShadowVtable_eq_stores (ho : o.interloper = none) :
    StoresTo (beginInstall o s object kind entryCount hooks).1
      { s with memory := (beginInstall o s object kind entryCount hooks).2 }
      (installShadowVtable o s object kind entryCount hooks).2 := by
  -- both make the same checks in the same order, and store nothing before the last of them
  rw [beginInstall, installShadowVtable]
  cases objectVtable s.memory object with
  | error error => exact .done s
  | ok currentVtable =>
    cases checkHooks kind entryCount hooks with
    | error error => exact .done s
    | ok _ =>
      simp only
      cases s.findShadowRecord object kind with
      | none => exact storesTo_beginFreshShadow ho
      | some i =>
        simp only
        cases s.records[i]? with
        | none => exact .done s
        | some record =>
          simp only
          cases record.findShadowGeneration currentVtable with
          | none => exact .done s
          | some generation =>
            simp only
            split
            · exact .done s
            · exact storesTo_beginExpansion i record generation

/-! ### The first visible store -/

/-- What an installation has done before its first visible store. -/
inductive BeginEffect (o : InstallOutcome) (s : ShadowState) (object : UInt64)
    (kind : ShadowKind) (entryCount : Nat) (hooks : List VtableHook) :
    Installer → ByteMemory → Prop
  /-- It ends here. -/
  | ended : BeginEffect o s object kind entryCount hooks .idle s.memory
  /-- It ends after the vtable was cloned. -/
  | abandoned (clone : ClonedRegion) (entryCapacity : Nat) (cloned memory : ByteMemory) :
      cloneVtable o s.memory (s.memory.readPointer object) entryCount =
        .ok (clone, entryCapacity, cloned) →
      (∀ hook ∈ hooks, hook.index < entryCount) →
      memory = cloned ∨ memory = writeHooks clone.clonedAddress hooks cloned →
      BeginEffect o s object kind entryCount hooks .idle memory
  /-- The object will be shadowed. -/
  | fresh (root : UInt64) (clone : ClonedRegion) (entryCapacity : Nat) (cloned : ByteMemory) :
      FreshShadow o s object kind entryCount hooks root clone entryCapacity cloned →
      BeginEffect o s object kind entryCount hooks
        (.publishing (newRecord o object kind entryCount root clone cloned)
          (newGeneration entryCount entryCapacity clone))
        (writeHooks clone.clonedAddress hooks cloned)
  /-- The shadow will grow. -/
  | growing (i : Nat) (record : ShadowRecord) (generation : ShadowGeneration)
      (oldOriginals : List UInt64) :
      GrowingShadow s object kind entryCount hooks i record generation oldOriginals →
      BeginEffect o s object kind entryCount hooks
        (.storingOriginals ⟨i, object, generation, entryCount,
          expandedOriginals s.memory generation oldOriginals entryCount⟩ hooks) s.memory

/-- Without a record, an installation ends early, leaves its clone behind, or goes on with a fresh
shadow. -/
theorem beginEffect_of_fresh (hnone : s.findShadowRecord object kind = none)
    (hobject : object ≠ 0) (hroot : s.memory.readPointer object ≠ 0)
    (hlt : ∀ hook ∈ hooks, hook.index < entryCount) :
    BeginEffect o s object kind entryCount hooks
      (beginFreshShadow o s object kind entryCount hooks (s.memory.readPointer object)).1
      (beginFreshShadow o s object kind entryCount hooks (s.memory.readPointer object)).2 := by
  simp only [beginFreshShadow]
  cases hclone : cloneVtable o s.memory (s.memory.readPointer object) entryCount with
  | error error => exact .ended
  | ok r =>
    obtain ⟨clone, entryCapacity, cloned⟩ := r
    simp only
    cases horiginals : checkOriginals hooks (readTable cloned clone.clonedAddress entryCount) with
    | error error => exact .abandoned clone entryCapacity cloned _ hclone hlt (.inl rfl)
    | ok _ =>
      simp only
      cases protectReadOnly o.protectReadOnly clone.clone.1 clone.cloneSize with
      -- the hooks are in the clone, which nothing points to
      | error error => exact .abandoned clone entryCapacity cloned _ hclone hlt (.inr rfl)
      | ok _ =>
        exact .fresh _ clone entryCapacity cloned
          ⟨hnone, hobject, hroot, rfl, hlt, hclone, checkOriginals_eq_ok.mp horiginals⟩

/-- With a shadow that is too small, an installation ends early or lets the shadow grow. -/
theorem beginEffect_of_growing {i : Nat} {record : ShadowRecord} {generation : ShadowGeneration}
    (hfound : s.findShadowRecord object kind = some i) (hrecord : s.records[i]? = some record)
    (hobject : object ≠ 0)
    (hgeneration : record.findShadowGeneration (s.memory.readPointer object) = some generation)
    (hlarger : generation.entryCount < entryCount)
    (hlt : ∀ hook ∈ hooks, hook.index < entryCount) :
    BeginEffect o s object kind entryCount hooks
      (beginExpansion o s i object record generation entryCount hooks) s.memory := by
  rw [beginExpansion]
  split
  · exact .ended
  · next hfits =>
    -- the record has originals, and what was read of the shadow has no null or replacement
    cases hold : record.originals with
    | none => exact .ended
    | some oldOriginals =>
      simp only
      cases horiginals : checkOriginals hooks
          (expandedOriginals s.memory generation oldOriginals entryCount) with
      | error error => exact .ended
      | ok _ =>
        simp only
        cases protectReadWrite o.protectReadWrite generation.regionBase
            generation.regionSize with
        | error error => exact .ended
        | ok _ =>
          exact .growing i record generation oldOriginals
            ⟨hfound, hrecord, hobject, hgeneration, hlarger, Nat.le_of_not_lt hfits, hlt, hold,
              checkOriginals_eq_ok.mp horiginals⟩

/-- An installation begins in one of the ways that `BeginEffect` lists. -/
theorem beginEffect_of_begin :
    BeginEffect o s object kind entryCount hooks
      (beginInstall o s object kind entryCount hooks).1
      (beginInstall o s object kind entryCount hooks).2 := by
  -- along the checks; what a passed one says is kept for the two effects that store
  rw [beginInstall]
  cases hvtable : objectVtable s.memory object with
  | error error => exact .ended
  | ok root =>
    obtain ⟨hobject, hroot, rfl⟩ := objectVtable_eq_ok.mp hvtable
    cases hhooks : checkHooks kind entryCount hooks with
    | error error => exact .ended
    | ok _ =>
      have hlt := (checkHooks_eq_ok.mp hhooks).2
      cases hfound : s.findShadowRecord object kind with
      | none => exact beginEffect_of_fresh hfound hobject hroot hlt
      | some i =>
        simp only
        cases hrecord : s.records[i]? with
        | none => exact .ended
        | some record =>
          simp only
          cases hgeneration : record.findShadowGeneration (s.memory.readPointer object) with
          | none => exact .ended
          | some generation =>
            simp only
            split
            · exact .ended
            · next hlarger =>
              exact beginEffect_of_growing hfound hrecord hobject hgeneration
                (Nat.lt_of_not_le hlarger) hlt

end Stores

/-! ### Callers -/

/-- Why a hook returns without calling anything, or reads what it must not. -/
inductive CallFailure
  /-- No record was found. -/
  | noRecord
  /-- The record has too few entries. -/
  | tooFewEntries
  /-- The record has no originals. -/
  | noOriginals
  /-- The entry lies outside of the originals. -/
  | outOfBounds
  /-- The entry is null. -/
  | nullEntry
  deriving DecidableEq, Repr

/-- Where a caller of entry `index` of an object's vtable is. -/
inductive Caller
  | outside
  /-- The object's vtable pointer is loaded. -/
  | loadedVtable (object : UInt64) (index : Nat) (vtable : UInt64)
  /-- The slot held one of our replacements, which is called. -/
  | replaced (object : UInt64) (index : Nat) (hook : HookFunction)
  /-- The replacement looks for a record; the `n` oldest ones are left. -/
  | searching (object : UInt64) (index : Nat) (hook : HookFunction) (n : Nat)
  /-- The record at index `i` was found. -/
  | found (object : UInt64) (index : Nat) (hook : HookFunction) (i : Nat)
  /-- Its number of entries was loaded, and is large enough. -/
  | counted (object : UInt64) (index : Nat) (hook : HookFunction) (i : Nat)
  /-- Its originals are loaded. -/
  | loadedOriginals (object : UInt64) (index : Nat) (hook : HookFunction)
      (originals : List UInt64)
  /-- The saved function was obtained. -/
  | saved (object : UInt64) (index : Nat) (hook : HookFunction) (function : UInt64)
  | failed (object : UInt64) (index : Nat) (hook : HookFunction) (failure : CallFailure)
  deriving DecidableEq, Repr

/-- The object whose vtable and record a caller is reading. -/
def Caller.object : Caller → Option UInt64
  | .loadedVtable object _ _ | .replaced object _ _ | .searching object _ _ _
  | .found object _ _ _ | .counted object _ _ _ | .loadedOriginals object _ _ _ => some object
  | .outside | .saved _ _ _ _ | .failed _ _ _ _ => none

/-- The object of an installation under way. -/
def Installer.object : Installer → Option UInt64
  | .idle => none
  | .publishing record _ | .exchanging _ record _ => some record.object
  | .retiring _ object | .publishingGeneration _ object _ => some object
  | .storingOriginals e _ | .storingEntryCount e _ | .loadingSlot e _ | .storingSlot e _ _ =>
    some e.object

/-- All replacements. -/
def HookFunction.all : List HookFunction :=
  [factoryQueryInterfaceHook, factoryReleaseHook, createSwapChainHook,
    createSwapChainForHwndHook, createSwapChainForCoreWindowHook,
    createSwapChainForCompositionHook, swapChainQueryInterfaceHook, swapChainReleaseHook,
    presentHook, setFullscreenStateHook, resizeBuffersHook, resizeTargetHook, present1Hook,
    checkColorSpaceSupportHook, setColorSpace1Hook, resizeBuffers1Hook, setHdrMetadataHook]

/-- The list of replacements is complete. -/
theorem HookFunction.mem_all (hook : HookFunction) : hook ∈ HookFunction.all := by
  cases hook <;> decide

variable (code : HookFunction → UInt64)

/-- The replacement at an address. -/
def hookAt (function : UInt64) : Option HookFunction :=
  -- a caller that finds another function calls that, and is done with us
  HookFunction.all.find? fun hook => code hook == function

/-- The next load of a caller: the slot, and then `load_object_function` of the replacement. -/
def Caller.load (s : ShadowState) : Caller → Option Caller
  | .outside => none
  | .loadedVtable object index vtable =>
    some <|
      match hookAt code (s.memory.readPointer (slot vtable index)) with
      | some hook => .replaced object index hook
      | none => .outside
  | .replaced object index hook => some (.searching object index hook s.records.length)
  | .searching object index hook 0 => some (.failed object index hook .noRecord)
  | .searching object index hook (n + 1) =>
    some <|
      -- the newest record first, as the list is searched
      if (s.records[n]?).any (ShadowRecord.IsActiveFor object hook.kind) then
        .found object index hook n
      else
        .searching object index hook n
  -- the lookup is over: the number of entries, the originals, and the entry are three loads
  | .found object index hook i =>
    some <|
      match s.records[i]? with
      | none => .failed object index hook .noRecord
      | some record =>
        if record.entryCount ≤ hook.index then .failed object index hook .tooFewEntries
        else .counted object index hook i
  | .counted object index hook i =>
    some <|
      match s.records[i]?.bind (·.originals) with
      | none => .failed object index hook .noOriginals
      | some originals => .loadedOriginals object index hook originals
  | .loadedOriginals object index hook originals =>
    some <|
      match originals[hook.index]? with
      | none => .failed object index hook .outOfBounds
      | some function =>
        if function = 0 then .failed object index hook .nullEntry
        else .saved object index hook function
  | .saved _ _ _ _ => some .outside
  | .failed _ _ _ _ => some .outside

/-! ### The system -/

/-- What is known of a live object. -/
structure LiveObject where
  /-- The number of records that were published before it was created. -/
  born : Nat
  /-- The number of entries of its vtable. -/
  entries : Nat
  deriving DecidableEq, Repr

/-- Installer, callers and live objects around the shadows. -/
structure PublicationState where
  shadow : ShadowState
  installer : Installer
  callers : Nat → Caller
  live : UInt64 → Option LiveObject

/-- One load or store. -/
inductive PublicationAction
  /-- The lock is taken, and the installation runs up to its first visible store. -/
  | install (object : UInt64) (kind : ShadowKind) (entryCount : Nat) (hooks : List VtableHook)
      (o : InstallOutcome)
  /-- The installer's next store. -/
  | store
  /-- A caller loads the vtable of an object, to call an entry. -/
  | call (caller : Nat) (object : UInt64) (index : Nat)
  /-- A caller's next load. -/
  | load (caller : Nat)
  /-- Another module writes a pointer. -/
  | write (address value : UInt64)
  /-- An object with a vtable of so many entries comes to life. -/
  | create (object : UInt64) (entries : Nat)
  /-- An object is destroyed. -/
  | destroy (object : UInt64)
  /-- `release_shadow_object` retires the record of an object that is gone. -/
  | retire (i : Nat)

/-- Installations, store by store, next to callers, load by load. -/
def publicationSystem : ActionSystem PublicationState PublicationAction where
  Init s := s.shadow.records = [] ∧ s.installer = .idle ∧ (∀ caller, s.callers caller = .outside) ∧
    ∀ object, s.live object = none
  step s
    | .install object kind entryCount hooks o =>
      match s.installer with
      | .idle =>
        let r := beginInstall o s.shadow object kind entryCount hooks
        some { s with installer := r.1, shadow := { s.shadow with memory := r.2 } }
      | _ => none
    | .store =>
      (s.installer.store s.shadow).map fun r => { s with installer := r.1, shadow := r.2 }
    | .call caller object index =>
      match s.callers caller, s.live object with
      | .outside, some l =>
        if index < l.entries then
          some
            { s with
              callers := Function.update s.callers caller
                (.loadedVtable object index (s.shadow.memory.readPointer object)) }
        else
          none
      | _, _ => none
    | .load caller =>
      ((s.callers caller).load code s.shadow).map fun c =>
        { s with callers := Function.update s.callers caller c }
    | .write address value =>
      some
        { s with
          shadow := { s.shadow with memory := s.shadow.memory.writePointer address value } }
    | .create object entries =>
      match s.live object with
      | none =>
        some
          { s with
            live := Function.update s.live object (some ⟨s.shadow.records.length, entries⟩) }
      | some _ => none
    | .destroy object => some { s with live := Function.update s.live object none }
    | .retire i => some { s with shadow := s.shadow.updateRecord i ShadowRecord.retire }

end Shadow
end WindowedHdr
