import WindowedHdr.Shadow.Record
import WindowedHdr.Windows.CloneRegion

/-!
# Installing, expanding and retiring shadows

`installShadowVtable` replaces the vtable of an object. For an object without an active
record it clones the memory region of the vtable, writes the hooks into the clone, publishes
a record and exchanges the object's vtable pointer. For an object that already points at its
shadow it lets the shadow grow in place. An object that points anywhere else is left to
whoever changed it.

`releaseShadowObject` is the hook of `Release`. When the native call reports that no
reference is left, the record is retired, together with what is kept for a swap chain.

What the operating system answers, and what another module writes to the object between the
look at its vtable and the exchange, is an `InstallOutcome`.

The checks return early, and each early return is an error or a success that has changed
nothing. A failure after the clone was made leaves the clone behind, since the source frees no
memory on its way out.
-/

namespace WindowedHdr
namespace Shadow

open ByteMemory Usize Windows Dxgi

def maxVtableCloneRegionSize : Nat := 1024 * 1024

/-- The size of a pointer. -/
def pointerSize : Nat := 8

/-- The answers of the outside world to one installation. -/
structure InstallOutcome where
  clone : CloneOutcome
  /-- `VirtualProtect(PAGE_READWRITE)`. -/
  protectReadWrite : Bool
  /-- `VirtualProtect(PAGE_READONLY)`. -/
  protectReadOnly : Bool
  /-- `address_is_in_module` of the vtable and `dxgi.dll`. -/
  rootInDxgi : Bool
  /-- What another module writes to the object before the exchange. -/
  interloper : Option UInt64

/-! ### Checks -/

/-- The number of entries is positive, and no hook lies beyond it. -/
def checkHooks (kind : ShadowKind) (entryCount : Nat) (hooks : List VtableHook) :
    Except String Unit := do
  Except.require (entryCount ≠ 0) s!"{kind.text} has no usable original vtable"
  hooks.forM fun hook =>
    Except.require (hook.index < entryCount) <|
      s!"{hook.name} index {hook.index} is outside the {entryCount}-entry " ++
        s!"{kind.text} vtable"

/-- The original that a hook replaces can be called, and is not the replacement. -/
def checkOriginals (hooks : List VtableHook) (originals : List UInt64) : Except String Unit :=
  hooks.forM fun hook => do
    Except.require (originals.getD hook.index 0 ≠ 0)
      s!"{hook.name} original vtable entry is null"
    -- a hook that called itself would not return
    Except.require (originals.getD hook.index 0 ≠ hook.replacement)
      s!"{hook.name} original vtable entry already points at our replacement"

/-- The first `length` entries of a table. -/
def readTable (memory : ByteMemory) (table : UInt64) (length : Nat) : List UInt64 :=
  (List.range length).map fun i => memory.readPointer (slot table i)

/-! ### A fresh shadow -/

/-- The number of entries from the cloned vtable to the end of its region. -/
def shadowCapacity (clone : ClonedRegion) : Except String Nat := do
  let shadowOffset ← (checkedSub clone.clonedAddress.toNat clone.clone.1.toNat).okOr
    "cloned COM vtable is outside its allocation"
  let room ← (checkedSub clone.cloneSize shadowOffset).okOr
    "cloned COM vtable has an invalid offset"
  return room / pointerSize

/-- The vtable's clone, its capacity, and the memory with the clone. -/
def cloneVtable (o : InstallOutcome) (memory : ByteMemory) (rootVtable : UInt64)
    (entryCount : Nat) : Except String (ClonedRegion × Nat × ByteMemory) := do
  let requiredBytes ← (checkedMul entryCount pointerSize).okOr "COM vtable size overflow"
  -- the whole region is cloned, so that the entries around the vtable come along
  let (clone, memory) ← cloneMemoryRegionContaining o.clone memory rootVtable pointerSize
    requiredBytes maxVtableCloneRegionSize
  let entryCapacity ← shadowCapacity clone
  return (clone, entryCapacity, memory)

/-- Put the replacements into a shadow. -/
def writeHooks (shadow : UInt64) (hooks : List VtableHook) (memory : ByteMemory) : ByteMemory :=
  hooks.foldl (fun m hook => m.writePointer (slot shadow hook.index) hook.replacement) memory

/-- The record that is published for a new shadow. -/
def freshRecord (object : UInt64) (kind : ShadowKind) (entryCount : Nat) (rootVtable : UInt64)
    (liveRootSlots : Bool) (originals : List UInt64) : ShadowRecord where
  object := object
  kind := kind
  active := true
  entryCount := entryCount
  rootOriginalVtable := rootVtable
  liveRootSlots := liveRootSlots
  originals := some originals
  generations := []

/-- `record.active.store(false)`. -/
def ShadowRecord.retire (self : ShadowRecord) : ShadowRecord := { self with active := false }

/-- Another module's write to the object. -/
def interlope (o : InstallOutcome) (object : UInt64) (memory : ByteMemory) : ByteMemory :=
  match o.interloper with
  | none => memory
  | some vtable => memory.writePointer object vtable

/-- The message of a lost exchange. -/
def exchangeLost (kind : ShadowKind) : String :=
  s!"{kind.text} object vtable changed while installing its shadow; " ++
    "leaving the winner in control"

/-- Publish the record, exchange the object's vtable pointer, and publish the first
generation. A lost exchange retires the record. -/
def publishShadow (o : InstallOutcome) (s : ShadowState) (record : ShadowRecord)
    (generation : ShadowGeneration) : Except String Unit × ShadowState :=
  let i := s.records.length
  let s := s.publishShadowRecord record
  match compareExchangePointer (interlope o record.object s.memory) record.object
      record.rootOriginalVtable generation.vtable with
  | (.error error, memory) =>
    -- the record was published already, and cannot be taken back
    (.error error, { s with memory := memory }.updateRecord i ShadowRecord.retire)
  | (.ok false, memory) =>
    (.error (exchangeLost record.kind),
      { s with memory := memory }.updateRecord i ShadowRecord.retire)
  | (.ok true, memory) =>
    (.ok (), { s with memory := memory }.updateRecord i (·.publishShadowGeneration generation))

/-- Shadow an object that has no active record. -/
def installFreshShadow (o : InstallOutcome) (s : ShadowState) (object : UInt64)
    (kind : ShadowKind) (entryCount : Nat) (hooks : List VtableHook) (rootVtable : UInt64) :
    Except String Unit × ShadowState :=
  match cloneVtable o s.memory rootVtable entryCount with
  | .error error => (.error error, s)
  | .ok (clone, entryCapacity, memory) =>
    -- the originals are read from the clone, before any of its slots is replaced
    let shadow := clone.clonedAddress
    let originalEntries := readTable memory shadow entryCount
    match checkOriginals hooks originalEntries with
    | .error error => (.error error, { s with memory := memory })
    | .ok _ =>
      let memory := writeHooks shadow hooks memory
      -- nobody uses the clone yet, so the order of these writes does not matter
      match protectReadOnly o.protectReadOnly clone.clone.1 clone.cloneSize with
      | .error error => (.error error, { s with memory := memory })
      | .ok _ =>
        publishShadow o { s with memory := memory }
          (freshRecord object kind entryCount rootVtable o.rootInDxgi originalEntries)
          { vtable := shadow
            entryCount := entryCount
            entryCapacity := entryCapacity
            regionBase := clone.clone.1
            regionSize := clone.cloneSize }

/-! ### A growing shadow -/

/-- The originals of a larger shadow: those that were saved, and the shadow's own entries
beyond them. -/
def expandedOriginals (memory : ByteMemory) (generation : ShadowGeneration)
    (oldOriginals : List UInt64) (entryCount : Nat) : List UInt64 :=
  oldOriginals.take generation.entryCount ++
    (readTable memory generation.vtable entryCount).drop generation.entryCount

/-- Write one replacement into a growing shadow. A slot that was hooked before and holds
something else was wrapped in place by another module, and keeps what it holds. -/
def expandSlot (shadow : UInt64) (oldEntryCount : Nat) (memory : ByteMemory)
    (hook : VtableHook) : ByteMemory :=
  let current := memory.readPointer (slot shadow hook.index)
  if hook.index < oldEntryCount ∧ current ≠ hook.replacement then
    memory
  else if current ≠ hook.replacement then
    memory.writePointer (slot shadow hook.index) hook.replacement
  else
    memory

/-- What a record becomes when its shadow grows. -/
def ShadowRecord.expand (self : ShadowRecord) (entryCount : Nat) (originals : List UInt64)
    (generation : ShadowGeneration) : ShadowRecord :=
  { self with originals := some originals, entryCount := entryCount }.publishShadowGeneration
    { generation with entryCount := entryCount }

/-- `expand_owned_shadow`, for the record at index `i`. -/
def expandOwnedShadow (o : InstallOutcome) (s : ShadowState) (i : Nat) (record : ShadowRecord)
    (generation : ShadowGeneration) (entryCount : Nat) (hooks : List VtableHook) :
    Except String Unit × ShadowState :=
  if generation.entryCapacity < entryCount then
    (.error (s!"expanded COM vtable requires {entryCount} entries, but its cloned memory " ++
      s!"region only has room for {generation.entryCapacity}"), s)
  else
    match record.originals with
    | none => (.error "shadow record has no original function table", s)
    | some oldOriginals =>
      let originalEntries := expandedOriginals s.memory generation oldOriginals entryCount
      match checkOriginals hooks originalEntries with
      | .error error => (.error error, s)
      | .ok _ =>
        -- until here nothing was written
        match protectReadWrite o.protectReadWrite generation.regionBase
            generation.regionSize with
        | .error error => (.error error, s)
        | .ok _ =>
          -- the record grows even when the last protection fails
          (protectReadOnly o.protectReadOnly generation.regionBase generation.regionSize,
            { s with
              memory :=
                hooks.foldl (expandSlot generation.vtable generation.entryCount) s.memory
            }.updateRecord i fun r => r.expand entryCount originalEntries generation)

/-! ### Installing -/

/-- `install_shadow_vtable`. -/
def installShadowVtable (o : InstallOutcome) (s : ShadowState) (object : UInt64)
    (kind : ShadowKind) (entryCount : Nat) (hooks : List VtableHook) :
    Except String Unit × ShadowState :=
  match objectVtable s.memory object with
  | .error error => (.error error, s)
  | .ok currentVtable =>
    match checkHooks kind entryCount hooks with
    | .error error => (.error error, s)
    | .ok _ =>
      match s.findShadowRecord object kind with
      | none => installFreshShadow o s object kind entryCount hooks currentVtable
      | some i =>
        match s.records[i]? with
        | none => (.ok (), s)
        | some record =>
          match record.findShadowGeneration currentVtable with
          -- another module has put its own vtable into the object
          | none => (.ok (), s)
          | some generation =>
            if entryCount ≤ generation.entryCount then
              (.ok (), s)
            else
              expandOwnedShadow o s i record generation entryCount hooks

/-- `patch_factory` and `patch_swap_chain`. -/
def patchObject (code : HookFunction → UInt64) (o : InstallOutcome) (s : ShadowState)
    (object : UInt64) (kind : ShadowKind) (entryCount : Nat) : Except String Unit × ShadowState :=
  installShadowVtable o s object kind entryCount (kind.hooks code entryCount)

/-! ### Swap-chain globals -/

/-- Change what is kept for a swap chain, `states.entry(swap_chain).or_default()`. -/
def ShadowState.updateSwapChainState (s : ShadowState) (swapChain : UInt64)
    (f : SwapChainState → SwapChainState) : ShadowState :=
  { s with
    swapChainStates := Function.update s.swapChainStates swapChain
      (some (f ((s.swapChainStates swapChain).getD {}))) }

/-- `ensure_swap_chain_state`. -/
def ShadowState.ensureSwapChainState (s : ShadowState) (swapChain : UInt64) : ShadowState :=
  s.updateSwapChainState swapChain id

/-- `note_active_swap_chain`. -/
def ShadowState.noteActiveSwapChain (s : ShadowState) (swapChain : UInt64) : ShadowState :=
  if swapChain = 0 then
    s
  else
    { s with
      activeSwapChain := swapChain
      activeSwapChainRevision :=
        if s.activeSwapChain ≠ swapChain then s.activeSwapChainRevision + 1
        else s.activeSwapChainRevision }

/-- `note_active_swap_chain_reconfigured`. -/
def ShadowState.noteActiveSwapChainReconfigured (s : ShadowState) (swapChain : UInt64) :
    ShadowState :=
  if s.activeSwapChain = swapChain then
    { s with activeSwapChainRevision := s.activeSwapChainRevision + 1 }
  else
    s

/-- Clear `ACTIVE_SWAP_CHAIN` if it is the object. -/
def ShadowState.clearActiveSwapChain (s : ShadowState) (object : UInt64) : ShadowState :=
  if s.activeSwapChain = object then
    { s with
      activeSwapChain := 0
      activeSwapChainRevision := s.activeSwapChainRevision + 1 }
  else
    s

/-- `states.remove(&object)`. -/
def ShadowState.removeSwapChainState (s : ShadowState) (object : UInt64) : ShadowState :=
  { s with swapChainStates := Function.update s.swapChainStates object none }

/-! ### Releasing -/

/-- What follows a native `Release` that left no reference. -/
def ShadowState.retireShadowObject (s : ShadowState) (i : Nat) (object : UInt64)
    (kind : ShadowKind) : ShadowState :=
  let s := s.updateRecord i ShadowRecord.retire
  -- nothing else is kept for a factory
  match kind with
  | .factory => s
  | .swapChain => (s.clearActiveSwapChain object).removeSwapChainState object

/-- `release_shadow_object`, when the native `Release` returns `remaining`. -/
def releaseShadowObject (remaining : UInt32) (s : ShadowState) (object : UInt64)
    (kind : ShadowKind) : UInt32 × ShadowState :=
  match s.findShadowRecord object kind with
  | none => (0, s)
  | some i =>
    match s.records[i]?.bind (·.loadSavedRecordFunction unknownReleaseIndex) with
    | none => (0, s)
    -- the native call is made between the look-up and the retirement
    | some _ =>
      (remaining, if remaining = 0 then s.retireShadowObject i object kind else s)

end Shadow
end WindowedHdr
