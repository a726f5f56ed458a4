import WindowedHdr.Dxgi.SwapChainState
import WindowedHdr.Library.ByteMemory
import WindowedHdr.Library.NewestFirst
import WindowedHdr.Shadow.Hooks

/-!
# Shadow records and the dispatch through them

A `ShadowRecord` says that an object's vtable was replaced by a shadow, and keeps what the
dispatch needs: the original functions, and the root vtable they came from. Records live
until the process exits and are searched by the object's address, newest first; the final
release of an object only retires its record (`active`).

`loadObjectFunction` is the dispatch: what one of our replacements calls. It is the saved
original, or, for a root vtable inside `dxgi.dll`, what the root's slot holds now, unless
that is nothing or the replacement itself.

Records are never freed, so a pointer to one is its index in the order of publication.

The dispatch is split as in the source: `loadSavedRecordFunction` is the saved original, and
`preferredFunction` what the live root makes of it. Their lemmas say when there is a function at
all, and that it is never null nor the replacement if the saved one is not.
-/

namespace WindowedHdr
namespace Shadow

open ByteMemory Dxgi

/-! ### Records and state -/

/-- One published size of a shadow vtable. -/
structure ShadowGeneration where
  vtable : UInt64
  entryCount : Nat
  entryCapacity : Nat
  regionBase : UInt64
  regionSize : Nat
  deriving DecidableEq, Repr

/-- A shadowed object. -/
structure ShadowRecord where
  object : UInt64
  kind : ShadowKind
  active : Bool
  entryCount : Nat
  rootOriginalVtable : UInt64
  liveRootSlots : Bool
  /-- The saved functions; null only if nothing was saved. -/
  originals : Option (List UInt64)
  /-- Newest first. -/
  generations : List ShadowGeneration
  deriving DecidableEq, Repr

/-- The memory and the globals that records are kept in. -/
structure ShadowState where
  memory : ByteMemory
  /-- `SHADOW_RECORDS`, in the order of publication. -/
  records : List ShadowRecord
  /-- `SWAP_CHAIN_STATES`. -/
  swapChainStates : UInt64 → Option SwapChainState
  /-- `ACTIVE_SWAP_CHAIN`; null when there is none. -/
  activeSwapChain : UInt64
  /-- `ACTIVE_SWAP_CHAIN_REVISION`. -/
  activeSwapChainRevision : UInt64

/-- Change the record at index `i`. -/
def ShadowState.updateRecord (s : ShadowState) (i : Nat) (f : ShadowRecord → ShadowRecord) :
    ShadowState :=
  { s with records := s.records.modify i f }

/-- `publish_shadow_record`. -/
def ShadowState.publishShadowRecord (s : ShadowState) (record : ShadowRecord) : ShadowState :=
  { s with records := s.records ++ [record] }

/-- `publish_shadow_generation`. -/
def ShadowRecord.publishShadowGeneration (self : ShadowRecord) (generation : ShadowGeneration) :
    ShadowRecord :=
  { self with generations := generation :: self.generations }

/-- The record is the active one of an object and kind. -/
def ShadowRecord.IsActiveFor (object : UInt64) (kind : ShadowKind) (self : ShadowRecord) : Bool :=
  self.object == object && self.kind == kind && self.active

/-- What the lookup of a record compares. -/
theorem ShadowRecord.isActiveFor_iff {object : UInt64} {kind : ShadowKind}
    {self : ShadowRecord} :
    self.IsActiveFor object kind = true ↔
      self.object = object ∧ self.kind = kind ∧ self.active = true := by
  simp [IsActiveFor, and_assoc]

/-- `find_shadow_record`. -/
def ShadowState.findShadowRecord (s : ShadowState) (object : UInt64) (kind : ShadowKind) :
    Option Nat :=
  NewestFirst.find (ShadowRecord.IsActiveFor object kind) s.records

/-- `find_shadow_generation`. -/
def ShadowRecord.findShadowGeneration (self : ShadowRecord) (vtable : UInt64) :
    Option ShadowGeneration :=
  self.generations.find? fun generation => generation.vtable == vtable

/-- `object_vtable`. -/
def objectVtable (memory : ByteMemory) (object : UInt64) : Except String UInt64 :=
  if object = 0 then
    .error "COM object is null"
  else if memory.readPointer object = 0 then
    .error "COM vtable is null"
  else
    .ok (memory.readPointer object)

/-! ### Dispatch -/

/-- `load_saved_record_function`. -/
def ShadowRecord.loadSavedRecordFunction (self : ShadowRecord) (index : Nat) : Option UInt64 :=
  -- the number of entries is loaded before the table that it belongs to
  if self.entryCount ≤ index then
    none
  else
    match self.originals with
    | none => none
    | some originals => originals[index]?.filter (· != 0)

variable (code : HookFunction → UInt64)

/-- What the root's slot holds now. -/
def ShadowRecord.currentRoot (self : ShadowRecord) (memory : ByteMemory) (index : Nat) : UInt64 :=
  memory.readPointer (slot self.rootOriginalVtable index)

/-- The function that `load_record_function` prefers: the live root slot over the saved
pointer, while refusing to call back into our own replacement. -/
def ShadowRecord.preferredFunction (self : ShadowRecord) (memory : ByteMemory) (index : Nat)
    (savedPointer : UInt64) : UInt64 :=
  if self.liveRootSlots then
    if self.currentRoot memory index ≠ 0 ∧
        shadowReplacement code self.kind index ≠ some (self.currentRoot memory index) then
      self.currentRoot memory index
    else
      savedPointer
  else
    savedPointer

/-- `load_record_function`. -/
def ShadowRecord.loadRecordFunction (self : ShadowRecord) (memory : ByteMemory) (index : Nat) :
    Option UInt64 :=
  match self.loadSavedRecordFunction index with
  | none => none
  | some savedPointer =>
    let pointer := self.preferredFunction code memory index savedPointer
    if pointer = 0 then none else some pointer

/-- `load_object_function`. -/
def ShadowState.loadObjectFunction (s : ShadowState) (object : UInt64) (kind : ShadowKind)
    (index : Nat) : Option UInt64 :=
  match s.findShadowRecord object kind with
  | none => none
  | some i => (s.records[i]?).bind fun record => record.loadRecordFunction code s.memory index

/-! ### What lookups and dispatch return -/

variable {code} {s : ShadowState} {memory : ByteMemory} {object : UInt64} {kind : ShadowKind}
  {i index : Nat} {record : ShadowRecord} {f g : UInt64}

/-- What a lookup finds is an active record of the object and kind. -/
theorem ShadowState.exists_of_findShadowRecord (h : s.findShadowRecord object kind = some i) :
    ∃ record, s.records[i]? = some record ∧ record.object = object ∧ record.kind = kind ∧
      record.active = true := by
  obtain ⟨record, hrecord, hactive⟩ := NewestFirst.find_some h
  exact ⟨record, hrecord, ShadowRecord.isActiveFor_iff.mp hactive⟩

/-- A lookup fails when no record of the object and kind is active. -/
theorem ShadowState.findShadowRecord_eq_none :
    s.findShadowRecord object kind = none ↔
      ∀ (i : Nat) (record : ShadowRecord), s.records[i]? = some record → record.object = object →
        record.kind = kind → record.active = false := by
  rw [findShadowRecord, NewestFirst.find_eq_none]
  constructor
  · intro h i record hrecord hobject hkind
    simpa [ShadowRecord.IsActiveFor, hobject, hkind] using h i record hrecord
  · intro h i record hrecord
    -- an active record would be one that the search finds
    by_contra hactive
    obtain ⟨hobject, hkind, hactive⟩ :=
      ShadowRecord.isActiveFor_iff.mp (eq_true_of_ne_false hactive)
    rw [h i record hrecord hobject hkind] at hactive
    exact nomatch hactive

/-- What is saved is one of the original functions. -/
theorem ShadowRecord.loadSavedRecordFunction_eq_some :
    record.loadSavedRecordFunction index = some f ↔
      index < record.entryCount ∧ (∃ originals, record.originals = some originals ∧
        originals[index]? = some f) ∧ f ≠ 0 := by
  rw [loadSavedRecordFunction]
  split
  · next hle => exact iff_of_false (fun h => nomatch h) fun h => by omega
  · next hlt =>
    -- a null entry is filtered out, as if nothing was saved
    split
    · next hnone => simp [hnone]
    · next originals hsome => simp [hsome, Option.filter_eq_some_iff]; omega

/-- The preferred function is never null: neither alternative is. -/
theorem ShadowRecord.preferredFunction_ne_zero (hf : f ≠ 0) :
    record.preferredFunction code memory index f ≠ 0 := by
  rw [preferredFunction]
  split
  · split
    · next hroot => exact hroot.1
    · exact hf
  · exact hf

/-- The dispatch succeeds where a function is saved. -/
theorem ShadowRecord.loadRecordFunction_eq :
    record.loadRecordFunction code memory index =
      (record.loadSavedRecordFunction index).map (record.preferredFunction code memory index) := by
  rw [loadRecordFunction]
  split
  · next hnone => rw [hnone, Option.map_none]
  · next f hsome =>
    -- so the last check for a null pointer never fails
    have hf : f ≠ 0 := (loadSavedRecordFunction_eq_some.mp hsome).2.2
    rw [hsome, Option.map_some]
    exact if_neg (preferredFunction_ne_zero hf)

/-- A dispatch never leads back to the replacement, unless the replacement was saved. -/
theorem ShadowRecord.preferredFunction_ne_replacement
    (hr : shadowReplacement code record.kind index = some g) (hf : f ≠ g) :
    record.preferredFunction code memory index f ≠ g := by
  rw [preferredFunction]
  split
  · split
    · next hroot =>
      -- the live slot is preferred only when it holds another function
      intro heq
      exact hroot.2 (hr.trans (congrArg some heq.symm))
    · exact hf
  · exact hf

end Shadow
end WindowedHdr
