import WindowedHdr.Shadow.Separation

/-!
# Foreign hooks across an expansion

Another module may hook an object in place, by writing its function `E` into a slot of our
shadow. When the shadow then grows, an entry that was hooked before keeps `E` in the slot. An
entry beyond the old size is overwritten with our replacement, and `E` is saved as its
original; but the dispatch prefers the live slot of the root vtable to what is saved, and
that slot never held `E`. So `E` is lost exactly when the slot is newly hooked, the record
follows a live root, and the root's slot holds a third function
(`reaches_after_expansion_iff`).

`readPointer_grownMemory` is what the write loop leaves in each slot.

The condition of the theorem is decided by the state before the expansion. That it is exact
follows from a computation of what the dispatch returns afterwards: the slot holds the
replacement, the record has saved `E` for it, and `preferredFunction_eq_iff` says when the saved
function is what is returned. The sample is the swap chain of the module on runs of shadows,
hooked by another module at `Present1` and then expanded to the interface that has it.
-/

namespace WindowedHdr
namespace Shadow

open ByteMemory Usize Windows

variable {code : HookFunction → UInt64} {s : ShadowState} {o : InstallOutcome}
  {object shadow b E : UInt64} {kind : ShadowKind} {entryCount index n k : Nat}
  {hooks : List VtableHook} {record : ShadowRecord} {generation : ShadowGeneration}
  {oldOriginals : List UInt64} {memory : ByteMemory}

/-- A call through the object's slot `index` reaches `E`: it is in the slot, or our
replacement is and forwards to it. -/
def ShadowState.CallReaches (code : HookFunction → UInt64) (s : ShadowState) (object : UInt64)
    (kind : ShadowKind) (index : Nat) (E : UInt64) : Prop :=
  let function := s.memory.readPointer (slot (s.memory.readPointer object) index)
  function = E ∨ shadowReplacement code kind index = some function ∧
    s.loadObjectFunction code object kind index = some E

/-! ### The write loop -/

/-- One iteration leaves everything apart from its slot as it is. -/
theorem readPointer_expandSlot_of_apart {hook : VtableHook}
    (h : Apart (slot shadow hook.index) b) :
    (expandSlot shadow n memory hook).readPointer b = memory.readPointer b := by
  rw [expandSlot]
  split
  · rfl
  · split
    · exact readPointer_writePointer_of_apart memory h _
    · rfl

/-- What one iteration leaves in the slot it is about. -/
theorem readPointer_expandSlot_self {hook : VtableHook} :
    (expandSlot shadow n memory hook).readPointer (slot shadow hook.index) =
      if hook.index < n ∧ memory.readPointer (slot shadow hook.index) ≠ hook.replacement then
        memory.readPointer (slot shadow hook.index)
      else
        hook.replacement := by
  rw [expandSlot]
  split
  · rfl
  · split
    · exact readPointer_writePointer_self memory _ _
    · next hsame => exact not_not.mp hsame

/-- The loop does not touch what is apart from every hooked slot. -/
theorem readPointer_foldl_expandSlot_of_apart
    (h : ∀ hook ∈ hooks, Apart (slot shadow hook.index) b) :
    (hooks.foldl (expandSlot shadow n) memory).readPointer b = memory.readPointer b := by
  induction hooks generalizing memory with
  | nil => rfl
  | cons hook hooks ih =>
    rw [List.forall_mem_cons] at h
    rw [List.foldl_cons, ih h.2, readPointer_expandSlot_of_apart h.1]

/-- A slot that was hooked before keeps what it holds. -/
theorem readPointer_foldl_expandSlot_of_lt (hindex : index < 2 ^ 60)
    (hlt : ∀ hook ∈ hooks, hook.index < 2 ^ 60) (hn : index < n) :
    (hooks.foldl (expandSlot shadow n) memory).readPointer (slot shadow index) =
      memory.readPointer (slot shadow index) := by
  -- by induction over the hooks; the memory changes from hook to hook, the slot read does not
  induction hooks generalizing memory with
  | nil => rfl
  | cons hook hooks ih =>
    rw [List.forall_mem_cons] at hlt
    rw [List.foldl_cons, ih hlt.2]
    by_cases heq : hook.index = index
    · -- what is not the replacement is kept, and the replacement is not written again
      subst heq
      rw [readPointer_expandSlot_self]
      split
      · rfl
      · next hsame => exact (not_not.mp fun hne => hsame ⟨hn, hne⟩).symm
    · exact readPointer_expandSlot_of_apart (apart_slot shadow heq hlt.1 hindex)

/-- A loop over the hooks that stores the replacements leaves in a slot what its last hook
stores there. -/
theorem readPointer_foldl_hooks {f : ByteMemory → VtableHook → ByteMemory}
    (hself : ∀ m hook, hook.index = index →
      (f m hook).readPointer (slot shadow index) = hook.replacement)
    (hother : ∀ m, ∀ hook ∈ hooks, hook.index ≠ index →
      (f m hook).readPointer (slot shadow index) = m.readPointer (slot shadow index))
    (hmem : ∃ hook ∈ hooks, hook.index = index) :
    ∃ hook ∈ hooks, hook.index = index ∧
      (hooks.foldl f memory).readPointer (slot shadow index) = hook.replacement := by
  -- a part of the loop without a hook of this slot keeps what the slot holds
  have hkeeps : ∀ (rest : List VtableHook) (m : ByteMemory), (∀ hook ∈ rest, hook ∈ hooks) →
      (∀ hook ∈ rest, hook.index ≠ index) →
      (rest.foldl f m).readPointer (slot shadow index) = m.readPointer (slot shadow index) := by
    intro rest
    induction rest with
    | nil => exact fun _ _ _ => rfl
    | cons hook rest ih =>
      intro m hin hne
      rw [List.forall_mem_cons] at hin hne
      rw [List.foldl_cons, ih _ hin.2 hne.2, hother m hook hin.1 hne.1]
  -- the hooks behind the last one of this slot do not touch it
  obtain ⟨before, hook, after, hsplit, heq, hlast⟩ :
      ∃ before hook after, hooks = before ++ hook :: after ∧ hook.index = index ∧
        ∀ hook' ∈ after, hook'.index ≠ index := by
    clear hkeeps hother
    induction hooks with
    | nil =>
      obtain ⟨hook, hhook, -⟩ := hmem
      exact nomatch hhook
    | cons hook hooks ih =>
      -- the last hook of the slot is in the rest, if there is one in the rest at all
      by_cases hrest : ∃ hook ∈ hooks, hook.index = index
      · obtain ⟨before, hook', after, rfl, heq, hlast⟩ := ih hrest
        exact ⟨hook :: before, hook', after, rfl, heq, hlast⟩
      · refine ⟨[], hook, hooks, rfl, ?_, fun hook' hhook' h => hrest ⟨hook', hhook', h⟩⟩
        obtain ⟨hook', hhook', heq⟩ := hmem
        obtain rfl | hhook' := List.mem_cons.mp hhook'
        · exact heq
        · exact (hrest ⟨hook', hhook', heq⟩).elim
  have hafter : ∀ hook' ∈ after, hook' ∈ hooks := by
    intro hook' hhook'
    rw [hsplit]
    exact List.mem_append_right _ (List.mem_cons_of_mem _ hhook')
  refine ⟨hook, by rw [hsplit]; exact List.mem_append_right _ List.mem_cons_self, heq, ?_⟩
  conv_lhs => rw [hsplit]
  rw [List.foldl_append, List.foldl_cons, hkeeps after _ hafter hlast, hself _ hook heq]

/-- A slot beyond the old size is hooked. -/
theorem readPointer_foldl_expandSlot_of_le (hindex : index < 2 ^ 60)
    (hlt : ∀ hook ∈ hooks, hook.index < 2 ^ 60) (hn : n ≤ index)
    (hmem : ∃ hook ∈ hooks, hook.index = index) :
    ∃ hook ∈ hooks, hook.index = index ∧
      (hooks.foldl (expandSlot shadow n) memory).readPointer (slot shadow index) =
        hook.replacement := by
  refine readPointer_foldl_hooks ?_ ?_ hmem
  · rintro m hook rfl
    rw [readPointer_expandSlot_self, if_neg fun h => by omega]
  · intro m hook hhook hne
    exact readPointer_expandSlot_of_apart (apart_slot shadow hne (hlt hook hhook) hindex)

/-- What the loop leaves in a slot that it hooks. -/
theorem readPointer_foldl_expandSlot {r : UInt64} (hindex : index < 2 ^ 60)
    (hlt : ∀ hook ∈ hooks, hook.index < 2 ^ 60)
    (hr : ∀ hook ∈ hooks, hook.index = index → hook.replacement = r)
    (hmem : ∃ hook ∈ hooks, hook.index = index) :
    (hooks.foldl (expandSlot shadow n) memory).readPointer (slot shadow index) =
      if index < n ∧ memory.readPointer (slot shadow index) ≠ r then
        memory.readPointer (slot shadow index)
      else
        r := by
  obtain hn | hn := Nat.lt_or_ge index n
  · rw [readPointer_foldl_expandSlot_of_lt hindex hlt hn]
    split
    · rfl
    · next hsame => exact not_not.mp fun hne => hsame ⟨hn, hne⟩
  · obtain ⟨hook, hhook, heq, hvalue⟩ := readPointer_foldl_expandSlot_of_le hindex hlt hn hmem
    rw [hvalue, hr hook hhook heq, if_neg fun h => by omega]

/-! ### The grown shadow -/

/-- The state after the record at index `k` grew. -/
def grownState (s : ShadowState) (k : Nat) (generation : ShadowGeneration)
    (oldOriginals : List UInt64) (entryCount : Nat) (hooks : List VtableHook) : ShadowState :=
  { s with
    memory := grownMemory s generation hooks
    records := s.records.modify k fun r => r.expand entryCount
      (expandedOriginals s.memory generation oldOriginals entryCount) generation }

/-- An installation that succeeds where the shadow is too small lets it grow. -/
theorem grows_of_patch_ok (hfound : s.findShadowRecord object kind = some k)
    (hrecord : s.records[k]? = some record)
    (hgeneration : record.findShadowGeneration (s.memory.readPointer object) = some generation)
    (hlarger : generation.entryCount < entryCount)
    (hok : (patchObject code o s object kind entryCount).1 = .ok ()) :
    ∃ oldOriginals, GrowingShadow s object kind entryCount (kind.hooks code entryCount) k record
        generation oldOriginals ∧
      (patchObject code o s object kind entryCount).2 =
        grownState s k generation oldOriginals entryCount (kind.hooks code entryCount) := by
  have heffect := installEffect_of_patch_ok hok
  generalize (patchObject code o s object kind entryCount).2 = s' at heffect
  cases heffect with
  | kept i hfound' hle =>
    -- an installation keeps the shadow only if it is large enough
    obtain rfl := Option.some.inj (hfound.symm.trans hfound')
    exact absurd (hle record generation hrecord hgeneration) (Nat.not_le.mpr hlarger)
  | installed _ _ _ _ hfresh =>
    -- a fresh record is made only where none is found
    rw [hfresh.noRecord] at hfound
    exact nomatch hfound
  | expanded _ i record' generation' oldOriginals hgrow =>
    -- the record and the generation that grew are the given ones
    obtain rfl := Option.some.inj (hfound.symm.trans hgrow.found)
    obtain rfl := Option.some.inj (hrecord.symm.trans hgrow.record_eq)
    obtain rfl := Option.some.inj (hgeneration.symm.trans hgrow.generation_eq)
    exact ⟨oldOriginals, hgrow, rfl⟩

section Grown

variable (hs : (shadowSystem code).ReachableWhere (fun s a => a.AllocatesUnused s) s)
  (h : GrowingShadow s object kind entryCount (kind.hooks code entryCount) k record generation
    oldOriginals)

include hs h

/-- The object still points at its shadow. -/
theorem GrowingShadow.readPointer_object :
    (grownMemory s generation (kind.hooks code entryCount)).readPointer object =
      generation.vtable := by
  have hwf := wellFormed_of_reachable hs.reachable k record h.record_eq
  obtain ⟨-, hvtable⟩ := hwf.sized.findShadowGeneration h.generation_eq
  obtain ⟨-, hapart⟩ := separate_of_reachable hs k record h.record_eq generation
    (List.mem_of_find?_eq_some h.generation_eq)
  have hfits := h.fits
  rw [grownMemory, readPointer_foldl_expandSlot_of_apart, hvtable]
  -- the pointer of the object lies apart from every slot of the shadow that is written
  intro hook hhook
  have hlt := h.hooks_lt hook hhook
  obtain ⟨rfl, -⟩ := h.isFor
  exact (hapart hook.index (by omega)).1

/-- The root vtable is not written. -/
theorem GrowingShadow.currentRoot_eq (hindex : index < entryCount) :
    record.currentRoot (grownMemory s generation (kind.hooks code entryCount)) index =
      record.currentRoot s.memory index := by
  obtain ⟨-, hapart⟩ := separate_of_reachable hs k record h.record_eq generation
    (List.mem_of_find?_eq_some h.generation_eq)
  have hfits := h.fits
  rw [ShadowRecord.currentRoot, ShadowRecord.currentRoot, grownMemory,
    readPointer_foldl_expandSlot_of_apart]
  -- the shadow shares no byte with the root vtable it was cloned from
  intro hook hhook
  have hlt := h.hooks_lt hook hhook
  exact (hapart hook.index (by omega)).2 index (by omega)

/-- The slot of a covered entry. -/
theorem GrowingShadow.readPointer_slot {hook : VtableHook}
    (hhook : hook ∈ kind.hooks code entryCount) :
    (grownMemory s generation (kind.hooks code entryCount)).readPointer
        (slot generation.vtable hook.index) =
      if hook.index < record.entryCount ∧
          s.memory.readPointer (slot generation.vtable hook.index) ≠ hook.replacement then
        s.memory.readPointer (slot generation.vtable hook.index)
      else
        hook.replacement := by
  have hwf := wellFormed_of_reachable hs.reachable k record h.record_eq
  obtain ⟨hcount, -⟩ := h.expandedOriginals_eq hwf.sized
  obtain ⟨hcapacity, -⟩ := separate_of_reachable hs k record h.record_eq generation
    (List.mem_of_find?_eq_some h.generation_eq)
  have hfits := h.fits
  have hlt : ∀ hook ∈ kind.hooks code entryCount, hook.index < 2 ^ 60 := by
    intro hook hhook
    have hlt := h.hooks_lt hook hhook
    omega
  rw [grownMemory, ← hcount]
  refine readPointer_foldl_expandSlot (hlt hook hhook) hlt ?_ ⟨hook, hhook, rfl⟩
  -- two hooks of one slot have one replacement
  intro hook' hhook' heq
  have hr' := shadowReplacement_of_mem hhook'
  rw [heq, shadowReplacement_of_mem hhook] at hr'
  exact (Option.some.inj hr').symm

/-- The dispatch finds the grown record. -/
theorem GrowingShadow.loadObjectFunction_eq (o : InstallOutcome) :
    (grownState s k generation oldOriginals entryCount
        (kind.hooks code entryCount)).loadObjectFunction code object kind index =
      (record.expand entryCount (expandedOriginals s.memory generation oldOriginals entryCount)
        generation).loadRecordFunction code
          (grownMemory s generation (kind.hooks code entryCount)) index := by
  obtain ⟨rfl, rfl, hactive⟩ := h.isFor
  generalize hs' : grownState s k generation oldOriginals entryCount
    (record.kind.hooks code entryCount) = s'
  have hfollows : RecordsFollow code s (.patch record.object record.kind entryCount o) s' := by
    subst hs'
    refine .of_modify rfl fun r hr => ?_
    obtain rfl := Option.some.inj (h.record_eq.symm.trans hr)
    exact .grown record.object record.kind entryCount o k record generation oldOriginals rfl h
  -- the record is still active, and still the only one
  have hunique : s'.UniqueActive := hfollows.uniqueActive (uniqueActive_of_reachable hs.reachable)
  have hrecord : s'.records[k]? = some (record.expand entryCount
      (expandedOriginals s.memory generation oldOriginals entryCount) generation) := by
    rw [← hs', grownState, List.getElem?_modify, h.record_eq]
    simp
  have hfound := hunique.findShadowRecord hrecord hactive
  change s'.findShadowRecord record.object record.kind = some k at hfound
  rw [ShadowState.loadObjectFunction, hfound]
  simp only [hrecord, Option.bind_some]
  rw [← hs']
  rfl

end Grown

/-- What the dispatch of a grown record returns, for a slot that was not hooked before and
whose entry is saved now. -/
theorem GrowingShadow.loadRecordFunction_new
    (h : GrowingShadow s object kind entryCount hooks k record generation oldOriginals)
    (hwf : record.WellFormed code) (hindex : index < entryCount)
    (hnew : record.entryCount ≤ index)
    (hE : s.memory.readPointer (slot generation.vtable index) = E) (hE₀ : E ≠ 0) :
    (record.expand entryCount (expandedOriginals s.memory generation oldOriginals entryCount)
        generation).loadRecordFunction code memory index =
      some (record.preferredFunction code memory index E) := by
  obtain ⟨-, hlength, heq⟩ := h.expandedOriginals_eq hwf.sized
  -- what is saved for a new entry is what the shadow's slot held before the hooks were written
  have hsaved : (record.expand entryCount (expandedOriginals s.memory generation oldOriginals
      entryCount) generation).loadSavedRecordFunction index = some E := by
    refine ShadowRecord.loadSavedRecordFunction_eq_some.mpr ⟨hindex, ⟨_, rfl, ?_⟩, hE₀⟩
    calc (expandedOriginals s.memory generation oldOriginals entryCount)[index]?
        = (oldOriginals ++ (readTable s.memory generation.vtable entryCount).drop
            record.entryCount)[index]? := by rw [heq]
      _ = (readTable s.memory generation.vtable entryCount)[index]? := by
        rw [List.getElem?_append_right (by omega), List.getElem?_drop, hlength,
          Nat.add_sub_cancel' hnew]
      _ = some E := by rw [getElem?_readTable hindex, hE]
  rw [ShadowRecord.loadRecordFunction_eq, hsaved, Option.map_some]
  rfl

/-- The saved function is returned when the root's slot is not preferred, or agrees with it. -/
theorem ShadowRecord.preferredFunction_eq_iff :
    record.preferredFunction code memory index E = E ↔
      record.liveRootSlots = false ∨ record.currentRoot memory index = 0 ∨
      shadowReplacement code record.kind index = some (record.currentRoot memory index) ∨
      record.currentRoot memory index = E := by
  -- the root's slot is preferred, or the saved function is returned, and that is `E` here
  rw [preferredFunction]
  split_ifs with hlive hroot
  · constructor
    · exact fun h => .inr (.inr (.inr h))
    · rintro (h | h | h | h)
      · rw [hlive] at h
        cases h
      · exact absurd h hroot.1
      · exact absurd h hroot.2
      · exact h
  · refine iff_of_true rfl ?_
    by_cases hzero : record.currentRoot memory index = 0
    · exact .inr (.inl hzero)
    · exact .inr (.inr (.inl (by simpa [hzero] using hroot)))
  · exact iff_of_true rfl (.inl (by simpa using hlive))

/-- What an expansion does to a foreign function in a covered slot. -/
theorem GrowingShadow.callReaches_iff
    (hs : (shadowSystem code).ReachableWhere (fun s a => a.AllocatesUnused s) s)
    (o : InstallOutcome)
    (h : GrowingShadow s object kind entryCount (kind.hooks code entryCount) k record generation
      oldOriginals)
    {hook : VtableHook} (hhook : hook ∈ kind.hooks code entryCount)
    (hE : s.memory.readPointer (slot generation.vtable hook.index) = E) (hE₀ : E ≠ 0)
    (hforeign : E ≠ hook.replacement) :
    (grownState s k generation oldOriginals entryCount (kind.hooks code entryCount)).CallReaches
        code object kind hook.index E ↔
      hook.index < record.entryCount ∨ record.liveRootSlots = false ∨
      record.currentRoot s.memory hook.index = 0 ∨
      shadowReplacement code kind hook.index = some (record.currentRoot s.memory hook.index) ∨
      record.currentRoot s.memory hook.index = E := by
  have hwf := wellFormed_of_reachable hs.reachable k record h.record_eq
  have hlt := h.hooks_lt hook hhook
  have hmemory : (grownState s k generation oldOriginals entryCount
      (kind.hooks code entryCount)).memory =
        grownMemory s generation (kind.hooks code entryCount) := rfl
  rw [ShadowState.CallReaches]
  simp only [hmemory]
  -- the call loads the slot of the grown shadow, which holds `E` or our replacement
  rw [h.readPointer_object hs, h.readPointer_slot hs hhook, hE]
  by_cases hold : hook.index < record.entryCount
  · -- the foreign function stays in the slot
    rw [if_pos ⟨hold, hforeign⟩]
    exact iff_of_true (.inl rfl) (.inl hold)
  · -- our replacement is written over it, and the dispatch decides
    rw [if_neg fun hcond => hold hcond.1, h.loadObjectFunction_eq hs o,
      h.loadRecordFunction_new hwf hlt (Nat.le_of_not_lt hold) hE hE₀, Option.some.injEq,
      ShadowRecord.preferredFunction_eq_iff, h.currentRoot_eq hs hlt, h.isFor.2.1]
    have hr := shadowReplacement_of_mem hhook
    constructor
    · rintro (hsame | ⟨-, hforward⟩)
      · exact absurd hsame.symm hforeign
      · exact .inr hforward
    · rintro (hlt' | hforward)
      · exact absurd hlt' hold
      · exact .inr ⟨hr, hforward⟩

/-- **When an expansion keeps a foreign hook.** Let another module's function `E` be in the
slot of a covered entry when an installation succeeds that lets the shadow grow. Calls still
reach `E` if and only if the entry was hooked before, or the dispatch does not prefer a third
function in the root's slot. -/
theorem reaches_after_expansion_iff
    (hs : (shadowSystem code).ReachableWhere (fun s a => a.AllocatesUnused s) s)
    (hfound : s.findShadowRecord object kind = some k) (hrecord : s.records[k]? = some record)
    (hgeneration : record.findShadowGeneration (s.memory.readPointer object) = some generation)
    (hlarger : generation.entryCount < entryCount)
    (hok : (patchObject code o s object kind entryCount).1 = .ok ())
    {hook : VtableHook} (hhook : hook ∈ kind.hooks code entryCount)
    (hE : s.memory.readPointer (slot generation.vtable hook.index) = E) (hE₀ : E ≠ 0)
    (hforeign : E ≠ hook.replacement) :
    (patchObject code o s object kind entryCount).2.CallReaches code object kind hook.index E ↔
      hook.index < record.entryCount ∨ record.liveRootSlots = false ∨
      record.currentRoot s.memory hook.index = 0 ∨
      shadowReplacement code kind hook.index = some (record.currentRoot s.memory hook.index) ∨
      record.currentRoot s.memory hook.index = E := by
  obtain ⟨oldOriginals, hgrow, hstate⟩ := grows_of_patch_ok hfound hrecord hgeneration hlarger hok
  rw [hstate]
  exact hgrow.callReaches_iff hs o hhook hE hE₀ hforeign

/-! ### The sample process

The sample swap chain was captured with 18 entries. Another module hooks `Present1`, the entry
22, in the shadow; then the swap chain is queried for `IDXGISwapChain1`. -/

/-- The function of the other module. -/
def sampleForeignFunction : UInt64 := 0x7ff600000000

/-- The other module has written its function into the shadow. -/
def sampleHooked : ShadowState :=
  { sampleShadowed with
    memory := sampleShadowed.memory.writePointer (slot 0x20100 swapChainPresent1Index)
      sampleForeignFunction }

def sampleRecord : ShadowRecord :=
  (newRecord sampleOutcome sampleObject .swapChain 18 sampleRoot sampleClone
    sampleCloned).publishShadowGeneration (newGeneration 18 96 sampleClone)

def samplePresent1Hook : VtableHook :=
  ⟨swapChainPresent1Index, sampleCode .present1Hook, "IDXGISwapChain1::Present1"⟩

/-- The foreign hook is written after the capture. -/
theorem sampleHooked_reachable :
    (shadowSystem sampleCode).ReachableWhere (fun s a => a.AllocatesUnused s) sampleHooked :=
  sampleShadowed_reachable_unused.step
    (a := .write (slot 0x20100 swapChainPresent1Index) sampleForeignFunction) trivial rfl

/-- The object still points at the shadow that it was captured with. -/
theorem sampleHooked_generation :
    sampleRecord.findShadowGeneration (sampleHooked.memory.readPointer sampleObject) =
      some (newGeneration 18 96 sampleClone) := by
  have hobject : sampleHooked.memory.readPointer sampleObject = 0x20100 := by decide +kernel
  rw [hobject]
  rfl

/-- The shadow can grow to the size of `IDXGISwapChain1`. -/
theorem sampleHooked_growing : GrowingShadow sampleHooked sampleObject .swapChain 29
    (ShadowKind.swapChain.hooks sampleCode 29) 0 sampleRecord (newGeneration 18 96 sampleClone)
    (readTable sampleCloned 0x20100 18) where
  found := rfl
  record_eq := rfl
  object_ne := by decide
  generation_eq := sampleHooked_generation
  larger := by decide
  fits := by decide
  hooks_lt := by decide +kernel
  oldOriginals_eq := rfl
  originals := by
    unfold OriginalsUsable
    decide +kernel

/-- The slot of `Present1` holds the foreign function. -/
theorem sampleHooked_slot :
    sampleHooked.memory.readPointer (slot 0x20100 swapChainPresent1Index) =
      sampleForeignFunction := by
  decide +kernel

/-- `Present1` is hooked in an `IDXGISwapChain1`. -/
theorem samplePresent1Hook_mem : samplePresent1Hook ∈ ShadowKind.swapChain.hooks sampleCode 29 := by
  simp [ShadowKind.hooks, swapChainHooks, samplePresent1Hook, swapChainPresent1Index]

/-- The expansion of the hooked shadow succeeds. -/
theorem sampleHooked_patch :
    patchObject sampleCode sampleOutcome sampleHooked sampleObject .swapChain 29 =
      (.ok (), grownState sampleHooked 0 (newGeneration 18 96 sampleClone)
        (readTable sampleCloned 0x20100 18) 29 (ShadowKind.swapChain.hooks sampleCode 29)) := by
  -- the capacity of the clone leaves room for all 29 entries
  have hvtable : sampleHooked.memory.readPointer sampleObject ≠ 0 := by decide +kernel
  exact installShadowVtable_of_growing sampleHooked_growing hvtable rfl

/-- Whether the foreign function is reached, for the slot of `Present1`. -/
theorem reaches_after_expansion_iff_present1 :
    (patchObject sampleCode sampleOutcome sampleHooked sampleObject .swapChain 29).2.CallReaches
      sampleCode sampleObject .swapChain samplePresent1Hook.index sampleForeignFunction ↔
    samplePresent1Hook.index < sampleRecord.entryCount ∨ sampleRecord.liveRootSlots = false ∨
    sampleRecord.currentRoot sampleHooked.memory samplePresent1Hook.index = 0 ∨
    shadowReplacement sampleCode .swapChain samplePresent1Hook.index =
      some (sampleRecord.currentRoot sampleHooked.memory samplePresent1Hook.index) ∨
    sampleRecord.currentRoot sampleHooked.memory samplePresent1Hook.index =
      sampleForeignFunction := by
  have hlarger : (newGeneration 18 96 sampleClone).entryCount < 29 := by decide
  have hne : sampleForeignFunction ≠ 0 := by decide
  have hforeign : sampleForeignFunction ≠ samplePresent1Hook.replacement := by decide
  have hok := congrArg Prod.fst sampleHooked_patch
  exact reaches_after_expansion_iff sampleHooked_reachable rfl rfl sampleHooked_generation hlarger
    hok samplePresent1Hook_mem sampleHooked_slot hne hforeign

/-- **A foreign hook is lost.** The expansion succeeds, and no call reaches the function that
was in the slot. -/
theorem expansion_loses_foreign_hook :
    (shadowSystem sampleCode).ReachableWhere (fun s a => a.AllocatesUnused s) sampleHooked ∧
    sampleHooked.findShadowRecord sampleObject .swapChain = some 0 ∧
    sampleHooked.records[0]? = some sampleRecord ∧
    sampleRecord.findShadowGeneration (sampleHooked.memory.readPointer sampleObject) =
      some (newGeneration 18 96 sampleClone) ∧
    samplePresent1Hook ∈ ShadowKind.swapChain.hooks sampleCode 29 ∧
    sampleHooked.memory.readPointer (slot 0x20100 samplePresent1Hook.index) =
      sampleForeignFunction ∧
    sampleForeignFunction ≠ samplePresent1Hook.replacement ∧
    (patchObject sampleCode sampleOutcome sampleHooked sampleObject .swapChain 29).1 = .ok () ∧
    ¬ (patchObject sampleCode sampleOutcome sampleHooked sampleObject .swapChain 29).2.CallReaches
      sampleCode sampleObject .swapChain samplePresent1Hook.index sampleForeignFunction := by
  have hforeign : sampleForeignFunction ≠ samplePresent1Hook.replacement := by decide
  refine ⟨sampleHooked_reachable, rfl, rfl, sampleHooked_generation, samplePresent1Hook_mem,
    sampleHooked_slot, hforeign, congrArg Prod.fst sampleHooked_patch, ?_⟩
  rw [sampleHooked_patch, sampleHooked_growing.callReaches_iff sampleHooked_reachable
    sampleOutcome samplePresent1Hook_mem sampleHooked_slot (by decide) hforeign]
  -- the root still holds the function that the swap chain was created with
  have hroot : sampleRecord.currentRoot sampleHooked.memory samplePresent1Hook.index =
      0x0101010101010101 := by decide +kernel
  rw [hroot]
  decide

end Shadow
end WindowedHdr
