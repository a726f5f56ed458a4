import WindowedHdr.Library.ActionSystem
import WindowedHdr.Shadow.Effect

/-!
# Whole operations on shadows

`shadowSystem code` runs the operations on shadows one after the other, in any order and on
any objects: an installation through `patch_factory` or `patch_swap_chain`, a call of
`Release` through its hook, a write of another module to any address, and what the other
hooks and `capture_swap_chain` record for a swap chain that has an active record. An object
whose address is reused is a write to that address.

`step_recordsFollow` says once what a step can do to a record: keep it, retire it, or let it grow.
Two invariants follow, and carry the later modules:

* **well-formedness** — a record has as many saved functions as entries, those of its hooked
  slots can be called and are not the replacement, and its generations are sizes of one
  table, the newest being the current one;
* **uniqueness** — an object has at most one active record of a kind.
-/

namespace WindowedHdr
namespace Shadow

open ByteMemory Dxgi

variable (code : HookFunction → UInt64)

/-- One whole operation. -/
inductive ShadowAction
  /-- `patch_factory` or `patch_swap_chain`. -/
  | patch (object : UInt64) (kind : ShadowKind) (entryCount : Nat) (o : InstallOutcome)
  /-- `release_shadow_object`; the native call returns `remaining`. -/
  | release (object : UInt64) (kind : ShadowKind) (remaining : UInt32)
  /-- Another module writes a pointer. -/
  | write (address value : UInt64)
  /-- A hook, or `ensure_swap_chain_state`, updates what is kept for a swap chain. -/
  | updateState (object : UInt64) (f : SwapChainState → SwapChainState)
  /-- `note_active_swap_chain`. -/
  | noteActive (object : UInt64)
  /-- `note_active_swap_chain_reconfigured`. -/
  | noteReconfigured (object : UInt64)

/-- The system of whole operations. -/
def shadowSystem : ActionSystem ShadowState ShadowAction where
  Init s := s.records = [] ∧ (∀ object, s.swapChainStates object = none) ∧
    s.activeSwapChain = 0 ∧ s.activeSwapChainRevision = 1
  step s
    | .patch object kind entryCount o => some (patchObject code o s object kind entryCount).2
    | .release object kind remaining => some (releaseShadowObject remaining s object kind).2
    -- also the game itself, where an object is created or its address reused
    | .write address value => some { s with memory := s.memory.writePointer address value }
    | .updateState object f =>
      -- a hook of a swap chain has looked its record up before
      if (s.findShadowRecord object .swapChain).isSome then
        some (s.updateSwapChainState object f)
      else
        none
    | .noteActive object =>
      if (s.findShadowRecord object .swapChain).isSome then
        some (s.noteActiveSwapChain object)
      else
        none
    | .noteReconfigured object =>
      if (s.findShadowRecord object .swapChain).isSome then
        some (s.noteActiveSwapChainReconfigured object)
      else
        none

/-! ### What one step does to the records -/

/-- What the operation `a` makes of a record. -/
inductive RecordStep (s : ShadowState) (a : ShadowAction) : ShadowRecord → ShadowRecord → Prop
  | kept (r : ShadowRecord) : RecordStep s a r r
  | retired (r : ShadowRecord) : a = .release r.object r.kind 0 → RecordStep s a r r.retire
  | grown (object : UInt64) (kind : ShadowKind) (entryCount : Nat) (o : InstallOutcome) (i : Nat)
      (r : ShadowRecord) (generation : ShadowGeneration) (oldOriginals : List UInt64) :
      a = .patch object kind entryCount o →
      GrowingShadow s object kind entryCount (kind.hooks code entryCount) i r generation
        oldOriginals →
      RecordStep s a r (r.expand entryCount
        (expandedOriginals s.memory generation oldOriginals entryCount) generation)

/-- A record that the operation `a` publishes. -/
inductive NewRecord (s : ShadowState) (a : ShadowAction) : ShadowRecord → Prop
  | lost (o : InstallOutcome) (object : UInt64) (kind : ShadowKind) (entryCount : Nat)
      (root : UInt64) (clone : Windows.ClonedRegion) (entryCapacity : Nat)
      (cloned : ByteMemory) :
      a = .patch object kind entryCount o →
      FreshShadow o s object kind entryCount (kind.hooks code entryCount) root clone
        entryCapacity cloned →
      NewRecord s a (newRecord o object kind entryCount root clone cloned).retire
  | installed (o : InstallOutcome) (object : UInt64) (kind : ShadowKind) (entryCount : Nat)
      (root : UInt64) (clone : Windows.ClonedRegion) (entryCapacity : Nat)
      (cloned : ByteMemory) :
      a = .patch object kind entryCount o →
      (patchObject code o s object kind entryCount).1 = .ok () →
      FreshShadow o s object kind entryCount (kind.hooks code entryCount) root clone
        entryCapacity cloned →
      NewRecord s a
        ((newRecord o object kind entryCount root clone cloned).publishShadowGeneration
          (newGeneration entryCount entryCapacity clone))

/-- The records of `s'` are those of `s` after a `RecordStep`, and perhaps one more. -/
structure RecordsFollow (s : ShadowState) (a : ShadowAction) (s' : ShadowState) : Prop where
  old : ∀ (i : Nat) (r : ShadowRecord), s.records[i]? = some r →
    ∃ r', s'.records[i]? = some r' ∧ RecordStep code s a r r'
  new : ∀ (i : Nat) (r' : ShadowRecord), s'.records[i]? = some r' →
    (∃ r, s.records[i]? = some r ∧ RecordStep code s a r r') ∨
      s.records.length = i ∧ NewRecord code s a r'

variable {code} {s s' : ShadowState} {a : ShadowAction}

/-- The records evolve step by step. -/
theorem recordsFollow_iff :
    RecordsFollow code s a s' ↔
      NewestFirst.Evolves (RecordStep code s a) (NewRecord code s a) s.records s'.records :=
  ⟨fun h => ⟨h.old, h.new⟩, fun h => ⟨h.old, h.new⟩⟩

/-- The records follow when they are left alone. -/
theorem RecordsFollow.of_eq (h : s'.records = s.records) : RecordsFollow code s a s' :=
  recordsFollow_iff.mpr (.of_eq .kept h)

/-- The records follow when a new one is published. -/
theorem RecordsFollow.of_append {r : ShadowRecord} (h : s'.records = s.records ++ [r])
    (hr : NewRecord code s a r) : RecordsFollow code s a s' :=
  recordsFollow_iff.mpr (.of_append .kept h hr)

/-- The records follow when one of them takes a step. -/
theorem RecordsFollow.of_modify {i : Nat} {f : ShadowRecord → ShadowRecord}
    (h : s'.records = s.records.modify i f)
    (hf : ∀ r, s.records[i]? = some r → RecordStep code s a r (f r)) :
    RecordsFollow code s a s' :=
  recordsFollow_iff.mpr (.of_modify .kept h hf)

/-- The outcomes of an installation that reports success. -/
theorem installEffect_of_patch_ok {o : InstallOutcome} {object : UInt64} {kind : ShadowKind}
    {entryCount : Nat} (hok : (patchObject code o s object kind entryCount).1 = .ok ()) :
    InstallEffect o s object kind entryCount (kind.hooks code entryCount) (.ok ())
      (patchObject code o s object kind entryCount).2 :=
  installEffect_of_install (Prod.ext hok rfl)

/-- What an installation does to the records. -/
theorem recordsFollow_of_effect {o : InstallOutcome} {object : UInt64} {kind : ShadowKind}
    {entryCount : Nat} {result : Except String Unit}
    (ha : a = .patch object kind entryCount o)
    (hresult : (patchObject code o s object kind entryCount).1 = result)
    (h : InstallEffect o s object kind entryCount (kind.hooks code entryCount) result s') :
    RecordsFollow code s a s' := by
  cases h with
  | rejected => exact .of_eq rfl
  | kept => exact .of_eq rfl
  | abandoned => exact .of_eq rfl
  -- a lost exchange leaves a retired record behind
  | lost _ root clone entryCapacity cloned _ hfresh =>
    exact .of_append rfl
      (.lost o object kind entryCount root clone entryCapacity cloned ha hfresh)
  | installed root clone entryCapacity cloned hfresh =>
    exact .of_append rfl
      (.installed o object kind entryCount root clone entryCapacity cloned ha hresult hfresh)
  | expanded _ i record generation oldOriginals hgrow =>
    -- the record that grows is the one that was found
    refine .of_modify rfl fun r hr => ?_
    obtain rfl := Option.some.inj (hgrow.record_eq.symm.trans hr)
    exact .grown object kind entryCount o i record generation oldOriginals ha hgrow

/-- Retirement is seen in one record; the rest of it is outside of the records. -/
theorem retireShadowObject_records (s : ShadowState) (i : Nat) (object : UInt64)
    (kind : ShadowKind) :
    (s.retireShadowObject i object kind).records = s.records.modify i ShadowRecord.retire := by
  cases kind with
  | factory => rfl
  | swapChain =>
    simp only [ShadowState.retireShadowObject, ShadowState.removeSwapChainState,
      ShadowState.clearActiveSwapChain]
    split <;> rfl

/-- A release retires the record that is found, and only when no reference remains. -/
theorem releaseShadowObject_records (remaining : UInt32) (s : ShadowState) (object : UInt64)
    (kind : ShadowKind) :
    (releaseShadowObject remaining s object kind).2.records = s.records ∨
      ∃ i, remaining = 0 ∧ s.findShadowRecord object kind = some i ∧
        (releaseShadowObject remaining s object kind).2.records =
          s.records.modify i ShadowRecord.retire := by
  rw [releaseShadowObject]
  -- along the branches of the hook: no record, no saved function, references left, the last one
  cases hfound : s.findShadowRecord object kind with
  | none => exact .inl rfl
  | some i =>
    simp only
    split
    · exact .inl rfl
    · simp only
      split
      · next hzero => exact .inr ⟨i, hzero, rfl, retireShadowObject_records s i object kind⟩
      · exact .inl rfl

/-- **What a step does to the records.** -/
theorem step_recordsFollow (h : (shadowSystem code).step s a = some s') :
    RecordsFollow code s a s' := by
  cases a with
  | patch object kind entryCount o =>
    obtain rfl := Option.some.inj h
    exact recordsFollow_of_effect rfl rfl (installEffect_of_install rfl)
  | release object kind remaining =>
    obtain rfl := Option.some.inj h
    obtain heq | ⟨i, rfl, hfound, heq⟩ := releaseShadowObject_records remaining s object kind
    · exact .of_eq heq
    -- the record that is retired is one of the object and kind
    · refine .of_modify heq fun r hr => .retired r ?_
      obtain ⟨r', hr', rfl, rfl, -⟩ := ShadowState.exists_of_findShadowRecord hfound
      obtain rfl := Option.some.inj (hr.symm.trans hr')
      rfl
  | write address value =>
    obtain rfl := Option.some.inj h
    exact .of_eq rfl
  | updateState object f =>
    rw [shadowSystem, Option.ite_none_right_eq_some] at h
    obtain rfl := Option.some.inj h.2
    exact .of_eq rfl
  -- the rest is kept in other globals
  | noteActive object =>
    rw [shadowSystem, Option.ite_none_right_eq_some] at h
    obtain rfl := Option.some.inj h.2
    rw [ShadowState.noteActiveSwapChain]
    split <;> exact .of_eq rfl
  | noteReconfigured object =>
    rw [shadowSystem, Option.ite_none_right_eq_some] at h
    obtain rfl := Option.some.inj h.2
    rw [ShadowState.noteActiveSwapChainReconfigured]
    split <;> exact .of_eq rfl

/-- **The invariant rule for records.** What every published record has, and every step of a
record keeps, holds of all records of a run whose operations meet `P`. -/
theorem forall_records_of_reachable {P : ShadowState → ShadowAction → Prop}
    {Q : ShadowRecord → Prop}
    (hstep : ∀ s a r r', P s a → RecordStep code s a r r' → Q r → Q r')
    (hnew : ∀ s a r, P s a → NewRecord code s a r → Q r) {s : ShadowState}
    (h : (shadowSystem code).ReachableWhere P s) :
    ∀ (i : Nat) (r : ShadowRecord), s.records[i]? = some r → Q r := by
  refine h.invariant (I := fun s => ∀ (i : Nat) (r : ShadowRecord), s.records[i]? = some r →
    Q r) ?_ ?_
  · rintro s ⟨hrecords, -⟩ i r hr
    rw [hrecords] at hr
    exact nomatch hr
  · intro s a s' ih hP hs i r' hr'
    -- a record of the new state was there before, or has just been published
    obtain ⟨r, hr, hr'⟩ | ⟨-, hr'⟩ := (step_recordsFollow hs).new i r' hr'
    · exact hstep s a r r' hP hr' (ih i r hr)
    · exact hnew s a r' hP hr'

/-! ### Well-formed records -/

/-- The sizes that a record keeps fit together. -/
structure ShadowRecord.Sized (record : ShadowRecord) : Prop where
  /-- As many functions are saved as there are entries. -/
  saved : ∃ originals, record.originals = some originals ∧
    originals.length = record.entryCount
  /-- The generations are sizes of one table. -/
  oneTable : ∀ g ∈ record.generations, ∀ g' ∈ record.generations, g.vtable = g'.vtable
  /-- The newest generation has the current size. -/
  newest : ∀ g ∈ record.generations.head?, g.entryCount = record.entryCount

/-- What holds of every record. -/
structure ShadowRecord.WellFormed (code : HookFunction → UInt64) (record : ShadowRecord) :
    Prop where
  /-- As many functions are saved as there are entries, and the hooked ones are usable. -/
  saved : ∃ originals, record.originals = some originals ∧
    originals.length = record.entryCount ∧
    OriginalsUsable (record.kind.hooks code record.entryCount) originals
  /-- The generations are sizes of one table. -/
  oneTable : ∀ g ∈ record.generations, ∀ g' ∈ record.generations, g.vtable = g'.vtable
  /-- The newest generation has the current size. -/
  newest : ∀ g ∈ record.generations.head?, g.entryCount = record.entryCount

variable {r : ShadowRecord} {g : ShadowGeneration} {v : UInt64}

/-- A well formed record has sizes that fit together. -/
theorem ShadowRecord.WellFormed.sized (hr : r.WellFormed code) : r.Sized := by
  obtain ⟨originals, horiginals, hlength, -⟩ := hr.saved
  exact ⟨⟨originals, horiginals, hlength⟩, hr.oneTable, hr.newest⟩

/-- The generation that is found is the newest one. -/
theorem ShadowRecord.Sized.findShadowGeneration (hr : r.Sized)
    (hg : r.findShadowGeneration v = some g) : r.generations.head? = some g ∧ g.vtable = v := by
  have hv : g.vtable = v := by simpa using List.find?_some hg
  have hmem : g ∈ r.generations := List.mem_of_find?_eq_some hg
  refine ⟨?_, hv⟩
  cases hgens : r.generations with
  | nil =>
    rw [hgens] at hmem
    exact nomatch hmem
  | cons g₀ gs =>
    -- the head has the vtable that is looked for, so the search stops there
    have hg₀ : g₀.vtable = v := by
      rw [← hv]
      exact hr.oneTable g₀ (by simp [hgens]) g hmem
    rw [ShadowRecord.findShadowGeneration, hgens, List.find?_cons_of_pos (by simp [hg₀])] at hg
    rw [List.head?_cons, hg]

/-- The record that grows is the active one of its object. -/
theorem GrowingShadow.isFor {object : UInt64} {kind : ShadowKind} {entryCount i : Nat}
    {hooks : List VtableHook} {oldOriginals : List UInt64}
    (h : GrowingShadow s object kind entryCount hooks i r g oldOriginals) :
    r.object = object ∧ r.kind = kind ∧ r.active = true := by
  obtain ⟨r', hr', hfor⟩ := ShadowState.exists_of_findShadowRecord h.found
  obtain rfl := Option.some.inj (h.record_eq.symm.trans hr')
  exact hfor

/-- The saved functions of a larger shadow start with those that were saved before. -/
theorem GrowingShadow.expandedOriginals_eq {object : UInt64} {kind : ShadowKind}
    {entryCount i : Nat} {hooks : List VtableHook} {oldOriginals : List UInt64}
    (h : GrowingShadow s object kind entryCount hooks i r g oldOriginals) (hr : r.Sized) :
    g.entryCount = r.entryCount ∧ oldOriginals.length = r.entryCount ∧
      expandedOriginals s.memory g oldOriginals entryCount =
        oldOriginals ++ (readTable s.memory g.vtable entryCount).drop r.entryCount := by
  obtain ⟨hhead, -⟩ := hr.findShadowGeneration h.generation_eq
  have hcount : g.entryCount = r.entryCount := hr.newest g hhead
  obtain ⟨originals, horiginals, hlength⟩ := hr.saved
  obtain rfl := Option.some.inj (h.oldOriginals_eq.symm.trans horiginals)
  refine ⟨hcount, hlength, ?_⟩
  rw [expandedOriginals, hcount, List.take_of_length_le (Nat.le_of_eq hlength)]

/-- A larger shadow has the sizes of its record. -/
theorem GrowingShadow.sized {object : UInt64} {kind : ShadowKind} {entryCount i : Nat}
    {hooks : List VtableHook} {oldOriginals : List UInt64}
    (h : GrowingShadow s object kind entryCount hooks i r g oldOriginals) (hr : r.Sized) :
    (r.expand entryCount (expandedOriginals s.memory g oldOriginals entryCount) g).Sized := by
  obtain ⟨hcount, hlength, heq⟩ := h.expandedOriginals_eq hr
  obtain ⟨hhead, -⟩ := hr.findShadowGeneration h.generation_eq
  have hlarger := h.larger
  have hmem : g ∈ r.generations := List.mem_of_mem_head? (by simp [hhead])
  refine ⟨⟨_, rfl, ?_⟩, ?_, ?_⟩
  · calc (expandedOriginals s.memory g oldOriginals entryCount).length
        = r.entryCount + (entryCount - r.entryCount) := by
          rw [heq, List.length_append, List.length_drop, length_readTable, hlength]
      _ = entryCount := by omega
  · -- the new generation is the old one with more entries
    intro g₁ hg₁ g₂ hg₂
    have hvtable : ∀ g' ∈ (r.expand entryCount
        (expandedOriginals s.memory g oldOriginals entryCount) g).generations,
        g'.vtable = g.vtable := by
      intro g' hg'
      obtain rfl | hg' := List.mem_cons.mp hg'
      · rfl
      · exact hr.oneTable g' hg' g hmem
    rw [hvtable g₁ hg₁, hvtable g₂ hg₂]
  · intro g' hg'
    obtain rfl := Option.some.inj hg'
    rfl

section NewRecord

variable (o : InstallOutcome) (object root : UInt64) (kind : ShadowKind)
  (entryCount entryCapacity : Nat) (clone : Windows.ClonedRegion) (cloned : ByteMemory)

/-- The record of a lost exchange has sizes that fit together. -/
theorem sized_lost : (newRecord o object kind entryCount root clone cloned).retire.Sized where
  saved := ⟨_, rfl, length_readTable _ _ _⟩
  oneTable := by simp [newRecord, freshRecord, ShadowRecord.retire]
  newest := by simp [newRecord, freshRecord, ShadowRecord.retire]

/-- So has the record of an installation that succeeded. -/
theorem sized_installed :
    ((newRecord o object kind entryCount root clone cloned).publishShadowGeneration
      (newGeneration entryCount entryCapacity clone)).Sized where
  saved := ⟨_, rfl, length_readTable _ _ _⟩
  oneTable := by
    intro g₁ hg₁ g₂ hg₂
    rw [List.mem_singleton.mp hg₁, List.mem_singleton.mp hg₂]
  newest := by
    intro g' hg'
    obtain rfl := Option.some.inj hg'
    rfl

end NewRecord

/-- A step keeps a record well formed. -/
theorem RecordStep.wellFormed {r r' : ShadowRecord} (h : RecordStep code s a r r')
    (hr : r.WellFormed code) : r'.WellFormed code := by
  cases h with
  | kept => exact hr
  | retired => exact ⟨hr.saved, hr.oneTable, hr.newest⟩
  | grown object kind entryCount _ i _ g oldOriginals _ hgrow =>
    have hsized := hgrow.sized hr.sized
    obtain ⟨originals, horiginals, hlength⟩ := hsized.saved
    obtain ⟨-, hkind, -⟩ := hgrow.isFor
    refine ⟨⟨originals, horiginals, hlength, ?_⟩, hsized.oneTable, hsized.newest⟩
    obtain rfl := Option.some.inj horiginals
    -- the hooks of the new size were checked against the larger table
    show OriginalsUsable (r.kind.hooks code entryCount) _
    rw [hkind]
    exact hgrow.originals

/-- A record is published well formed. -/
theorem NewRecord.wellFormed (h : NewRecord code s a r) : r.WellFormed code := by
  cases h with
  | lost o object kind entryCount root clone entryCapacity cloned _ hfresh =>
    have hsized := sized_lost o object root kind entryCount clone cloned
    exact ⟨⟨_, rfl, length_readTable _ _ _, hfresh.originals⟩, hsized.oneTable, hsized.newest⟩
  | installed o object kind entryCount root clone entryCapacity cloned _ _ hfresh =>
    have hsized := sized_installed o object root kind entryCount entryCapacity clone cloned
    exact ⟨⟨_, rfl, length_readTable _ _ _, hfresh.originals⟩, hsized.oneTable, hsized.newest⟩

/-- **Every record is well formed**, after any run. -/
theorem wellFormed_of_reachable {s : ShadowState} (h : (shadowSystem code).Reachable s) :
    ∀ (i : Nat) (r : ShadowRecord), s.records[i]? = some r → r.WellFormed code := by
  exact forall_records_of_reachable (fun _ _ _ _ _ hstep => hstep.wellFormed)
    (fun _ _ _ _ hnew => hnew.wellFormed) h

/-! ### Unique active records -/

/-- A step never changes whose record it is, and never revives one. -/
theorem RecordStep.key {r r' : ShadowRecord} (h : RecordStep code s a r r') :
    r'.object = r.object ∧ r'.kind = r.kind ∧ (r'.active = true → r.active = true) := by
  cases h with
  | kept => exact ⟨rfl, rfl, id⟩
  | retired => exact ⟨rfl, rfl, fun h => nomatch h⟩
  | grown => exact ⟨rfl, rfl, id⟩

/-- A record is published only for an object that has none. -/
theorem NewRecord.noRecord (h : NewRecord code s a r) :
    s.findShadowRecord r.object r.kind = none := by
  cases h with
  | lost _ _ _ _ _ _ _ _ _ hfresh => exact hfresh.noRecord
  | installed _ _ _ _ _ _ _ _ _ _ hfresh => exact hfresh.noRecord

/-- At most one record is active for an object and kind. -/
def ShadowState.UniqueActive (s : ShadowState) : Prop :=
  ∀ (i j : Nat) (r r' : ShadowRecord), s.records[i]? = some r → s.records[j]? = some r' →
    r.active = true → r'.active = true → r.object = r'.object → r.kind = r'.kind → i = j

/-- The two records are not both active for one object and kind. -/
def ShadowRecord.NotBothActive (r r' : ShadowRecord) : Prop :=
  r.active = true → r'.active = true → r.object = r'.object → r.kind ≠ r'.kind

/-- It does not matter which of the two records comes first. -/
theorem ShadowRecord.NotBothActive.symm {r r' : ShadowRecord} (h : r.NotBothActive r') :
    r'.NotBothActive r :=
  fun hactive' hactive hobject hkind => h hactive hactive' hobject.symm hkind.symm

/-- Uniqueness is a property of the pairs of records. -/
theorem uniqueActive_iff :
    s.UniqueActive ↔ NewestFirst.Pairwise ShadowRecord.NotBothActive s.records := by
  constructor
  · intro h i j r r' hr hr' hij hactive hactive' hobject hkind
    exact hij (h i j r r' hr hr' hactive hactive' hobject hkind)
  · intro h i j r r' hr hr' hactive hactive' hobject hkind
    by_contra hij
    exact h i j r r' hr hr' hij hactive hactive' hobject hkind

/-- A lookup finds the active record. -/
theorem ShadowState.UniqueActive.findShadowRecord (h : s.UniqueActive) {i : Nat}
    (hr : s.records[i]? = some r) (hactive : r.active = true) :
    s.findShadowRecord r.object r.kind = some i := by
  refine NewestFirst.find_eq_some_of_unique hr
    (ShadowRecord.isActiveFor_iff.mpr ⟨rfl, rfl, hactive⟩) fun j r' hr' hfor => ?_
  obtain ⟨hobject, hkind, hactive'⟩ := ShadowRecord.isActiveFor_iff.mp hfor
  exact h j i r' r hr' hr hactive' hactive hobject hkind

/-- A step keeps active records unique. -/
theorem RecordsFollow.uniqueActive (h : RecordsFollow code s a s') (hs : s.UniqueActive) :
    s'.UniqueActive := by
  rw [uniqueActive_iff] at hs ⊢
  refine (recordsFollow_iff.mp h).pairwise (fun _ _ h => h.symm) ?_ ?_ hs
  -- two old records would both have been active before
  · intro r₁ r₁' r₂ r₂' hstep₁ hstep₂ hne
    obtain ⟨hobject₁, hkind₁, hactive₁⟩ := hstep₁.key
    obtain ⟨hobject₂, hkind₂, hactive₂⟩ := hstep₂.key
    intro hactive₁' hactive₂' hobject hkind
    exact hne (hactive₁ hactive₁') (hactive₂ hactive₂') (by rw [← hobject₁, hobject, hobject₂])
      (by rw [← hkind₁, hkind, hkind₂])
  · -- an active record next to a published one contradicts the lookup before the step
    intro i r₁ r₁' r₂ hr₁ hstep₁ hnew₂
    obtain ⟨hobject₁, hkind₁, hactive₁⟩ := hstep₁.key
    intro hactive₁' _ hobject hkind
    have hfalse := ShadowState.findShadowRecord_eq_none.mp hnew₂.noRecord i r₁ hr₁
      (by rw [← hobject₁, hobject]) (by rw [← hkind₁, hkind])
    rw [hfalse] at hactive₁
    exact nomatch hactive₁ hactive₁'

/-- **At most one record is active for an object and kind**, after any run. -/
theorem uniqueActive_of_reachable {s : ShadowState} (h : (shadowSystem code).Reachable s) :
    s.UniqueActive := by
  refine h.invariant ?_ ?_
  · rintro s ⟨hrecords, -⟩ i j r r' hr
    rw [hrecords] at hr
    exact nomatch hr
  · intro s a s' ih _ hs
    -- each step keeps it, by what it does to the records
    exact (step_recordsFollow hs).uniqueActive ih

/-! ### A sample process

A process in which every pointer is `0x0101010101010101`, except that the object at `0x5000`
points at the vtable at `0x2000`, which lies in `dxgi.dll`. -/

/-- The addresses of the hooks. -/
def sampleCode (f : HookFunction) : UInt64 := 0x180001000 + 16 * UInt64.ofNat f.ctorIdx

def sampleObject : UInt64 := 0x5000

def sampleRoot : UInt64 := 0x2000

/-- The region of the vtable, which begins `0x100` bytes before it. -/
def sampleRegion : Windows.MemoryBasicInformation := ⟨0x1f00, 0x400, Windows.memCommit, 0x02⟩

/-- Every call succeeds; what is allocated lies at `allocation`. -/
def sampleOutcomeAt (allocation : UInt64) : InstallOutcome where
  clone :=
    { virtualQuery := fun _ => some sampleRegion
      virtualAlloc := fun size => if size ≤ 0x1000 then allocation else 0 }
  protectReadWrite := true
  protectReadOnly := true
  rootInDxgi := true
  interloper := none

def sampleOutcome : InstallOutcome := sampleOutcomeAt 0x20000

/-- Before anything is shadowed. -/
def sampleState : ShadowState where
  memory := writePointer (fun _ => 1) sampleObject sampleRoot
  records := []
  swapChainStates _ := none
  activeSwapChain := 0
  activeSwapChainRevision := 1

def sampleClone : Windows.ClonedRegion := ⟨⟨0x20000, by decide⟩, 0x20100, 0x400⟩

def sampleCloned : ByteMemory := Windows.fillClone sampleState.memory sampleRegion 0x20000 0

/-- The swap chain was captured as `IDXGISwapChain`. -/
def sampleShadowed : ShadowState :=
  { sampleState with
    memory := (writeHooks 0x20100 (ShadowKind.swapChain.hooks sampleCode 18)
      sampleCloned).writePointer sampleObject 0x20100
    records :=
      [(newRecord sampleOutcome sampleObject .swapChain 18 sampleRoot sampleClone
        sampleCloned).publishShadowGeneration (newGeneration 18 96 sampleClone)] }

/-- A shadow of the sample swap chain can be built. -/
theorem sampleState_fresh : FreshShadow sampleOutcome sampleState sampleObject .swapChain 18
    (ShadowKind.swapChain.hooks sampleCode 18) sampleRoot sampleClone 96 sampleCloned where
  noRecord := rfl
  object_ne := by decide
  root_ne := by decide
  root_eq := by decide +kernel
  hooks_lt := by decide +kernel
  cloneVtable := rfl
  originals := by
    unfold OriginalsUsable
    decide +kernel

/-- The first installation of the sample process succeeds. -/
theorem sampleState_install :
    installShadowVtable sampleOutcome sampleState sampleObject .swapChain swapChainVtableLength
      (ShadowKind.swapChain.hooks sampleCode swapChainVtableLength) =
        (.ok (), sampleShadowed) := by
  -- nobody else writes to the object, so it still points at the root
  have hexchange : Windows.compareExchangePointer (interlope sampleOutcome sampleObject
      (writeHooks 0x20100 (ShadowKind.swapChain.hooks sampleCode 18) sampleCloned)) sampleObject
        sampleRoot 0x20100 = (.ok true, sampleShadowed.memory) := by
    rw [Windows.compareExchangePointer, if_neg (by decide), if_pos (by decide +kernel)]
    rfl
  exact installShadowVtable_of_fresh sampleState_fresh (by decide) rfl hexchange

/-- The sample swap chain is captured in one step. -/
theorem sampleState_capture :
    (shadowSystem sampleCode).step sampleState
      (.patch sampleObject .swapChain swapChainVtableLength sampleOutcome) =
        some sampleShadowed := by
  show some (installShadowVtable sampleOutcome sampleState sampleObject .swapChain
    swapChainVtableLength (ShadowKind.swapChain.hooks sampleCode swapChainVtableLength)).2 = _
  rw [sampleState_install]

/-- The sample process starts without records. -/
theorem sampleState_init : (shadowSystem sampleCode).Init sampleState :=
  ⟨rfl, fun _ => rfl, rfl, rfl⟩

/-- The captured state is reachable. -/
theorem sampleShadowed_reachable : (shadowSystem sampleCode).Reachable sampleShadowed :=
  ActionSystem.Reachable.step (.init sampleState_init) sampleState_capture

end Shadow
end WindowedHdr
