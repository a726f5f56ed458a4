import WindowedHdr.Shadow.Dispatch
import WindowedHdr.Shadow.Separation

/-!
# Records follow object lifetimes

Records are searched by address, and an address is reused after the final release of its
object. The release therefore has to leave nothing behind that a later object at the same
address could inherit. `Gone` says that nothing is left; it holds after a release that leaves
no reference, and every operation other than an installation on the object keeps it
(`gone_of_step`).

A later installation then starts from nothing: the originals are the entries of the new root
vtable at that time, and a swap chain's state is the default one.

The proof has two halves. That nothing is left is a fact about the release and then about every
other operation, which neither revives a record nor makes a state for an address without one.
What a fresh installation starts with is read off `FreshShadow`: there is no record, so a new
one is published with the functions of the present root.
-/

namespace WindowedHdr
namespace Shadow

open ByteMemory Dxgi

variable {code : HookFunction → UInt64} {s s' : ShadowState} {a : ShadowAction}
  {object : UInt64} {kind : ShadowKind} {r : ShadowRecord}

/-! ### What an operation does outside of the records -/

/-- An object whose note was cleared is not the active swap chain. -/
theorem clearActiveSwapChain_ne (s : ShadowState) (hobject : object ≠ 0) :
    (s.clearActiveSwapChain object).activeSwapChain ≠ object := by
  rw [ShadowState.clearActiveSwapChain]
  split
  · exact hobject.symm
  · next hother => exact hother

/-- An installation changes neither the states nor the active swap chain. -/
theorem InstallEffect.globals {o : InstallOutcome} {entryCount : Nat} {hooks : List VtableHook}
    {result : Except String Unit} (h : InstallEffect o s object kind entryCount hooks result s') :
    s'.swapChainStates = s.swapChainStates ∧ s'.activeSwapChain = s.activeSwapChain := by
  cases h <;> exact ⟨rfl, rfl⟩

/-- A release only removes: a state is kept or gone, and the active swap chain stays or is
cleared. -/
theorem releaseShadowObject_globals (remaining : UInt32) (s : ShadowState) (object other : UInt64)
    (kind : ShadowKind) :
    ((releaseShadowObject remaining s object kind).2.swapChainStates other =
        s.swapChainStates other ∨
      (releaseShadowObject remaining s object kind).2.swapChainStates other = none) ∧
    ((releaseShadowObject remaining s object kind).2.activeSwapChain = s.activeSwapChain ∨
      (releaseShadowObject remaining s object kind).2.activeSwapChain = 0) := by
  rw [releaseShadowObject]
  split
  · exact ⟨.inl rfl, .inl rfl⟩
  split
  · exact ⟨.inl rfl, .inl rfl⟩
  simp only
  split
  · -- the last reference is gone: of a swap chain, the state goes with the record
    cases kind with
    | factory => exact ⟨.inl rfl, .inl rfl⟩
    | swapChain =>
      simp only [ShadowState.retireShadowObject, ShadowState.removeSwapChainState,
        ShadowState.clearActiveSwapChain]
      constructor
      · by_cases heq : other = object
        · right
          rw [heq, Function.update_self]
        · left
          rw [Function.update_of_ne heq]
          split <;> rfl
      · split
        · exact .inr rfl
        · exact .inl rfl
  · exact ⟨.inl rfl, .inl rfl⟩

/-- **What a step does to the globals.** Only a hook of a swap chain with an active record
adds a state or makes it the active swap chain. -/
theorem step_globals (h : (shadowSystem code).step s a = some s') (other : UInt64) :
    (s'.swapChainStates other = s.swapChainStates other ∨ s'.swapChainStates other = none ∨
      (s.findShadowRecord other .swapChain).isSome = true) ∧
    (s'.activeSwapChain = s.activeSwapChain ∨ s'.activeSwapChain = 0 ∨
      (s.findShadowRecord s'.activeSwapChain .swapChain).isSome = true) := by
  cases a with
  | patch object kind entryCount o =>
    obtain rfl := Option.some.inj h
    have heffect : InstallEffect o s object kind entryCount (kind.hooks code entryCount) _
        (patchObject code o s object kind entryCount).2 := installEffect_of_install rfl
    obtain ⟨hstates, hactive⟩ := heffect.globals
    exact ⟨.inl (congrFun hstates other), .inl hactive⟩
  | release object kind remaining =>
    obtain rfl := Option.some.inj h
    -- a release can only clear
    obtain ⟨hstates | hstates, hactive⟩ := releaseShadowObject_globals remaining s object other kind
    · exact ⟨.inl hstates, hactive.imp_right .inl⟩
    · exact ⟨.inr (.inl hstates), hactive.imp_right .inl⟩
  | write address value =>
    obtain rfl := Option.some.inj h
    exact ⟨.inl rfl, .inl rfl⟩
  | updateState object f =>
    rw [shadowSystem, Option.ite_none_right_eq_some] at h
    obtain ⟨hguard, h⟩ := h
    obtain rfl := Option.some.inj h
    refine ⟨?_, .inl rfl⟩
    -- the guard of the step is the record that the state needs
    by_cases heq : other = object
    · subst heq
      exact .inr (.inr hguard)
    · exact .inl (Function.update_of_ne heq _ _)
  | noteActive object =>
    rw [shadowSystem, Option.ite_none_right_eq_some] at h
    obtain ⟨hguard, h⟩ := h
    obtain rfl := Option.some.inj h
    -- the note is made only for a swap chain with a record
    rw [ShadowState.noteActiveSwapChain]
    split
    · exact ⟨.inl rfl, .inl rfl⟩
    · exact ⟨.inl rfl, .inr (.inr hguard)⟩
  | noteReconfigured object =>
    rw [shadowSystem, Option.ite_none_right_eq_some] at h
    obtain rfl := Option.some.inj h.2
    rw [ShadowState.noteActiveSwapChainReconfigured]
    split <;> exact ⟨.inl rfl, .inl rfl⟩

/-! ### Objects are not null -/

/-- No record is that of a null pointer. -/
theorem object_ne_of_reachable (h : (shadowSystem code).Reachable s) :
    ∀ (i : Nat) (r : ShadowRecord), s.records[i]? = some r → r.object ≠ 0 := by
  -- a step keeps the address of a record, and a new record is that of an object that was read
  refine forall_records_of_reachable ?_ ?_ h
  · intro s a r r' _ hstep hr
    rw [hstep.key.1]
    exact hr
  · intro s a r _ hnew
    cases hnew with
    | lost _ _ _ _ _ _ _ _ _ hfresh => exact hfresh.object_ne
    | installed _ _ _ _ _ _ _ _ _ _ hfresh => exact hfresh.object_ne

/-! ### Nothing is left -/

/-- The operation is a successful installation on the object. -/
def ShadowAction.Installs (code : HookFunction → UInt64) (s : ShadowState) (object : UInt64)
    (kind : ShadowKind) : ShadowAction → Prop
  | .patch object' kind' entryCount o => object' = object ∧ kind' = kind ∧
    (patchObject code o s object' kind' entryCount).1 = .ok ()
  | _ => False

/-- Nothing is kept for an object. -/
structure ShadowState.Gone (s : ShadowState) (object : UInt64) (kind : ShadowKind) : Prop where
  noRecord : s.findShadowRecord object kind = none
  noState : kind = .swapChain → s.swapChainStates object = none
  notActive : kind = .swapChain → s.activeSwapChain ≠ object

/-- An active record is published only by a successful installation. -/
theorem NewRecord.installs (h : NewRecord code s a r) (hactive : r.active = true) :
    a.Installs code s r.object r.kind := by
  cases h with
  | lost => exact nomatch hactive
  | installed _ _ _ _ _ _ _ _ hpatch hok =>
    subst hpatch
    exact ⟨rfl, rfl, hok⟩

/-- Only an installation makes a record appear. -/
theorem RecordsFollow.noRecord (h : RecordsFollow code s a s')
    (hs : s.findShadowRecord object kind = none) (ha : ¬ a.Installs code s object kind) :
    s'.findShadowRecord object kind = none := by
  rw [ShadowState.findShadowRecord_eq_none] at hs ⊢
  -- a record that was there before stays inactive, and a new one is active only if installed
  intro i r' hr' hobject hkind
  obtain ⟨r, hr, hstep⟩ | ⟨-, hnew⟩ := h.new i r' hr'
  · obtain ⟨hobject', hkind', hactive⟩ := hstep.key
    have hfalse := hs i r hr (hobject' ▸ hobject) (hkind' ▸ hkind)
    by_contra htrue
    rw [hactive (eq_true_of_ne_false htrue)] at hfalse
    exact nomatch hfalse
  · by_contra htrue
    have hinstalls := hnew.installs (eq_true_of_ne_false htrue)
    rw [hobject, hkind] at hinstalls
    exact ha hinstalls

/-- **Nothing comes back** but through an installation. -/
theorem gone_of_step (hobject : object ≠ 0) (hs : s.Gone object kind)
    (ha : ¬ a.Installs code s object kind) (h : (shadowSystem code).step s a = some s') :
    s'.Gone object kind := by
  obtain ⟨hstates, hactive⟩ := step_globals h object
  refine ⟨(step_recordsFollow h).noRecord hs.noRecord ha, ?_, ?_⟩
  · rintro rfl
    obtain heq | hnone | hguard := hstates
    · rw [heq, hs.noState rfl]
    · exact hnone
    -- a hook that would add a state has found no record
    · rw [hs.noRecord] at hguard
      exact nomatch hguard
  · rintro rfl hsame
    obtain heq | hzero | hguard := hactive
    · exact hs.notActive rfl (heq ▸ hsame)
    · exact hobject (hsame.symm.trans hzero)
    · rw [hsame, hs.noRecord] at hguard
      exact nomatch hguard

/-- Every hook list hooks `Release`. -/
theorem exists_release_hook (code : HookFunction → UInt64) (kind : ShadowKind)
    (entryCount : Nat) :
    ∃ hook ∈ kind.hooks code entryCount, hook.index = unknownReleaseIndex := by
  -- `Release` stands second among the hooks of either kind, before the optional groups
  cases kind with
  | factory => exact ⟨_, List.mem_append_left _ (.tail _ (.head _)), rfl⟩
  | swapChain =>
    refine ⟨_, List.mem_append_left _ (List.mem_append_left _ (List.mem_append_left _
      (List.mem_append_left _ (.tail _ (.head _))))), rfl⟩

/-- The last release of an object retires its record. -/
theorem releaseShadowObject_last (hs : (shadowSystem code).Reachable s) {i : Nat}
    (hfound : s.findShadowRecord object kind = some i) :
    releaseShadowObject 0 s object kind = (0, s.retireShadowObject i object kind) := by
  obtain ⟨record, hrecord, rfl, rfl, -⟩ := ShadowState.exists_of_findShadowRecord hfound
  -- the release forwards only if the record has saved a `Release`, which a well-formed one has
  obtain ⟨hook, hhook, hindex⟩ := exists_release_hook code record.kind record.entryCount
  obtain ⟨f, hf, -⟩ := (wellFormed_of_reachable hs i record hrecord).saved_hooked hhook
  rw [hindex] at hf
  simp only [releaseShadowObject, hfound, hrecord, Option.bind_some, hf, if_true]

/-- A retired record is not found, and there is no other. -/
theorem noRecord_of_retired (hs : s.UniqueActive) {i : Nat}
    (hfound : s.findShadowRecord object kind = some i)
    (h : s'.records = s.records.modify i ShadowRecord.retire) :
    s'.findShadowRecord object kind = none := by
  obtain ⟨record, hrecord, rfl, rfl, hactive⟩ := ShadowState.exists_of_findShadowRecord hfound
  refine ShadowState.findShadowRecord_eq_none.mpr fun j r hr hobject hkind => ?_
  rw [h, List.getElem?_modify, Option.map_eq_map, Option.map_eq_some_iff] at hr
  obtain ⟨r₀, hr₀, rfl⟩ := hr
  by_cases hij : i = j
  · rw [if_pos hij]
    rfl
  · -- another active record would be a second one
    rw [if_neg hij] at hobject hkind ⊢
    by_contra hactive'
    exact hij (hs i j record r₀ hrecord hr₀ hactive (eq_true_of_ne_false hactive') hobject.symm
      hkind.symm)

/-- **The last release leaves nothing.** -/
theorem gone_after_release (hs : (shadowSystem code).Reachable s) {i : Nat}
    (hfound : s.findShadowRecord object kind = some i) :
    (releaseShadowObject 0 s object kind).2.Gone object kind := by
  obtain ⟨record, hrecord, hobject, -⟩ := ShadowState.exists_of_findShadowRecord hfound
  -- the note of the active swap chain is cleared to null, which no object is
  have hne := object_ne_of_reachable hs i record hrecord
  rw [hobject] at hne
  rw [releaseShadowObject_last hs hfound]
  refine ⟨noRecord_of_retired (uniqueActive_of_reachable hs) hfound
    (retireShadowObject_records s i object kind), ?_, ?_⟩
  · rintro rfl
    exact Function.update_self _ _ _
  · rintro rfl
    show (ShadowState.clearActiveSwapChain _ object).activeSwapChain ≠ object
    exact clearActiveSwapChain_ne _ hne

/-- Nothing comes back before the next installation. -/
theorem gone_until_installed (hobject : object ≠ 0) (hs : s.Gone object kind)
    (h : (shadowSystem code).LeadsToWhere (fun s a => ¬ a.Installs code s object kind) s s') :
    s'.Gone object kind :=
  h.stable (fun _ _ _ hgone ha hstep => gone_of_step hobject hgone ha hstep) hs

/-! ### Starting from nothing -/

/-- The record that a successful installation makes for an object without one. -/
theorem fresh_of_patch_ok {o : InstallOutcome} {entryCount : Nat}
    (hs : (shadowSystem code).Reachable s) (hnone : s.findShadowRecord object kind = none)
    (ho : o.AllocatesUnused s.memory object)
    (hok : (patchObject code o s object kind entryCount).1 = .ok ()) :
    ∃ i record, (patchObject code o s object kind entryCount).2.findShadowRecord object kind =
        some i ∧
      (patchObject code o s object kind entryCount).2.records[i]? = some record ∧
      record.entryCount = entryCount ∧
      record.rootOriginalVtable = s.memory.readPointer object ∧
      record.originals =
        some (readTable s.memory (s.memory.readPointer object) entryCount) := by
  have hreachable : (shadowSystem code).Reachable (patchObject code o s object kind entryCount).2 :=
    hs.step (a := .patch object kind entryCount o) rfl
  have hunique := uniqueActive_of_reachable hreachable
  have heffect := installEffect_of_patch_ok hok
  generalize (patchObject code o s object kind entryCount).2 = s' at hunique heffect
  cases heffect with
  | kept i hfound =>
    -- no record was found before, so nothing is kept and nothing grows
    rw [hnone] at hfound
    exact nomatch hfound
  | expanded _ i _ _ _ hgrow =>
    have hfound := hgrow.found
    rw [hnone] at hfound
    exact nomatch hfound
  | installed root clone entryCapacity cloned hfresh =>
    -- the new record is the last one, and the lookup finds it since it is the only active one
    have hfound := hunique.findShadowRecord List.getElem?_concat_length rfl
    refine ⟨s.records.length, _, hfound, List.getElem?_concat_length, rfl, ?_, ?_⟩
    · exact hfresh.root_eq.symm
    -- the originals are read through the clone, which holds what the root holds
    · rw [hfresh.root_eq, ← hfresh.readTable_eq ho]
      rfl

/-- **Records follow object lifetimes.** After any run: an object has at most one active
record of a kind; a release that leaves references changes nothing; after one that leaves
none, nothing is found or kept for the object until it is installed again; and what is then
installed saves the entries of the vtable that the object has at that time, with a default
state for a swap chain. -/
theorem records_follow_lifetimes (hs : (shadowSystem code).Reachable s) :
    (∀ (i j : Nat) (r r' : ShadowRecord), s.records[i]? = some r → s.records[j]? = some r' →
      r.active = true → r'.active = true → r.object = r'.object → r.kind = r'.kind → i = j) ∧
    (∀ (object : UInt64) (kind : ShadowKind) (remaining : UInt32), remaining ≠ 0 →
      (releaseShadowObject remaining s object kind).2 = s) ∧
    ∀ (object : UInt64) (kind : ShadowKind) (i : Nat), s.findShadowRecord object kind = some i →
      ∀ s', (shadowSystem code).LeadsToWhere (fun s a => ¬ a.Installs code s object kind)
          (releaseShadowObject 0 s object kind).2 s' →
        (s'.findShadowRecord object kind = none ∧
          (kind = .swapChain → s'.swapChainStates object = none ∧
            s'.activeSwapChain ≠ object)) ∧
        ∀ (o : InstallOutcome) (entryCount : Nat), o.AllocatesUnused s'.memory object →
          (patchObject code o s' object kind entryCount).1 = .ok () →
          (∃ j record, (patchObject code o s' object kind entryCount).2.findShadowRecord object
              kind = some j ∧
            (patchObject code o s' object kind entryCount).2.records[j]? = some record ∧
            record.entryCount = entryCount ∧
            ∀ index < entryCount, ∃ originals, record.originals = some originals ∧
              originals[index]? =
                some (s'.memory.readPointer (slot (s'.memory.readPointer object) index))) ∧
          (kind = .swapChain →
            ((patchObject code o s' object kind entryCount).2.ensureSwapChainState
              object).swapChainStates object = some {}) := by
  refine ⟨uniqueActive_of_reachable hs, ?_, ?_⟩
  · intro object kind remaining hremaining
    rw [releaseShadowObject]
    split
    · rfl
    · split
      · rfl
      · exact if_neg hremaining
  · intro object kind i hfound s' hleads
    obtain ⟨record, hrecord, rfl, rfl, -⟩ := ShadowState.exists_of_findShadowRecord hfound
    have hobject := object_ne_of_reachable hs i record hrecord
    have hreleased : (shadowSystem code).Reachable
        (releaseShadowObject 0 s record.object record.kind).2 :=
      hs.step (a := .release record.object record.kind 0) rfl
    -- the run between the release and the next installation is one of the system
    have hs' : (shadowSystem code).Reachable s' :=
      hleads.stable (fun _ _ _ ht _ hstep => ht.step hstep) hreleased
    have hgone := gone_until_installed hobject (gone_after_release hs hfound) hleads
    refine ⟨⟨hgone.noRecord, fun hkind => ⟨hgone.noState hkind, hgone.notActive hkind⟩⟩, ?_⟩
    intro o entryCount ho hok
    constructor
    · obtain ⟨j, record', hfound', hrecord', hcount, -, horiginals⟩ :=
        fresh_of_patch_ok hs' hgone.noRecord ho hok
      exact ⟨j, record', hfound', hrecord', hcount, fun index hindex =>
        ⟨_, horiginals, getElem?_readTable hindex⟩⟩
    · intro hkind
      -- the installation kept the absence of a state, so the default one is entered
      have hnone := hgone.noState hkind
      rw [← (installEffect_of_patch_ok hok).globals.1] at hnone
      rw [ShadowState.ensureSwapChainState, ShadowState.updateSwapChainState]
      simp only [Function.update_self, hnone]
      rfl

/-- The last release of the sample swap chain. -/
theorem records_follow_lifetimes_sample :
    (releaseShadowObject 0 sampleShadowed sampleObject .swapChain).2.findShadowRecord sampleObject
        .swapChain = none ∧
      (ShadowKind.swapChain = .swapChain →
        (releaseShadowObject 0 sampleShadowed sampleObject .swapChain).2.swapChainStates
            sampleObject = none ∧
        (releaseShadowObject 0 sampleShadowed sampleObject .swapChain).2.activeSwapChain ≠
          sampleObject) :=
  ((records_follow_lifetimes sampleShadowed_reachable).2.2 sampleObject .swapChain 0 rfl _
    .refl).1

end Shadow
end WindowedHdr
