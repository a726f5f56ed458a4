import WindowedHdr.Shadow.System

/-!
# Dispatch through a record

A replacement calls what `load_record_function` returns, so a record must never return the
replacement itself, nor nothing. Three tables have to agree for that: the installed hooks,
whose originals are checked, must cover every slot that `shadow_replacement` covers. They do
when the number of entries is that of a known interface (`InterfaceSized`), which every
caller passes.

The saved functions of a record are stable (`RecordStep.grows`): a record only gains entries,
and a larger table of originals starts with the smaller one, whatever other modules write
into the root vtable, the shadow or the object.

That every slot is covered is an invariant of the runs whose sizes are those of known
interfaces. The stability of what was saved needs no such condition, since it compares a record
with itself.
-/

namespace WindowedHdr
namespace Shadow

open ByteMemory

variable {code : HookFunction → UInt64} {s s' : ShadowState} {a : ShadowAction}

/-- The number of entries is that of a known interface. -/
def ShadowAction.FromInterfaceTable : ShadowAction → Prop
  | .patch _ kind entryCount _ => ∃ riid, kind.vtableLen riid = some entryCount
  | _ => True

/-! ### Hooked slots are covered -/

/-- The record has the size of a known interface. -/
def ShadowRecord.InterfaceSized (self : ShadowRecord) : Prop :=
  ∃ riid, self.kind.vtableLen riid = some self.entryCount

/-- A shadow grows to the size of a known interface. -/
theorem RecordStep.interfaceSized {r r' : ShadowRecord} (h : RecordStep code s a r r')
    (ha : a.FromInterfaceTable) (hr : r.InterfaceSized) : r'.InterfaceSized := by
  cases h with
  | kept => exact hr
  | retired => exact hr
  | grown object kind entryCount o i _ g oldOriginals hpatch hgrow =>
    subst hpatch
    obtain ⟨riid, hriid⟩ := ha
    obtain ⟨-, rfl, -⟩ := hgrow.isFor
    exact ⟨riid, hriid⟩

/-- A shadow is installed with the size of a known interface. -/
theorem NewRecord.interfaceSized {r : ShadowRecord} (h : NewRecord code s a r)
    (ha : a.FromInterfaceTable) : r.InterfaceSized := by
  cases h with
  | lost _ _ _ _ _ _ _ _ hpatch =>
    subst hpatch
    exact ha
  | installed _ _ _ _ _ _ _ _ hpatch =>
    subst hpatch
    exact ha

/-- **Every record has the size of a known interface**, after any run with such sizes. -/
theorem interfaceSized_of_reachable
    (h : (shadowSystem code).ReachableWhere (fun _ a => a.FromInterfaceTable) s) :
    ∀ (i : Nat) (r : ShadowRecord), s.records[i]? = some r → r.InterfaceSized := by
  exact forall_records_of_reachable (fun _ _ _ _ ha hstep => hstep.interfaceSized ha)
    (fun _ _ _ ha hnew => hnew.interfaceSized ha) h

/-- What is saved for a hooked slot can be called and is not the replacement. -/
theorem ShadowRecord.WellFormed.saved_hooked {r : ShadowRecord} (hr : r.WellFormed code)
    {hook : VtableHook} (hhook : hook ∈ r.kind.hooks code r.entryCount) :
    ∃ f, r.loadSavedRecordFunction hook.index = some f ∧ f ≠ hook.replacement := by
  obtain ⟨originals, horiginals, hlength, husable⟩ := hr.saved
  obtain ⟨hnull, hreplacement⟩ := husable hook hhook
  -- beyond the table the lookup would have given a null pointer
  have hlt : hook.index < originals.length := by
    by_contra hge
    rw [List.getD_eq_getElem?_getD, List.getElem?_eq_none (Nat.le_of_not_lt hge)] at hnull
    exact hnull rfl
  have hget : originals[hook.index]? = some (originals.getD hook.index 0) := by
    rw [List.getD_eq_getElem?_getD, List.getElem?_eq_getElem hlt, Option.getD_some]
  refine ⟨_, ShadowRecord.loadSavedRecordFunction_eq_some.mpr
    ⟨by omega, ⟨originals, horiginals, hget⟩, hnull⟩, hreplacement⟩

/-- The dispatch of a covered slot returns a function other than the replacement. -/
theorem ShadowRecord.WellFormed.dispatch {r : ShadowRecord} (hr : r.WellFormed code)
    (hsize : r.InterfaceSized) {index : Nat} {replacement : UInt64}
    (hindex : index < r.entryCount)
    (hreplacement : shadowReplacement code r.kind index = some replacement)
    (memory : ByteMemory) :
    ∃ f, r.loadRecordFunction code memory index = some f ∧ f ≠ 0 ∧ f ≠ replacement := by
  obtain ⟨riid, hriid⟩ := hsize
  -- a slot with a replacement is hooked, so its function was checked before it was saved
  obtain ⟨hook, hhook, rfl, rfl⟩ := exists_mem_of_shadowReplacement hriid hindex hreplacement
  obtain ⟨f, hf, hne⟩ := hr.saved_hooked hhook
  have hf₀ : f ≠ 0 := (ShadowRecord.loadSavedRecordFunction_eq_some.mp hf).2.2
  refine ⟨r.preferredFunction code memory hook.index f, ?_,
    ShadowRecord.preferredFunction_ne_zero hf₀,
    ShadowRecord.preferredFunction_ne_replacement hreplacement hne⟩
  rw [ShadowRecord.loadRecordFunction_eq, hf, Option.map_some]

/-! ### Saved functions are stable -/

/-- What never changes, or only grows, in the life of a record. -/
structure ShadowRecord.Grows (r r' : ShadowRecord) : Prop where
  object : r'.object = r.object
  kind : r'.kind = r.kind
  entryCount : r.entryCount ≤ r'.entryCount
  saved : ∀ (index : Nat) (f : UInt64), r.loadSavedRecordFunction index = some f →
    r'.loadSavedRecordFunction index = some f

/-- A record that is left alone keeps what it saved. -/
theorem ShadowRecord.Grows.refl (r : ShadowRecord) : r.Grows r :=
  ⟨rfl, rfl, Nat.le_refl _, fun _ _ => id⟩

/-- What is kept in one part of a run and in the next is kept in both. -/
theorem ShadowRecord.Grows.trans {r r' r'' : ShadowRecord} (h : r.Grows r') (h' : r'.Grows r'') :
    r.Grows r'' where
  object := h'.object.trans h.object
  kind := h'.kind.trans h.kind
  entryCount := Nat.le_trans h.entryCount h'.entryCount
  saved index f hf := h'.saved index f (h.saved index f hf)

/-- A step keeps the functions that a record saved. -/
theorem RecordStep.grows {r r' : ShadowRecord} (h : RecordStep code s a r r')
    (hr : r.WellFormed code) : r.Grows r' := by
  cases h with
  | kept => exact .refl r
  | retired => exact ⟨rfl, rfl, Nat.le_refl _, fun _ _ => id⟩
  | grown object kind entryCount o i _ g oldOriginals _ hgrow =>
    -- the new functions are read behind the old ones
    obtain ⟨hcount, hlength, heq⟩ := hgrow.expandedOriginals_eq hr.sized
    have hlarger := hgrow.larger
    have hle : r.entryCount ≤ entryCount := by omega
    refine ⟨rfl, rfl, hle, fun index f hf => ?_⟩
    obtain ⟨hindex, ⟨originals, horiginals, hget⟩, hne⟩ :=
      ShadowRecord.loadSavedRecordFunction_eq_some.mp hf
    obtain rfl := Option.some.inj (hgrow.oldOriginals_eq.symm.trans horiginals)
    -- the larger table starts with the old one
    refine ShadowRecord.loadSavedRecordFunction_eq_some.mpr
      ⟨Nat.lt_of_lt_of_le hindex hle, ⟨_, rfl, ?_⟩, hne⟩
    rw [heq, List.getElem?_append_left (by omega), hget]

/-- **A record keeps what it saved** in every continuation of a run. -/
theorem grows_of_leadsTo {P : ShadowState → ShadowAction → Prop}
    (hs : (shadowSystem code).Reachable s) (h : (shadowSystem code).LeadsToWhere P s s')
    {i : Nat} {r : ShadowRecord} (hr : s.records[i]? = some r) :
    ∃ r', s'.records[i]? = some r' ∧ r.Grows r' := by
  have hrun := h.stable
    (I := fun t => (shadowSystem code).Reachable t ∧ ∃ r', t.records[i]? = some r' ∧ r.Grows r')
    ?_ ⟨hs, r, hr, .refl r⟩
  · exact hrun.2
  · rintro t a t' ⟨ht, r', hr', hgrows⟩ - hstep
    -- the record at an index stays there, so the steps of one record compose
    refine ⟨ht.step hstep, ?_⟩
    obtain ⟨r'', hr'', hstep'⟩ := (step_recordsFollow hstep).old i r' hr'
    exact ⟨r'', hr'', hgrows.trans (hstep'.grows (wellFormed_of_reachable ht i r' hr'))⟩

/-- **Dispatch never leads back to a replacement, and what is saved is stable.** After any run
of installations with the sizes of known interfaces, releases and foreign writes, the dispatch
of a slot that has a replacement returns a function other than it. In every continuation the
record at an index keeps its entries and saved functions. -/
theorem dispatch_avoids_replacement_and_is_stable
    (h : (shadowSystem code).ReachableWhere (fun _ a => a.FromInterfaceTable) s) :
    (∀ record ∈ s.records, record.active = true → ∀ (index : Nat) (replacement : UInt64),
      index < record.entryCount →
      shadowReplacement code record.kind index = some replacement →
      ∃ f, record.loadRecordFunction code s.memory index = some f ∧ f ≠ 0 ∧
        f ≠ replacement) ∧
    ∀ s', (shadowSystem code).LeadsToWhere (fun _ a => a.FromInterfaceTable) s s' →
      ∀ (i : Nat) (record : ShadowRecord), s.records[i]? = some record →
        ∃ record', s'.records[i]? = some record' ∧
          record'.object = record.object ∧ record'.kind = record.kind ∧
          record.entryCount ≤ record'.entryCount ∧
          ∀ (index : Nat) (f : UInt64), record.loadSavedRecordFunction index = some f →
            record'.loadSavedRecordFunction index = some f := by
  constructor
  · intro record hmem _ index replacement hindex hreplacement
    obtain ⟨i, hi⟩ := List.getElem?_of_mem hmem
    exact (wellFormed_of_reachable h.reachable i record hi).dispatch
      (interfaceSized_of_reachable h i record hi) hindex hreplacement s.memory
  · intro s' hleads i record hrecord
    obtain ⟨record', hrecord', hgrows⟩ := grows_of_leadsTo h.reachable hleads hrecord
    exact ⟨record', hrecord', hgrows.object, hgrows.kind, hgrows.entryCount, hgrows.saved⟩

/-- The sample swap chain is captured with the size of its interface. -/
theorem sampleShadowed_reachableWhere :
    (shadowSystem sampleCode).ReachableWhere (fun _ a => a.FromInterfaceTable)
      sampleShadowed := by
  have hlen : ShadowKind.swapChain.vtableLen iidIdxgiSwapChain = some swapChainVtableLength := rfl
  refine .step (.init sampleState_init) ?_ sampleState_capture
  exact ⟨iidIdxgiSwapChain, hlen⟩

/-- The dispatch of a swap chain that was just captured. -/
theorem dispatch_avoids_replacement_and_is_stable_sample :
    sampleShadowed.records.map (·.entryCount) = [18] ∧
    ∀ record ∈ sampleShadowed.records, record.active = true →
      ∀ (index : Nat) (replacement : UInt64), index < record.entryCount →
      shadowReplacement sampleCode record.kind index = some replacement →
      ∃ f, record.loadRecordFunction sampleCode sampleShadowed.memory index = some f ∧ f ≠ 0 ∧
        f ≠ replacement :=
  ⟨rfl, (dispatch_avoids_replacement_and_is_stable sampleShadowed_reachableWhere).1⟩

end Shadow
end WindowedHdr
