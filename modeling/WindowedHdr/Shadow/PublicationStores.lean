import WindowedHdr.Shadow.PublicationOthers

/-!
# Publication order of the stores

Each store of an installation keeps the invariant `PublicationState.Ordered`, so that it holds
whenever a caller looks:

* a growing shadow has its originals stored first, which start with the old ones, then the
  number of entries raised, and only then its slots written;
* a fresh shadow is hooked before anybody can see it, its record is published before the object
  points at it, and the exchange makes the record settled;
* a record whose exchange was lost was never settled, and is retired.

With the steps of others, it holds in every reachable state, and no caller ever fails to obtain
a saved function.
-/

namespace WindowedHdr
namespace Shadow

open ByteMemory Usize Windows

variable {code : HookFunction → UInt64} {s s' : PublicationState} {x : UInt64} {i : Nat}
  {g : ShadowGeneration} {hook : HookFunction} {l : LiveObject}

/-! ### The stores of an expansion -/

namespace PublicationState

variable {w : Installer} {e : Expansion} {hooks : List VtableHook} {f : ShadowRecord → ShadowRecord}

/-- The installer goes on to `w` without a store. -/
def withInstaller (s : PublicationState) (w : Installer) : PublicationState :=
  { s with installer := w }

/-- The same records are settled when the installer leaves the same one in flight. -/
theorem settled_withInstaller (hflight : w.inFlight = s.installer.inFlight) :
    (s.withInstaller w).Settled i x ↔ s.Settled i x :=
  ⟨fun h => ⟨h.record, h.live, hflight ▸ h.notInFlight⟩,
    fun h => ⟨h.record, h.live, hflight.symm ▸ h.notInFlight⟩⟩

/-- The installer goes on without a store. -/
theorem Ordered.withInstaller (hs : s.Ordered code)
    (hshadow : ∀ i g, w.shadow s.shadow.records.length = some (i, g) → s.IsShadow i g)
    (hflight : w.inFlight = s.installer.inFlight)
    (hresizing : w.resizing = s.installer.resizing)
    (hok : (s.withInstaller w).InstallerOk code w) : (s.withInstaller w).Ordered code := by
  have hback : ∀ i g, (s.withInstaller w).IsShadow i g → s.IsShadow i g := by
    rintro i g (⟨r, hr, g', hg', hsame⟩ | ⟨g', hg', hsame⟩)
    · exact .inl ⟨r, hr, g', hg', hsame⟩
    · exact (hshadow i g' hg').sameTable hsame
  have hlater : s.Later (s.withInstaller w) := by
    refine .of_continues (fun _ _ => id) (fun _ _ => rfl)
      (fun caller _ index _ _ hcaller => .inr (.inl ⟨caller, index, hcaller⟩))
      (fun i g _ _ => hback i g) ?_ ?_
    · exact fun i r hr _ _ hnot => ⟨hflight.symm ▸ hnot, r, hr.1, .refl r⟩
    · exact fun i r hr _ hnot => ⟨hflight ▸ hnot, r, hr.1, .refl r⟩
  exact ⟨hs.unique, hs.born_le, fun i r hr hnot => hs.sized i r hr (hresizing ▸ hnot),
    hs.placed.later hlater hback, hs.exposed.later hlater fun _ _ _ _ _ _ _ _ => id,
    fun caller => (hs.callers caller).persists (fun _ _ _ => rfl) hlater.serves, hok⟩

/-- A record is updated so that it goes on serving. -/
theorem Ordered.withRecord (hs : s.Ordered code)
    (hf : ∀ r, s.shadow.records[i]? = some r → r.Continues (f r))
    (hflight : w.inFlight = s.installer.inFlight)
    (hshadow : ∀ j g, (s.withRecord i f w).IsShadow j g → s.IsShadow j g)
    (hresizing : ∀ j, j ≠ i → (w.resizing = some j ↔ s.installer.resizing = some j))
    (hsized : w.resizing ≠ some i → ∀ r, s.shadow.records[i]? = some r → (f r).Sized)
    (hok : (s.withRecord i f w).InstallerOk code w) : (s.withRecord i f w).Ordered code := by
  have hlater := later_withRecord hf hflight hshadow
  -- the record is still that of its object
  have hkey : ∀ r, s.shadow.records[i]? = some r → (f r).object = r.object ∧
      (f r).kind = r.kind ∧ ((f r).active = true → r.active = true) := by
    intro r hr
    have hcontinues := hf r hr
    exact ⟨hcontinues.object, hcontinues.kind, fun h => hcontinues.active.symm.trans h⟩
  refine ⟨uniqueActive_updateRecord hs.unique hkey, ?_, ?_, hs.placed.later hlater hshadow,
    hs.exposed.later hlater fun _ _ _ _ _ _ _ _ => id,
    fun caller => (hs.callers caller).persists (fun _ _ _ => rfl) hlater.serves, hok⟩
  · intro x l hl
    exact Nat.le_trans (hs.born_le x l hl) (Nat.le_of_eq length_updateRecord.symm)
  · intro j r' hr' hnot
    obtain ⟨r, hr, ⟨rfl, rfl⟩ | ⟨hij, rfl⟩⟩ := exists_of_updateRecord hr'
    · exact hsized hnot r hr
    · exact hs.sized j r' hr fun h => hnot ((hresizing j hij.symm).mpr h)

/-- An expansion goes on with its record updated. -/
theorem expanding_withRecord {r : ShadowRecord} (h : Expanding code s e hooks r)
    (hf : r.Continues (f r)) (hgens : (f r).generations = r.generations)
    (hflight : w.inFlight = s.installer.inFlight) :
    Expanding code (s.withRecord e.i f w) e hooks (f r) where
  record := updateRecord_self h.record
  settled := by
    obtain ⟨-, hobject, hactive⟩ := h.settled.current h.record
    exact ⟨⟨f r, updateRecord_self h.record, hf.object.trans hobject, hf.active.trans hactive⟩,
      h.settled.live, hflight ▸ h.settled.notInFlight⟩
  mem := hgens ▸ h.mem
  oneTable := hgens ▸ h.oneTable
  length := h.length
  fits := h.fits
  hooks := hf.kind.symm ▸ h.hooks

/-- What a record serves, it serves with a larger table that starts with the old one. -/
theorem continues_originals {r : ShadowRecord} {originals larger : List UInt64}
    (horiginals : r.originals = some originals) (hlength : r.entryCount ≤ larger.length)
    (hsame : ∀ k < r.entryCount, larger[k]? = originals[k]?) :
    r.Continues { r with originals := some larger } := by
  refine ⟨rfl, rfl, rfl, fun hook h => ⟨h.kind, h.index_lt, larger, rfl, hlength, ?_⟩⟩
  obtain ⟨originals', horiginals', -, hfunction⟩ := h.saved
  obtain rfl := Option.some.inj (horiginals.symm.trans horiginals')
  rw [hsame _ h.index_lt]
  exact hfunction

/-- What a record serves, it serves with more entries, as long as they are saved. -/
theorem continues_entryCount {r : ShadowRecord} {originals : List UInt64} {entryCount : Nat}
    (horiginals : r.originals = some originals) (hlength : entryCount ≤ originals.length)
    (hle : r.entryCount ≤ entryCount) : r.Continues { r with entryCount := entryCount } := by
  refine ⟨rfl, rfl, rfl, fun hook h => ⟨h.kind, Nat.lt_of_lt_of_le h.index_lt hle, originals,
    horiginals, hlength, ?_⟩⟩
  obtain ⟨originals', horiginals', -, hfunction⟩ := h.saved
  obtain rfl := Option.some.inj (horiginals.symm.trans horiginals')
  exact hfunction

/-- A record goes on serving with another generation, which no caller reads. -/
theorem continues_generation (r : ShadowRecord) (g : ShadowGeneration) :
    r.Continues (r.publishShadowGeneration g) :=
  ⟨rfl, rfl, rfl, fun _ h => ⟨h.kind, h.index_lt, h.saved⟩⟩

/-- **The originals are stored**, before the number of entries is raised. -/
theorem Ordered.storeOriginals (hs : s.Ordered code)
    (hw : s.installer = .storingOriginals e hooks) :
    (s.withRecord e.i (fun r => { r with originals := some e.originals })
      (.storingEntryCount e hooks)).Ordered code := by
  have hok := hs.installer
  rw [hw] at hok
  obtain ⟨r, originals, h, horiginals, hlength, hlarger, hsame⟩ := hok
  -- the new table starts with the entries that callers may load by now
  have hcontinues : r.Continues { r with originals := some e.originals } := by
    have hlength := h.length
    exact continues_originals horiginals (by omega) hsame
  have hflight : (Installer.storingEntryCount e hooks).inFlight = s.installer.inFlight := by
    rw [hw]
    rfl
  -- the record is out of shape until its number of entries is raised
  refine hs.withRecord ?_ hflight ?_ ?_ ?_ ?_
  · intro r' hr'
    obtain rfl := Option.some.inj (h.record.symm.trans hr')
    exact hcontinues
  · intro j g hg
    refine isShadow_withRecord ?_ ?_ hg
    · exact fun r' hr' g hg => .of_mem hr' hg
    · exact fun _ _ h => nomatch h
  · intro j hj
    rw [hw]
    exact ⟨fun h => absurd (Option.some.inj h).symm hj, fun h => nomatch h⟩
  · exact fun hnot => absurd rfl hnot
  · exact ⟨_, expanding_withRecord h hcontinues rfl hflight, rfl, hlarger⟩

/-- **The number of entries is raised**, before any of the new slots is written. -/
theorem Ordered.storeEntryCount (hs : s.Ordered code)
    (hw : s.installer = .storingEntryCount e hooks) :
    (s.withRecord e.i (fun r => { r with entryCount := e.entryCount })
      (.loadingSlot e hooks)).Ordered code := by
  have hok := hs.installer
  rw [hw] at hok
  obtain ⟨r, h, horiginals, hlarger⟩ := hok
  -- the table that is stored already has all the entries
  have hcontinues : r.Continues { r with entryCount := e.entryCount } :=
    continues_entryCount horiginals (Nat.le_of_eq h.length.symm) (Nat.le_of_lt hlarger)
  have hflight : (Installer.loadingSlot e hooks).inFlight = s.installer.inFlight := by
    rw [hw]
    rfl
  -- and stays so until the new generation is published
  refine hs.withRecord ?_ hflight ?_ ?_ ?_ ?_
  · intro r' hr'
    obtain rfl := Option.some.inj (h.record.symm.trans hr')
    exact hcontinues
  · intro j g hg
    refine isShadow_withRecord ?_ ?_ hg
    · exact fun r' hr' g hg => .of_mem hr' hg
    · exact fun _ _ h => nomatch h
  · intro j _
    rw [hw]
    exact .rfl
  · exact fun hnot => absurd rfl hnot
  · exact ⟨_, expanding_withRecord h hcontinues rfl hflight, horiginals, rfl⟩

end PublicationState

namespace PublicationState

variable {e : Expansion} {hooks : List VtableHook} {hook' : VtableHook}

/-- The expansion has nothing left to write, and its new generation is published. -/
theorem Ordered.storeGeneration (hs : s.Ordered code)
    (hw : s.installer = .loadingSlot e []) :
    (s.withRecord e.i (·.publishShadowGeneration { e.generation with entryCount := e.entryCount })
      .idle).Ordered code := by
  have hok := hs.installer
  rw [hw] at hok
  obtain ⟨r, h, horiginals, hcount⟩ := hok
  refine hs.withRecord (fun r' _ => continues_generation r' _) (by rw [hw]; rfl) ?_ ?_ ?_ trivial
  · intro j g hg
    refine isShadow_withRecord ?_ ?_ hg
    · intro r' hr' g hg
      obtain rfl := Option.some.inj (h.record.symm.trans hr')
      obtain rfl | hg := List.mem_cons.mp hg
      · -- the new generation is a size of the table that grew
        exact (IsShadow.of_mem hr' h.mem).sameTable ⟨rfl, rfl⟩
      · exact .of_mem hr' hg
    · exact fun _ _ h => nomatch h
  · intro j hj
    rw [hw]
    exact ⟨fun h => (nomatch h), fun h => absurd (Option.some.inj h).symm hj⟩
  -- with the new generation, the sizes fit together again
  · intro _ r' hr'
    obtain rfl := Option.some.inj (h.record.symm.trans hr')
    refine ⟨⟨e.originals, horiginals, h.length.trans hcount.symm⟩, ?_, ?_⟩
    · have hvtable : ∀ g ∈ (r.publishShadowGeneration
          { e.generation with entryCount := e.entryCount }).generations,
          g.vtable = e.generation.vtable := by
        intro g hg
        obtain rfl | hg := List.mem_cons.mp hg
        · rfl
        · exact h.oneTable g hg e.generation h.mem
      intro g hg g' hg'
      rw [hvtable g hg, hvtable g' hg']
    · intro g hg
      obtain rfl := Option.some.inj hg
      exact hcount.symm

/-- The loop goes on with fewer hooks, or to the store of the first one. -/
theorem Ordered.loadSlot {w : Installer} (hs : s.Ordered code)
    (hw : s.installer = .loadingSlot e (hook' :: hooks))
    (hnext : w = .loadingSlot e hooks ∨ w = .storingSlot e hook' hooks) :
    (s.withInstaller w).Ordered code := by
  have hok := hs.installer
  rw [hw] at hok
  obtain ⟨r, h, hrest⟩ := hok
  have hflight : w.inFlight = s.installer.inFlight := by
    rw [hw]
    obtain rfl | rfl := hnext <;> rfl
  have hexpanding : Expanding code (s.withInstaller w) e (hook' :: hooks) r :=
    h.persists h.record ((settled_withInstaller hflight).mpr h.settled)
  refine hs.withInstaller ?_ hflight ?_ ?_
  · obtain rfl | rfl := hnext <;> exact fun _ _ h => nomatch h
  · rw [hw]
    obtain rfl | rfl := hnext <;> rfl
  · obtain rfl | rfl := hnext
    · exact ⟨r, { hexpanding with hooks := (List.forall_mem_cons.mp hexpanding.hooks).2 }, hrest⟩
    · exact ⟨r, hexpanding, hrest⟩

/-- **A slot is written** once its replacement is served. -/
theorem Ordered.storeSlot (hinj : Function.Injective code) (hs : s.Ordered code)
    (hw : s.installer = .storingSlot e hook' hooks) :
    ((s.withMemory (s.shadow.memory.writePointer (slot e.generation.vtable hook'.index)
      hook'.replacement)).withInstaller (.loadingSlot e hooks)).Ordered code := by
  have hok := hs.installer
  rw [hw] at hok
  obtain ⟨r, h, horiginals, hcount⟩ := hok
  obtain ⟨⟨f, hf, hkind, hindex, hlt, hfunction⟩, hrest⟩ := List.forall_mem_cons.mp h.hooks
  have hfits := h.fits
  have hg := IsShadow.of_mem h.record h.mem
  -- by now the record counts the entry, and its originals hold a function for it
  have hserves : s.Serves e.i e.object f := by
    refine ⟨h.settled, r, h.record, hkind.symm, ?_, e.originals, horiginals, ?_, ?_⟩
    · rw [hindex, hcount]
      exact hlt
    · exact Nat.le_of_eq (hcount.trans h.length.symm)
    · rw [hindex]
      exact hfunction
  have hstored : (s.withMemory (s.shadow.memory.writePointer
      (slot e.generation.vtable hook'.index) hook'.replacement)).Ordered code := by
    refine hs.storeValue ((hs.placed.shadow_aligned _ _ hg).1.slot _)
      (hs.placed.shadow_object _ _ _ hg (by omega)) fun hook hvalue => ?_
    -- the value is the address of one replacement only
    obtain rfl : f = hook := hinj (hf.trans hvalue)
    exact ⟨e.i, e.generation, e.object, hg, hserves, by omega, by rw [hindex]⟩
  -- the rest of the loop finds everything else as it was
  generalize hmemory : s.withMemory (s.shadow.memory.writePointer
    (slot e.generation.vtable hook'.index) hook'.replacement) = t at hstored ⊢
  have hinstaller : t.installer = .storingSlot e hook' hooks := by
    rw [← hmemory]
    exact hw
  have hrecord : t.shadow.records[e.i]? = some r := by
    rw [← hmemory]
    exact h.record
  have hsettled : t.Settled e.i e.object := by
    rw [← hmemory]
    exact settled_withMemory.mpr h.settled
  have hflight : (Installer.loadingSlot e hooks).inFlight = t.installer.inFlight := by
    rw [hinstaller]
    rfl
  have hexpanding : Expanding code (t.withInstaller (.loadingSlot e hooks)) e
      (hook' :: hooks) r := h.persists hrecord ((settled_withInstaller hflight).mpr hsettled)
  refine hstored.withInstaller (fun _ _ h => nomatch h) hflight ?_
    ⟨r, { hexpanding with hooks := hrest }, horiginals, hcount⟩
  rw [hinstaller]
  rfl

end PublicationState

/-! ### Before the first visible store -/

section Begin

variable {o : InstallOutcome} {object root : UInt64} {kind : ShadowKind} {entryCount : Nat}
  {hooks : List VtableHook} {record : ShadowRecord} {clone : ClonedRegion} {entryCapacity : Nat}
  {cloned memory : ByteMemory}

/-- The hooks of a safe installation are replacements of the slots that they are for. -/
theorem SafeBegin.exists_hook (h : SafeBegin code s object kind entryCount hooks o l)
    {hook' : VtableHook} (hmem : hook' ∈ hooks) :
    ∃ f : HookFunction, code f = hook'.replacement ∧ f.kind = kind ∧ f.index = hook'.index := by
  obtain ⟨f, hkind, hindex, hcode⟩ := shadowReplacement_eq_some_iff.mp (h.hooks hook' hmem)
  exact ⟨f, hcode, hkind, hindex⟩

/-- An entry that is not null is there. -/
theorem exists_of_getD_ne {originals : List UInt64} {k : Nat} (h : originals.getD k 0 ≠ 0) :
    ∃ function, originals[k]? = some function ∧ function ≠ 0 := by
  rw [List.getD_eq_getElem?_getD] at h
  cases hk : originals[k]? with
  | none =>
    rw [hk] at h
    exact absurd rfl h
  | some function =>
    rw [hk] at h
    exact ⟨function, rfl, h⟩

namespace PublicationState

/-- An expansion begins: the record that was found is settled, since the object points at its
shadow. -/
theorem Ordered.beginGrowing (hs : s.Ordered code) (hw : s.installer = .idle)
    (hsafe : SafeBegin code s object kind entryCount hooks o l) {oldOriginals : List UInt64}
    (hgrow : GrowingShadow s.shadow object kind entryCount hooks i record g oldOriginals) :
    (s.withInstaller (.storingOriginals ⟨i, object, g, entryCount,
      expandedOriginals s.shadow.memory g oldOriginals entryCount⟩ hooks)).Ordered code := by
  have hsized := hs.sized i record hgrow.record_eq (by rw [hw]; exact nofun)
  have hmem : g ∈ record.generations := List.mem_of_find?_eq_some hgrow.generation_eq
  obtain ⟨hcount, hlength, heq⟩ := hgrow.expandedOriginals_eq hsized
  obtain ⟨-, hvtable⟩ := hsized.findShadowGeneration hgrow.generation_eq
  have hlarger := hgrow.larger
  have hfits := hgrow.fits
  have hentries := hsafe.entries
  -- a live object that points at a shadow is the one the shadow was made for
  have hsettled : s.Settled i object :=
    (hs.placed.shadow_table i g 0 object l _ 0 (.of_mem hgrow.record_eq hmem) (by omega)
      hsafe.live (.inl rfl) (by omega) (by rw [hvtable])).1
  have hflight : (Installer.storingOriginals ⟨i, object, g, entryCount,
      expandedOriginals s.shadow.memory g oldOriginals entryCount⟩ hooks).inFlight =
      s.installer.inFlight := by
    rw [hw]
    rfl
  obtain ⟨originals, horiginals, hexpanded⟩ := (hgrow.sized hsized).saved
  obtain rfl := Option.some.inj horiginals
  refine hs.withInstaller (fun _ _ h => nomatch h) hflight (by rw [hw]; rfl) ?_
  refine ⟨record, oldOriginals, ?_, hgrow.oldOriginals_eq, Nat.le_of_eq hlength.symm,
    by simp only; omega, ?_⟩
  -- every hook of the list is one of ours, for an entry that the larger table has
  · refine ⟨hgrow.record_eq, (settled_withInstaller hflight).mpr hsettled, hmem,
      hsized.oneTable, hexpanded, hfits, fun hook' hhook' => ?_⟩
    obtain ⟨f, hcode, hkind, hindex⟩ := hsafe.exists_hook hhook'
    exact ⟨f, hcode, hkind.trans hgrow.isFor.2.1.symm, hindex, hgrow.hooks_lt hook' hhook',
      exists_of_getD_ne (hgrow.originals hook' hhook').1⟩
  · intro k hk
    simp only
    rw [heq, List.getElem?_append_left (by omega)]

/-- Memory that is not in use is written. -/
theorem Ordered.writeUnused (hs : s.Ordered code) (hw : s.installer = .idle)
    (hsafe : SafeBegin code s object kind entryCount hooks o l)
    (hread : ∀ p, o.clone.AllocatesApartFrom (Region.pointer p) →
      memory.readPointer p = s.shadow.memory.readPointer p) :
    (s.withMemory memory).Ordered code := by
  have hpointer : ∀ x, s.live x ≠ none →
      memory.readPointer x = s.shadow.memory.readPointer x :=
    fun x hx => hread x (hsafe.unused_objects x hx)
  have hlater := later_withMemory hpointer
  refine hs.withMemory hpointer (hs.exposed.later hlater ?_) ?_
  · intro x l' v k hook hl hv hk hvalue
    have hv' := hlater.table x v (ne_none_of_eq_some hl) hv
    exact (hread _ (hsafe.unused_tables x l' v k hl hv' hk)).symm.trans hvalue
  · intro g k hook hprivate
    rw [hw] at hprivate
    exact nomatch hprivate

/-- Between installations, every shadow belongs to a published record. -/
theorem isShadow_lt (hw : s.installer = .idle) (h : s.IsShadow i g) :
    i < s.shadow.records.length := by
  obtain ⟨r, hr, -⟩ | ⟨g', hg', -⟩ := h
  · exact (List.getElem?_eq_some_iff.mp hr).1
  · rw [hw] at hg'
    exact nomatch hg'

/-- The memory of a shadow is not in use: no object lies in it, and no table or shadow does. -/
structure UnusedShadow (s : PublicationState) (g : ShadowGeneration) : Prop where
  aligned : Aligned g.vtable
  capacity_lt : g.entryCapacity < 2 ^ 60
  notObject : ∀ k < g.entryCapacity, s.live (slot g.vtable k) = none
  notTable : ∀ k < g.entryCapacity, ∀ x l v k', s.live x = some l → s.TableOf x v →
    k' < l.entries → slot g.vtable k ≠ slot v k'
  notShadow : ∀ k < g.entryCapacity, ∀ i g' k', s.IsShadow i g' → k' < g'.entryCapacity →
    slot g.vtable k ≠ slot g'.vtable k'

/-- There is one new shadow, of a record that is not published yet. -/
theorem isShadow_publishing {g' : ShadowGeneration}
    (h : (s.withInstaller (.publishing record g)).IsShadow i g') :
    s.IsShadow i g' ∨ i = s.shadow.records.length ∧ g.SameTable g' := by
  obtain ⟨r, hr, g₀, hg₀, hsame⟩ | ⟨g₀, hg₀, hsame⟩ := h
  · exact .inl (.inl ⟨r, hr, g₀, hg₀, hsame⟩)
  · obtain ⟨rfl, rfl⟩ := Prod.mk.inj (Option.some.inj hg₀)
    exact .inr ⟨rfl, hsame⟩

section Publishing

variable (hw : s.installer = .idle)

include hw

/-- The same records are settled while the new one is not published. -/
theorem settled_publishing :
    (s.withInstaller (.publishing record g)).Settled i x ↔ s.Settled i x := by
  refine settled_withInstaller ?_
  rw [hw]
  rfl

/-- Nothing is lost, since nothing has been stored yet. -/
theorem later_publishing : s.Later (s.withInstaller (.publishing record g)) := by
  have hflight : (Installer.publishing record g).inFlight = s.installer.inFlight := by
    rw [hw]
    rfl
  refine .of_continues (fun _ _ => id) (fun _ _ => rfl)
    (fun caller _ index _ _ hcaller => .inr (.inl ⟨caller, index, hcaller⟩)) ?_
    (fun i r hr _ _ hj => ⟨hflight ▸ hj, r, hr.1, .refl r⟩)
    (fun i r hr _ hj => ⟨hflight ▸ hj, r, hr.1, .refl r⟩)
  intro i g' x hx hg'
  obtain hg' | ⟨rfl, -⟩ := isShadow_publishing hg'
  · exact hg'
  · exact absurd ((settled_publishing hw).mp hx) (not_settled_length x)

/-- The new shadow lies apart from everything in use. -/
theorem placed_publishing (hs : s.Placed) (hunused : s.UnusedShadow g) :
    (s.withInstaller (.publishing record g)).Placed where
  object_aligned := hs.object_aligned
  entries_lt := hs.entries_lt
  table_aligned x v hx hv := hs.table_aligned x v hx ((later_publishing hw).table x v hx hv)
  table_object x l v k hl hv hk := hs.table_object x l v k hl
    ((later_publishing hw).table x v (ne_none_of_eq_some hl) hv) hk
  shadow_aligned i g' hg' := by
    obtain hg' | ⟨-, hvtable, hsize⟩ := isShadow_publishing hg'
    · exact hs.shadow_aligned i g' hg'
    · rw [← hvtable, ← hsize]
      exact ⟨hunused.aligned, hunused.capacity_lt⟩
  shadow_object i g' k hg' hk := by
    obtain hg' | ⟨-, hvtable, hsize⟩ := isShadow_publishing hg'
    · exact hs.shadow_object i g' k hg' hk
    · rw [← hvtable]
      exact hunused.notObject k (by omega)
  shadow_table i g' k x l v k' hg' hk hl hv hk' heq := by
    have hv := (later_publishing hw).table x v (ne_none_of_eq_some hl) hv
    obtain hg' | ⟨-, hvtable, hsize⟩ := isShadow_publishing hg'
    · obtain ⟨hi, hvtable⟩ := hs.shadow_table i g' k x l v k' hg' hk hl hv hk' heq
      exact ⟨(settled_publishing hw).mpr hi, hvtable⟩
    · rw [← hvtable] at heq
      exact absurd heq (hunused.notTable k (by omega) x l v k' hl hv hk')
  shadow_shadow i₁ g₁ k₁ i₂ g₂ k₂ hg₁ hk₁ hg₂ hk₂ heq := by
    -- two old shadows, the new one and an old one, or the new one twice
    obtain hg₁ | ⟨rfl, hvtable₁, hsize₁⟩ := isShadow_publishing hg₁
    · obtain hg₂ | ⟨rfl, hvtable₂, hsize₂⟩ := isShadow_publishing hg₂
      · exact hs.shadow_shadow i₁ g₁ k₁ i₂ g₂ k₂ hg₁ hk₁ hg₂ hk₂ heq
      · rw [← hvtable₂] at heq
        exact absurd heq.symm (hunused.notShadow k₂ (by omega) i₁ g₁ k₁ hg₁ hk₁)
    · obtain hg₂ | ⟨rfl, -, -⟩ := isShadow_publishing hg₂
      · rw [← hvtable₁] at heq
        exact absurd heq (hunused.notShadow k₁ (by omega) i₂ g₂ k₂ hg₂ hk₂)
      · rfl
  one_shadow i g₁ g₂ hg₁ hg₂ := by
    -- the index of the new record is that of no other
    obtain hg₁ | ⟨rfl, hvtable₁, hsize₁⟩ := isShadow_publishing hg₁
    · obtain hg₂ | ⟨rfl, -, -⟩ := isShadow_publishing hg₂
      · exact hs.one_shadow i g₁ g₂ hg₁ hg₂
      · exact absurd (isShadow_lt hw hg₁) (Nat.lt_irrefl _)
    · obtain hg₂ | ⟨-, hvtable₂, hsize₂⟩ := isShadow_publishing hg₂
      · exact absurd (isShadow_lt hw hg₂) (Nat.lt_irrefl _)
      · exact ⟨hvtable₁.symm.trans hvtable₂, hsize₁.symm.trans hsize₂⟩
  shadow_entries i g' x l hg' hi hl := by
    have hi := (settled_publishing hw).mp hi
    obtain hg' | ⟨rfl, -, -⟩ := isShadow_publishing hg'
    · exact hs.shadow_entries i g' x l hg' hi hl
    · exact absurd hi (not_settled_length x)

/-- A private shadow is ready to be published. -/
theorem Ordered.beginPublishing (hs : s.Ordered code)
    (hprivate : PrivateShadow code s record g l)
    (hnone : s.shadow.findShadowRecord record.object record.kind = none)
    (hunused : s.UnusedShadow g) :
    (s.withInstaller (.publishing record g)).Ordered code where
  unique := hs.unique
  born_le := hs.born_le
  sized i r hr _ := hs.sized i r hr (by rw [hw]; exact nofun)
  placed := placed_publishing hw hs.placed hunused
  exposed := hs.exposed.later (later_publishing hw) fun _ _ _ _ _ _ _ _ => id
  callers caller := (hs.callers caller).persists (fun _ _ _ => rfl) (later_publishing hw).serves
  installer :=
    ⟨⟨l, hprivate.persists rfl (later_publishing hw).serves fun _ _ _ => id⟩, hnone⟩

end Publishing

/-- **A fresh shadow is hooked while it is private.** -/
theorem Ordered.beginFresh (hinj : Function.Injective code) (hs : s.Ordered code)
    (hw : s.installer = .idle) (hsafe : SafeBegin code s object kind entryCount hooks o l)
    (hfresh :
      FreshShadow o s.shadow object kind entryCount hooks root clone entryCapacity cloned) :
    ((s.withMemory (writeHooks clone.clonedAddress hooks cloned)).withInstaller
      (.publishing (newRecord o object kind entryCount root clone cloned)
        (newGeneration entryCount entryCapacity clone))).Ordered code := by
  obtain rfl := hfresh.root_eq
  have hclone := hfresh.cloneVtable
  obtain ⟨haligned, hentries⟩ := hsafe.clone _ _ _ hclone
  obtain ⟨information, offset, hclones, hroom, hle, hcapacity⟩ := cloneVtable_ok hclone
  have hfree : ∀ p, o.clone.AllocatesApartFrom (Region.pointer p) →
      ∀ k < entryCapacity, slot clone.clonedAddress k ≠ p :=
    fun p hp k hk => (apart_cloned_slot hclone hp hk).ne
  -- the hooks are written into the clone only
  have hread : ∀ p, o.clone.AllocatesApartFrom (Region.pointer p) →
      (writeHooks clone.clonedAddress hooks cloned).readPointer p =
        s.shadow.memory.readPointer p :=
    fun p hp => readPointer_hooked hclone hp hfresh.hooks_lt
  have hlater := later_withMemory fun x hx => hread x (hsafe.unused_objects x hx)
  have hstored := hs.writeUnused hw hsafe hread
  have hunused : (s.withMemory (writeHooks clone.clonedAddress hooks cloned)).UnusedShadow
      (newGeneration entryCount entryCapacity clone) := by
    refine ⟨haligned, hcapacity, ?_, ?_, ?_⟩
    · -- no live object lies where the shadow was allocated
      intro k hk
      by_contra hne
      exact hfree _ (hsafe.unused_objects _ hne) k hk rfl
    · intro k hk x l' v k' hl hv hk'
      have hv := hlater.table x v (ne_none_of_eq_some hl) hv
      exact hfree _ (hsafe.unused_tables x l' v k' hl hv hk') k hk
    · intro k hk i g' k' hg' hk'
      exact hfree _ (hsafe.unused_shadows i g' k' hg' hk') k hk
  have hprivate : PrivateShadow code (s.withMemory (writeHooks clone.clonedAddress hooks cloned))
      (newRecord o object kind entryCount (s.shadow.memory.readPointer object) clone cloned)
      (newGeneration entryCount entryCapacity clone) l := by
    refine ⟨hsafe.live, rfl, rfl, rfl, ⟨_, rfl, length_readTable _ _ _⟩, hentries, ?_⟩
    intro k hk hook hvalue
    change (writeHooks clone.clonedAddress hooks cloned).readPointer
      (slot clone.clonedAddress k) = code hook at hvalue
    have hlt : ∀ hook' ∈ hooks, hook'.index < 2 ^ 60 := by
      intro hook' hmem
      have hlt := hfresh.hooks_lt hook' hmem
      omega
    by_cases hhooked : ∃ hook' ∈ hooks, hook'.index = k
    · -- a hooked entry is saved in the new record
      obtain ⟨hook', hmem, rfl⟩ := hhooked
      obtain ⟨hook'', hmem'', heq, hwritten⟩ : ∃ hook'' ∈ hooks, hook''.index = hook'.index ∧
          (writeHooks clone.clonedAddress hooks cloned).readPointer
            (slot clone.clonedAddress hook'.index) = hook''.replacement :=
        readPointer_writeHooks hmem hlt
      obtain ⟨f, hcode, hkind, hindex⟩ := hsafe.exists_hook hmem''
      obtain rfl : f = hook := hinj (hcode.trans (hwritten.symm.trans hvalue))
      refine ⟨hindex.trans heq, .inr ⟨hkind.symm, ?_, _, rfl,
        Nat.le_of_eq (length_readTable _ _ _).symm, ?_⟩⟩
      · rw [hindex]
        exact hfresh.hooks_lt hook'' hmem''
      · rw [hindex]
        exact exists_of_getD_ne (hfresh.originals hook'' hmem'').1
    · -- any other entry is what the object's table holds
      have hapart : ∀ hook' ∈ hooks, Apart (slot clone.clonedAddress hook'.index)
          (slot clone.clonedAddress k) := fun hook' hmem =>
        apart_slot _ (fun heq => hhooked ⟨hook', hmem, heq⟩) (hlt hook' hmem) (by omega)
      rw [readPointer_writeHooks_of_apart hapart, hclones.readPointer_slot
        (hsafe.unused_region information hclones.query) (by omega)] at hvalue
      obtain ⟨hindex, i, hi⟩ := hs.exposed object l _ k hook hsafe.live (.inl rfl) hk hvalue
      exact ⟨hindex, .inl ⟨i, serves_withMemory.mpr hi⟩⟩
  exact hstored.beginPublishing hw hprivate hfresh.noRecord hunused

end PublicationState

end Begin

/-! ### The stores of a fresh installation -/

namespace PublicationState

variable {record : ShadowRecord}

/-- The record is appended, and the exchange is next. -/
def publishRecord (s : PublicationState) (record : ShadowRecord) (g : ShadowGeneration) :
    PublicationState :=
  { s with
    shadow := s.shadow.publishShadowRecord record
    installer := .exchanging s.shadow.records.length record g }

/-- A record was there before, or is the one that is published. -/
theorem getElem?_publishRecord {r : ShadowRecord}
    (h : (s.publishRecord record g).shadow.records[i]? = some r) :
    s.shadow.records[i]? = some r ∨ i = s.shadow.records.length ∧ r = record := by
  change (s.shadow.records ++ [record])[i]? = some r at h
  obtain hlt | hle := Nat.lt_or_ge i s.shadow.records.length
  · rw [List.getElem?_append_left hlt] at h
    exact .inl h
  · rw [List.getElem?_append_right hle, List.getElem?_singleton] at h
    split at h
    · next hi => exact .inr ⟨by omega, (Option.some.inj h).symm⟩
    · exact nomatch h

/-- Records that were there stay where they are. -/
theorem getElem?_publishRecord_of_eq {r : ShadowRecord} (h : s.shadow.records[i]? = some r) :
    (s.publishRecord record g).shadow.records[i]? = some r :=
  (List.getElem?_append_left (List.getElem?_eq_some_iff.mp h).1).trans h

/-- A record is published next to others for which none is active. -/
theorem uniqueActive_publishShadowRecord (h : s.shadow.UniqueActive)
    (hnone : s.shadow.findShadowRecord record.object record.kind = none) :
    (s.shadow.publishShadowRecord record).UniqueActive := by
  rw [uniqueActive_iff] at h ⊢
  refine (NewestFirst.Evolves.of_append (R := Eq) (N := (· = record)) (fun _ => rfl) rfl
    rfl).pairwise (fun _ _ h => h.symm) ?_ ?_ h
  · rintro r _ r' _ rfl rfl hne
    exact hne
  · rintro i r _ _ hr rfl rfl hactive _ hobject hkind
    rw [ShadowState.findShadowRecord_eq_none.mp hnone i r hr hobject hkind] at hactive
    exact nomatch hactive

/-- **The record is published** before the object points at its shadow. -/
theorem Ordered.publishRecord (hs : s.Ordered code) (hw : s.installer = .publishing record g) :
    (s.publishRecord record g).Ordered code := by
  have hok := hs.installer
  rw [hw] at hok
  obtain ⟨⟨l, hprivate⟩, hnone⟩ := hok
  have hflight : s.installer.inFlight = none := by
    rw [hw]
    rfl
  have hback : ∀ i g', (s.publishRecord record g).IsShadow i g' → s.IsShadow i g' := by
    rintro i g' (⟨r, hr, g₀, hg₀, hsame⟩ | ⟨g₀, hg₀, hsame⟩)
    · obtain hr | ⟨-, rfl⟩ := getElem?_publishRecord hr
      · exact .inl ⟨r, hr, g₀, hg₀, hsame⟩
      · -- the new record has no generation yet
        rw [hprivate.unpublished] at hg₀
        exact nomatch hg₀
    · refine .inr ⟨g₀, ?_, hsame⟩
      rw [hw]
      exact hg₀
  -- the new record is in flight, so it is not settled
  have hlater : s.Later (s.publishRecord record g) := by
    refine .of_continues (fun _ _ => id) (fun _ _ => rfl)
      (fun caller _ index _ _ hcaller => .inr (.inl ⟨caller, index, hcaller⟩))
      (fun i g' _ _ => hback i g') ?_ ?_
    · intro i r hr _ _ _
      refine ⟨fun h => ?_, r, getElem?_publishRecord_of_eq hr.1, .refl r⟩
      have hlt := (List.getElem?_eq_some_iff.mp hr.1).1
      have hi : s.shadow.records.length = i := Option.some.inj h
      omega
    · intro i r hr _ hnot
      obtain hr' | ⟨rfl, -⟩ := getElem?_publishRecord hr.1
      · exact ⟨by rw [hflight]; exact nofun, r, hr', .refl r⟩
      · exact absurd rfl hnot
  have hlength : (s.publishRecord record g).shadow.records.length =
      s.shadow.records.length + 1 := List.length_append
  refine ⟨uniqueActive_publishShadowRecord hs.unique hnone, ?_, ?_, hs.placed.later hlater hback,
    hs.exposed.later hlater fun _ _ _ _ _ _ _ _ => id,
    fun caller => (hs.callers caller).persists (fun _ _ _ => rfl) hlater.serves, ?_⟩
  · intro x l hl
    rw [hlength]
    exact Nat.le_succ_of_le (hs.born_le x l hl)
  · intro i r hr _
    obtain hr | ⟨-, rfl⟩ := getElem?_publishRecord hr
    · exact hs.sized i r hr (by rw [hw]; exact nofun)
    · refine ⟨hprivate.saved, ?_, ?_⟩
      · rw [hprivate.unpublished]
        exact nofun
      · rw [hprivate.unpublished]
        exact nofun
  · exact ⟨l, hprivate.persists rfl hlater.serves fun _ _ _ => id, List.getElem?_concat_length,
      hs.born_le _ l hprivate.live⟩

/-- The object points at its shadow, and its first generation is next. -/
def exchanged (s : PublicationState) (i : Nat) (x : UInt64) (g : ShadowGeneration) :
    PublicationState :=
  (s.withMemory (s.shadow.memory.writePointer x g.vtable)).withInstaller
    (.publishingGeneration i x g)

section Exchange

variable (hw : s.installer = .exchanging i record g)

include hw

/-- The exchange adds no shadow: the new one was the installer's. -/
theorem isShadow_exchanged {x : UInt64} {j : Nat} {g' : ShadowGeneration} :
    (s.exchanged i x g).IsShadow j g' ↔ s.IsShadow j g' := by
  rw [IsShadow, IsShadow, hw]
  exact .rfl

variable (hprivate : PrivateShadow code s record g l)
  (hrecord : s.shadow.records[i]? = some record) (hborn : l.born ≤ i)

include hprivate hrecord hborn

/-- The exchange settles the record. -/
theorem settled_exchanged {j : Nat} {y : UInt64} :
    (s.exchanged i record.object g).Settled j y ↔
      s.Settled j y ∨ j = i ∧ y = record.object := by
  constructor
  · rintro ⟨hr, hlive, -⟩
    by_cases hj : j = i
    · subst hj
      obtain ⟨r, hr, rfl, -⟩ := hr
      obtain rfl : record = r := Option.some.inj (hrecord.symm.trans hr)
      exact .inr ⟨rfl, rfl⟩
    · refine .inl ⟨hr, hlive, ?_⟩
      rw [hw]
      exact fun h => hj (Option.some.inj h).symm
  · rintro (h | ⟨rfl, rfl⟩)
    · exact ⟨h.record, h.live, nofun⟩
    · exact ⟨⟨record, hrecord, rfl, hprivate.active⟩, ⟨l, hprivate.live, hborn⟩, nofun⟩

/-- What was served is served after the exchange. -/
theorem serves_exchanged {j : Nat} {y : UInt64} (h : s.Serves j y hook) :
    (s.exchanged i record.object g).Serves j y hook :=
  ⟨(settled_exchanged hw hprivate hrecord hborn).mpr (.inl h.1), h.2⟩

variable (hs : s.Placed)

include hs

/-- The only new table is the shadow. -/
theorem tableOf_exchanged {y w : UInt64} {l' : LiveObject} (hl' : s.live y = some l')
    (hv : (s.exchanged i record.object g).TableOf y w) :
    s.TableOf y w ∨ y = record.object ∧ l' = l ∧ w = g.vtable := by
  have hg : s.IsShadow i g := .of_installer (by rw [hw]; rfl)
  have hx := hs.object_aligned record.object (ne_none_of_eq_some hprivate.live)
  have hy := hs.object_aligned y (ne_none_of_eq_some hl')
  obtain hpoints | hcaller | ⟨j, g', hg', hj, rfl⟩ := hv
  · change (s.shadow.memory.writePointer record.object g.vtable).readPointer y = w at hpoints
    rw [readPointer_writePointer_of_aligned _ hx hy] at hpoints
    split at hpoints
    · next heq =>
      subst heq hpoints
      exact .inr ⟨rfl, Option.some.inj (hl'.symm.trans hprivate.live), rfl⟩
    · exact .inl (.inl hpoints)
  · exact .inl (.inr (.inl hcaller))
  · have hold := (isShadow_exchanged hw).mp hg'
    obtain hj | ⟨rfl, rfl⟩ := (settled_exchanged hw hprivate hrecord hborn).mp hj
    · exact .inl (.inr (.inr ⟨j, g', hold, hj, rfl⟩))
    · exact .inr ⟨rfl, Option.some.inj (hl'.symm.trans hprivate.live),
        (hs.one_shadow j g' g hold hg).1⟩

/-- The object's new table is where its shadow was placed. -/
theorem placed_exchanged : (s.exchanged i record.object g).Placed where
  object_aligned := hs.object_aligned
  entries_lt := hs.entries_lt
  table_aligned y w hy hv := by
    obtain ⟨l', hl'⟩ := Option.ne_none_iff_exists'.mp hy
    obtain hv | ⟨-, -, rfl⟩ := tableOf_exchanged hw hprivate hrecord hborn hs hl' hv
    · exact hs.table_aligned y w hy hv
    · exact (hs.shadow_aligned i g (.of_installer (by rw [hw]; rfl))).1
  table_object y l' w k hl' hv hk := by
    obtain hv | ⟨-, rfl, rfl⟩ := tableOf_exchanged hw hprivate hrecord hborn hs hl' hv
    · exact hs.table_object y l' w k hl' hv hk
    · exact hs.shadow_object i g k (.of_installer (by rw [hw]; rfl))
        (Nat.lt_of_lt_of_le hk hprivate.entries)
  shadow_aligned j g' hg' := hs.shadow_aligned j g' ((isShadow_exchanged hw).mp hg')
  shadow_object j g' k hg' := hs.shadow_object j g' k ((isShadow_exchanged hw).mp hg')
  shadow_table j g' k y l' w k' hg' hk hl' hv hk' heq := by
    have hold := (isShadow_exchanged hw).mp hg'
    obtain hv | ⟨rfl, rfl, rfl⟩ := tableOf_exchanged hw hprivate hrecord hborn hs hl' hv
    · obtain ⟨hj, hvtable⟩ := hs.shadow_table j g' k y l' w k' hold hk hl' hv hk' heq
      exact ⟨(settled_exchanged hw hprivate hrecord hborn).mpr (.inl hj), hvtable⟩
    · -- the shadow is that of the record that the exchange settles
      have hg : s.IsShadow i g := .of_installer (by rw [hw]; rfl)
      obtain rfl := hs.shadow_shadow j g' k i g k' hold hk hg
        (Nat.lt_of_lt_of_le hk' hprivate.entries) heq
      exact ⟨(settled_exchanged hw hprivate hrecord hborn).mpr (.inr ⟨rfl, rfl⟩),
        (hs.one_shadow j g' g hold hg).1⟩
  shadow_shadow i₁ g₁ k₁ i₂ g₂ k₂ hg₁ hk₁ hg₂ := hs.shadow_shadow i₁ g₁ k₁ i₂ g₂ k₂
    ((isShadow_exchanged hw).mp hg₁) hk₁ ((isShadow_exchanged hw).mp hg₂)
  one_shadow j g₁ g₂ hg₁ hg₂ := hs.one_shadow j g₁ g₂ ((isShadow_exchanged hw).mp hg₁)
    ((isShadow_exchanged hw).mp hg₂)
  shadow_entries j g' y l' hg' hj hl' := by
    have hold := (isShadow_exchanged hw).mp hg'
    obtain hj | ⟨rfl, rfl⟩ := (settled_exchanged hw hprivate hrecord hborn).mp hj
    · exact hs.shadow_entries j g' y l' hold hj hl'
    · obtain rfl := Option.some.inj (hl'.symm.trans hprivate.live)
      rw [(hs.one_shadow j g' g hold (.of_installer (by rw [hw]; rfl))).2]
      exact hprivate.entries

end Exchange

/-- **The exchange**: the object points at its shadow, whose record is published. -/
theorem Ordered.exchange (hs : s.Ordered code) (hw : s.installer = .exchanging i record g) :
    (s.exchanged i record.object g).Ordered code := by
  have hok := hs.installer
  rw [hw] at hok
  obtain ⟨l, hprivate, hrecord, hborn⟩ := hok
  have hg : s.IsShadow i g := .of_installer (by rw [hw]; rfl)
  have hnew : (s.exchanged i record.object g).Settled i record.object :=
    (settled_exchanged hw hprivate hrecord hborn).mpr (.inr ⟨rfl, rfl⟩)
  have hserves : ∀ j y hook, s.Serves j y hook →
      (s.exchanged i record.object g).Serves j y hook :=
    fun _ _ _ => serves_exchanged hw hprivate hrecord hborn
  -- an object is no slot, so the exchange changes no entry of any table
  have hexposed : (s.exchanged i record.object g).Exposed code := by
    intro y l' w k hook hl' hv hk hvalue
    change (s.shadow.memory.writePointer record.object g.vtable).readPointer (slot w k) =
      code hook at hvalue
    obtain hv | ⟨rfl, rfl, rfl⟩ := tableOf_exchanged hw hprivate hrecord hborn hs.placed hl' hv
    · have haligned := hs.placed.table_aligned y w (ne_none_of_eq_some hl') hv
      rw [readPointer_storePointer hs hprivate.live (haligned.slot k)
        (hs.placed.table_object y l' w k hl' hv hk)] at hvalue
      obtain ⟨hindex, j, hj⟩ := hs.exposed y l' w k hook hl' hv hk hvalue
      exact ⟨hindex, j, hserves j y hook hj⟩
    · -- what the shadow holds is served by the new record, or was by another
      have haligned := (hs.placed.shadow_aligned i g hg).1
      rw [readPointer_storePointer hs hprivate.live (haligned.slot k)
        (hs.placed.shadow_object i g k hg (Nat.lt_of_lt_of_le hk hprivate.entries))] at hvalue
      obtain ⟨hindex, ⟨j, hj⟩ | hnewServes⟩ := hprivate.exposed k hk hook hvalue
      · exact ⟨hindex, j, hserves j _ hook hj⟩
      · exact ⟨hindex, i, hnew, record, hrecord, hnewServes⟩
  exact ⟨hs.unique, hs.born_le, fun j r hr _ => hs.sized j r hr (by rw [hw]; exact nofun),
    placed_exchanged hw hprivate hrecord hborn hs.placed, hexposed,
    fun caller => (hs.callers caller).persists (fun _ _ _ => rfl) fun j y hook _ =>
      hserves j y hook,
    record, hrecord, hnew, hprivate.unpublished, hprivate.count⟩

/-- The exchange is lost. -/
theorem Ordered.loseExchange (hs : s.Ordered code) (hw : s.installer = .exchanging i record g) :
    (s.withInstaller (.retiring i record.object)).Ordered code := by
  have hok := hs.installer
  rw [hw] at hok
  obtain ⟨l, hprivate, hrecord, hborn⟩ := hok
  refine hs.withInstaller (fun _ _ h => nomatch h) (by rw [hw]; rfl) (by rw [hw]; rfl) ?_
  exact ⟨record, l, hrecord, rfl, hprivate.live, hborn⟩

/-- The record of a lost exchange was never settled. -/
theorem Ordered.retireLost (hs : s.Ordered code) (hw : s.installer = .retiring i x) :
    (s.withRecord i ShadowRecord.retire .idle).Ordered code := by
  have hflight : s.installer.inFlight = some i := by
    rw [hw]
    rfl
  refine hs.retireRecord (fun x hx => hx.notInFlight hflight) ?_ (fun _ _ h => nomatch h)
    (by rw [hw]; rfl) fun _ => trivial
  intro j hij
  rw [hflight]
  exact ⟨fun h => (nomatch h), fun h => absurd (Option.some.inj h) hij⟩

/-- The first generation is published. -/
theorem Ordered.publishGeneration (hs : s.Ordered code)
    (hw : s.installer = .publishingGeneration i x g) :
    (s.withRecord i (·.publishShadowGeneration g) .idle).Ordered code := by
  have hok := hs.installer
  rw [hw] at hok
  obtain ⟨r, hr, -, hgens, hcount⟩ := hok
  refine hs.withRecord (fun r' _ => continues_generation r' _) (by rw [hw]; rfl) ?_ ?_ ?_ trivial
  · intro j g' hg'
    refine isShadow_withRecord ?_ ?_ hg'
    · intro r' hr' g₀ hg₀
      obtain rfl | hg₀ := List.mem_cons.mp hg₀
      · refine .of_installer ?_
        rw [hw]
        rfl
      · exact .of_mem hr' hg₀
    · exact fun _ _ h => nomatch h
  · intro j _
    rw [hw]
    exact .rfl
  · -- the first generation is the only one
    intro _ r' hr'
    obtain rfl := Option.some.inj (hr.symm.trans hr')
    have hsized := hs.sized i r hr (by rw [hw]; exact nofun)
    have hone : (r.publishShadowGeneration g).generations = [g] := congrArg (g :: ·) hgens
    refine ⟨hsized.saved, ?_, ?_⟩
    · intro g₁ hg₁ g₂ hg₂
      rw [hone] at hg₁ hg₂
      rw [List.mem_singleton.mp hg₁, List.mem_singleton.mp hg₂]
    · intro g₁ hg₁
      rw [hone] at hg₁
      obtain rfl := Option.some.inj hg₁
      exact hcount

/-! ### Every run -/

/-- An installation up to its first visible store. -/
theorem Ordered.install {o : InstallOutcome} {object : UInt64} {kind : ShadowKind}
    {entryCount : Nat} {hooks : List VtableHook} (hinj : Function.Injective code)
    (hs : s.Ordered code) (hw : s.installer = .idle)
    (hsafe : SafeBegin code s object kind entryCount hooks o l) :
    ((s.withMemory (beginInstall o s.shadow object kind entryCount hooks).2).withInstaller
      (beginInstall o s.shadow object kind entryCount hooks).1).Ordered code := by
  have heffect : BeginEffect o s.shadow object kind entryCount hooks
      (beginInstall o s.shadow object kind entryCount hooks).1
      (beginInstall o s.shadow object kind entryCount hooks).2 := beginEffect_of_begin
  have hidle : ∀ memory, (s.withMemory memory).withInstaller .idle = s.withMemory memory := by
    intro memory
    rw [← hw]
    rfl
  generalize (beginInstall o s.shadow object kind entryCount hooks).1 = w at heffect ⊢
  generalize (beginInstall o s.shadow object kind entryCount hooks).2 = memory at heffect ⊢
  -- the installation ends, has written to its own clone, or is at its first store
  cases heffect with
  | ended =>
    rw [hidle]
    exact hs
  | abandoned clone entryCapacity cloned memory hclone hlt hmemory =>
    rw [hidle]
    refine hs.writeUnused hw hsafe fun p hp => ?_
    obtain rfl | rfl := hmemory
    · exact readPointer_cloned hclone hp
    · exact readPointer_hooked hclone hp hlt
  | fresh root clone entryCapacity cloned hfresh => exact hs.beginFresh hinj hw hsafe hfresh
  | growing i record generation oldOriginals hgrow => exact hs.beginGrowing hw hsafe hgrow

/-- **A store of the installer.** -/
theorem Ordered.store {w : Installer} {t : ShadowState} (hinj : Function.Injective code)
    (hs : s.Ordered code) (h : s.installer.store s.shadow = some (w, t)) :
    ({ s with installer := w, shadow := t } : PublicationState).Ordered code := by
  -- one lemma for each state of the installer
  cases hw : s.installer with
  | idle =>
    rw [hw] at h
    exact nomatch h
  | publishing record generation =>
    rw [hw] at h
    obtain ⟨rfl, rfl⟩ := Prod.mk.inj (Option.some.inj h)
    exact hs.publishRecord hw
  | exchanging i record generation =>
    rw [hw, Installer.store] at h
    obtain ⟨error, heq⟩ | heq | heq := compareExchangePointer_cases s.shadow.memory
      record.object record.rootOriginalVtable generation.vtable
    · rw [heq] at h
      obtain ⟨rfl, rfl⟩ := Prod.mk.inj (Option.some.inj h)
      exact hs.loseExchange hw
    · rw [heq] at h
      obtain ⟨rfl, rfl⟩ := Prod.mk.inj (Option.some.inj h)
      exact hs.loseExchange hw
    · rw [heq] at h
      obtain ⟨rfl, rfl⟩ := Prod.mk.inj (Option.some.inj h)
      exact hs.exchange hw
  | retiring i object =>
    rw [hw] at h
    obtain ⟨rfl, rfl⟩ := Prod.mk.inj (Option.some.inj h)
    exact hs.retireLost hw
  | publishingGeneration i object generation =>
    rw [hw] at h
    obtain ⟨rfl, rfl⟩ := Prod.mk.inj (Option.some.inj h)
    exact hs.publishGeneration hw
  | storingOriginals e hooks =>
    rw [hw] at h
    obtain ⟨rfl, rfl⟩ := Prod.mk.inj (Option.some.inj h)
    exact hs.storeOriginals hw
  | storingEntryCount e hooks =>
    rw [hw] at h
    obtain ⟨rfl, rfl⟩ := Prod.mk.inj (Option.some.inj h)
    exact hs.storeEntryCount hw
  | loadingSlot e hooks =>
    rw [hw] at h
    cases hooks with
    | nil =>
      obtain ⟨rfl, rfl⟩ := Prod.mk.inj (Option.some.inj h)
      exact hs.storeGeneration hw
    | cons hook hooks =>
      rw [Installer.store] at h
      split at h
      · obtain ⟨rfl, rfl⟩ := Prod.mk.inj (Option.some.inj h)
        exact hs.loadSlot hw (.inl rfl)
      · split at h
        · obtain ⟨rfl, rfl⟩ := Prod.mk.inj (Option.some.inj h)
          exact hs.loadSlot hw (.inr rfl)
        · obtain ⟨rfl, rfl⟩ := Prod.mk.inj (Option.some.inj h)
          exact hs.loadSlot hw (.inl rfl)
  | storingSlot e hook hooks =>
    rw [hw] at h
    obtain ⟨rfl, rfl⟩ := Prod.mk.inj (Option.some.inj h)
    exact hs.storeSlot hinj hw

/-- **Every step** that is safe keeps the invariant. -/
theorem Ordered.step {a : PublicationAction} (hinj : Function.Injective code)
    (hs : s.Ordered code) (hsafe : a.Safe code s)
    (hstep : (publicationSystem code).step s a = some s') : s'.Ordered code := by
  cases a with
  | install object kind entryCount hooks o =>
    obtain ⟨l, hsafe⟩ := hsafe
    dsimp only [publicationSystem] at hstep
    split at hstep
    · next hw =>
      obtain rfl := Option.some.inj hstep
      exact hs.install hinj hw hsafe
    · exact nomatch hstep
  | store =>
    obtain ⟨⟨w, t⟩, hstore, rfl⟩ := Option.map_eq_some_iff.mp hstep
    exact hs.store hinj hstore
  | call caller object index =>
    dsimp only [publicationSystem] at hstep
    split at hstep
    · next l _ hl =>
      split at hstep
      · next hindex =>
        obtain rfl := Option.some.inj hstep
        refine hs.withCaller caller _ ?_ ⟨l, hl, hindex⟩
        intro x index v h
        obtain ⟨rfl, rfl, rfl⟩ := Caller.loadedVtable.inj h
        exact .inl rfl
      · exact nomatch hstep
    · exact nomatch hstep
  | load caller =>
    obtain ⟨c, hload, rfl⟩ := Option.map_eq_some_iff.mp hstep
    refine hs.withCaller caller c ?_ ?_
    · exact fun x index v h => (load_ne_loadedVtable hload x index v h).elim
    · exact (hs.callers caller).load hs (fun x index v h => .inr (.inl ⟨caller, index, h⟩)) hload
  | write address value =>
    -- the vtable pointer of a live object, or memory that belongs to none
    obtain rfl := Option.some.inj hstep
    cases hl : s.live address with
    | none => exact hs.storeValue hsafe.aligned hl (hsafe.value hl)
    | some l => exact hs.storePointer hl (hsafe.pointer l hl)
  | create object entries =>
    dsimp only [publicationSystem] at hstep
    split at hstep
    · next hnone =>
      obtain rfl := Option.some.inj hstep
      exact hs.create hnone hsafe
    · exact nomatch hstep
  | destroy object =>
    obtain rfl := Option.some.inj hstep
    exact hs.destroy hsafe.1 hsafe.2
  | retire i =>
    obtain rfl := Option.some.inj hstep
    exact hs.retire hsafe

/-- **The invariant holds after any run** of safe steps. -/
theorem ordered_of_reachable (hinj : Function.Injective code)
    (h : (publicationSystem code).ReachableWhere (fun s a => a.Safe code s) s) :
    s.Ordered code := by
  refine h.invariant ?_ fun _ _ _ hs hsafe hstep => hs.step hinj hsafe hstep
  -- at first there are no records, no objects and no callers, so every part is vacuous
  rintro s ⟨hrecords, hinstaller, hcallers, hlive⟩
  have hno : ∀ x l, s.live x ≠ some l := by
    intro x l
    rw [hlive x]
    exact nofun
  have hrecord : ∀ (i : Nat) (r : ShadowRecord), s.shadow.records[i]? ≠ some r := by
    intro i r
    rw [hrecords]
    exact nofun
  have hshadow : ∀ i g, ¬ s.IsShadow i g := by
    rintro i g (⟨r, hr, -⟩ | ⟨g', hg', -⟩)
    · exact hrecord i r hr
    · rw [hinstaller] at hg'
      exact nomatch hg'
  refine ⟨fun i _ r _ hr => absurd hr (hrecord i r), fun x l hl => absurd hl (hno x l),
    fun i r hr => absurd hr (hrecord i r), ?_, fun x l _ _ _ hl => absurd hl (hno x l), ?_, ?_⟩
  · exact ⟨fun x hx => absurd (hlive x) hx, fun x l hl => absurd hl (hno x l),
      fun x _ hx => absurd (hlive x) hx, fun x l _ _ hl => absurd hl (hno x l),
      fun i g hg => absurd hg (hshadow i g), fun i g _ hg => absurd hg (hshadow i g),
      fun i g _ _ _ _ _ hg => absurd hg (hshadow i g),
      fun i g _ _ _ _ hg => absurd hg (hshadow i g),
      fun i g _ hg => absurd hg (hshadow i g), fun i g _ _ hg => absurd hg (hshadow i g)⟩
  · intro caller
    rw [hcallers caller]
    trivial
  · rw [hinstaller]
    trivial

end PublicationState

end Shadow
end WindowedHdr
