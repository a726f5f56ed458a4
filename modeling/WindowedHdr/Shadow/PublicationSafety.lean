import Mathlib.Data.Prod.Lex
import WindowedHdr.Shadow.PublicationStores

/-!
# What callers find

A caller that obtained one of our replacements from a slot obtains the function that was saved
for it, whatever is stored between its loads (`callers_obtain_saved_functions`):

* `Caller.Sees` is what it sees at each of its loads: an active record of the object with
  enough entries, and an entry within the originals that it loaded, which is not null;
* `Caller.loadsLeft` decreases with each of its loads, and no other step changes where it is, so
  that it is not kept from the function either.

The theorem is what `CallerOk` of the invariant says once the record that serves is known to be
the one that is found (`Serves.findShadowRecord`). The measure orders the stages of a caller,
and within its search the records that it still has to compare. The sample run stops a caller
between two of its loads, lets an expansion replace the table that it is about to read, and goes
on with it.
-/

namespace WindowedHdr
namespace Shadow

open ByteMemory Usize Windows

variable {code : HookFunction → UInt64} {s : PublicationState} {object : UInt64} {i : Nat}
  {hook : HookFunction}

/-- **What a caller sees.** -/
def Caller.Sees (s : ShadowState) : Caller → Prop
  | .outside | .loadedVtable _ _ _ => True
  | .replaced object index hook =>
    hook.index = index ∧ ∃ i r, s.findShadowRecord object hook.kind = some i ∧
      s.records[i]? = some r ∧ index < r.entryCount
  | .searching object index hook n =>
    hook.index = index ∧ ∃ i r, i < n ∧ s.findShadowRecord object hook.kind = some i ∧
      s.records[i]? = some r ∧ index < r.entryCount
  | .found object index hook i | .counted object index hook i =>
    hook.index = index ∧ ∃ r, s.records[i]? = some r ∧ r.object = object ∧ r.kind = hook.kind ∧
      r.active = true ∧ index < r.entryCount
  | .loadedOriginals _ index hook originals =>
    hook.index = index ∧ ∃ h : index < originals.length, originals[index] ≠ 0
  | .saved _ index hook function => hook.index = index ∧ function ≠ 0
  | .failed _ _ _ _ => False

/-- How far a caller is from having returned, and in its search, how many records are left. -/
def Caller.loadsLeft : Caller → Nat ×ₗ Nat
  | .outside => toLex (0, 0)
  | .saved _ _ _ _ | .failed _ _ _ _ => toLex (0, 1)
  | .loadedOriginals _ _ _ _ => toLex (0, 2)
  | .counted _ _ _ _ => toLex (0, 3)
  | .found _ _ _ _ => toLex (0, 4)
  | .searching _ _ _ n => toLex (1, n)
  | .replaced _ _ _ => toLex (2, 0)
  | .loadedVtable _ _ _ => toLex (3, 0)

namespace PublicationState

/-- A record that serves a replacement is the one that is found for it. -/
theorem Serves.findShadowRecord (hs : s.Ordered code) (h : s.Serves i object hook) :
    ∃ r, s.shadow.findShadowRecord object hook.kind = some i ∧
      s.shadow.records[i]? = some r ∧ hook.index < r.entryCount := by
  obtain ⟨hsettled, r, hr, hserves⟩ := h
  obtain ⟨-, rfl, hactive⟩ := hsettled.current hr
  refine ⟨r, ?_, hr, hserves.index_lt⟩
  rw [← hserves.kind]
  exact hs.unique.findShadowRecord hr hactive

/-- What a caller relies on is what it sees. -/
theorem CallerOk.sees (hs : s.Ordered code) {c : Caller} (hc : s.CallerOk c) :
    c.Sees s.shadow := by
  -- once the record is found, it is the one that serves the replacement
  have hrecord : ∀ {object index hook i}, hook.index = index → s.Serves i object hook →
      ∃ r, s.shadow.records[i]? = some r ∧ r.object = object ∧ r.kind = hook.kind ∧
        r.active = true ∧ index < r.entryCount := by
    rintro object index hook i rfl ⟨hsettled, r, hr, hserves⟩
    obtain ⟨-, hobject, hactive⟩ := hsettled.current hr
    exact ⟨r, hr, hobject, hserves.kind, hactive, hserves.index_lt⟩
  cases c with
  | outside => trivial
  | loadedVtable object index vtable => trivial
  | replaced object index hook =>
    obtain ⟨rfl, i, hi⟩ := hc
    obtain ⟨r, hfound, hr, hlt⟩ := hi.findShadowRecord hs
    exact ⟨rfl, i, r, hfound, hr, hlt⟩
  | searching object index hook n =>
    obtain ⟨rfl, i, hn, hi⟩ := hc
    obtain ⟨r, hfound, hr, hlt⟩ := hi.findShadowRecord hs
    exact ⟨rfl, i, r, hn, hfound, hr, hlt⟩
  | found object index hook i => exact ⟨hc.1, hrecord hc.1 hc.2⟩
  | counted object index hook i => exact ⟨hc.1, hrecord hc.1 hc.2⟩
  | loadedOriginals object index hook originals =>
    obtain ⟨rfl, function, hfunction, hne⟩ := hc
    obtain ⟨hlt, rfl⟩ := List.getElem?_eq_some_iff.mp hfunction
    exact ⟨rfl, hlt, hne⟩
  | saved object index hook function => exact hc
  | failed object index hook failure => exact hc

end PublicationState

/-- **Each load brings a caller closer to its return.** -/
theorem Caller.loadsLeft_lt_of_load {t : ShadowState} {c c' : Caller}
    (h : c.load code t = some c') : c'.loadsLeft < c.loadsLeft := by
  -- a new stage, or a step within the search or behind it
  have hfirst : ∀ {a b n m : Nat}, a < b → toLex (a, n) < toLex (b, m) :=
    fun hlt => Prod.Lex.toLex_lt_toLex.mpr (.inl hlt)
  have hsecond : ∀ {a n m : Nat}, n < m → toLex (a, n) < toLex (a, m) :=
    fun hlt => Prod.Lex.toLex_lt_toLex.mpr (.inr ⟨rfl, hlt⟩)
  cases c with
  | outside => exact nomatch h
  | loadedVtable object index vtable =>
    obtain rfl := Option.some.inj h
    split
    · exact hfirst (by decide)
    · exact hfirst (by decide)
  -- the search begins with all records before it
  | replaced object index hook =>
    obtain rfl := Option.some.inj h
    exact hfirst (by decide)
  | searching object index hook n =>
    cases n with
    | zero =>
      obtain rfl := Option.some.inj h
      exact hfirst (by decide)
    -- the record is the one, or one fewer is left
    | succ n =>
      obtain rfl := Option.some.inj h
      split
      · exact hfirst (by decide)
      · exact hsecond (Nat.lt_succ_self n)
  | found object index hook i =>
    obtain rfl := Option.some.inj h
    split
    · exact hsecond (by decide)
    · split
      · exact hsecond (by decide)
      · exact hsecond (by decide)
  | counted object index hook i =>
    obtain rfl := Option.some.inj h
    split
    · exact hsecond (by decide)
    · exact hsecond (by decide)
  | loadedOriginals object index hook originals =>
    obtain rfl := Option.some.inj h
    split
    · exact hsecond (by decide)
    · split
      · exact hsecond (by decide)
      · exact hsecond (by decide)
  | saved object index hook function =>
    obtain rfl := Option.some.inj h
    exact hsecond (by decide)
  | failed object index hook failure =>
    obtain rfl := Option.some.inj h
    exact hsecond (by decide)

/-- A caller that has not returned has a next load. -/
theorem Caller.exists_load {t : ShadowState} {c : Caller} (h : c ≠ .outside) :
    ∃ c', c.load code t = some c' := by
  cases c with
  | outside => exact absurd rfl h
  | searching object index hook n =>
    cases n with
    | zero => exact ⟨_, rfl⟩
    | succ n => exact ⟨_, rfl⟩
  | _ => exact ⟨_, rfl⟩

/-- **Callers obtain saved functions.** After any interleaving of installations, store by store,
with callers, load by load, and with what other modules do, a caller that obtained one of our
replacements from a slot finds an active record with more entries, loads originals that hold
the entry of the slot, and obtains a function that is not null; and until it has returned, it
has a next load, which brings it closer. -/
theorem callers_obtain_saved_functions (hcode : Function.Injective code)
    (hs : (publicationSystem code).ReachableWhere (fun s a => a.Safe code s) s) (caller : Nat) :
    (s.callers caller).Sees s.shadow ∧
      (s.callers caller ≠ .outside → ∃ c, (s.callers caller).load code s.shadow = some c ∧
        c.loadsLeft < (s.callers caller).loadsLeft) := by
  -- the invariant of all safe runs says what the caller relies on
  have hordered := PublicationState.ordered_of_reachable hcode hs
  refine ⟨(hordered.callers caller).sees hordered, fun hne => ?_⟩
  obtain ⟨c, hload⟩ := Caller.exists_load hne
  exact ⟨c, hload, Caller.loadsLeft_lt_of_load hload⟩

/-! ### A sample run

The sample object is created and shadowed, and `Present` is called on it. When the caller has
compared the entry with the number of entries, an expansion replaces the originals. -/

/-- The sample replacements lie at different addresses. -/
theorem sampleCode_injective : Function.Injective sampleCode := by
  have hall : ∀ f ∈ HookFunction.all, ∀ f' ∈ HookFunction.all,
      sampleCode f = sampleCode f' → f = f' := by decide +kernel
  exact fun f f' h => hall f f.mem_all f' f'.mem_all h

def samplePublication : PublicationState where
  shadow := sampleState
  installer := .idle
  callers _ := .outside
  live _ := none

/-- The sample starts without records, objects and callers. -/
theorem samplePublication_init : (publicationSystem sampleCode).Init samplePublication :=
  ⟨rfl, rfl, fun _ => rfl, fun _ => rfl⟩

/-- The sample object with a vtable of 41 entries. -/
def sampleCreated : PublicationState :=
  samplePublication.withLive sampleObject (some ⟨0, 41⟩)

/-- Without records there are no shadows. -/
theorem samplePublication_not_isShadow (j : Nat) (g : ShadowGeneration) :
    ¬ samplePublication.IsShadow j g := by
  rintro (⟨r, hr, -⟩ | ⟨g', hg', -⟩)
  · exact nomatch hr
  · exact nomatch hg'

/-- The sample object points at the sample table. -/
theorem sampleRoot_eq : sampleState.memory.readPointer sampleObject = sampleRoot :=
  sampleState_fresh.root_eq

/-- The object is created apart from everything, with a table that holds none of the replacements.
-/
theorem sampleCreate_safe : SafeCreate sampleCode samplePublication sampleObject 41 := by
  have houtside : ∀ a, samplePublication.Outside a :=
    fun a => ⟨rfl, fun j g _ hg => (samplePublication_not_isShadow j g hg).elim⟩
  have hroot : samplePublication.shadow.memory.readPointer sampleObject = sampleRoot :=
    sampleRoot_eq
  refine ⟨by decide, by rw [hroot]; decide, by decide, houtside _, fun _ _ _ _ h => (nomatch h),
    ?_⟩
  rw [hroot]
  -- the slots of the sample table are evaluated once
  have hslots : ∀ k < 41, slot sampleRoot k ≠ sampleObject ∧ ∀ f ∈ HookFunction.all,
      sampleState.memory.readPointer (slot sampleRoot k) ≠ sampleCode f := by decide +kernel
  intro k hk
  exact ⟨(hslots k hk).1, houtside _, fun f => (hslots k hk).2 f f.mem_all⟩

/-- The object's vtable is the only table. -/
theorem sampleCreated_tableOf {x v : UInt64} (h : sampleCreated.TableOf x v) :
    sampleState.memory.readPointer x = v := by
  obtain hpoints | ⟨caller, index, hcaller⟩ | ⟨i, g, hg, -⟩ := h
  · exact hpoints
  · exact nomatch hcaller
  · exact (samplePublication_not_isShadow i g hg).elim

/-- The sample object is the only one. -/
theorem sampleCreated_live {x : UInt64} {l : LiveObject} (h : sampleCreated.live x = some l) :
    x = sampleObject ∧ l = ⟨0, 41⟩ := by
  have h : Function.update (fun _ => none) sampleObject (some ⟨0, 41⟩) x = some l := h
  rw [Function.update_apply] at h
  split at h
  · next heq => exact ⟨heq, (Option.some.inj h).symm⟩
  · exact nomatch h

/-- The hooks of a sample installation are the replacements of their slots. -/
theorem sampleHooks_safe : ∀ entryCount ≤ 41, ∀ hook ∈ ShadowKind.swapChain.hooks sampleCode
    entryCount, shadowReplacement sampleCode .swapChain hook.index = some hook.replacement := by
  decide +kernel

/-- The clone of the sample installation is allocated above everything in use. -/
theorem sampleInstall_safe : SafeBegin sampleCode sampleCreated sampleObject .swapChain 18
    (ShadowKind.swapChain.hooks sampleCode 18) sampleOutcome ⟨0, 41⟩ where
  live := by decide +kernel
  hooks := sampleHooks_safe 18 (by decide)
  entries := by decide
  clone := by
    intro clone entryCapacity cloned h
    have hsample : cloneVtable sampleOutcome sampleCreated.shadow.memory
        (sampleCreated.shadow.memory.readPointer sampleObject) 18 =
          .ok (sampleClone, 96, sampleCloned) := by
      rw [show sampleCreated.shadow.memory.readPointer sampleObject = sampleRoot from sampleRoot_eq]
      exact sampleState_fresh.cloneVtable
    -- what the installation clones is known, so its numbers are compared
    obtain ⟨rfl, rfl, rfl⟩ : clone = sampleClone ∧ entryCapacity = 96 ∧ cloned = sampleCloned := by
      simpa using Except.ok.inj (h.symm.trans hsample)
    decide
  unused_region := by
    intro information h
    obtain rfl := Option.some.inj h
    exact sampleOutcomeAt_allocatesApartFrom (by decide) (by decide)
  unused_objects := by
    intro x hx
    obtain ⟨l, hl⟩ := Option.ne_none_iff_exists'.mp hx
    obtain ⟨rfl, -⟩ := sampleCreated_live hl
    exact sampleOutcomeAt_allocatesApartFrom (by decide) (by decide)
  unused_tables := by
    intro x l v k hl hv hk
    obtain ⟨rfl, rfl⟩ := sampleCreated_live hl
    -- the only table is the one that the object points at
    obtain rfl : sampleRoot = v := sampleRoot_eq.symm.trans (sampleCreated_tableOf hv)
    have hslots : ∀ k < 41, (slot sampleRoot k).toNat + 8 ≤ 0x20000 := by decide +kernel
    exact sampleOutcomeAt_allocatesApartFrom (hslots k hk) (by decide)
  unused_shadows j g _ hg := (samplePublication_not_isShadow j g hg).elim

/-- Nothing is allocated. -/
def sampleGrowOutcome : InstallOutcome :=
  { sampleOutcome with
    clone :=
      { virtualQuery := fun _ => none
        virtualAlloc := fun _ => 0 } }

/-- An expansion allocates nothing, so that nothing is assumed of the allocation. -/
theorem sampleGrow_safe {s : PublicationState} (hl : s.live sampleObject = some ⟨0, 41⟩) :
    SafeBegin sampleCode s sampleObject .swapChain 29 (ShadowKind.swapChain.hooks sampleCode 29)
      sampleGrowOutcome ⟨0, 41⟩ := by
  have hapart : ∀ r, sampleGrowOutcome.clone.AllocatesApartFrom r :=
    fun _ _ hne => absurd rfl hne
  refine ⟨hl, sampleHooks_safe 29 (by decide), by decide, ?_, fun _ _ => hapart _,
    fun _ _ => hapart _, fun _ _ _ _ _ _ _ => hapart _, fun _ _ _ _ _ => hapart _⟩
  -- nothing is cloned, since no region is found
  intro clone entryCapacity cloned h
  obtain ⟨information, offset, hclones, -⟩ := cloneVtable_ok h
  exact nomatch hclones.query

def sampleInstall : PublicationAction :=
  .install sampleObject .swapChain 18 (ShadowKind.swapChain.hooks sampleCode 18) sampleOutcome

def sampleGrow : PublicationAction :=
  .install sampleObject .swapChain 29 (ShadowKind.swapChain.hooks sampleCode 29) sampleGrowOutcome

/-- The shadow is installed, and `Present` is called up to the comparison. -/
def samplePresent : List PublicationAction :=
  [.store, .store, .store, .call 0 sampleObject 8, .load 0, .load 0, .load 0, .load 0]

/-- The originals are replaced, and loaded. -/
def sampleLoad : List PublicationAction := [.store, .load 0]

/-- The creation is a safe run of one step. -/
theorem sampleCreated_reachable :
    (publicationSystem sampleCode).ReachableWhere (fun s a => a.Safe sampleCode s)
      sampleCreated :=
  .step (a := .create sampleObject 41) (.init samplePublication_init) sampleCreate_safe rfl

/-- A safe installation, and then stores and loads. -/
theorem reachable_of_install {s s' : PublicationState} {a : PublicationAction}
    {as : List PublicationAction}
    (h : (publicationSystem code).ReachableWhere (fun s a => a.Safe code s) s)
    (ha : a.Safe code s) (has : ∀ s, ∀ b ∈ as, b.Safe code s)
    (hrun : (publicationSystem code).run s (a :: as) = some s') :
    (publicationSystem code).ReachableWhere (fun s a => a.Safe code s) s' := by
  rw [ActionSystem.run_cons, Option.bind_eq_some_iff] at hrun
  obtain ⟨t, ht, hrun⟩ := hrun
  exact ActionSystem.ReachableWhere.run (h.step ha ht) has hrun

/-- The caller compares the entry with the number of entries after a safe run. -/
theorem sampleCounted_reachable :
    ∃ s, (publicationSystem sampleCode).ReachableWhere (fun s a => a.Safe sampleCode s) s ∧
      (publicationSystem sampleCode).run sampleCreated
        (sampleInstall :: samplePresent) = some s ∧ s.live sampleObject = some ⟨0, 41⟩ := by
  have hlive : ((publicationSystem sampleCode).run sampleCreated
      (sampleInstall :: samplePresent)).map (·.live sampleObject) = some (some ⟨0, 41⟩) := by
    decide +kernel
  obtain ⟨s, hrun, hl⟩ := Option.map_eq_some_iff.mp hlive
  refine ⟨s, ?_, hrun, hl⟩
  refine reachable_of_install sampleCreated_reachable ?_ ?_ hrun
  · exact ⟨⟨0, 41⟩, sampleInstall_safe⟩
  · intro s
    simp [samplePresent, PublicationAction.Safe]

/-- The caller of the sample loads the originals of the expansion. -/
theorem callers_obtain_saved_functions_sample :
    ∃ s : PublicationState, s.callers 0 = .loadedOriginals sampleObject 8 .presentHook
        (List.replicate 29 0x0101010101010101) ∧
      (s.callers 0).Sees s.shadow ∧
      (s.callers 0 ≠ .outside → ∃ c, (s.callers 0).load sampleCode s.shadow = some c ∧
        c.loadsLeft < (s.callers 0).loadsLeft) := by
  obtain ⟨t, hreach, hrun, hl⟩ := sampleCounted_reachable
  have hcaller : (((publicationSystem sampleCode).run sampleCreated
      (sampleInstall :: samplePresent)).bind fun t => (publicationSystem sampleCode).run t
        (sampleGrow :: sampleLoad)).map (·.callers 0) =
      some (.loadedOriginals sampleObject 8 .presentHook
        (List.replicate 29 0x0101010101010101)) := by
    decide +kernel
  rw [hrun, Option.bind_some] at hcaller
  obtain ⟨s, hrun', hcaller⟩ := Option.map_eq_some_iff.mp hcaller
  -- the second part of the run starts where the first one ended
  have hs : (publicationSystem sampleCode).ReachableWhere (fun s a => a.Safe sampleCode s) s := by
    refine reachable_of_install hreach ?_ ?_ hrun'
    · exact ⟨⟨0, 41⟩, sampleGrow_safe hl⟩
    · intro s
      simp [sampleLoad, PublicationAction.Safe]
  exact ⟨s, hcaller, callers_obtain_saved_functions sampleCode_injective hs 0⟩

end Shadow
end WindowedHdr
