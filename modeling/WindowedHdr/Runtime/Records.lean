import WindowedHdr.Runtime.Forwarding
import WindowedHdr.Shadow.Dispatch

/-!
# Records in a running process

An installation is one step here, but everything around it is not: another thread may install,
retire or grow a record between the lookup of a record and the load of a function from it, and
other modules write to memory at any time. The records still evolve step by step as those of
whole operations do (`perform_recordsFollow`), so they stay well formed and unique, and a
function that was once found for a hooked slot is never the hook itself. Hence no hook ever
calls itself (`forwards_elsewhere`).

The steps of `shadowSystem` were whole operations, and a run of the process cuts some of them
into pieces. What the two have in common is the effect on the records, `RecordsFollow`, and so
the invariants that were derived from it hold here as well (`Reliable`). A lookup and the load
that follows it are two steps, with others between them: what was found is an index, a record
keeps its place, and its saved functions are stable (`Found.step`, `Saved.step`).
-/

namespace WindowedHdr
namespace Runtime

open Program (Calls)
open ThreadSystem (events events_subset mem_events)
open Dxgi Shadow

variable {code : HookFunction → UInt64}

/-! ### Entry points -/

/-- What a thread is there for that enters at `entry`. -/
def Entry.rights : Entry → Rights
  | .hook c => c.rights
  | _ => {}

/-- Every entry point stays within its rights. -/
theorem body_within (entry : Entry) : Calls (Call.InHook entry.rights) entry.body := by
  cases entry with
  | dllMain module reason => exact inHook_of_within (dllMain_within module reason)
  | eldenRingWindowedHdrInit polls =>
    exact inHook_of_within
      (startInitialization_within.bind fun _ =>
        within_of_unasking (waitForInitialization_ordinary polls))
  | eldenRingBorderlessHdrInit polls =>
    exact inHook_of_within
      (startInitialization_within.bind fun _ =>
        within_of_unasking (waitForInitialization_ordinary polls))
  | initializationThread => exact inHook_of_within initializationThread_within
  -- the game's threads enter here
  | hook c => exact hook_within c

/-! ### Steps -/

/-- The records evolve as under some operation; only an installation of the size of a known
interface is one. -/
def RecordsStep (code : HookFunction → UInt64) (s s' : ShadowState) : Prop :=
  ∃ a, a.FromInterfaceTable ∧ RecordsFollow code s a s'

/-- Nothing is done to the records. -/
theorem recordsStep_of_eq {s s' : ShadowState} (h : s'.records = s.records) :
    RecordsStep code s s' :=
  ⟨.write 0 0, trivial, .of_eq h⟩

/-- Retiring a record is what a release does. -/
theorem recordsStep_retire (s : ShadowState) (i : Nat) :
    RecordsStep code s (s.updateRecord i ShadowRecord.retire) := by
  cases hr : s.records[i]? with
  | none =>
    refine ⟨.write 0 0, trivial, .of_modify rfl fun r' hr' => ?_⟩
    exact absurd (hr.symm.trans hr') (Option.some_ne_none r').symm
  | some r =>
    -- the record is retired as by the last release of its object
    refine ⟨.release r.object r.kind 0, trivial, .of_modify rfl fun r' hr' => ?_⟩
    obtain rfl := Option.some.inj (hr.symm.trans hr')
    exact .retired r rfl

/-- **A call changes the records as an operation does.** Only an installation and a retirement
change them at all. -/
theorem perform_recordsStep {g g' : Globals} {c : Call} {answer : c.Answer} {rights : Rights}
    (h : g.perform code c answer = some g') (hc : c.InHook rights) :
    RecordsStep code g.shadows g'.shadows := by
  cases c with
  | installShadowVtable object kind entryCount =>
    obtain ⟨-, rfl⟩ := Globals.load_eq_some.mp h
    -- whoever installs may do so with the size of a known interface only
    exact ⟨.patch object kind entryCount answer.1, hc trivial, step_recordsFollow rfl⟩
  | retireRecord i =>
    obtain rfl := Option.some.inj h
    -- the last release of an object, and nothing else
    exact recordsStep_retire g.shadows i
  | lockCandidateCache =>
    simp only [Globals.perform] at h
    split at h
    · cases h
    · obtain ⟨-, rfl⟩ := Globals.load_eq_some.mp h
      exact recordsStep_of_eq rfl
  | clearActiveSwapChain object =>
    simp only [Globals.perform] at h
    split at h <;> (obtain ⟨-, rfl⟩ := Globals.load_eq_some.mp h; exact recordsStep_of_eq rfl)
  | claimInitState =>
    simp only [Globals.perform] at h
    split at h <;> (obtain ⟨-, rfl⟩ := Globals.load_eq_some.mp h; exact recordsStep_of_eq rfl)
  | _ =>
    first
    | (obtain ⟨-, rfl⟩ := Globals.load_eq_some.mp h; exact recordsStep_of_eq rfl)
    | (obtain rfl := Option.some.inj h; exact recordsStep_of_eq rfl)

/-! ### Records that can be relied on -/

/-- What holds of the records. -/
structure Reliable (code : HookFunction → UInt64) (s : ShadowState) : Prop where
  wellFormed : ∀ (i : Nat) (r : ShadowRecord), s.records[i]? = some r → r.WellFormed code
  interfaceSized : ∀ (i : Nat) (r : ShadowRecord), s.records[i]? = some r → r.InterfaceSized
  unique : s.UniqueActive

section Steps

variable {s s' : ShadowState}

/-- Records stay reliable. -/
theorem Reliable.step (h : Reliable code s) (hs : RecordsStep code s s') : Reliable code s' := by
  obtain ⟨a, ha, hfollow⟩ := hs
  refine ⟨fun i r' hr' => ?_, fun i r' hr' => ?_, hfollow.uniqueActive h.unique⟩
  -- a record was there before, or is new
  · obtain ⟨r, hr, hstep⟩ | ⟨-, hnew⟩ := hfollow.new i r' hr'
    · exact hstep.wellFormed (h.wellFormed i r hr)
    · exact hnew.wellFormed
  · obtain ⟨r, hr, hstep⟩ | ⟨-, hnew⟩ := hfollow.new i r' hr'
    · exact hstep.interfaceSized ha (h.interfaceSized i r hr)
    · exact hnew.interfaceSized ha

/-- A record stays, and keeps its object and what it saved. -/
theorem Reliable.grows (h : Reliable code s) (hs : RecordsStep code s s') {i : Nat}
    {r : ShadowRecord} (hr : s.records[i]? = some r) :
    ∃ r', s'.records[i]? = some r' ∧ r.Grows r' := by
  obtain ⟨a, -, hfollow⟩ := hs
  obtain ⟨r', hr', hstep⟩ := hfollow.old i r hr
  exact ⟨r', hr', hstep.grows (h.wellFormed i r hr)⟩

/-- The lookup found the record of the object. -/
def Found (s : ShadowState) (object : UInt64) (kind : ShadowKind) (i : Nat) : Prop :=
  ∃ r, s.records[i]? = some r ∧ r.object = object ∧ r.kind = kind

/-- The function is the one that the record saved. -/
def Saved (s : ShadowState) (i index : Nat) (f : UInt64) : Prop :=
  ∃ r, s.records[i]? = some r ∧ r.loadSavedRecordFunction index = some f

/-- The function is neither null nor what stands in for the slot. -/
def Elsewhere (code : HookFunction → UInt64) (kind : ShadowKind) (index : Nat) (f : UInt64) :
    Prop :=
  ∀ replacement, shadowReplacement code kind index = some replacement →
    f ≠ 0 ∧ f ≠ replacement

/-- A record that was found stays the object's. -/
theorem Found.step {object : UInt64} {kind : ShadowKind} {i : Nat} (h : Found s object kind i)
    (hreliable : Reliable code s) (hs : RecordsStep code s s') : Found s' object kind i := by
  obtain ⟨r, hr, hobject, hkind⟩ := h
  obtain ⟨r', hr', hgrows⟩ := hreliable.grows hs hr
  exact ⟨r', hr', hgrows.object.trans hobject, hgrows.kind.trans hkind⟩

/-- What it has saved stays saved, whatever is installed or retired meanwhile. -/
theorem Saved.step {i index : Nat} {f : UInt64} (h : Saved s i index f)
    (hreliable : Reliable code s) (hs : RecordsStep code s s') : Saved s' i index f := by
  obtain ⟨r, hr, hsaved⟩ := h
  obtain ⟨r', hr', hgrows⟩ := hreliable.grows hs hr
  exact ⟨r', hr', hgrows.saved index f hsaved⟩

/-- The saved function of a hooked slot. -/
theorem Reliable.saved_elsewhere (h : Reliable code s) {object : UInt64} {kind : ShadowKind}
    {i index : Nat} {f : UInt64} (hfound : Found s object kind i) (hsaved : Saved s i index f) :
    Elsewhere code kind index f := by
  intro replacement hreplacement
  obtain ⟨r, hr, -, rfl⟩ := hfound
  obtain ⟨r', hr', hsaved⟩ := hsaved
  obtain rfl := Option.some.inj (hr.symm.trans hr')
  obtain ⟨hindex, -, hne⟩ := ShadowRecord.loadSavedRecordFunction_eq_some.mp hsaved
  obtain ⟨riid, hriid⟩ := h.interfaceSized i r hr
  -- the slot is one of those that the installation hooked
  obtain ⟨hook, hhook, rfl, rfl⟩ := exists_mem_of_shadowReplacement hriid hindex hreplacement
  obtain ⟨f', hf', hne'⟩ := (h.wellFormed i r hr).saved_hooked hhook
  obtain rfl := Option.some.inj (hsaved.symm.trans hf')
  exact ⟨hne, hne'⟩

/-- The dispatch of a hooked slot. -/
theorem Reliable.dispatch_elsewhere (h : Reliable code s) {object : UInt64} {kind : ShadowKind}
    {index : Nat} {f : UInt64} (hload : s.loadObjectFunction code object kind index = some f) :
    Elsewhere code kind index f := by
  intro replacement hreplacement
  rw [ShadowState.loadObjectFunction] at hload
  split at hload
  · cases hload
  -- the record of the object, which the dispatch reads
  · next i hfind =>
    obtain ⟨r, hr, hload⟩ := Option.bind_eq_some_iff.mp hload
    obtain ⟨r', hr', -, hkind, -⟩ := ShadowState.exists_of_findShadowRecord hfind
    obtain rfl := Option.some.inj (hr.symm.trans hr')
    subst hkind
    -- a function is saved for the slot, so the record has it
    rw [ShadowRecord.loadRecordFunction_eq] at hload
    obtain ⟨saved, hsaved, -⟩ := Option.map_eq_some_iff.mp hload
    obtain ⟨hindex, -, -⟩ := ShadowRecord.loadSavedRecordFunction_eq_some.mp hsaved
    obtain ⟨f', hf', hne⟩ := (h.wellFormed i r hr).dispatch (h.interfaceSized i r hr) hindex
      hreplacement s.memory
    rw [ShadowRecord.loadRecordFunction_eq] at hf'
    obtain rfl := Option.some.inj (hload.symm.trans hf')
    exact hne

end Steps

/-! ### All runs -/

/-- The records are reliable, and so is what was found of them. -/
structure Dispatches (code : HookFunction → UInt64) (g : Globals) (history : List Happening) :
    Prop where
  reliable : Reliable code g.shadows
  found : ∀ object kind i, ⟨.findShadowRecord object kind, some i⟩ ∈ events history →
    Found g.shadows object kind i
  saved : ∀ i index f, ⟨.loadSavedRecordFunction i index, some f⟩ ∈ events history →
    Saved g.shadows i index f
  dispatched : ∀ object kind index f,
    ⟨.loadObjectFunction object kind index, some f⟩ ∈ events history →
    Elsewhere code kind index f

section Runs

variable {g g' : Globals} {history : List Happening}

/-- The records evolve, and nothing is looked up. -/
theorem Dispatches.step (h : Dispatches code g history)
    (hs : RecordsStep code g.shadows g'.shadows) : Dispatches code g' history where
  reliable := h.reliable.step hs
  found object kind i hmem := (h.found object kind i hmem).step h.reliable hs
  saved i index f hmem := (h.saved i index f hmem).step h.reliable hs
  dispatched := h.dispatched

/-- What is looked up is there, and what was looked up stays. -/
theorem Dispatches.perform (h : Dispatches code g history) {i : Nat} {c : Call}
    {answer : c.Answer} (hperform : g.perform code c answer = some g')
    (hs : RecordsStep code g.shadows g'.shadows) :
    Dispatches code g' (.called i ⟨c, answer⟩ :: history) := by
  have hold := h.step hs
  refine ⟨hold.reliable, fun object kind j hmem => ?_, fun j index f hmem => ?_,
    fun object kind index f hmem => ?_⟩
  -- of each look-up: it was made now, or before
  · obtain heq | hmem := List.mem_cons.mp hmem
    · cases heq
      obtain ⟨hfind, rfl⟩ := Globals.load_eq_some.mp hperform
      obtain ⟨r, hr, hobject, hkind, -⟩ := ShadowState.exists_of_findShadowRecord hfind.symm
      exact ⟨r, hr, hobject, hkind⟩
    · exact hold.found object kind j hmem
  · obtain heq | hmem := List.mem_cons.mp hmem
    · cases heq
      obtain ⟨hload, rfl⟩ := Globals.load_eq_some.mp hperform
      exact Option.bind_eq_some_iff.mp hload.symm
    · exact hold.saved j index f hmem
  · obtain heq | hmem := List.mem_cons.mp hmem
    · cases heq
      obtain ⟨hload, rfl⟩ := Globals.load_eq_some.mp hperform
      exact h.reliable.dispatch_elsewhere hload.symm
    · exact hold.dispatched object kind index f hmem

/-- So it is an invariant of the process. -/
theorem process_dispatches : (process code).Invariant (Dispatches code)
    (fun entry _ c => c.InHook entry.rights) fun _ _ _ => True where
  body entry := (body_within entry).wp (fun _ _ h => h) fun _ _ _ => trivial
  init g h := by
    have hnone (i : Nat) (r : ShadowRecord) (hr : g.shadows.records[i]? = some r) : False := by
      rw [h.records] at hr
      cases hr
    exact
      { reliable :=
          ⟨fun i r hr => (hnone i r hr).elim, fun i r hr => (hnone i r hr).elim,
            fun i j r r' hr => (hnone i r hr).elim⟩
        found := fun object kind i hmem => nomatch hmem
        saved := fun i index f hmem => nomatch hmem
        dispatched := fun object kind index f hmem => nomatch hmem }
  -- a thread that enters looks nothing up
  enter {g g' history i entry} hI henter := by
    have hshadows : g'.shadows = g.shadows := by
      cases entry with
      | initializationThread =>
        obtain ⟨-, henter⟩ := Option.ite_none_right_eq_some.mp henter
        obtain rfl := Option.some.inj henter
        rfl
      | _ =>
        obtain rfl := Option.some.inj henter
        rfl
    have hI' := hI.step (recordsStep_of_eq (congrArg ShadowState.records hshadows))
    exact ⟨hI'.reliable, hI'.found, hI'.saved, hI'.dispatched⟩
  perform hI _ _ hgood h := hI.perform h (perform_recordsStep h hgood)
  ret hI _ _ := ⟨hI.reliable, hI.found, hI.saved, hI.dispatched⟩
  -- another module writes pointers, and no record
  disturb hI h := by
    obtain rfl := Option.some.inj h
    exact hI.step (recordsStep_of_eq rfl)

/-- **What was looked up can be called**, in every run. -/
theorem dispatches_of_reachable {s : ProcessState} (h : (process code).system.Reachable s) :
    Dispatches code s.shared s.history :=
  process_dispatches.of_reachable h

end Runs

/-! ### What hooks call -/

variable {s : ProcessState} {i : Nat}

/-- Only a hook makes a call of the game, and it is the call that it received. -/
def Entry.Forwardable : Entry → List Event → Call → Prop
  | .hook c, past, call => c.Forwardable past call
  | _, _, call => call.Own

/-- Every entry point makes the game's calls only as a hook that received them. -/
theorem body_forwardable (entry : Entry) :
    entry.body.wp entry.Forwardable (fun _ _ => True) [] := by
  -- outside of the hooks every call is the DLL's own
  have hown {α : Type} {p : Routine α} (h : Calls (Call.Within {}) p) :
      p.wp (fun _ call => call.Own) (fun _ _ => True) [] :=
    (own_of_within {} h).wp (fun _ _ h => h) fun _ _ _ => trivial
  cases entry with
  | dllMain module reason => exact hown (dllMain_within module reason)
  | eldenRingWindowedHdrInit polls =>
    exact hown (startInitialization_within.bind fun _ =>
        within_of_unasking (waitForInitialization_ordinary polls))
  | eldenRingBorderlessHdrInit polls =>
    exact hown (startInitialization_within.bind fun _ =>
        within_of_unasking (waitForInitialization_ordinary polls))
  | initializationThread => exact hown initializationThread_within
  | hook c => exact (hook_ends c).mono (fun _ _ h => h) fun _ _ _ => trivial

/-- A call is made again by the hook that it came through, where that found its function. -/
theorem lookup_of_forward (h : (process code).system.Reachable s) {function : UInt64}
    {c : GameCall} {answer : c.Answer}
    (hcalled : .called i ⟨.forward function c, answer⟩ ∈ s.history) :
    ∃ past ⊆ events s.history, c.LooksUp past (some function) := by
  -- the call was good when it was made, and its thread had looked the function up by then
  obtain ⟨older, hsuffix, entry, past, hongoing, hgood⟩ :=
    (ThreadSystem.madeGood_of_reachable Entry.Forwardable (fun _ _ _ => True)
      body_forwardable h).of_mem hcalled
  have hsubset : past ⊆ events s.history := fun e he =>
    events_subset hsuffix (mem_events ((ThreadSystem.mem_of_ongoing hongoing).2 e he))
  cases entry with
  | hook c' =>
    -- the hook received the very call that it makes
    obtain ⟨rfl, -, hlooksUp⟩ := hgood
    exact ⟨past, hsubset, hlooksUp⟩
  | _ => exact hgood.elim

/-- **No hook calls itself**, in any run: a COM call is handed on to a function that is neither
null nor the hook that it came through, whatever was installed, retired or overwritten. -/
theorem forwards_elsewhere (h : (process code).system.Reachable s) {function : UInt64}
    {c : GameCall} {answer : c.Answer} {slot : VtableSlot}
    (hcalled : .called i ⟨.forward function c, answer⟩ ∈ s.history)
    (hslot : c.vtableSlot = some slot) : function ≠ 0 ∧ function ≠ code slot.function := by
  have hdispatches := dispatches_of_reachable h
  obtain ⟨past, hpast, hlooksUp⟩ := lookup_of_forward h hcalled
  have helsewhere : Elsewhere code slot.kind slot.index function := by
    -- the look-up was a dispatch, or through the record of a release
    cases hlooksUp with
    | object hs hload =>
      obtain rfl := Option.some.inj (hslot.symm.trans hs)
      exact hdispatches.dispatched _ _ _ _ (hpast hload)
    | record hs hfind hload =>
      obtain rfl := Option.some.inj (hslot.symm.trans hs)
      exact hdispatches.reliable.saved_elsewhere (hdispatches.found _ _ _ (hpast hfind))
        (hdispatches.saved _ _ _ (hpast hload))
    | original hs hload =>
      rw [GameCall.originalSlot_eq_none hslot] at hs
      cases hs
  exact helsewhere _ (shadowReplacement_vtableSlot code hslot)

/-- The address of a new factory stands at `0x6000`. -/
def sampleFactoryMemory : ByteMemory :=
  ByteMemory.writePointer sampleState.memory 0x6000 sampleObject

/-- The factory is captured. -/
def sampleFactoryCaptured : Except String Unit × ShadowState :=
  patchObject sampleCode sampleOutcome (Globals.justLoaded sampleFactoryMemory).shadows
    sampleObject .factory factoryVtableLength

/-- The first factory function, before it was hooked. -/
theorem sampleFactoryCaptured_load :
    sampleFactoryCaptured.2.loadObjectFunction sampleCode sampleObject .factory
      factoryQueryInterfaceIndex = some 0x101010101010101 := by
  decide +kernel

/-- A factory is created, and then asked for an interface that it does not have. -/
theorem forwards_elsewhere_queryInterface :
    ∃ function, sampleFactoryCaptured.2.loadObjectFunction sampleCode sampleObject .factory
        factoryQueryInterfaceIndex = some function ∧
      function ≠ 0 ∧ function ≠ sampleCode .factoryQueryInterfaceHook := by
  have h := ThreadSystem.reachable_enter 0 (.hook (.createDxgiFactory 0x7000 0x6000))
    (reachable_justLoaded sampleCode sampleFactoryMemory) rfl
  have h := ThreadSystem.reachable_call (some 0x500) h rfl
  have h := ThreadSystem.reachable_call (0 : HResult) h rfl
  have h := ThreadSystem.reachable_call (0x5000 : UInt64) h
    (Globals.load_eq_some.mpr ⟨by decide +kernel, rfl⟩)
  have h := ThreadSystem.reachable_call iidIdxgiFactory h rfl
  have h := ThreadSystem.reachable_call (sampleOutcome, sampleFactoryCaptured.1) h
    (Globals.load_eq_some.mpr ⟨rfl, rfl⟩)
  have h := ThreadSystem.reachable_return h
  -- the query finds the function that was saved
  have h := ThreadSystem.reachable_enter 0
    (.hook (.queryInterface .factory 0x5000 0x7000 0x6000)) h rfl
  have h := ThreadSystem.reachable_call (some 0x101010101010101) h
    (Globals.load_eq_some.mpr ⟨sampleFactoryCaptured_load.symm, rfl⟩)
  have h := ThreadSystem.reachable_call (-1 : HResult) h rfl
  have helsewhere := forwards_elsewhere h List.mem_cons_self rfl
  exact ⟨_, sampleFactoryCaptured_load, helsewhere⟩

end Runtime
end WindowedHdr
