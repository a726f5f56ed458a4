import WindowedHdr.Shadow.Lifetime

/-!
# Address reuse racing with the final release

`release_shadow_object` retires a record only after the native `Release` has freed the
object. From that call on, another thread may create a swap chain at the same address and
capture it. `raceSystem race` interleaves the two: the releasing thread deactivates the
record, clears `ACTIVE_SWAP_CHAIN` and removes the state; the capturing thread finds the new
object in the memory, installs a shadow, makes sure that there is a state, and notes the
active swap chain.

Two orders are harmful. When the installation comes before the deactivation, it finds the
record of the old object, takes the new vtable for a foreign one, and shadows nothing. When
the note comes before the clearing, the releasing thread clears what was noted. In every
other order the new object is captured (`captured_of_inOrder`), and in these two it never is
(`not_captured_of_not_inOrder`).

The proof follows what each thread still has to do. Until the installation the records are those
of the start, with the old one active or retired (`OldRecords`). An installation in order finds
no record and gives the new object one of its own, which nothing takes away again (`Ordered`);
an installation out of order is `Overlooked`, and a note out of order is `NotedEarly`, and both
persist to the end. So the order of the two pairs of steps decides, and nothing else does.
-/

namespace WindowedHdr
namespace Shadow

open ByteMemory Windows Dxgi

/-! ### The race -/

/-- The setting of a race: the last reference of the shadowed swap chain at `object` was
given up, and a swap chain with an ordinary vtable that nobody has hooked is created at its
address and captured, while every call of the operating system succeeds. -/
structure ReuseRace (code : HookFunction → UInt64) where
  /-- The state when the native `Release` returns. -/
  start : ShadowState
  object : UInt64
  /-- The record of the released object. -/
  index : Nat
  /-- The memory once the new object was created. -/
  reused : ByteMemory
  entryCount : Nat
  outcome : InstallOutcome
  clone : ClonedRegion
  entryCapacity : Nat
  cloned : ByteMemory
  reachable : (shadowSystem code).Reachable start
  found : start.findShadowRecord object .swapChain = some index
  aligned : object % 8 = 0
  root_ne : reused.readPointer object ≠ 0
  ordinary : ∀ record, start.records[index]? = some record →
    record.findShadowGeneration (reused.readPointer object) = none
  hooks_lt : ∀ hook ∈ swapChainHooks code entryCount, hook.index < entryCount
  unhooked : OriginalsUsable (swapChainHooks code entryCount)
    (readTable cloned clone.clonedAddress entryCount)
  cloneVtable : cloneVtable outcome reused (reused.readPointer object) entryCount =
    .ok (clone, entryCapacity, cloned)
  allocatesUnused : outcome.AllocatesUnused reused object
  protects : protectReadOnly outcome.protectReadOnly clone.clone.1 clone.cloneSize = .ok ()
  noInterloper : outcome.interloper = none

/-- Where the releasing thread is. -/
inductive ReleasePc
  | deactivate
  | clearActive
  | removeState
  | done
  deriving DecidableEq

/-- Where the capturing thread is. -/
inductive CapturePc
  | reuse
  | install
  | ensure
  | note
  | done
  deriving DecidableEq

structure RaceState where
  shadow : ShadowState
  releaser : ReleasePc
  capturer : CapturePc

/-- The thread that moves. -/
inductive RaceThread
  | release
  | capture
  deriving DecidableEq

variable {code : HookFunction → UInt64}

/-- The two threads, from the return of the native `Release` on. -/
def raceSystem (race : ReuseRace code) : ActionSystem RaceState RaceThread where
  Init x := x = ⟨race.start, .deactivate, .reuse⟩
  step x
    | .release =>
      match x.releaser with
      | .deactivate =>
        some { x with
          shadow := x.shadow.updateRecord race.index ShadowRecord.retire
          releaser := .clearActive }
      | .clearActive =>
        some { x with
          shadow := x.shadow.clearActiveSwapChain race.object
          releaser := .removeState }
      | .removeState =>
        some { x with
          shadow := x.shadow.removeSwapChainState race.object
          releaser := .done }
      | .done => none
    | .capture =>
      match x.capturer with
      | .reuse =>
        some { x with shadow := { x.shadow with memory := race.reused }, capturer := .install }
      | .install =>
        match patchObject code race.outcome x.shadow race.object .swapChain race.entryCount with
        | (.ok _, shadow) => some { x with shadow := shadow, capturer := .ensure }
        | (.error _, shadow) => some { x with shadow := shadow, capturer := .done }
      | .ensure =>
        some { x with
          shadow := x.shadow.ensureSwapChainState race.object
          capturer := .note }
      | .note =>
        some { x with
          shadow := x.shadow.noteActiveSwapChain race.object
          capturer := .done }
      | .done => none

/-- Both threads have finished. -/
def RaceState.Finished (x : RaceState) : Prop := x.releaser = .done ∧ x.capturer = .done

/-- The new object has a record of its own with the originals of its vtable, and points at
our shadow; its color-space state is the default one; and it is the active swap chain. -/
def ReuseRace.Captured (race : ReuseRace code) (s : ShadowState) : Prop :=
  (∃ i record, s.findShadowRecord race.object .swapChain = some i ∧ i ≠ race.index ∧
    s.records[i]? = some record ∧
    record.originals =
      some (readTable race.reused (race.reused.readPointer race.object) race.entryCount) ∧
    (record.findShadowGeneration (s.memory.readPointer race.object)).isSome = true) ∧
  ((s.swapChainStates race.object).getD {}).managedColorSpace = {} ∧
  s.activeSwapChain = race.object

/-- The step keeps the order of retirement and capture: the installation comes after the
deactivation, and the note after the clearing. -/
def RaceState.InOrder (x : RaceState) (a : RaceThread) : Prop :=
  a = .capture →
    (x.capturer = .install → x.releaser ≠ .deactivate) ∧
    (x.capturer = .note → x.releaser = .removeState ∨ x.releaser = .done)

variable {race : ReuseRace code} {x x' : RaceState} {a : RaceThread}

/-- On its own, the releasing thread does what follows a last release. -/
theorem run_release (s : ShadowState) (c : CapturePc) :
    (raceSystem race).run ⟨s, .deactivate, c⟩ [.release, .release, .release] =
      some ⟨s.retireShadowObject race.index race.object .swapChain, .done, c⟩ := rfl

namespace ReuseRace

variable (race)

/-- The object that is released is not null. -/
theorem object_ne : race.object ≠ 0 := by
  obtain ⟨record, hrecord, hobject, -⟩ := ShadowState.exists_of_findShadowRecord race.found
  rw [← hobject]
  exact object_ne_of_reachable race.reachable race.index record hrecord

/-- The interface has entries, since `Release` is hooked in it. -/
theorem entryCount_ne : race.entryCount ≠ 0 := by
  obtain ⟨hook, hhook, -⟩ := exists_release_hook code .swapChain race.entryCount
  have hlt := race.hooks_lt hook hhook
  omega

/-- The object keeps pointing at its root while the hooks are written into the clone. -/
theorem readPointer_object :
    (writeHooks race.clone.clonedAddress (swapChainHooks code race.entryCount)
      race.cloned).readPointer race.object = race.reused.readPointer race.object := by
  -- the clone was allocated apart from the object, and every hook is written inside it
  obtain ⟨information, offset, hclones, hroom, hle, -⟩ := cloneVtable_ok race.cloneVtable
  have hmaximum : maxVtableCloneRegionSize < 2 ^ 64 := by decide
  rw [readPointer_writeHooks_of_apart,
    hclones.readPointer_used hmaximum race.allocatesUnused.1]
  intro hook hhook
  have hlt := race.hooks_lt hook hhook
  exact hclones.apart_pointer race.allocatesUnused.1 (Nat.le_of_lt hmaximum) (by omega)

/-- The exchange succeeds: nobody else writes to the object. -/
theorem exchange :
    compareExchangePointer (interlope race.outcome race.object
        (writeHooks race.clone.clonedAddress (swapChainHooks code race.entryCount) race.cloned))
        race.object (race.reused.readPointer race.object) race.clone.clonedAddress =
      (.ok true, (writeHooks race.clone.clonedAddress (swapChainHooks code race.entryCount)
        race.cloned).writePointer race.object race.clone.clonedAddress) := by
  have hslot : ¬ (race.object == 0 || race.object % 8 != 0) = true := by
    simp [race.object_ne, race.aligned]
  rw [compareExchangePointer, if_neg hslot, interlope, race.noInterloper]
  simp only
  -- the object still points at the root
  rw [if_pos (by simp [race.readPointer_object])]

/-- The record of the new object. -/
def newRecord : ShadowRecord :=
  (Shadow.newRecord race.outcome race.object .swapChain race.entryCount
    (race.reused.readPointer race.object) race.clone race.cloned).publishShadowGeneration
      (newGeneration race.entryCount race.entryCapacity race.clone)

/-- What the capturing thread installs where the old record is not found. -/
def installed (s : ShadowState) : ShadowState :=
  { s with
    memory := (writeHooks race.clone.clonedAddress (swapChainHooks code race.entryCount)
      race.cloned).writePointer race.object race.clone.clonedAddress
    records := s.records ++ [race.newRecord] }

variable {race} {s : ShadowState}

/-- A shadow of the new object can be built where the old record is not found. -/
theorem freshShadow (hmemory : s.memory = race.reused)
    (hnone : s.findShadowRecord race.object .swapChain = none) :
    FreshShadow race.outcome s race.object .swapChain race.entryCount
      (swapChainHooks code race.entryCount) (race.reused.readPointer race.object) race.clone
      race.entryCapacity race.cloned where
  noRecord := hnone
  object_ne := race.object_ne
  root_ne := race.root_ne
  root_eq := by rw [hmemory]
  hooks_lt := race.hooks_lt
  cloneVtable := by rw [hmemory]; exact race.cloneVtable
  originals := race.unhooked

/-- Where no record is found, the installation shadows the new object. -/
theorem patchObject_of_noRecord (hmemory : s.memory = race.reused)
    (hnone : s.findShadowRecord race.object .swapChain = none) :
    patchObject code race.outcome s race.object .swapChain race.entryCount =
      (.ok (), race.installed s) :=
  installShadowVtable_of_fresh (freshShadow hmemory hnone) race.entryCount_ne race.protects
    race.exchange

/-- Where the old record is found, the installation shadows nothing. -/
theorem patchObject_of_oldRecord (hmemory : s.memory = race.reused)
    (hrecords : s.records = race.start.records) :
    patchObject code race.outcome s race.object .swapChain race.entryCount = (.ok (), s) := by
  obtain ⟨record, hrecord, -⟩ := ShadowState.exists_of_findShadowRecord race.found
  have hfound : s.findShadowRecord race.object .swapChain = some race.index := by
    rw [← race.found, ShadowState.findShadowRecord, ShadowState.findShadowRecord, hrecords]
  -- the vtable of the new object is no generation of the old record
  refine installShadowVtable_of_foreign race.object_ne ?_ race.entryCount_ne race.hooks_lt hfound
    (hrecords ▸ hrecord) ?_
  · rw [hmemory]
    exact race.root_ne
  · rw [hmemory]
    exact race.ordinary record hrecord

end ReuseRace

/-! ### Steps -/

/-- The steps of the two threads. -/
inductive RaceStep (race : ReuseRace code) : RaceState → RaceThread → RaceState → Prop
  | deactivate (s : ShadowState) (c : CapturePc) :
      RaceStep race ⟨s, .deactivate, c⟩ .release
        ⟨s.updateRecord race.index ShadowRecord.retire, .clearActive, c⟩
  | clearActive (s : ShadowState) (c : CapturePc) :
      RaceStep race ⟨s, .clearActive, c⟩ .release
        ⟨s.clearActiveSwapChain race.object, .removeState, c⟩
  | removeState (s : ShadowState) (c : CapturePc) :
      RaceStep race ⟨s, .removeState, c⟩ .release
        ⟨s.removeSwapChainState race.object, .done, c⟩
  | reuse (s : ShadowState) (r : ReleasePc) :
      RaceStep race ⟨s, r, .reuse⟩ .capture ⟨{ s with memory := race.reused }, r, .install⟩
  | install (s s' : ShadowState) (r : ReleasePc) :
      patchObject code race.outcome s race.object .swapChain race.entryCount = (.ok (), s') →
      RaceStep race ⟨s, r, .install⟩ .capture ⟨s', r, .ensure⟩
  | failed (s s' : ShadowState) (r : ReleasePc) (error : String) :
      patchObject code race.outcome s race.object .swapChain race.entryCount =
        (.error error, s') →
      RaceStep race ⟨s, r, .install⟩ .capture ⟨s', r, .done⟩
  | ensure (s : ShadowState) (r : ReleasePc) :
      RaceStep race ⟨s, r, .ensure⟩ .capture ⟨s.ensureSwapChainState race.object, r, .note⟩
  | note (s : ShadowState) (r : ReleasePc) :
      RaceStep race ⟨s, r, .note⟩ .capture ⟨s.noteActiveSwapChain race.object, r, .done⟩

/-- Each step of the race is one of those that `RaceStep` lists. -/
theorem raceStep_of_step (h : (raceSystem race).step x a = some x') : RaceStep race x a x' := by
  -- a step reads the counter of its own thread alone
  obtain ⟨s, r, c⟩ := x
  cases a with
  | release =>
    cases r with
    | deactivate => obtain rfl := Option.some.inj h; exact .deactivate s c
    | clearActive => obtain rfl := Option.some.inj h; exact .clearActive s c
    | removeState => obtain rfl := Option.some.inj h; exact .removeState s c
    | done => exact nomatch h
  | capture =>
    cases c with
    | reuse => obtain rfl := Option.some.inj h; exact .reuse s r
    | install =>
      obtain ⟨result, s', hpatch⟩ : ∃ result s', patchObject code race.outcome s race.object
          .swapChain race.entryCount = (result, s') := ⟨_, _, rfl⟩
      simp only [raceSystem, hpatch] at h
      cases result with
      | ok _ => obtain rfl := Option.some.inj h; exact .install s s' r hpatch
      | error error => obtain rfl := Option.some.inj h; exact .failed s s' r error hpatch
    | ensure => obtain rfl := Option.some.inj h; exact .ensure s r
    | note => obtain rfl := Option.some.inj h; exact .note s r
    | done => exact nomatch h

/-- The clearing changes the active swap chain only. -/
theorem clearActiveSwapChain_records (s : ShadowState) (object : UInt64) :
    (s.clearActiveSwapChain object).records = s.records ∧
      (s.clearActiveSwapChain object).memory = s.memory ∧
      (s.clearActiveSwapChain object).swapChainStates = s.swapChainStates := by
  unfold ShadowState.clearActiveSwapChain
  split <;> exact ⟨rfl, rfl, rfl⟩

/-- The note makes the object the active swap chain, and changes no record. -/
theorem noteActiveSwapChain_eq {s : ShadowState} {object : UInt64} (hobject : object ≠ 0) :
    (s.noteActiveSwapChain object).records = s.records ∧
      (s.noteActiveSwapChain object).memory = s.memory ∧
      (s.noteActiveSwapChain object).swapChainStates = s.swapChainStates ∧
      (s.noteActiveSwapChain object).activeSwapChain = object := by
  rw [ShadowState.noteActiveSwapChain, if_neg hobject]
  exact ⟨rfl, rfl, rfl, rfl⟩

/-! ### Before the installation -/

/-- The capturing thread has not installed anything yet. -/
def RaceState.Pending (x : RaceState) : Prop := x.capturer = .reuse ∨ x.capturer = .install

/-- From the end of the installation on, nothing is pending. -/
theorem RaceState.not_pending (hreuse : x.capturer ≠ .reuse) (hinstall : x.capturer ≠ .install) :
    ¬ x.Pending := by
  rintro (hc | hc)
  · exact hreuse hc
  · exact hinstall hc

/-- Until the installation, only the releasing thread changes the records. -/
structure RaceState.OldRecords (race : ReuseRace code) (x : RaceState) : Prop where
  kept : x.releaser = .deactivate → x.shadow.records = race.start.records
  retired : x.releaser ≠ .deactivate →
    x.shadow.records = race.start.records.modify race.index ShadowRecord.retire
  memory : x.capturer = .install → x.shadow.memory = race.reused

/-- No record is found for the object once the old one is retired. -/
theorem RaceState.OldRecords.noRecord (h : x.OldRecords race) (hr : x.releaser ≠ .deactivate) :
    x.shadow.findShadowRecord race.object .swapChain = none :=
  noRecord_of_retired (uniqueActive_of_reachable race.reachable) race.found (h.retired hr)

/-- Until the installation, the records are those of the start, or these after the retirement. -/
theorem oldRecords_of_reachable (h : (raceSystem race).Reachable x) :
    x.Pending → x.OldRecords race := by
  -- the invariant speaks of pending states only
  refine h.invariant (I := fun x => x.Pending → x.OldRecords race) ?_ ?_
  · rintro x rfl -
    exact ⟨fun _ => rfl, fun hr => absurd rfl hr, fun hc => (nomatch hc)⟩
  · intro x a x' ih _ hstep hpending
    cases raceStep_of_step hstep with
    | deactivate s c =>
      -- the old record is retired here, and the records were those of the start
      have hold := ih hpending
      refine ⟨fun hr => (nomatch hr), fun _ => ?_, hold.memory⟩
      show s.records.modify race.index ShadowRecord.retire = _
      rw [hold.kept rfl]
    | clearActive s c =>
      have hold := ih hpending
      obtain ⟨hrecords, hmemory, -⟩ := clearActiveSwapChain_records s race.object
      refine ⟨fun hr => (nomatch hr), fun _ => ?_, fun hc => ?_⟩
      · exact hrecords.trans (hold.retired fun hr => nomatch hr)
      · exact hmemory.trans (hold.memory hc)
    | removeState s c =>
      have hold := ih hpending
      exact ⟨fun hr => (nomatch hr), fun _ => hold.retired fun hr => (nomatch hr), hold.memory⟩
    | reuse s r =>
      have hold := ih (.inl rfl)
      exact ⟨hold.kept, hold.retired, fun _ => rfl⟩
    -- after the installation there is nothing to show
    | install => exact absurd hpending (RaceState.not_pending nofun nofun)
    | failed => exact absurd hpending (RaceState.not_pending nofun nofun)
    | ensure => exact absurd hpending (RaceState.not_pending nofun nofun)
    | note => exact absurd hpending (RaceState.not_pending nofun nofun)

/-! ### In order -/

/-- The new object has a record of its own. -/
def ReuseRace.HasOwnRecord (race : ReuseRace code) (s : ShadowState) : Prop :=
  ∃ i record, s.findShadowRecord race.object .swapChain = some i ∧ i ≠ race.index ∧
    s.records[i]? = some record ∧
    record.originals =
      some (readTable race.reused (race.reused.readPointer race.object) race.entryCount) ∧
    (record.findShadowGeneration (s.memory.readPointer race.object)).isSome = true

/-- The record of the new object stays its own while records and memory are left alone. -/
theorem ReuseRace.HasOwnRecord.congr {s s' : ShadowState} (h : race.HasOwnRecord s)
    (hrecords : s'.records = s.records) (hmemory : s'.memory = s.memory) :
    race.HasOwnRecord s' := by
  obtain ⟨i, record, hfound, hne, hrecord, horiginals, hgeneration⟩ := h
  refine ⟨i, record, ?_, hne, hrecords ▸ hrecord, horiginals, hmemory ▸ hgeneration⟩
  rw [← hfound, ShadowState.findShadowRecord, ShadowState.findShadowRecord, hrecords]

/-- The installation gives the new object its own record. -/
theorem ReuseRace.hasOwnRecord_installed {s : ShadowState} (hmemory : s.memory = race.reused)
    (hrecords : s.records = race.start.records.modify race.index ShadowRecord.retire)
    (hnone : s.findShadowRecord race.object .swapChain = none) :
    race.HasOwnRecord (race.installed s) := by
  have hfresh := freshShadow hmemory hnone
  have hfor : race.newRecord.IsActiveFor race.object .swapChain = true :=
    ShadowRecord.isActiveFor_iff.mpr ⟨rfl, rfl, rfl⟩
  -- the new record is appended, so its index is not the old one
  have hindex : s.records.length ≠ race.index := by
    obtain ⟨record, hrecord, -⟩ := ShadowState.exists_of_findShadowRecord race.found
    have hlt : race.index < race.start.records.length := (List.getElem?_eq_some_iff.mp hrecord).1
    rw [hrecords, List.length_modify]
    omega
  refine ⟨s.records.length, race.newRecord, NewestFirst.find_concat hfor, hindex,
    List.getElem?_concat_length, ?_, ?_⟩
  -- the originals are read from the clone, which has the vtable's bytes
  · have horiginals := hfresh.readTable_eq (hmemory ▸ race.allocatesUnused)
    rw [hmemory] at horiginals
    exact congrArg some horiginals
  · have hobject : (race.installed s).memory.readPointer race.object = race.clone.clonedAddress :=
      readPointer_writePointer_self _ _ _
    rw [hobject]
    simp [newRecord, newGeneration, ShadowRecord.publishShadowGeneration,
      ShadowRecord.findShadowGeneration]

/-- What holds along a run that keeps the order. -/
structure RaceState.Ordered (race : ReuseRace code) (x : RaceState) : Prop where
  shadowed : ¬ x.Pending → x.releaser ≠ .deactivate ∧ race.HasOwnRecord x.shadow
  defaultState : x.releaser = .done → (x.shadow.swapChainStates race.object).getD {} = {}
  noted : x.capturer = .done →
    (x.releaser = .removeState ∨ x.releaser = .done) ∧ x.shadow.activeSwapChain = race.object

/-- A step that keeps the order keeps what holds along such a run. -/
theorem RaceState.Ordered.step (h : x.Ordered race) (hold : x.Pending → x.OldRecords race)
    (ha : x.InOrder a) (hstep : (raceSystem race).step x a = some x') : x'.Ordered race := by
  cases raceStep_of_step hstep with
  | deactivate s c =>
    -- nothing was installed yet, or the installation would have come first
    have hpending : RaceState.Pending ⟨s, .deactivate, c⟩ := by
      by_contra hnot
      exact (h.shadowed hnot).1 rfl
    refine ⟨fun hnot => absurd hpending hnot, fun hr => (nomatch hr), fun hc => ?_⟩
    obtain hc' | hc' := hpending <;> exact nomatch hc.symm.trans hc'
  | clearActive s c =>
    obtain ⟨hrecords, hmemory, -⟩ := clearActiveSwapChain_records s race.object
    refine ⟨fun hnot => ⟨fun hr => (nomatch hr), ?_⟩, fun hr => (nomatch hr), fun hc => ?_⟩
    · exact (h.shadowed hnot).2.congr hrecords hmemory
    -- the note would have waited for this step
    · obtain ⟨hr | hr, -⟩ := h.noted hc <;> exact nomatch hr
  | removeState s c =>
    -- a state that the capturing thread made is removed too, but the default one is left
    refine ⟨fun hnot => ⟨fun hr => (nomatch hr), (h.shadowed hnot).2.congr rfl rfl⟩, fun _ => ?_,
      fun hc => ⟨.inr rfl, (h.noted hc).2⟩⟩
    show (Function.update s.swapChainStates race.object none race.object).getD {} = {}
    rw [Function.update_self, Option.getD_none]
  | reuse s r =>
    refine ⟨fun hnot => absurd (.inr rfl) hnot, h.defaultState, fun hc => (nomatch hc)⟩
  | install s s' r hpatch =>
    have hr : r ≠ .deactivate := (ha rfl).1 rfl
    have hold := hold (.inr rfl)
    have hnone := hold.noRecord hr
    rw [ReuseRace.patchObject_of_noRecord (hold.memory rfl) hnone] at hpatch
    obtain ⟨-, rfl⟩ := Prod.mk.inj hpatch
    have hown := ReuseRace.hasOwnRecord_installed (hold.memory rfl) (hold.retired hr) hnone
    exact ⟨fun _ => ⟨hr, hown⟩, h.defaultState, fun hc => (nomatch hc)⟩
  | failed s s' r error hpatch =>
    have hr : r ≠ .deactivate := (ha rfl).1 rfl
    have hold := hold (.inr rfl)
    rw [ReuseRace.patchObject_of_noRecord (hold.memory rfl) (hold.noRecord hr)] at hpatch
    exact nomatch (Prod.mk.inj hpatch).1
  | ensure s r =>
    have hnot : ¬ RaceState.Pending ⟨s, r, .ensure⟩ := RaceState.not_pending nofun nofun
    obtain ⟨hr, hown⟩ := h.shadowed hnot
    refine ⟨fun _ => ⟨hr, hown.congr rfl rfl⟩, fun hdone => ?_, fun hc => (nomatch hc)⟩
    show (Function.update s.swapChainStates race.object _ race.object).getD {} = {}
    rw [Function.update_self, Option.getD_some]
    exact h.defaultState hdone
  | note s r =>
    have hnot : ¬ RaceState.Pending ⟨s, r, .note⟩ := RaceState.not_pending nofun nofun
    obtain ⟨hr, hown⟩ := h.shadowed hnot
    obtain ⟨hrecords, hmemory, hstates, hactive⟩ := noteActiveSwapChain_eq (s := s) race.object_ne
    refine ⟨fun _ => ⟨hr, hown.congr hrecords hmemory⟩, fun hdone => ?_,
      fun _ => ⟨(ha rfl).2 rfl, hactive⟩⟩
    show ((s.noteActiveSwapChain race.object).swapChainStates race.object).getD {} = {}
    rw [hstates]
    exact h.defaultState hdone

/-- **A run that keeps the order captures the new object.** -/
theorem captured_of_inOrder (h : (raceSystem race).ReachableWhere RaceState.InOrder x)
    (hfinished : x.Finished) : race.Captured x.shadow := by
  -- the order is kept by every step, and the old records are there until the installation
  have hordered : x.Ordered race := by
    refine h.invariant_of_reachable ?_ ?_
    · rintro x rfl
      exact ⟨fun hnot => absurd (.inl rfl) hnot, fun hr => (nomatch hr), fun hc => (nomatch hc)⟩
    · intro x a x' hreachable hx ha hstep
      exact hx.step (oldRecords_of_reachable hreachable) ha hstep
  have hnot : ¬ x.Pending :=
    RaceState.not_pending (fun hc => nomatch hfinished.2.symm.trans hc) fun hc =>
      nomatch hfinished.2.symm.trans hc
  refine ⟨(hordered.shadowed hnot).2, ?_, (hordered.noted hfinished.2).2⟩
  rw [hordered.defaultState hfinished.1]

/-! ### Out of order -/

/-- The new object was overlooked: the installation is over, and the only record there was is
the old one. -/
structure RaceState.Overlooked (race : ReuseRace code) (x : RaceState) : Prop where
  notPending : ¬ x.Pending
  kept : x.releaser = .deactivate → x.shadow.records = race.start.records
  retired : x.releaser ≠ .deactivate →
    x.shadow.records = race.start.records.modify race.index ShadowRecord.retire

/-- An object that was overlooked stays so: the capturing thread does not try again. -/
theorem RaceState.Overlooked.step (h : x.Overlooked race)
    (hstep : (raceSystem race).step x a = some x') : x'.Overlooked race := by
  cases raceStep_of_step hstep with
  | deactivate s c =>
    refine ⟨h.notPending, fun hr => (nomatch hr), fun _ => ?_⟩
    show s.records.modify race.index ShadowRecord.retire = _
    rw [h.kept rfl]
  | clearActive s c =>
    refine ⟨h.notPending, fun hr => (nomatch hr), fun _ => ?_⟩
    exact (clearActiveSwapChain_records s race.object).1.trans (h.retired fun hr => nomatch hr)
  | removeState s c =>
    exact ⟨h.notPending, fun hr => (nomatch hr), fun _ => h.retired fun hr => nomatch hr⟩
  -- the capturing thread is past these two steps
  | reuse s r => exact absurd (.inl rfl) h.notPending
  | install s s' r => exact absurd (.inr rfl) h.notPending
  | failed s s' r => exact absurd (.inr rfl) h.notPending
  | ensure s r => exact ⟨RaceState.not_pending nofun nofun, h.kept, h.retired⟩
  | note s r =>
    have hrecords := (noteActiveSwapChain_eq (s := s) race.object_ne).1
    exact ⟨RaceState.not_pending nofun nofun, fun hr => hrecords.trans (h.kept hr),
      fun hr => hrecords.trans (h.retired hr)⟩

/-- An object that was overlooked has no record in the end. -/
theorem RaceState.Overlooked.not_captured (h : x.Overlooked race) (hfinished : x.Finished) :
    ¬ race.Captured x.shadow := by
  have hr : x.releaser ≠ .deactivate := fun hr => nomatch hfinished.1.symm.trans hr
  have hnone : x.shadow.findShadowRecord race.object .swapChain = none :=
    noRecord_of_retired (uniqueActive_of_reachable race.reachable) race.found (h.retired hr)
  rintro ⟨⟨i, record, hfound, -⟩, -⟩
  rw [hnone] at hfound
  exact nomatch hfound

/-- The note came too early: the releasing thread will clear it, or has. -/
def RaceState.NotedEarly (race : ReuseRace code) (x : RaceState) : Prop :=
  x.capturer = .done ∧ (x.releaser = .deactivate ∨ x.releaser = .clearActive ∨
    x.shadow.activeSwapChain ≠ race.object)

/-- A note that came too early is cleared. -/
theorem RaceState.NotedEarly.step (h : x.NotedEarly race)
    (hstep : (raceSystem race).step x a = some x') : x'.NotedEarly race := by
  obtain ⟨hdone, h⟩ := h
  cases raceStep_of_step hstep with
  | deactivate s c => exact ⟨hdone, .inr (.inl rfl)⟩
  | clearActive s c => exact ⟨hdone, .inr (.inr (clearActiveSwapChain_ne s race.object_ne))⟩
  | removeState s c =>
    obtain hr | hr | hne := h
    · exact nomatch hr
    · exact nomatch hr
    · exact ⟨hdone, .inr (.inr hne)⟩
  -- the capturing thread has finished
  | reuse => exact nomatch hdone
  | install => exact nomatch hdone
  | failed => exact nomatch hdone
  | ensure => exact nomatch hdone
  | note => exact nomatch hdone

/-- An object whose note was cleared is not the active swap chain in the end. -/
theorem RaceState.NotedEarly.not_captured (h : x.NotedEarly race) (hfinished : x.Finished) :
    ¬ race.Captured x.shadow := by
  rintro ⟨-, -, hactive⟩
  obtain ⟨-, hr | hr | hne⟩ := h
  · exact nomatch hfinished.1.symm.trans hr
  · exact nomatch hfinished.1.symm.trans hr
  · exact hne hactive

/-- An installation is out of order only before the deactivation. -/
theorem RaceState.releaser_eq_of_not_inOrder (ha : ¬ x.InOrder .capture)
    (hc : x.capturer = .install) : x.releaser = .deactivate := by
  by_contra hr
  refine ha fun _ => ⟨fun _ => hr, fun hnote => ?_⟩
  exact nomatch hc.symm.trans hnote

/-- A step out of order loses the new object, one way or the other. -/
theorem lost_of_not_inOrder (hx : (raceSystem race).Reachable x) (ha : ¬ x.InOrder a)
    (hstep : (raceSystem race).step x a = some x') :
    x'.Overlooked race ∨ x'.NotedEarly race := by
  cases raceStep_of_step hstep with
  -- only two steps of the capturing thread can be out of order
  | deactivate s c => exact absurd (fun h => nomatch h) ha
  | clearActive s c => exact absurd (fun h => nomatch h) ha
  | removeState s c => exact absurd (fun h => nomatch h) ha
  | reuse s r => exact absurd (fun _ => ⟨fun h => (nomatch h), fun h => (nomatch h)⟩) ha
  | ensure s r => exact absurd (fun _ => ⟨fun h => (nomatch h), fun h => (nomatch h)⟩) ha
  | install s s' r hpatch =>
    -- the old record is still found, and the vtable of the new object is not one of its own
    obtain rfl : r = .deactivate := RaceState.releaser_eq_of_not_inOrder ha rfl
    have hold := oldRecords_of_reachable hx (.inr rfl)
    rw [ReuseRace.patchObject_of_oldRecord (hold.memory rfl) (hold.kept rfl)] at hpatch
    obtain ⟨-, rfl⟩ := Prod.mk.inj hpatch
    exact .inl ⟨RaceState.not_pending nofun nofun, hold.kept, hold.retired⟩
  | failed s s' r error hpatch =>
    obtain rfl : r = .deactivate := RaceState.releaser_eq_of_not_inOrder ha rfl
    have hold := oldRecords_of_reachable hx (.inr rfl)
    rw [ReuseRace.patchObject_of_oldRecord (hold.memory rfl) (hold.kept rfl)] at hpatch
    exact nomatch (Prod.mk.inj hpatch).1
  | note s r =>
    -- the note was made before the clearing, which is still to come
    refine .inr ⟨rfl, ?_⟩
    cases r with
    | deactivate => exact .inl rfl
    | clearActive => exact .inr (.inl rfl)
    | removeState => exact absurd (fun _ => ⟨fun h => (nomatch h), fun _ => .inl rfl⟩) ha
    | done => exact absurd (fun _ => ⟨fun h => (nomatch h), fun _ => .inr rfl⟩) ha

/-- After a step out of order, the new object is not captured. -/
theorem not_captured_of_not_inOrder (hx : (raceSystem race).Reachable x) (ha : ¬ x.InOrder a)
    (hstep : (raceSystem race).step x a = some x') {P : RaceState → RaceThread → Prop}
    {y : RaceState} (hy : (raceSystem race).LeadsToWhere P x' y) (hfinished : y.Finished) :
    ¬ race.Captured y.shadow := by
  -- what was lost stays lost to the end of the run
  obtain hlost | hlost := lost_of_not_inOrder hx ha hstep
  · have hrun : y.Overlooked race := hy.stable (fun _ _ _ h _ hs => h.step hs) hlost
    exact hrun.not_captured hfinished
  · have hrun : y.NotedEarly race := hy.stable (fun _ _ _ h _ hs => h.step hs) hlost
    exact hrun.not_captured hfinished

/-- **When the new object is captured.** In every run all of whose steps keep the order of
retirement and capture, the new object is captured once both threads have finished; a run
with a step out of order never ends with the new object captured. -/
theorem captured_iff_in_order (race : ReuseRace code) :
    (∀ x, (raceSystem race).ReachableWhere RaceState.InOrder x → x.Finished →
      race.Captured x.shadow) ∧
    ∀ x a x' y, (raceSystem race).Reachable x → ¬ x.InOrder a →
      (raceSystem race).step x a = some x' →
      (raceSystem race).LeadsToWhere (fun _ _ => True) x' y → y.Finished →
      ¬ race.Captured y.shadow :=
  ⟨fun _ h hfinished => captured_of_inOrder h hfinished,
    fun _ _ _ _ hx ha hstep hy hfinished => not_captured_of_not_inOrder hx ha hstep hy hfinished⟩

/-! ### A lost swap chain

The sample swap chain is released, and one with the same vtable is created at its address. -/

/-- The memory once the new object was created. -/
def sampleReused : ByteMemory := sampleShadowed.memory.writePointer sampleObject sampleRoot

def sampleReusedClone : ClonedRegion := ⟨⟨0x30000, by decide⟩, 0x30100, 0x400⟩

def sampleRace : ReuseRace sampleCode where
  start := sampleShadowed
  object := sampleObject
  index := 0
  reused := sampleReused
  entryCount := 18
  outcome := sampleOutcomeAt 0x30000
  clone := sampleReusedClone
  entryCapacity := 96
  cloned := fillClone sampleReused sampleRegion 0x30000 0
  reachable := sampleShadowed_reachable
  found := rfl
  aligned := by decide
  root_ne := by decide +kernel
  -- the vtable of the new object is the root, which is no generation
  ordinary := by
    have hroot : sampleReused.readPointer sampleObject = sampleRoot := by decide +kernel
    rw [hroot]
    intro record hrecord
    obtain rfl := Option.some.inj hrecord
    rfl
  hooks_lt := by decide +kernel
  unhooked := by
    unfold OriginalsUsable
    decide +kernel
  cloneVtable := by
    have hroot : sampleReused.readPointer sampleObject = sampleRoot := by decide +kernel
    rw [hroot]
    rfl
  allocatesUnused := by
    refine ⟨sampleOutcomeAt_allocatesApartFrom (by decide) (by decide), fun information h => ?_⟩
    obtain rfl := Option.some.inj h
    exact sampleOutcomeAt_allocatesApartFrom (by decide) (by decide)
  protects := rfl
  noInterloper := rfl

/-- **A new swap chain is overlooked.** The capturing thread finishes before the releasing
thread deactivates the record of the old object. -/
theorem reused_object_is_overlooked :
    ∃ x, (raceSystem sampleRace).run ⟨sampleRace.start, .deactivate, .reuse⟩
        [.capture, .capture, .capture, .capture, .release, .release, .release] = some x ∧
      x.Finished ∧ ¬ sampleRace.Captured x.shadow := by
  -- the installation finds the old record, and does nothing
  have hpatch := sampleRace.patchObject_of_oldRecord
    (s := { sampleRace.start with memory := sampleRace.reused }) rfl rfl
  have hreuse : (raceSystem sampleRace).step ⟨sampleRace.start, .deactivate, .reuse⟩ .capture =
      some ⟨{ sampleRace.start with memory := sampleRace.reused }, .deactivate, .install⟩ := rfl
  have hinstall : (raceSystem sampleRace).step
      ⟨{ sampleRace.start with memory := sampleRace.reused }, .deactivate, .install⟩ .capture =
        some ⟨{ sampleRace.start with memory := sampleRace.reused }, .deactivate, .ensure⟩ := by
    simp only [raceSystem, hpatch]
  refine ⟨⟨((ShadowState.ensureSwapChainState { sampleRace.start with memory := sampleRace.reused }
    sampleRace.object).noteActiveSwapChain sampleRace.object).retireShadowObject 0 sampleRace.object
      .swapChain, .done, .done⟩, ?_, ⟨rfl, rfl⟩, ?_⟩
  · rw [ActionSystem.run_cons, hreuse, Option.bind_some, ActionSystem.run_cons, hinstall,
      Option.bind_some]
    rfl
  · refine RaceState.Overlooked.not_captured ⟨RaceState.not_pending nofun nofun,
      fun hr => (nomatch hr), fun _ => ?_⟩ ⟨rfl, rfl⟩
    exact retireShadowObject_records _ _ _ _

end Shadow
end WindowedHdr
