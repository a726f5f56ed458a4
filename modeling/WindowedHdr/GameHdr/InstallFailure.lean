import WindowedHdr.GameHdr.Install

/-!
# Failed installations

An installer that returns an error should leave the game as it found it. It does, with one
exception that all three share: when `write_memory` fails after the copy, the installer
takes the error for a patch that was not written, withdraws the saved original, and leaves
the game redirected to a hook that has nothing to call. A failed verification, in contrast,
writes the original bytes back.

`Patch.apply_cases` lists the outcomes of the shared sequence. The checks in front of it
change neither the game's memory nor a saved original, so `finishInstall_intact_iff` reduces
each installer to the question when its checks get as far as a patch.

The condition is about the answers of the operating system and the state before the call:
whether the original was published, and whether `write_memory` fails after its copy. It is
exact, because the checks end early where the memory already holds the patch (`Prepares.ready`),
so that a copied patch is a change. The two samples are runs in which an installation fails: in
the first one the cache cannot be flushed and the game is left redirected, in the second one the
page cannot be made writable and the game is as it was.
-/

namespace WindowedHdr
namespace GameHdr

open GameCompat Windows

variable {o : InstallOutcome} {s : GameProcess}

/-- Withdrawing a published original restores the saved originals. -/
theorem storeOriginal_withdrawn {slot : SavedOriginal} (original : UInt64)
    (hnull : s.savedOriginal slot = 0) :
    ((s.storeOriginal slot original).storeOriginal slot 0).savedOriginal = s.savedOriginal := by
  change Function.update (Function.update s.savedOriginal slot original) slot 0 = s.savedOriginal
  rw [Function.update_idem, ← hnull, Function.update_eq_self]

namespace Patch

/-- What was written back is read back. -/
theorem read_restore (p : Patch) (m : ByteMemory) :
    (m.write p.target p.restore).read p.target p.bytes.length = p.restore := by
  have hshort : p.restore.length ≤ 2 ^ 64 := by
    rw [p.sameLength]
    exact p.short
  rw [← p.sameLength]
  exact m.read_write p.target p.restore hshort

/-- A patch replaces at least one byte. -/
theorem restore_ne (p : Patch) : p.restore ≠ [] := by
  intro hnil
  have hlen := p.sameLength
  rw [hnil, List.length_nil] at hlen
  exact p.bytes_ne (List.length_eq_zero_iff.mp hlen.symm)

/-- The outcomes of the verification, when a repair succeeds. -/
theorem verify_cases (p : Patch) (ht : p.target ≠ 0) (hrepair : o.repair.Succeeds) :
    (∃ e s', p.verify o s = (.error e, s') ∧
      s'.memory.read p.target p.bytes.length = p.restore ∧
      s'.savedOriginal = (s.storeOriginal p.slot 0).savedOriginal) ∨
    p.verify o s = (.ok p.original.1, s) := by
  -- another component may have written between the copy and this read
  by_cases hv : s.memory.read p.target p.bytes.length = p.bytes
  · right
    rw [verify, if_neg (by simp [hv])]
  · left
    obtain ⟨_, hf, -⟩ | ⟨_, -, hf, -⟩ | ⟨-, -, hw⟩ :=
      writeMemory_cases o.repair s.memory p.target p.restore_ne
    -- a repair that succeeds fails neither before nor after its copy
    · exact absurd hrepair.1 (by simp [hf.resolve_left ht])
    · exact absurd hf hrepair.not_failsAfterCopy
    · have hverify : p.verify o s = (.error p.texts.restored,
          { s with memory := s.memory.write p.target p.restore }.storeOriginal p.slot 0) := by
        rw [verify, if_pos (by simp [hv]), hw]
      exact ⟨_, _, hverify, p.read_restore s.memory, rfl⟩

/-- With no original published before, the result depends on the write alone. -/
theorem apply_of_unpublished (p : Patch) (hs : s.savedOriginal p.slot = 0) :
    p.apply o s =
      match writeMemory o.patch s.memory p.target p.bytes with
      | (.error error, memory) =>
        (.error (p.texts.cannotPatch ++ error),
          { s.storeOriginal p.slot p.original with memory := memory }.storeOriginal p.slot 0)
      | (.ok (), memory) =>
        p.verify o { s.storeOriginal p.slot p.original with memory := o.interference memory } := by
  rw [apply, if_neg (by simp [hs])]
  rfl

/-- The outcomes of the shared sequence, when a repair succeeds: the original was already
published; the write failed before the copy; it failed after the copy; the verification
failed and was repaired; the hook is in place. -/
theorem apply_cases (p : Patch) (s : GameProcess) (hrepair : o.repair.Succeeds) :
    (∃ e, s.savedOriginal p.slot ≠ 0 ∧ p.apply o s = (.error e, s)) ∨
    (∃ e s', (p.target = 0 ∨ o.patch.unprotect = false) ∧
      p.apply o s = (.error e, s') ∧ s'.memory = s.memory ∧
      s'.savedOriginal = s.savedOriginal) ∨
    (∃ e s', s.savedOriginal p.slot = 0 ∧ p.target ≠ 0 ∧ o.patch.FailsAfterCopy ∧
      p.apply o s = (.error e, s') ∧
      s'.memory.read p.target p.bytes.length = p.bytes) ∨
    (∃ e s', o.patch.Succeeds ∧ p.apply o s = (.error e, s') ∧
      s'.memory.read p.target p.bytes.length = p.restore ∧
      s'.savedOriginal = s.savedOriginal) ∨
    (∃ s', o.patch.Succeeds ∧ p.apply o s = (.ok p.original.1, s') ∧
      s'.savedOriginal p.slot = p.original.1) := by
  -- an original that is published already ends the sequence
  by_cases hs : s.savedOriginal p.slot = 0
  swap
  · exact .inl ⟨_, hs, by rw [apply, if_pos (by simpa using hs)]⟩
  have happly := p.apply_of_unpublished (o := o) hs
  have hwithdrawn := storeOriginal_withdrawn p.original.1 hs
  right
  obtain ⟨e, hfail, hw⟩ | ⟨e, ht, hfail, hw⟩ | ⟨ht, hok, hw⟩ :=
    writeMemory_cases o.patch s.memory p.target p.bytes_ne
  · rw [hw] at happly
    exact .inl ⟨_, _, hfail, happly, rfl, hwithdrawn⟩
  · -- the bytes were copied, and the original is withdrawn all the same
    rw [hw] at happly
    have hread := s.memory.read_write p.target p.bytes p.short
    exact .inr (.inl ⟨_, _, hs, ht, hfail, happly, hread⟩)
  · right; right
    rw [happly, hw]
    obtain ⟨e, s', hverify, hread, hsaved⟩ | hverify := p.verify_cases ht hrepair
    · exact .inl ⟨e, s', hok, hverify, hread, hsaved.trans hwithdrawn⟩
    · exact .inr ⟨_, hok, hverify, Function.update_self ..⟩

end Patch

/-- A failed installation leaves the target and the saved original as they were, and none
leaves an unpatched target redirected without a saved original. -/
structure FailureLeavesIntact {α : Type} (result : Except String α × GameProcess)
    (s : GameProcess) (slot : SavedOriginal) (target : UInt64) (patch : List UInt8) : Prop where
  intact : ∀ e, result.1 = .error e →
    result.2.memory.read target patch.length = s.memory.read target patch.length ∧
      result.2.savedOriginal slot = s.savedOriginal slot
  notRedirected : s.memory.read target patch.length ≠ patch →
    ¬ (result.2.memory.read target patch.length = patch ∧ result.2.savedOriginal slot = 0)

/-- An installation that leaves the target and the saved originals alone is intact. -/
theorem FailureLeavesIntact.of_unchanged {α : Type} {result : Except String α × GameProcess}
    {slot : SavedOriginal} {target : UInt64} {patch : List UInt8}
    (hread : result.2.memory.read target patch.length = s.memory.read target patch.length)
    (hsaved : result.2.savedOriginal = s.savedOriginal) :
    FailureLeavesIntact result s slot target patch where
  intact _ _ := ⟨hread, congrFun hsaved slot⟩
  notRedirected hne := by
    rintro ⟨heq, -⟩
    exact hne (hread.symm.trans heq)

/-- The checks of an installer leave memory and saved originals alone. They get as far as a
patch exactly when `verified` holds, and it is then `patch` over the unpatched bytes at
`target`. -/
structure Prepares (prepared : Except String Prepared × GameProcess) (s : GameProcess)
    (slot : SavedOriginal) (target : UInt64) (patch : List UInt8) (verified : Prop) : Prop where
  memory : prepared.2.memory = s.memory
  saved : prepared.2.savedOriginal = s.savedOriginal
  ready_iff : (∃ p, prepared.1 = .ok (.ready p)) ↔ verified
  ready : ∀ p, prepared.1 = .ok (.ready p) →
    p.slot = slot ∧ p.target = target ∧ p.bytes = patch ∧
      p.restore = s.memory.read target patch.length ∧
      s.memory.read target patch.length ≠ patch

/-- Checks that end without a patch. -/
theorem Prepares.refused {result : Except String Prepared} {s₁ : GameProcess}
    {slot : SavedOriginal} {target : UInt64} {patch : List UInt8} {verified : Prop}
    (hresult : ∀ p, result ≠ .ok (.ready p)) (hm : s₁.memory = s.memory)
    (hs : s₁.savedOriginal = s.savedOriginal) (hv : ¬ verified) :
    Prepares (result, s₁) s slot target patch verified where
  memory := hm
  saved := hs
  ready_iff := iff_of_false (fun ⟨p, hp⟩ => hresult p hp) hv
  ready p hp := absurd hp (hresult p)

/-- An installation fails badly exactly when its checks get as far as a patch, nothing was
published before, and the write fails after the copy. -/
theorem finishInstall_intact_iff {prepared : Except String Prepared × GameProcess}
    {slot : SavedOriginal} {target : UInt64} {patch : List UInt8} {verified : Prop}
    (hp : Prepares prepared s slot target patch verified) (hrepair : o.repair.Succeeds) :
    FailureLeavesIntact (finishInstall o prepared) s slot target patch ↔
      ¬ (verified ∧ s.savedOriginal slot = 0 ∧ target ≠ 0 ∧ o.patch.FailsAfterCopy) := by
  obtain ⟨result, s₁⟩ := prepared
  obtain ⟨hmem, hsaved, hiff, hready⟩ := hp
  dsimp only at hmem hsaved hiff hready
  rw [← hiff]
  -- nothing was written: the installer is safe, and its checks found no patch
  have hunchanged (r : Except String UInt64) :
      FailureLeavesIntact (r, s₁) s slot target patch :=
    .of_unchanged (by rw [hmem]) hsaved
  match result with
  | .error e =>
    exact iff_of_true (hunchanged _) (by simp)
  | .ok (.installed original) =>
    exact iff_of_true (hunchanged _) (by simp)
  | .ok (.ready p) =>
    obtain ⟨rfl, rfl, rfl, hrestore, hne⟩ := hready p rfl
    change FailureLeavesIntact (p.apply o s₁) s p.slot p.target p.bytes ↔ _
    -- each way in which the sequence ends
    obtain ⟨e, hs, ha⟩ | ⟨e, s', hf, ha, hm', hs'⟩ | ⟨e, s', hs, ht, hf, ha, hread⟩ |
      ⟨e, s', hok, ha, hread, hs'⟩ | ⟨s', hok, ha, hs'⟩ := p.apply_cases s₁ hrepair
    · rw [ha]
      refine iff_of_true (hunchanged _) fun hbad => ?_
      rw [hsaved] at hs
      exact hs hbad.2.1
    · -- the copy was not reached
      rw [ha]
      refine iff_of_true (.of_unchanged (by rw [hm', hmem]) (hs'.trans hsaved)) fun hbad => ?_
      obtain ⟨-, -, ht, hfails⟩ := hbad
      exact absurd hfails.1 (by simp [hf.resolve_left ht])
    · -- the bytes were copied: the target reads as the patch, and it did not before
      rw [ha]
      rw [hsaved] at hs
      refine iff_of_false (fun hsafe => ?_) (not_not.mpr ⟨⟨p, rfl⟩, hs, ht, hf⟩)
      have hkept := (hsafe.intact e rfl).1
      dsimp only at hkept
      rw [hread] at hkept
      exact hne hkept.symm
    · -- the verification failed: the restoration is what was there before
      rw [ha]
      refine iff_of_true (.of_unchanged (hread.trans hrestore) (hs'.trans hsaved)) fun hbad => ?_
      exact hok.not_failsAfterCopy hbad.2.2.2
    · -- the hook is in place, and has an original to call
      rw [ha]
      refine iff_of_true ⟨fun _ he => by simp at he, fun _ => ?_⟩ fun hbad => ?_
      · rintro ⟨-, hnull⟩
        dsimp only at hnull
        rw [hs'] at hnull
        exact p.original.2 hnull
      · exact hok.not_failsAfterCopy hbad.2.2.2

/-! ### When the checks get as far as a patch -/

/-- The trampoline was allocated and made executable. -/
structure TrampolineReady (o : InstallOutcome) : Prop where
  allocated : o.allocation ≠ 0
  executable : o.trampoline.protect = true
  flushed : o.trampoline.flush = true

/-- The trampoline is ready, or the preparation fails; memory and saved originals stay in both
cases. -/
theorem prepareTrampoline_cases (o : InstallOutcome) {bytes : List UInt8} (hb : bytes ≠ [])
    (s : GameProcess) :
    (∃ e s', ¬ TrampolineReady o ∧ prepareTrampoline o bytes s = (.error e, s') ∧
      s'.memory = s.memory ∧ s'.savedOriginal = s.savedOriginal) ∨
    (∃ trampoline s', TrampolineReady o ∧ prepareTrampoline o bytes s = (.ok trampoline, s') ∧
      s'.memory = s.memory ∧ s'.savedOriginal = s.savedOriginal) := by
  have hsize : bytes.length ≠ 0 := fun h => hb (List.length_eq_zero_iff.mp h)
  by_cases ha : o.allocation = 0
  · obtain ⟨e, halloc⟩ : ∃ e, allocateReadWrite o.allocation bytes.length = .error e := by
      simp [allocateReadWrite, hsize, ha]
    refine .inl ⟨e, s, fun h => h.allocated ha, ?_, rfl, rfl⟩
    rw [prepareTrampoline, halloc]
  · have halloc : allocateReadWrite o.allocation bytes.length = .ok ⟨o.allocation, ha⟩ := by
      simp [allocateReadWrite, hsize, ha]
    -- the allocation is recorded whether or not it can be made executable
    let s' := { s with allocations := (o.allocation, bytes) :: s.allocations }
    cases hp : protectExecuteRead o.trampoline o.allocation bytes.length with
    | error e =>
      refine .inl ⟨e, s', fun h => ?_, ?_, rfl, rfl⟩
      · have hok := protectExecuteRead_eq_ok.mpr ⟨ha, hsize, h.executable, h.flushed⟩
        rw [hp] at hok
        simp at hok
      · rw [prepareTrampoline, halloc]
        dsimp only
        rw [hp]
    | ok u =>
      obtain ⟨-, -, hexecutable, hflushed⟩ := protectExecuteRead_eq_ok.mp hp
      refine .inr ⟨⟨o.allocation, ha⟩, s', ⟨ha, hexecutable, hflushed⟩, ?_, rfl, rfl⟩
      rw [prepareTrampoline, halloc]
      dsimp only
      rw [hp]

/-- The target holds the verified prologue, which is not the patch itself. -/
structure PrologueVerified (s : GameProcess) (target : UInt64) (prologue : Vector UInt8 14)
    (replacement : UInt64) : Prop where
  verified : s.memory.read target 14 = prologue.toList
  unpatched : s.memory.read target 14 ≠ absoluteJump replacement

/-- Checks that end in the patch of an inline hook. -/
theorem Prepares.inline {s₁ : GameProcess} {target : UInt64} {prologue : Vector UInt8 14}
    {replacement : UInt64} {verified : Prop} (slot : SavedOriginal) (trampoline : NonNull)
    (texts : PatchTexts) (hm : s₁.memory = s.memory) (hs : s₁.savedOriginal = s.savedOriginal)
    (hprologue : PrologueVerified s target prologue replacement) (hv : verified) :
    Prepares
      (.ok (.ready (inlinePatch slot trampoline target replacement prologue texts)), s₁)
      s slot target (absoluteJump replacement) verified where
  memory := hm
  saved := hs
  ready_iff := iff_of_true ⟨_, rfl⟩ hv
  ready p hp := by
    obtain rfl := Prepared.ready.inj (Except.ok.inj hp)
    refine ⟨rfl, rfl, rfl, ?_, ?_⟩
    · rw [length_absoluteJump]
      exact hprologue.verified.symm
    · rw [length_absoluteJump]
      exact hprologue.unpatched

/-- **The inline hook.** Its checks pass when the prologue is the verified one and the trampoline is
ready. -/
theorem prepareInlineHook_prepares (target : UInt64) (targetRva : Nat)
    (prologue : Vector UInt8 14) (replacement : UInt64) (slot : SavedOriginal) (label : String)
    (o : InstallOutcome) (s : GameProcess) :
    Prepares (prepareInlineHook target targetRva prologue replacement slot label o s) s slot
      target (absoluteJump replacement)
      (PrologueVerified s target prologue replacement ∧ TrampolineReady o) := by
  unfold prepareInlineHook
  dsimp only
  by_cases hpatched : s.memory.read target 14 = absoluteJump replacement
  · -- the hook is there already
    rw [if_pos (by simp [hpatched])]
    have hv : ¬ (PrologueVerified s target prologue replacement ∧ TrampolineReady o) :=
      fun h => h.1.unpatched hpatched
    split
    · exact .refused (by simp) rfl rfl hv
    · exact .refused (by simp) rfl rfl hv
  rw [if_neg (by simpa using hpatched)]
  by_cases hprologue : s.memory.read target 14 = prologue.toList
  · rw [if_neg (by simp [hprologue])]
    have hbytes : buildInlineTrampoline prologue (target + 14) ≠ [] := by
      simp [buildInlineTrampoline, absoluteJump]
    obtain ⟨e, s', hnot, ht, hm, hs⟩ | ⟨trampoline, s', hready, ht, hm, hs⟩ :=
      prepareTrampoline_cases o hbytes s
    · rw [ht]
      exact .refused (by simp) hm hs fun h => hnot h.2
    · rw [ht]
      have hv : PrologueVerified s target prologue replacement := ⟨hprologue, hpatched⟩
      exact .inline slot trampoline (inlineTexts label) hm hs hv ⟨hv, hready⟩
  · rw [if_pos (by simpa using hprologue)]
    exact .refused (by simp) rfl rfl fun h => hprologue h.1.verified

/-- What `install_verified_availability_hook` checks before it patches. -/
structure AvailabilityVerified (hooks : HookAddresses) (imageBase target : UInt64)
    (targets : GameTargets) (o : InstallOutcome) (s : GameProcess) : Prop where
  prologue : PrologueVerified s target targets.commonAvailabilityPrologue
    hooks.hdrCommonAvailabilityHook
  cookie : resolvedCookie targets target = some (imageBase + .ofNat targets.securityCookieRva)
  trampoline : TrampolineReady o

/-- **The availability hook.** Its checks pass when the cookie is the resolved one in addition. -/
theorem prepareAvailabilityHook_prepares (hooks : HookAddresses) (imageBase target : UInt64)
    (targets : GameTargets) (o : InstallOutcome) (s : GameProcess) :
    Prepares (prepareAvailabilityHook hooks imageBase target targets o s) s
      .hdrCommonAvailability target (absoluteJump hooks.hdrCommonAvailabilityHook)
      (AvailabilityVerified hooks imageBase target targets o s) := by
  unfold prepareAvailabilityHook
  dsimp only
  by_cases hpatched : s.memory.read target 14 = absoluteJump hooks.hdrCommonAvailabilityHook
  · rw [if_pos (by simp [hpatched])]
    have hv : ¬ AvailabilityVerified hooks imageBase target targets o s :=
      fun h => h.prologue.unpatched hpatched
    split
    · exact .refused (by simp) rfl rfl hv
    · exact .refused (by simp) rfl rfl hv
  rw [if_neg (by simpa using hpatched)]
  by_cases hprologue : s.memory.read target 14 = targets.commonAvailabilityPrologue.toList
  swap
  · rw [if_pos (by simpa using hprologue)]
    exact .refused (by simp) rfl rfl fun h => hprologue h.prologue.verified
  rw [if_neg (by simp [hprologue])]
  -- the installer derives the cookie once more, and compares
  cases hcookie : resolvedCookie targets target with
  | none =>
    refine .refused (by simp) rfl rfl fun h => ?_
    exact absurd (hcookie.symm.trans h.cookie) (by simp)
  | some cookie =>
    dsimp only
    by_cases hexpected : cookie = imageBase + .ofNat targets.securityCookieRva
    swap
    · rw [if_pos (by simpa using hexpected)]
      refine .refused (by simp) rfl rfl fun h => hexpected ?_
      exact Option.some.inj (hcookie.symm.trans h.cookie)
    rw [if_neg (by simp [hexpected])]
    have hbytes : buildAvailabilityTrampoline (imageBase + .ofNat targets.securityCookieRva)
        (target + 14) ≠ [] := by
      simp [buildAvailabilityTrampoline]
    obtain ⟨e, s', hnot, ht, hm, hs⟩ | ⟨trampoline, s', hready, ht, hm, hs⟩ :=
      prepareTrampoline_cases o hbytes s
    · rw [ht]
      exact .refused (by simp) hm hs fun h => hnot h.trampoline
    · rw [ht]
      have hv : PrologueVerified s target targets.commonAvailabilityPrologue
          hooks.hdrCommonAvailabilityHook := ⟨hprologue, hpatched⟩
      have hc : resolvedCookie targets target =
          some (imageBase + .ofNat targets.securityCookieRva) := by rw [hcookie, hexpected]
      exact .inline _ trampoline availabilityTexts hm hs hv ⟨hv, hc, hready⟩

/-- What `install_menu_gate` checks on the entry that is to be replaced. -/
structure MenuGateSlotVerified (hooks : HookAddresses) (targets : GameTargets)
    (requireVerifiedOriginal : Bool) (o : InstallOutcome) (s : GameProcess) : Prop where
  unpatched : s.memory.readPointer (menuGateSlot targets o) ≠ hooks.hdrMenuGateHook
  nonNull : s.memory.readPointer (menuGateSlot targets o) ≠ 0
  executable : o.addressIsExecutable (s.memory.readPointer (menuGateSlot targets o)) = true
  original : requireVerifiedOriginal = true →
    s.memory.readPointer (menuGateSlot targets o) =
      o.mainModule + .ofNat targets.menuGateInvokeRva

/-- What `install_menu_gate` checks before it patches. -/
structure MenuGateVerified (hooks : HookAddresses) (targets : GameTargets)
    (requireVerifiedOriginal : Bool) (o : InstallOutcome) (s : GameProcess) : Prop where
  image : o.mainModule ≠ 0
  locator : s.memory.readPointer (menuGateVtable targets o - 8) =
    o.mainModule + .ofNat targets.menuGateCompleteObjectLocatorRva
  neighbors : ∀ index expectedRva, targets.menuGateEntries[index]? = some expectedRva →
    index ≠ hdrMenuGateInvokeIndex →
    s.memory.readPointer (menuGateVtable targets o + .ofNat (8 * index)) =
      o.mainModule + .ofNat expectedRva
  body : requireVerifiedOriginal = true →
    s.memory.read (o.mainModule + .ofNat targets.menuGateInvokeRva) 19 =
      targets.menuGateInvokeBytes.toList
  slot : MenuGateSlotVerified hooks targets requireVerifiedOriginal o s

/-- No neighbor differs exactly when every other entry is the expected one. -/
theorem mismatchedNeighbor_eq_none {targets : GameTargets} {memory : ByteMemory} :
    mismatchedNeighbor targets o memory = none ↔
      ∀ index expectedRva, targets.menuGateEntries[index]? = some expectedRva →
        index ≠ hdrMenuGateInvokeIndex →
        memory.readPointer (menuGateVtable targets o + .ofNat (8 * index)) =
          o.mainModule + .ofNat expectedRva := by
  unfold mismatchedNeighbor
  rw [List.find?_eq_none]
  constructor
  · intro h index expectedRva hentry hindex
    -- the search goes through every entry, paired with its index
    have hmem : (expectedRva, index) ∈ targets.menuGateEntries.toList.zipIdx := by
      rw [List.mem_zipIdx_iff_getElem?]
      simpa using hentry
    have hno := h _ (List.mem_map_of_mem hmem)
    by_contra hne
    exact hno (by simpa only [Bool.and_eq_true, bne_iff_ne] using ⟨hindex, hne⟩)
  · intro h entry hentry
    obtain ⟨⟨expectedRva, index⟩, hmem, rfl⟩ := List.mem_map.mp hentry
    rw [List.mem_zipIdx_iff_getElem?] at hmem
    by_cases hindex : index = hdrMenuGateInvokeIndex
    · simp [hindex]
    · have heq := h index expectedRva (by simpa using hmem) hindex
      simp only [Bool.and_eq_true, bne_iff_ne, heq, ne_eq, not_true, and_false,
        not_false_eq_true]

/-- **The slot of the gate.** Its checks pass when it holds code that may be replaced. -/
theorem prepareMenuGateSlot_prepares (hooks : HookAddresses) (targets : GameTargets)
    (requireVerifiedOriginal : Bool) (o : InstallOutcome) (s : GameProcess) :
    Prepares (prepareMenuGateSlot hooks targets requireVerifiedOriginal o s, s) s .hdrMenuGate
      (menuGateSlot targets o) (toLittleEndian 8 hooks.hdrMenuGateHook.toNat)
      (MenuGateSlotVerified hooks targets requireVerifiedOriginal o s) := by
  unfold prepareMenuGateSlot
  dsimp only
  by_cases hpatched : s.memory.readPointer (menuGateSlot targets o) = hooks.hdrMenuGateHook
  · rw [if_pos (by simp [hpatched])]
    have hv : ¬ MenuGateSlotVerified hooks targets requireVerifiedOriginal o s :=
      fun h => h.unpatched hpatched
    split
    · exact .refused (by simp) rfl rfl hv
    · exact .refused (by simp) rfl rfl hv
  rw [if_neg (by simpa using hpatched)]
  split
  · next hnull =>
    refine .refused (by simp) rfl rfl fun h => ?_
    obtain hnull | hexecutable := hnull
    · exact h.nonNull hnull
    · exact absurd (hexecutable.symm.trans h.executable) (by simp)
  · next hcallable =>
    push Not at hcallable
    split
    · next horiginal =>
      simp only [Bool.and_eq_true, bne_iff_ne] at horiginal
      exact .refused (by simp) rfl rfl fun h => horiginal.1 (h.original horiginal.2)
    · next horiginal =>
      simp only [Bool.and_eq_true, bne_iff_ne, not_and] at horiginal
      have hv : MenuGateSlotVerified hooks targets requireVerifiedOriginal o s :=
        ⟨hpatched, hcallable.1, by simpa using hcallable.2, fun hreq => by_contra fun hne =>
          horiginal hne hreq⟩
      refine ⟨rfl, rfl, iff_of_true ⟨_, rfl⟩ hv, fun p hp => ?_⟩
      obtain rfl := Prepared.ready.inj (Except.ok.inj hp)
      rw [length_toLittleEndian]
      -- the pointer that was read is the eight bytes that are compared and restored
      refine ⟨rfl, rfl, rfl, ?_, fun hbytes => ?_⟩
      · exact ((s.memory.readPointer_eq_iff _).mp rfl).symm
      · exact hpatched ((s.memory.readPointer_eq_iff _).mpr hbytes)

/-- **The menu gate.** Its checks pass when the table and its neighbors are verified in addition. -/
theorem prepareMenuGate_prepares (hooks : HookAddresses) (targets : GameTargets)
    (requireVerifiedOriginal : Bool) (o : InstallOutcome) (s : GameProcess) :
    Prepares (prepareMenuGate hooks targets requireVerifiedOriginal o s, s) s .hdrMenuGate
      (menuGateSlot targets o) (toLittleEndian 8 hooks.hdrMenuGateHook.toNat)
      (MenuGateVerified hooks targets requireVerifiedOriginal o s) := by
  -- the checks in their order: each one that fails contradicts its field
  unfold prepareMenuGate
  dsimp only
  by_cases himage : o.mainModule = 0
  · rw [if_pos (by simp [himage])]
    exact .refused (by simp) rfl rfl fun h => h.image himage
  rw [if_neg (by simpa using himage)]
  by_cases hlocator : s.memory.readPointer (menuGateVtable targets o - 8) =
      o.mainModule + .ofNat targets.menuGateCompleteObjectLocatorRva
  swap
  · rw [if_pos (by simpa using hlocator)]
    exact .refused (by simp) rfl rfl fun h => hlocator h.locator
  rw [if_neg (by simpa using hlocator)]
  cases hneighbor : mismatchedNeighbor targets o s.memory with
  | some neighbor =>
    refine .refused (by simp) rfl rfl fun h => ?_
    have hnone := mismatchedNeighbor_eq_none.mpr h.neighbors
    simp [hneighbor] at hnone
  | none =>
    dsimp only
    split
    · next hbody =>
      simp only [Bool.and_eq_true, bne_iff_ne] at hbody
      exact .refused (by simp) rfl rfl fun h => hbody.1 (h.body hbody.2)
    · next hbody =>
      simp only [Bool.and_eq_true, bne_iff_ne, not_and] at hbody
      -- all of them have passed, and the slot decides
      obtain ⟨hm, hs, hiff, hready⟩ :=
        prepareMenuGateSlot_prepares hooks targets requireVerifiedOriginal o s
      refine ⟨hm, hs, hiff.trans ⟨fun hv => ?_, fun h => h.slot⟩, hready⟩
      exact ⟨himage, hlocator, mismatchedNeighbor_eq_none.mp hneighbor,
        fun hreq => by_contra fun hne => hbody hne hreq, hv⟩

/-! ### Failed installations -/

/-- The menu gate: storing the unlock flag first changes nothing that the checks read. -/
theorem installMenuGate_intact_iff (hooks : HookAddresses) (targets : GameTargets)
    (unlock requireVerifiedOriginal : Bool) (hrepair : o.repair.Succeeds) :
    FailureLeavesIntact (installMenuGate hooks targets unlock requireVerifiedOriginal o s) s
        .hdrMenuGate (menuGateSlot targets o) (toLittleEndian 8 hooks.hdrMenuGateHook.toNat) ↔
      ¬ (MenuGateVerified hooks targets requireVerifiedOriginal o s ∧
        s.savedOriginal .hdrMenuGate = 0 ∧ menuGateSlot targets o ≠ 0 ∧
        o.patch.FailsAfterCopy) := by
  -- the checks are stated on the state with the flag, but do not read it
  let s₁ : GameProcess := { s with menuGateUnlock := unlock }
  have hslot : MenuGateSlotVerified hooks targets requireVerifiedOriginal o s₁ ↔
      MenuGateSlotVerified hooks targets requireVerifiedOriginal o s :=
    ⟨fun ⟨h₁, h₂, h₃, h₄⟩ => ⟨h₁, h₂, h₃, h₄⟩, fun ⟨h₁, h₂, h₃, h₄⟩ => ⟨h₁, h₂, h₃, h₄⟩⟩
  have hverified : MenuGateVerified hooks targets requireVerifiedOriginal o s₁ ↔
      MenuGateVerified hooks targets requireVerifiedOriginal o s :=
    ⟨fun ⟨h₁, h₂, h₃, h₄, h₅⟩ => ⟨h₁, h₂, h₃, h₄, hslot.mp h₅⟩,
      fun ⟨h₁, h₂, h₃, h₄, h₅⟩ => ⟨h₁, h₂, h₃, h₄, hslot.mpr h₅⟩⟩
  have hiff := finishInstall_intact_iff
    (prepareMenuGate_prepares hooks targets requireVerifiedOriginal o s₁) hrepair
  rw [hverified] at hiff
  refine Iff.trans ?_ hiff
  -- an error of the installer is an error of the sequence, and conversely
  constructor
  · intro h
    refine ⟨fun e he => h.intact e ?_, h.notRedirected⟩
    unfold installMenuGate
    dsimp only
    rw [he]
    rfl
  · intro h
    refine ⟨fun e he => ?_, h.notRedirected⟩
    unfold installMenuGate at he
    dsimp only at he
    cases hr : (finishInstall o
      (prepareMenuGate hooks targets requireVerifiedOriginal o s₁, s₁)).1 with
    | error e' => exact h.intact e' hr
    | ok original =>
      rw [hr] at he
      simp [Except.map] at he

/-- **Failed installations and the write that fails after its copy.** With a repair that
succeeds, each installer leaves target and saved original intact on a failure exactly when
it is not the case that its checks passed, nothing was published before, and the write of
the patch failed after the copy. -/
theorem failed_installation_intact_iff (o : InstallOutcome) (s : GameProcess)
    (hrepair : o.repair.Succeeds) :
    (∀ hooks targets unlock requireVerifiedOriginal,
      FailureLeavesIntact (installMenuGate hooks targets unlock requireVerifiedOriginal o s) s
        .hdrMenuGate (menuGateSlot targets o)
        (toLittleEndian 8 hooks.hdrMenuGateHook.toNat) ↔
      ¬ (MenuGateVerified hooks targets requireVerifiedOriginal o s ∧
        s.savedOriginal .hdrMenuGate = 0 ∧ menuGateSlot targets o ≠ 0 ∧
        o.patch.FailsAfterCopy)) ∧
    (∀ imageBase targetRva prologue replacement slot label,
      FailureLeavesIntact
        (installVerifiedInlineHook imageBase targetRva prologue replacement slot label o s) s
        slot (imageBase + .ofNat targetRva) (absoluteJump replacement) ↔
      ¬ ((PrologueVerified s (imageBase + .ofNat targetRva) prologue replacement ∧
          TrampolineReady o) ∧
        s.savedOriginal slot = 0 ∧ imageBase + .ofNat targetRva ≠ 0 ∧
        o.patch.FailsAfterCopy)) ∧
    (∀ hooks imageBase targets,
      FailureLeavesIntact (installVerifiedAvailabilityHook hooks imageBase targets o s) s
        .hdrCommonAvailability (imageBase + .ofNat targets.commonAvailabilityRva)
        (absoluteJump hooks.hdrCommonAvailabilityHook) ↔
      ¬ (AvailabilityVerified hooks imageBase
          (imageBase + .ofNat targets.commonAvailabilityRva) targets o s ∧
        s.savedOriginal .hdrCommonAvailability = 0 ∧
        imageBase + .ofNat targets.commonAvailabilityRva ≠ 0 ∧ o.patch.FailsAfterCopy)) := by
  -- the installers differ in their checks alone
  refine ⟨fun hooks targets unlock require => ?_, fun imageBase rva prologue replacement slot
    label => ?_, fun hooks imageBase targets => ?_⟩
  · exact installMenuGate_intact_iff hooks targets unlock require hrepair
  · exact finishInstall_intact_iff
      (prepareInlineHook_prepares _ rva prologue replacement slot label o s) hrepair
  · exact finishInstall_intact_iff
      (prepareAvailabilityHook_prepares hooks imageBase _ targets o s) hrepair

/-- The patch is copied, and the flush of the instruction cache behind it fails. -/
def failedFlush : InstallOutcome where
  mainModule := 0x140000000
  addressIsExecutable _ := true
  allocation := 0x20000000
  trampoline := ⟨true, true⟩
  patch := ⟨true, false, true⟩
  interference m := m
  repair := ⟨true, true, true⟩

/-- A process without hooks, whose routines consist of `nop`. -/
def unhookedProcess : GameProcess where
  memory _ := 0x90
  savedOriginal _ := 0
  allocations := []
  menuGateUnlock := false

/-- The sample routine is the verified prologue and holds no hook. -/
theorem unhookedProcess_verified :
    PrologueVerified unhookedProcess (0x140000000 + .ofNat 0x1000) (Vector.replicate 14 0x90)
      0x180001000 where
  verified := by decide
  unpatched := by decide

/-- A failed flush leaves the routine redirected, and the saved original null. -/
theorem failed_flush_redirects_without_original : ¬ ∀ o s, o.repair.Succeeds →
    ∀ imageBase targetRva prologue replacement slot label,
      FailureLeavesIntact
        (installVerifiedInlineHook imageBase targetRva prologue replacement slot label o s) s
        slot (imageBase + .ofNat targetRva) (absoluteJump replacement) := by
  intro h
  -- the target reads as the jump, and nothing is published
  have hsafe := h failedFlush unhookedProcess ⟨rfl, rfl, rfl⟩ 0x140000000 0x1000
    (Vector.replicate 14 0x90) 0x180001000 .graphicsConfigApply "graphics-config apply"
  have hunpatched := unhookedProcess_verified.unpatched
  exact hsafe.notRedirected hunpatched ⟨by decide, by decide⟩

/-- The page of the routine cannot be made writable. -/
def failedProtect : InstallOutcome := { failedFlush with patch := ⟨false, true, true⟩ }

/-- An installation that fails before its copy reports the failure, and leaves everything as it
was. -/
theorem failed_installation_intact_iff_protected :
    (installVerifiedInlineHook 0x140000000 0x1000 (Vector.replicate 14 0x90) 0x180001000
        .graphicsConfigApply "graphics-config apply" failedProtect unhookedProcess).1.toOption =
      none ∧
    FailureLeavesIntact
      (installVerifiedInlineHook 0x140000000 0x1000 (Vector.replicate 14 0x90) 0x180001000
        .graphicsConfigApply "graphics-config apply" failedProtect unhookedProcess)
      unhookedProcess .graphicsConfigApply (0x140000000 + .ofNat 0x1000)
      (absoluteJump 0x180001000) := by
  have hiff := (failed_installation_intact_iff failedProtect unhookedProcess
    ⟨rfl, rfl, rfl⟩).2.1 0x140000000 0x1000 (Vector.replicate 14 0x90)
      0x180001000 .graphicsConfigApply "graphics-config apply"
  refine ⟨by decide, hiff.mpr fun hbad => ?_⟩
  -- nothing was copied, so nothing fails after the copy
  obtain ⟨hcopied, -⟩ := hbad.2.2.2
  exact Bool.false_ne_true hcopied

end GameHdr
end WindowedHdr
