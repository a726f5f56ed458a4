import WindowedHdr.GameCompat.Targets
import WindowedHdr.GameHdr.Trampoline
import WindowedHdr.Windows.WriteMemory

/-!
# The hook installers

Three installers redirect a routine of the game: one replaces an entry of the menu-gate
vtable, two replace the first fourteen bytes of a routine. Each first compares the game's
memory with what the resolver found there, and builds a `Patch`; the inline installers also
build a trampoline. From then on the three do the same (`Patch.apply`): publish the saved
original, write the patch, read it back, and undo both when the write or the verification
fails.

A `Patch` carries what makes that sequence meaningful: a non-null original, and a
restoration as long as the patch.

What the operating system answers, and what other threads write into the game's memory
before a patch is read back, is an `InstallOutcome`. `VirtualAlloc` hands out memory of its
own, so the trampolines are kept beside the memory that existed before.

The checks of an installer end in an error or in a `Prepared`: the hook is in place already, or
a patch is ready. So an installer is its checks followed by `finishInstall`, and the modules
after this one reason about the two parts separately.
-/

namespace WindowedHdr
namespace GameHdr

open GameCompat Windows

/-! ### The process -/

/-- The static pointers that hold saved originals. -/
inductive SavedOriginal
  | hdrMenuGate
  | hdrCommonAvailability
  | graphicsConfigApply
  | hdrBackendActualQuery
  deriving DecidableEq

/-- What the installers read and write. -/
structure GameProcess where
  /-- The memory of the main module. -/
  memory : ByteMemory
  /-- The saved originals; null before an installation. -/
  savedOriginal : SavedOriginal → UInt64
  /-- The trampolines allocated so far, with their addresses. -/
  allocations : List (UInt64 × List UInt8)
  /-- `HDR_MENU_GATE_UNLOCK`. -/
  menuGateUnlock : Bool

/-- Store into one of the saved originals. -/
def GameProcess.storeOriginal (s : GameProcess) (slot : SavedOriginal) (original : UInt64) :
    GameProcess :=
  { s with savedOriginal := Function.update s.savedOriginal slot original }

/-- The addresses of the two hooks that are not passed to their installer. -/
structure HookAddresses where
  hdrMenuGateHook : UInt64
  hdrCommonAvailabilityHook : UInt64

/-- The answers of the outside world to one installation. -/
structure InstallOutcome where
  /-- `GetModuleHandleW(NULL)`; null when it fails. -/
  mainModule : UInt64
  /-- `address_is_executable`. -/
  addressIsExecutable : UInt64 → Bool
  /-- `VirtualAlloc` for the trampoline; null when it fails. -/
  allocation : UInt64
  /-- `protect_execute_read` on the trampoline. -/
  trampoline : ProtectExecuteOutcome
  /-- `write_memory` with the patch. -/
  patch : WriteOutcome
  /-- What others write before the patch is read back. -/
  interference : ByteMemory → ByteMemory
  /-- `write_memory` with the restoration. -/
  repair : WriteOutcome

/-! ### Publishing, patching and undoing -/

/-- The messages of one installer. -/
structure PatchTexts where
  alreadyInitialized : String
  cannotPatch : String
  restored : String
  notRestored : String

/-- A patch that is ready to be written. -/
structure Patch where
  slot : SavedOriginal
  /-- What the hook will call. -/
  original : NonNull
  target : UInt64
  bytes : List UInt8
  /-- What a failed verification writes back. -/
  restore : List UInt8
  texts : PatchTexts
  bytes_ne : bytes ≠ []
  short : bytes.length ≤ 2 ^ 64
  sameLength : restore.length = bytes.length

namespace Patch

/-- Read the patch back. When it is not there, write the original bytes back and withdraw the
saved original. -/
def verify (p : Patch) (o : InstallOutcome) (s : GameProcess) :
    Except String UInt64 × GameProcess :=
  -- another module may have written over the patch since
  if s.memory.read p.target p.bytes.length != p.bytes then
    match writeMemory o.repair s.memory p.target p.restore with
    | (.ok (), memory) =>
      (.error p.texts.restored, { s with memory := memory }.storeOriginal p.slot 0)
    | (.error error, memory) =>
      (.error (p.texts.notRestored ++ error), { s with memory := memory }.storeOriginal p.slot 0)
  else
    (.ok p.original.1, s)

/-- Publish the original, write the patch and verify it. When the write fails, withdraw the
saved original. -/
def apply (p : Patch) (o : InstallOutcome) (s : GameProcess) :
    Except String UInt64 × GameProcess :=
  if s.savedOriginal p.slot != 0 then
    (.error p.texts.alreadyInitialized, s)
  else
    -- the original comes first: the hook may run as soon as the patch is written
    let s := s.storeOriginal p.slot p.original
    match writeMemory o.patch s.memory p.target p.bytes with
    | (.error error, memory) =>
      -- the memory is left as the failed write left it
      (.error (p.texts.cannotPatch ++ error), { s with memory := memory }.storeOriginal p.slot 0)
    | (.ok (), memory) => p.verify o { s with memory := o.interference memory }

end Patch

/-- What the checks in front of a patch can find. -/
inductive Prepared
  /-- The hook is in place, with a saved original. -/
  | installed (original : UInt64)
  | ready (patch : Patch)

/-- Run an installer from the result of its checks. -/
def finishInstall (o : InstallOutcome) :
    Except String Prepared × GameProcess → Except String UInt64 × GameProcess
  | (.error error, s) => (.error error, s)
  | (.ok (.installed original), s) => (.ok original, s)
  | (.ok (.ready patch), s) => patch.apply o s

/-! ### The menu gate -/

/-- The messages of `install_menu_gate`. -/
def menuGateTexts : PatchTexts where
  alreadyInitialized := "HDR menu-gate original was already initialized"
  cannotPatch := "cannot patch HDR menu-gate vtable slot: "
  restored := "HDR menu-gate patch verification failed; original vtable entry restored"
  notRestored := "HDR menu-gate patch verification failed and the original vtable entry " ++
    "could not be restored: "

/-- The patch of the menu gate: the hook in the vtable slot, over the entry found there. -/
def menuGatePatch (current : NonNull) (slot replacement : UInt64) : Patch where
  slot := .hdrMenuGate
  original := current
  target := slot
  bytes := toLittleEndian 8 replacement.toNat
  restore := toLittleEndian 8 current.1.toNat
  texts := menuGateTexts
  bytes_ne := by simp [toLittleEndian]
  short := by simp
  sameLength := by simp

/-- The menu-gate vtable in the running game. -/
def menuGateVtable (targets : GameTargets) (o : InstallOutcome) : UInt64 :=
  o.mainModule + .ofNat targets.menuGateVtableRva

/-- The slot of the invoke entry. -/
def menuGateSlot (targets : GameTargets) (o : InstallOutcome) : UInt64 :=
  menuGateVtable targets o + .ofNat (8 * hdrMenuGateInvokeIndex)

/-- The first neighbour of the invoke entry that is not what the resolver found there: its
index, the expected address relative to the image, and the pointer found. -/
def mismatchedNeighbor (targets : GameTargets) (o : InstallOutcome) (memory : ByteMemory) :
    Option (Nat × Nat × UInt64) :=
  let neighbors := targets.menuGateEntries.toList.zipIdx.map fun (expectedRva, index) =>
    (index, expectedRva, memory.readPointer (menuGateVtable targets o + .ofNat (8 * index)))
  neighbors.find? fun (index, expectedRva, actual) =>
    -- the invoke entry itself is checked later, since it may hold a hook already
    index != hdrMenuGateInvokeIndex && actual != o.mainModule + .ofNat expectedRva

/-- The last checks of `install_menu_gate`, on the entry that is to be replaced. -/
def prepareMenuGateSlot (hooks : HookAddresses) (targets : GameTargets)
    (requireVerifiedOriginal : Bool) (o : InstallOutcome) (s : GameProcess) :
    Except String Prepared :=
  let slot := menuGateSlot targets o
  let current := s.memory.readPointer slot
  -- an earlier installation is not repeated
  if current == hooks.hdrMenuGateHook then
    if s.savedOriginal .hdrMenuGate == 0 then
      .error "HDR menu-gate hook is present without a saved original"
    else
      .ok (.installed (s.savedOriginal .hdrMenuGate))
  else if h : current = 0 ∨ o.addressIsExecutable current = false then
    .error s!"HDR menu-gate vtable entry is not executable: {pointerText current}"
  -- another module's hook is tolerated only where the answer is not changed
  else if current != o.mainModule + .ofNat targets.menuGateInvokeRva &&
      requireVerifiedOriginal then
    .error (s!"HDR menu-gate vtable entry already points outside the verified game function " ++
      s!"({pointerText current}); refusing to place a behavior-changing HDR mode on top of an " ++
      s!"unknown hook")
  else
    .ok (.ready (menuGatePatch ⟨current, fun hnull => h (.inl hnull)⟩ slot hooks.hdrMenuGateHook))

/-- The checks of `install_menu_gate`. -/
def prepareMenuGate (hooks : HookAddresses) (targets : GameTargets)
    (requireVerifiedOriginal : Bool) (o : InstallOutcome) (s : GameProcess) :
    Except String Prepared :=
  if o.mainModule == 0 then
    .error "GetModuleHandleW(NULL) failed"
  else
    -- the slot before the table still holds the locator that was resolved
    let expectedLocator := o.mainModule + .ofNat targets.menuGateCompleteObjectLocatorRva
    let actualLocator := s.memory.readPointer (menuGateVtable targets o - 8)
    if actualLocator != expectedLocator then
      .error (s!"HDR menu-gate RTTI mismatch at vtable RVA " ++
        s!"0x{hexUpper 8 targets.menuGateVtableRva}: expected {pointerText expectedLocator}, " ++
        s!"found {pointerText actualLocator}")
    else
      match mismatchedNeighbor targets o s.memory with
      | some (index, expectedRva, actual) =>
        .error (s!"HDR menu-gate vtable neighbor {index} mismatch: expected RVA " ++
          s!"0x{hexUpper 8 expectedRva} ({pointerText (o.mainModule + .ofNat expectedRva)}), " ++
          s!"found {pointerText actual}")
      | none =>
        -- the body is read again, since time has passed since the resolution
        let expectedBody := s.memory.read (o.mainModule + .ofNat targets.menuGateInvokeRva) 19
        if expectedBody != targets.menuGateInvokeBytes.toList && requireVerifiedOriginal then
          .error (s!"HDR menu-gate invoke body at RVA " ++
            s!"0x{hexUpper 8 targets.menuGateInvokeRva} changed after compatibility resolution; " ++
            s!"refusing the behavior-changing override")
        else
          prepareMenuGateSlot hooks targets requireVerifiedOriginal o s

/-- `install_menu_gate`. -/
def installMenuGate (hooks : HookAddresses) (targets : GameTargets)
    (unlock requireVerifiedOriginal : Bool) (o : InstallOutcome) (s : GameProcess) :
    Except String Unit × GameProcess :=
  let s := { s with menuGateUnlock := unlock }
  let r := finishInstall o (prepareMenuGate hooks targets requireVerifiedOriginal o s, s)
  (r.1.map fun _ => (), r.2)

/-! ### The inline hooks -/

/-- Allocate a trampoline, fill it and make it executable. The allocation is not freed when
the protection fails. -/
def prepareTrampoline (o : InstallOutcome) (bytes : List UInt8) (s : GameProcess) :
    Except String NonNull × GameProcess :=
  match allocateReadWrite o.allocation bytes.length with
  | .error error => (.error error, s)
  | .ok trampoline =>
    let s := { s with allocations := (trampoline.1, bytes) :: s.allocations }
    -- the memory was filled while it was still writable
    match protectExecuteRead o.trampoline trampoline bytes.length with
    | .error error => (.error error, s)
    | .ok () => (.ok trampoline, s)

/-- The patch of an inline hook: the absolute jump over the verified prologue. -/
def inlinePatch (slot : SavedOriginal) (trampoline : NonNull) (target replacement : UInt64)
    (prologue : Vector UInt8 14) (texts : PatchTexts) : Patch where
  slot := slot
  original := trampoline
  target := target
  bytes := absoluteJump replacement
  restore := prologue.toList
  texts := texts
  bytes_ne := by simp [absoluteJump]
  short := by simp [absoluteJumpLength]
  sameLength := by simp [absoluteJumpLength]

/-- The messages of `install_verified_inline_hook`. -/
def inlineTexts (label : String) : PatchTexts where
  alreadyInitialized := s!"{label} trampoline was already initialized"
  cannotPatch := s!"cannot patch {label} routine: "
  restored := s!"{label} patch verification failed; original prologue restored"
  notRestored :=
    s!"{label} patch verification failed and the original prologue could not be restored: "

/-- The checks of `install_verified_inline_hook`, and its trampoline. -/
def prepareInlineHook (target : UInt64) (targetRva : Nat) (expectedPrologue : Vector UInt8 14)
    (replacement : UInt64) (slot : SavedOriginal) (label : String) (o : InstallOutcome)
    (s : GameProcess) : Except String Prepared × GameProcess :=
  let actualPrologue := s.memory.read target 14
  -- an earlier installation is not repeated
  if actualPrologue == absoluteJump replacement then
    if s.savedOriginal slot == 0 then
      (.error s!"{label} hook is present without a saved trampoline", s)
    else
      (.ok (.installed (s.savedOriginal slot)), s)
  else if actualPrologue != expectedPrologue.toList then
    (.error (s!"{label} prologue mismatch at RVA 0x{hexUpper 8 targetRva}; refusing to " ++
      s!"overwrite another patch or unsupported build"), s)
  else
    let returnAddress := target + 14
    -- the trampoline runs the overwritten prologue and goes on behind it
    match prepareTrampoline o (buildInlineTrampoline expectedPrologue returnAddress) s with
    | (.error error, s) => (.error error, s)
    | (.ok trampoline, s) =>
      (.ok (.ready
        (inlinePatch slot trampoline target replacement expectedPrologue (inlineTexts label))), s)

/-- `install_verified_inline_hook`. -/
def installVerifiedInlineHook (imageBase : UInt64) (targetRva : Nat)
    (expectedPrologue : Vector UInt8 14) (replacement : UInt64) (slot : SavedOriginal)
    (label : String) (o : InstallOutcome) (s : GameProcess) :
    Except String UInt64 × GameProcess :=
  let target := imageBase + .ofNat targetRva
  finishInstall o (prepareInlineHook target targetRva expectedPrologue replacement slot label o s)

/-- The messages of `install_verified_availability_hook`. -/
def availabilityTexts : PatchTexts where
  alreadyInitialized := "HDR common-availability trampoline was already initialized"
  cannotPatch := "cannot patch HDR common-availability routine: "
  restored := "HDR common-availability patch verification failed; original prologue restored"
  notRestored := "HDR common-availability patch verification failed and the original prologue " ++
    "could not be restored: "

/-- `usize::checked_add_signed`. -/
def checkedAddSigned (address : UInt64) (displacement : Int) : Option UInt64 :=
  let sum := (address.toNat : Int) + displacement
  if 0 ≤ sum ∧ sum < 2 ^ 64 then some (.ofNat sum.toNat) else none

/-- The security cookie that the prologue at `target` loads. -/
def resolvedCookie (targets : GameTargets) (target : UInt64) : Option UInt64 :=
  let displacement :=
    signedOfLittleEndian ((targets.commonAvailabilityPrologue.toList.drop 7).take 4)
  -- the operand ends eleven bytes into the prologue, and is relative to that
  checkedAddSigned (target + 11) displacement

/-- The checks of `install_verified_availability_hook`, and its trampoline. -/
def prepareAvailabilityHook (hooks : HookAddresses) (imageBase target : UInt64)
    (targets : GameTargets) (o : InstallOutcome) (s : GameProcess) :
    Except String Prepared × GameProcess :=
  let actualPrologue := s.memory.read target 14
  if actualPrologue == absoluteJump hooks.hdrCommonAvailabilityHook then
    if s.savedOriginal .hdrCommonAvailability == 0 then
      (.error "HDR common-availability hook is present without a saved trampoline", s)
    else
      (.ok (.installed (s.savedOriginal .hdrCommonAvailability)), s)
  else if actualPrologue != targets.commonAvailabilityPrologue.toList then
    (.error (s!"HDR common-availability prologue mismatch at RVA " ++
      s!"0x{hexUpper 8 targets.commonAvailabilityRva}; refusing to overwrite a post-resolution " ++
      s!"patch"), s)
  else
    match resolvedCookie targets target with
    | none =>
      (.error "HDR common-availability security-cookie relocation overflowed after resolution",
        s)
    | some resolvedCookie =>
      -- the displacement in the prologue leads to the cookie that was resolved
      let expectedCookie := imageBase + .ofNat targets.securityCookieRva
      if resolvedCookie != expectedCookie then
        (.error (s!"HDR common-availability security-cookie relocation mismatch: expected " ++
          s!"0x{hexUpper 16 expectedCookie.toNat}, resolved 0x{hexUpper 16 resolvedCookie.toNat}"),
          s)
      else
        let returnAddress := target + 14
        -- a relative load cannot be copied elsewhere, so the cookie is loaded by its address
        match prepareTrampoline o (buildAvailabilityTrampoline expectedCookie returnAddress) s
          with
        | (.error error, s) => (.error error, s)
        | (.ok trampoline, s) =>
          (.ok (.ready (inlinePatch .hdrCommonAvailability trampoline target
            hooks.hdrCommonAvailabilityHook targets.commonAvailabilityPrologue
            availabilityTexts)), s)

/-- `install_verified_availability_hook`. -/
def installVerifiedAvailabilityHook (hooks : HookAddresses) (imageBase : UInt64)
    (targets : GameTargets) (o : InstallOutcome) (s : GameProcess) :
    Except String UInt64 × GameProcess :=
  let target := imageBase + .ofNat targets.commonAvailabilityRva
  finishInstall o (prepareAvailabilityHook hooks imageBase target targets o s)

end GameHdr
end WindowedHdr
