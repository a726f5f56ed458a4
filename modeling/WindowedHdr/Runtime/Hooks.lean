import WindowedHdr.Runtime.SwapChains

/-!
# The hooks

Every hook first looks for the function that it stands in for, and fails without one. Then it
makes the game's call again, with the same arguments, and returns what that returns; what it
does besides is done before or after. Three hooks of `game_hdr` are the exception to the last
part: with their switches on, they answer more favourably than the game does.

A hook that stands in a vtable asks the record of the object for its function (`viaObject`); one
that stands at an import or in the code of the game loads a saved original (`viaOriginal`). The
hooks are listed by where they stand, in the order of the source, and `hook` assigns each call
of the game the hook that it ends in.
-/

namespace WindowedHdr
namespace Runtime

open Dxgi Shadow
open GameHdr (HdrCandidateCache SavedOriginal)

/-- A hook that finds its function through the shadow record of the object. -/
def viaObject {α : Type} (this : UInt64) (kind : ShadowKind) (index : Nat) (failure : α)
    (hook : UInt64 → Routine α) : Routine α := do
  match ← ask (.loadObjectFunction this kind index) with
  | none => return failure
  | some function => hook function

/-- A hook whose function is kept in a global pointer. -/
def viaOriginal {α : Type} (slot : OriginalSlot) (failure : α)
    (hook : UInt64 → Routine α) : Routine α := do
  match ← ask (.loadOriginal slot) with
  | none => return failure
  | some function => hook function

/-! ### Imports -/

/-- `ags_set_display_mode_hook`. -/
def agsSetDisplayModeHook (context : UInt64) (deviceIndex displayIndex : Int32)
    (settings : UInt64) : Routine Int32 :=
  viaOriginal (.imported .agsSetDisplayMode) (-1) fun function =>
    ask (.forward function (.agsSetDisplayMode context deviceIndex displayIndex settings))

/-- What is done with an interface that a call has written to `object`, if the call succeeded
and the interface is a known one. -/
def captureInterface (vtableLen : Guid → Option Nat) (capture : UInt64 → Nat → Routine Unit)
    (result : HResult) (riid object : UInt64) : Routine Unit := do
  if 0 ≤ result ∧ riid ≠ 0 ∧ object ≠ 0 then
    -- the game's pointers are read only now, after the call has written them
    let queried ← ask (.readPointer object)
    if queried = 0 then
      return ()
    else
      let interface ← ask (.readGuid riid)
      -- an interface that this module does not know is left alone
      match vtableLen interface with
      | none => return ()
      | some entryCount => capture queried entryCount
  else
    return ()

/-- A factory that cannot be patched is used as it is. -/
def captureFactory (factory : UInt64) (entryCount : Nat) : Routine Unit := do
  let _ ← patchFactory factory entryCount
  return ()

/-- `create_factory_common`. -/
def createFactoryCommon (original : HookedImport) (create : UInt64 → Routine HResult)
    (riid factory : UInt64) : Routine HResult :=
  viaOriginal (.imported original) (-1) fun function => do
    -- the call comes first, and its result is returned whatever becomes of the factory
    let result ← create function
    captureInterface factoryVtableLen captureFactory result riid factory
    return result

/-- `create_dxgi_factory_hook`. -/
def createDxgiFactoryHook (riid factory : UInt64) : Routine HResult :=
  createFactoryCommon .createDxgiFactory
    (fun function => ask (.forward function (.createDxgiFactory riid factory))) riid factory

/-- `create_dxgi_factory1_hook`. -/
def createDxgiFactory1Hook (riid factory : UInt64) : Routine HResult :=
  createFactoryCommon .createDxgiFactory1
    (fun function => ask (.forward function (.createDxgiFactory1 riid factory))) riid factory

/-! ### Factories -/

/-- `factory_query_interface_hook`. -/
def factoryQueryInterfaceHook (this riid object : UInt64) : Routine HResult :=
  viaObject this .factory factoryQueryInterfaceIndex (-1) fun function => do
    let result ← ask (.forward function (.queryInterface .factory this riid object))
    captureInterface factoryVtableLen captureFactory result riid object
    return result

/-- `factory_release_hook`. -/
def factoryReleaseHook (this : UInt64) : Routine UInt32 := releaseShadowObject .factory this

/-- A hook that creates a swap chain. -/
def createSwapChainVia (this : UInt64) (index : Nat) (create : UInt64 → Routine HResult)
    (swapChain : UInt64) (entryCount : Nat) : Routine HResult :=
  viaObject this .factory index (-1) fun function => do
    let result ← create function
    captureSwapChain result swapChain entryCount
    return result

/-- `create_swap_chain_hook`. -/
def createSwapChainHook (this device description swapChain : UInt64) : Routine HResult :=
  createSwapChainVia this factoryCreateSwapChainIndex
    (fun function => ask (.forward function
      (.createSwapChain this device description swapChain)))
    swapChain swapChainVtableLength

/-- `create_swap_chain_for_hwnd_hook`. -/
def createSwapChainForHwndHook
    (this device window description fullscreenDescription restrictToOutput swapChain : UInt64) :
    Routine HResult :=
  createSwapChainVia this factoryCreateSwapChainForHwndIndex
    (fun function => ask (.forward function
      (.createSwapChainForHwnd this device window description fullscreenDescription
        restrictToOutput swapChain)))
    swapChain swapChain1VtableLength

/-- `create_swap_chain_for_core_window_hook`. -/
def createSwapChainForCoreWindowHook
    (this device window description restrictToOutput swapChain : UInt64) : Routine HResult :=
  createSwapChainVia this factoryCreateSwapChainForCoreWindowIndex
    (fun function => ask (.forward function
      (.createSwapChainForCoreWindow this device window description restrictToOutput swapChain)))
    swapChain swapChain1VtableLength

/-- `create_swap_chain_for_composition_hook`. -/
def createSwapChainForCompositionHook
    (this device description restrictToOutput swapChain : UInt64) : Routine HResult :=
  createSwapChainVia this factoryCreateSwapChainForCompositionIndex
    (fun function => ask (.forward function
      (.createSwapChainForComposition this device description restrictToOutput swapChain)))
    swapChain swapChain1VtableLength

/-! ### Swap chains -/

/-- A swap-chain interface that was queried and patched gets a state. -/
def captureQueriedSwapChain (queried : UInt64) (entryCount : Nat) : Routine Unit := do
  -- an interface that cannot be patched gets no state
  match ← patchSwapChain queried entryCount with
  | .ok () => ask (.swapChainState queried .ensure)
  | .error _ => return ()

/-- `swap_chain_query_interface_hook`. -/
def swapChainQueryInterfaceHook (this riid object : UInt64) : Routine HResult :=
  viaObject this .swapChain swapChainQueryInterfaceIndex (-1) fun function => do
    let result ← ask (.forward function (.queryInterface .swapChain this riid object))
    captureInterface swapChainVtableLen captureQueriedSwapChain result riid object
    return result

/-- `swap_chain_release_hook`. -/
def swapChainReleaseHook (this : UInt64) : Routine UInt32 := releaseShadowObject .swapChain this

/-- What both Present hooks do before the frame is forwarded. -/
def beforePresent (this : UInt64) : Routine Unit := do
  -- the color space changes with the frame that is about to be shown
  applyManagedColorSpaceBeforePresent this
  noteFirstPresent this

/-- `present_hook`. -/
def presentHook (this : UInt64) (syncInterval flags : UInt32) : Routine HResult :=
  viaObject this .swapChain swapChainPresentIndex (-1) fun function => do
    beforePresent this
    ask (.forward function (.present this syncInterval flags))

/-- `present1_hook`. -/
def present1Hook (this : UInt64) (syncInterval flags : UInt32) (parameters : UInt64) :
    Routine HResult :=
  viaObject this .swapChain swapChainPresent1Index (-1) fun function => do
    beforePresent this
    ask (.forward function (.present1 this syncInterval flags parameters))

/-- What follows a call that reconfigured the swap chain, if it succeeded. -/
def afterReconfiguration (this : UInt64) (result : HResult) : Routine Unit := do
  if 0 ≤ result then
    -- the generation first, so that the log belongs to the new one
    advanceSwapChainGeneration this
    logSwapChainState this true
  else
    return ()

/-- `set_fullscreen_state_hook`. -/
def setFullscreenStateHook (this : UInt64) (fullscreen : Int32) (target : UInt64) :
    Routine HResult :=
  viaObject this .swapChain swapChainSetFullscreenStateIndex (-1) fun function => do
    let result ← ask (.forward function (.setFullscreenState this fullscreen target))
    afterReconfiguration this result
    return result

/-- `resize_buffers_hook`. -/
def resizeBuffersHook (this : UInt64) (bufferCount width height newFormat flags : UInt32) :
    Routine HResult :=
  viaObject this .swapChain swapChainResizeBuffersIndex (-1) fun function => do
    let result ←
      ask (.forward function (.resizeBuffers this bufferCount width height newFormat flags))
    afterReconfiguration this result
    return result

/-- What follows a successful `ResizeTarget`: the managed color space is not asked for again. -/
def afterTargetResize (this : UInt64) (result : HResult) : Routine Unit := do
  if 0 ≤ result then
    logSwapChainState this true
    noteActiveSwapChainReconfigured this
  else
    return ()

/-- `resize_target_hook`. -/
def resizeTargetHook (this requested : UInt64) : Routine HResult :=
  viaObject this .swapChain swapChainResizeTargetIndex (-1) fun function => do
    let result ← ask (.forward function (.resizeTarget this requested))
    afterTargetResize this result
    return result

/-- `resize_buffers1_hook`. -/
def resizeBuffers1Hook (this : UInt64) (bufferCount width height newFormat flags : UInt32)
    (creationNodeMask presentQueue : UInt64) : Routine HResult :=
  viaObject this .swapChain swapChainResizeBuffers1Index (-1) fun function => do
    let result ← ask (.forward function
      (.resizeBuffers1 this bufferCount width height newFormat flags creationNodeMask
        presentQueue))
    afterReconfiguration this result
    return result

/-- `check_color_space_support_hook`. -/
def checkColorSpaceSupportHook (this : UInt64) (colorSpace : UInt32) (support : UInt64) :
    Routine HResult :=
  viaObject this .swapChain swapChainCheckColorSpaceSupportIndex (-1) fun function =>
    ask (.forward function (.checkColorSpaceSupport this colorSpace support))

/-- What follows a `SetColorSpace1` of another component. -/
def observeSetColorSpace1 (this : UInt64) (requestedColorSpace : UInt32) (result : HResult) :
    Routine Unit := do
  if 0 ≤ result then
    let _ ← ask (.swapChainState this (.observeSetColorSpace1 requestedColorSpace))
    return ()
  else
    return ()

/-- `set_color_space1_hook`. -/
def setColorSpace1Hook (this : UInt64) (requestedColorSpace : UInt32) : Routine HResult :=
  viaObject this .swapChain swapChainSetColorSpace1Index (-1) fun function => do
    let result ← ask (.forward function (.setColorSpace1 this requestedColorSpace))
    -- a set that failed changed nothing, and is not observed
    observeSetColorSpace1 this requestedColorSpace result
    return result

/-- `set_hdr_metadata_hook`. -/
def setHdrMetadataHook (this : UInt64) (metadataType size : UInt32) (metadata : UInt64) :
    Routine HResult :=
  viaObject this .swapChain swapChainSetHdrMetadataIndex (-1) fun function =>
    ask (.forward function (.setHdrMetadata this metadataType size metadata))

/-! ### The game -/

def hdrDestinationOffset : UInt64 := 0x1B
def hdrBackendDisabledOffset : UInt64 := 0x30
def hdrBackendCapabilityFlagsOffset : UInt64 := 0x32
def hdrBackendHdrCapabilityFlag : UInt8 := 0x04
def liveHdrUnknown : UInt8 := 0xFF

/-- `u8::from`. -/
def byteOfBool (b : Bool) : UInt8 := if b then 1 else 0

/-- `candidate_is_eligible`. The lock of the cache is held throughout the inspection. -/
def candidateIsEligible (swapChain revision : UInt64) : Routine Bool := do
  let cache ← ask .lockCandidateCache
  -- the cache knows one swap chain at one revision
  match cache.lookup swapChain revision with
  | some eligible =>
    ask (.unlockCandidateCache cache)
    return eligible
  | none =>
    let inspection ← inspectWindowedHdrCandidate swapChain
    let eligible := GameHdr.inspectionAnswer inspection
    -- an inspection that failed is remembered as well
    ask (.unlockCandidateCache
      { object := swapChain, revision := revision, eligible := some eligible })
    return eligible

/-- `hdr_menu_gate_hook`. Without an original, the row is grayed out. -/
def hdrMenuGateHook (this : UInt64) : Routine UInt8 :=
  viaOriginal (.game .hdrMenuGate) 1 fun function => do
    let originalGrayed ← ask (.forward function (.hdrMenuGate this))
    let unlock ← ask (.loadFlag .menuGateUnlock)
    -- only logged
    let _ ← ask (.loadFlag .windowedAvailability)
    return byteOfBool (originalGrayed != 0 && !unlock)

/-- Whether the active swap chain is a candidate, where that is asked. -/
def windowedCandidate (asked : Bool) : Option GameHdr.ActiveSwapChainSnapshot → Routine Bool
  | none => return false
  | some snapshot =>
    if asked then
      -- the inspection is made only where its answer matters
      candidateIsEligible snapshot.swapChain snapshot.revision
    else
      return false

/-- `hdr_common_availability_hook`. -/
def hdrCommonAvailabilityHook : Routine UInt8 :=
  viaOriginal (.game .hdrCommonAvailability) 0 fun function => do
    let answer ← ask (.forward function .hdrCommonAvailability)
    let nativeEligible := answer != 0
    let overrideEnabled ← ask (.loadFlag .windowedAvailability)
    let active ← ask .activeSwapChainSnapshot
    let windowedCandidate ← windowedCandidate (overrideEnabled && !nativeEligible) active
    return byteOfBool (nativeEligible || overrideEnabled && windowedCandidate)

/-- What is remembered of the settings after they were copied. -/
def noteLiveHdrSetting (destination source : UInt64) : Routine Unit := do
  if destination = 0 ∨ source = 0 then
    return ()
  else
    -- what the game has just copied, not what it was copied from
    let hdr ← ask (.readByte (destination + hdrDestinationOffset))
    ask (.storeLiveHdrSetting hdr)

/-- `graphics_config_apply_hook`. The snapshots that are only logged are left out. -/
def graphicsConfigApplyHook (destination source : UInt64) : Routine Unit :=
  viaOriginal (.game .graphicsConfigApply) () fun function => do
    ask (.forward function (.graphicsConfigApply destination source))
    noteLiveHdrSetting destination source

/-- `candidate_is_eligible` for the swap chain of the backend, where that is asked. -/
def backendCandidate (asked : Bool) (swapChain : UInt64) : Routine Bool := do
  if asked then
    -- revision 0 stands for a swap chain that is not the active one
    let revision ← swapChainRevision swapChain
    candidateIsEligible swapChain revision
  else
    return false

/-- Whether an eligible candidate is overridden. Without synchronization there is nothing to
wait for; a request that fails counts as refused. -/
def colorSpaceReady (eligible synchronizeColorSpace : Bool) (swapChain : UInt64) :
    Routine Bool := do
  if eligible then
    if synchronizeColorSpace then
      match ← requestManagedHdrColorSpace swapChain true with
      | .ok accepted => return accepted
      | .error _ => return false
    else
      return true
  else
    return false

/-- Withdraw HDR, where that is due. -/
def withdrawHdr (due : Bool) (swapChain : UInt64) : Routine Unit := do
  if due then
    let _ ← requestManagedHdrColorSpace swapChain false
    return ()
  else
    return ()

/-- The override is asked for by the game's settings, and possible. -/
def overrideWanted (experiment : Bool) (disabled liveHdr capabilityFlags : UInt8)
    (nativeActual : Bool) : Bool :=
  experiment && disabled == 0 && (liveHdr == liveHdrUnknown || liveHdr == 1) &&
    capabilityFlags &&& hdrBackendHdrCapabilityFlag != 0 && !nativeActual

/-- `hdr_backend_actual_query_hook`. -/
def hdrBackendActualQueryHook (backend outputIdentity : UInt64) : Routine UInt8 :=
  viaOriginal (.game .hdrBackendActualQuery) 0 fun function => do
    if backend = 0 then
      return 0
    else
      let answer ← ask (.forward function (.hdrBackendActualQuery backend outputIdentity))
      let nativeActual := answer != 0
      -- the fields of the backend are read after the game was asked
      let disabled ← ask (.readByte (backend + hdrBackendDisabledOffset))
      let capabilityFlags ← ask (.readByte (backend + hdrBackendCapabilityFlagsOffset))
      let swapChain ← ask (.readPointer backend)
      noteActiveSwapChain swapChain
      let liveHdr ← ask .loadLiveHdrSetting
      let experiment ← ask (.loadFlag .backendExperiment)
      let synchronizeColorSpace ← ask (.loadFlag .backendColorSpaceSync)
      -- only logged
      let _ ← ask (.loadFlag .windowedAvailability)
      let eligible ← backendCandidate
        (overrideWanted experiment disabled liveHdr capabilityFlags nativeActual) swapChain
      let overridden ← colorSpaceReady eligible synchronizeColorSpace swapChain
      -- whatever was not overridden is withdrawn, also when it was never asked for
      withdrawHdr (synchronizeColorSpace && !overridden) swapChain
      return byteOfBool (nativeActual || overridden)

/-! ### Which hook a call ends in -/

/-- The hook that a call of the game ends in. -/
def hook : (c : GameCall) → Routine c.Answer
  | .createDxgiFactory riid factory => createDxgiFactoryHook riid factory
  | .createDxgiFactory1 riid factory => createDxgiFactory1Hook riid factory
  | .agsSetDisplayMode context deviceIndex displayIndex settings =>
    agsSetDisplayModeHook context deviceIndex displayIndex settings
  | .queryInterface .factory this riid object => factoryQueryInterfaceHook this riid object
  | .queryInterface .swapChain this riid object => swapChainQueryInterfaceHook this riid object
  | .release .factory this => factoryReleaseHook this
  | .release .swapChain this => swapChainReleaseHook this
  | .createSwapChain this device description swapChain =>
    createSwapChainHook this device description swapChain
  | .createSwapChainForHwnd this device window description fullscreenDescription
      restrictToOutput swapChain =>
    createSwapChainForHwndHook this device window description fullscreenDescription
      restrictToOutput swapChain
  | .createSwapChainForCoreWindow this device window description restrictToOutput swapChain =>
    createSwapChainForCoreWindowHook this device window description restrictToOutput swapChain
  | .createSwapChainForComposition this device description restrictToOutput swapChain =>
    createSwapChainForCompositionHook this device description restrictToOutput swapChain
  | .present this syncInterval flags => presentHook this syncInterval flags
  | .present1 this syncInterval flags parameters =>
    present1Hook this syncInterval flags parameters
  | .setFullscreenState this fullscreen target => setFullscreenStateHook this fullscreen target
  | .resizeBuffers this bufferCount width height newFormat flags =>
    resizeBuffersHook this bufferCount width height newFormat flags
  | .resizeTarget this requested => resizeTargetHook this requested
  | .resizeBuffers1 this bufferCount width height newFormat flags creationNodeMask
      presentQueue =>
    resizeBuffers1Hook this bufferCount width height newFormat flags creationNodeMask
      presentQueue
  | .checkColorSpaceSupport this colorSpace support =>
    checkColorSpaceSupportHook this colorSpace support
  | .setColorSpace1 this requestedColorSpace => setColorSpace1Hook this requestedColorSpace
  | .setHdrMetadata this metadataType size metadata =>
    setHdrMetadataHook this metadataType size metadata
  | .hdrMenuGate this => hdrMenuGateHook this
  | .hdrCommonAvailability => hdrCommonAvailabilityHook
  | .graphicsConfigApply destination source => graphicsConfigApplyHook destination source
  | .hdrBackendActualQuery backend outputIdentity =>
    hdrBackendActualQueryHook backend outputIdentity

end Runtime
end WindowedHdr
