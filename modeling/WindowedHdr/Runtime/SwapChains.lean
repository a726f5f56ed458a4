import WindowedHdr.Runtime.Calls

/-!
# What the hooks do with a swap chain

The functions of `dxgi` that look at a swap chain or change what is kept for it. Each COM
interface that one of them obtains is a reference it has to give up again; a function that
returns an interface hands the reference to its caller.

The control flow is the source's, early returns included: a query that fails is an error of the
function, and what was obtained before it is released on the way. The locked sections and the
operations on records are calls, so these definitions say nothing of their effects.
-/

namespace WindowedHdr
namespace Runtime

open Dxgi Shadow
open GameHdr (windowedHdrCandidateIsEligible dxgiSwapChainColorSpaceSupportFlagPresent
  OutputDesc1)

/-- `HRESULT 0x{result:08X}`. -/
def hresultText (result : HResult) : String := "HRESULT 0x" ++ hexUpper 8 result.toUInt32.toNat

/-- `release_com_object`. -/
def releaseComObject (object : UInt64) : Routine Unit := do
  match ← ask (.vtableFunction object unknownReleaseIndex) with
  | .ok function =>
    -- how many references are left is not looked at
    let _ ← ask (.native function (.release object))
    return ()
  | .error _ => return ()

/-! ### Queries -/

/-- `swap_chain_description`. -/
def swapChainDescription (swapChain : UInt64) :
    Routine (Except String SwapChainDescription) :=
  (ask (.vtableFunction swapChain swapChainGetDescIndex)).tryThen fun function => do
    let r ← ask (.native function (.getDesc swapChain))
    if r.1 < 0 then
      return .error ("IDXGISwapChain::GetDesc returned " ++ hresultText r.1)
    else
      return .ok r.2

/-- `query_fullscreen_state`. -/
def queryFullscreenState (swapChain : UInt64) : Routine (Except String Bool) :=
  (ask (.vtableFunction swapChain swapChainGetFullscreenStateIndex)).tryThen fun function => do
    let r ← ask (.native function (.getFullscreenState swapChain))
    if r.1 < 0 then
      return .error ("IDXGISwapChain::GetFullscreenState returned " ++ hresultText r.1)
    else
      return .ok (r.2 != 0)

/-- `swap_chain_description1`, without the description, which is only logged. -/
def swapChainDescription1 (swapChain : UInt64) : Routine (Except String Bool) := do
  match ← ask (.findShadowRecord swapChain .swapChain) with
  | none => return .ok false
  | some record =>
    let entryCount ← ask (.recordEntryCount record)
    -- the entries of a record may grow, and never shrink
    if entryCount ≤ swapChainGetDesc1Index then
      return .ok false
    else
      match ← ask (.loadObjectFunction swapChain .swapChain swapChainGetDesc1Index) with
      | none => return .error "IDXGISwapChain1::GetDesc1 original function is unavailable"
      | some function =>
        let result ← ask (.native function (.getDesc1 swapChain))
        if result < 0 then
          return .error ("IDXGISwapChain1::GetDesc1 returned " ++ hresultText result)
        else
          return .ok true

/-- `containing_output`. -/
def containingOutput (swapChain : UInt64) : Routine (Except String UInt64) :=
  (ask (.vtableFunction swapChain swapChainGetContainingOutputIndex)).tryThen fun function => do
    let r ← ask (.native function (.getContainingOutput swapChain))
    if r.1 < 0 ∨ r.2 = 0 then
      return .error ("IDXGISwapChain::GetContainingOutput returned " ++ hresultText r.1)
    else
      return .ok r.2

/-- `query_output_desc1`. -/
def queryOutputDesc1 (swapChain : UInt64) : Routine (Except String OutputDesc1) :=
  (containingOutput swapChain).tryThen fun output => do
    match ← ask (.vtableFunction output 0) with
    | .error error =>
      releaseComObject output
      return .error error
    | .ok query =>
      let r ← ask (.native query (.queryInterface output iidIdxgiOutput6))
      if r.1 < 0 ∨ r.2 = 0 then
        releaseComObject output
        return .error ("IDXGIOutput::QueryInterface(IDXGIOutput6) returned " ++ hresultText r.1)
      else
        let output6 := r.2
        match ← ask (.vtableFunction output6 outputGetDesc1Index) with
        | .error error =>
          releaseComObject output6
          releaseComObject output
          return .error error
        | .ok getDescription =>
          let r ← ask (.native getDescription (.getOutputDesc1 output6))
          -- both references are given up before the result is looked at
          releaseComObject output6
          releaseComObject output
          if r.1 < 0 then
            return .error ("IDXGIOutput6::GetDesc1 returned " ++ hresultText r.1)
          else
            return .ok r.2

/-- The support of `swapChain3` for PQ. -/
def checkPqSupport (swapChain3 : UInt64) : Routine (Except String UInt32) :=
  (ask (.vtableFunction swapChain3 swapChainCheckColorSpaceSupportIndex)).tryThen fun check => do
    let r ← ask (.native check
      (.checkColorSpaceSupport swapChain3 dxgiColorSpaceRgbFullG2084NoneP2020))
    if r.1 < 0 then
      return .error
        ("IDXGISwapChain3::CheckColorSpaceSupport(PQ) returned " ++ hresultText r.1)
    else
      return .ok r.2

/-- `query_pq_present_support`. -/
def queryPqPresentSupport (swapChain : UInt64) : Routine (Except String UInt32) :=
  (ask (.vtableFunction swapChain swapChainQueryInterfaceIndex)).tryThen fun query => do
    let r ← ask (.native query (.queryInterface swapChain iidIdxgiSwapChain3))
    if r.1 < 0 ∨ r.2 = 0 then
      return .error
        ("IDXGISwapChain::QueryInterface(IDXGISwapChain3) returned " ++ hresultText r.1)
    else
      let swapChain3 := r.2
      let result ← checkPqSupport swapChain3
      releaseComObject swapChain3
      return result

/-- `inspect_windowed_hdr_candidate`, without the details for the log. -/
def inspectWindowedHdrCandidate (swapChain : UInt64) : Routine (Except String Bool) := do
  if swapChain = 0 then
    return .error "the game backend contains a null swap-chain pointer"
  else
    -- only a captured object is asked anything
    match ← ask (.findShadowRecord swapChain .swapChain) with
    | none =>
      return .error
        s!"swap chain {pointerText swapChain} was not captured by the DXGI observer"
    | some _ =>
      (swapChainDescription swapChain).tryThen fun description =>
        (queryFullscreenState swapChain).tryThen fun fullscreen =>
          (queryOutputDesc1 swapChain).tryThen fun output =>
            (queryPqPresentSupport swapChain).tryThen fun pqSupport =>
              return .ok (windowedHdrCandidateIsEligible description.toSwapChainDesc fullscreen
                output pqSupport)

/-- `log_swap_chain_state`, without its lines. -/
def logSwapChainState (swapChain : UInt64) (force : Bool) : Routine Unit := do
  match ← swapChainDescription swapChain with
  | .error _ => return ()
  | .ok description =>
    let _ ← queryFullscreenState swapChain
    -- the signature is what tells one configuration from another
    let changed ← ask (.swapChainState swapChain (.recordSignature
      { width := description.width
        height := description.height
        format := description.format
        bufferCount := description.bufferCount
        windowed := description.windowed != 0
        swapEffect := description.swapEffect
        flags := description.flags }))
    if !force && !changed then
      return ()
    else
      let _ ← swapChainDescription1 swapChain
      let _ ← queryOutputDesc1 swapChain
      return ()

/-! ### Capturing -/

/-- `patch_factory`. -/
def patchFactory (factory : UInt64) (entryCount : Nat) : Routine (Except String Unit) := do
  let r ← ask (.installShadowVtable factory .factory entryCount)
  return r.2

/-- `patch_swap_chain`. -/
def patchSwapChain (swapChain : UInt64) (entryCount : Nat) : Routine (Except String Unit) := do
  let r ← ask (.installShadowVtable swapChain .swapChain entryCount)
  return r.2

/-- Patch a queried interface if it is a known one. -/
def patchQueriedInterface (queried : UInt64) (interface : Guid) :
    Routine (Except String Unit) :=
  match swapChainVtableLen interface with
  | none => return .ok ()
  | some entryCount => patchSwapChain queried entryCount

/-- `query_swap_chain_interface`. -/
def querySwapChainInterface (swapChain : UInt64) (interface : Guid) :
    Routine (Except String UInt64) := do
  match ← ask (.loadObjectFunction swapChain .swapChain swapChainQueryInterfaceIndex) with
  | none => return .error "swap-chain QueryInterface original function is unavailable"
  | some function =>
    let r ← ask (.native function (.queryInterface swapChain interface))
    if r.1 < 0 ∨ r.2 = 0 then
      return .error ("QueryInterface returned " ++ hresultText r.1)
    else
      let queried := r.2
      -- the queried interface may have a vtable of its own
      match ← patchQueriedInterface queried interface with
      | .error error =>
        releaseComObject queried
        return .error s!"cannot hook queried swap-chain interface: {error}"
      | .ok () =>
        ask (.swapChainState queried .ensure)
        return .ok queried

/-- Query for the first of the interfaces that the swap chain has. -/
def queryFirstInterface (swapChain : UInt64) : List Guid → Routine Unit
  | [] => return ()
  | interface :: interfaces => do
    match ← querySwapChainInterface swapChain interface with
    | .ok queried => releaseComObject queried
    -- older versions of Windows have no `IDXGISwapChain4`
    | .error _ => queryFirstInterface swapChain interfaces

/-- `ensure_modern_swap_chain_hooks`. -/
def ensureModernSwapChainHooks (swapChain : UInt64) : Routine Unit :=
  queryFirstInterface swapChain [iidIdxgiSwapChain4, iidIdxgiSwapChain3]

/-- `note_active_swap_chain`, and `note_game_backend_swap_chain`. -/
def noteActiveSwapChain (swapChain : UInt64) : Routine Unit := do
  if swapChain = 0 then
    return ()
  else
    let previous ← ask (.swapActiveSwapChain swapChain)
    -- the revision advances only when the swap chain becomes another one
    if previous ≠ swapChain then
      ask .advanceActiveSwapChainRevision
    else
      return ()

/-- `note_active_swap_chain_reconfigured`. -/
def noteActiveSwapChainReconfigured (swapChain : UInt64) : Routine Unit := do
  let active ← ask .loadActiveSwapChain
  if active = swapChain then
    ask .advanceActiveSwapChainRevision
  else
    return ()

/-- `capture_swap_chain`. -/
def captureSwapChain (result : HResult) (output : UInt64) (entryCount : Nat) :
    Routine Unit := do
  if result < 0 ∨ output = 0 then
    return ()
  else
    let swapChain ← ask (.readPointer output)
    if swapChain = 0 then
      return ()
    else
      -- without hooks nothing is known of the swap chain, so it is not kept
      match ← patchSwapChain swapChain entryCount with
      | .error _ => return ()
      | .ok () =>
        ask (.swapChainState swapChain .ensure)
        ensureModernSwapChainHooks swapChain
        noteActiveSwapChain swapChain
        logSwapChainState swapChain true

/-- What is forgotten with a swap chain. -/
def forgetSwapChain (object : UInt64) : Routine Unit := do
  -- another swap chain may be active by now
  let cleared ← ask (.clearActiveSwapChain object)
  if cleared then
    ask .advanceActiveSwapChainRevision
  ask (.removeSwapChainState object)

/-- What `release_shadow_object` does when `remaining` references are left. -/
def retireShadowObject (kind : ShadowKind) (object : UInt64) (record : Nat)
    (remaining : UInt32) : Routine Unit := do
  if remaining = 0 then
    -- the address may be used again from now on
    ask (.retireRecord record)
    match kind with
    | .factory => return ()
    | .swapChain => forgetSwapChain object
  else
    return ()

/-- `release_shadow_object`. -/
def releaseShadowObject (kind : ShadowKind) (object : UInt64) : Routine UInt32 := do
  match ← ask (.findShadowRecord object kind) with
  | none => return 0
  | some record =>
    -- the saved function, not what the dispatch would prefer
    match ← ask (.loadSavedRecordFunction record unknownReleaseIndex) with
    | none => return 0
    | some function =>
      let remaining ← ask (.forward function (.release kind object))
      retireShadowObject kind object record remaining
      return remaining

/-! ### The managed color space -/

/-- `swap_chain_revision`. -/
def swapChainRevision (swapChain : UInt64) : Routine UInt64 := do
  let active ← ask .loadActiveSwapChain
  if active = swapChain then
    ask .loadActiveSwapChainRevision
  else
    return 0

/-- `advance_swap_chain_generation`. -/
def advanceSwapChainGeneration (swapChain : UInt64) : Routine Unit := do
  ask (.swapChainState swapChain .advanceGeneration)
  noteActiveSwapChainReconfigured swapChain

/-- `request_managed_hdr_color_space`. -/
def requestManagedHdrColorSpace (swapChain : UInt64) (hdr : Bool) :
    Routine (Except String Bool) := do
  if swapChain = 0 then
    return .error "cannot manage the color space of a null swap chain"
  else
    -- nothing is ever set on an object without our hooks
    match ← ask (.findShadowRecord swapChain .swapChain) with
    | none =>
      return .error
        s!"swap chain {pointerText swapChain} was not captured by the DXGI observer"
    | some _ =>
      let accepted ← ask (.swapChainState swapChain (.request hdr))
      return .ok accepted

/-- Call the function that `SetColorSpace1` stands for. -/
def callSetColorSpace1 (swapChain3 : UInt64) (colorSpace : UInt32) :
    Routine (Except String HResult) := do
  match ← ask (.loadObjectFunction swapChain3 .swapChain swapChainSetColorSpace1Index) with
  | none => return .error "captured IDXGISwapChain3 has no saved SetColorSpace1 chain"
  | some function =>
    let result ← ask (.native function (.setColorSpace1 swapChain3 colorSpace))
    return .ok result

/-- `set_color_space_without_observer`. -/
def setColorSpaceWithoutObserver (swapChain : UInt64) (colorSpace : UInt32) :
    Routine (Except String HResult) :=
  (querySwapChainInterface swapChain iidIdxgiSwapChain3).tryThen fun swapChain3 => do
    -- the saved function, so that our own hook does not take it for another component's
    let result ← callSetColorSpace1 swapChain3 colorSpace
    releaseComObject swapChain3
    return result

/-- The native set of a transition. One that enables HDR is made only for a swap chain that is
eligible at this moment; why it is not is left out of the message. -/
def submitTransition (swapChain : UInt64) (transition : ManagedColorSpaceTransition) :
    Routine (Except String HResult) := do
  if transition.enablingHdr then
    -- much may have happened since HDR was asked for
    match ← inspectWindowedHdrCandidate swapChain with
    | .ok true => setColorSpaceWithoutObserver swapChain transition.targetColorSpace
    | .ok false =>
      return .error "Present-time HDR candidate validation rejected the transition"
    | .error error =>
      return .error s!"Present-time HDR candidate validation failed: {error}"
  else
    setColorSpaceWithoutObserver swapChain transition.targetColorSpace

/-- Whether a native set was made and succeeded. -/
def setSucceeded : Except String HResult → Bool
  | .ok result => decide (0 ≤ result)
  | .error _ => false

/-- `apply_managed_color_space_before_present`. -/
def applyManagedColorSpaceBeforePresent (swapChain : UInt64) : Routine Unit := do
  match ← ask (.swapChainState swapChain .beginTransition) with
  | none => return ()
  | some transition =>
    -- the lock is free while the native set is made
    let callResult ← submitTransition swapChain transition
    ask (.swapChainState swapChain (.finishTransition transition (setSucceeded callResult)))

/-- `note_first_present`. -/
def noteFirstPresent (swapChain : UInt64) : Routine Unit := do
  let shouldLog ← ask (.swapChainState swapChain .noteFirstPresent)
  if shouldLog then
    let _ ← queryFullscreenState swapChain
    logSwapChainState swapChain false
  else
    return ()

end Runtime
end WindowedHdr
