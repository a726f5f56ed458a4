import WindowedHdr.Runtime.Passive

/-!
# Shapes of hooks

A hook stands in for a slot of a vtable (`GameCall.vtableSlot`) or for a function that is kept in
a global pointer (`GameCall.originalSlot`), and returns `GameCall.failure` when it finds nothing
there.

There are many hooks and few shapes of them. All but seven find their function, make the game's
call again, do something with the answer, and return it. What they do with the answer is an
`Aftermath`: almost always it is ordinary, and otherwise it is one of three functions of `dxgi`
that hold references for a while. The others are the two Present hooks, which do something before
they forward, the hook of `Release`, which looks for the record itself, and the four hooks in the
code of the game.

`hook_shape` finds the shape of every hook, call by call. What is to be shown of all hooks is then
shown of the shapes: what they have a right to do (`hook_within`), what they hold
(`hook_transfers`), and that they forward (`hook_ends`).
-/

namespace WindowedHdr
namespace Runtime

open Program (Calls)
open Dxgi Shadow

/-! ### What the hooks stand in for -/

/-- A slot of an object's vtable, with the hook that is put there. -/
structure VtableSlot where
  this : UInt64
  kind : ShadowKind
  index : Nat
  function : HookFunction

namespace GameCall

/-- The slot that the call came through, if it is a COM call. -/
def vtableSlot : GameCall → Option VtableSlot
  -- both interfaces inherit these two from `IUnknown`, in the same slots
  | queryInterface .factory this _ _ =>
    some ⟨this, .factory, factoryQueryInterfaceIndex, .factoryQueryInterfaceHook⟩
  | queryInterface .swapChain this _ _ =>
    some ⟨this, .swapChain, swapChainQueryInterfaceIndex, .swapChainQueryInterfaceHook⟩
  | release .factory this => some ⟨this, .factory, unknownReleaseIndex, .factoryReleaseHook⟩
  | release .swapChain this =>
    some ⟨this, .swapChain, unknownReleaseIndex, .swapChainReleaseHook⟩
  -- the rest of the factory, and then of the swap chain
  | createSwapChain this .. =>
    some ⟨this, .factory, factoryCreateSwapChainIndex, .createSwapChainHook⟩
  | createSwapChainForHwnd this .. =>
    some ⟨this, .factory, factoryCreateSwapChainForHwndIndex, .createSwapChainForHwndHook⟩
  | createSwapChainForCoreWindow this .. =>
    some ⟨this, .factory, factoryCreateSwapChainForCoreWindowIndex,
      .createSwapChainForCoreWindowHook⟩
  | createSwapChainForComposition this .. =>
    some ⟨this, .factory, factoryCreateSwapChainForCompositionIndex,
      .createSwapChainForCompositionHook⟩
  | present this _ _ => some ⟨this, .swapChain, swapChainPresentIndex, .presentHook⟩
  | present1 this _ _ _ => some ⟨this, .swapChain, swapChainPresent1Index, .present1Hook⟩
  | setFullscreenState this _ _ =>
    some ⟨this, .swapChain, swapChainSetFullscreenStateIndex, .setFullscreenStateHook⟩
  | resizeBuffers this .. =>
    some ⟨this, .swapChain, swapChainResizeBuffersIndex, .resizeBuffersHook⟩
  | resizeTarget this _ =>
    some ⟨this, .swapChain, swapChainResizeTargetIndex, .resizeTargetHook⟩
  | resizeBuffers1 this .. =>
    some ⟨this, .swapChain, swapChainResizeBuffers1Index, .resizeBuffers1Hook⟩
  | checkColorSpaceSupport this _ _ =>
    some ⟨this, .swapChain, swapChainCheckColorSpaceSupportIndex, .checkColorSpaceSupportHook⟩
  | setColorSpace1 this _ =>
    some ⟨this, .swapChain, swapChainSetColorSpace1Index, .setColorSpace1Hook⟩
  | setHdrMetadata this .. =>
    some ⟨this, .swapChain, swapChainSetHdrMetadataIndex, .setHdrMetadataHook⟩
  | _ => none

/-- The global pointer that the hook forwards through, if it is not a COM call. -/
def originalSlot : GameCall → Option OriginalSlot
  | createDxgiFactory .. => some (.imported .createDxgiFactory)
  | createDxgiFactory1 .. => some (.imported .createDxgiFactory1)
  | agsSetDisplayMode .. => some (.imported .agsSetDisplayMode)
  | hdrMenuGate _ => some (.game .hdrMenuGate)
  | hdrCommonAvailability => some (.game .hdrCommonAvailability)
  | graphicsConfigApply .. => some (.game .graphicsConfigApply)
  | hdrBackendActualQuery .. => some (.game .hdrBackendActualQuery)
  | _ => none

/-- What the hook returns when there is nothing to forward to. -/
def failure : (c : GameCall) → c.Answer
  | createDxgiFactory .. => (-1 : Int32)
  | createDxgiFactory1 .. => (-1 : Int32)
  | agsSetDisplayMode .. => (-1 : Int32)
  | queryInterface .. => (-1 : Int32)
  | release .. => (0 : UInt32)
  | createSwapChain .. => (-1 : Int32)
  | createSwapChainForHwnd .. => (-1 : Int32)
  | createSwapChainForCoreWindow .. => (-1 : Int32)
  | createSwapChainForComposition .. => (-1 : Int32)
  | present .. => (-1 : Int32)
  | present1 .. => (-1 : Int32)
  | setFullscreenState .. => (-1 : Int32)
  | resizeBuffers .. => (-1 : Int32)
  | resizeTarget .. => (-1 : Int32)
  | resizeBuffers1 .. => (-1 : Int32)
  | checkColorSpaceSupport .. => (-1 : Int32)
  | setColorSpace1 .. => (-1 : Int32)
  | setHdrMetadata .. => (-1 : Int32)
  -- the game's own routines: the row is grayed out, and HDR neither available nor active
  | hdrMenuGate _ => (1 : UInt8)
  | hdrCommonAvailability => (0 : UInt8)
  | graphicsConfigApply .. => ()
  | hdrBackendActualQuery .. => (0 : UInt8)

/-- A COM call has no global pointer. -/
theorem originalSlot_eq_none {c : GameCall} {slot : VtableSlot}
    (h : c.vtableSlot = some slot) : c.originalSlot = none := by
  cases c with
  | _ => first | rfl | cases h

end GameCall

/-! ### What follows a forwarded call -/

/-- What a hook does with the answer of a forwarded call, before it returns it. -/
inductive Aftermath : Routine Unit → Prop
  | ordinary {after : Routine Unit} : Calls (Call.Ordinary false) after → Aftermath after
  /-- A swap chain was created. -/
  | created (result : HResult) (swapChain : UInt64) {entryCount : Nat} :
      KnownSize .swapChain entryCount → Aftermath (captureSwapChain result swapChain entryCount)
  | reconfigured (swapChain : UInt64) (result : HResult) :
      Aftermath (afterReconfiguration swapChain result)
  | resized (swapChain : UInt64) (result : HResult) :
      Aftermath (afterTargetResize swapChain result)

/-- A factory that a call has returned is patched. -/
theorem Aftermath.factory (result : HResult) (riid object : UInt64) :
    Aftermath (captureInterface factoryVtableLen captureFactory result riid object) :=
  .ordinary (ordinary_of_looks (captureInterface_looks .factory fun _ _ => captureFactory_looks))

/-- An interface that a query has returned is patched, and gets a state. -/
theorem Aftermath.queried (result : HResult) (riid object : UInt64) :
    Aftermath (captureInterface swapChainVtableLen captureQueriedSwapChain result riid object) :=
  .ordinary (ordinary_of_looks
    (captureInterface_looks .swapChain fun _ _ => captureQueriedSwapChain_looks))

/-- Nothing is done. -/
theorem Aftermath.nothing : Aftermath (pure ()) := .ordinary trivial

/-! ### Shapes -/

/-- The shapes of hooks. -/
inductive Shape : (c : GameCall) → Routine c.Answer → Prop
  /-- The hook is in a vtable. -/
  | object {c : GameCall} {this : UInt64} {kind : ShadowKind} {index : Nat} {f : HookFunction}
      {p : c.Answer → Routine Unit} : c.vtableSlot = some ⟨this, kind, index, f⟩ →
      (∀ r, Aftermath (p r)) →
      Shape c (viaObject this kind index c.failure fun function => do
        let r ← ask (.forward function c)
        p r
        return r)
  /-- The hook is in an import slot. -/
  | imported {c : GameCall} {slot : HookedImport} {p : c.Answer → Routine Unit} :
      c.originalSlot = some (.imported slot) → (∀ r, Aftermath (p r)) →
      Shape c (viaOriginal (.imported slot) c.failure fun function => do
        let r ← ask (.forward function c)
        p r
        return r)
  | present (this : UInt64) (syncInterval flags : UInt32) :
      Shape (.present this syncInterval flags) (presentHook this syncInterval flags)
  | present1 (this : UInt64) (syncInterval flags : UInt32) (parameters : UInt64) :
      Shape (.present1 this syncInterval flags parameters)
        (present1Hook this syncInterval flags parameters)
  | release (kind : ShadowKind) (this : UInt64) :
      Shape (.release kind this) (releaseShadowObject kind this)
  | hdrMenuGate (this : UInt64) : Shape (.hdrMenuGate this) (hdrMenuGateHook this)
  | hdrCommonAvailability : Shape .hdrCommonAvailability hdrCommonAvailabilityHook
  | graphicsConfigApply (destination source : UInt64) :
      Shape (.graphicsConfigApply destination source) (graphicsConfigApplyHook destination source)
  | hdrBackendActualQuery (backend outputIdentity : UInt64) :
      Shape (.hdrBackendActualQuery backend outputIdentity)
        (hdrBackendActualQueryHook backend outputIdentity)

/-- A hook that only forwards does nothing with the answer. -/
theorem Shape.plain {c : GameCall} {this : UInt64} {kind : ShadowKind} {index : Nat}
    {f : HookFunction} (hs : c.vtableSlot = some ⟨this, kind, index, f⟩) :
    Shape c (viaObject this kind index c.failure fun function => ask (.forward function c)) :=
  .object (p := fun _ => pure ()) hs fun _ => .nothing

/-- **Every hook has a shape.** -/
theorem hook_shape (c : GameCall) : Shape c (hook c) := by
  cases c with
  | createDxgiFactory riid factory =>
    -- the imports
    exact .imported rfl fun r => .factory r riid factory
  | createDxgiFactory1 riid factory =>
    exact .imported rfl fun r => .factory r riid factory
  | agsSetDisplayMode =>
    exact .imported (p := fun _ => pure ()) rfl fun _ => .nothing
  | queryInterface kind this riid object =>
    cases kind with
    | factory =>
      -- which objects are captured depends on whose query it was
      have h := Shape.object (c := .queryInterface .factory this riid object)
        (p := fun r => captureInterface factoryVtableLen captureFactory r riid object)
        rfl fun r => .factory r riid object
      exact h
    | swapChain =>
      have h := Shape.object (c := .queryInterface .swapChain this riid object)
        (p := fun r => captureInterface swapChainVtableLen captureQueriedSwapChain r riid object)
        rfl fun r => .queried r riid object
      exact h
  | release kind this =>
    cases kind with
    | factory => exact .release .factory this
    | swapChain => exact .release .swapChain this
  | createSwapChain this device description swapChain =>
    exact .object rfl fun r => .created r swapChain knownSize_swapChain
  | createSwapChainForHwnd this device window description fullscreenDescription
      restrictToOutput swapChain =>
    -- these methods return an `IDXGISwapChain1`
    exact .object rfl fun r => .created r swapChain knownSize_swapChain1
  | createSwapChainForCoreWindow this device window description restrictToOutput swapChain =>
    exact .object rfl fun r => .created r swapChain knownSize_swapChain1
  | createSwapChainForComposition this device description restrictToOutput swapChain =>
    exact .object rfl fun r => .created r swapChain knownSize_swapChain1
  | present this syncInterval flags => exact .present this syncInterval flags
  | present1 this syncInterval flags parameters =>
    exact .present1 this syncInterval flags parameters
  | setFullscreenState this => exact .object rfl (.reconfigured this)
  | resizeBuffers this => exact .object rfl (.reconfigured this)
  -- the buffers stay, so no generation is advanced
  | resizeTarget this => exact .object rfl (.resized this)
  | resizeBuffers1 this => exact .object rfl (.reconfigured this)
  | checkColorSpaceSupport => exact .plain rfl
  | setColorSpace1 this requestedColorSpace =>
    exact .object rfl fun _ => .ordinary (observeSetColorSpace1_ordinary requestedColorSpace)
  | setHdrMetadata => exact .plain rfl
  -- the routines of the game
  | hdrMenuGate this => exact .hdrMenuGate this
  | hdrCommonAvailability => exact .hdrCommonAvailability
  | graphicsConfigApply destination source => exact .graphicsConfigApply destination source
  | hdrBackendActualQuery backend outputIdentity =>
    exact .hdrBackendActualQuery backend outputIdentity

end Runtime
end WindowedHdr
