import WindowedHdr.Dxgi.ManagedColorSpace

/-!
# What is known of one captured swap chain

`SwapChainState` is the value that `SWAP_CHAIN_STATES` keeps for a captured swap chain.
Each definition below is the part of a hook that runs under the lock of that map; the
native calls that a hook makes before or after it are not part of it. Where the outcome
of a native call decides what is recorded, the outcome is an argument.

`ColorSpaceWriter` is not data of the program. The systems of the later modules carry it
next to the color space to say who wrote the value last.
-/

namespace WindowedHdr
namespace Dxgi

/-- The part of a swap-chain description whose change is logged. -/
structure SwapChainSignature where
  width : UInt32
  height : UInt32
  format : UInt32
  bufferCount : UInt32
  windowed : Bool
  swapEffect : UInt32
  flags : UInt32
  deriving DecidableEq, Repr

/-- The state kept for one captured swap chain. -/
structure SwapChainState where
  firstPresentLogged : Bool := false
  generation : UInt64 := 0
  lastSignature : Option SwapChainSignature := none
  /-- The color space of the last successful set that this module saw. -/
  observedColorSpace : UInt32 := 0
  managedColorSpace : ManagedColorSpaceState := {}
  deriving DecidableEq, Repr

namespace SwapChainState

/-- The locked part of `request_managed_hdr_color_space`: the color space captured as
baseline is the observed one. The result is `accepted`. -/
def requestManagedHdrColorSpace (self : SwapChainState) (hdr : Bool) : Bool × SwapChainState :=
  let r := self.managedColorSpace.request hdr self.observedColorSpace
  (r.1, { self with managedColorSpace := r.2 })

/-- The locked part of `apply_managed_color_space_before_present` before its native set. -/
def beginManagedTransition (self : SwapChainState) :
    Option ManagedColorSpaceTransition × SwapChainState :=
  let r := self.managedColorSpace.beginTransition
  (r.1, { self with managedColorSpace := r.2 })

/-- The locked part of `apply_managed_color_space_before_present` after its native set. -/
def finishManagedTransition (self : SwapChainState) (transition : ManagedColorSpaceTransition)
    (succeeded : Bool) : SwapChainState :=
  { self with
    -- only a successful set has changed the color space
    observedColorSpace :=
      if succeeded then transition.targetColorSpace else self.observedColorSpace
    managedColorSpace := self.managedColorSpace.finishTransition transition succeeded }

/-- The locked part of `advance_swap_chain_generation`, after a successful resize or
fullscreen change. -/
def advanceGeneration (self : SwapChainState) : SwapChainState :=
  { self with
    generation := self.generation + 1
    -- what was logged belongs to the generation before
    firstPresentLogged := false
    lastSignature := none
    managedColorSpace := self.managedColorSpace.reapplyAfterReconfiguration }

/-- The locked part of `set_color_space1_hook`, after the forwarded call succeeded. The
result is `conflict`. -/
def observeSetColorSpace1 (self : SwapChainState) (requestedColorSpace : UInt32) :
    Bool × SwapChainState :=
  -- whether it conflicts is decided against the state before the set
  let r := self.managedColorSpace.observeExternalSet requestedColorSpace
  (r.1, { self with observedColorSpace := requestedColorSpace, managedColorSpace := r.2 })

end SwapChainState

/-- Who wrote a color space last. -/
inductive ColorSpaceWriter
  /-- Nobody since the swap chain was captured. -/
  | initial
  /-- A `SetColorSpace1` of the game, an overlay or another module. -/
  | externalSet
  /-- A managed set that restores the baseline. -/
  | managedRestore
  /-- A managed set that enables PQ. -/
  | managedEnable
  deriving DecidableEq, Repr

/-- The writer that a managed transition leaves behind. -/
def ManagedColorSpaceTransition.writer (self : ManagedColorSpaceTransition) :
    ColorSpaceWriter :=
  if self.enablingHdr then .managedEnable else .managedRestore

namespace ManagedColorSpaceTransition

variable {t : ManagedColorSpaceTransition}

/-- A transition that enables HDR writes as a managed enable. -/
theorem writer_of_enabling (h : t.enablingHdr = true) : t.writer = .managedEnable := by
  simp [writer, h]

/-- A transition that restores the baseline writes as a managed restore. -/
theorem writer_of_restoring (h : t.enablingHdr = false) : t.writer = .managedRestore := by
  simp [writer, h]

end ManagedColorSpaceTransition

end Dxgi
end WindowedHdr
