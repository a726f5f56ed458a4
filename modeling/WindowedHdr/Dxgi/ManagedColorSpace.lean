import Mathlib.Tactic.Common

/-!
# The managed color-space state of a swap chain

`ManagedColorSpaceState` is the record that decides when this module may call
`SetColorSpace1` on a captured swap chain. It is kept behind the lock of
`SWAP_CHAIN_STATES`, and five operations change it:

* `request` arms or withdraws HDR at a backend query and captures the color space to
  restore;
* `beginTransition` hands the presenting thread the one transition it has to submit,
  and `finishTransition` reports what became of it — the native call runs between the
  two, with the lock released;
* `reapplyAfterReconfiguration` asks for the submission again after a resize or a
  fullscreen change;
* `observeExternalSet` sees a `SetColorSpace1` that somebody else made.

A request changes the desire and advances the epoch in the same step, so the parity of
the epoch tells the desire (`ManagedColorSpaceState.ParityOk`). The epoch is a 64-bit
counter that wraps, and parity survives the wrap: two epochs that are equal carry equal
desires, however many requests lie between them.
-/

namespace WindowedHdr
namespace Dxgi

/-- `DXGI_COLOR_SPACE_RGB_FULL_G22_NONE_P709`, the SDR color space. -/
def dxgiColorSpaceRgbFullG22NoneP709 : UInt32 := 0

/-- `DXGI_COLOR_SPACE_RGB_FULL_G2084_NONE_P2020`, the HDR10 (PQ) color space. -/
def dxgiColorSpaceRgbFullG2084NoneP2020 : UInt32 := 12

/-- The managed color-space state of one swap chain. -/
structure ManagedColorSpaceState where
  /-- The color space captured when HDR was requested, to be restored afterwards. -/
  restoreColorSpace : Option UInt32 := none
  /-- The renderer was told HDR is on. -/
  desiredHdr : Bool := false
  /-- A transition has to be submitted before the next Present. -/
  transitionPending : Bool := false
  /-- A transition was begun and its outcome is not recorded yet. -/
  transitionInProgress : Bool := false
  /-- A managed set failed, or an external one conflicted. -/
  failureLatched : Bool := false
  /-- Advanced by every change of the desire. -/
  requestEpoch : UInt64 := 0
  deriving DecidableEq, Repr

/-- One `SetColorSpace1` the presenting thread has to submit. -/
structure ManagedColorSpaceTransition where
  targetColorSpace : UInt32
  enablingHdr : Bool
  requestEpoch : UInt64
  deriving DecidableEq, Repr

namespace ManagedColorSpaceState

/-- Arm (`hdr`) or withdraw HDR. The result is `false` exactly when an enable is
refused because a failure is latched. -/
def request (self : ManagedColorSpaceState) (hdr : Bool) (currentColorSpace : UInt32) :
    Bool × ManagedColorSpaceState :=
  if hdr && self.failureLatched then
    (false, self)
  else if hdr then
    if self.restoreColorSpace.isNone then
      -- the first request captures what is to be restored
      (true, { self with
        restoreColorSpace := some currentColorSpace
        desiredHdr := true
        transitionPending := true
        requestEpoch := self.requestEpoch + 1 })
    else if !self.desiredHdr then
      -- HDR comes back before the baseline was restored, which therefore stays
      (true, { self with
        desiredHdr := true
        transitionPending := true
        requestEpoch := self.requestEpoch + 1 })
    else
      (true, self)
  else if self.restoreColorSpace.isSome && self.desiredHdr then
    -- the baseline is kept until a transition has restored it
    (true, { self with
      desiredHdr := false
      transitionPending := true
      requestEpoch := self.requestEpoch + 1 })
  else
    (true, self)

/-- Take the pending transition, if there is one and none is in progress. -/
def beginTransition (self : ManagedColorSpaceState) :
    Option ManagedColorSpaceTransition × ManagedColorSpaceState :=
  if !self.transitionPending || self.transitionInProgress then
    (none, self)
  else
    match self.restoreColorSpace with
    | none => (none, self)
    | some restoreColorSpace =>
      (some {
        targetColorSpace :=
          if self.desiredHdr then dxgiColorSpaceRgbFullG2084NoneP2020 else restoreColorSpace
        enablingHdr := self.desiredHdr
        requestEpoch := self.requestEpoch },
       { self with transitionPending := false, transitionInProgress := true })

/-- Record the outcome of a transition that was begun. -/
def finishTransition (self : ManagedColorSpaceState)
    (transition : ManagedColorSpaceTransition) (succeeded : Bool) : ManagedColorSpaceState :=
  let self := { self with transitionInProgress := false }
  if succeeded then
    -- a restore that nothing has overtaken ends the episode
    if transition.requestEpoch == self.requestEpoch && !transition.enablingHdr then
      { self with restoreColorSpace := none }
    else
      self
  else
    let self := { self with failureLatched := true }
    if transition.requestEpoch == self.requestEpoch && transition.enablingHdr then
      -- withdraw the desire and schedule the restoration of the baseline
      { self with
        desiredHdr := false
        transitionPending := true
        requestEpoch := self.requestEpoch + 1 }
    else
      self

/-- Ask for the submission again after a successful reconfiguration. -/
def reapplyAfterReconfiguration (self : ManagedColorSpaceState) : ManagedColorSpaceState :=
  if self.restoreColorSpace.isSome && !self.failureLatched then
    { self with transitionPending := true }
  else
    self

/-- The color space an external set has to request in order not to conflict. -/
def expectedColorSpace (self : ManagedColorSpaceState) (restoreColorSpace : UInt32) : UInt32 :=
  if self.desiredHdr then dxgiColorSpaceRgbFullG2084NoneP2020 else restoreColorSpace

/-- See an external `SetColorSpace1`. The result is `true` exactly when it conflicts and
this module relinquishes the swap chain. -/
def observeExternalSet (self : ManagedColorSpaceState) (requestedColorSpace : UInt32) :
    Bool × ManagedColorSpaceState :=
  match self.restoreColorSpace with
  | none => (false, self)
  | some restoreColorSpace =>
    if requestedColorSpace == self.expectedColorSpace restoreColorSpace then
      -- somebody else made the set that was pending
      let self := { self with transitionPending := false }
      if !self.desiredHdr then
        (false, { self with restoreColorSpace := none })
      else
        (false, self)
    else
      -- also a transition in progress is disowned, while its native call may still run
      (true, { self with
        restoreColorSpace := none
        desiredHdr := false
        transitionPending := false
        transitionInProgress := false
        failureLatched := true
        requestEpoch := self.requestEpoch + 1 })

/-! ### What each operation can do

One lemma per operation lists every outcome together with its guard. The invariants of
the later modules are case analyses over these lists and do not unfold the operations. -/

/-- A request is refused, captures a baseline, re-arms, finds HDR armed, withdraws, or
finds nothing to withdraw. -/
theorem request_cases (m : ManagedColorSpaceState) (hdr : Bool) (current : UInt32) :
    (hdr = true ∧ m.failureLatched = true ∧ m.request hdr current = (false, m)) ∨
    (hdr = true ∧ m.failureLatched = false ∧ m.restoreColorSpace = none ∧
      m.request hdr current = (true, { m with
        restoreColorSpace := some current
        desiredHdr := true
        transitionPending := true
        requestEpoch := m.requestEpoch + 1 })) ∨
    (hdr = true ∧ m.failureLatched = false ∧ m.restoreColorSpace ≠ none ∧
      m.desiredHdr = false ∧
      m.request hdr current = (true, { m with
        desiredHdr := true
        transitionPending := true
        requestEpoch := m.requestEpoch + 1 })) ∨
    (hdr = true ∧ m.failureLatched = false ∧ m.restoreColorSpace ≠ none ∧
      m.desiredHdr = true ∧ m.request hdr current = (true, m)) ∨
    (hdr = false ∧ m.restoreColorSpace ≠ none ∧ m.desiredHdr = true ∧
      m.request hdr current = (true, { m with
        desiredHdr := false
        transitionPending := true
        requestEpoch := m.requestEpoch + 1 })) ∨
    (hdr = false ∧ (m.restoreColorSpace = none ∨ m.desiredHdr = false) ∧
      m.request hdr current = (true, m)) := by
  -- the fields that the guards test decide the branch
  obtain ⟨restore, desired, pending, inProgress, latched, epoch⟩ := m
  cases hdr <;> cases restore <;> cases desired <;> cases latched <;> simp [request]

/-- A transition is handed out only when one is pending, none is in progress and a
baseline is held; it aims at PQ when HDR is desired and at the baseline otherwise. -/
theorem beginTransition_cases (m : ManagedColorSpaceState) :
    ((m.transitionPending = false ∨ m.transitionInProgress = true ∨
      m.restoreColorSpace = none) ∧ m.beginTransition = (none, m)) ∨
    (∃ restore, m.transitionPending = true ∧ m.transitionInProgress = false ∧
      m.restoreColorSpace = some restore ∧
      m.beginTransition =
        (some ⟨m.expectedColorSpace restore, m.desiredHdr, m.requestEpoch⟩,
          { m with transitionPending := false, transitionInProgress := true })) := by
  obtain ⟨restore, desired, pending, inProgress, latched, epoch⟩ := m
  cases restore <;> cases pending <;> cases inProgress <;>
    simp [beginTransition, expectedColorSpace]

/-- The transition handed out when the guard holds. -/
theorem beginTransition_of_pending (m : ManagedColorSpaceState) {restore : UInt32}
    (hp : m.transitionPending = true) (hi : m.transitionInProgress = false)
    (hr : m.restoreColorSpace = some restore) :
    m.beginTransition =
      (some ⟨m.expectedColorSpace restore, m.desiredHdr, m.requestEpoch⟩,
        { m with transitionPending := false, transitionInProgress := true }) := by
  rcases m.beginTransition_cases with ⟨hg, -⟩ | ⟨r, -, -, hr', hm⟩
  · -- the guard holds, so a transition is handed out
    simp [hp, hi, hr] at hg
  · rwa [Option.some.inj (hr.symm.trans hr')]

/-- A success drops the baseline when it restored it at the current epoch; a failure
latches, and withdraws the desire when it was an enable at the current epoch. -/
theorem finishTransition_cases (m : ManagedColorSpaceState)
    (t : ManagedColorSpaceTransition) (succeeded : Bool) :
    (succeeded = true ∧ t.requestEpoch = m.requestEpoch ∧ t.enablingHdr = false ∧
      m.finishTransition t succeeded =
        { m with transitionInProgress := false, restoreColorSpace := none }) ∨
    (succeeded = true ∧ ¬ (t.requestEpoch = m.requestEpoch ∧ t.enablingHdr = false) ∧
      m.finishTransition t succeeded = { m with transitionInProgress := false }) ∨
    (succeeded = false ∧ t.requestEpoch = m.requestEpoch ∧ t.enablingHdr = true ∧
      m.finishTransition t succeeded = { m with
        transitionInProgress := false
        failureLatched := true
        desiredHdr := false
        transitionPending := true
        requestEpoch := m.requestEpoch + 1 }) ∨
    (succeeded = false ∧ ¬ (t.requestEpoch = m.requestEpoch ∧ t.enablingHdr = true) ∧
      m.finishTransition t succeeded =
        { m with transitionInProgress := false, failureLatched := true }) := by
  obtain ⟨restore, desired, pending, inProgress, latched, epoch⟩ := m
  obtain ⟨target, enabling, tepoch⟩ := t
  by_cases he : tepoch = epoch <;> cases succeeded <;> cases enabling <;>
    simp [finishTransition, he]

/-- A reconfiguration makes a held baseline pending again unless a failure is latched. -/
theorem reapplyAfterReconfiguration_cases (m : ManagedColorSpaceState) :
    (m.restoreColorSpace ≠ none ∧ m.failureLatched = false ∧
      m.reapplyAfterReconfiguration = { m with transitionPending := true }) ∨
    ((m.restoreColorSpace = none ∨ m.failureLatched = true) ∧
      m.reapplyAfterReconfiguration = m) := by
  obtain ⟨restore, desired, pending, inProgress, latched, epoch⟩ := m
  cases restore <;> cases latched <;> simp [reapplyAfterReconfiguration]

/-- An external set passes by unmanaged, confirms PQ, confirms the baseline, or
conflicts. -/
theorem observeExternalSet_cases (m : ManagedColorSpaceState) (x : UInt32) :
    (m.restoreColorSpace = none ∧ m.observeExternalSet x = (false, m)) ∨
    (m.restoreColorSpace ≠ none ∧ m.desiredHdr = true ∧
      x = dxgiColorSpaceRgbFullG2084NoneP2020 ∧
      m.observeExternalSet x = (false, { m with transitionPending := false })) ∨
    (m.restoreColorSpace = some x ∧ m.desiredHdr = false ∧
      m.observeExternalSet x =
        (false, { m with transitionPending := false, restoreColorSpace := none })) ∨
    (∃ restore, m.restoreColorSpace = some restore ∧ x ≠ m.expectedColorSpace restore ∧
      m.observeExternalSet x = (true, { m with
        restoreColorSpace := none
        desiredHdr := false
        transitionPending := false
        transitionInProgress := false
        failureLatched := true
        requestEpoch := m.requestEpoch + 1 })) := by
  obtain ⟨restore, desired, pending, inProgress, latched, epoch⟩ := m
  cases restore with
  | none => simp [observeExternalSet]
  | some r =>
    -- what is expected depends on the desire alone
    cases desired
    · by_cases hx : x = r
      · simp [observeExternalSet, expectedColorSpace, hx]
      · simp [observeExternalSet, expectedColorSpace, hx, Ne.symm hx]
    · by_cases hx : x = dxgiColorSpaceRgbFullG2084NoneP2020 <;>
        simp [observeExternalSet, expectedColorSpace, hx]

/-! ### The latch under each operation -/

/-- A request does not touch the latch. -/
@[simp] theorem request_failureLatched (m : ManagedColorSpaceState) (hdr : Bool)
    (current : UInt32) : (m.request hdr current).2.failureLatched = m.failureLatched := by
  unfold request
  split_ifs <;> rfl

/-- Beginning a transition does not touch the latch. -/
@[simp] theorem beginTransition_failureLatched (m : ManagedColorSpaceState) :
    m.beginTransition.2.failureLatched = m.failureLatched := by
  obtain ⟨-, hm⟩ | ⟨_, -, -, -, hm⟩ := m.beginTransition_cases
  · rw [hm]
  · rw [hm]

/-- Only a failed transition sets the latch. -/
@[simp] theorem finishTransition_failureLatched (m : ManagedColorSpaceState)
    (t : ManagedColorSpaceTransition) (succeeded : Bool) :
    (m.finishTransition t succeeded).failureLatched = (m.failureLatched || !succeeded) := by
  obtain ⟨rfl, -, -, hm⟩ | ⟨rfl, -, hm⟩ | ⟨rfl, -, -, hm⟩ | ⟨rfl, -, hm⟩ :=
    m.finishTransition_cases t succeeded
  · simp [hm]
  · simp [hm]
  · simp [hm]
  · simp [hm]

/-- A reconfiguration does not touch the latch. -/
@[simp] theorem reapplyAfterReconfiguration_failureLatched (m : ManagedColorSpaceState) :
    m.reapplyAfterReconfiguration.failureLatched = m.failureLatched := by
  unfold reapplyAfterReconfiguration
  split_ifs <;> rfl

/-- Only a conflicting external set sets the latch. -/
@[simp] theorem observeExternalSet_failureLatched (m : ManagedColorSpaceState) (x : UInt32) :
    (m.observeExternalSet x).2.failureLatched =
      (m.failureLatched || (m.observeExternalSet x).1) := by
  obtain ⟨-, hm⟩ | ⟨-, -, -, hm⟩ | ⟨-, -, hm⟩ | ⟨_, -, -, hm⟩ := m.observeExternalSet_cases x
  · simp [hm]
  · simp [hm]
  · simp [hm]
  · simp [hm]

end ManagedColorSpaceState

end Dxgi
end WindowedHdr
