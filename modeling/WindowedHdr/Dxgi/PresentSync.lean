import WindowedHdr.Dxgi.Interleaving
import WindowedHdr.Dxgi.SwapChainState

/-!
# What the renderer is told and what the display receives

The backend query hook answers the renderer: when it forces `effective_actual` to true,
the renderer draws in HDR. The Present hook submits the pending transition before it
forwards the frame. In between lie resizes, sets of other components and failed sets. The
system here takes each hook as one step and records the last answer, so that a state says
both what the renderer was told (`PresentState.told`) and what the display has.

At every Present the two agree (`presents_in_sync`): a frame drawn for HDR is forwarded
under PQ, and a frame that is not drawn for HDR is never forwarded under a color space
that this module enabled — up to a native set that failed, which is latched.

The invariant `PresentInv` says which of the fields can disagree between two hooks: the
display lags behind the desire only while a transition is pending or a failure is latched.
-/

namespace WindowedHdr
namespace Dxgi

namespace SwapChainState

/-- `hdr_backend_actual_query_hook` with color-space synchronization on, as far as the
swap chain is concerned. The override is wanted when every other condition of the hook is
met; the result is `overridden`. -/
def hdrBackendActualQuery (self : SwapChainState) (wantsOverride : Bool) :
    Bool × SwapChainState :=
  let r := if wantsOverride then self.requestManagedHdrColorSpace true else (false, self)
  if r.1 then
    (true, r.2)
  else
    -- not tried, or refused: the renderer is told what is so, and HDR is withdrawn
    (false, (r.2.requestManagedHdrColorSpace false).2)

/-- `apply_managed_color_space_before_present`, when its native set ends in `succeeded`.
The first component is the transition it submitted. -/
def applyManagedColorSpaceBeforePresent (self : SwapChainState) (succeeded : Bool) :
    Option ManagedColorSpaceTransition × SwapChainState :=
  match self.beginManagedTransition with
  | (none, self) => (none, self)
  | (some transition, self) =>
    (some transition, self.finishManagedTransition transition succeeded)

end SwapChainState

/-! ### The system -/

/-- One swap chain between two hooks. -/
structure PresentState where
  chain : SwapChainState
  /-- Whether the latest backend query was overridden; `none` before the first one. -/
  told : Option Bool
  /-- The writer of the observed color space. -/
  lastWriter : ColorSpaceWriter
  /-- A managed restore has failed. -/
  restoreFailed : Bool
  deriving DecidableEq

/-- One hook, with the outcome of its native call. -/
inductive PresentAction
  | query (wantsOverride : Bool)
  | present (succeeded : Bool)
  | reconfigure
  | externalSet (requestedColorSpace : UInt32)
  deriving DecidableEq

namespace PresentState

/-- The state in which the frame is forwarded. -/
def present (s : PresentState) (succeeded : Bool) : PresentState :=
  let r := s.chain.applyManagedColorSpaceBeforePresent succeeded
  match r.1 with
  | none => { s with chain := r.2 }
  | some t => { s with
      chain := r.2
      lastWriter := if succeeded then t.writer else s.lastWriter
      restoreFailed := s.restoreFailed || (!t.enablingHdr && !succeeded) }

/-- The effect of one hook. -/
def step (s : PresentState) : PresentAction → PresentState
  | .query wantsOverride =>
    let r := s.chain.hdrBackendActualQuery wantsOverride
    { s with chain := r.2, told := some r.1 }
  | .present succeeded => s.present succeeded
  | .reconfigure => { s with chain := s.chain.advanceGeneration }
  | .externalSet x => { s with
      chain := (s.chain.observeSetColorSpace1 x).2
      lastWriter := .externalSet }

/-- A swap chain that was just captured. -/
def initial (c₀ : UInt32) : PresentState where
  chain := { observedColorSpace := c₀ }
  told := none
  lastWriter := .initial
  restoreFailed := false

end PresentState

/-- All runs of whole hooks on one swap chain whose color space is first observed as
`c₀`. -/
def presentSystem (c₀ : UInt32) : ActionSystem PresentState PresentAction where
  Init s := s = .initial c₀
  step s a := some (s.step a)

namespace SwapChainState

variable {self : SwapChainState}

/-- The outcomes of a query: HDR is armed and told, or it is not told and withdrawn. -/
theorem hdrBackendActualQuery_cases (self : SwapChainState) (wantsOverride : Bool) :
    (∃ chain, self.requestManagedHdrColorSpace true = (true, chain) ∧
      self.hdrBackendActualQuery wantsOverride = (true, chain)) ∨
    self.hdrBackendActualQuery wantsOverride =
      (false, (self.requestManagedHdrColorSpace false).2) := by
  cases wantsOverride with
  | false => exact .inr rfl
  | true =>
    obtain ⟨-, hl, hm⟩ | ⟨-, -, -, hm⟩ | ⟨-, -, -, -, hm⟩ | ⟨-, -, -, -, hm⟩ |
      ⟨hf, -⟩ | ⟨hf, -⟩ :=
      self.managedColorSpace.request_cases true self.observedColorSpace
    · -- refused: the state is unchanged and HDR is withdrawn
      right
      simp [hdrBackendActualQuery, requestManagedHdrColorSpace, hm]
    · left
      simp [hdrBackendActualQuery, requestManagedHdrColorSpace, hm]
    · left
      simp [hdrBackendActualQuery, requestManagedHdrColorSpace, hm]
    · left
      simp [hdrBackendActualQuery, requestManagedHdrColorSpace, hm]
    · simp at hf
    · simp at hf

end SwapChainState

namespace PresentState

variable {s s' : PresentState} {c₀ : UInt32}

/-- A Present tells the renderer nothing. -/
@[simp] theorem present_told (s : PresentState) (succeeded : Bool) :
    (s.present succeeded).told = s.told := by
  unfold present
  dsimp only
  split <;> rfl

/-- The outcomes of a Present: nothing is submitted, or an enable or a restore is, and
succeeds or fails. -/
theorem present_cases (s : PresentState) (succeeded : Bool)
    (hip : s.chain.managedColorSpace.transitionInProgress = false) :
    ((s.chain.managedColorSpace.transitionPending = false ∨
        s.chain.managedColorSpace.restoreColorSpace = none) ∧
      s.present succeeded = s) ∨
    (s.chain.managedColorSpace.restoreColorSpace ≠ none ∧
      s.chain.managedColorSpace.desiredHdr = true ∧
      s.present succeeded = { s with
        chain := { s.chain with
          observedColorSpace := dxgiColorSpaceRgbFullG2084NoneP2020
          managedColorSpace := { s.chain.managedColorSpace with transitionPending := false } }
        lastWriter := .managedEnable }) ∨
    (s.chain.managedColorSpace.restoreColorSpace ≠ none ∧
      s.chain.managedColorSpace.desiredHdr = true ∧
      s.present succeeded = { s with
        chain := { s.chain with
          managedColorSpace := { s.chain.managedColorSpace with
            desiredHdr := false
            transitionPending := true
            failureLatched := true
            requestEpoch := s.chain.managedColorSpace.requestEpoch + 1 } } }) ∨
    (∃ restore, s.chain.managedColorSpace.desiredHdr = false ∧
      s.present succeeded = { s with
        chain := { s.chain with
          observedColorSpace := restore
          managedColorSpace := { s.chain.managedColorSpace with
            restoreColorSpace := none
            transitionPending := false } }
        lastWriter := .managedRestore }) ∨
    (s.chain.managedColorSpace.desiredHdr = false ∧
      s.present succeeded = { s with
        chain := { s.chain with
          managedColorSpace := { s.chain.managedColorSpace with
            transitionPending := false
            failureLatched := true } }
        restoreFailed := true }) := by
  obtain ⟨⟨logged, generation, signature, observed,
    restore, desired, pending, inProgress, latched, epoch⟩, told, writer, failed⟩ := s
  -- a transition is begun when one is pending over a baseline, and is finished at once
  obtain rfl : inProgress = false := hip
  cases pending with
  | false =>
    left
    simp [present, SwapChainState.applyManagedColorSpaceBeforePresent,
      SwapChainState.beginManagedTransition, ManagedColorSpaceState.beginTransition]
  | true =>
    cases restore with
    | none =>
      left
      simp [present, SwapChainState.applyManagedColorSpaceBeforePresent,
        SwapChainState.beginManagedTransition, ManagedColorSpaceState.beginTransition]
    | some restore =>
      right
      -- the four ways in which a transition ends
      cases desired <;> cases succeeded <;>
        simp [present, SwapChainState.applyManagedColorSpaceBeforePresent,
          SwapChainState.beginManagedTransition, SwapChainState.finishManagedTransition,
          ManagedColorSpaceState.beginTransition, ManagedColorSpaceState.finishTransition,
          ManagedColorSpaceTransition.writer]

/-! ### The invariant -/

/-- What holds between two hooks. -/
structure PresentInv (s : PresentState) : Prop where
  /-- No transition is in progress: a Present finishes what it begins. -/
  finished : s.chain.managedColorSpace.transitionInProgress = false
  /-- HDR is desired only while a baseline is held. -/
  baseline : s.chain.managedColorSpace.desiredHdr = true →
    s.chain.managedColorSpace.restoreColorSpace ≠ none
  /-- The display follows a held baseline, unless a transition is pending. -/
  armed : s.chain.managedColorSpace.failureLatched = false →
    s.chain.managedColorSpace.restoreColorSpace ≠ none →
    s.chain.managedColorSpace.transitionPending = false →
    s.chain.managedColorSpace.desiredHdr = true ∧
      s.chain.observedColorSpace = dxgiColorSpaceRgbFullG2084NoneP2020
  /-- A renderer that was told HDR draws what is desired, or a failure is latched. -/
  toldHdr : s.told = some true →
    s.chain.managedColorSpace.failureLatched = true ∨
      s.chain.managedColorSpace.desiredHdr = true
  /-- A renderer that was not told HDR finds none desired. -/
  toldSdr : s.told ≠ some true → s.chain.managedColorSpace.desiredHdr = false
  /-- A managed PQ is shown only while there is a baseline to restore. -/
  enabled : s.lastWriter = .managedEnable → s.chain.managedColorSpace.restoreColorSpace ≠ none
  /-- A baseline nobody is about to restore is one whose restoration failed. -/
  dropped : s.chain.managedColorSpace.restoreColorSpace ≠ none →
    s.chain.managedColorSpace.desiredHdr = false →
    s.chain.managedColorSpace.transitionPending = false → s.restoreFailed = true
  /-- A failed restore is latched. -/
  failed : s.restoreFailed = true → s.chain.managedColorSpace.failureLatched = true

namespace PresentInv

/-- Nothing is desired and nothing is held at first. -/
theorem initial (c₀ : UInt32) : PresentInv (PresentState.initial c₀) := by
  constructor <;> simp [PresentState.initial]

/-- A query keeps the invariant: HDR is armed and told, or withdrawn and not told. -/
theorem query (h : PresentInv s) (wantsOverride : Bool) :
    PresentInv (s.step (.query wantsOverride)) := by
  obtain ⟨chain, hreq, hm⟩ | hm := s.chain.hdrBackendActualQuery_cases wantsOverride
  · -- HDR was armed before it was told
    have hstep : s.step (.query wantsOverride) = { s with chain := chain, told := some true } := by
      simp [PresentState.step, hm]
    rw [hstep]
    obtain ⟨-, -, hq⟩ | ⟨-, -, -, hq⟩ | ⟨-, -, hr, -, hq⟩ | ⟨-, -, hr, hd, hq⟩ |
      ⟨hf, -⟩ | ⟨hf, -⟩ :=
      s.chain.managedColorSpace.request_cases true s.chain.observedColorSpace
    -- of the accepted requests, only one that finds HDR armed leaves nothing pending
    · simp [SwapChainState.requestManagedHdrColorSpace, hq] at hreq
    · simp only [SwapChainState.requestManagedHdrColorSpace, hq, Prod.mk.injEq] at hreq
      obtain ⟨-, rfl⟩ := hreq
      exact ⟨h.finished, by simp, by simp, fun _ => .inr rfl, fun hn => absurd rfl hn, by simp,
        by simp, h.failed⟩
    · simp only [SwapChainState.requestManagedHdrColorSpace, hq, Prod.mk.injEq] at hreq
      obtain ⟨-, rfl⟩ := hreq
      exact ⟨h.finished, fun _ => hr, by simp, fun _ => .inr rfl, fun hn => absurd rfl hn,
        fun _ => hr, by simp, h.failed⟩
    · simp only [SwapChainState.requestManagedHdrColorSpace, hq, Prod.mk.injEq] at hreq
      obtain ⟨-, rfl⟩ := hreq
      exact ⟨h.finished, h.baseline, h.armed, fun _ => .inr hd, fun hn => absurd rfl hn,
        h.enabled, h.dropped, h.failed⟩
    · simp at hf
    · simp at hf
  · have hstep : s.step (.query wantsOverride) =
        { s with chain := (s.chain.requestManagedHdrColorSpace false).2, told := some false } := by
      simp [PresentState.step, hm]
    rw [hstep]
    dsimp only [SwapChainState.requestManagedHdrColorSpace]
    obtain ⟨hf, -⟩ | ⟨hf, -⟩ | ⟨hf, -⟩ | ⟨hf, -⟩ | ⟨-, hr, -, hq⟩ | ⟨-, hn, hq⟩ :=
      s.chain.managedColorSpace.request_cases false s.chain.observedColorSpace
    · simp at hf
    · simp at hf
    · simp at hf
    · simp at hf
    · -- withdrawn: the restoration is pending
      rw [hq]
      exact ⟨h.finished, by simp, by simp, by simp, fun _ => rfl, fun _ => hr, by simp,
        h.failed⟩
    · -- nothing to withdraw: without a baseline HDR is not desired
      rw [hq]
      have hd : s.chain.managedColorSpace.desiredHdr = false := by
        by_contra hd
        exact hd (hn.resolve_left (h.baseline (by simpa using hd)))
      exact ⟨h.finished, h.baseline, h.armed, by simp, fun _ => hd, h.enabled, h.dropped,
        h.failed⟩

/-- A Present keeps the invariant, whatever becomes of its native set. -/
theorem present (h : PresentInv s) (succeeded : Bool) : PresentInv (s.present succeeded) := by
  have hip := h.finished
  obtain ⟨-, hm⟩ | ⟨hr, hd, hm⟩ | ⟨hr, hd, hm⟩ | ⟨r, hd, hm⟩ | ⟨hd, hm⟩ :=
    s.present_cases succeeded hip
  · rw [hm]
    exact h
  · -- the enable just wrote PQ
    rw [hm]
    exact ⟨hip, h.baseline, fun _ _ _ => ⟨hd, rfl⟩, h.toldHdr, h.toldSdr, fun _ => hr,
      fun _ hd' => absurd (hd.symm.trans hd') (by simp), h.failed⟩
  · -- a failed enable withdraws the desire and leaves the restoration pending
    rw [hm]
    exact ⟨hip, by simp, by simp, fun _ => .inl rfl, fun _ => rfl, fun _ => hr, by simp,
      fun _ => rfl⟩
  · -- the restore drops the baseline, and wrote last
    rw [hm]
    exact ⟨hip, fun hd' => absurd (hd.symm.trans hd') (by simp), fun _ hn => absurd rfl hn,
      h.toldHdr, h.toldSdr, by simp, fun hn => absurd rfl hn, h.failed⟩
  · -- a failed restore keeps the baseline, with nothing pending over it
    rw [hm]
    exact ⟨hip, h.baseline, by simp, fun _ => .inl rfl, h.toldSdr, h.enabled,
      fun _ _ _ => rfl, fun _ => rfl⟩

/-- A reconfiguration keeps the invariant, because it leaves the submission pending again. -/
theorem reconfigure (h : PresentInv s) : PresentInv (s.step .reconfigure) := by
  dsimp only [PresentState.step, SwapChainState.advanceGeneration]
  obtain ⟨hr, -, hm⟩ | ⟨-, hm⟩ := s.chain.managedColorSpace.reapplyAfterReconfiguration_cases
  · -- the submission is pending again
    rw [hm]
    exact ⟨h.finished, h.baseline, by simp, h.toldHdr, h.toldSdr, h.enabled, by simp, h.failed⟩
  -- nothing to submit again
  · rw [hm]
    exact ⟨h.finished, h.baseline, h.armed, h.toldHdr, h.toldSdr, h.enabled, h.dropped,
      h.failed⟩

/-- An external set keeps the invariant: it confirms what is desired, or ends the management. -/
theorem externalSet (h : PresentInv s) (x : UInt32) : PresentInv (s.step (.externalSet x)) := by
  dsimp only [PresentState.step, SwapChainState.observeSetColorSpace1]
  -- by what the external set finds and what it requests
  obtain ⟨hr, hm⟩ | ⟨hr, hd, rfl, hm⟩ | ⟨-, hd, hm⟩ | ⟨_, -, -, hm⟩ :=
    s.chain.managedColorSpace.observeExternalSet_cases x
  · -- unmanaged, and the writer is external now
    rw [hm]
    exact ⟨h.finished, h.baseline, fun _ hn => absurd hr hn, h.toldHdr, h.toldSdr, by simp,
      h.dropped, h.failed⟩
  · -- PQ was set by another component
    rw [hm]
    exact ⟨h.finished, h.baseline, fun _ _ _ => ⟨hd, rfl⟩, h.toldHdr, h.toldSdr, by simp,
      fun _ hd' => absurd (hd.symm.trans hd') (by simp), h.failed⟩
  · rw [hm]
    exact ⟨h.finished, fun hd' => absurd (hd.symm.trans hd') (by simp),
      fun _ hn => absurd rfl hn, h.toldHdr, h.toldSdr, by simp, fun hn => absurd rfl hn,
      h.failed⟩
  · -- a conflict withdraws the desire under a renderer that was told HDR, and latches
    rw [hm]
    exact ⟨rfl, by simp, by simp, fun _ => .inl rfl, fun _ => rfl, by simp,
      fun hn => absurd rfl hn, fun _ => rfl⟩

/-- Every hook keeps the invariant. -/
theorem step (h : PresentInv s) (a : PresentAction) : PresentInv (s.step a) := by
  cases a with
  | query wantsOverride => exact h.query wantsOverride
  | present succeeded => exact h.present succeeded
  | reconfigure => exact h.reconfigure
  | externalSet x => exact h.externalSet x

/-- The invariant holds after any run of whole hooks. -/
theorem of_reachable (h : (presentSystem c₀).Reachable s) : PresentInv s := by
  refine h.invariant ?_ ?_
  · rintro s rfl
    exact initial c₀
  · intro s a s' hI _ hs
    obtain rfl := Option.some.inj hs
    exact hI.step a

end PresentInv

/-- After a Present nothing is pending over a baseline, unless an enable just failed. -/
theorem present_submits (h : PresentInv s) (succeeded : Bool) :
    (s.present succeeded).chain.managedColorSpace.transitionPending = false ∨
      (s.present succeeded).chain.managedColorSpace.restoreColorSpace = none ∨
      ((s.present succeeded).chain.managedColorSpace.failureLatched = true ∧
        s.chain.managedColorSpace.desiredHdr = true) := by
  -- nothing to submit, or one of the four ways in which a transition ends
  obtain ⟨hp | hr, hm⟩ | ⟨-, -, hm⟩ | ⟨-, hd, hm⟩ | ⟨_, -, hm⟩ | ⟨-, hm⟩ :=
    s.present_cases succeeded h.finished
  · rw [hm]
    exact .inl hp
  · rw [hm]
    exact .inr (.inl hr)
  · rw [hm]
    exact .inl rfl
  · rw [hm]
    exact .inr (.inr ⟨rfl, hd⟩)
  · rw [hm]
    exact .inl rfl
  · rw [hm]
    exact .inl rfl

/-- What the display has agrees with what the renderer was told. -/
structure InSync (s : PresentState) : Prop where
  /-- A frame drawn for HDR is shown as PQ, or a failure is latched. -/
  hdr : s.told = some true →
    s.chain.observedColorSpace = dxgiColorSpaceRgbFullG2084NoneP2020 ∨
      s.chain.managedColorSpace.failureLatched = true
  /-- Any other frame is shown under a color space that no managed enable wrote last,
  unless a managed restore has failed, which is latched. -/
  sdr : s.told ≠ some true →
    s.lastWriter = .initial ∨ s.lastWriter = .externalSet ∨ s.lastWriter = .managedRestore ∨
      (s.restoreFailed = true ∧ s.chain.managedColorSpace.failureLatched = true)

/-- **Present synchronisation.** After any run of hooks, and whatever becomes of the
native set of this Present, the frame is forwarded in sync. -/
theorem presents_in_sync (c₀ : UInt32) (s : PresentState) (succeeded : Bool)
    (hr : (presentSystem c₀).Reachable s) : (s.present succeeded).InSync := by
  have h := PresentInv.of_reachable hr
  have h' := h.present succeeded
  have hsub := present_submits h succeeded
  have htold : (s.present succeeded).told = s.told := s.present_told succeeded
  constructor
  · intro ht
    -- the invariant says that a renderer which was told HDR draws what is desired
    obtain hl | hd := h'.toldHdr ht
    · exact .inr hl
    · by_cases hl : (s.present succeeded).chain.managedColorSpace.failureLatched = true
      · exact .inr hl
      · left
        -- a desired HDR holds a baseline, and nothing is left pending over it
        have hb := h'.baseline hd
        have hp : (s.present succeeded).chain.managedColorSpace.transitionPending = false := by
          obtain hp | hn | ⟨hl', -⟩ := hsub
          · exact hp
          · exact absurd hn hb
          · exact absurd hl' hl
        exact (h'.armed (by simpa using hl) hb hp).2
  · intro ht
    by_cases hw : (s.present succeeded).lastWriter = .managedEnable
    · -- a managed PQ that nobody is about to restore: its restoration has failed
      right; right; right
      have hb := h'.enabled hw
      have hd : s.chain.managedColorSpace.desiredHdr = false := h.toldSdr (htold ▸ ht)
      have hp : (s.present succeeded).chain.managedColorSpace.transitionPending = false := by
        obtain hp | hn | ⟨-, hd'⟩ := hsub
        · exact hp
        · exact absurd hn hb
        · exact absurd (hd.symm.trans hd') (by simp)
      have hfail := h'.dropped hb (h'.toldSdr ht) hp
      exact ⟨hfail, h'.failed hfail⟩
    · cases hlw : (s.present succeeded).lastWriter with
      | initial => exact .inl rfl
      | externalSet => exact .inr (.inl rfl)
      | managedRestore => exact .inr (.inr (.inl rfl))
      | managedEnable => exact absurd hlw hw

/-- A frame drawn for HDR: armed by a query that is told so, and at the Present submitted and
shown under PQ. -/
theorem presents_in_sync_hdr :
    (((PresentState.initial 0).step (.query true)).present true).InSync ∧
      (((PresentState.initial 0).step (.query true)).present true).told = some true ∧
      (((PresentState.initial 0).step (.query true)).present true).chain.observedColorSpace =
        dxgiColorSpaceRgbFullG2084NoneP2020 := by
  have hreach : (presentSystem 0).Reachable ((PresentState.initial 0).step (.query true)) :=
    ActionSystem.Reachable.step (.init rfl) rfl
  exact ⟨presents_in_sync 0 _ true hreach, rfl, rfl⟩

end PresentState

end Dxgi
end WindowedHdr
