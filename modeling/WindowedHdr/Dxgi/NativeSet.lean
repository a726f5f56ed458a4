import WindowedHdr.Dxgi.Interleaving
import WindowedHdr.Dxgi.SwapChainState

/-!
# Managed transitions around the native set

Here the native `SetColorSpace1` of a managed transition is a step of its own, between
`beginManagedTransition` and `finishManagedTransition`, and the system carries the color
space the swap chain actually has, together with who wrote it last. Requests,
reconfigurations and external sets are single steps of other threads and may fall between
any two of the three. Every native set succeeds.

An external set that requests what is desired cancels the pending transition, and drops
the baseline when HDR is not desired. That is right for a transition which is pending and
for one whose native set was made, but not for one that is about to be made
(`orphanedPqTrace`): if it aims the other way, it overwrites the value that was just
confirmed, and its epoch is stale, so nothing corrects it. `ExternalSetSpared` names the
external sets that do no such thing, and `ShownInv` is the invariant they keep.

The system runs inside `interleaving` (`nativeInterleaving_simulation`), whose invariant it
inherits.
-/

namespace WindowedHdr
namespace Dxgi

/-! ### The system -/

/-- A transition that was begun and not finished. -/
structure InFlight where
  transition : ManagedColorSpaceTransition
  /-- Its native set was made. -/
  landed : Bool
  deriving DecidableEq

/-- One swap chain with the color space it actually has. -/
structure NativeState where
  chain : SwapChainState
  /-- The color space of the last native set. -/
  actualColorSpace : UInt32
  /-- The writer of `actualColorSpace`. -/
  lastWriter : ColorSpaceWriter
  /-- What the presenting thread is at. -/
  inFlight : Option InFlight
  deriving DecidableEq

/-- One step of one thread. -/
inductive NativeAction
  | request (hdr : Bool)
  | beginTransition
  /-- The native call of the transition in flight. -/
  | nativeSet
  | finishTransition
  | reapplyAfterReconfiguration
  /-- A native set of another component and its observation. -/
  | externalSet (requestedColorSpace : UInt32)
  deriving DecidableEq

namespace NativeState

/-- The effect of one step. -/
def step (s : NativeState) : NativeAction → Option NativeState
  | .request hdr => some { s with chain := (s.chain.requestManagedHdrColorSpace hdr).2 }
  | .beginTransition =>
    match s.inFlight with
    | some _ => none
    | none =>
      let r := s.chain.beginManagedTransition
      some { s with chain := r.2, inFlight := r.1.map fun t => ⟨t, false⟩ }
  | .nativeSet =>
    match s.inFlight with
    | some ⟨t, false⟩ =>
      some { s with
        actualColorSpace := t.targetColorSpace
        lastWriter := t.writer
        inFlight := some ⟨t, true⟩ }
    | _ => none
  | .finishTransition =>
    match s.inFlight with
    | some ⟨t, true⟩ =>
      some { s with chain := s.chain.finishManagedTransition t true, inFlight := none }
    | _ => none
  | .reapplyAfterReconfiguration => some { s with chain := s.chain.advanceGeneration }
  | .externalSet x =>
    some { s with
      chain := (s.chain.observeSetColorSpace1 x).2
      actualColorSpace := x
      lastWriter := .externalSet }

/-- A swap chain that was just captured: it has `actual`, and `observed` is recorded. -/
def initial (observed actual : UInt32) : NativeState where
  chain := { observedColorSpace := observed }
  actualColorSpace := actual
  lastWriter := .initial
  inFlight := none

end NativeState

/-- All interleavings of one presenting thread with requests, reconfigurations and
external sets. -/
def nativeInterleaving (observed actual : UInt32) : ActionSystem NativeState NativeAction where
  Init s := s = .initial observed actual
  step := NativeState.step

/-- The steps of the system are those of the state. -/
@[simp] theorem nativeInterleaving_step (observed actual : UInt32) (s : NativeState)
    (a : NativeAction) : (nativeInterleaving observed actual).step s a = s.step a := rfl

namespace NativeState

variable {s s' : NativeState} {a : NativeAction} {observed actual : UInt32}
  {f : InFlight} {t : ManagedColorSpaceTransition}

/-! ### What a step of the presenting thread can do -/

/-- A transition is begun only when none is in flight. -/
theorem step_beginTransition (hs : s.step .beginTransition = some s') :
    s.inFlight = none ∧ s' = { s with
      chain := s.chain.beginManagedTransition.2
      inFlight := s.chain.beginManagedTransition.1.map fun t => ⟨t, false⟩ } := by
  dsimp only [step] at hs
  split at hs
  · exact nomatch hs
  · next hf => exact ⟨hf, (Option.some.inj hs).symm⟩

/-- The native set is that of a transition in flight, and is made once. -/
theorem step_nativeSet (hs : s.step .nativeSet = some s') :
    ∃ t, s.inFlight = some ⟨t, false⟩ ∧ s' = { s with
      actualColorSpace := t.targetColorSpace
      lastWriter := t.writer
      inFlight := some ⟨t, true⟩ } := by
  dsimp only [step] at hs
  split at hs
  · next t hf => exact ⟨t, hf, (Option.some.inj hs).symm⟩
  · exact nomatch hs

/-- A transition is finished after its native set. -/
theorem step_finishTransition (hs : s.step .finishTransition = some s') :
    ∃ t, s.inFlight = some ⟨t, true⟩ ∧
      s' = { s with chain := s.chain.finishManagedTransition t true, inFlight := none } := by
  dsimp only [step] at hs
  split at hs
  · next t hf => exact ⟨t, hf, (Option.some.inj hs).symm⟩
  · exact nomatch hs

/-- No transition is outstanding, and none would be begun. -/
def Idle (s : NativeState) : Prop :=
  s.inFlight = none ∧ (s.chain.managedColorSpace.transitionPending = false ∨
    s.chain.managedColorSpace.restoreColorSpace = none)

/-! ### The system runs inside `interleaving` -/

/-- The interleaved state of the critical sections, without the native sets. -/
def toInterleaved (s : NativeState) : InterleavedState where
  managed := s.chain.managedColorSpace
  observedColorSpace := s.chain.observedColorSpace
  outstanding := s.inFlight.toList.map InFlight.transition

/-- Every step is one critical section, or none: the native set holds no lock. -/
theorem toInterleaved_step (observed : UInt32) (hs : s.step a = some s') :
    ∃ as, (interleaving observed).run s.toInterleaved as = some s'.toInterleaved := by
  cases a with
  | request hdr =>
    obtain rfl := Option.some.inj hs
    exact ⟨[.request hdr s.chain.observedColorSpace], rfl⟩
  | beginTransition =>
    obtain ⟨hf, rfl⟩ := step_beginTransition hs
    refine ⟨[.beginTransition], ?_⟩
    unfold toInterleaved SwapChainState.beginManagedTransition
    -- with or without a transition to begin
    cases hm : s.chain.managedColorSpace.beginTransition.1 with
    | none => simp [InterleavedState.step, hf, hm]
    | some t => simp [InterleavedState.step, hf, hm]
  | nativeSet =>
    -- the transition stays outstanding, and nothing else is seen of it
    obtain ⟨t, hf, rfl⟩ := step_nativeSet hs
    refine ⟨[], ?_⟩
    simp [toInterleaved, hf]
  | finishTransition =>
    obtain ⟨t, hf, rfl⟩ := step_finishTransition hs
    refine ⟨[.finishTransition t true], ?_⟩
    simp [toInterleaved, SwapChainState.finishManagedTransition, InterleavedState.step, hf]
  | reapplyAfterReconfiguration =>
    obtain rfl := Option.some.inj hs
    exact ⟨[.reapplyAfterReconfiguration], rfl⟩
  | externalSet x =>
    obtain rfl := Option.some.inj hs
    exact ⟨[.externalSet x], rfl⟩

/-- **Simulation.** The critical sections of every run are an interleaving. -/
theorem nativeInterleaving_simulation (observed actual : UInt32) :
    ActionSystem.Simulation (nativeInterleaving observed actual) (interleaving observed)
      fun s t => t = s.toInterleaved where
  init := by
    rintro s rfl
    exact ⟨_, rfl, rfl⟩
  step := by
    rintro s _ a s' rfl hs
    obtain ⟨as, has⟩ := toInterleaved_step observed hs
    exact ⟨as, _, has, rfl⟩

/-- The invariant of the critical sections. -/
theorem inv_of_reachable (h : (nativeInterleaving observed actual).Reachable s) :
    s.toInterleaved.Inv := by
  obtain ⟨_, ht, rfl⟩ := (nativeInterleaving_simulation observed actual).reachable h
  exact .of_reachable ht

/-! ### What holds in every run -/

/-- What holds whether or not an external set was swallowed. -/
structure AimedInv (s : NativeState) : Prop where
  /-- An enabling transition aims at PQ. -/
  aimed : ∀ f, s.inFlight = some f → f.transition.enablingHdr = true →
    f.transition.targetColorSpace = dxgiColorSpaceRgbFullG2084NoneP2020
  /-- A failure is latched only by a conflict, which drops the baseline. -/
  conflicted : s.chain.managedColorSpace.failureLatched = true →
    s.chain.managedColorSpace.restoreColorSpace = none

/-- Every step keeps it, spared or not. -/
theorem AimedInv.step (h : AimedInv s) (hs : s.step a = some s') : AimedInv s' := by
  obtain ⟨haim, hlat⟩ := h
  cases a with
  | request hdr =>
    obtain rfl := Option.some.inj hs
    refine ⟨haim, ?_⟩
    dsimp only [SwapChainState.requestManagedHdrColorSpace]
    obtain ⟨-, -, hm⟩ | ⟨-, hl, -, hm⟩ | ⟨-, hl, -, -, hm⟩ | ⟨-, -, -, -, hm⟩ |
      ⟨-, -, -, hm⟩ | ⟨-, -, hm⟩ :=
      s.chain.managedColorSpace.request_cases hdr s.chain.observedColorSpace
    · rw [hm]
      exact hlat
    · -- a capture happens only while nothing is latched
      rw [hm]
      exact fun hl' => absurd hl' (by simp [hl])
    all_goals
      rw [hm]
      exact hlat
  | beginTransition =>
    obtain ⟨-, rfl⟩ := step_beginTransition hs
    dsimp only [SwapChainState.beginManagedTransition]
    obtain ⟨-, hm⟩ | ⟨r, -, -, -, hm⟩ := s.chain.managedColorSpace.beginTransition_cases
    · rw [hm]
      exact ⟨by simp, hlat⟩
    · -- a transition that enables was begun with HDR desired
      rw [hm]
      refine ⟨?_, hlat⟩
      intro f hf hen
      obtain rfl := Option.some.inj hf
      dsimp only at hen
      simp [ManagedColorSpaceState.expectedColorSpace, hen]
  | nativeSet =>
    obtain ⟨t, hf, rfl⟩ := step_nativeSet hs
    refine ⟨?_, hlat⟩
    intro f hf' hen
    obtain rfl := Option.some.inj hf'
    exact haim ⟨t, false⟩ hf hen
  | finishTransition =>
    obtain ⟨t, -, rfl⟩ := step_finishTransition hs
    refine ⟨by simp, ?_⟩
    dsimp only [SwapChainState.finishManagedTransition]
    obtain ⟨-, -, -, hm⟩ | ⟨-, -, hm⟩ | ⟨hf, -⟩ | ⟨hf, -⟩ :=
      s.chain.managedColorSpace.finishTransition_cases t true
    · rw [hm]
      exact fun _ => rfl
    · rw [hm]
      exact hlat
    -- every native set succeeds
    · simp at hf
    · simp at hf
  | reapplyAfterReconfiguration =>
    obtain rfl := Option.some.inj hs
    refine ⟨haim, ?_⟩
    dsimp only [SwapChainState.advanceGeneration]
    obtain ⟨-, -, hm⟩ | ⟨-, hm⟩ := s.chain.managedColorSpace.reapplyAfterReconfiguration_cases
    · rw [hm]
      exact hlat
    · rw [hm]
      exact hlat
  | externalSet x =>
    obtain rfl := Option.some.inj hs
    refine ⟨haim, ?_⟩
    dsimp only [SwapChainState.observeSetColorSpace1]
    obtain ⟨-, hm⟩ | ⟨-, -, -, hm⟩ | ⟨-, -, hm⟩ | ⟨_, -, -, hm⟩ :=
      s.chain.managedColorSpace.observeExternalSet_cases x
    · rw [hm]
      exact hlat
    · rw [hm]
      exact hlat
    · rw [hm]
      exact fun _ => rfl
    · rw [hm]
      exact fun _ => rfl

/-- It holds in every state of every interleaving. -/
theorem AimedInv.of_reachable (h : (nativeInterleaving observed actual).Reachable s) :
    AimedInv s := by
  refine h.invariant ?_ fun _ _ _ hI _ hs => hI.step hs
  rintro s rfl
  exact ⟨by simp [initial], by simp [initial]⟩

/-! ### What the spared external sets keep -/

/-- The transition aims away from what is desired: at another color space than PQ while
HDR is desired, at PQ while it is not. -/
def Opposes (t : ManagedColorSpaceTransition) (m : ManagedColorSpaceState) : Prop :=
  if m.desiredHdr then t.targetColorSpace ≠ dxgiColorSpaceRgbFullG2084NoneP2020
  else t.enablingHdr = true

/-- No external set requests what is desired while an opposite transition is about to
make its native set. -/
def ExternalSetSpared (s : NativeState) : NativeAction → Prop
  | .externalSet x => ∀ t r, s.inFlight = some ⟨t, false⟩ →
      s.chain.managedColorSpace.restoreColorSpace = some r →
      x = s.chain.managedColorSpace.expectedColorSpace r →
      ¬ Opposes t s.chain.managedColorSpace
  | _ => True

/-- A desired HDR with nothing pending. -/
def WantsPq (m : ManagedColorSpaceState) : Prop :=
  m.desiredHdr = true ∧ m.transitionPending = false

/-- No HDR desired, with nothing to be begun. -/
def WantsNoPq (m : ManagedColorSpaceState) : Prop :=
  m.desiredHdr = false ∧ (m.transitionPending = false ∨ m.restoreColorSpace = none)

/-- What holds of an unlatched swap chain as long as every external set is spared. -/
structure ShownInv (s : NativeState) : Prop where
  /-- Unless a native set is about to be made, the color space follows the desire. -/
  shown : (∀ t, s.inFlight ≠ some ⟨t, false⟩) →
    (WantsPq s.chain.managedColorSpace →
      s.actualColorSpace = dxgiColorSpaceRgbFullG2084NoneP2020) ∧
    (WantsNoPq s.chain.managedColorSpace → s.lastWriter ≠ .managedEnable)
  /-- A native set that is about to be made will make it so. -/
  flying : ∀ t, s.inFlight = some ⟨t, false⟩ →
    (WantsPq s.chain.managedColorSpace →
      t.targetColorSpace = dxgiColorSpaceRgbFullG2084NoneP2020) ∧
    (WantsNoPq s.chain.managedColorSpace → t.enablingHdr = false)
  /-- After the native set of a restore, PQ is not back. -/
  restored : ∀ t, s.inFlight = some ⟨t, true⟩ → t.enablingHdr = false →
    s.lastWriter ≠ .managedEnable

namespace ShownInv

/-- With a transition pending and a baseline to aim at, nothing is claimed. -/
private theorem not_wants {m : ManagedColorSpaceState} (hp : m.transitionPending = true)
    (hr : m.restoreColorSpace ≠ none) : ¬ WantsPq m ∧ ¬ WantsNoPq m := by
  constructor
  · rintro ⟨-, hp'⟩
    simp [hp] at hp'
  · rintro ⟨-, hp' | hr'⟩
    · simp [hp] at hp'
    · exact hr hr'

/-- A step of the managed state alone that leaves a transition pending. -/
private theorem of_pending (h : ShownInv s) {chain : SwapChainState}
    (hp : chain.managedColorSpace.transitionPending = true)
    (hr : chain.managedColorSpace.restoreColorSpace ≠ none) :
    ShownInv { s with chain := chain } := by
  obtain ⟨hpq, hnpq⟩ := not_wants hp hr
  exact ⟨fun _ => ⟨fun hw => absurd hw hpq, fun hw => absurd hw hnpq⟩,
    fun _ _ => ⟨fun hw => absurd hw hpq, fun hw => absurd hw hnpq⟩, h.restored⟩

/-- A request changes the desire only together with a pending transition. -/
theorem request (h : ShownInv s) (hdr : Bool) :
    ShownInv { s with chain := (s.chain.requestManagedHdrColorSpace hdr).2 } := by
  dsimp only [SwapChainState.requestManagedHdrColorSpace]
  obtain ⟨-, -, hm⟩ | ⟨-, -, -, hm⟩ | ⟨-, -, hr, -, hm⟩ | ⟨-, -, -, -, hm⟩ |
    ⟨-, hr, -, hm⟩ | ⟨-, -, hm⟩ :=
    s.chain.managedColorSpace.request_cases hdr s.chain.observedColorSpace
  · rw [hm]
    exact h
  -- whatever changes the desire leaves a transition pending
  · rw [hm]
    exact h.of_pending rfl (by simp)
  · rw [hm]
    exact h.of_pending rfl hr
  · rw [hm]
    exact h
  · rw [hm]
    exact h.of_pending rfl hr
  · rw [hm]
    exact h

/-- A spared external set leaves the desire shown, unless it latches a conflict. -/
theorem externalSet (h : ShownInv s) (hI : s.toInterleaved.Inv) {x : UInt32}
    (hP : ExternalSetSpared s (.externalSet x))
    (hl' : (s.chain.observeSetColorSpace1 x).2.managedColorSpace.failureLatched = false) :
    ShownInv { s with
      chain := (s.chain.observeSetColorSpace1 x).2
      actualColorSpace := x
      lastWriter := .externalSet } := by
  dsimp only [SwapChainState.observeSetColorSpace1] at hl' ⊢
  obtain ⟨hr, hm⟩ | ⟨hr, hd, rfl, hm⟩ | ⟨hr, hd, hm⟩ | ⟨_, -, -, hm⟩ :=
    s.chain.managedColorSpace.observeExternalSet_cases x
  · -- unmanaged: HDR is not desired
    rw [hm]
    have hd : s.chain.managedColorSpace.desiredHdr = false := by
      by_contra hd
      exact hI.baseline (by simpa [toInterleaved] using hd) hr
    exact ⟨fun _ => ⟨fun hw => absurd (hd.symm.trans hw.1) (by simp), fun _ h => by cases h⟩,
      h.flying, fun _ _ _ h => by cases h⟩
  · -- PQ is confirmed: a transition about to be made aims at it as well
    rw [hm]
    obtain ⟨r, hr⟩ := Option.ne_none_iff_exists'.mp hr
    refine ⟨fun _ => ⟨fun _ => rfl, fun _ h => by cases h⟩, fun t ht => ⟨fun _ => ?_, ?_⟩,
      fun _ _ _ h => by cases h⟩
    · have hno := hP t r ht hr (by simp [ManagedColorSpaceState.expectedColorSpace, hd])
      simpa [Opposes, hd] using hno
    · exact fun hw => absurd (hd.symm.trans hw.1) (by simp)
  · -- the baseline is confirmed: a transition about to be made does not enable
    rw [hm]
    refine ⟨fun _ => ⟨?_, fun _ h => by cases h⟩, fun t ht => ⟨?_, fun _ => ?_⟩,
      fun _ _ _ h => by cases h⟩
    · exact fun hw => absurd (hd.symm.trans hw.1) (by simp)
    · exact fun hw => absurd (hd.symm.trans hw.1) (by simp)
    · have hno := hP t x ht hr (by simp [ManagedColorSpaceState.expectedColorSpace, hd])
      simpa [Opposes, hd] using hno
  · -- a conflict latches
    simp [hm] at hl'

/-- Every spared step shows the desire, unless it latches a failure. -/
theorem step (hI : s.toInterleaved.Inv) (h : ShownInv s)
    (hP : ExternalSetSpared s a) (hs : s.step a = some s')
    (hl' : s'.chain.managedColorSpace.failureLatched = false) : ShownInv s' := by
  cases a with
  | request hdr =>
    obtain rfl := Option.some.inj hs
    exact h.request hdr
  | beginTransition =>
    obtain ⟨hf, rfl⟩ := step_beginTransition hs
    dsimp only [SwapChainState.beginManagedTransition]
    obtain ⟨-, hm⟩ | ⟨r, -, -, -, hm⟩ := s.chain.managedColorSpace.beginTransition_cases
    · rw [hm]
      exact ⟨fun _ => h.shown (by simp [hf]), by simp, by simp⟩
    · -- the transition just begun carries the desire
      rw [hm]
      refine ⟨fun hn => absurd rfl (hn _), ?_, by simp⟩
      intro t ht
      obtain rfl := (InFlight.mk.inj (Option.some.inj ht)).1
      refine ⟨fun hw => ?_, fun hw => hw.1⟩
      have hd : s.chain.managedColorSpace.desiredHdr = true := hw.1
      simp [ManagedColorSpaceState.expectedColorSpace, hd]
  | nativeSet =>
    -- what the transition was about to make so is so now
    obtain ⟨t, hf, rfl⟩ := step_nativeSet hs
    obtain ⟨hpq, hnpq⟩ := h.flying t hf
    refine ⟨fun _ => ⟨hpq, fun hw => ?_⟩, by simp, ?_⟩
    · show t.writer ≠ .managedEnable
      rw [ManagedColorSpaceTransition.writer_of_restoring (hnpq hw)]
      decide
    · intro u hu hen
      obtain rfl := (InFlight.mk.inj (Option.some.inj hu)).1
      show t.writer ≠ .managedEnable
      rw [ManagedColorSpaceTransition.writer_of_restoring hen]
      decide
  | finishTransition =>
    obtain ⟨t, hf, rfl⟩ := step_finishTransition hs
    have hshown := h.shown (by simp [hf])
    refine ⟨fun _ => ?_, by simp, by simp⟩
    dsimp only [SwapChainState.finishManagedTransition]
    obtain ⟨-, -, hen, hm⟩ | ⟨-, -, hm⟩ | ⟨hf', -⟩ | ⟨hf', -⟩ :=
      s.chain.managedColorSpace.finishTransition_cases t true
    · -- the baseline is dropped: the restore itself wrote last
      rw [hm]
      exact ⟨hshown.1, fun _ => h.restored t hf hen⟩
    · rw [hm]
      exact hshown
    · simp at hf'
    · simp at hf'
  | reapplyAfterReconfiguration =>
    obtain rfl := Option.some.inj hs
    dsimp only [SwapChainState.advanceGeneration]
    obtain ⟨hr, -, hm⟩ | ⟨-, hm⟩ := s.chain.managedColorSpace.reapplyAfterReconfiguration_cases
    · rw [hm]
      exact h.of_pending rfl hr
    · rw [hm]
      exact ⟨h.shown, h.flying, h.restored⟩
  | externalSet x =>
    obtain rfl := Option.some.inj hs
    exact h.externalSet hI hP hl'

end ShownInv

/-- A latched failure is never cleared. -/
theorem failureLatched_step (hs : s.step a = some s')
    (hl : s.chain.managedColorSpace.failureLatched = true) :
    s'.chain.managedColorSpace.failureLatched = true := by
  obtain ⟨as, has⟩ := toInterleaved_step 0 hs
  exact InterleavedState.failureLatched_run has hl

/-- The desire is shown along every run of spared steps, until a failure is latched. -/
theorem ShownInv.of_reachableWhere
    (h : (nativeInterleaving observed actual).ReachableWhere ExternalSetSpared s) :
    s.chain.managedColorSpace.failureLatched = false → ShownInv s := by
  -- the latch is never cleared, so before each step it was clear as well
  refine h.invariant_of_reachable
    (I := fun s => s.chain.managedColorSpace.failureLatched = false → ShownInv s) ?_ ?_
  · rintro s rfl -
    exact ⟨fun _ => ⟨by simp [WantsPq, initial], by simp [initial]⟩, by simp [initial],
      by simp [initial]⟩
  · intro s a s' hr hI hP hs hl'
    have hl : s.chain.managedColorSpace.failureLatched = false := by
      by_contra hl
      have := failureLatched_step hs (by simpa using hl)
      simp [hl'] at this
    exact (hI hl).step (inv_of_reachable hr) hP hs hl'

/-- The swap chain shows PQ when HDR is desired, and no managed PQ when it is not. -/
def FollowsDesire (s : NativeState) : Prop :=
  (s.chain.managedColorSpace.desiredHdr = true →
    s.actualColorSpace = dxgiColorSpaceRgbFullG2084NoneP2020) ∧
  (s.chain.managedColorSpace.desiredHdr = false → s.lastWriter ≠ .managedEnable)

/-- An idle swap chain that shows the desire follows it. -/
theorem ShownInv.followsDesire (hI : s.toInterleaved.Inv) (h : ShownInv s)
    (hidle : s.Idle) : s.FollowsDesire := by
  obtain ⟨hf, hp⟩ := hidle
  obtain ⟨hpq, hnpq⟩ := h.shown (by simp [hf])
  constructor
  · -- a desired HDR holds a baseline, so it is idle because nothing is pending
    intro hd
    exact hpq ⟨hd, hp.resolve_right (hI.baseline hd)⟩
  · intro hd
    exact hnpq ⟨hd, hp⟩

/-- The presenting thread makes its native set and finishes, with nothing in between. -/
theorem run_nativeSet_finish (hf : s.inFlight = some ⟨t, false⟩) :
    (nativeInterleaving observed actual).run s [.nativeSet, .finishTransition] =
      some {
        chain := s.chain.finishManagedTransition t true
        actualColorSpace := t.targetColorSpace
        lastWriter := t.writer
        inFlight := none } := by
  -- both steps are possible, since the transition is in flight
  simp [step, hf]

/-- A transition that opposes the desire was begun at another epoch. -/
theorem stale_of_opposes (hI : s.toInterleaved.Inv) (hA : AimedInv s)
    (hf : s.inFlight = some ⟨t, false⟩) {r : UInt32}
    (hr : s.chain.managedColorSpace.restoreColorSpace = some r)
    (hop : Opposes t s.chain.managedColorSpace) :
    t.enablingHdr = !s.chain.managedColorSpace.desiredHdr ∧
      t.requestEpoch ≠ s.chain.managedColorSpace.requestEpoch := by
  have hen : t.enablingHdr = !s.chain.managedColorSpace.desiredHdr := by
    unfold Opposes at hop
    split at hop
    · next hd =>
      by_contra hen
      exact hop (hA.aimed _ hf (by simpa [hd] using hen))
    · next hd =>
      rw [hop]
      simpa using hd
  refine ⟨hen, fun he => ?_⟩
  have ht : t ∈ s.toInterleaved.outstanding := by simp [toInterleaved, hf]
  -- at the current epoch it would carry the current desire
  obtain hcur | hrel := hI.enabling_eq_desired ht he
  · rw [hen] at hcur
    exact absurd hcur (by simp [toInterleaved])
  · exact absurd (hr.symm.trans hrel.1) (by simp)

/-- An external set that is not spared is followed by an idle, unlatched state in which
the swap chain goes against the desire. -/
theorem orphaned_of_not_spared
    (hr : (nativeInterleaving observed actual).Reachable s)
    (hP : ¬ ExternalSetSpared s a) (hs : s.step a = some s') :
    ∃ s'', (nativeInterleaving observed actual).run s' [.nativeSet, .finishTransition] =
        some s'' ∧
      s''.Idle ∧ s''.chain.managedColorSpace.failureLatched = false ∧ ¬ s''.FollowsDesire := by
  obtain ⟨x, rfl⟩ : ∃ x, a = .externalSet x := by
    cases a with
    | externalSet x => exact ⟨x, rfl⟩
    | _ => exact absurd trivial hP
  simp only [ExternalSetSpared, not_forall, not_not] at hP
  obtain ⟨t, r, hf, hrr, hx, hop⟩ := hP
  -- a baseline is held, so nothing is latched
  have hA := AimedInv.of_reachable hr
  have hl : s.chain.managedColorSpace.failureLatched = false := by
    by_contra hl
    have hn := hA.conflicted (by simpa using hl)
    simp [hrr] at hn
  obtain ⟨hen, hstale⟩ := stale_of_opposes (inv_of_reachable hr) hA hf hrr hop
  obtain rfl := Option.some.inj hs
  refine ⟨_, run_nativeSet_finish hf, ?_⟩
  unfold Idle FollowsDesire
  dsimp only [SwapChainState.observeSetColorSpace1, SwapChainState.finishManagedTransition]
  obtain ⟨hn, -⟩ | ⟨-, hd, -, hm⟩ | ⟨-, hd, hm⟩ | ⟨r', hr', hx', -⟩ :=
    s.chain.managedColorSpace.observeExternalSet_cases x
  · exact absurd (hrr.symm.trans hn) (by simp)
  · -- PQ was confirmed, and a stale restore overwrites it
    rw [hm]
    obtain ⟨-, he, -⟩ | ⟨-, -, hm'⟩ | ⟨hf', -⟩ | ⟨hf', -⟩ :=
      ManagedColorSpaceState.finishTransition_cases
        { s.chain.managedColorSpace with transitionPending := false } t true
    · exact absurd he hstale
    · rw [hm']
      refine ⟨⟨rfl, .inl rfl⟩, hl, fun hfd => ?_⟩
      have hne : t.targetColorSpace ≠ dxgiColorSpaceRgbFullG2084NoneP2020 := by
        simpa [Opposes, hd] using hop
      exact hne (hfd.1 hd)
    · simp at hf'
    · simp at hf'
  · -- the baseline was confirmed and dropped, and a stale enable overwrites it
    rw [hm]
    have hen' : t.enablingHdr = true := by simpa [hd] using hen
    obtain ⟨-, he, -⟩ | ⟨-, -, hm'⟩ | ⟨hf', -⟩ | ⟨hf', -⟩ :=
      ManagedColorSpaceState.finishTransition_cases
        { s.chain.managedColorSpace with
          transitionPending := false
          restoreColorSpace := none } t true
    · exact absurd he hstale
    · rw [hm']
      refine ⟨⟨rfl, .inl rfl⟩, hl, fun hfd => ?_⟩
      exact hfd.2 hd (ManagedColorSpaceTransition.writer_of_enabling hen')
    · simp at hf'
    · simp at hf'
  · -- it requests what is expected, so it is no conflict
    rw [hrr] at hr'
    obtain rfl := Option.some.inj hr'
    exact absurd hx hx'

/-- In every idle and unlatched state the swap chain follows the desire — read along the
runs whose steps meet `P`. -/
def NoOrphanedPq (observed actual : UInt32) (P : NativeState → NativeAction → Prop) : Prop :=
  ∀ s, (nativeInterleaving observed actual).ReachableWhere P s → s.Idle →
    s.chain.managedColorSpace.failureLatched = false → s.FollowsDesire

/-- **No orphaned and no missing PQ along spared external sets, and only there.** In every
run in which no external set confirms the desire under an opposite transition that is
about to make its native set, every idle and unlatched state follows the desire; any other
external set leads, by the next two steps of the presenting thread, to an idle and
unlatched state that does not. -/
theorem no_orphaned_pq_iff_spared (observed actual : UInt32) :
    NoOrphanedPq observed actual ExternalSetSpared ∧
    ∀ s a s', (nativeInterleaving observed actual).Reachable s → ¬ ExternalSetSpared s a →
      s.step a = some s' →
      ∃ s'', (nativeInterleaving observed actual).run s' [.nativeSet, .finishTransition] =
          some s'' ∧
        s''.Idle ∧ s''.chain.managedColorSpace.failureLatched = false ∧
        ¬ s''.FollowsDesire := by
  constructor
  -- along spared runs the invariant says so
  · intro s hs hidle hl
    exact (ShownInv.of_reachableWhere hs hl).followsDesire (inv_of_reachable hs.reachable) hidle
  -- anywhere else the presenting thread goes on and orphans its color space
  · intro s a s' hr hP hs
    exact orphaned_of_not_spared hr hP hs

/-- HDR is requested and a Present begins the enable; before its native set, HDR is
withdrawn and another component sets the color space that would have been restored. -/
def orphanedPqTrace : List NativeAction :=
  [.request true, .beginTransition, .request false, .externalSet 0, .nativeSet,
    .finishTransition]

/-- The end of `orphanedPqTrace`: nobody wants HDR, nothing is pending, PQ is shown. -/
def orphanedPqState : NativeState where
  chain :=
    { observedColorSpace := dxgiColorSpaceRgbFullG2084NoneP2020
      managedColorSpace := { requestEpoch := 2 } }
  actualColorSpace := dxgiColorSpaceRgbFullG2084NoneP2020
  lastWriter := .managedEnable
  inFlight := none

/-- After `orphanedPqTrace` a managed PQ stays on a swap chain that is not managed. -/
theorem managed_pq_is_orphaned : ¬ ∀ observed actual,
    NoOrphanedPq observed actual fun _ _ => True := by
  intro h
  -- the trace is run step by step
  have hrun : (nativeInterleaving 0 0).run (.initial 0 0) orphanedPqTrace =
      some orphanedPqState := by
    decide
  have hreach : (nativeInterleaving 0 0).Reachable orphanedPqState :=
    ActionSystem.reachable_of_run rfl hrun
  have hidle : orphanedPqState.Idle := ⟨rfl, .inl rfl⟩
  exact (h 0 0 _ hreach hidle rfl).2 rfl rfl

end NativeState
end Dxgi
end WindowedHdr
