import WindowedHdr.Dxgi.ManagedColorSpace
import WindowedHdr.Library.ActionSystem

/-!
# The managed color-space operations, interleaved

The presenting thread holds the state lock in `beginTransition` and again in
`finishTransition`, and makes the native call between the two without it. Requests,
reconfigurations and external sets of other threads, and Presents of further threads,
can therefore run while a transition is outstanding. `interleaving c₀` is the system of
all these orders on one swap chain whose color space was first observed as `c₀`; a state
lists every transition that was begun and not finished.

Two invariants hold in all of its reachable states and carry the later modules:

* **exclusion** — at most one transition is outstanding. `transitionInProgress` is not
  a faithful lock, since `observeExternalSet` clears it under an outstanding transition;
  but it does so only together with the baseline and with a failure latched, and such a
  `Relinquished` state never begins a transition again;
* **parity** — the desire is the parity of the epoch, and a transition was begun at an
  epoch of its own parity. A transition whose epoch is current therefore carries the
  current desire, also when the 64-bit epoch has wrapped in between.
-/

namespace WindowedHdr
namespace Dxgi

/-! ### Parity of the request epoch -/

/-- The parity of an epoch. -/
def epochParity (epoch : UInt64) : Bool := epoch.toNat % 2 == 1

/-- HDR is not desired at first. -/
@[simp] theorem epochParity_zero : epochParity 0 = false := rfl

/-- Advancing the epoch flips its parity, also when the counter wraps: `2 ^ 64` is even. -/
@[simp] theorem epochParity_succ (epoch : UInt64) :
    epochParity (epoch + 1) = !epochParity epoch := by
  have h : (epoch + 1).toNat % 2 = (epoch.toNat + 1) % 2 := by
    rw [UInt64.toNat_add, UInt64.toNat_one]
    omega
  unfold epochParity
  rw [h]
  -- the two residues change places
  rcases Nat.mod_two_eq_zero_or_one epoch.toNat with h0 | h1
  · simp [Nat.add_mod, h0]
  · simp [Nat.add_mod, h1]

/-! ### The system -/

/-- One swap chain, seen between two critical sections. -/
structure InterleavedState where
  managed : ManagedColorSpaceState
  /-- `SwapChainState::observed_color_space`. -/
  observedColorSpace : UInt32
  /-- The transitions begun and not yet finished. -/
  outstanding : List ManagedColorSpaceTransition
  deriving DecidableEq

/-- One critical section of one thread. -/
inductive ManagedAction
  /-- `request_managed_hdr_color_space`, with the color space it finds observed. -/
  | request (hdr : Bool) (currentColorSpace : UInt32)
  /-- The first half of `apply_managed_color_space_before_present`. -/
  | beginTransition
  /-- The second half, for a transition that is outstanding. -/
  | finishTransition (transition : ManagedColorSpaceTransition) (succeeded : Bool)
  /-- A successful reconfiguration. -/
  | reapplyAfterReconfiguration
  /-- A successful external `SetColorSpace1`. -/
  | externalSet (requestedColorSpace : UInt32)
  deriving DecidableEq

namespace InterleavedState

/-- The effect of one critical section. -/
def step (s : InterleavedState) : ManagedAction → Option InterleavedState
  | .request hdr current => some { s with managed := (s.managed.request hdr current).2 }
  | .beginTransition =>
    let r := s.managed.beginTransition
    some { s with managed := r.2, outstanding := r.1.toList ++ s.outstanding }
  | .finishTransition t succeeded =>
    -- a thread finishes only what it has begun
    if t ∈ s.outstanding then
      some {
        managed := s.managed.finishTransition t succeeded
        observedColorSpace := if succeeded then t.targetColorSpace else s.observedColorSpace
        outstanding := s.outstanding.erase t }
    else
      none
  | .reapplyAfterReconfiguration =>
    some { s with managed := s.managed.reapplyAfterReconfiguration }
  | .externalSet x =>
    some { s with managed := (s.managed.observeExternalSet x).2, observedColorSpace := x }

/-- A swap chain that was just captured. -/
def initial (c₀ : UInt32) : InterleavedState where
  managed := {}
  observedColorSpace := c₀
  outstanding := []

end InterleavedState

/-- All interleavings on one swap chain whose color space is first observed as `c₀`. -/
def interleaving (c₀ : UInt32) : ActionSystem InterleavedState ManagedAction where
  Init s := s = .initial c₀
  step := InterleavedState.step

/-- The steps of the system are those of the state. -/
@[simp] theorem interleaving_step (c₀ : UInt32) (s : InterleavedState) (a : ManagedAction) :
    (interleaving c₀).step s a = s.step a := rfl

/-- Only an outstanding transition is finished. -/
theorem InterleavedState.step_finishTransition {s s' : InterleavedState}
    {t : ManagedColorSpaceTransition} {succeeded : Bool}
    (hs : s.step (.finishTransition t succeeded) = some s') :
    t ∈ s.outstanding ∧ s' =
      { managed := s.managed.finishTransition t succeeded
        observedColorSpace := if succeeded then t.targetColorSpace else s.observedColorSpace
        outstanding := s.outstanding.erase t } := by
  dsimp only [step] at hs
  split at hs
  · next ht => exact ⟨ht, (Option.some.inj hs).symm⟩
  · exact nomatch hs

/-! ### The invariant -/

/-- No baseline is held and none can be captured again. -/
def ManagedColorSpaceState.Relinquished (m : ManagedColorSpaceState) : Prop :=
  m.restoreColorSpace = none ∧ m.failureLatched = true

/-- The invariant of every interleaving. -/
structure InterleavedState.Inv (s : InterleavedState) : Prop where
  /-- At most one transition is outstanding. -/
  exclusive : s.outstanding.length ≤ 1
  /-- An outstanding transition is either flagged or without consequence. -/
  flagged : s.outstanding ≠ [] → s.managed.transitionInProgress = true ∨ s.managed.Relinquished
  /-- HDR is desired only while a baseline is held. -/
  baseline : s.managed.desiredHdr = true → s.managed.restoreColorSpace ≠ none
  /-- The desire is the parity of the epoch. -/
  parity : s.managed.desiredHdr = epochParity s.managed.requestEpoch ∨ s.managed.Relinquished
  /-- A transition carries the parity of its own epoch. -/
  carried : ∀ t ∈ s.outstanding, t.enablingHdr = epochParity t.requestEpoch

namespace InterleavedState
namespace Inv

variable {s s' : InterleavedState} {t : ManagedColorSpaceTransition}

/-- Nothing is outstanding and nothing is desired at first. -/
theorem initial (c₀ : UInt32) : Inv (InterleavedState.initial c₀) where
  exclusive := by simp [InterleavedState.initial]
  flagged h := absurd rfl h
  baseline := by simp [InterleavedState.initial]
  parity := .inl rfl
  carried := by simp [InterleavedState.initial]

/-- An outstanding transition is the only one. -/
theorem outstanding_eq (h : Inv s) (ht : t ∈ s.outstanding) : s.outstanding = [t] := by
  have hlen := h.exclusive
  -- two would be one too many
  match hs : s.outstanding with
  | [] => simp [hs] at ht
  | [u] =>
    rw [hs] at ht
    rw [List.mem_singleton.mp ht]
  | u :: v :: rest => simp [hs] at hlen

/-- A transition whose epoch is current carries the current desire. -/
theorem enabling_eq_desired (h : Inv s) (ht : t ∈ s.outstanding)
    (he : t.requestEpoch = s.managed.requestEpoch) :
    t.enablingHdr = s.managed.desiredHdr ∨ s.managed.Relinquished := by
  rcases h.parity with hp | hr
  · left
    rw [h.carried t ht, hp, he]
  · exact .inr hr

/-- A request keeps the invariant: whenever it changes the desire, it advances the epoch. -/
theorem request (h : Inv s) (hdr : Bool) (current : UInt32) :
    Inv { s with managed := (s.managed.request hdr current).2 } := by
  obtain ⟨hex, hfl, hba, hpa, hca⟩ := h
  obtain ⟨-, -, hm⟩ | ⟨-, hl, hr, hm⟩ | ⟨-, -, hr, hd, hm⟩ | ⟨-, -, -, -, hm⟩ |
    ⟨-, hr, hd, hm⟩ | ⟨-, -, hm⟩ :=
    s.managed.request_cases hdr current <;> rw [hm]
  -- refused
  · exact ⟨hex, hfl, hba, hpa, hca⟩
  · -- a baseline is captured: HDR was not desired before
    have hd : s.managed.desiredHdr = false := by
      by_contra hd
      exact hba (by simpa using hd) hr
    have hnr : ¬ s.managed.Relinquished := fun hrel => by simp [hrel.2] at hl
    refine ⟨hex, fun ho => .inl ((hfl ho).resolve_right hnr), by simp, .inl ?_, hca⟩
    simp [← hpa.resolve_right hnr, hd]
  · -- HDR is armed again: the desire and the epoch's parity flip together
    have hnr : ¬ s.managed.Relinquished := fun hrel => hr hrel.1
    refine ⟨hex, fun ho => .inl ((hfl ho).resolve_right hnr), fun _ => hr, .inl ?_, hca⟩
    simp [← hpa.resolve_right hnr, hd]
  · exact ⟨hex, hfl, hba, hpa, hca⟩
  · -- HDR is withdrawn: they flip back
    have hnr : ¬ s.managed.Relinquished := fun hrel => hr hrel.1
    refine ⟨hex, fun ho => .inl ((hfl ho).resolve_right hnr), by simp, .inl ?_, hca⟩
    simp [← hpa.resolve_right hnr, hd]
  · exact ⟨hex, hfl, hba, hpa, hca⟩

/-- A transition is begun only where none is outstanding. -/
theorem beginTransition (h : Inv s) (hs : s.step .beginTransition = some s') : Inv s' := by
  simp only [step, Option.some.injEq] at hs
  subst hs
  obtain ⟨hex, hfl, hba, hpa, hca⟩ := h
  obtain ⟨-, hm⟩ | ⟨r, -, hip, hr, hm⟩ :=
    s.managed.beginTransition_cases <;> rw [hm]
  · exact ⟨hex, hfl, hba, hpa, hca⟩
  · -- nothing was outstanding: the flag was clear and a baseline is held
    have hnr : ¬ s.managed.Relinquished := fun hrel => by simp [hrel.1] at hr
    have hnil : s.outstanding = [] := by
      by_contra hne
      rcases hfl hne with hflag | hrel
      · simp [hip] at hflag
      · exact hnr hrel
    have hp := hpa.resolve_right hnr
    refine ⟨by simp [hnil], fun _ => .inl rfl, hba, .inl hp, ?_⟩
    simp [hnil, hp]

/-- A finish keeps the invariant: nothing is outstanding then, and a desire is withdrawn together
with an advance of the epoch. -/
theorem finishTransition (h : Inv s) {succeeded : Bool}
    (hs : s.step (.finishTransition t succeeded) = some s') : Inv s' := by
  obtain ⟨ht, rfl⟩ := step_finishTransition hs
  -- exclusion: nothing is outstanding after the finish
  have hnil : s.outstanding.erase t = [] := by simp [h.outstanding_eq ht]
  have hcur := h.enabling_eq_desired ht
  obtain ⟨-, -, hba, hpa, -⟩ := h
  obtain ⟨-, he, hen, hm⟩ | ⟨-, -, hm⟩ | ⟨-, he, hen, hm⟩ | ⟨-, -, hm⟩ :=
    s.managed.finishTransition_cases t succeeded <;> rw [hm] <;>
    refine ⟨by simp [hnil], by simp [hnil], ?_, ?_, by simp [hnil]⟩
  · -- the baseline is dropped at the current epoch, so HDR is not desired
    intro hd
    rcases hcur he with heq | hrel
    · simp only at hd
      simp [hen, hd] at heq
    · exact absurd hrel.1 (hba hd)
  -- who had given up a baseline has still given it up
  · exact hpa.imp_right fun hrel => ⟨rfl, hrel.2⟩
  · exact hba
  · exact hpa
  · simp
  · -- a failed enable at the current epoch: the desire is withdrawn and the epoch advances
    rcases hcur he with heq | hrel
    · rcases hpa with hp | hrel
      · left
        simp [← hp, ← heq, hen]
      · exact .inr ⟨hrel.1, rfl⟩
    · exact .inr ⟨hrel.1, rfl⟩
  · exact hba
  · exact hpa.imp_right fun hrel => ⟨hrel.1, rfl⟩

/-- A reconfiguration touches nothing of it. -/
theorem reapplyAfterReconfiguration (h : Inv s) :
    Inv { s with managed := s.managed.reapplyAfterReconfiguration } := by
  obtain ⟨hex, hfl, hba, hpa, hca⟩ := h
  obtain ⟨-, -, hm⟩ | ⟨-, hm⟩ :=
    s.managed.reapplyAfterReconfiguration_cases <;> rw [hm] <;> exact ⟨hex, hfl, hba, hpa, hca⟩

/-- An external set keeps the invariant, also where it clears the flag. -/
theorem externalSet (h : Inv s) (x : UInt32) :
    Inv { s with
      managed := (s.managed.observeExternalSet x).2
      observedColorSpace := x } := by
  obtain ⟨hex, hfl, hba, hpa, hca⟩ := h
  obtain ⟨-, hm⟩ | ⟨-, -, -, hm⟩ | ⟨hr, hd, hm⟩ | ⟨r, -, -, hm⟩ :=
    s.managed.observeExternalSet_cases x <;> rw [hm]
  · exact ⟨hex, hfl, hba, hpa, hca⟩
  · exact ⟨hex, hfl, hba, hpa, hca⟩
  · -- the baseline is dropped while HDR is not desired
    have hnr : ¬ s.managed.Relinquished := fun hrel => by simp [hrel.1] at hr
    exact ⟨hex, fun ho => .inl ((hfl ho).resolve_right hnr), by simp [hd],
      .inl (hpa.resolve_right hnr), hca⟩
  · -- a conflict clears the flag, and relinquishes in the same critical section
    exact ⟨hex, fun _ => .inr ⟨rfl, rfl⟩, by simp, .inr ⟨rfl, rfl⟩, hca⟩

/-- **Invariant preservation.** Every critical section carries the invariant. -/
theorem step (h : Inv s) {a : ManagedAction} (hs : s.step a = some s') : Inv s' := by
  cases a with
  | request hdr current =>
    obtain rfl := Option.some.inj hs
    exact h.request hdr current
  | beginTransition => exact h.beginTransition hs
  | finishTransition t succeeded => exact h.finishTransition hs
  | reapplyAfterReconfiguration =>
    obtain rfl := Option.some.inj hs
    exact h.reapplyAfterReconfiguration
  | externalSet x =>
    obtain rfl := Option.some.inj hs
    exact h.externalSet x

/-- The invariant holds in every state of every interleaving. -/
theorem of_reachable {c₀ : UInt32} (h : (interleaving c₀).Reachable s) : Inv s :=
  h.invariant (fun _ h₀ => h₀ ▸ initial c₀) fun _ _ _ hI _ hs => hI.step hs

end Inv

/-! ### The latch -/

variable {s s' : InterleavedState} {a : ManagedAction}

/-- A latched failure is never cleared. -/
theorem failureLatched_step (hs : s.step a = some s')
    (hl : s.managed.failureLatched = true) : s'.managed.failureLatched = true := by
  cases a with
  | finishTransition t succeeded =>
    obtain ⟨-, rfl⟩ := step_finishTransition hs
    simp [hl]
  -- the other operations say themselves what they do to the latch
  | _ =>
    obtain rfl := Option.some.inj hs
    simp [hl]

/-- A failure that is latched at the start of a run is latched at its end. -/
theorem failureLatched_run {c₀ : UInt32} {as : List ManagedAction}
    (hr : (interleaving c₀).run s as = some s') (hl : s.managed.failureLatched = true) :
    s'.managed.failureLatched = true := by
  induction as generalizing s with
  | nil =>
    obtain rfl := Option.some.inj hr
    exact hl
  | cons a as ih =>
    rw [ActionSystem.run_cons, Option.bind_eq_some_iff] at hr
    obtain ⟨u, hu, hr⟩ := hr
    exact ih hr (failureLatched_step hu hl)

end InterleavedState

end Dxgi
end WindowedHdr
