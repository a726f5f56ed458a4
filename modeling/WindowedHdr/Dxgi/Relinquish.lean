import WindowedHdr.Dxgi.Interleaving

/-!
# What a failure leaves

Two facts about the continuations of a swap chain on which something went wrong.

* A conflicting external set gives the swap chain away (`GivenAway`), and nothing takes it
  back. The conflict clears `transitionInProgress` also under a transition that is still
  outstanding; when that one finishes it may latch once more, or even schedule a
  restoration, but without a baseline nothing is ever begun again.
* After any other failure there is a baseline to restore and perhaps a desire that
  outlived the failure. `retryBudget` counts what can still be begun: one transition for
  the pending flag, and one for the desire, whose withdrawal or failure schedules a
  restoration. Every operation respects it once the failure is latched, because only a
  desired enable can fail at the current epoch (`Inv.enabling_eq_desired`).

Neither needs a bound on the number of requests: the epoch may wrap.
-/

namespace WindowedHdr
namespace Dxgi
namespace InterleavedState

variable {s s' u : InterleavedState} {a : ManagedAction} {c₀ : UInt32}

/-! ### A conflict is final -/

/-- No baseline, no desire, and a failure latched. -/
structure GivenAway (m : ManagedColorSpaceState) : Prop where
  unheld : m.restoreColorSpace = none
  undesired : m.desiredHdr = false
  latched : m.failureLatched = true

namespace GivenAway

variable {m : ManagedColorSpaceState}

/-- The conflict gives the swap chain away. -/
theorem of_conflict {x : UInt32} (hx : (m.observeExternalSet x).1 = true) :
    GivenAway (m.observeExternalSet x).2 := by
  obtain ⟨-, hm⟩ | ⟨-, -, -, hm⟩ | ⟨-, -, hm⟩ | ⟨_, -, -, hm⟩ := m.observeExternalSet_cases x
  · simp [hm] at hx
  · simp [hm] at hx
  · simp [hm] at hx
  · rw [hm]
    exact ⟨rfl, rfl, rfl⟩

/-- An enable is refused, and there is nothing to withdraw. -/
theorem request_eq (h : GivenAway m) (hdr : Bool) (current : UInt32) :
    m.request hdr current = (!hdr, m) := by
  cases hdr with
  | true => simp [ManagedColorSpaceState.request, h.latched]
  | false => simp [ManagedColorSpaceState.request, h.unheld]

/-- Nothing is begun without a baseline. -/
theorem beginTransition_eq (h : GivenAway m) : m.beginTransition = (none, m) := by
  obtain ⟨-, hm⟩ | ⟨restore, -, -, hr, -⟩ := m.beginTransition_cases
  · exact hm
  · exact absurd (h.unheld.symm.trans hr) (by simp)

/-- The late finish of any transition, also of a failed enable at the current epoch. -/
theorem finishTransition (h : GivenAway m) (t : ManagedColorSpaceTransition)
    (succeeded : Bool) : GivenAway (m.finishTransition t succeeded) := by
  obtain ⟨-, -, -, hm⟩ | ⟨-, -, hm⟩ | ⟨-, -, -, hm⟩ | ⟨-, -, hm⟩ :=
    m.finishTransition_cases t succeeded
  · rw [hm]
    exact ⟨rfl, h.undesired, h.latched⟩
  · rw [hm]
    exact ⟨h.unheld, h.undesired, h.latched⟩
  · -- a restoration is scheduled, of a baseline that is gone
    rw [hm]
    exact ⟨h.unheld, rfl, rfl⟩
  · rw [hm]
    exact ⟨h.unheld, h.undesired, rfl⟩

/-- Without a baseline a reconfiguration has nothing to submit again. -/
theorem reapplyAfterReconfiguration_eq (h : GivenAway m) :
    m.reapplyAfterReconfiguration = m := by
  simp [ManagedColorSpaceState.reapplyAfterReconfiguration, h.unheld]

/-- Without a baseline every external set passes by. -/
theorem observeExternalSet_eq (h : GivenAway m) (x : UInt32) :
    m.observeExternalSet x = (false, m) := by
  simp [ManagedColorSpaceState.observeExternalSet, h.unheld]

/-- No critical section takes the swap chain back, and none adds an outstanding
transition. -/
theorem step (h : GivenAway s.managed) (hs : s.step a = some s') :
    GivenAway s'.managed ∧ s'.outstanding ⊆ s.outstanding := by
  -- only a finish changes anything, and it takes its transition away
  cases a with
  | request hdr current =>
    obtain rfl := Option.some.inj hs
    rw [h.request_eq hdr current]
    exact ⟨h, List.Subset.refl _⟩
  -- without a baseline nothing is begun
  | beginTransition =>
    obtain rfl := Option.some.inj hs
    rw [h.beginTransition_eq]
    exact ⟨h, List.Subset.refl _⟩
  | finishTransition t succeeded =>
    obtain ⟨-, rfl⟩ := step_finishTransition hs
    exact ⟨h.finishTransition t succeeded, List.erase_subset⟩
  | reapplyAfterReconfiguration =>
    obtain rfl := Option.some.inj hs
    rw [h.reapplyAfterReconfiguration_eq]
    exact ⟨h, List.Subset.refl _⟩
  | externalSet x =>
    obtain rfl := Option.some.inj hs
    rw [h.observeExternalSet_eq x]
    exact ⟨h, List.Subset.refl _⟩

/-- Neither does any continuation. -/
theorem leadsTo (h : GivenAway s.managed)
    (hl : (interleaving c₀).LeadsToWhere (fun _ _ => True) s u) :
    GivenAway u.managed ∧ u.outstanding ⊆ s.outstanding := by
  refine hl.stable (I := fun v => GivenAway v.managed ∧ v.outstanding ⊆ s.outstanding) ?_
    ⟨h, List.Subset.refl _⟩
  rintro v a v' ⟨hg, ho⟩ - hs
  obtain ⟨hg', ho'⟩ := hg.step hs
  exact ⟨hg', List.Subset.trans ho' ho⟩

end GivenAway

/-- **A conflict is final.** When an external set conflicts in any state, every
continuation keeps the baseline dropped, the desire withdrawn and the failure latched; it
refuses every enable and begins no transition, so that only what was outstanding at the
conflict is ever finished. -/
theorem conflict_is_final (c₀ : UInt32) (s s' u : InterleavedState) (x : UInt32)
    (hx : (s.managed.observeExternalSet x).1 = true)
    (hstep : s.step (.externalSet x) = some s')
    (hu : (interleaving c₀).LeadsToWhere (fun _ _ => True) s' u) :
    u.managed.restoreColorSpace = none ∧ u.managed.desiredHdr = false ∧
      u.managed.failureLatched = true ∧
      (∀ current, (u.managed.request true current).1 = false) ∧
      u.managed.beginTransition.1 = none ∧ u.outstanding ⊆ s.outstanding := by
  obtain rfl := Option.some.inj hstep
  -- the conflict itself leaves the outstanding transitions alone
  obtain ⟨hg, ho⟩ := (GivenAway.of_conflict hx).leadsTo
    (s := { s with
      managed := (s.managed.observeExternalSet x).2
      observedColorSpace := x }) hu
  -- what was given away is refused
  refine ⟨hg.unheld, hg.undesired, hg.latched, fun current => ?_, ?_, ho⟩
  · rw [hg.request_eq true current]
    rfl
  · rw [hg.beginTransition_eq]

/-- An enable is outstanding when another component sets the SDR color space back. -/
def conflictState : InterleavedState where
  managed :=
    { restoreColorSpace := some 0
      desiredHdr := true
      transitionInProgress := true
      requestEpoch := 1 }
  observedColorSpace := 0
  outstanding := [⟨dxgiColorSpaceRgbFullG2084NoneP2020, true, 1⟩]

/-- The conflict of `conflictState`, after which the outstanding enable fails. -/
theorem conflict_is_final_late_failure :
    ∃ u, (interleaving 0).run (.initial 0)
        [.request true 0, .beginTransition, .externalSet 1,
          .finishTransition ⟨dxgiColorSpaceRgbFullG2084NoneP2020, true, 1⟩ false] = some u ∧
      u.managed.beginTransition.1 = none ∧ u.managed.failureLatched = true := by
  refine ⟨_, rfl, ?_⟩
  obtain ⟨-, -, hl, -, hb, -⟩ := conflict_is_final 0 conflictState _ _ 1 rfl rfl
    (.tail .refl ⟨.finishTransition ⟨dxgiColorSpaceRgbFullG2084NoneP2020, true, 1⟩ false,
      trivial, rfl⟩)
  exact ⟨hb, hl⟩

/-! ### The retry budget -/

/-- The transitions that can still be begun once a failure is latched. -/
def retryBudget (m : ManagedColorSpaceState) : Nat :=
  if m.restoreColorSpace.isNone then 0
  else m.transitionPending.toNat + m.desiredHdr.toNat

/-- At most a pending transition and the restoration behind it are left. -/
theorem retryBudget_le_two (m : ManagedColorSpaceState) : retryBudget m ≤ 2 := by
  have hp := Bool.toNat_le m.transitionPending
  have hd := Bool.toNat_le m.desiredHdr
  unfold retryBudget
  split
  · exact Nat.zero_le _
  · omega

/-- Without a baseline the budget is spent. -/
theorem retryBudget_of_unheld {m : ManagedColorSpaceState} (h : m.restoreColorSpace = none) :
    retryBudget m = 0 := by
  simp [retryBudget, h]

/-- With a baseline the budget counts what is pending and what is desired. -/
theorem retryBudget_of_held {m : ManagedColorSpaceState} (h : m.restoreColorSpace ≠ none) :
    retryBudget m = m.transitionPending.toNat + m.desiredHdr.toNat := by
  obtain ⟨r, hr⟩ := Option.ne_none_iff_exists'.mp h
  simp [retryBudget, hr]

/-- The step is a call of `begin_transition` that returns a transition. -/
def handsOut (s : InterleavedState) : ManagedAction → Bool
  | .beginTransition => s.managed.beginTransition.1.isSome
  | _ => false

/-- **The budget pays for every transition.** In a reachable state with the failure
latched, a critical section that hands out a transition lowers the budget, and no other
raises it. -/
theorem retryBudget_step (hI : Inv s) (hl : s.managed.failureLatched = true)
    (hs : s.step a = some s') :
    (handsOut s a).toNat + retryBudget s'.managed ≤ retryBudget s.managed := by
  cases a with
  | request hdr current =>
    obtain rfl := Option.some.inj hs
    dsimp only [handsOut]
    obtain ⟨-, -, hm⟩ | ⟨-, hl', -⟩ | ⟨-, hl', -⟩ | ⟨-, hl', -⟩ | ⟨-, hr, hd, hm⟩ | ⟨-, -, hm⟩ :=
      s.managed.request_cases hdr current
    · simp [hm]
    · simp [hl] at hl'
    · simp [hl] at hl'
    · simp [hl] at hl'
    · -- a withdrawal exchanges the desire for a pending restoration
      rw [hm, retryBudget_of_held hr, retryBudget_of_held (by exact hr), hd]
      simp
    · simp [hm]
  | beginTransition =>
    obtain rfl := Option.some.inj hs
    dsimp only [handsOut]
    obtain ⟨-, hm⟩ | ⟨r, hp, -, hr, hm⟩ := s.managed.beginTransition_cases
    · simp [hm]
    · -- what is handed out was pending
      have hheld : s.managed.restoreColorSpace ≠ none := by simp [hr]
      rw [hm, retryBudget_of_held hheld, retryBudget_of_held (by exact hheld), hp]
      simp
  | finishTransition t succeeded =>
    obtain ⟨ht, rfl⟩ := step_finishTransition hs
    dsimp only [handsOut]
    obtain ⟨-, -, -, hm⟩ | ⟨-, -, hm⟩ | ⟨-, he, hen, hm⟩ | ⟨-, -, hm⟩ :=
      s.managed.finishTransition_cases t succeeded
    · rw [hm, retryBudget_of_unheld rfl]
      simp
    · simp [hm, retryBudget]
    · -- a failed enable schedules a restoration, and withdraws the desire for it
      rw [hm]
      by_cases hr : s.managed.restoreColorSpace = none
      · rw [retryBudget_of_unheld hr, retryBudget_of_unheld (by exact hr)]
        simp
      · have hd : s.managed.desiredHdr = true := by
          rcases hI.enabling_eq_desired ht he with heq | hrel
          · rw [← heq, hen]
          · exact absurd hrel.1 hr
        rw [retryBudget_of_held hr, retryBudget_of_held (by exact hr), hd]
        simp
    · simp [hm, retryBudget]
  | reapplyAfterReconfiguration =>
    obtain rfl := Option.some.inj hs
    dsimp only [handsOut]
    obtain ⟨-, hl', -⟩ | ⟨-, hm⟩ := s.managed.reapplyAfterReconfiguration_cases
    · -- a latched chain is not made pending again
      simp [hl] at hl'
    · simp [hm]
  | externalSet x =>
    obtain rfl := Option.some.inj hs
    dsimp only [handsOut]
    -- an external set cancels what is pending, or drops the baseline
    obtain ⟨-, hm⟩ | ⟨hr, -, -, hm⟩ | ⟨-, -, hm⟩ | ⟨_, -, -, hm⟩ :=
      s.managed.observeExternalSet_cases x
    · simp [hm]
    · rw [hm, retryBudget_of_held hr, retryBudget_of_held (by exact hr)]
      simp
    · rw [hm, retryBudget_of_unheld rfl]
      simp
    · rw [hm, retryBudget_of_unheld rfl]
      simp

/-- **No unbounded retry.** From a reachable state with the failure latched, a run of any
length begins at most two more transitions. -/
theorem at_most_two_retries (c₀ : UInt32) (s s' : InterleavedState) (as : List ManagedAction)
    (hs : (interleaving c₀).Reachable s) (hl : s.managed.failureLatched = true)
    (hr : (interleaving c₀).run s as = some s') :
    (interleaving c₀).countSteps handsOut s as ≤ 2 := by
  -- the budget at the start pays for the whole run
  have hbudget : (interleaving c₀).countSteps handsOut s as ≤ retryBudget s.managed := by
    refine ActionSystem.countSteps_le
      (I := fun s => Inv s ∧ s.managed.failureLatched = true)
      (fun s => retryBudget s.managed) ?_ ⟨.of_reachable hs, hl⟩ hr
    rintro s a s' ⟨hI, hl⟩ hs
    exact ⟨⟨hI.step hs, failureLatched_step hs hl⟩, retryBudget_step hI hl hs⟩
  exact Nat.le_trans hbudget (retryBudget_le_two s.managed)

/-- A failure is latched while HDR, withdrawn and requested again, is pending. -/
def survivingDesireState : InterleavedState where
  managed :=
    { restoreColorSpace := some 0
      desiredHdr := true
      transitionPending := true
      failureLatched := true
      requestEpoch := 3 }
  observedColorSpace := 0
  outstanding := []

/-- The surviving desire is begun and fails, the restoration it schedules fails as well,
and nothing is left to begin. -/
def exhaustingRetries : List ManagedAction :=
  [.beginTransition,
    .finishTransition ⟨dxgiColorSpaceRgbFullG2084NoneP2020, true, 3⟩ false,
    .beginTransition, .finishTransition ⟨0, false, 4⟩ false,
    .request false 0, .reapplyAfterReconfiguration, .beginTransition]

/-- A run that spends the whole budget. -/
theorem at_most_two_retries_exhausted :
    (interleaving 0).countSteps handsOut survivingDesireState exhaustingRetries = 2 := by
  have hrun : (interleaving 0).run (.initial 0)
      [.request true 0, .beginTransition, .request false 0, .request true 0,
        .finishTransition ⟨dxgiColorSpaceRgbFullG2084NoneP2020, true, 1⟩ false] =
      some survivingDesireState := rfl
  have hle := at_most_two_retries 0 survivingDesireState _ exhaustingRetries
    (ActionSystem.reachable_of_run rfl hrun) rfl rfl
  exact Nat.le_antisymm hle (by decide)

end InterleavedState
end Dxgi
end WindowedHdr
