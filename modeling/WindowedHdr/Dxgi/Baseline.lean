import WindowedHdr.Dxgi.Interleaving

/-!
# Exact restoration of the baseline

On a swap chain on which nobody else calls `SetColorSpace1`, the value to restore is
always the color space observed before HDR was first requested, through any number of
HDR episodes, failures, reconfigurations and interleavings. A managed PQ is never
captured as a baseline because a baseline is captured only while none is held, and then
(`BaselineInv.unheld`) nothing is outstanding and the observed color space is the
original one.

While no managed set has failed, the swap chain also settles (`Settled`): with nothing
outstanding and nothing pending, it shows PQ exactly when HDR is desired.

The epoch may wrap; the parity carried by `InterleavedState.Inv` is all that is used of
it, so no bound on the number of requests is needed.

Both invariants are kept step by step, with one case for each action: what a request does is
read off `request_cases`, and what a finished transition leaves off `finishTransition_cases`.
The condition of the runs, that nobody else sets the color space (`ManagedOnly`), is used at one
step only, the external set; and the condition that no managed set fails
(`ManagedWithoutFailure`) only where `Settled` needs a finished transition to have had an
effect. `baseline_restored_exactly` collects what the two invariants say of a reachable state.
-/

namespace WindowedHdr
namespace Dxgi
namespace InterleavedState

variable {s s' : InterleavedState} {a : ManagedAction} {c₀ : UInt32}

/-- The steps of a swap chain nobody else manages: a request reads the observed color
space, and there is no external set. -/
def ManagedOnly (s : InterleavedState) : ManagedAction → Prop
  | .request _ current => current = s.observedColorSpace
  | .externalSet _ => False
  | _ => True

/-- As `ManagedOnly`, and every managed set succeeds. -/
def ManagedWithoutFailure (s : InterleavedState) (a : ManagedAction) : Prop :=
  ManagedOnly s a ∧ ∀ t, a ≠ .finishTransition t false

/-- The color space a transition of a swap chain with baseline `c₀` aims at. -/
def transitionTarget (c₀ : UInt32) (enablingHdr : Bool) : UInt32 :=
  if enablingHdr then dxgiColorSpaceRgbFullG2084NoneP2020 else c₀

/-- What holds of the baseline on a swap chain nobody else manages. -/
structure BaselineInv (c₀ : UInt32) (s : InterleavedState) : Prop extends Inv s where
  /-- No other value than `c₀` is held. -/
  held : s.managed.restoreColorSpace = none ∨ s.managed.restoreColorSpace = some c₀
  /-- Without a baseline nothing is outstanding and the original color space is back. -/
  unheld : s.managed.restoreColorSpace = none →
    s.outstanding = [] ∧ s.observedColorSpace = c₀
  /-- Every transition aims at PQ or at `c₀`. -/
  target : ∀ t ∈ s.outstanding, t.targetColorSpace = transitionTarget c₀ t.enablingHdr

namespace BaselineInv

/-- No baseline is held at first, and the original color space is observed. -/
theorem initial (c₀ : UInt32) : BaselineInv c₀ (InterleavedState.initial c₀) where
  toInv := .initial c₀
  held := .inl rfl
  unheld _ := ⟨rfl, rfl⟩
  target := by simp [InterleavedState.initial]

/-- The color space expected under a held baseline. -/
theorem expected_eq (h : BaselineInv c₀ s) {r : UInt32}
    (hr : s.managed.restoreColorSpace = some r) :
    s.managed.expectedColorSpace r = transitionTarget c₀ s.managed.desiredHdr := by
  -- only the original color space is ever held
  have hrc : r = c₀ := by
    rcases h.held with hn | hc
    · simp [hr] at hn
    · exact Option.some.inj (hr.symm.trans hc)
  subst hrc
  rfl

/-- Every step of a swap chain that nobody else manages keeps the baseline. -/
theorem step (h : BaselineInv c₀ s) (hP : ManagedOnly s a) (hs : s.step a = some s') :
    BaselineInv c₀ s' := by
  have hInv := h.toInv.step hs
  obtain ⟨hI, hheld, hun, htg⟩ := h
  cases a with
  | request hdr current =>
    obtain rfl := Option.some.inj hs
    refine ⟨hInv, ?_, ?_, htg⟩
    · dsimp only
      obtain ⟨-, -, hm⟩ | ⟨-, -, hr, hm⟩ | ⟨-, -, -, -, hm⟩ | ⟨-, -, -, -, hm⟩ |
        ⟨-, -, -, hm⟩ | ⟨-, -, hm⟩ := s.managed.request_cases hdr current
      · rw [hm]
        exact hheld
      · -- the capture: what is observed is still the original color space
        rw [hm]
        right
        change some current = some c₀
        rw [show current = s.observedColorSpace from hP, (hun hr).2]
      -- any other request keeps what is held
      all_goals
        rw [hm]
        exact hheld
    · dsimp only
      obtain ⟨-, -, hm⟩ | ⟨-, -, -, hm⟩ | ⟨-, -, -, -, hm⟩ | ⟨-, -, -, -, hm⟩ |
        ⟨-, -, -, hm⟩ | ⟨-, -, hm⟩ := s.managed.request_cases hdr current
      · rw [hm]
        exact hun
      · -- after the capture a baseline is held
        rw [hm]
        exact fun hn => absurd hn (by simp)
      all_goals
        rw [hm]
        exact hun
  | beginTransition =>
    obtain rfl := Option.some.inj hs
    obtain ⟨-, hm⟩ | ⟨r, -, -, hr, hm⟩ := s.managed.beginTransition_cases
    · rw [hm] at hInv ⊢
      exact ⟨hInv, hheld, hun, htg⟩
    · -- what is begun aims at the held baseline or at PQ
      rw [hm] at hInv ⊢
      refine ⟨hInv, hheld, fun hn => absurd (hr.symm.trans hn) (by simp), ?_⟩
      intro t ht
      rcases List.mem_append.mp ht with ht | ht
      · obtain rfl : t = _ := by simpa using ht
        exact expected_eq ⟨hI, hheld, hun, htg⟩ hr
      · exact htg t ht
  | finishTransition t succeeded =>
    obtain ⟨ht, rfl⟩ := step_finishTransition hs
    -- something was outstanding, so a baseline was held
    have hsome : s.managed.restoreColorSpace ≠ none := by
      intro hn
      rw [(hun hn).1] at ht
      exact absurd ht (by simp)
    have hnil : s.outstanding.erase t = [] := by simp [hI.outstanding_eq ht]
    obtain ⟨rfl, -, hen, hm⟩ | ⟨-, -, hm⟩ | ⟨-, -, -, hm⟩ | ⟨-, -, hm⟩ :=
      s.managed.finishTransition_cases t succeeded
    · -- the baseline is dropped by a successful restore, which just wrote `c₀`
      rw [hm] at hInv ⊢
      refine ⟨hInv, .inl rfl, fun _ => ⟨hnil, ?_⟩, by simp [hnil]⟩
      change t.targetColorSpace = c₀
      rw [htg t ht, hen]
      rfl
    -- any other finish keeps the baseline
    all_goals
      rw [hm] at hInv ⊢
      exact ⟨hInv, hheld, fun hn => absurd hn hsome, by simp [hnil]⟩
  | reapplyAfterReconfiguration =>
    obtain rfl := Option.some.inj hs
    obtain ⟨-, -, hm⟩ | ⟨-, hm⟩ := s.managed.reapplyAfterReconfiguration_cases
    · rw [hm] at hInv ⊢
      exact ⟨hInv, hheld, hun, htg⟩
    · rw [hm] at hInv ⊢
      exact ⟨hInv, hheld, hun, htg⟩
  | externalSet x => exact absurd hP id

/-- The baseline is right after every run of such steps. -/
theorem of_reachableWhere (h : (interleaving c₀).ReachableWhere ManagedOnly s) :
    BaselineInv c₀ s :=
  h.invariant (fun _ h₀ => h₀ ▸ initial c₀) fun _ _ _ hI hP hs => hI.step hP hs

end BaselineInv

/-- What holds as long as no managed set has failed. -/
structure Settled (s : InterleavedState) : Prop where
  /-- Nothing is latched. -/
  unlatched : s.managed.failureLatched = false
  /-- With nothing outstanding and nothing pending, the display follows the desire. -/
  shown : s.outstanding = [] → s.managed.transitionPending = false →
    if s.managed.desiredHdr then s.observedColorSpace = dxgiColorSpaceRgbFullG2084NoneP2020
    else s.managed.restoreColorSpace = none
  /-- An outstanding transition that nothing has overtaken is at the current epoch. -/
  current : ∀ t ∈ s.outstanding, s.managed.transitionPending = false →
    t.requestEpoch = s.managed.requestEpoch

namespace Settled

/-- Nothing is desired at first. -/
theorem initial (c₀ : UInt32) : Settled (InterleavedState.initial c₀) where
  unlatched := rfl
  shown _ _ := rfl
  current := by simp [InterleavedState.initial]

/-- A state with a pending transition is settled trivially. -/
theorem of_pending (hl : s.managed.failureLatched = false)
    (hp : s.managed.transitionPending = true) : Settled s where
  unlatched := hl
  shown _ hp' := by simp [hp] at hp'
  current _ _ hp' := by simp [hp] at hp'

/-- Every step keeps the swap chain settled, as long as no managed set fails. -/
theorem step (hB : BaselineInv c₀ s) (h : Settled s) (hP : ManagedWithoutFailure s a)
    (hs : s.step a = some s') : Settled s' := by
  obtain ⟨hPm, hPf⟩ := hP
  -- every request that changes the desire leaves a transition pending
  obtain ⟨hl, hsh, hcu⟩ := h
  cases a with
  | request hdr current =>
    obtain rfl := Option.some.inj hs
    obtain ⟨-, -, hm⟩ | ⟨-, -, -, hm⟩ | ⟨-, -, -, -, hm⟩ | ⟨-, -, -, -, hm⟩ |
      ⟨-, -, -, hm⟩ | ⟨-, -, hm⟩ := s.managed.request_cases hdr current
    · rw [hm]
      exact ⟨hl, hsh, hcu⟩
    · rw [hm]
      exact of_pending hl rfl
    · rw [hm]
      exact of_pending hl rfl
    · rw [hm]
      exact ⟨hl, hsh, hcu⟩
    · rw [hm]
      exact of_pending hl rfl
    · rw [hm]
      exact ⟨hl, hsh, hcu⟩
  | beginTransition =>
    obtain rfl := Option.some.inj hs
    obtain ⟨-, hm⟩ | ⟨r, hp, hip, hr, hm⟩ := s.managed.beginTransition_cases
    · rw [hm]
      exact ⟨hl, hsh, hcu⟩
    · rw [hm]
      refine ⟨hl, fun hn => absurd hn (by simp), fun t ht _ => ?_⟩
      -- the flag was clear, so the transition just begun is the only one
      have hnil : s.outstanding = [] := by
        by_contra hne
        rcases hB.flagged hne with hflag | hrel
        · simp [hip] at hflag
        · simp [hrel.1] at hr
      obtain rfl : t = _ := by simpa [hnil] using ht
      rfl
  | finishTransition t succeeded =>
    cases succeeded with
    | false => exact absurd rfl (hPf t)
    | true =>
      obtain ⟨ht, rfl⟩ := step_finishTransition hs
      have hnil : s.outstanding.erase t = [] := by simp [hB.outstanding_eq ht]
      -- a transition nothing has overtaken carries the current desire
      have hen : s.managed.transitionPending = false →
          t.enablingHdr = s.managed.desiredHdr := by
        intro hp
        refine (hB.enabling_eq_desired ht (hcu t ht hp)).resolve_right fun hrel => ?_
        exact absurd hrel.2 (by simp [hl])
      refine ⟨by simp [hl], fun _ => ?_, by simp [hnil]⟩
      dsimp only
      obtain ⟨-, he, hen', hm⟩ | ⟨-, hne, hm⟩ | ⟨hf, -⟩ | ⟨hf, -⟩ :=
        s.managed.finishTransition_cases t true
      · -- a restore: HDR is not desired, and the baseline is gone
        rw [hm]
        intro hp
        have hd : s.managed.desiredHdr = false := by
          rw [← hen hp]
          exact hen'
        simp [hd]
      · -- not a current restore, so an enable: PQ was just written
        rw [hm]
        intro hp
        have hd : s.managed.desiredHdr = true := by
          by_contra hd
          exact hne ⟨hcu t ht hp, by simpa [hen hp] using hd⟩
        simp only [hd, if_true]
        rw [hB.target t ht, hen hp, hd]
        rfl
      · simp at hf
      · simp at hf
  | reapplyAfterReconfiguration =>
    obtain rfl := Option.some.inj hs
    obtain ⟨-, -, hm⟩ | ⟨-, hm⟩ := s.managed.reapplyAfterReconfiguration_cases
    · rw [hm]
      exact of_pending hl rfl
    · rw [hm]
      exact ⟨hl, hsh, hcu⟩
  | externalSet x => exact absurd hPm id

/-- The swap chain is settled after every run without failures. The baseline is carried along, since
a step is settled by what its transitions aim at. -/
theorem of_reachableWhere (h : (interleaving c₀).ReachableWhere ManagedWithoutFailure s) :
    Settled s := by
  refine (h.invariant (I := fun s => BaselineInv c₀ s ∧ Settled s) ?_ ?_).2
  · rintro s rfl
    exact ⟨.initial c₀, initial c₀⟩
  · rintro s a s' ⟨hB, hS⟩ hP hs
    exact ⟨hB.step hP.1 hs, hS.step hB hP hs⟩

end Settled

/-- **Exact baseline restoration.** On a swap chain nobody else manages, the held
baseline is the original color space, which is back whenever none is held; every
restoring transition aims at it. While no set has failed, a state with nothing
outstanding and no pending baseline shows PQ when HDR is desired and otherwise the
original color space, with the baseline dropped. -/
theorem baseline_restored_exactly (c₀ : UInt32) :
    (∀ s, (interleaving c₀).ReachableWhere ManagedOnly s →
      (s.managed.restoreColorSpace = none ∨ s.managed.restoreColorSpace = some c₀) ∧
      (s.managed.restoreColorSpace = none → s.outstanding = [] → s.observedColorSpace = c₀) ∧
      ∀ t ∈ s.outstanding, t.enablingHdr = false → t.targetColorSpace = c₀) ∧
    ∀ s, (interleaving c₀).ReachableWhere ManagedWithoutFailure s →
      s.outstanding = [] →
      ¬ (s.managed.transitionPending = true ∧ s.managed.restoreColorSpace ≠ none) →
      (s.managed.desiredHdr = true →
        s.observedColorSpace = dxgiColorSpaceRgbFullG2084NoneP2020) ∧
      (s.managed.desiredHdr = false →
        s.managed.restoreColorSpace = none ∧ s.observedColorSpace = c₀) := by
  constructor
  · intro s hs
    -- the parts about the baseline are the invariant's
    have hB := BaselineInv.of_reachableWhere hs
    refine ⟨hB.held, fun hn _ => (hB.unheld hn).2, fun t ht hen => ?_⟩
    rw [hB.target t ht, hen]
    rfl
  · intro s hs ho hnp
    have hB := BaselineInv.of_reachableWhere (hs.mono fun _ _ hP => hP.1)
    have hshown := (Settled.of_reachableWhere hs).shown ho
    constructor
    · -- a desired HDR holds a baseline, so nothing is pending
      intro hd
      have hp : s.managed.transitionPending = false := by
        by_contra hp
        exact hnp ⟨by simpa using hp, hB.baseline hd⟩
      simpa [hd] using hshown hp
    · intro hd
      -- a held baseline would have nothing pending over it, and would have been dropped
      have hr : s.managed.restoreColorSpace = none := by
        by_contra hr
        have hp : s.managed.transitionPending = false := by
          by_contra hp
          exact hnp ⟨by simpa using hp, hr⟩
        exact hr (by simpa [hd] using hshown hp)
      exact ⟨hr, (hB.unheld hr).2⟩

end InterleavedState
end Dxgi
end WindowedHdr
