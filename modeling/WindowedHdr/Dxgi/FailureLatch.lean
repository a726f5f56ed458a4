import WindowedHdr.Dxgi.Interleaving

/-!
# The failure latch

A managed set that fails latches `failureLatched` for the lifetime of the swap chain,
and from then on `request` refuses to enable HDR. The latch is set by
`finishTransition`, after the native call, and the desire is withdrawn there only when
the epoch of the failed transition is still current. A desire that was withdrawn and
armed again while the transition was outstanding survives the failure, still pending,
and the next Present takes it (`latchedEnableTrace`).

`StaleFailureSpared` names the steps that do no such thing. Along runs of such steps a
latched failure leaves no pending desire (`LatchQuiet`), so no further enabling
transition is begun; and a step that is not spared makes the very next `beginTransition`
hand one out.

The condition is one on the state before the step: it names the transition that is about to
fail, its epoch, and the desire. It is exact in both directions. Along spared runs nothing
enables, which is an induction over the run; and from any reachable state in which an excluded
step is taken, the next `beginTransition` does hand out an enabling transition
(`enabling_of_not_spared`). The sample trace shows that such a state is reachable.
-/

namespace WindowedHdr
namespace Dxgi
namespace InterleavedState

variable {s s' : InterleavedState} {a : ManagedAction} {c₀ : UInt32}

/-- No transition fails at a stale epoch while an armed desire is pending. -/
def StaleFailureSpared (s : InterleavedState) : ManagedAction → Prop
  | .finishTransition t false =>
    ¬ (s.managed.desiredHdr = true ∧ s.managed.transitionPending = true ∧
      t.requestEpoch ≠ s.managed.requestEpoch)
  | _ => True

/-- A latched failure leaves no armed desire to be submitted. -/
def LatchQuiet (s : InterleavedState) : Prop :=
  s.managed.failureLatched = true →
    s.managed.desiredHdr = false ∨ s.managed.transitionPending = false

/-- A quiet latch begins no enabling transition. -/
theorem LatchQuiet.not_enabling (h : LatchQuiet s) (hl : s.managed.failureLatched = true)
    {t : ManagedColorSpaceTransition} (ht : s.managed.beginTransition.1 = some t) :
    t.enablingHdr = false := by
  obtain ⟨-, hm⟩ | ⟨r, hp, -, -, hm⟩ :=
    s.managed.beginTransition_cases
  · simp [hm] at ht
  · rw [hm] at ht
    obtain rfl := Option.some.inj ht
    -- what was begun was pending, so it was not desired
    rcases h hl with hd | hp'
    · exact hd
    · simp [hp] at hp'

/-- A spared step keeps the latch quiet. -/
theorem LatchQuiet.step (hI : Inv s) (h : LatchQuiet s) (hP : StaleFailureSpared s a)
    (hs : s.step a = some s') : LatchQuiet s' := by
  cases a with
  | request hdr current =>
    obtain rfl := Option.some.inj hs
    unfold LatchQuiet
    dsimp only
    obtain ⟨-, -, hm⟩ | ⟨-, hl, -, hm⟩ | ⟨-, hl, -, -, hm⟩ | ⟨-, -, -, -, hm⟩ |
      ⟨-, -, -, hm⟩ | ⟨-, -, hm⟩ :=
      s.managed.request_cases hdr current <;> rw [hm]
    · exact h
    · -- an enable is accepted only while nothing is latched
      exact fun hl' => absurd hl' (by simp [hl])
    · exact fun hl' => absurd hl' (by simp [hl])
    · exact h
    · -- a withdrawal leaves no desire
      exact fun _ => .inl rfl
    · exact h
  | beginTransition =>
    obtain rfl := Option.some.inj hs
    unfold LatchQuiet
    dsimp only
    obtain ⟨-, hm⟩ | ⟨_, -, -, -, hm⟩ :=
      s.managed.beginTransition_cases <;> rw [hm]
    · exact h
    · -- what was pending is outstanding now
      exact fun _ => .inr rfl
  | finishTransition t succeeded =>
    obtain ⟨ht, rfl⟩ := step_finishTransition hs
    unfold LatchQuiet
    dsimp only
    obtain ⟨-, -, -, hm⟩ | ⟨-, -, hm⟩ | ⟨-, -, -, hm⟩ | ⟨rfl, hne, hm⟩ :=
      s.managed.finishTransition_cases t succeeded <;> rw [hm]
    · exact h
    · exact h
    · -- the failure of a current enable withdraws the desire
      exact fun _ => .inl rfl
    · -- the desire outlives the failure: it is pending only at a stale epoch
      intro _
      by_contra hc
      push Not at hc
      obtain ⟨hd, hp⟩ : s.managed.desiredHdr = true ∧ s.managed.transitionPending = true := by
        simpa using hc
      refine hP ⟨hd, hp, fun he => ?_⟩
      rcases hI.enabling_eq_desired ht he with heq | hrel
      · exact hne ⟨he, heq.trans hd⟩
      · exact hI.baseline hd hrel.1
  | reapplyAfterReconfiguration =>
    obtain rfl := Option.some.inj hs
    unfold LatchQuiet
    dsimp only
    obtain ⟨-, hl, hm⟩ | ⟨-, hm⟩ :=
      s.managed.reapplyAfterReconfiguration_cases <;> rw [hm]
    · -- only an unlatched chain is made pending again
      exact fun hl' => absurd hl' (by simp [hl])
    · exact h
  | externalSet x =>
    obtain rfl := Option.some.inj hs
    unfold LatchQuiet
    dsimp only
    obtain ⟨-, hm⟩ | ⟨-, -, -, hm⟩ | ⟨-, -, hm⟩ | ⟨_, -, -, hm⟩ :=
      s.managed.observeExternalSet_cases x <;> rw [hm]
    · exact h
    · exact fun _ => .inr rfl
    · exact fun _ => .inr rfl
    · -- a conflict latches and withdraws the desire at once
      exact fun _ => .inl rfl

/-- The latch stays quiet along every run of spared steps. -/
theorem latchQuiet_of_reachableWhere
    (h : (interleaving c₀).ReachableWhere StaleFailureSpared s) : LatchQuiet s := by
  -- the invariant of the interleaving is carried along, since a stale failure is recognised by it
  refine (h.invariant (I := fun s => Inv s ∧ LatchQuiet s) ?_ ?_).2
  · rintro s rfl
    exact ⟨.initial c₀, fun hl => absurd hl (by simp [InterleavedState.initial])⟩
  · rintro s a s' ⟨hI, hq⟩ hP hs
    exact ⟨hI.step hs, hq.step hI hP hs⟩

/-- A step that is not spared leaves a latched failure and an enabling transition to be
begun at once. -/
theorem enabling_of_not_spared (hI : Inv s) (hP : ¬ StaleFailureSpared s a)
    (hs : s.step a = some s') :
    s'.managed.failureLatched = true ∧
      ∃ t, s'.managed.beginTransition.1 = some t ∧ t.enablingHdr = true := by
  -- only a failing finish can be such a step
  obtain ⟨t, rfl⟩ : ∃ t, a = .finishTransition t false := by
    cases a with
    | finishTransition t succeeded =>
      cases succeeded with
      | false => exact ⟨t, rfl⟩
      | true => exact absurd trivial hP
    | _ => exact absurd trivial hP
  obtain ⟨hd, hp, he⟩ := not_not.mp hP
  obtain ⟨-, rfl⟩ := step_finishTransition hs
  obtain ⟨r, hr⟩ := Option.ne_none_iff_exists'.mp (hI.baseline hd)
  obtain ⟨hf, -⟩ | ⟨hf, -⟩ | ⟨-, he', -⟩ | ⟨-, -, hm⟩ :=
    s.managed.finishTransition_cases t false
  · simp at hf
  · simp at hf
  · exact absurd he' he
  · -- the stale failure latches and leaves the pending desire alone
    dsimp only
    rw [hm]
    have hbegin := ManagedColorSpaceState.beginTransition_of_pending
      { s.managed with transitionInProgress := false, failureLatched := true } hp rfl hr
    exact ⟨rfl, _, congrArg Prod.fst hbegin, hd⟩

/-- Once a failure is latched, no later `beginTransition` enables HDR — read along the
runs whose steps meet `P`. -/
def LatchForbidsEnabling (c₀ : UInt32) (P : InterleavedState → ManagedAction → Prop) : Prop :=
  -- `s'` is any later state of such a run
  ∀ s s', (interleaving c₀).ReachableWhere P s → s.managed.failureLatched = true →
    (interleaving c₀).LeadsToWhere P s s' →
    ∀ t, s'.managed.beginTransition.1 = some t → t.enablingHdr = false

/-- **The latch holds along spared steps, and only there.** In every interleaving in
which no transition fails at a stale epoch under a pending desire, a latched failure
forbids further enabling; any other failure is followed, from whatever reachable state,
by an enabling transition although the failure is latched. -/
theorem latch_forbids_enabling_iff_spared (c₀ : UInt32) :
    LatchForbidsEnabling c₀ StaleFailureSpared ∧
    ∀ s a s', (interleaving c₀).Reachable s → ¬ StaleFailureSpared s a →
      s.step a = some s' → s'.managed.failureLatched = true ∧
        ∃ t, s'.managed.beginTransition.1 = some t ∧ t.enablingHdr = true := by
  constructor
  · intro s s' hs hl hss' t ht
    -- the latch survives the continuation, and is quiet at its end
    have hl' := hss'.stable (I := fun s => s.managed.failureLatched = true)
      (fun _ _ _ hl _ hs => failureLatched_step hs hl) hl
    exact (latchQuiet_of_reachableWhere (hs.leadsTo hss')).not_enabling hl' ht
  · intro s a s' hs hP hstep
    exact enabling_of_not_spared (.of_reachable hs) hP hstep

/-- HDR is requested and a Present begins the enable; before it finishes, HDR is
withdrawn and requested again; then the enable fails. -/
def latchedEnableTrace : List ManagedAction :=
  [.request true 0, .beginTransition, .request false 0, .request true 0,
    .finishTransition ⟨dxgiColorSpaceRgbFullG2084NoneP2020, true, 1⟩ false]

/-- The end of `latchedEnableTrace`: the failure is latched, the desire is pending. -/
def latchedEnableState : InterleavedState where
  managed :=
    { restoreColorSpace := some 0
      desiredHdr := true
      transitionPending := true
      failureLatched := true
      requestEpoch := 3 }
  observedColorSpace := 0
  outstanding := []

/-- After `latchedEnableTrace` the failure is latched and the next Present enables PQ. -/
theorem latch_reenables_hdr : ¬ ∀ c₀, LatchForbidsEnabling c₀ fun _ _ => True := by
  intro h
  have hrun : (interleaving 0).run (.initial 0) latchedEnableTrace = some latchedEnableState := by
    decide
  have hreach : (interleaving 0).Reachable latchedEnableState :=
    ActionSystem.reachable_of_run rfl hrun
  -- the transition that is handed out next enables
  exact absurd (h 0 _ _ hreach rfl .refl _ rfl) (by decide)

end InterleavedState
end Dxgi
end WindowedHdr
