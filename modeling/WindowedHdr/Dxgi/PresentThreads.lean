import Mathlib.Logic.Function.Basic
import WindowedHdr.Dxgi.Interleaving
import WindowedHdr.Dxgi.SwapChainState

/-!
# Presents of many threads

Any number of threads may present one swap chain at once. Each goes through
`apply_managed_color_space_before_present` on its own: it takes the lock and may be handed
a transition, makes the native set with the lock released, and takes the lock again to
record the outcome. `presentThreads` is the system of all their orders, and of the
requests, reconfigurations and external sets that fall between any two of these steps. A
state knows what every thread is at.

It runs inside `interleaving`, which knows only the transitions that are outstanding
(`presentThreads_simulation`): the exclusion of that system says that no thread is handed
a transition while another one holds one.

`Follows` is the refinement mapping: the outstanding transitions of the interleaving are those
of the threads that are between the two locked sections. A native set changes what a thread is
at and nothing that the interleaving sees, so it is a step to which no step corresponds there;
every other step of a thread is one step of the interleaving. The run of the sample crosses a
conflict that clears `transitionInProgress` under an outstanding transition, where the exclusion
is not what the flag says.
-/

namespace WindowedHdr
namespace Dxgi

/-! ### The system -/

/-- Where a thread is in `apply_managed_color_space_before_present`. -/
inductive PresentPhase
  /-- Outside, or inside without a transition. -/
  | idle
  /-- A transition was begun; its native set is still to be made. -/
  | begun (transition : ManagedColorSpaceTransition)
  /-- The native set returned, or was not even tried; its outcome is to be recorded. -/
  | returned (transition : ManagedColorSpaceTransition) (succeeded : Bool)
  deriving DecidableEq

/-- The transition a thread has begun and not finished. -/
def PresentPhase.inFlight : PresentPhase → Option ManagedColorSpaceTransition
  | .idle => none
  | .begun t => some t
  | .returned t _ => some t

/-- One swap chain and the threads that present it. -/
structure ThreadedState (Thread : Type) where
  chain : SwapChainState
  phase : Thread → PresentPhase

/-- One step of one thread. -/
inductive ThreadedAction (Thread : Type)
  | request (hdr : Bool)
  | beginTransition (i : Thread)
  /-- The native set of thread `i`, or its rejection before the call. -/
  | nativeSet (i : Thread) (succeeded : Bool)
  | finishTransition (i : Thread)
  | reapplyAfterReconfiguration
  | externalSet (requestedColorSpace : UInt32)

namespace ThreadedState

variable {Thread : Type} [DecidableEq Thread]

/-- Thread `i` moves on to `phase`. -/
def setPhase (s : ThreadedState Thread) (i : Thread) (phase : PresentPhase) :
    ThreadedState Thread :=
  { s with phase := Function.update s.phase i phase }

/-- The effect of one step. -/
def step (s : ThreadedState Thread) : ThreadedAction Thread → Option (ThreadedState Thread)
  | .request hdr => some { s with chain := (s.chain.requestManagedHdrColorSpace hdr).2 }
  | .beginTransition i =>
    match s.phase i with
    | .idle =>
      let r := s.chain.beginManagedTransition
      match r.1 with
      | none => some { s with chain := r.2 }
      | some t => some ({ s with chain := r.2 }.setPhase i (.begun t))
    | _ => none
  | .nativeSet i succeeded =>
    match s.phase i with
    | .begun t => some (s.setPhase i (.returned t succeeded))
    | _ => none
  | .finishTransition i =>
    match s.phase i with
    | .returned t succeeded =>
      some ({ s with chain := s.chain.finishManagedTransition t succeeded }.setPhase i .idle)
    | _ => none
  | .reapplyAfterReconfiguration => some { s with chain := s.chain.advanceGeneration }
  | .externalSet x => some { s with chain := (s.chain.observeSetColorSpace1 x).2 }

/-- A swap chain that was just captured, presented by nobody yet. -/
def initial (c₀ : UInt32) : ThreadedState Thread where
  chain := { observedColorSpace := c₀ }
  phase _ := .idle

end ThreadedState

/-- All orders of the steps of any threads on one swap chain whose color space is first
observed as `c₀`. -/
def presentThreads (Thread : Type) [DecidableEq Thread] (c₀ : UInt32) :
    ActionSystem (ThreadedState Thread) (ThreadedAction Thread) where
  Init s := s = .initial c₀
  step := ThreadedState.step

namespace ThreadedState

variable {Thread : Type} [DecidableEq Thread] {s s' : ThreadedState Thread}
  {u : InterleavedState} {i j : Thread} {c₀ : UInt32}

/-- A thread that moves on does not touch the swap chain. -/
@[simp] theorem setPhase_chain (s : ThreadedState Thread) (i : Thread)
    (phase : PresentPhase) : (s.setPhase i phase).chain = s.chain := rfl

/-- A thread that moves on is in its new phase. -/
@[simp] theorem setPhase_phase_self (s : ThreadedState Thread) (i : Thread)
    (phase : PresentPhase) : (s.setPhase i phase).phase i = phase := by
  simp [setPhase]

/-- The other threads stay where they are. -/
theorem setPhase_phase_of_ne (s : ThreadedState Thread) (phase : PresentPhase)
    (h : j ≠ i) : (s.setPhase i phase).phase j = s.phase j := by
  simp [setPhase, h]

/-! ### What a step of a thread can do -/

/-- An idle thread is handed a transition, or finds none to submit. -/
theorem step_beginTransition (hs : s.step (.beginTransition i) = some s') :
    (s.chain.beginManagedTransition.1 = none ∧
      s' = { s with chain := s.chain.beginManagedTransition.2 }) ∨
    ∃ t, s.chain.beginManagedTransition.1 = some t ∧
      s' = { s with chain := s.chain.beginManagedTransition.2 }.setPhase i (.begun t) := by
  dsimp only [step] at hs
  split at hs
  · split at hs
    · next hn => exact .inl ⟨hn, (Option.some.inj hs).symm⟩
    · next t ht => exact .inr ⟨t, ht, (Option.some.inj hs).symm⟩
  · exact nomatch hs

/-- The native set is made by a thread that has begun. -/
theorem step_nativeSet {succeeded : Bool} (hs : s.step (.nativeSet i succeeded) = some s') :
    ∃ t, s.phase i = .begun t ∧ s' = s.setPhase i (.returned t succeeded) := by
  dsimp only [step] at hs
  split at hs
  · next t ht => exact ⟨t, ht, (Option.some.inj hs).symm⟩
  · exact nomatch hs

/-- An outcome is recorded by a thread whose native set returned. -/
theorem step_finishTransition (hs : s.step (.finishTransition i) = some s') :
    ∃ t succeeded, s.phase i = .returned t succeeded ∧
      s' = { s with chain := s.chain.finishManagedTransition t succeeded }.setPhase i .idle := by
  dsimp only [step] at hs
  split at hs
  · next t succeeded ht => exact ⟨t, succeeded, ht, (Option.some.inj hs).symm⟩
  · exact nomatch hs

/-! ### Threads inside the interleaving -/

/-- `u` sees the critical sections of `s`: the transition of a thread is the outstanding
one, and no second thread has one. -/
structure Follows (s : ThreadedState Thread) (u : InterleavedState) : Prop where
  inv : u.Inv
  managed : u.managed = s.chain.managedColorSpace
  observed : u.observedColorSpace = s.chain.observedColorSpace
  carried : ∀ i t, (s.phase i).inFlight = some t → u.outstanding = [t]
  alone : ∀ i j, (s.phase i).inFlight ≠ none → (s.phase j).inFlight ≠ none → i = j

namespace Follows

omit [DecidableEq Thread] in
/-- No thread has a transition at first, and none is outstanding. -/
theorem initial (c₀ : UInt32) :
    Follows (ThreadedState.initial c₀ : ThreadedState Thread) (.initial c₀) where
  inv := .initial c₀
  managed := rfl
  observed := rfl
  carried _ _ ht := by simp [ThreadedState.initial, PresentPhase.inFlight] at ht
  alone _ _ hi := by simp [ThreadedState.initial, PresentPhase.inFlight] at hi

omit [DecidableEq Thread] in
/-- A step that no thread's phase depends on is the same critical section there. -/
theorem of_chain (h : Follows s u) {chain : SwapChainState} {managed : ManagedColorSpaceState}
    {observed : UInt32} {a : ManagedAction}
    (hu : u.step a = some ⟨managed, observed, u.outstanding⟩)
    (hm : managed = chain.managedColorSpace) (ho : observed = chain.observedColorSpace) :
    Follows { s with chain := chain } ⟨managed, observed, u.outstanding⟩ where
  inv := h.inv.step hu
  managed := hm
  observed := ho
  carried := h.carried
  alone := h.alone

/-- A thread is handed a transition only when nothing is outstanding, so that no other
thread has one. -/
theorem begun (h : Follows s u) {t : ManagedColorSpaceTransition}
    (ht : s.chain.beginManagedTransition.1 = some t) :
    ∃ u', u.step .beginTransition = some u' ∧
      Follows ({ s with chain := s.chain.beginManagedTransition.2 }.setPhase i (.begun t))
        u' := by
  have hbegin : u.managed.beginTransition.1 = some t := h.managed ▸ ht
  refine ⟨_, rfl, ?_⟩
  have hinv := h.inv.step (a := .beginTransition) rfl
  rw [hbegin] at hinv ⊢
  -- exclusion after the step: there was no other
  have hnil : u.outstanding = [] := by
    have hlen := hinv.exclusive
    simpa using hlen
  -- a second transition in flight would be outstanding
  have hothers : ∀ j, (s.phase j).inFlight = none := by
    intro j
    by_contra hj
    obtain ⟨t', ht'⟩ := Option.ne_none_iff_exists'.mp hj
    simp [h.carried j t' ht'] at hnil
  have hself : ∀ j,
      (({ s with chain := s.chain.beginManagedTransition.2 }.setPhase i
        (.begun t)).phase j).inFlight ≠ none → j = i := by
    intro j hj
    by_contra hne
    rw [setPhase_phase_of_ne _ _ hne] at hj
    exact hj (hothers j)
  -- the new transition is the only one, on both sides
  refine ⟨hinv, ?_, ?_, ?_, ?_⟩
  · simp [SwapChainState.beginManagedTransition, h.managed]
  · simp [SwapChainState.beginManagedTransition, h.observed]
  · intro j t' ht'
    obtain rfl := hself j (by simp [ht'])
    simp only [setPhase_phase_self, PresentPhase.inFlight, Option.some.injEq] at ht'
    simp [hnil, ht']
  · intro j k hj hk
    rw [hself j hj, hself k hk]

/-- The native set changes nothing under the lock. -/
theorem returned (h : Follows s u) {t : ManagedColorSpaceTransition} {succeeded : Bool}
    (ht : s.phase i = .begun t) : Follows (s.setPhase i (.returned t succeeded)) u := by
  -- every thread carries what it carried
  have hsame : ∀ j, ((s.setPhase i (.returned t succeeded)).phase j).inFlight =
      (s.phase j).inFlight := by
    intro j
    by_cases hj : j = i
    · subst hj
      simp [ht, PresentPhase.inFlight]
    · rw [setPhase_phase_of_ne _ _ hj]
  refine ⟨h.inv, h.managed, h.observed, fun j t' ht' => ?_, fun j k hj hk => ?_⟩
  · rw [hsame] at ht'
    exact h.carried j t' ht'
  · rw [hsame] at hj hk
    exact h.alone j k hj hk

/-- A thread that finishes leaves nothing outstanding and no thread in flight. -/
theorem finished (h : Follows s u) {t : ManagedColorSpaceTransition} {succeeded : Bool}
    (ht : s.phase i = .returned t succeeded) :
    ∃ u', u.step (.finishTransition t succeeded) = some u' ∧
      Follows ({ s with
        chain := s.chain.finishManagedTransition t succeeded }.setPhase i .idle) u' := by
  -- what the thread carries is outstanding on the other side, so the step exists there
  have hin : (s.phase i).inFlight = some t := by simp [ht, PresentPhase.inFlight]
  have hmem : t ∈ u.outstanding := by simp [h.carried i t hin]
  have hstep : u.step (.finishTransition t succeeded) = some
      { managed := u.managed.finishTransition t succeeded
        observedColorSpace := if succeeded then t.targetColorSpace else u.observedColorSpace
        outstanding := u.outstanding.erase t } := by
    simp [InterleavedState.step, hmem]
  have hnone : ∀ j,
      (({ s with chain := s.chain.finishManagedTransition t succeeded }.setPhase i
        .idle).phase j).inFlight = none := by
    intro j
    by_cases hj : j = i
    · subst hj
      simp [PresentPhase.inFlight]
    · rw [setPhase_phase_of_ne _ _ hj]
      -- a second thread in flight would be this one
      by_contra hne
      exact hj (h.alone j i hne (by simp [hin]))
  refine ⟨_, hstep, h.inv.step hstep, ?_, ?_, fun j t' ht' => ?_, fun j k hj _ => ?_⟩
  · simp [SwapChainState.finishManagedTransition, h.managed]
  · simp [SwapChainState.finishManagedTransition, h.observed]
  · simp [hnone j] at ht'
  · exact absurd (hnone j) hj

/-- Every step of a thread is a critical section of the interleaving, or none. -/
theorem step (h : Follows s u) {a : ThreadedAction Thread} (hs : s.step a = some s')
    (c₀ : UInt32) : ∃ as u', (interleaving c₀).run u as = some u' ∧ Follows s' u' := by
  cases a with
  | request hdr =>
    obtain rfl := Option.some.inj hs
    refine ⟨[.request hdr u.observedColorSpace], _, rfl,
      h.of_chain (a := .request hdr u.observedColorSpace) rfl ?_ ?_⟩
    · simp [SwapChainState.requestManagedHdrColorSpace, h.managed, h.observed]
    · simp [SwapChainState.requestManagedHdrColorSpace, h.observed]
  | beginTransition i =>
    rcases step_beginTransition hs with ⟨hn, rfl⟩ | ⟨t, ht, rfl⟩
    · -- nothing was handed out, so nothing changed
      refine ⟨[], u, rfl, h.inv, ?_, h.observed, h.carried, h.alone⟩
      obtain ⟨-, hm⟩ | ⟨_, -, -, -, hm⟩ := s.chain.managedColorSpace.beginTransition_cases
      · simp [SwapChainState.beginManagedTransition, hm, h.managed]
      · simp [SwapChainState.beginManagedTransition, hm] at hn
    · obtain ⟨u', hu, hf⟩ := h.begun (i := i) ht
      exact ⟨[.beginTransition], u', by simp [hu], hf⟩
  | nativeSet i succeeded =>
    obtain ⟨t, ht, rfl⟩ := step_nativeSet hs
    exact ⟨[], u, rfl, h.returned ht⟩
  | finishTransition i =>
    obtain ⟨t, succeeded, ht, rfl⟩ := step_finishTransition hs
    obtain ⟨u', hu, hf⟩ := h.finished ht
    exact ⟨[.finishTransition t succeeded], u', by simp [hu], hf⟩
  | reapplyAfterReconfiguration =>
    obtain rfl := Option.some.inj hs
    refine ⟨[.reapplyAfterReconfiguration], _, rfl,
      h.of_chain (a := .reapplyAfterReconfiguration) rfl ?_ ?_⟩
    · simp [SwapChainState.advanceGeneration, h.managed]
    · simp [SwapChainState.advanceGeneration, h.observed]
  | externalSet x =>
    obtain rfl := Option.some.inj hs
    refine ⟨[.externalSet x], _, rfl, h.of_chain (a := .externalSet x) rfl ?_ ?_⟩
    · simp [SwapChainState.observeSetColorSpace1, h.managed]
    · simp [SwapChainState.observeSetColorSpace1]

end Follows

/-- **Simulation.** The critical sections of any number of threads are an interleaving. -/
theorem presentThreads_simulation (Thread : Type) [DecidableEq Thread] (c₀ : UInt32) :
    ActionSystem.Simulation (presentThreads Thread c₀) (interleaving c₀) Follows where
  init := by
    rintro s rfl
    exact ⟨_, rfl, .initial c₀⟩
  step _ _ _ _ h hs := h.step hs c₀

/-- **Mutual exclusion.** However many threads present one swap chain, no two of them have
begun a transition that they have not finished. -/
theorem managed_sets_exclude (Thread : Type) [DecidableEq Thread] (c₀ : UInt32)
    (s : ThreadedState Thread) (hs : (presentThreads Thread c₀).Reachable s) (i j : Thread)
    (hi : (s.phase i).inFlight ≠ none) (hj : (s.phase j).inFlight ≠ none) : i = j := by
  obtain ⟨u, -, hf⟩ := (presentThreads_simulation Thread c₀).reachable hs
  exact hf.alone i j hi hj

/-- Thread `0` begins the enable, a conflict clears the flag under it, and thread `1`
presents before and after the conflict. -/
def presentsAcrossConflict : List (ThreadedAction Nat) :=
  [.request true, .beginTransition 0, .beginTransition 1, .externalSet 1, .request true,
    .beginTransition 1]

/-- Thread `1` is handed nothing, although the flag is clear. -/
theorem managed_sets_exclude_across_conflict :
    ∃ s, (presentThreads Nat 0).run (.initial 0) presentsAcrossConflict = some s ∧
      s.chain.managedColorSpace.transitionInProgress = false ∧
      (s.phase 0).inFlight ≠ none ∧ (s.phase 1).inFlight = none := by
  refine ⟨_, rfl, rfl, Option.some_ne_none _, ?_⟩
  by_contra h1
  have hrun : (presentThreads Nat 0).run (.initial 0) presentsAcrossConflict = some _ := rfl
  -- two threads in flight would be one
  have h01 : 0 = 1 := managed_sets_exclude Nat 0 _ (ActionSystem.reachable_of_run rfl hrun) 0 1
    (Option.some_ne_none _) h1
  exact absurd h01 Nat.zero_ne_one

end ThreadedState
end Dxgi
end WindowedHdr
