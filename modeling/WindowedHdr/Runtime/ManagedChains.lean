import WindowedHdr.Dxgi.PresentThreads
import WindowedHdr.Runtime.Tokens
import WindowedHdr.Shadow.Lifetime

/-!
# Managed color spaces in a running process

`presentThreads` knows one swap chain and the threads that present it. In the process there are
many swap chains, and a thread does much besides: it queries interfaces, is interrupted by
captures and releases, and shares its locks with hooks of other kinds. `chain_refines` says that
each swap chain of the process nevertheless goes through states of `presentThreads`, from the
moment it is captured until it is forgotten, and that the transitions that the threads of the
process hold are those that are in flight there. What is shown of `presentThreads` and of
`interleaving` thus holds of every swap chain of the process.

The state of a swap chain is forgotten when its last reference is released. A thread that
presents holds a reference, so nobody presents it then (`ReleasedQuietly`).

`Follows` is the mapping from the process to `presentThreads`: the state that is kept for a swap
chain is the one of the system, as far as the management depends on it (`Alike`), and a thread
holds a transition of this swap chain exactly when it has begun it there. Most steps of the
process have no counterpart, since they do not touch what is kept (`chainStep_of_eq`); the
others are the locked sections of `dxgi`, and each of them is one step of the system. Only the
end of a transition is two, because the native set is entered there together with its outcome
(`Followed.finish`). The mapping starts at the capture, where the state is the default one, and
ends when the state is removed, where it needs that no thread is left inside.
-/

namespace WindowedHdr
namespace Runtime

open ThreadSystem (holding holdings holdings_update)
open Dxgi Shadow

variable {code : HookFunction → UInt64} {x : UInt64}

/-! ### What is kept for a swap chain -/

/-- What is kept for the swap chain. -/
def Globals.chain (g : Globals) (x : UInt64) : SwapChainState :=
  (g.shadows.swapChainStates x).getD {}

/-- The calls that update or remove what is kept for the swap chain. -/
def Call.Updates (x : UInt64) : Call → Prop
  | .swapChainState y _ => y = x
  | .removeSwapChainState y => y = x
  | _ => False

/-- What an event does to what is kept for the swap chain. -/
inductive ChainStep (x : UInt64) (state : SwapChainState) : Event → SwapChainState → Prop
  | updated (op : StateOp) :
      ChainStep x state ⟨.swapChainState x op, (op.apply state).1⟩ (op.apply state).2
  | removed (answer : Unit) : ChainStep x state ⟨.removeSwapChainState x, answer⟩ {}
  | kept {c : Call} {answer : c.Answer} (hc : ¬ c.Updates x) : ChainStep x state ⟨c, answer⟩ state

section Chain

variable {g g' : Globals} {y : UInt64}

/-- A section updates what is kept for its own swap chain. -/
theorem chain_update_self (f : SwapChainState → SwapChainState) :
    (g.withShadows (g.shadows.updateSwapChainState y f)).chain y = f (g.chain y) := by
  show (Function.update g.shadows.swapChainStates y _ y).getD {} = f (g.chain y)
  rw [Function.update_self, Option.getD_some, Globals.chain]

/-- It updates nothing that is kept for others. -/
theorem chain_update_of_ne (hy : y ≠ x) (f : SwapChainState → SwapChainState) :
    (g.withShadows (g.shadows.updateSwapChainState y f)).chain x = g.chain x := by
  show (Function.update g.shadows.swapChainStates y _ x).getD {} = g.chain x
  rw [Function.update_of_ne hy.symm, Globals.chain]

/-- What is removed is as if it had never been. -/
theorem chain_remove_self : (g.withShadows (g.shadows.removeSwapChainState y)).chain y = {} := by
  show (Function.update g.shadows.swapChainStates y none y).getD {} = {}
  rw [Function.update_self, Option.getD_none]

/-- Others are not removed with it. -/
theorem chain_remove_of_ne (hy : y ≠ x) :
    (g.withShadows (g.shadows.removeSwapChainState y)).chain x = g.chain x := by
  show (Function.update g.shadows.swapChainStates y none x).getD {} = g.chain x
  rw [Function.update_of_ne hy.symm, Globals.chain]

/-- A call that leaves the states alone keeps the swap chain as it is. -/
theorem chainStep_of_eq {c : Call} {answer : c.Answer}
    (h : g'.shadows.swapChainStates = g.shadows.swapChainStates) (hc : ¬ c.Updates x) :
    ChainStep x (g.chain x) ⟨c, answer⟩ (g'.chain x) := by
  rw [Globals.chain, Globals.chain, h]
  exact .kept hc

/-- **What a call can do to a swap chain**: run a section on it, remove it, or nothing. -/
theorem perform_chainStep {c : Call} {answer : c.Answer} (h : g.perform code c answer = some g') :
    ChainStep x (g.chain x) ⟨c, answer⟩ (g'.chain x) := by
  cases c with
  | swapChainState y op =>
    obtain ⟨rfl, rfl⟩ := Globals.load_eq_some.mp h
    by_cases hy : y = x
    · subst hy
      rw [chain_update_self]
      exact .updated op
    · rw [chain_update_of_ne hy]
      exact .kept hy
  | removeSwapChainState y =>
    obtain rfl := Option.some.inj h
    by_cases hy : y = x
    · subst hy
      rw [chain_remove_self]
      exact .removed answer
    · rw [chain_remove_of_ne hy]
      exact .kept hy
  -- an installation is about records and memory
  | installShadowVtable object kind entryCount =>
    obtain ⟨-, rfl⟩ := Globals.load_eq_some.mp h
    exact chainStep_of_eq (installEffect_of_install rfl).globals.1 id
  | lockCandidateCache =>
    simp only [Globals.perform] at h
    split at h
    · cases h
    · obtain ⟨-, rfl⟩ := Globals.load_eq_some.mp h
      exact chainStep_of_eq rfl id
  -- whether or not the object was the active one
  | clearActiveSwapChain object =>
    simp only [Globals.perform] at h
    split at h <;> (obtain ⟨-, rfl⟩ := Globals.load_eq_some.mp h; exact chainStep_of_eq rfl id)
  | claimInitState =>
    simp only [Globals.perform] at h
    split at h <;> (obtain ⟨-, rfl⟩ := Globals.load_eq_some.mp h; exact chainStep_of_eq rfl id)
  | _ =>
    first
    | (obtain ⟨-, rfl⟩ := Globals.load_eq_some.mp h; exact chainStep_of_eq rfl id)
    | (obtain rfl := Option.some.inj h; exact chainStep_of_eq rfl id)

end Chain

/-! ### One swap chain and its threads -/

/-- The states agree on what the color-space management depends on. -/
structure Alike (a b : SwapChainState) : Prop where
  managed : a.managedColorSpace = b.managedColorSpace
  observed : a.observedColorSpace = b.observedColorSpace

namespace Alike

variable {a b : SwapChainState}

/-- A request depends only on what the states agree on. -/
theorem request (h : Alike a b) (hdr : Bool) :
    Alike (a.requestManagedHdrColorSpace hdr).2 (b.requestManagedHdrColorSpace hdr).2 := by
  refine ⟨?_, h.observed⟩
  rw [SwapChainState.requestManagedHdrColorSpace, SwapChainState.requestManagedHdrColorSpace,
    h.managed, h.observed]

/-- So does what is handed out of the state. -/
theorem begin_eq (h : Alike a b) : a.beginManagedTransition.1 = b.beginManagedTransition.1 := by
  rw [SwapChainState.beginManagedTransition, SwapChainState.beginManagedTransition, h.managed]

/-- And so does what is left in the state then. -/
theorem begin_some (h : Alike a b) :
    Alike a.beginManagedTransition.2 b.beginManagedTransition.2 := by
  refine ⟨?_, h.observed⟩
  rw [SwapChainState.beginManagedTransition, SwapChainState.beginManagedTransition, h.managed]

/-- Nothing changes when no transition is handed out. -/
theorem begin_none (h : Alike a b) (hnone : b.beginManagedTransition.1 = none) :
    Alike a b.beginManagedTransition.2 := by
  obtain ⟨-, hm⟩ | ⟨restore, -, -, -, hm⟩ := b.managedColorSpace.beginTransition_cases
  · refine ⟨?_, h.observed⟩
    rw [SwapChainState.beginManagedTransition, hm, h.managed]
  · rw [SwapChainState.beginManagedTransition, hm] at hnone
    cases hnone

/-- The outcome of a transition changes both states alike. -/
theorem finish (h : Alike a b) (t : ManagedColorSpaceTransition) (succeeded : Bool) :
    Alike (a.finishManagedTransition t succeeded) (b.finishManagedTransition t succeeded) := by
  constructor
  · rw [SwapChainState.finishManagedTransition, SwapChainState.finishManagedTransition, h.managed]
  · rw [SwapChainState.finishManagedTransition, SwapChainState.finishManagedTransition,
      h.observed]

/-- So does a reconfiguration. -/
theorem advanceGeneration (h : Alike a b) : Alike a.advanceGeneration b.advanceGeneration := by
  refine ⟨?_, h.observed⟩
  rw [SwapChainState.advanceGeneration, SwapChainState.advanceGeneration, h.managed]

/-- And so does another component's `SetColorSpace1`. -/
theorem observe (h : Alike a b) (requestedColorSpace : UInt32) :
    Alike (a.observeSetColorSpace1 requestedColorSpace).2
      (b.observeSetColorSpace1 requestedColorSpace).2 := by
  refine ⟨?_, rfl⟩
  rw [SwapChainState.observeSetColorSpace1, SwapChainState.observeSetColorSpace1, h.managed]

end Alike

/-- `u` follows a swap chain in the state `state`, of which thread `i` has begun the transition
`t` and not finished it `n t i` times. -/
structure Follows (state : SwapChainState) (n : ManagedColorSpaceTransition → Nat → Nat)
    (u : ThreadedState Nat) : Prop where
  alike : Alike u.chain state
  carried : ∀ t i, n t i = if u.phase i = .begun t then 1 else 0

/-- Some state of `presentThreads` follows the swap chain. -/
def Followed (state : SwapChainState) (n : ManagedColorSpaceTransition → Nat → Nat) : Prop :=
  ∃ u, (presentThreads Nat 0).Reachable u ∧ Follows state n u

section Followed

variable {state state' : SwapChainState} {n n' : ManagedColorSpaceTransition → Nat → Nat}
  {u : ThreadedState Nat} {t : ManagedColorSpaceTransition} {i j : Nat}

/-- A fresh state is followed when nobody carries a transition. -/
theorem followed_initial (hn : ∀ t i, n t i = 0) : Followed {} n :=
  ⟨.initial 0, .init rfl, ⟨rfl, rfl⟩, hn⟩

/-- No thread is in flight when a transition is handed out. -/
theorem phase_of_begin (hu : (presentThreads Nat 0).Reachable u)
    (ht : u.chain.beginManagedTransition.1 = some t) (j : Nat) : u.phase j = .idle := by
  obtain ⟨v, -, hfollows⟩ := (ThreadedState.presentThreads_simulation Nat 0).reachable hu
  -- the transition may be handed to any thread, so to one other than `j`
  obtain ⟨v', -, hfollows'⟩ := hfollows.begun (i := j + 1) ht
  have hself : (({ u with chain := u.chain.beginManagedTransition.2 }.setPhase (j + 1)
      (.begun t)).phase (j + 1)).inFlight ≠ none := by
    rw [ThreadedState.setPhase_phase_self]
    exact Option.some_ne_none t
  by_contra hj
  have hflight : (({ u with chain := u.chain.beginManagedTransition.2 }.setPhase (j + 1)
      (.begun t)).phase j).inFlight ≠ none := by
    rw [ThreadedState.setPhase_phase_of_ne _ _ (Nat.succ_ne_self j).symm]
    show (u.phase j).inFlight ≠ none
    cases hphase : u.phase j with
    | idle => exact absurd hphase hj
    | begun t' => exact Option.some_ne_none t'
    | returned t' succeeded => exact Option.some_ne_none t'
  exact absurd (hfollows'.alone (j + 1) j hself hflight) (Nat.succ_ne_self j)

/-- A section that only updates the state. -/
theorem Followed.update (h : Followed state n) {a : ThreadedAction Nat}
    {f : SwapChainState → SwapChainState}
    (hstep : ∀ u : ThreadedState Nat, u.step a = some { u with chain := f u.chain })
    (hf : ∀ b, Alike b state → Alike (f b) state') : Followed state' n := by
  obtain ⟨u, hu, hfollows⟩ := h
  exact ⟨_, hu.step (hstep u), hf _ hfollows.alike, hfollows.carried⟩

/-- A section that changes nothing here. -/
theorem Followed.keep (h : Followed state n) (hstate : ∀ b, Alike b state → Alike b state') :
    Followed state' n := by
  obtain ⟨u, hu, hfollows⟩ := h
  exact ⟨u, hu, hstate _ hfollows.alike, hfollows.carried⟩

/-- A transition is handed to thread `i`, which carries it from now on. -/
theorem Followed.begin_some (h : Followed state n)
    (ht : state.beginManagedTransition.1 = some t)
    (hn : ∀ t' j, n' t' j = if t = t' ∧ i = j then n t' j + 1 else n t' j) :
    Followed state.beginManagedTransition.2 n' := by
  obtain ⟨u, hu, halike, hcarried⟩ := h
  have ht' : u.chain.beginManagedTransition.1 = some t := halike.begin_eq.trans ht
  have hidle := phase_of_begin hu ht'
  have hstep : (presentThreads Nat 0).step u (.beginTransition i) =
      some ({ u with chain := u.chain.beginManagedTransition.2 }.setPhase i (.begun t)) := by
    simp only [presentThreads, ThreadedState.step, hidle i, ht']
  refine ⟨_, hu.step hstep, halike.begin_some, fun t' j => ?_⟩
  -- nobody carried any transition before
  have hnone : n t' j = 0 := by simp [hcarried, hidle j]
  rw [hn, hnone]
  by_cases hj : j = i
  · subst hj
    rw [ThreadedState.setPhase_phase_self]
    simp
  · rw [ThreadedState.setPhase_phase_of_ne _ _ hj, if_neg fun h => hj h.2.symm]
    simp [hidle j]

/-- Thread `i` finishes the transition that it carries: there, the native set has returned, and its
outcome is entered. -/
theorem Followed.finish (h : Followed state n) (hpos : 0 < n t i) (succeeded : Bool)
    (hn : ∀ t' j, n' t' j = if t = t' ∧ i = j then n t' j - 1 else n t' j) :
    Followed (state.finishManagedTransition t succeeded) n' := by
  obtain ⟨u, hu, halike, hcarried⟩ := h
  -- who carries the transition has begun it there as well
  have hphase : u.phase i = .begun t := by
    by_contra hphase
    rw [hcarried, if_neg hphase] at hpos
    exact absurd hpos (Nat.lt_irrefl 0)
  -- the native set, and then its outcome
  have hset : (presentThreads Nat 0).step u (.nativeSet i succeeded) =
      some (u.setPhase i (.returned t succeeded)) := by
    simp only [presentThreads, ThreadedState.step, hphase]
  have hfinish : (presentThreads Nat 0).step (u.setPhase i (.returned t succeeded))
      (.finishTransition i) = some ({ u.setPhase i (.returned t succeeded) with
        chain := u.chain.finishManagedTransition t succeeded }.setPhase i .idle) := by
    simp only [presentThreads, ThreadedState.step, ThreadedState.setPhase_phase_self,
      ThreadedState.setPhase_chain]
  refine ⟨_, (hu.step hset).step hfinish, halike.finish t succeeded, fun t' j => ?_⟩
  rw [hn, hcarried]
  by_cases hj : j = i
  · subst hj
    rw [ThreadedState.setPhase_phase_self, hphase]
    by_cases ht : t = t'
    · simp [ht]
    · simp [ht]
  · rw [ThreadedState.setPhase_phase_of_ne _ _ hj]
    show _ = if (u.setPhase i (.returned t succeeded)).phase j = .begun t' then 1 else 0
    rw [ThreadedState.setPhase_phase_of_ne _ _ hj, if_neg fun h => hj h.2.symm]

end Followed

/-! ### The threads of the process -/

/-- How often each thread has begun a transition on the swap chain and not finished it. -/
def carries (x : UInt64) (threads : Nat → Option Thread) (t : ManagedColorSpaceTransition) :
    Nat → Nat :=
  holdings (discipline true) Entry.start (.transition x t) threads

/-- Only a section that begins a transition hands one out. -/
theorem gains_transition {c : Call} {answer : c.Answer} {t : ManagedColorSpaceTransition}
    (h : (transfer ⟨c, answer⟩).gains = some (.transition x t)) :
    c = .swapChainState x .beginTransition := by
  cases c with
  | native function c =>
    have hobtained {r : HResult × UInt64} (h : (obtained r).gains = some (.transition x t)) :
        False := by
      rw [obtained] at h
      split at h <;> cases h
    cases c with
    | queryInterface => exact (hobtained h).elim
    | getContainingOutput => exact (hobtained h).elim
    | _ => cases h
  -- a failed look-up may lose a reference, and gains nothing
  | vtableFunction object index =>
    cases answer with
    | ok function => cases h
    | error e =>
      simp only [transfer] at h
      split at h <;> cases h
  | swapChainState y op =>
    cases op with
    | beginTransition =>
      cases answer with
      | none => cases h
      | some t' =>
        cases h
        rfl
    | _ => cases h
  | claimInitState => cases answer <;> cases h
  | spawnInitializationThread => cases answer <;> cases h
  | _ => cases h

/-- Only a section that finishes a transition takes it back. -/
theorem gives_transition {c : Call} {answer : c.Answer} {t : ManagedColorSpaceTransition}
    (h : (transfer ⟨c, answer⟩).gives = some (.transition x t)) :
    ∃ succeeded, c = .swapChainState x (.finishTransition t succeeded) := by
  cases c with
  | native function c =>
    have hobtained {r : HResult × UInt64} (h : (obtained r).gives = some (.transition x t)) :
        False := by
      rw [obtained] at h
      split at h <;> cases h
    cases c with
    | queryInterface => exact (hobtained h).elim
    | getContainingOutput => exact (hobtained h).elim
    | _ => cases h
  | vtableFunction object index =>
    cases answer with
    | ok function => cases h
    | error e =>
      simp only [transfer] at h
      split at h <;> cases h
  | swapChainState y op =>
    cases op with
    | beginTransition => cases answer <;> cases h
    | finishTransition t' succeeded =>
      cases h
      exact ⟨succeeded, rfl⟩
    | _ => cases h
  | claimInitState => cases answer <;> cases h
  | spawnInitializationThread => cases answer <;> cases h
  | _ => cases h

section Threads

variable {s : ProcessState} {i : Nat} {entry : Entry} {past : List Event} {c : Call}
  {next : c.Answer → Routine entry.Result} {answer : c.Answer}

/-- Thread `i` has made the call. -/
abbrev afterCall (threads : Nat → Option Thread) (i : Nat) (entry : Entry) (past : List Event)
    (c : Call) (next : c.Answer → Routine entry.Result) (answer : c.Answer) :
    Nat → Option Thread :=
  Function.update threads i (some ⟨entry, ⟨c, answer⟩ :: past, next answer⟩)

/-- What a thread carries is among what it holds. -/
theorem carries_self {t : ManagedColorSpaceTransition}
    (hi : s.threads i = some ⟨entry, past, .call c next⟩) :
    carries x s.threads t i = (held entry past).count (.transition x t) := by
  rw [carries, holdings, hi]
  rfl

/-- After its call a thread carries what the call leaves it; the others carry what they did. -/
theorem carries_afterCall (t : ManagedColorSpaceTransition) (j : Nat) :
    carries x (afterCall s.threads i entry past c next answer) t j =
      if j = i then (Transfer.after (held entry past) (transfer ⟨c, answer⟩)).count
        (.transition x t)
      else carries x s.threads t j := by
  rw [carries, afterCall, holdings_update]
  by_cases hj : j = i
  · subst hj
    rw [Function.update_self, if_pos rfl]
    rfl
  · rw [Function.update_of_ne hj, if_neg hj, carries]

/-- A call that neither begins nor finishes a transition. -/
theorem carries_of_ne (hi : s.threads i = some ⟨entry, past, .call c next⟩)
    (hbegin : c = .swapChainState x .beginTransition →
      ∀ t, (transfer ⟨c, answer⟩).gains ≠ some (.transition x t))
    (hfinish : ∀ t succeeded, c ≠ .swapChainState x (.finishTransition t succeeded)) :
    carries x (afterCall s.threads i entry past c next answer) = carries x s.threads := by
  funext t j
  rw [carries_afterCall]
  split
  · next hj =>
    subst hj
    rw [carries_self hi, Transfer.count_after_of_ne]
    · intro hgives
      obtain ⟨succeeded, rfl⟩ := gives_transition hgives
      exact hfinish t succeeded rfl
    · exact fun hgains => hbegin (gains_transition hgains) t hgains
  · rfl

/-- Who is handed a transition carries it once more, and nothing else changes. -/
theorem carries_gain {t : ManagedColorSpaceTransition}
    (hi : s.threads i = some ⟨entry, past, .call c next⟩)
    (hgives : (transfer ⟨c, answer⟩).gives = none)
    (hgains : (transfer ⟨c, answer⟩).gains = some (.transition x t))
    (t' : ManagedColorSpaceTransition) (j : Nat) :
    carries x (afterCall s.threads i entry past c next answer) t' j =
      if t = t' ∧ i = j then carries x s.threads t' j + 1 else carries x s.threads t' j := by
  have hkeeps : (transfer ⟨c, answer⟩).gives ≠ some (.transition x t') := by
    rw [hgives]
    exact (Option.some_ne_none _).symm
  rw [carries_afterCall]
  by_cases hj : j = i
  · subst hj
    rw [if_pos rfl, carries_self hi]
    by_cases ht : t = t'
    · subst ht
      rw [if_pos ⟨rfl, rfl⟩, Transfer.count_after_gain hkeeps hgains]
    · rw [if_neg fun h => ht h.1, Transfer.count_after_of_ne hkeeps]
      rw [hgains]
      exact fun h => ht (Resource.transition.inj (Option.some.inj h)).2
  · rw [if_neg hj, if_neg fun h => hj h.2.symm]

/-- Who gives a transition up carries it once less, and nothing else changes. -/
theorem carries_give {t : ManagedColorSpaceTransition}
    (hi : s.threads i = some ⟨entry, past, .call c next⟩)
    (hgives : (transfer ⟨c, answer⟩).gives = some (.transition x t))
    (hgains : (transfer ⟨c, answer⟩).gains = none)
    (t' : ManagedColorSpaceTransition) (j : Nat) :
    carries x (afterCall s.threads i entry past c next answer) t' j =
      if t = t' ∧ i = j then carries x s.threads t' j - 1 else carries x s.threads t' j := by
  have hkeeps : (transfer ⟨c, answer⟩).gains ≠ some (.transition x t') := by
    rw [hgains]
    exact (Option.some_ne_none _).symm
  rw [carries_afterCall]
  by_cases hj : j = i
  · subst hj
    rw [if_pos rfl, carries_self hi]
    by_cases ht : t = t'
    · subst ht
      rw [if_pos ⟨rfl, rfl⟩, Transfer.count_after_give hgives hkeeps]
    · rw [if_neg fun h => ht h.1, Transfer.count_after_of_ne ?_ hkeeps]
      rw [hgives]
      exact fun h => ht (Resource.transition.inj (Option.some.inj h)).2
  · rw [if_neg hj, if_neg fun h => hj h.2.symm]

/-- **One call.** Whatever thread `i` calls, the swap chain is followed on. -/
theorem Followed.call {state state' : SwapChainState}
    (hf : Followed state (carries x s.threads)) (hstep : ChainStep x state ⟨c, answer⟩ state')
    (hi : s.threads i = some ⟨entry, past, .call c next⟩) (hallowed : Allowed entry past c)
    (hquiet : c = .removeSwapChainState x → ∀ t j, carries x s.threads t j = 0) :
    Followed state' (carries x (afterCall s.threads i entry past c next answer)) := by
  cases hstep with
  -- the call is about something else
  | kept hc =>
    rw [carries_of_ne hi]
    · exact hf
    · rintro rfl
      exact absurd rfl hc
    · rintro t succeeded rfl
      exact absurd rfl hc
  -- nobody carries a transition, so this is the beginning again
  | removed =>
    rw [carries_of_ne hi]
    · exact followed_initial (hquiet rfl)
    · exact fun h => by cases h
    · exact fun t succeeded h => by cases h
  | updated op =>
    -- a section that has nothing to do with transitions
    have hother (hbegin : op ≠ .beginTransition)
        (hfinish : ∀ t succeeded, op ≠ .finishTransition t succeeded) :
        carries x (afterCall s.threads i entry past (.swapChainState x op) next
          (op.apply state).1) = carries x s.threads :=
      carries_of_ne hi (fun h => absurd (Call.swapChainState.inj h).2 hbegin)
        fun t succeeded h => hfinish t succeeded (Call.swapChainState.inj h).2
    cases op with
    | ensure =>
      rw [hother (fun h => by cases h) fun _ _ h => by cases h]
      exact hf
    | request hdr =>
      rw [hother (fun h => by cases h) fun _ _ h => by cases h]
      exact hf.update (a := .request hdr) (fun _ => rfl) fun b hb => hb.request hdr
    | advanceGeneration =>
      rw [hother (fun h => by cases h) fun _ _ h => by cases h]
      exact hf.update (a := .reapplyAfterReconfiguration) (fun _ => rfl)
        fun b hb => hb.advanceGeneration
    | observeSetColorSpace1 requestedColorSpace =>
      rw [hother (fun h => by cases h) fun _ _ h => by cases h]
      exact hf.update (a := .externalSet requestedColorSpace) (fun _ => rfl)
        fun b hb => hb.observe requestedColorSpace
    -- the books are kept in fields that nothing here depends on
    | noteFirstPresent =>
      rw [hother (fun h => by cases h) fun _ _ h => by cases h]
      exact hf.keep fun b hb => ⟨hb.managed, hb.observed⟩
    | recordSignature signature =>
      rw [hother (fun h => by cases h) fun _ _ h => by cases h]
      exact hf.keep fun b hb => ⟨hb.managed, hb.observed⟩
    -- the thread carries what was handed out, if anything was
    | beginTransition =>
      show Followed state.beginManagedTransition.2 (carries x (afterCall s.threads i entry past
        (.swapChainState x .beginTransition) next state.beginManagedTransition.1))
      cases hbegin : state.beginManagedTransition.1 with
      | none =>
        rw [carries_of_ne hi (fun _ t h => by cases h) fun _ _ h => by cases h]
        exact hf.keep fun b hb => hb.begin_none hbegin
      | some t => exact hf.begin_some hbegin (carries_gain hi rfl rfl)
    -- by the discipline the thread holds the transition that it finishes
    | finishTransition t succeeded =>
      have hmem : .transition x t ∈ held entry past := hallowed.2 () (.transition x t) rfl
      have hpos : 0 < carries x s.threads t i := by
        rw [carries_self hi]
        exact Multiset.count_pos.mpr hmem
      exact hf.finish hpos succeeded (carries_give hi rfl rfl)

end Threads

/-! ### All runs -/

/-- The state of the swap chain is removed only while no thread carries a transition of it. -/
def ReleasedQuietly (code : HookFunction → UInt64) (x : UInt64) (s : ProcessState)
    (a : ThreadSystem.Action Call Call.Answer Entry (UInt64 × UInt64)) : Prop :=
  ∀ s' i, (process code).system.step s a = some s' →
    s'.history = .called i ⟨.removeSwapChainState x, ()⟩ :: s.history →
      ∀ t j, carries x s.threads t j = 0

section Runs

variable {s : ProcessState}

/-- A thread that begins holds no transition, and neither does one that has come to its end. -/
theorem carries_update {threads : Nat → Option Thread} {i : Nat} {thread : Option Thread}
    (hbefore : ∀ t, carries x threads t i = 0)
    (hafter : ∀ t, holding (discipline true) Entry.start (.transition x t) thread = 0) :
    carries x (Function.update threads i thread) = carries x threads := by
  funext t
  rw [carries, holdings_update, hafter, ← hbefore t]
  exact Function.update_eq_self ..

/-- A thread enters without a transition. -/
theorem holding_entered (entry : Entry) (t : ManagedColorSpaceTransition) :
    holding (discipline true) Entry.start (.transition x t) (some ⟨entry, [], entry.body⟩) = 0 := by
  show (Transfer.add entry.start 0).count (.transition x t) = 0
  cases entry with
  | initializationThread =>
    exact Multiset.count_eq_zero.mpr fun h => by cases Multiset.mem_singleton.mp h
  | _ => exact Multiset.count_zero _

/-- **Every swap chain of the process is one of `presentThreads`**, from when its state is made
until it is removed, and so again when it is captured anew. -/
theorem chain_refines (h : (process code).system.ReachableWhere (ReleasedQuietly code x) s) :
    Followed (s.shared.chain x) (carries x s.threads) := by
  refine h.invariant_of_reachable
    (I := fun s => Followed (s.shared.chain x) (carries x s.threads)) ?_ ?_
  -- there is no state and there are no threads
  · rintro s ⟨hinit, hthreads, -⟩
    rw [Globals.chain, hinit.swapChainStates]
    refine followed_initial fun t i => ?_
    rw [carries, holdings, hthreads i, holding]
  · intro s a s' hreachable ih hquiet hs
    cases ThreadSystem.step_of_system hs with
    | @entered i entry g hfree henter =>
      -- to enter changes nothing that is kept for a swap chain
      have hchain : g.chain x = s.shared.chain x := by
        cases entry with
        | initializationThread =>
          obtain ⟨-, henter⟩ := Option.ite_none_right_eq_some.mp henter
          obtain rfl := Option.some.inj henter
          rfl
        | _ =>
          obtain rfl := Option.some.inj henter
          rfl
      show Followed (g.chain x)
        (carries x (Function.update s.threads i (some ⟨entry, [], entry.body⟩)))
      rw [hchain, carries_update _ fun t => holding_entered entry t]
      · exact ih
      · intro t
        rw [carries, holdings, hfree, holding]
    | @called i entry past c next answer g hi hperform =>
      refine ih.call (perform_chainStep hperform) hi (thread_allowed hreachable hi).1 ?_
      rintro rfl
      exact hquiet _ i hs rfl
    | @returned i entry past result hi =>
      -- who returns holds nothing
      have hnothing : held entry past = 0 := thread_allowed hreachable hi
      show Followed (s.shared.chain x) (carries x (Function.update s.threads i none))
      rw [carries_update _ fun t => rfl]
      · exact ih
      · intro t
        rw [carries, holdings, hi]
        show (held entry past).count _ = 0
        rw [hnothing, Multiset.count_zero]
    | @disturbed d g hdisturb =>
      obtain rfl := Option.some.inj hdisturb
      exact ih

/-- A state that was never removed was never removed while somebody presented. -/
theorem releasedQuietly_of_kept (h : (process code).system.Reachable s)
    (hkept : s.history.all (fun e => !removesState e) = true) :
    (process code).system.ReachableWhere (ReleasedQuietly code x) s := by
  induction h with
  | init h₀ => exact .init h₀
  | @step s s' a h _ hs ih =>
    have hsuffix : s.history <:+ s'.history := by
      cases ThreadSystem.step_of_system hs with
      | disturbed => exact List.suffix_refl _
      | _ => exact List.suffix_cons _ _
    refine .step (ih ?_) ?_ hs
    · exact List.all_eq_true.mpr fun e he =>
        List.all_eq_true.mp hkept e (hsuffix.subset he)
    · intro s'' i hs'' hhistory
      obtain rfl := Option.some.inj (hs.symm.trans hs'')
      rw [hhistory] at hkept
      cases hkept

/-- The swap chain of the sample session, before its first frame. -/
theorem chain_refines_session :
    ∃ r, sampleSession = some r ∧
      Followed (r.1.chain 0x5800) (carries 0x5800 fun _ => none) := by
  obtain ⟨r, hr, htest⟩ := (Option.any_eq_true ..).mp sampleSession_setsColorSpace
  simp only [frameSetsColorSpace, Bool.and_eq_true] at htest
  exact ⟨r, hr, chain_refines (releasedQuietly_of_kept (reachable_sampleSession hr) htest.1.1.1)⟩

/-- **One transition at a time**, in every run of the process: no two threads, whichever hooks
they are in, have begun a transition on the same swap chain and not finished it, and what is
kept for the swap chain meets the invariant of the interleavings. -/
theorem chain_exclusive (h : (process code).system.ReachableWhere (ReleasedQuietly code x) s) :
    ∃ outstanding : List ManagedColorSpaceTransition,
      InterleavedState.Inv ⟨(s.shared.chain x).managedColorSpace,
        (s.shared.chain x).observedColorSpace, outstanding⟩ ∧
      ∀ t i, 0 < carries x s.threads t i → outstanding = [t] ∧ carries x s.threads t i = 1 ∧
        ∀ t' j, 0 < carries x s.threads t' j → j = i := by
  obtain ⟨u, hu, halike, hcarried⟩ := chain_refines h
  obtain ⟨⟨managed, observed, outstanding⟩, -, hf⟩ :=
    (ThreadedState.presentThreads_simulation Nat 0).reachable hu
  -- whoever carries a transition is in flight
  have hphase (t : ManagedColorSpaceTransition) (i : Nat) (hpos : 0 < carries x s.threads t i) :
      u.phase i = .begun t := by
    by_contra hphase
    rw [hcarried, if_neg hphase] at hpos
    exact absurd hpos (Nat.lt_irrefl 0)
  have hmanaged : managed = (s.shared.chain x).managedColorSpace :=
    hf.managed.trans halike.managed
  have hobserved : observed = (s.shared.chain x).observedColorSpace :=
    hf.observed.trans halike.observed
  refine ⟨outstanding, hmanaged ▸ hobserved ▸ hf.inv, fun t i hpos => ?_⟩
  have hi := hphase t i hpos
  refine ⟨hf.carried i t ?_, ?_, fun t' j hpos' => ?_⟩
  · rw [hi, PresentPhase.inFlight]
  · rw [hcarried, if_pos hi]
  · refine hf.alone j i ?_ ?_
    · rw [hphase t' j hpos', PresentPhase.inFlight]
      exact Option.some_ne_none t'
    · rw [hi, PresentPhase.inFlight]
      exact Option.some_ne_none t

/-- The first frame of the sample session is being presented. -/
theorem chain_exclusive_session :
    ∃ (s : ProcessState) (t : ManagedColorSpaceTransition), carries 0x5800 s.threads t 0 = 1 ∧
      ∀ t' j, 0 < carries 0x5800 s.threads t' j → j = 0 := by
  obtain ⟨r, hr, htest⟩ := (Option.any_eq_true ..).mp sampleSession_setsColorSpace
  simp only [frameSetsColorSpace, Bool.and_eq_true] at htest
  obtain ⟨⟨⟨hkept, hfunction⟩, hbegin⟩, -⟩ := htest
  obtain ⟨function, hfunction⟩ := Option.isSome_iff_exists.mp hfunction
  obtain ⟨t, ht⟩ := Option.isSome_iff_exists.mp hbegin
  have h := ThreadSystem.reachable_enter 0 (.hook (.present 0x5800 1 0))
    (reachable_sampleSession hr) rfl
  have h := ThreadSystem.reachable_call (some function) h
    (Globals.load_eq_some.mpr ⟨hfunction.symm, rfl⟩)
  have h := ThreadSystem.reachable_call (some t) h (Globals.load_eq_some.mpr ⟨ht.symm, rfl⟩)
  obtain ⟨outstanding, -, hexclusive⟩ :=
    chain_exclusive (x := 0x5800) (releasedQuietly_of_kept h hkept)
  obtain ⟨-, hone, halone⟩ := hexclusive t 0 (by
    rw [carries, holdings, ThreadSystem.State.alone_threads]
    exact Multiset.count_pos.mpr (Multiset.mem_singleton_self _))
  exact ⟨_, t, hone, halone⟩

end Runs

end Runtime
end WindowedHdr
