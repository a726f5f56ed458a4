import Mathlib.Logic.Relation
import Mathlib.Tactic.Common

/-!
# Action-deterministic transition systems

A system whose nondeterminism sits in its actions: an action names the thread that
moves together with every answer the environment gives it, and `step` then has at
most one successor. An action that is not enabled in a state has no successor.

* `ActionSystem.run` executes a list of actions, so a run is a value that can be
  evaluated, and a run to a named state is a closed fact.
* `ActionSystem.ReachableWhere P` are the states of the runs all of whose steps meet
  the condition `P` on the state before the step and the action; `Reachable` is the
  unrestricted case.
* `ReachableWhere.invariant` is the induction over a run, stated once: what holds
  initially and is carried by every step that meets `P` holds in every state of such
  a run. `LeadsToWhere.stable` is the same induction over a continuation.
* `countSteps` is the number of steps of a run that a predicate counts, and
  `countSteps_le` bounds it by a potential that every counted step lowers.
* `Simulation` relates two systems step by run, and `Simulation.reachable` carries
  reachability along it.

A property of all runs is proved by an invariant, and a property of a system that is built on
another one by a simulation; both rules are stated for runs whose steps meet a condition, which
is how an assumption about the environment enters a theorem.
-/

universe u v w x

/-- A transition system with initial states `Init` and one partial step function. -/
structure ActionSystem (State : Type u) (Action : Type v) where
  /-- The initial states. -/
  Init : State → Prop
  /-- The successor of a state under an action, `none` when the action is not enabled. -/
  step : State → Action → Option State

namespace ActionSystem

variable {State : Type u} {Action : Type v} (M : ActionSystem State Action)

/-- Execute a list of actions in order. -/
def run : State → List Action → Option State
  | s, [] => some s
  | s, a :: as => (M.step s a).bind fun s' => run s' as

/-- A run of no actions ends where it started. -/
@[simp] theorem run_nil (s : State) : M.run s [] = some s := rfl

/-- A run takes its first action first. -/
@[simp] theorem run_cons (s : State) (a : Action) (as : List Action) :
    M.run s (a :: as) = (M.step s a).bind fun s' => M.run s' as := rfl

/-- The number of steps of a run that `C` counts. -/
def countSteps (C : State → Action → Bool) : State → List Action → Nat
  | _, [] => 0
  | s, a :: as => (C s a).toNat + (M.step s a).elim 0 fun s' => countSteps C s' as

/-- The states of the runs from an initial state every step of which meets `P`. -/
inductive ReachableWhere (P : State → Action → Prop) : State → Prop
  | init {s : State} : M.Init s → ReachableWhere P s
  | step {s s' : State} {a : Action} :
      ReachableWhere P s → P s a → M.step s a = some s' → ReachableWhere P s'

/-- The reachable states: no condition on the steps. -/
abbrev Reachable : State → Prop := M.ReachableWhere fun _ _ => True

variable {M} {P Q : State → Action → Prop}

/-- A weaker condition on the steps reaches at least as much. -/
theorem ReachableWhere.mono (hPQ : ∀ s a, P s a → Q s a) {s : State}
    (h : M.ReachableWhere P s) : M.ReachableWhere Q s := by
  induction h with
  | init h₀ => exact .init h₀
  | step _ hP hs ih => exact .step ih (hPQ _ _ hP) hs

/-- A condition on the steps only removes runs. -/
theorem ReachableWhere.reachable {s : State} (h : M.ReachableWhere P s) : M.Reachable s :=
  h.mono fun _ _ _ => trivial

/-- The invariant rule with what is known of every reachable state at hand. -/
theorem ReachableWhere.invariant_of_reachable {I : State → Prop}
    (hinit : ∀ s, M.Init s → I s)
    (hstep : ∀ s a s', M.Reachable s → I s → P s a → M.step s a = some s' → I s')
    {s : State} (h : M.ReachableWhere P s) : I s := by
  -- induction on the run, at its last step
  induction h with
  | init h₀ => exact hinit _ h₀
  | step hr hP hs ih => exact hstep _ _ _ hr.reachable ih hP hs

/-- **The invariant rule.** What holds initially and is carried by every step that
meets `P` holds in every state of a run whose steps all meet `P`. -/
theorem ReachableWhere.invariant {I : State → Prop} (hinit : ∀ s, M.Init s → I s)
    (hstep : ∀ s a s', I s → P s a → M.step s a = some s' → I s') {s : State}
    (h : M.ReachableWhere P s) : I s :=
  h.invariant_of_reachable hinit fun s a s' _ => hstep s a s'

/-- What one action makes of a reachable state is reachable. -/
theorem Reachable.step {s s' : State} {a : Action} (h : M.Reachable s)
    (hs : M.step s a = some s') : M.Reachable s' :=
  ReachableWhere.step h trivial hs

/-- One step that meets `P`, whatever its action. -/
def Next (M : ActionSystem State Action) (P : State → Action → Prop) (s s' : State) : Prop :=
  ∃ a, P s a ∧ M.step s a = some s'

/-- A continuation of any length all of whose steps meet `P`. -/
def LeadsToWhere (M : ActionSystem State Action) (P : State → Action → Prop) :
    State → State → Prop :=
  Relation.ReflTransGen (M.Next P)

/-- **The continuation rule.** What is carried by every step that meets `P` holds at
the end of a continuation when it holds at its start. -/
theorem LeadsToWhere.stable {I : State → Prop}
    (hstep : ∀ s a s', I s → P s a → M.step s a = some s' → I s') {s s' : State}
    (h : M.LeadsToWhere P s s') (hs : I s) : I s' := by
  -- induction on the length of the continuation, at its end
  induction h with
  | refl => exact hs
  | tail _ hn ih =>
    obtain ⟨a, hP, ha⟩ := hn
    exact hstep _ _ _ ih hP ha

/-- A weaker condition on the steps leads to at least as much. -/
theorem LeadsToWhere.mono (hPQ : ∀ s a, P s a → Q s a) {s s' : State}
    (h : M.LeadsToWhere P s s') : M.LeadsToWhere Q s s' := by
  have hle : M.Next P ≤ M.Next Q := by
    rintro t t' ⟨a, hP, ha⟩
    exact ⟨a, hPQ t a hP, ha⟩
  exact Relation.ReflTransGen.mono hle s s' h

/-- The states of a run are closed under continuations that meet the same condition. -/
theorem ReachableWhere.leadsTo {s s' : State} (h : M.ReachableWhere P s)
    (hl : M.LeadsToWhere P s s') : M.ReachableWhere P s' :=
  hl.stable (fun _ _ _ hr hP ha => hr.step hP ha) h

/-- A run of actions that meet the condition in any state. -/
theorem ReachableWhere.run {s s' : State} {as : List Action} (h : M.ReachableWhere P s)
    (hP : ∀ s, ∀ a ∈ as, P s a) (hr : M.run s as = some s') : M.ReachableWhere P s' := by
  induction as generalizing s with
  | nil =>
    obtain rfl := Option.some.inj hr
    exact h
  | cons a as ih =>
    rw [run_cons, Option.bind_eq_some_iff] at hr
    obtain ⟨t, ht, hr⟩ := hr
    have hreach : M.ReachableWhere P t := h.step (hP s a List.mem_cons_self) ht
    exact ih hreach (fun s b hb => hP s b (List.mem_cons_of_mem a hb)) hr

/-- A run from a reachable state stays among the reachable states. -/
theorem Reachable.run {s s' : State} {as : List Action} (h : M.Reachable s)
    (hr : M.run s as = some s') : M.Reachable s' :=
  ReachableWhere.run h (fun _ _ _ => trivial) hr

/-- A run from an initial state ends in a reachable state. -/
theorem reachable_of_run {s s' : State} {as : List Action} (hi : M.Init s)
    (hr : M.run s as = some s') : M.Reachable s' :=
  Reachable.run (.init hi) hr

/-! ### Bounded counts -/

/-- **The potential rule.** When no step raises `φ` and every counted step lowers it, a
run has at most as many counted steps as `φ` is worth at its start. -/
theorem countSteps_le {I : State → Prop} {C : State → Action → Bool} (φ : State → Nat)
    (hstep : ∀ s a s', I s → M.step s a = some s' →
      I s' ∧ (C s a).toNat + φ s' ≤ φ s)
    {s s' : State} {as : List Action} (hs : I s) (hr : M.run s as = some s') :
    M.countSteps C s as ≤ φ s := by
  induction as generalizing s with
  | nil => exact Nat.zero_le _
  | cons a as ih =>
    rw [run_cons, Option.bind_eq_some_iff] at hr
    obtain ⟨t, ht, hr⟩ := hr
    obtain ⟨hI, hφ⟩ := hstep s a t hs ht
    -- the tail counts no more than `φ` is worth after the first step
    have htail : M.countSteps C t as ≤ φ t := ih hI hr
    calc M.countSteps C s (a :: as)
        = (C s a).toNat + M.countSteps C t as := by simp [countSteps, ht]
      _ ≤ (C s a).toNat + φ t := Nat.add_le_add_left htail _
      _ ≤ φ s := hφ

/-! ### Simulation -/

/-- `N` follows `M` along `R`: related initial states exist, and every step of `M` is
answered by a run of `N` that ends in a related state. -/
structure Simulation {State' : Type w} {Action' : Type x} (M : ActionSystem State Action)
    (N : ActionSystem State' Action') (R : State → State' → Prop) : Prop where
  init : ∀ s, M.Init s → ∃ t, N.Init t ∧ R s t
  step : ∀ s t a s', R s t → M.step s a = some s' →
    ∃ as t', N.run t as = some t' ∧ R s' t'

/-- Every reachable state of `M` is related to a reachable state of `N`. -/
theorem Simulation.reachable {State' : Type w} {Action' : Type x}
    {N : ActionSystem State' Action'} {R : State → State' → Prop}
    (sim : Simulation M N R) {s : State} (h : M.Reachable s) :
    ∃ t, N.Reachable t ∧ R s t := by
  induction h with
  | init h₀ =>
    obtain ⟨t, ht, hR⟩ := sim.init _ h₀
    exact ⟨t, .init ht, hR⟩
  | step _ _ hs ih =>
    -- the run that answers the last step extends the run found so far
    obtain ⟨t, ht, hR⟩ := ih
    obtain ⟨as, t', hrun, hR'⟩ := sim.step _ _ _ _ hR hs
    exact ⟨t', ht.run hrun, hR'⟩

end ActionSystem
