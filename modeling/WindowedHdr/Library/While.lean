import Mathlib.Tactic.Common

/-!
# Loops

A loop is a step function: a pass through its body goes on with another state or is done
with a result. `run` makes a bounded number of passes.

* `exists_run_eq` — a loop whose passes decrease a measure ends, with one result whatever
  the bound, and the measure bounds the passes it takes.
* `run_induction` — what holds of the result when a pass is done, and is handed back from
  the next state to the one before it, holds of the result of the run.

The bound is only there to make the function total: when it is larger than the measure at the
start, the result does not depend on it, so a theorem about `run` at such a bound is a theorem
about the loop.
-/

namespace While

universe u v

/-- The outcome of one pass through the body of a loop. -/
inductive Pass (σ : Type u) (α : Type v) where
  | again (s : σ)
  | done (result : α)

variable {σ : Type u} {α : Type v} {body : σ → Pass σ α}

/-- At most `fuel` passes; `none` when they do not end the loop. -/
def run (body : σ → Pass σ α) : Nat → σ → Option α
  | 0, _ => none
  | fuel + 1, s =>
    match body s with
    | .again s' => run body fuel s'
    | .done result => some result

/-- One unit of fuel is one pass. -/
theorem run_succ (fuel : Nat) (s : σ) :
    run body (fuel + 1) s = match body s with
      | .again s' => run body fuel s'
      | .done result => some result := rfl

/-- **Termination.** -/
theorem exists_run_eq (measure : σ → Nat)
    (hbody : ∀ s s', body s = .again s' → measure s' < measure s) (s : σ) :
    ∃ result, ∀ fuel, measure s < fuel → run body fuel s = some result := by
  -- on the measure, for all states at once
  induction hn : measure s using Nat.strongRecOn generalizing s with
  | ind n ih =>
    cases hs : body s with
    | done result =>
      refine ⟨result, fun fuel hfuel => ?_⟩
      obtain ⟨fuel, rfl⟩ := Nat.exists_eq_add_one_of_ne_zero (Nat.ne_zero_of_lt hfuel)
      rw [run_succ, hs]
    | again s' =>
      -- one pass more than from the next state
      have hlt : measure s' < n := hn ▸ hbody s s' hs
      obtain ⟨result, hresult⟩ := ih (measure s') hlt s' rfl
      refine ⟨result, fun fuel hfuel => ?_⟩
      obtain ⟨fuel, rfl⟩ := Nat.exists_eq_add_one_of_ne_zero (Nat.ne_zero_of_lt hfuel)
      rw [run_succ, hs]
      exact hresult fuel (by omega)

/-- **Induction over the passes.** -/
theorem run_induction {P : σ → α → Prop} (hdone : ∀ s result, body s = .done result → P s result)
    (hagain : ∀ s s' result, body s = .again s' → P s' result → P s result) {fuel : Nat} {s : σ}
    {result : α} (h : run body fuel s = some result) : P s result := by
  induction fuel generalizing s with
  | zero => cases h
  | succ fuel ih =>
    rw [run_succ] at h
    cases hs : body s with
    | again s' =>
      rw [hs] at h
      exact hagain s s' result hs (ih h)
    | done result' =>
      rw [hs] at h
      obtain rfl := Option.some.inj h
      exact hdone s result' hs

end While
