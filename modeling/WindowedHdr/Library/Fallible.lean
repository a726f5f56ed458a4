import Mathlib.Algebra.Group.Nat.Defs
import Mathlib.Tactic.Common

/-!
# Computations that may fail

`Except` chains: the error of the first step that fails, or the value of the last. A chain
succeeds exactly when each of its steps does, and `Except.bind_eq_ok` takes one step off
its front; `Except.require` and `Option.okOr` are the two most frequent steps.

`Usize` is the checked arithmetic of a 64-bit machine word on natural numbers: an operation
whose exact result does not fit has none.

The lemmas come as equivalences, so that one of them both takes a successful call apart and puts
one together.
-/

universe u v w

namespace Except

variable {ε : Type u} {α : Type v} {β : Type v}

/-- A chain succeeds exactly when its first step and the rest do. -/
theorem bind_eq_ok {x : Except ε α} {f : α → Except ε β} {b : β} :
    (x >>= f) = .ok b ↔ ∃ a, x = .ok a ∧ f a = .ok b := by
  cases x with
  | error e =>
    -- a first step that fails is the result of the chain
    refine iff_of_false (fun h => nomatch h) ?_
    rintro ⟨a, ha, -⟩
    exact nomatch ha
  | ok a =>
    constructor
    · intro h
      exact ⟨a, rfl, h⟩
    · rintro ⟨a', ha, h⟩
      obtain rfl := Except.ok.inj ha
      exact h

/-- Every value that the computation can end with satisfies `Q`. -/
def Ensures (x : Except ε α) (Q : α → Prop) : Prop := ∀ a, x = .ok a → Q a

/-- A value ensures what holds of it. -/
theorem Ensures.pure {Q : α → Prop} {a : α} (h : Q a) : Ensures (Pure.pure a : Except ε α) Q := by
  intro a' ha'
  obtain rfl := Except.ok.inj ha'
  exact h

/-- A step is passed over when what follows ensures `Q` whatever the step returns. -/
theorem Ensures.bind {x : Except ε α} {f : α → Except ε β} {Q : β → Prop}
    (hf : ∀ a, (f a).Ensures Q) : (x >>= f).Ensures Q := by
  intro b hb
  obtain ⟨a, -, h⟩ := bind_eq_ok.mp hb
  exact hf a b h

/-- Fail with `e` unless the condition holds. -/
def require (condition : Prop) [Decidable condition] (e : ε) : Except ε PUnit :=
  if condition then .ok ⟨⟩ else .error e

/-- A requirement is passed exactly when the condition holds. -/
theorem require_eq_ok {condition : Prop} [Decidable condition] {e : ε} {a : PUnit} :
    require condition e = .ok a ↔ condition := by
  rw [require]
  split
  · next h => exact iff_of_true rfl h
  · next h => exact iff_of_false (fun h' => nomatch h') h

/-- A condition that holds is passed. -/
theorem require_of {condition : Prop} [Decidable condition] {e : ε} (h : condition) :
    require condition e = .ok ⟨⟩ := if_pos h

/-- A condition that fails is the error. -/
theorem require_of_not {condition : Prop} [Decidable condition] {e : ε} (h : ¬ condition) :
    require condition e = .error e := if_neg h

/-- A pass over a list succeeds exactly when it does at every element. -/
theorem forM_eq_ok {γ : Type w} {l : List γ} {f : γ → Except ε PUnit} {a : PUnit} :
    l.forM f = .ok a ↔ ∀ x ∈ l, f x = .ok ⟨⟩ := by
  induction l with
  | nil => exact iff_of_true rfl (fun _ hx => nomatch hx)
  | cons x l ih =>
    -- the head, and then the pass over the tail
    rw [List.forall_mem_cons, ← ih]
    refine Iff.trans (bind_eq_ok (x := f x) (f := fun _ => l.forM f)) ?_
    constructor
    · rintro ⟨_, hx, hl⟩
      exact ⟨hx, hl⟩
    · rintro ⟨hx, hl⟩
      exact ⟨_, hx, hl⟩

/-- Fail with `e` unless the condition holds; what follows may rely on it. -/
def establish (condition : Prop) [Decidable condition] (e : ε) : Except ε (PLift condition) :=
  if h : condition then .ok ⟨h⟩ else .error e

/-- A condition that holds is passed on. -/
theorem establish_of {condition : Prop} [Decidable condition] {e : ε} (h : condition) :
    establish condition e = .ok ⟨h⟩ := dif_pos h

/-- A condition that fails is the error. -/
theorem establish_of_not {condition : Prop} [Decidable condition] {e : ε} (h : ¬ condition) :
    establish condition e = .error e := dif_neg h

/-- A pass over a list that collects results, where `g` is what `f` returns when `P` lets it. -/
theorem mapM_eq_ok {γ : Type w} {f : γ → Except ε α} {g : γ → α} {P : γ → Prop}
    (hf : ∀ x a, f x = .ok a ↔ P x ∧ a = g x) {l : List γ} {r : List α} :
    l.mapM f = .ok r ↔ (∀ x ∈ l, P x) ∧ r = l.map g := by
  induction l generalizing r with
  | nil =>
    rw [List.mapM_nil, List.map_nil]
    constructor
    · intro h
      exact ⟨fun _ hx => (nomatch hx), (Except.ok.inj h).symm⟩
    · rintro ⟨-, rfl⟩
      rfl
  -- the head is passed by itself, and the tail by induction
  | cons x l ih =>
    rw [List.mapM_cons, bind_eq_ok, List.forall_mem_cons, List.map_cons]
    constructor
    · rintro ⟨a, ha, h⟩
      obtain ⟨r', hr', h⟩ := bind_eq_ok.mp h
      obtain rfl := Except.ok.inj h
      obtain ⟨hx, rfl⟩ := (hf x a).mp ha
      obtain ⟨hl, rfl⟩ := ih.mp hr'
      exact ⟨⟨hx, hl⟩, rfl⟩
    · rintro ⟨⟨hx, hl⟩, rfl⟩
      refine ⟨g x, (hf x _).mpr ⟨hx, rfl⟩, ?_⟩
      exact bind_eq_ok.mpr ⟨l.map g, ih.mpr ⟨hl, rfl⟩, rfl⟩

/-- The value of a computation is that of its success. -/
theorem toOption_eq_some {x : Except ε α} {a : α} : x.toOption = some a ↔ x = .ok a := by
  cases x with
  | error e => exact iff_of_false (fun h => nomatch h) (fun h => nomatch h)
  | ok b => exact ⟨fun h => congrArg Except.ok (Option.some.inj h), fun h =>
      congrArg some (Except.ok.inj h)⟩

/-- A pass over a list succeeds exactly when it does at every element, and collects the
results. -/
theorem mapM_eq_ok_toOption {γ : Type w} {f : γ → Except ε α} {l : List γ} {r : List α} :
    l.mapM f = .ok r ↔
      (∀ x ∈ l, ∃ a, f x = .ok a) ∧ r = l.filterMap fun x => (f x).toOption := by
  induction l generalizing r with
  | nil =>
    rw [List.mapM_nil]
    constructor
    · intro h
      exact ⟨fun _ hx => (nomatch hx), (Except.ok.inj h).symm⟩
    · rintro ⟨-, rfl⟩
      rfl
  | cons x l ih =>
    rw [List.mapM_cons, bind_eq_ok, List.forall_mem_cons]
    constructor
    · rintro ⟨a, ha, h⟩
      obtain ⟨r', hr', h⟩ := bind_eq_ok.mp h
      obtain rfl := Except.ok.inj h
      obtain ⟨hl, rfl⟩ := ih.mp hr'
      -- the collected head is the value of the head
      refine ⟨⟨⟨a, ha⟩, hl⟩, ?_⟩
      rw [List.filterMap_cons, toOption_eq_some.mpr ha]
    · rintro ⟨⟨⟨a, ha⟩, hl⟩, rfl⟩
      refine ⟨a, ha, bind_eq_ok.mpr ⟨_, ih.mpr ⟨hl, rfl⟩, ?_⟩⟩
      -- the filter keeps the head, since it has a value
      rw [List.filterMap_cons, toOption_eq_some.mpr ha]
      rfl

end Except

/-- The value of an option, or the error `e`. -/
def Option.okOr {ε : Type u} {α : Type v} (x : Option α) (e : ε) : Except ε α :=
  match x with
  | some a => .ok a
  | none => .error e

/-- Only the value of the option makes a success. -/
theorem Option.okOr_eq_ok {ε : Type u} {α : Type v} {x : Option α} {e : ε} {a : α} :
    x.okOr e = .ok a ↔ x = some a := by
  cases x with
  | none => exact iff_of_false (fun h => nomatch h) (fun h => nomatch h)
  | some b => exact ⟨fun h => congrArg some (Except.ok.inj h), fun h =>
      congrArg Except.ok (Option.some.inj h)⟩

namespace Usize

/-- The first number that is not a machine word. -/
def size : Nat := 2 ^ 64

/-- `checked_add`. -/
def checkedAdd (a b : Nat) : Option Nat := if a + b < size then some (a + b) else none

/-- `checked_sub`. -/
def checkedSub (a b : Nat) : Option Nat := if b ≤ a then some (a - b) else none

/-- `checked_mul`. -/
def checkedMul (a b : Nat) : Option Nat := if a * b < size then some (a * b) else none

variable {a b c : Nat}

/-- A sum exists exactly when it fits. -/
theorem checkedAdd_eq_some : checkedAdd a b = some c ↔ c = a + b ∧ a + b < size := by
  rw [checkedAdd]
  split <;> grind

/-- A difference exists exactly when it is not negative. -/
theorem checkedSub_eq_some : checkedSub a b = some c ↔ c = a - b ∧ b ≤ a := by
  rw [checkedSub]
  split <;> grind

/-- A product exists exactly when it fits. -/
theorem checkedMul_eq_some : checkedMul a b = some c ↔ c = a * b ∧ a * b < size := by
  rw [checkedMul]
  split <;> grind

end Usize
