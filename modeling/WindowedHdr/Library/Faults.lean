import WindowedHdr.Library.Fallible

/-!
# Computations that may fault

A computation that stops without a value either returns an error or faults: it panics, its
arithmetic leaves the machine word, or it reads memory that it may not read. Code written
with operations that fault where the machine's would is free of faults exactly when it ends
as some computation of type `Except ε α` does (`Except.guarded`).

The lemmas are about one step of such a computation at a time. A step that does not fault is a
guarded step, and a chain of guarded steps is the guarded chain (`bind_eq_guarded`), also in a
fold, where an invariant of the steps before may be used (`foldlM_eq_guarded`). `Returns` is the
weaker statement, with a postcondition in place of the plain computation.
-/

universe u v w

/-- Why a computation ends without a value. -/
inductive Stop (ε : Type u) where
  /-- It returns an error. -/
  | error (e : ε)
  /-- It does what no execution may do. -/
  | fault
  deriving DecidableEq

namespace Except

variable {ε : Type u} {α : Type v} {β : Type v}

/-- The computation `x`, which never faults. -/
def guarded (x : Except ε α) : Except (Stop ε) α :=
  match x with
  | .ok a => .ok a
  | .error e => .error (.error e)

/-- Return the error `e`. -/
def fail (e : ε) : Except (Stop ε) α := .error (.error e)

/-- The value of `x`; without one, a fault. -/
def expect (x : Option α) : Except (Stop ε) α :=
  match x with
  | some a => .ok a
  | none => .error .fault

/-- A value is there. -/
@[simp] theorem expect_some (a : α) : (expect (some a) : Except (Stop ε) α) = .ok a := rfl

/-- The value of `x`, or none when it returns an error. -/
def attempt (x : Except (Stop ε) α) : Except (Stop ε) (Option α) :=
  match x with
  | .ok a => .ok (some a)
  | .error (.error _) => .ok none
  -- a fault is not caught
  | .error .fault => .error .fault

/-! ### Code that ends as a plain computation does

The faulting steps of such code are taken away where they stand (`bind_of_eq_ok`), and what is
left is compared step by step (`bind_eq_guarded`). -/

/-- A plain computation does not fault. -/
theorem guarded_ne_fault (x : Except ε α) : x.guarded ≠ .error .fault := by
  cases x with
  | ok a => exact fun h => (nomatch h)
  | error e => exact fun h => (nomatch Except.error.inj h)

/-- What ends as a plain computation does not fault. -/
theorem ne_fault_of_eq_guarded {y : Except (Stop ε) α} {x : Except ε α} (h : y = x.guarded) :
    y ≠ .error .fault := by
  rw [h]
  exact x.guarded_ne_fault

/-- It ends with the value of the plain computation. -/
theorem guarded_eq_ok {x : Except ε α} {a : α} : x.guarded = .ok a ↔ x = .ok a := by
  cases x with
  | ok b => rw [guarded, Except.ok.injEq, Except.ok.injEq]
  | error e => exact iff_of_false (fun h => by cases h) fun h => by cases h

/-- To attempt a plain computation is to drop its error. -/
theorem attempt_guarded (x : Except ε α) : x.guarded.attempt = .ok x.toOption := by
  cases x with
  | ok a => rfl
  | error e => rfl

/-- A step that cannot fault is a plain one. -/
theorem bind_of_eq_ok {y : Except (Stop ε) α} {g : α → Except (Stop ε) β}
    {z : Except (Stop ε) β} {a : α} (hy : y = .ok a) (hg : g a = z) : (y >>= g) = z := by
  rw [hy]
  exact hg

/-- **The rule of sequence.** What follows is compared for the values that the first step can
return. -/
theorem bind_eq_guarded {x : Except ε α} {f : α → Except ε β} {y : Except (Stop ε) α}
    {g : α → Except (Stop ε) β} (hy : y = x.guarded)
    (hg : ∀ a, x = .ok a → g a = (f a).guarded) : (y >>= g) = (x >>= f).guarded := by
  rw [hy]
  -- an error of the first step is the error of both
  cases x with
  | ok a => exact hg a rfl
  | error e => rfl

/-- The rule of sequence, where the values of the plain computation are read as others. -/
theorem bind_eq_guarded_map {γ : Type v} {h : β → γ} {x : Except ε α} {f : α → Except ε β}
    {y : Except (Stop ε) α} {g : α → Except (Stop ε) γ} (hy : y = x.guarded)
    (hg : ∀ a, x = .ok a → g a = ((f a).map h).guarded) :
    (y >>= g) = ((x >>= f).map h).guarded := by
  rw [hy]
  cases x with
  | ok a => exact hg a rfl
  | error e => rfl

/-- **The rule of the loop.** One pass does what `h` does with the value of a plain computation.
The invariant `J` relates what is left of the list to the accumulator. -/
theorem foldlM_eq_guarded {γ : Type w} {δ : Type v} {f : β → γ → Except (Stop ε) β}
    {g : γ → Except ε δ} {h : β → δ → β} {J : List γ → β → Prop}
    (hf : ∀ c l acc, J (c :: l) acc →
      f acc c = ((g c).map (h acc)).guarded ∧ ∀ d, g c = .ok d → J l (h acc d))
    {l : List γ} {acc : β} (hacc : J l acc) :
    l.foldlM f acc = ((l.mapM g).map fun ds => ds.foldl h acc).guarded := by
  induction l generalizing acc with
  | nil =>
    rw [List.foldlM_nil, List.mapM_nil]
    rfl
  | cons c l ih =>
    -- this pass ends as its plain computation, and keeps the invariant for the passes left
    obtain ⟨hpass, hkept⟩ := hf c l acc hacc
    rw [List.foldlM_cons, List.mapM_cons, hpass]
    cases hd : g c with
    | error e => rfl
    | ok d =>
      -- the rest of the loop starts from what this pass made of the accumulator
      show l.foldlM f (h acc d) = _
      rw [ih (hkept d hd)]
      cases l.mapM g with
      | error e => rfl
      | ok ds => rfl

/-- **The rule of the loop that collects.** One pass appends what a plain computation gives for
the element. -/
theorem foldlM_append_eq_guarded {γ : Type w} {δ : Type v}
    {f : List β → γ → Except (Stop ε) (List β)} {g : γ → Except ε δ} {h : δ → List β} {l : List γ}
    (hf : ∀ c ∈ l, ∀ acc, f acc c = ((g c).map fun d => acc ++ h d).guarded) (acc : List β) :
    l.foldlM f acc = ((l.mapM g).map fun ds => acc ++ ds.flatMap h).guarded := by
  -- the invariant: what is left are elements of the list
  have hpass : ∀ c rest acc, (∀ c' ∈ c :: rest, c' ∈ l) →
      f acc c = ((g c).map fun d => acc ++ h d).guarded ∧
        ∀ d, g c = .ok d → ∀ c' ∈ rest, c' ∈ l := by
    intro c rest acc hrest
    exact ⟨hf c (hrest c (by simp)) acc, fun _ _ c' hc' => hrest c' (List.mem_cons_of_mem c hc')⟩
  rw [foldlM_eq_guarded (J := fun rest _ => ∀ c' ∈ rest, c' ∈ l) hpass fun c hc => hc]
  simp only [List.foldl_append_eq_append, List.flatMap_def]

/-- **The rule of the counted loop.** `I` relates the accumulator to the passes so far, of which
there are fewer than `bound` before each pass. -/
theorem foldlM_eq_ok {γ : Type w} {f : β → γ → Except ε β} {g : β → γ → β}
    {I : Nat → β → Prop} {bound : Nat} {l : List γ}
    (hf : ∀ c ∈ l, ∀ i < bound, ∀ acc, I i acc → f acc c = .ok (g acc c) ∧ I (i + 1) (g acc c))
    {i : Nat} {acc : β} (hi : i + l.length ≤ bound) (hacc : I i acc) :
    l.foldlM f acc = .ok (l.foldl g acc) ∧ I (i + l.length) (l.foldl g acc) := by
  induction l generalizing i acc with
  | nil => exact ⟨rfl, hacc⟩
  | cons c l ih =>
    -- one pass is done, and one fewer is left
    rw [List.length_cons] at hi
    obtain ⟨hstep, hkept⟩ := hf c (by simp) i (by omega) acc hacc
    rw [List.foldlM_cons, hstep, List.foldl_cons, List.length_cons,
      show i + (l.length + 1) = i + 1 + l.length by omega]
    exact ih (fun c' hc' => hf c' (List.mem_cons_of_mem c hc')) (by omega) hkept

/-! ### Freedom from faults

`x.Returns Q` is the judgment that `x` does not fault and that its value, if it has one,
satisfies `Q`. A chain is judged step by step (`Returns.bind`). -/

/-- The computation does not fault, and `Q` holds of its value. -/
def Returns (x : Except (Stop ε) α) (Q : α → Prop) : Prop :=
  x ≠ .error .fault ∧ ∀ a, x = .ok a → Q a

variable {x : Except (Stop ε) α} {P Q : α → Prop}

/-- A value returns. -/
theorem Returns.ok {a : α} (h : Q a) : (Except.ok a : Except (Stop ε) α).Returns Q := by
  refine ⟨fun heq => (nomatch heq), fun a' ha' => ?_⟩
  obtain rfl := Except.ok.inj ha'
  exact h

/-- A value returns. -/
theorem Returns.pure {a : α} (h : Q a) : (Pure.pure a : Except (Stop ε) α).Returns Q := .ok h

/-- A returned error is no fault. -/
theorem Returns.fail {e : ε} : (fail e : Except (Stop ε) α).Returns Q := by
  rw [Except.fail]
  refine ⟨fun heq => ?_, fun a ha => (nomatch ha)⟩
  cases Except.error.inj heq

/-- What is returned may be weakened. -/
theorem Returns.mono (h : x.Returns P) (hPQ : ∀ a, P a → Q a) : x.Returns Q :=
  ⟨h.1, fun a ha => hPQ a (h.2 a ha)⟩

/-- **The rule of sequence.** -/
theorem Returns.bind {f : α → Except (Stop ε) β} {Q : β → Prop} (hx : x.Returns P)
    (hf : ∀ a, P a → (f a).Returns Q) : (x >>= f).Returns Q := by
  cases x with
  | ok a => exact hf a (hx.2 a rfl)
  -- an error of the first step is the error of the whole
  | error stop =>
    refine ⟨fun heq => hx.1 ?_, fun b hb => (nomatch hb)⟩
    rw [Except.error.inj heq]

/-- What does not fault ends with a value or an error. -/
theorem Returns.cases (h : x.Returns Q) :
    (∃ a, x = .ok a ∧ Q a) ∨ ∃ e, x = .error (.error e) := by
  match x with
  | .ok a => exact .inl ⟨a, rfl, h.2 a rfl⟩
  | .error (.error e) => exact .inr ⟨e, rfl⟩
  -- excluded by the judgment
  | .error .fault => exact absurd rfl h.1

end Except

namespace Usize

variable {ε : Type u}

/-- `a + b`, which faults when it does not fit. -/
def add (a b : Nat) : Except (Stop ε) Nat := Except.expect (checkedAdd a b)

/-- `a - b`, which faults when it is negative. -/
def sub (a b : Nat) : Except (Stop ε) Nat := Except.expect (checkedSub a b)

/-- `a * b`, which faults when it does not fit. -/
def mul (a b : Nat) : Except (Stop ε) Nat := Except.expect (checkedMul a b)

variable {a b : Nat}

/-- A sum that fits does not fault. -/
theorem add_eq_ok (h : a + b < size) : (add a b : Except (Stop ε) Nat) = .ok (a + b) := by
  rw [add, checkedAdd, if_pos h, Except.expect_some]

/-- A difference that is not negative does not fault. -/
theorem sub_eq_ok (h : b ≤ a) : (sub a b : Except (Stop ε) Nat) = .ok (a - b) := by
  rw [sub, checkedSub, if_pos h, Except.expect_some]

/-- A product that fits does not fault. -/
theorem mul_eq_ok (h : a * b < size) : (mul a b : Except (Stop ε) Nat) = .ok (a * b) := by
  rw [mul, checkedMul, if_pos h, Except.expect_some]

/-- A sum that fits is returned. -/
theorem returns_add (h : a + b < size) :
    (add a b : Except (Stop ε) Nat).Returns (· = a + b) := by
  rw [add_eq_ok h]
  exact .ok rfl

/-- A difference that is not negative is returned. -/
theorem returns_sub (h : b ≤ a) : (sub a b : Except (Stop ε) Nat).Returns (· = a - b) := by
  rw [sub_eq_ok h]
  exact .ok rfl

/-- A product that fits is returned. -/
theorem returns_mul (h : a * b < size) :
    (mul a b : Except (Stop ε) Nat).Returns (· = a * b) := by
  rw [mul_eq_ok h]
  exact .ok rfl

end Usize
