import Mathlib.Data.Multiset.AddSub
import WindowedHdr.Library.Program

/-!
# Programs that own resources

A call of a program may gain a resource or give one up, and which of the two it does may depend
on the answer. `Discipline.owned` is what the events of a program leave it with, from what it
started with. A discipline says in addition which calls may be made by whom: a call may be
permitted only to the owner of some resource, or only to someone who owns nothing.

`Discipline.Transfers D m p rest` is the triple for a program that keeps the discipline:
when it owns `m`, it gives up only what it owns, makes only permitted calls, and ends with
`rest` of its result. There is a rule for each way to put programs together, and
`Transfers.wp` says what it means for what really happens.

Resources are counted in a multiset, and a call may change it in one of four ways: not at all,
by a gain, by giving one up, or by an exchange of one for another. The rules keep the multiset
of the caller in sight as a parameter of the triple, so that a function that borrows nothing of
what its caller owns is stated for an arbitrary `m`.
-/

/-- What an event does with resources. -/
structure Transfer (R : Type) where
  gives : Option R
  gains : Option R

namespace Transfer

variable {R : Type}

def none : Transfer R := ⟨.none, .none⟩

def gain (r : R) : Transfer R := ⟨.none, some r⟩

def give (r : R) : Transfer R := ⟨some r, .none⟩

/-- One resource turns into another one. -/
def exchange (r r' : R) : Transfer R := ⟨some r, some r'⟩

/-- `m`, with a resource more if there is one. -/
def add : Option R → Multiset R → Multiset R
  | .none, m => m
  | some r, m => r ::ₘ m

/-- What is owned goes from `m` to `m'`. -/
def Turns (m : Multiset R) (t : Transfer R) (m' : Multiset R) : Prop :=
  ∃ k, m = add t.gives k ∧ m' = add t.gains k

/-- A call that transfers nothing leaves what is owned. -/
theorem Turns.none (m : Multiset R) : Turns m .none m := ⟨m, rfl, rfl⟩

/-- What is gained comes on top of what is owned. -/
theorem Turns.gain (m : Multiset R) (r : R) : Turns m (.gain r) (r ::ₘ m) := ⟨m, rfl, rfl⟩

/-- What is given up was owned. -/
theorem Turns.give (m : Multiset R) (r : R) : Turns (r ::ₘ m) (.give r) m := ⟨m, rfl, rfl⟩

/-- What is exchanged was owned, and something else is owned afterwards. -/
theorem Turns.exchange (m : Multiset R) (r r' : R) :
    Turns (r ::ₘ m) (.exchange r r') (r' ::ₘ m) :=
  ⟨m, rfl, rfl⟩

variable [DecidableEq R] {m m' : Multiset R} {t : Transfer R} {r : R}

/-- `m`, without the resource if there is one. -/
def erase (m : Multiset R) : Option R → Multiset R
  | .none => m
  | some r => m.erase r

/-- What is owned after an event. -/
def after (m : Multiset R) (t : Transfer R) : Multiset R := add t.gains (erase m t.gives)

/-- The relation determines what is owned afterwards. -/
theorem Turns.after_eq (h : Turns m t m') : after m t = m' := by
  -- `k` is what the event does not touch
  obtain ⟨k, rfl, rfl⟩ := h
  rw [after]
  -- what is given up is taken off again
  congr 1
  cases t.gives with
  | none => rfl
  | some r => exact Multiset.erase_cons_head r k

omit [DecidableEq R] in
/-- Only what is owned is given up. -/
theorem Turns.mem (h : Turns m t m') (hr : t.gives = some r) : r ∈ m := by
  obtain ⟨k, rfl, -⟩ := h
  rw [hr]
  exact Multiset.mem_cons_self r k

/-- A resource more does not change how often another one is owned. -/
theorem count_add_of_ne {o : Option R} (h : o ≠ some r) : (add o m).count r = m.count r := by
  cases o with
  | none => rfl
  | some r' => exact Multiset.count_cons_of_ne (fun he => h (congrArg some he.symm)) m

/-- A resource less does not change how often another one is owned. -/
theorem count_erase_of_ne {o : Option R} (h : o ≠ some r) : (erase m o).count r = m.count r := by
  cases o with
  | none => rfl
  | some r' => exact Multiset.count_erase_of_ne (fun he => h (congrArg some he.symm)) m

/-- A transfer of something else. -/
theorem count_after_of_ne (hgives : t.gives ≠ some r) (hgains : t.gains ≠ some r) :
    (after m t).count r = m.count r := by
  rw [after, count_add_of_ne hgains, count_erase_of_ne hgives]

/-- What is gained is owned once more. -/
theorem count_after_gain (hgives : t.gives ≠ some r) (hgains : t.gains = some r) :
    (after m t).count r = m.count r + 1 := by
  rw [after, hgains, add, Multiset.count_cons_self, count_erase_of_ne hgives]

/-- What is given up is owned once less. -/
theorem count_after_give (hgives : t.gives = some r) (hgains : t.gains ≠ some r) :
    (after m t).count r = m.count r - 1 := by
  rw [after, count_add_of_ne hgains, hgives, erase, Multiset.count_erase_self]

end Transfer

/-- Which events transfer a resource, and which calls are permitted to an owner. -/
structure Discipline {Call : Type} (Answer : Call → Type) (R : Type) where
  transfer : Program.Event Answer → Transfer R
  permits : Multiset R → Call → Prop

namespace Discipline

open Program (Event Goes wp Calls)
open Transfer (Turns)

variable {Call : Type} {Answer : Call → Type} {α β ε R : Type} [DecidableEq R]
  (D : Discipline Answer R)

/-- What the events leave owned of and besides `start`. -/
def owned (start : Multiset R) : List (Event Answer) → Multiset R
  | [] => start
  -- the newest event comes first
  | event :: past => Transfer.after (owned start past) (D.transfer event)

/-- The call is permitted, and gives up nothing but what is owned. -/
def Allows (start : Multiset R) (past : List (Event Answer)) (c : Call) : Prop :=
  D.permits (D.owned start past) c ∧
    ∀ answer r, (D.transfer ⟨c, answer⟩).gives = some r → r ∈ D.owned start past

/-- When it owns `m`, the program keeps the discipline and ends with `rest`. -/
def Transfers (m : Multiset R) (p : Program Call Answer α) (rest : α → Multiset R) : Prop :=
  ∀ start past, D.owned start past = m →
    p.wp (D.Allows start) (fun past a => D.owned start past = rest a) past

/-- The call is permitted to every owner, and transfers nothing. -/
structure Neutral (c : Call) : Prop where
  permits : ∀ m, D.permits m c
  transfer : ∀ answer, D.transfer ⟨c, answer⟩ = .none

variable {D} {m m' : Multiset R} {p : Program Call Answer α} {rest : α → Multiset R}

/-! ### Rules -/

/-- A program without calls ends with what it started with. -/
theorem transfers_pure {a : α} (h : m = rest a) :
    D.Transfers m (pure a : Program Call Answer α) rest :=
  fun _ _ hpast => hpast.trans h

/-- One call turns what is owned into what its answer leaves. -/
theorem transfers_ask {c : Call} {rest : Answer c → Multiset R} (hpermits : D.permits m c)
    (hturns : ∀ answer, Turns m (D.transfer ⟨c, answer⟩) (rest answer)) :
    D.Transfers m (Program.ask c) rest := by
  intro start past hpast
  refine ⟨⟨hpast.symm ▸ hpermits, fun answer r hgives => ?_⟩, fun answer => ?_⟩
  -- nothing is given up that is not owned
  · rw [hpast]
    exact (hturns answer).mem hgives
  -- what is owned afterwards
  · show Transfer.after (D.owned start past) (D.transfer ⟨c, answer⟩) = _
    rw [hpast, (hturns answer).after_eq]

/-- A neutral call leaves what is owned. -/
theorem transfers_ask_neutral {c : Call} (h : D.Neutral c) :
    D.Transfers m (Program.ask c) fun _ => m :=
  transfers_ask (h.permits m) fun answer => h.transfer answer ▸ .none m

/-- The second program starts with what the first one leaves. -/
theorem Transfers.bind {p : Program Call Answer β} {f : β → Program Call Answer α}
    {between : β → Multiset R} (hp : D.Transfers m p between)
    (hf : ∀ b, D.Transfers (between b) (f b) rest) : D.Transfers m (p >>= f) rest :=
  -- the postcondition of the first program is the precondition of the second
  fun start past hpast => Program.wp_bind.mpr
    ((hp start past hpast).mono (fun _ _ h => h) fun past b hb => hf b start past hb)

/-- Begin with a neutral call. -/
theorem Transfers.ask_bind {c : Call} {f : Answer c → Program Call Answer α} (hc : D.Neutral c)
    (hf : ∀ answer, D.Transfers m (f answer) rest) : D.Transfers m (Program.ask c >>= f) rest :=
  (transfers_ask_neutral hc).bind hf

/-- An error leaves what the whole leaves for this error. -/
theorem Transfers.tryThen {p : Program Call Answer (Except ε α)}
    {f : α → Program Call Answer (Except ε β)} {between : Except ε α → Multiset R}
    {rest : Except ε β → Multiset R} (hp : D.Transfers m p between)
    (herror : ∀ e, between (.error e) = rest (.error e))
    (hf : ∀ a, D.Transfers (between (.ok a)) (f a) rest) : D.Transfers m (p.tryThen f) rest := by
  refine hp.bind fun r => ?_
  -- an error ends the whole
  cases r with
  | ok a => exact hf a
  | error e => exact transfers_pure (herror e)

/-- A program of calls that are permitted here and transfer nothing. -/
theorem Transfers.of_calls
    (h : Calls (fun c => D.permits m c ∧ ∀ answer, D.transfer ⟨c, answer⟩ = .none) p) :
    D.Transfers m p fun _ => m := by
  -- on the program: its first call is neutral here, and the rest follows
  induction p with
  | done a => exact transfers_pure rfl
  | call c next ih =>
    have hc : D.Transfers m (Program.ask c) fun _ => m :=
      transfers_ask h.1.1 fun answer => h.1.2 answer ▸ .none m
    exact hc.bind fun answer => ih answer (h.2 answer)

/-! ### What it means -/

/-- A program that keeps the discipline makes only allowed calls and ends with `rest`, whatever it
is answered. -/
theorem Transfers.wp (h : D.Transfers m p rest) :
    p.wp (D.Allows m) (fun past a => D.owned m past = rest a) [] :=
  h m [] rfl

end Discipline
