import WindowedHdr.Library.Ownership
import WindowedHdr.Library.ThreadSystem

/-!
# Tokens

A token is a resource of which there is at most one: a lock, or the right to do something once.
The state says whether some thread has it (`taken`), and the steps of the system agree with
that: a token can be gained only while nobody has it, and gaining it and giving it up are all
that changes this. A thread may enter with a token, or with nothing else.

When the threads keep their discipline and hold no token at their ends, a token that is taken
is held by exactly one thread, once, and a token that is not taken is held by nobody
(`Tokens.exclusive`). An invariant of the state may be proved along with it, from what the
giver of a token knows: that it was taken.

The proof counts. The holdings of all threads together are a sum, and a step changes the summand
of one thread (`holdings_update`); so a token that is gained raises the sum from zero to one,
since nobody had it, and one that is given up lowers it again (`Exclusive.move`). That a thread
keeps its discipline wherever it is comes from `ThreadSystem.meets`.
-/

namespace ThreadSystem

open Program (Event)

variable {Shared Call : Type} {Answer : Call → Type} {Entry : Type} {Result : Entry → Type}
  {Disturbance R : Type}

/-- A transfer of the token `r` agrees with whether it is taken before and afterwards. -/
structure Moves (t : Transfer R) (r : R) (before after : Prop) : Prop where
  gain : t.gains = some r → t.gives ≠ some r ∧ ¬ before ∧ after
  give : t.gives = some r → ¬ after
  keep : t.gives ≠ some r → t.gains ≠ some r → (after ↔ before)

/-- An event that transfers something else leaves the token as it is. -/
theorem Moves.of_ne {t : Transfer R} {r : R} {before after : Prop} (hgives : t.gives ≠ some r)
    (hgains : t.gains ≠ some r) (h : after ↔ before) : Moves t r before after :=
  ⟨fun hr => absurd hr hgains, fun hr => absurd hr hgives, fun _ _ => h⟩

/-- A token that nobody had is gained. -/
theorem Moves.of_gain {t : Transfer R} {r : R} {before after : Prop} (hgives : t.gives ≠ some r)
    (hgains : t.gains = some r) (hbefore : ¬ before) (hafter : after) : Moves t r before after :=
  ⟨fun _ => ⟨hgives, hbefore, hafter⟩, fun hr => absurd hr hgives, fun _ h => absurd hgains h⟩

/-- A token is given up, and nobody has it then. -/
theorem Moves.of_give {t : Transfer R} {r : R} {before after : Prop} (hgives : t.gives = some r)
    (hgains : t.gains ≠ some r) (hafter : ¬ after) : Moves t r before after :=
  ⟨fun hr => absurd hr hgains, fun _ => hafter, fun h => absurd hgives h⟩

variable [DecidableEq R]

/-- `G` are tokens, `taken` says which of them some thread has, and `start` what a thread enters
with. -/
structure Tokens (M : ThreadSystem Shared Call Answer Entry Result Disturbance)
    (D : Discipline Answer R) (start : Entry → Option R) (G : R → Prop)
    (I : Shared → List (Happening Answer Result) → Prop)
    (taken : R → Shared → List (Happening Answer Result) → Prop) : Prop where
  init : ∀ shared, M.Init shared → I shared [] ∧ ∀ r, G r → ¬ taken r shared []
  enter : ∀ {shared shared' history i entry}, I shared history →
    M.enter shared entry = some shared' → I shared' (.entered i entry :: history) ∧
      ∀ r, G r → Moves ⟨none, start entry⟩ r (taken r shared history)
        (taken r shared' (.entered i entry :: history))
  perform : ∀ {shared shared' history i c answer}, I shared history →
    M.perform shared c answer = some shared' →
    (∃ m, D.permits m c) →
    (∀ r, G r → (D.transfer ⟨c, answer⟩).gives = some r → taken r shared history) →
    I shared' (.called i ⟨c, answer⟩ :: history) ∧
      ∀ r, G r → Moves (D.transfer ⟨c, answer⟩) r (taken r shared history)
        (taken r shared' (.called i ⟨c, answer⟩ :: history))
  ret : ∀ {shared history i entry result}, I shared history →
    I shared (.returned i entry result :: history) ∧
      ∀ r, G r → (taken r shared (.returned i entry result :: history) ↔ taken r shared history)
  disturb : ∀ {shared shared' history d}, I shared history →
    M.disturb shared d = some shared' →
    I shared' history ∧ ∀ r, G r → (taken r shared' history ↔ taken r shared history)

variable {M : ThreadSystem Shared Call Answer Entry Result Disturbance} {D : Discipline Answer R}
  {start : Entry → Option R} {G : R → Prop} {I : Shared → List (Happening Answer Result) → Prop}
  {taken : R → Shared → List (Happening Answer Result) → Prop}
  {s : State Shared Call Answer Result} {r : R}

/-- What a thread has that entered with `start`. -/
def has (D : Discipline Answer R) (start : Entry → Option R) (t : Thread Call Answer Result) :
    Multiset R :=
  D.owned (Transfer.add (start t.entry) 0) t.past

/-- How often a thread holds `r`, if there is one. -/
def holding (D : Discipline Answer R) (start : Entry → Option R) (r : R) :
    Option (Thread Call Answer Result) → Nat
  | none => 0
  | some t => (has D start t).count r

/-- How often each thread holds `r`. -/
def holdings (D : Discipline Answer R) (start : Entry → Option R) (r : R)
    (threads : Nat → Option (Thread Call Answer Result)) (i : Nat) : Nat :=
  holding D start r (threads i)

/-- Exactly one thread holds what is taken, and nobody what is not. -/
def Exclusive (taken : Prop) (n : Nat → Nat) : Prop :=
  (¬ taken → ∀ i, n i = 0) ∧ (taken → ∃ i, n i = 1 ∧ ∀ j, j ≠ i → n j = 0)

/-- Only what is taken is held. -/
theorem Exclusive.taken_of_pos {taken : Prop} {n : Nat → Nat} (h : Exclusive taken n) {i : Nat}
    (hi : 0 < n i) : taken := by
  by_contra hfree
  exact hi.ne' (h.1 hfree i)

/-- Only the thread that changes may come to hold more or fewer tokens. -/
theorem holdings_update {threads : Nat → Option (Thread Call Answer Result)} {i : Nat}
    {t : Option (Thread Call Answer Result)} :
    holdings D start r (Function.update threads i t) =
      Function.update (holdings D start r threads) i (holding D start r t) := by
  funext j
  by_cases hij : j = i
  · subst hij
    rw [holdings, Function.update_self, Function.update_self]
  · rw [holdings, Function.update_of_ne hij, Function.update_of_ne hij, holdings]

/-- The token moves as the transfer of one thread says. -/
theorem Exclusive.move {t : Transfer R} {before after : Prop} {n : Nat → Nat} {m : Multiset R}
    {i : Nat} (h : Exclusive before n) (hi : n i = m.count r)
    (hmem : t.gives = some r → r ∈ m) (hmoves : Moves t r before after) :
    Exclusive after (Function.update n i ((Transfer.after m t).count r)) := by
  by_cases hgains : t.gains = some r
  -- a free token was held by nobody, so the thread that gains it is the only one
  · obtain ⟨hgives, hfree, htaken⟩ := hmoves.gain hgains
    refine ⟨fun hfree' => absurd htaken hfree', fun _ => ⟨i, ?_, fun j hj => ?_⟩⟩
    · rw [Function.update_self, Transfer.count_after_gain hgives hgains, ← hi, h.1 hfree i]
    · rw [Function.update_of_ne hj, h.1 hfree j]
  by_cases hgives : t.gives = some r
  · have hpos : 0 < n i := by
      rw [hi, Multiset.count_pos]
      exact hmem hgives
    -- whoever gives the token up is the one that had it
    have htaken : before := h.taken_of_pos hpos
    obtain ⟨k, hk, hothers⟩ := h.2 htaken
    obtain rfl : i = k := by
      by_contra hik
      exact hpos.ne' (hothers i hik)
    refine ⟨fun _ j => ?_, fun htaken' => absurd htaken' (hmoves.give hgives)⟩
    by_cases hj : j = i
    · subst hj
      rw [Function.update_self, Transfer.count_after_give hgives hgains, ← hi, hk]
    · rw [Function.update_of_ne hj, hothers j hj]
  -- the event is about something else
  · rw [Transfer.count_after_of_ne hgives hgains, ← hi, Function.update_eq_self]
    rwa [Exclusive, hmoves.keep hgives hgains]

/-- **At most one thread has a token**, in every run. -/
theorem Tokens.exclusive (hT : M.Tokens D start G I taken)
    (hbody : ∀ entry, D.Transfers (Transfer.add (start entry) 0) (M.body entry) fun _ => 0)
    (h : M.system.Reachable s) :
    I s.shared s.history ∧
      ∀ r, G r → Exclusive (taken r s.shared s.history) (holdings D start r s.threads) := by
  refine h.invariant_of_reachable (I := fun s => I s.shared s.history ∧
    ∀ r, G r → Exclusive (taken r s.shared s.history) (holdings D start r s.threads)) ?_ ?_
  · rintro s ⟨hinit, hthreads, hhistory⟩
    rw [hhistory]
    refine ⟨(hT.init _ hinit).1, fun r hr => ⟨fun _ i => ?_, fun htaken => ?_⟩⟩
    · rw [holdings, hthreads i, holding]
    · exact absurd htaken ((hT.init _ hinit).2 r hr)
  · rintro s a s' hreachable ⟨hI, ih⟩ - hs
    -- the discipline is kept wherever a thread is in its program
    have hmeets (i : Nat) (t : Thread Call Answer Result) (ht : s.threads i = some t) :
        t.rest.wp (D.Allows (Transfer.add (start t.entry) 0))
          (fun past _ => D.owned (Transfer.add (start t.entry) 0) past = 0) t.past :=
      meets (fun entry => D.Allows (Transfer.add (start entry) 0))
        (fun entry past _ => D.owned (Transfer.add (start entry) 0) past = 0)
        (fun entry => (hbody entry).wp) hreachable ht
    cases step_of_system hs with
    -- a new thread comes with what its entry point starts with
    | @entered i entry shared hfree henter =>
      obtain ⟨hI', hmoves⟩ := hT.enter (i := i) hI henter
      refine ⟨hI', fun r hr => ?_⟩
      rw [holdings_update]
      have hi : holdings D start r s.threads i = (0 : Multiset R).count r := by
        rw [holdings, hfree, holding, Multiset.count_zero]
      exact (ih r hr).move hi (fun hgives => by cases hgives) (hmoves r hr)
    | @called i entry past c next answer shared hi hperform =>
      have hallows := (hmeets i _ hi).1
      have hheld (r : R) : holdings D start r s.threads i =
          (D.owned (Transfer.add (start entry) 0) past).count r := by
        rw [holdings, hi, holding, has]
      -- who gives a token up holds it, so by induction it is taken
      obtain ⟨hI', hmoves⟩ := hT.perform (i := i) hI hperform ⟨_, hallows.1⟩ fun r hr hgives => by
        by_contra hfree
        have hzero := (ih r hr).1 hfree i
        rw [hheld, Multiset.count_eq_zero] at hzero
        exact hzero (hallows.2 answer r hgives)
      refine ⟨hI', fun r hr => ?_⟩
      rw [holdings_update]
      exact (ih r hr).move (hheld r) (hallows.2 answer r) (hmoves r hr)
    -- a thread that returns owns nothing, so it may be forgotten
    | @returned i entry past result hi =>
      have hzero : D.owned (Transfer.add (start entry) 0) past = 0 := hmeets i _ hi
      obtain ⟨hI', htaken⟩ : I s.shared (.returned i entry result :: s.history) ∧
          ∀ r, G r → (taken r s.shared (.returned i entry result :: s.history) ↔
            taken r s.shared s.history) := hT.ret hI
      refine ⟨hI', fun r hr => ?_⟩
      have hn : holdings D start r s.threads i = 0 := by
        rw [holdings, hi, holding, has, hzero, Multiset.count_zero]
      rw [holdings_update, holding, ← hn, Function.update_eq_self, Exclusive, htaken r hr]
      exact ih r hr
    | @disturbed d shared hdisturb =>
      obtain ⟨hI', htaken⟩ := hT.disturb hI hdisturb
      refine ⟨hI', fun r hr => ?_⟩
      rw [Exclusive, htaken r hr]
      exact ih r hr

end ThreadSystem
