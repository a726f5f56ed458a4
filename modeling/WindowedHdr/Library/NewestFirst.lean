import Mathlib.Data.List.Basic
import Mathlib.Tactic.Common

/-!
# Newest-first search

A list that only grows at its end and whose elements are changed in place, searched from
its newest element to its oldest. It models a linked list that is pushed at the head and
never freed: an element keeps its index for life, as a node keeps its address.

`Evolves R N` is how such a list changes: its elements step by `R`, and an element that meets
`N` may be added. What every element has, and what any two elements have, is kept by such a
change if it is kept by `R` and had by the new element.

A search is a recursion on the number of elements that may be looked at, so what it finds is the
largest index of an element that meets the condition (`find_some`). When at most one element
does, the order of the search does not matter (`find_eq_some_of_unique`).
-/

namespace NewestFirst

universe u

variable {α : Type u} (p : α → Bool) (l : List α)

/-- The newest index below `n` whose element meets `p`. -/
def findBelow : Nat → Option Nat
  | 0 => none
  | n + 1 => if (l[n]?).any p then some n else findBelow n

/-- The index of the newest element that meets `p`. -/
def find : Option Nat := findBelow p l l.length

variable {p l} {i n : Nat}

theorem findBelow_eq_none : findBelow p l n = none ↔ ∀ j < n, (l[j]?).any p = false := by
  induction n with
  | zero => simp [findBelow]
  | succ n ih =>
    rw [findBelow]
    split
    · -- the newest of them meets `p`
      next hn =>
      refine iff_of_false (by simp) fun h => ?_
      have hno := h n (Nat.lt_succ_self n)
      simp [hn] at hno
    · next hn =>
      rw [ih]
      constructor
      · intro h j hj
        obtain hj | rfl := Nat.lt_succ_iff_lt_or_eq.mp hj
        · exact h j hj
        · simpa using hn
      · intro h j hj
        exact h j (Nat.lt_succ_of_lt hj)

theorem findBelow_eq_some :
    findBelow p l n = some i ↔
      i < n ∧ (l[i]?).any p = true ∧ ∀ j, i < j → j < n → (l[j]?).any p = false := by
  induction n with
  | zero => simp [findBelow]
  | succ n ih =>
    rw [findBelow]
    split
    · next hn =>
      constructor
      · intro h
        obtain rfl := Option.some.inj h
        exact ⟨Nat.lt_succ_self _, hn, fun j hj hj' => by omega⟩
      · rintro ⟨hi, -, hlater⟩
        -- a later match would contradict the choice of `i`
        obtain hi | rfl := Nat.lt_succ_iff_lt_or_eq.mp hi
        · have hno := hlater n hi (Nat.lt_succ_self n)
          simp [hn] at hno
        · rfl
    · next hn =>
      rw [ih]
      -- the newest does not meet `p`, so nothing is missed by passing over it
      constructor
      · rintro ⟨hi, hp, hlater⟩
        refine ⟨Nat.lt_succ_of_lt hi, hp, fun j hij hj => ?_⟩
        obtain hj | rfl := Nat.lt_succ_iff_lt_or_eq.mp hj
        · exact hlater j hij hj
        · simpa using hn
      · rintro ⟨hi, hp, hlater⟩
        obtain hi | rfl := Nat.lt_succ_iff_lt_or_eq.mp hi
        · exact ⟨hi, hp, fun j hij hj => hlater j hij (Nat.lt_succ_of_lt hj)⟩
        · exact absurd hp hn

/-- A search fails exactly when no element meets `p`. -/
theorem find_eq_none : find p l = none ↔ ∀ (i : Nat) (a : α), l[i]? = some a → p a = false := by
  rw [find, findBelow_eq_none]
  constructor
  · intro h i a ha
    have hi : i < l.length := (List.getElem?_eq_some_iff.mp ha).1
    simpa [ha] using h i hi
  · intro h i hi
    simpa [List.getElem?_eq_getElem hi] using h i l[i] (List.getElem?_eq_getElem hi)

/-- The newest element is found if it meets `p`. -/
theorem find_concat {a : α} (ha : p a = true) : find p (l ++ [a]) = some l.length := by
  have hlast : (l ++ [a])[l.length]? = some a := List.getElem?_concat_length
  rw [find, List.length_append, List.length_singleton, findBelow, hlast, Option.any_some,
    if_pos ha]

/-- A change in place that `p` does not see does not change what is found. -/
theorem find_modify {k : Nat} {f : α → α} (hf : ∀ a, l[k]? = some a → p (f a) = p a) :
    find p (l.modify k f) = find p l := by
  -- `p` says the same of each place, and so does the search from any of them
  have hsame : ∀ j : Nat, ((l.modify k f)[j]?).any p = (l[j]?).any p := by
    intro j
    rw [List.getElem?_modify]
    by_cases hkj : k = j
    · subst hkj
      cases ha : l[k]? with
      | none => rfl
      | some a => simpa using hf a ha
    · simp [hkj]
  have hbelow : ∀ n, findBelow p (l.modify k f) n = findBelow p l n := by
    intro n
    induction n with
    | zero => rfl
    | succ n ih => rw [findBelow, findBelow, hsame, ih]
  rw [find, find, List.length_modify, hbelow]

/-- What a search finds meets `p`. -/
theorem find_some (h : find p l = some i) : ∃ a, l[i]? = some a ∧ p a = true := by
  obtain ⟨-, hp, -⟩ := findBelow_eq_some.mp h
  simpa [Option.any_eq_true] using hp

/-- When no two elements meet `p`, a search finds the one that does. -/
theorem find_eq_some_of_unique {a : α} (ha : l[i]? = some a) (hp : p a = true)
    (hunique : ∀ (j : Nat) (b : α), l[j]? = some b → p b = true → j = i) : find p l = some i := by
  have hi : i < l.length := (List.getElem?_eq_some_iff.mp ha).1
  refine findBelow_eq_some.mpr ⟨hi, by simp [ha, hp], fun j hij hj => ?_⟩
  rw [List.getElem?_eq_getElem hj, Option.any_some]
  -- a newer match would be the same element
  by_contra hpj
  have heq := hunique j l[j] (List.getElem?_eq_getElem hj) (by simpa using hpj)
  omega

/-! ### Change -/

/-- The elements of `l'` are those of `l` after a step of `R`, and perhaps one more. -/
structure Evolves (R : α → α → Prop) (N : α → Prop) (l l' : List α) : Prop where
  old : ∀ (i : Nat) (a : α), l[i]? = some a → ∃ a', l'[i]? = some a' ∧ R a a'
  new : ∀ (i : Nat) (a' : α), l'[i]? = some a' →
    (∃ a, l[i]? = some a ∧ R a a') ∨ l.length = i ∧ N a'

/-- Any two elements are related by `D`. -/
def Pairwise (D : α → α → Prop) (l : List α) : Prop :=
  ∀ (i j : Nat) (a b : α), l[i]? = some a → l[j]? = some b → i ≠ j → D a b

namespace Evolves

variable {R D : α → α → Prop} {N : α → Prop} {l' : List α}

/-- Nothing happens to the list. -/
theorem of_eq (hR : ∀ a, R a a) (h : l' = l) : Evolves R N l l' where
  old i a ha := ⟨a, by rw [h, ha], hR a⟩
  new i a' ha' := .inl ⟨a', by rw [← h, ha'], hR a'⟩

/-- The list gets a new element at its end. -/
theorem of_append {b : α} (hR : ∀ a, R a a) (h : l' = l ++ [b]) (hb : N b) :
    Evolves R N l l' where
  old i a ha := by
    have hlt : i < l.length := (List.getElem?_eq_some_iff.mp ha).1
    exact ⟨a, by rw [h, List.getElem?_append_left hlt, ha], hR a⟩
  new i a' ha' := by
    rw [h] at ha'
    -- an old index keeps its element, and the only index beyond them is the new one
    obtain hlt | hle := Nat.lt_or_ge i l.length
    · rw [List.getElem?_append_left hlt] at ha'
      exact .inl ⟨a', ha', hR a'⟩
    · rw [List.getElem?_append_right hle] at ha'
      obtain ⟨hi, rfl⟩ := List.getElem?_eq_some_iff.mp ha'
      have hi : i = l.length := by
        rw [List.length_singleton] at hi
        omega
      subst hi
      exact .inr ⟨rfl, by simpa using hb⟩

/-- One element of the list takes a step. -/
theorem of_modify {k : Nat} {f : α → α} (hR : ∀ a, R a a) (h : l' = l.modify k f)
    (hf : ∀ a, l[k]? = some a → R a (f a)) : Evolves R N l l' where
  old i a ha := by
    rw [h, List.getElem?_modify, ha]
    by_cases hki : k = i
    · subst hki
      exact ⟨f a, by simp, hf a ha⟩
    · exact ⟨a, by simp [hki], hR a⟩
  new i a' ha' := by
    rw [h, List.getElem?_modify, Option.map_eq_map, Option.map_eq_some_iff] at ha'
    obtain ⟨a, ha, rfl⟩ := ha'
    -- a changed list has no new element
    left
    by_cases hki : k = i
    · subst hki
      exact ⟨a, ha, by simpa using hf a ha⟩
    · exact ⟨a, ha, by simpa [hki] using hR a⟩

/-- What every element has. -/
theorem forall_of {Q : α → Prop} (h : Evolves R N l l') (hstep : ∀ a a', R a a' → Q a → Q a')
    (hnew : ∀ a, N a → Q a) (hl : ∀ (i : Nat) (a : α), l[i]? = some a → Q a) :
    ∀ (i : Nat) (a : α), l'[i]? = some a → Q a := by
  intro i a' ha'
  -- the element was there before, or it is the new one
  obtain ⟨a, ha, hstep'⟩ | ⟨-, hb⟩ := h.new i a' ha'
  · exact hstep a a' hstep' (hl i a ha)
  · exact hnew a' hb

/-- What any two elements have. -/
theorem pairwise (h : Evolves R N l l') (hsymm : ∀ a b, D a b → D b a)
    (hstep : ∀ a a' b b', R a a' → R b b' → D a b → D a' b')
    (hnew : ∀ (i : Nat) (a a' b : α), l[i]? = some a → R a a' → N b → D a' b)
    (hl : Pairwise D l) : Pairwise D l' := by
  intro i j a' b' ha' hb' hij
  -- each of the two elements was there before, or is the one that is added
  obtain ⟨a, ha, hstepa⟩ | ⟨hi, hnewa⟩ := h.new i a' ha'
  · obtain ⟨b, hb, hstepb⟩ | ⟨-, hnewb⟩ := h.new j b' hb'
    · exact hstep a a' b b' hstepa hstepb (hl i j a b ha hb hij)
    · exact hnew i a a' b' ha hstepa hnewb
  · obtain ⟨b, hb, hstepb⟩ | ⟨hj, -⟩ := h.new j b' hb'
    · exact hsymm b' a' (hnew j b b' a' hb hstepb hnewa)
    · exact absurd (hi.symm.trans hj) hij

end Evolves

end NewestFirst
