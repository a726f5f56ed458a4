import Mathlib.Data.List.Range
import Mathlib.Tactic.Common

/-!
# Hashing block by block

A function that takes a state and a block to a state is iterated over the whole blocks of a
message (`chain`); what is left at the end of the message and does not fill a block is
ignored. A message may be cut at any multiple of the block length (`chain_append`), which is
what lets a hash function be fed piece by piece: it needs to keep the state after the whole
blocks and the rest.

`chain_flatMap` is about a message whose symbols are spelled out in a finer alphabet, bytes in
bits: the blocks of the spelled-out message are the spelled-out blocks.
-/

universe u v w

variable {α : Type u} {β : Type v} {σ : Type w}

/-- Iterate `f` over the whole blocks of length `n`. -/
def chain (f : σ → List α → σ) (n : Nat) (s : σ) (m : List α) : σ :=
  (List.range (m.length / n)).foldl (fun s i => f s ((m.drop (n * i)).take n)) s

variable {f : σ → List α → σ} {n : Nat} {s : σ} {m block : List α}

/-- An empty message changes nothing. -/
@[simp] theorem chain_nil : chain f n s [] = s := by
  rw [chain, List.length_nil, Nat.zero_div]
  rfl

/-- The first block is taken first. -/
theorem chain_cons_block (hn : 0 < n) (hblock : block.length = n) :
    chain f n s (block ++ m) = chain f n (f s block) m := by
  -- one block more than the rest has
  have hcount : (block ++ m).length / n = m.length / n + 1 := by
    rw [List.length_append, hblock, Nat.add_div_left _ hn]
  have hfirst : ((block ++ m).drop (n * 0)).take n = block := by
    rw [Nat.mul_zero, List.drop_zero, List.take_left' hblock]
  -- the later blocks are those of the rest
  have hnext : ∀ i, (block ++ m).drop (n * (i + 1)) = m.drop (n * i) := by
    intro i
    rw [Nat.mul_succ, Nat.add_comm, ← List.drop_drop, List.drop_left' hblock]
  rw [chain, hcount, List.range_succ_eq_map, List.foldl_cons, List.foldl_map, hfirst]
  simp only [hnext]
  rfl

/-- **A message may be cut at a multiple of the block length.** -/
theorem chain_append (hn : 0 < n) (hm : n ∣ m.length) (rest : List α) :
    chain f n s (m ++ rest) = chain f n (chain f n s m) rest := by
  obtain ⟨q, hq⟩ := hm
  -- induction on the number of blocks before the cut
  induction q generalizing s m with
  | zero =>
    obtain rfl : m = [] := List.length_eq_zero_iff.mp (by rw [hq, Nat.mul_zero])
    rw [List.nil_append, chain_nil]
  | succ q ih =>
    have htake : (m.take n).length = n := by
      rw [List.length_take, hq, Nat.mul_succ]
      omega
    have hdrop : (m.drop n).length = n * q := by
      rw [List.length_drop, hq, Nat.mul_succ]
      omega
    rw [← List.take_append_drop n m, List.append_assoc, chain_cons_block hn htake,
      chain_cons_block hn htake, ih hdrop]

/-- One block. -/
theorem chain_block (hn : 0 < n) (hblock : block.length = n) : chain f n s block = f s block := by
  have h := chain_cons_block (f := f) (s := s) (m := []) hn hblock
  rwa [List.append_nil, chain_nil] at h

/-! ### Spelling out -/

section Spell

variable {g : β → List α} {k : Nat}

/-- Symbols that are spelled with `k` letters make a message `k` times as long. -/
theorem length_flatMap_of_length (hg : ∀ b, (g b).length = k) (l : List β) :
    (l.flatMap g).length = k * l.length := by
  induction l with
  | nil => rfl
  | cons b l ih =>
    rw [List.flatMap_cons, List.length_append, hg, ih, List.length_cons, Nat.mul_succ,
      Nat.add_comm]

/-- To drop the letters of `i` symbols is to drop these symbols. -/
theorem drop_flatMap_of_length (hg : ∀ b, (g b).length = k) (l : List β) (i : Nat) :
    (l.flatMap g).drop (k * i) = (l.drop i).flatMap g := by
  induction i generalizing l with
  | zero => rfl
  | succ i ih =>
    cases l with
    | nil => simp
    | cons b l =>
      rw [List.flatMap_cons, Nat.mul_succ, Nat.add_comm, ← List.drop_drop,
        List.drop_left' (hg b), ih, List.drop_succ_cons]

/-- To keep the letters of `i` symbols is to keep these symbols. -/
theorem take_flatMap_of_length (hg : ∀ b, (g b).length = k) (l : List β) (i : Nat) :
    (l.flatMap g).take (k * i) = (l.take i).flatMap g := by
  induction i generalizing l with
  | zero => simp
  | succ i ih =>
    cases l with
    | nil => simp
    | cons b l =>
      have hlen : k * (i + 1) = (g b).length + k * i := by rw [hg, Nat.mul_succ, Nat.add_comm]
      rw [List.flatMap_cons, hlen, List.take_length_add_append, ih, List.take_succ_cons,
        List.flatMap_cons]

/-- **The blocks of a spelled-out message** are the spelled-out blocks. -/
theorem chain_flatMap (hk : 0 < k) (hg : ∀ b, (g b).length = k) (l : List β) :
    chain f (k * n) s (l.flatMap g) = chain (fun s block => f s (block.flatMap g)) n s l := by
  rw [chain, chain, length_flatMap_of_length hg, Nat.mul_div_mul_left _ _ hk]
  congr 1
  -- both iterate over as many blocks, and block `i` is the same
  funext s i
  rw [Nat.mul_assoc, drop_flatMap_of_length hg, take_flatMap_of_length hg]

end Spell
