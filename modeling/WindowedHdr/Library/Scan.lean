import Mathlib.Data.List.FinRange
import Mathlib.Data.List.Nodup
import Mathlib.Data.Set.Card
import Mathlib.Logic.Function.Iterate

/-!
# Scans and tallies

A scan runs through the positions of some containers and records what it finds. What is
found where is a relation, and a recorded list `Enumerates` it when it has one entry for each
position where something is found. Scans compose (`Enumerates.filterMap`), and the length of
the record counts positions (`Enumerates.ncard_eq_length`): a record with one entry says that
there is one position, a record with two entries that there are two.

A tally is a list of findings without two of one key: a finding whose key is already there
raises the count of the earlier one (`tally`). It ends with a single entry exactly when all
findings have one key, and the entry then has counted all of them (`foldl_tally_eq_singleton`).

The number of positions is a cardinality of a set of positions, and not the length of a list
that happens to be at hand; so a statement about it does not depend on the order of the scan,
and says the same of any other scan over the same positions.
-/

universe u v w

variable {α : Type u} {β : Type v} {γ : Type w}

/-- `l` lists what is found, with one entry for each position where something is. -/
def Enumerates (found : α → β → Prop) (l : List β) : Prop :=
  ∃ points : List (α × β), (points.map Prod.fst).Nodup ∧
    (∀ a b, (a, b) ∈ points ↔ found a b) ∧ points.map Prod.snd = l

namespace Enumerates

variable {found : α → β → Prop} {l : List β}

/-- Looking further at what a scan found. -/
theorem filterMap (h : Enumerates found l) (g : β → Option γ) :
    Enumerates (fun a c => ∃ b, found a b ∧ g b = some c) (l.filterMap g) := by
  obtain ⟨points, hnodup, hmem, rfl⟩ := h
  refine ⟨points.filterMap fun point => (g point.2).map (Prod.mk point.1), ?_, ?_, ?_⟩
  · -- positions are only left out
    have hsub :
        ((points.filterMap fun point => (g point.2).map (Prod.mk point.1)).map Prod.fst).Sublist
          (points.map Prod.fst) := by
      clear hnodup hmem
      induction points with
      | nil => exact List.Sublist.refl _
      | cons point points ih =>
        rw [List.filterMap_cons]
        cases g point.2 with
        | none => exact ih.cons point.1
        | some c => exact ih.cons_cons point.1
    exact hnodup.sublist hsub
  · intro a c
    rw [List.mem_filterMap]
    constructor
    · rintro ⟨⟨a', b⟩, hpoint, hc⟩
      obtain ⟨c', hc', heq⟩ := Option.map_eq_some_iff.mp hc
      obtain ⟨rfl, rfl⟩ := Prod.mk.inj heq
      exact ⟨b, (hmem a' b).mp hpoint, hc'⟩
    · rintro ⟨b, hfound, hc⟩
      exact ⟨(a, b), (hmem a b).mpr hfound, congrArg (Option.map (Prod.mk a)) hc⟩
  · rw [List.map_filterMap, List.filterMap_map]
    congr 1
    funext point
    rw [Option.map_map, Function.comp_apply]
    cases g point.2 with
    | none => rfl
    | some c => rfl

/-- What is enumerated may be described in another way. -/
theorem congr {found' : α → β → Prop} (h : Enumerates found l)
    (hfound : ∀ a b, found a b ↔ found' a b) : Enumerates found' l := by
  obtain rfl : found = found' := funext fun a => funext fun b => propext (hfound a b)
  exact h

/-- An entry was found somewhere, and what is found is entered. -/
theorem mem_iff (h : Enumerates found l) (b : β) : b ∈ l ↔ ∃ a, found a b := by
  obtain ⟨points, -, hmem, rfl⟩ := h
  rw [List.mem_map]
  constructor
  · rintro ⟨⟨a, b⟩, hpoint, rfl⟩
    exact ⟨a, (hmem a b).mp hpoint⟩
  · rintro ⟨a, hfound⟩
    exact ⟨(a, b), (hmem a b).mpr hfound, rfl⟩

/-- **The length of a record** is the number of positions where something was found. -/
theorem ncard_eq_length (h : Enumerates found l) :
    {a | ∃ b, found a b}.Finite ∧ {a | ∃ b, found a b}.ncard = l.length := by
  classical
  obtain ⟨points, hnodup, hmem, rfl⟩ := h
  -- the positions where something was found are those of the record
  have hset : {a | ∃ b, found a b} = ((points.map Prod.fst).toFinset : Set α) := by
    ext a
    simp only [Set.mem_ofPred_eq, List.coe_toFinset, List.mem_map]
    constructor
    · rintro ⟨b, hfound⟩
      exact ⟨(a, b), (hmem a b).mpr hfound, rfl⟩
    · rintro ⟨⟨a, b⟩, hpoint, rfl⟩
      exact ⟨b, (hmem a b).mp hpoint⟩
  rw [hset]
  refine ⟨Finset.finite_toSet _, ?_⟩
  rw [Set.ncard_coe_finset, List.toFinset_card_of_nodup hnodup, List.length_map,
    List.length_map]

/-- **One entry.** There is one position, and the entry was found there. -/
theorem of_singleton {b : β} (h : Enumerates found [b]) :
    ∃ a, ∀ a' b', found a' b' ↔ a' = a ∧ b' = b := by
  obtain ⟨points, -, hmem, hmap⟩ := h
  obtain ⟨⟨a, b⟩, rfl, rfl⟩ := List.map_eq_singleton_iff.mp hmap
  refine ⟨a, fun a' b' => ?_⟩
  rw [← hmem, List.mem_singleton, Prod.mk.injEq]

/-- **Two entries.** There are two positions, one for each. -/
theorem of_pair {b₁ b₂ : β} (h : Enumerates found [b₁, b₂]) :
    ∃ a₁ a₂, a₁ ≠ a₂ ∧ ∀ a b, found a b ↔ (a = a₁ ∧ b = b₁) ∨ (a = a₂ ∧ b = b₂) := by
  obtain ⟨points, hnodup, hmem, hmap⟩ := h
  obtain ⟨⟨a₁, b₁⟩, points, rfl, rfl, hrest⟩ := List.map_eq_cons_iff.mp hmap
  obtain ⟨⟨a₂, b₂⟩, rfl, rfl⟩ := List.map_eq_singleton_iff.mp hrest
  refine ⟨a₁, a₂, by simpa using hnodup, fun a b => ?_⟩
  rw [← hmem]
  simp

/-- A record that starts with two entries was made at two positions at least. -/
theorem of_cons_cons {b₁ b₂ : β} (h : Enumerates found (b₁ :: b₂ :: l)) :
    ∃ a₁ a₂, a₁ ≠ a₂ ∧ found a₁ b₁ ∧ found a₂ b₂ := by
  obtain ⟨points, hnodup, hmem, hmap⟩ := h
  obtain ⟨⟨a₁, b₁⟩, points, rfl, rfl, hrest⟩ := List.map_eq_cons_iff.mp hmap
  obtain ⟨⟨a₂, b₂⟩, points, rfl, rfl, -⟩ := List.map_eq_cons_iff.mp hrest
  refine ⟨a₁, a₂, ?_, (hmem _ _).mp (by simp), (hmem _ _).mp (by simp)⟩
  rintro rfl
  simp at hnodup

end Enumerates

/-- The loop over the `count` positions of each container. -/
theorem enumerates_flatMap_range (containers : List α) (count : α → Nat) (value : α → Nat → β) :
    Enumerates
      (fun (p : Fin containers.length × Nat) b =>
        p.2 < count (containers.get p.1) ∧ b = value (containers.get p.1) p.2)
      (containers.flatMap fun c => (List.range (count c)).map (value c)) := by
  let points (i : Fin containers.length) : List ((Fin containers.length × Nat) × β) :=
    (List.range (count (containers.get i))).map fun k => ((i, k), value (containers.get i) k)
  refine ⟨(List.finRange containers.length).flatMap points, ?_, ?_, ?_⟩
  · have hfst : ∀ i, (points i).map Prod.fst =
        (List.range (count (containers.get i))).map (Prod.mk i) := by
      intro i
      exact List.map_map
    simp only [List.map_flatMap, hfst]
    rw [List.nodup_flatMap]
    constructor
    · intro i _
      exact List.nodup_range.map (Prod.mk_right_injective i)
    · -- positions in two containers differ in the container
      refine (List.nodup_finRange _).imp ?_
      intro i j hij p hi hj
      obtain ⟨_, -, rfl⟩ := List.mem_map.mp hi
      obtain ⟨_, -, hp⟩ := List.mem_map.mp hj
      exact hij (congrArg Prod.fst hp).symm
  · rintro ⟨i, k⟩ b
    rw [List.mem_flatMap]
    constructor
    · rintro ⟨j, -, hj⟩
      obtain ⟨k', hk', heq⟩ := List.mem_map.mp hj
      obtain ⟨hp, rfl⟩ := Prod.mk.inj heq
      obtain ⟨rfl, rfl⟩ := Prod.mk.inj hp
      exact ⟨List.mem_range.mp hk', rfl⟩
    · rintro ⟨hk, rfl⟩
      exact ⟨i, List.mem_finRange i, List.mem_map.mpr ⟨k, List.mem_range.mpr hk, rfl⟩⟩
  · have hsnd : ∀ i, (points i).map Prod.snd =
        (List.range (count (containers.get i))).map (value (containers.get i)) := by
      intro i
      exact List.map_map
    conv_rhs => rw [← List.map_get_finRange containers]
    rw [List.map_flatMap, List.flatMap_map]
    simp only [hsnd]

/-! ### Tallies -/

section Tally

variable {κ : Type w} [DecidableEq κ] (key : β → κ) (bump : β → β)

/-- Count `b` with the earlier entry that has its key, or enter it at the end. -/
def tally : List β → β → List β
  | [], b => [b]
  | a :: entries, b => if key a = key b then bump a :: entries else a :: tally entries b

variable {key bump}

/-- A tally has the keys of what was entered. -/
theorem mem_keys_tally (hbump : ∀ b, key (bump b) = key b) (entries : List β) (b : β) (k : κ) :
    k ∈ (tally key bump entries b).map key ↔ k ∈ entries.map key ∨ k = key b := by
  induction entries with
  | nil => simp [tally]
  | cons a entries ih =>
    rw [tally]
    -- the finding is counted with an entry, or passed on to the later ones
    split
    · next heq =>
      rw [List.map_cons, List.map_cons, hbump, ← heq]
      simp only [List.mem_cons]
      tauto
    · rw [List.map_cons, List.map_cons, List.mem_cons, List.mem_cons, ih]
      tauto

/-- All findings have their keys in the tally, and there are no other keys. -/
theorem mem_keys_foldl_tally (hbump : ∀ b, key (bump b) = key b) (l entries : List β) (k : κ) :
    k ∈ (l.foldl (tally key bump) entries).map key ↔ k ∈ entries.map key ∨ k ∈ l.map key := by
  induction l generalizing entries with
  | nil => simp
  | cons b l ih =>
    rw [List.foldl_cons, ih, mem_keys_tally hbump, List.map_cons, List.mem_cons, or_assoc]

/-- Findings with the key of a lone entry are counted with it. -/
theorem foldl_tally_of_key (hbump : ∀ b, key (bump b) = key b) (l : List β) (a : β)
    (hl : ∀ b ∈ l, key b = key a) :
    l.foldl (tally key bump) [a] = [bump^[l.length] a] := by
  induction l generalizing a with
  | nil => rfl
  | cons b l ih =>
    have hb : key a = key b := (hl b (by simp)).symm
    -- counting does not change the key
    have hrest : ∀ c ∈ l, key c = key (bump a) := by
      intro c hc
      rw [hbump]
      exact hl c (by simp [hc])
    rw [List.foldl_cons, tally, if_pos hb, ih (bump a) hrest, List.length_cons,
      Function.iterate_succ_apply]

/-- **A tally with one entry.** All findings have its key, and it is the first of them, counted
once more for each of the others. -/
theorem foldl_tally_eq_singleton (hbump : ∀ b, key (bump b) = key b) {l : List β} {c : β} :
    l.foldl (tally key bump) [] = [c] ↔
      ∃ b rest, l = b :: rest ∧ (∀ b' ∈ rest, key b' = key b) ∧ c = bump^[rest.length] b := by
  constructor
  · intro h
    cases l with
    | nil => simp at h
    | cons b rest =>
      -- no key is lost, and there is only one in the end
      have hkeys : ∀ b' ∈ b :: rest, key b' = key c := by
        intro b' hb'
        have hmem := (mem_keys_foldl_tally hbump (b :: rest) [] (key b')).mpr
          (.inr (List.mem_map_of_mem hb'))
        rw [h] at hmem
        simpa using hmem
      have hrest : ∀ b' ∈ rest, key b' = key b := by
        intro b' hb'
        exact (hkeys b' (by simp [hb'])).trans (hkeys b (by simp)).symm
      rw [List.foldl_cons, tally, foldl_tally_of_key hbump rest b hrest] at h
      exact ⟨b, rest, rfl, hrest, (List.singleton_inj.mp h).symm⟩
  · rintro ⟨b, rest, rfl, hrest, rfl⟩
    rw [List.foldl_cons, tally, foldl_tally_of_key hbump rest b hrest]

end Tally
