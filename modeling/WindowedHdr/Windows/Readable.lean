import WindowedHdr.Library.While
import WindowedHdr.Windows.CloneRegion

/-!
# The readability check

`range_is_readable` walks over a range of addresses region by region. Each pass asks
`VirtualQuery` for the region at the current address and goes on behind it, so the check
ends whatever the answers are: an answer that does not lead forward ends it
(`rangeIsReadable_terminates`).

When `VirtualQuery` answers from a partition of the address space into regions
(`AnswersFrom`), each pass covers what the range has of one region, and the check is exact
(`rangeIsReadable_exact`).
-/

namespace WindowedHdr
namespace Windows

open Usize While

def pageReadonly : UInt32 := 0x02
def pageReadwrite : UInt32 := 0x04
def pageWritecopy : UInt32 := 0x08
def pageExecuteRead : UInt32 := 0x20
def pageExecuteReadwrite : UInt32 := 0x40
def pageExecuteWritecopy : UInt32 := 0x80

/-- The region can be read: it is committed, its protection allows reading, and it has
neither of the flags that forbid it. -/
def MemoryBasicInformation.Readable (self : MemoryBasicInformation) : Prop :=
  self.state = memCommit ∧ self.protect &&& (pageNoaccess ||| pageGuard) = 0 ∧
    self.protect &&& (pageReadonly ||| pageReadwrite ||| pageWritecopy ||| pageExecuteRead |||
      pageExecuteReadwrite ||| pageExecuteWritecopy) ≠ 0

instance (self : MemoryBasicInformation) : Decidable self.Readable :=
  inferInstanceAs (Decidable (_ ∧ _ ∧ _))

/-- `VirtualQuery`; `none` when it does not fill the whole structure. -/
abbrev VirtualQuery := UInt64 → Option MemoryBasicInformation

/-- One pass of the loop of `range_is_readable`, at the address `current`. -/
def readablePass (virtualQuery : VirtualQuery) (finish current : Nat) : Pass Nat Bool :=
  if current < finish then
    match virtualQuery (UInt64.ofNat current) with
    | none => .done false
    | some information =>
      if ¬ information.Readable then .done false
      else
        match checkedAdd information.baseAddress.toNat information.regionSize.toNat with
        | none => .done false
        | some regionEnd =>
          if regionEnd ≤ current then .done false
          else .again (min regionEnd finish)
  else .done true

/-- `range_is_readable`, with at most `fuel` passes of its loop. -/
def rangeIsReadable (fuel : Nat) (virtualQuery : VirtualQuery) (address : UInt64)
    (size : Nat) : Option Bool :=
  if address = 0 ∨ size = 0 then some false
  else
    match checkedAdd address.toNat size with
    | none => some false
    | some finish => run (readablePass virtualQuery finish) fuel address.toNat

/-- The address behind the region. -/
def MemoryBasicInformation.finish (self : MemoryBasicInformation) : Nat :=
  self.baseAddress.toNat + self.regionSize.toNat

/-- The region lets the loop go on from `current`. -/
def MemoryBasicInformation.LeadsOn (self : MemoryBasicInformation) (current : Nat) : Prop :=
  self.Readable ∧ self.finish < Usize.size ∧ current < self.finish

variable {virtualQuery : VirtualQuery} {finish current : Nat}

/-- A pass finds the end of the range, a region that does not lead on, or one that does. -/
theorem readablePass_cases (virtualQuery : VirtualQuery) (finish current : Nat) :
    (finish ≤ current ∧ readablePass virtualQuery finish current = .done true) ∨
    (current < finish ∧ readablePass virtualQuery finish current = .done false ∧
      ∀ information, virtualQuery (UInt64.ofNat current) = some information →
        ¬ information.LeadsOn current) ∨
    (current < finish ∧ ∃ information,
      virtualQuery (UInt64.ofNat current) = some information ∧ information.LeadsOn current ∧
      readablePass virtualQuery finish current = .again (min information.finish finish)) := by
  by_cases hcurrent : current < finish
  · right
    rw [readablePass, if_pos hcurrent]
    cases hquery : virtualQuery (UInt64.ofNat current) with
    | none =>
      refine .inl ⟨hcurrent, rfl, fun information h => ?_⟩
      cases h
    | some information =>
      dsimp only
      by_cases hon : information.LeadsOn current
      · obtain ⟨hreadable, hfinish, hlt⟩ := hon
        refine .inr ⟨hcurrent, information, rfl, ⟨hreadable, hfinish, hlt⟩, ?_⟩
        have hsum : checkedAdd information.baseAddress.toNat information.regionSize.toNat =
            some information.finish := checkedAdd_eq_some.mpr ⟨rfl, hfinish⟩
        rw [if_neg (not_not_intro hreadable), hsum]
        exact if_neg (Nat.not_le_of_lt hlt)
      · -- not readable, wrapping, or with its end at or before the address
        refine .inl ⟨hcurrent, ?_, fun information' h => Option.some.inj h ▸ hon⟩
        by_cases hreadable : information.Readable
        · rw [if_neg (not_not_intro hreadable)]
          split
          · rfl
          · next regionEnd hend =>
            obtain ⟨rfl, hfinish⟩ := checkedAdd_eq_some.mp hend
            refine if_pos (Nat.le_of_not_lt fun hlt => ?_)
            exact hon ⟨hreadable, hfinish, hlt⟩
        · exact if_pos hreadable
  · exact .inl ⟨Nat.le_of_not_lt hcurrent, if_neg hcurrent⟩

/-- Each pass that goes on is closer to the end of the range. -/
theorem readablePass_progress {next : Nat}
    (h : readablePass virtualQuery finish current = .again next) :
    finish - next < finish - current := by
  obtain ⟨-, hdone⟩ | ⟨-, hdone, -⟩ | ⟨hcurrent, information, -, hon, hagain⟩ :=
    readablePass_cases virtualQuery finish current
  · cases h.symm.trans hdone
  · cases h.symm.trans hdone
  · obtain rfl := Pass.again.inj (h.symm.trans hagain)
    have hlt := hon.2.2
    omega

/-- **Termination.** Whatever `VirtualQuery` answers, the check returns, after a pass for
each byte of the range at most. -/
theorem rangeIsReadable_terminates (virtualQuery : VirtualQuery) (address : UInt64)
    (size : Nat) :
    ∃ answer, ∀ fuel, size < fuel →
      rangeIsReadable fuel virtualQuery address size = some answer := by
  unfold rangeIsReadable
  split
  · exact ⟨false, fun _ _ => rfl⟩
  · split
    · exact ⟨false, fun _ _ => rfl⟩
    · next finish hfinish =>
      obtain ⟨rfl, -⟩ := checkedAdd_eq_some.mp hfinish
      -- what is left of the range shrinks with each pass
      obtain ⟨answer, hanswer⟩ := exists_run_eq (fun current => address.toNat + size - current)
        (fun _ _ => readablePass_progress) address.toNat
      refine ⟨answer, fun fuel hfuel => hanswer fuel ?_⟩
      omega

/-! ### Exactness -/

/-- The byte at `a` is one of the region's. -/
def MemoryBasicInformation.Contains (self : MemoryBasicInformation) (a : Nat) : Prop :=
  self.baseAddress.toNat ≤ a ∧ a < self.finish

instance (self : MemoryBasicInformation) (a : Nat) : Decidable (self.Contains a) :=
  inferInstanceAs (Decidable (_ ∧ _))

/-- `VirtualQuery` answers from a partition into these regions, whose ends are addresses: it
returns the region that contains the address. -/
structure AnswersFrom (virtualQuery : VirtualQuery) (regions : Set MemoryBasicInformation) :
    Prop where
  nonempty : ∀ information ∈ regions, information.regionSize ≠ 0
  below : ∀ information ∈ regions, information.finish < Usize.size
  query : ∀ (a : UInt64) information,
    virtualQuery a = some information ↔ information ∈ regions ∧ information.Contains a.toNat

/-- The byte at `a` lies in a region that can be read. -/
def ReadableAt (regions : Set MemoryBasicInformation) (a : Nat) : Prop :=
  ∃ information ∈ regions, information.Contains a ∧ information.Readable

variable {regions : Set MemoryBasicInformation}

/-- From a partition, the rest of the range is answered for exactly. -/
theorem run_readablePass_exact (h : AnswersFrom virtualQuery regions)
    (hfinish : finish < Usize.size) {fuel : Nat} {answer : Bool}
    (hrun : run (readablePass virtualQuery finish) fuel current = some answer) :
    answer = true ↔ ∀ a, current ≤ a → a < finish → ReadableAt regions a := by
  -- an address of the range is the machine word that is queried
  have hword : ∀ {a : Nat}, a < finish → (UInt64.ofNat a).toNat = a := by
    intro a ha
    rw [UInt64.toNat_ofNat']
    exact Nat.mod_eq_of_lt (ha.trans hfinish)
  -- over the passes, backwards from the last one
  refine run_induction (P := fun current answer =>
    answer = true ↔ ∀ a, current ≤ a → a < finish → ReadableAt regions a) ?_ ?_ hrun
  · intro current answer hdone
    obtain ⟨hend, hpass⟩ | ⟨hcurrent, hpass, hoff⟩ | ⟨-, _, -, -, hpass⟩ :=
      readablePass_cases virtualQuery finish current
    · obtain rfl := Pass.done.inj (hdone.symm.trans hpass)
      refine iff_of_true rfl fun a hle hlt => ?_
      omega
    · obtain rfl := Pass.done.inj (hdone.symm.trans hpass)
      refine iff_of_false Bool.false_ne_true fun hall => ?_
      -- the region of the current address would lead on
      obtain ⟨information, hmem, hcontains, hreadable⟩ := hall current le_rfl hcurrent
      have hquery : virtualQuery (UInt64.ofNat current) = some information := by
        rw [h.query, hword hcurrent]
        exact ⟨hmem, hcontains⟩
      exact hoff information hquery ⟨hreadable, h.below information hmem, hcontains.2⟩
    · cases hdone.symm.trans hpass
  · intro current next answer hagain hnext
    obtain ⟨-, hpass⟩ | ⟨-, hpass, -⟩ | ⟨hcurrent, information, hquery, hon, hpass⟩ :=
      readablePass_cases virtualQuery finish current
    · cases hagain.symm.trans hpass
    · cases hagain.symm.trans hpass
    · obtain rfl := Pass.again.inj (hagain.symm.trans hpass)
      obtain ⟨hmem, hcontains⟩ := (h.query _ _).mp hquery
      rw [hword hcurrent] at hcontains
      -- the bytes up to the end of this region are its own, and the rest is the next pass
      rw [hnext]
      constructor
      · intro hall a hle hlt
        by_cases hregion : a < information.finish
        · exact ⟨information, hmem, ⟨hcontains.1.trans hle, hregion⟩, hon.1⟩
        · exact hall a (by omega) hlt
      · intro hall a hle hlt
        have hafter := hon.2.2
        exact hall a (by omega) hlt

/-- **Exactness.** From a partition, the check says whether the range is not empty, does not
start at null, does not wrap, and lies in regions that can be read. -/
theorem rangeIsReadable_exact (h : AnswersFrom virtualQuery regions) {address : UInt64}
    {size fuel : Nat} (hfuel : size < fuel) :
    rangeIsReadable fuel virtualQuery address size = some true ↔
      size ≠ 0 ∧ address ≠ 0 ∧ address.toNat + size < Usize.size ∧
      ∀ a, address.toNat ≤ a → a < address.toNat + size → ReadableAt regions a := by
  obtain ⟨answer, hanswer⟩ := rangeIsReadable_terminates virtualQuery address size
  have hrun := hanswer fuel hfuel
  rw [hrun, Option.some_inj]
  -- the checks before the loop refuse what the first three conditions exclude
  unfold rangeIsReadable at hrun
  split at hrun
  · next hrange =>
    obtain rfl := Option.some.inj hrun
    refine iff_of_false Bool.false_ne_true ?_
    rintro ⟨hsize, haddress, -⟩
    exact hrange.elim haddress hsize
  · next hrange =>
    rw [not_or] at hrange
    split at hrun
    · next hwrap =>
      obtain rfl := Option.some.inj hrun
      refine iff_of_false Bool.false_ne_true ?_
      rintro ⟨-, -, hfits, -⟩
      rw [checkedAdd, if_pos hfits] at hwrap
      cases hwrap
    · next finish hfinish =>
      obtain ⟨rfl, hfits⟩ := checkedAdd_eq_some.mp hfinish
      rw [run_readablePass_exact h hfits hrun]
      constructor
      · intro hall
        exact ⟨hrange.2, hrange.1, hfits, hall⟩
      · rintro ⟨-, -, -, hall⟩
        exact hall

/-- **The readability check.** It ends for any answers of `VirtualQuery`, and is exact for
answers from a partition, across any number of regions. -/
theorem readability_check_exact (virtualQuery : VirtualQuery) :
    (∀ address size, ∃ answer, ∀ fuel, size < fuel →
      rangeIsReadable fuel virtualQuery address size = some answer) ∧
    ∀ regions, AnswersFrom virtualQuery regions → ∀ address size fuel, size < fuel →
      (rangeIsReadable fuel virtualQuery address size = some true ↔
        size ≠ 0 ∧ address ≠ 0 ∧ address.toNat + size < Usize.size ∧
        ∀ a, address.toNat ≤ a → a < address.toNat + size → ReadableAt regions a) :=
  ⟨rangeIsReadable_terminates virtualQuery,
    fun _ h _ _ _ hfuel => rangeIsReadable_exact h hfuel⟩

/-- Two readable regions next to each other, and a guard page behind them. -/
def sampleRegions : List MemoryBasicInformation :=
  [⟨0x10000, 0x1000, memCommit, pageReadonly⟩, ⟨0x11000, 0x3000, memCommit, pageExecuteRead⟩,
    ⟨0x14000, 0x1000, memCommit, pageReadwrite ||| pageGuard⟩]

def sampleQuery : VirtualQuery := fun a =>
  sampleRegions.find? fun information => decide (information.Contains a.toNat)

/-- The sample answers describe the sample regions. -/
theorem sampleQuery_answersFrom :
    AnswersFrom sampleQuery { information | information ∈ sampleRegions } where
  nonempty := by
    change ∀ information ∈ sampleRegions, information.regionSize ≠ 0
    decide
  below := by
    change ∀ information ∈ sampleRegions, information.finish < Usize.size
    decide
  query := by
    intro a information
    constructor
    · intro h
      exact ⟨List.mem_of_find?_eq_some h, of_decide_eq_true (List.find?_some h :)⟩
    · rintro ⟨hmem, hcontains⟩
      -- no region before this one reaches the address
      have hapart : sampleRegions.Pairwise fun first second =>
          first.finish ≤ second.baseAddress.toNat := by decide
      obtain ⟨front, rest, hsplit⟩ := List.append_of_mem hmem
      rw [sampleQuery, List.find?_eq_some_iff_append]
      refine ⟨decide_eq_true hcontains, front, rest, hsplit, fun first hfirst => ?_⟩
      rw [hsplit, List.pairwise_append] at hapart
      have hle := hapart.2.2 first hfirst information List.mem_cons_self
      have hge := hcontains.1
      rw [Bool.not_eq_true', decide_eq_false_iff_not]
      exact fun hin => absurd (hin.2.trans_le (hle.trans hge)) (Nat.lt_irrefl _)

/-- A range over two regions of the sample. -/
theorem readability_check_exact_sample :
    rangeIsReadable 0x3001 sampleQuery 0x10F00 0x3000 = some true ∧
    (rangeIsReadable 0x3001 sampleQuery 0x10F00 0x3000 = some true ↔
      0x3000 ≠ 0 ∧ (0x10F00 : UInt64) ≠ 0 ∧ (0x10F00 : UInt64).toNat + 0x3000 < Usize.size ∧
      ∀ a, (0x10F00 : UInt64).toNat ≤ a → a < (0x10F00 : UInt64).toNat + 0x3000 →
        ReadableAt { information | information ∈ sampleRegions } a) :=
  ⟨by decide +kernel, (readability_check_exact sampleQuery).2 _ sampleQuery_answersFrom _ _ _
    (by decide)⟩

end Windows
end WindowedHdr
