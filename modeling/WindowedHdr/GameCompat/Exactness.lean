import Mathlib.Data.List.ReduceOption
import WindowedHdr.GameCompat.Resolve

/-!
# When the searches succeed

`resolve_sound` says what a resolved bundle is. Here are the converses for two of the searches:
which images they accept.

* The search for the vtable accepts exactly the images in which all instructions that name a
  valid table name the same one, and there are two of them at least
  (`resolveMenuGateVtable_exact`); the returned count is their number.
* The selection among two callers of which one is in a gate returns that gate exactly when the
  nineteen bytes around both callers can be read (`selectGates_exact`). A caller with no room
  before it is passed over, but a caller with no room after it ends the resolution
  (`selection_fails_at_section_end`).

Both are read off what the search computes. The search for the vtable is a tally of the tables
that are named: it succeeds when the tally has one entry, and then the entry has counted every
reference (`foldl_tally_eq_singleton`), which is the number of positions because a scan meets
each of them once. That at most one table is named by an instruction is `ReferencesAt.unique`.

The selection is looked at caller by caller, since the first one whose bytes cannot be read ends
it. `exists_gateCandidate` says when a caller does not: there is no room before it, or the
nineteen bytes around it can be read.
-/

namespace WindowedHdr
namespace GameCompat
namespace LoadedImage

open Usize

/-! ### The vtable -/

section Vtable

variable (process : Process) (image : LoadedImage)

/-- The positions whose instruction names a valid table of the gate. -/
def vtableReferences (gate : Nat) : Set image.Position :=
  {p | ∃ target v, image.ReferencesAt process target p ∧
    image.validateMenuGateVtable process target gate = .ok v}

variable {process image}

/-- An instruction names one address. -/
theorem ReferencesAt.unique {target target' : Nat} {p : image.Position}
    (h : image.ReferencesAt process target p) (h' : image.ReferencesAt process target' p) :
    target = target' :=
  Int.ofNat_inj.mp (h.2.2.2.2.trans h'.2.2.2.2.symm)

/-- A table is validated at its own address. -/
theorem rva_of_validate {target gate : Nat} {v : VtableMatch}
    (h : image.validateMenuGateVtable process target gate = .ok v) : v.rva = target :=
  (isMenuGateVtable_of_ok h).2.1

/-- A position that names a valid table names the table that was validated there. -/
theorem mem_vtableReferences {gate : Nat} {p : image.Position} :
    p ∈ image.vtableReferences process gate ↔
      ∃ v : VtableMatch, image.ReferencesAt process v.rva p ∧
        image.validateMenuGateVtable process v.rva gate = .ok v := by
  constructor
  · rintro ⟨target, v, hreferences, hvalid⟩
    obtain rfl := rva_of_validate hvalid
    exact ⟨v, hreferences, hvalid⟩
  · rintro ⟨v, hreferences, hvalid⟩
    exact ⟨v.rva, v, hreferences, hvalid⟩

/-- **Exactness of the vtable search.** While the executable sections can be read, the search
returns `v` exactly when the instructions that name a valid table all name `v.rva`, there are
two of them at least, and `v` is what was validated there with their number. -/
theorem resolveMenuGateVtable_exact (process : Process) (image : LoadedImage) (gate : Nat)
    (hreadable : ∀ s ∈ image.executableSections,
      s.isReadable = true ∧ process.rangeIsReadable (image.address s.rva) s.size = true) :
    (image.vtableReferences process gate).Finite ∧
    ∀ v, image.resolveMenuGateVtable process gate = .ok v ↔
      (∀ p ∈ image.vtableReferences process gate, image.ReferencesAt process v.rva p) ∧
      2 ≤ (image.vtableReferences process gate).ncard ∧
      ∃ validated, image.validateMenuGateVtable process v.rva gate = .ok validated ∧
        v = { validated with
          referenceCount := (image.vtableReferences process gate).ncard } := by
  obtain ⟨windows, hwindows⟩ : ∃ windows, image.executableWindows process 7 = .ok windows :=
    ⟨_, executableWindows_eq_ok.mpr ⟨hreadable, rfl⟩⟩
  have hfound := referencedVtable_enumerates gate hwindows
  have hsearch := fun v => resolveMenuGateVtable_eq_ok gate v hwindows
  generalize (windows.filterMap fun window =>
    image.referencedVtable process gate window.1 window.2) = entries at hfound hsearch
  -- the record counts the references
  have hset : {p | ∃ v : VtableMatch, image.ReferencesAt process v.rva p ∧
      image.validateMenuGateVtable process v.rva gate = .ok v} =
      image.vtableReferences process gate :=
    Set.ext fun _ => mem_vtableReferences.symm
  obtain ⟨hfinite, hcard⟩ := hfound.ncard_eq_length
  rw [hset] at hfinite hcard
  refine ⟨hfinite, fun v => ?_⟩
  rw [hsearch, hcard]
  constructor
  · rintro ⟨first, rest, rfl, hkeys, hrest, rfl⟩
    have hlen := List.length_pos_of_ne_nil hrest
    refine ⟨fun p hp => ?_, by rw [List.length_cons]; omega, first, ?_, rfl⟩
    · obtain ⟨w, hw⟩ := mem_vtableReferences.mp hp
      -- every entry names the table of the first
      have hkey : w.rva = first.rva := by
        rcases List.mem_cons.mp ((hfound.mem_iff w).mpr ⟨p, hw⟩) with rfl | hmem
        · rfl
        · exact hkeys w hmem
      exact hkey ▸ hw.1
    · obtain ⟨p, hp⟩ := (hfound.mem_iff first).mp (by simp)
      exact hp.2
  · rintro ⟨hsame, htwo, validated, hvalid, hv⟩
    -- every entry is what was validated at the one target
    have hentry : ∀ w ∈ entries, w = validated := by
      intro w hw
      obtain ⟨p, hp⟩ := (hfound.mem_iff w).mp hw
      have htarget := hp.1.unique (hsame p (mem_vtableReferences.mpr ⟨w, hp⟩))
      exact Except.ok.inj (hp.2.symm.trans (htarget ▸ hvalid))
    -- fewer than two entries are too few
    match entries with
    | [] => simp at htwo
    | [_] => simp at htwo
    | first :: second :: rest =>
      have hfirst : first = validated := hentry first (by simp)
      refine ⟨first, second :: rest, rfl, fun other hother => ?_, by simp, ?_⟩
      · rw [hentry other (List.mem_cons_of_mem _ hother), hfirst]
      · rw [hfirst]
        exact hv

/-- The sections of the module in `sampleProcess`. -/
def sampleImage : LoadedImage where
  base := sampleBase
  size := 4096
  sections :=
    [⟨".menu", 360, 139, 0x60000000⟩, ⟨".config", 499, 259, 0x60000000⟩,
      ⟨".backend", 758, 76, 0x60000000⟩, ⟨".rdata", 840, 200, 0x40000000⟩]
  size_bounds := by decide
  fits := by decide
  executable := by decide

/-- Two instructions of the sample module name the vtable of its gate. -/
theorem resolveMenuGateVtable_exact_sample :
    (sampleImage.vtableReferences sampleProcess 461).ncard = 2 := by
  have hexact := (resolveMenuGateVtable_exact sampleProcess sampleImage 461 (by decide)).2
  have hcount : (sampleImage.resolveMenuGateVtable sampleProcess 461).map
      VtableMatch.referenceCount = .ok 2 := by
    decide +kernel
  cases hv : sampleImage.resolveMenuGateVtable sampleProcess 461 with
  | error e =>
    rw [hv] at hcount
    exact nomatch hcount
  | ok v =>
    obtain ⟨-, -, _, -, hvcount⟩ := (hexact v).mp hv
    rw [hv] at hcount
    have hcount : v.referenceCount = 2 := Except.ok.inj hcount
    rw [hvcount] at hcount
    exact hcount

end Vtable

/-! ### The gate among the callers -/

section Callers

variable (process : Process) (image : LoadedImage)

/-- The nineteen bytes from `gate` on can be read. -/
def GateReadable (gate : Nat) : Prop :=
  image.Within gate 19 Section.isReadable ∧
    process.rangeIsReadable (image.address gate) 19 = true

/-- The call at `call` is the one in the body of a gate. -/
structure InGate (availability call : Nat) : Prop where
  room : 4 ≤ call
  readable : image.GateReadable process (call - 4)
  body : image.GateBody process (call - 4) availability

variable {process image}

/-- The body is compared whenever it can be read. -/
theorem exists_menuGateBodyMatches {gate availability : Nat} :
    (∃ found, image.menuGateBodyMatches process gate availability = .ok found) ↔
      image.GateReadable process gate := by
  unfold menuGateBodyMatches
  constructor
  · rintro ⟨found, h⟩
    obtain ⟨body, hbody, -⟩ := Except.bind_eq_ok.mp h
    exact (bytesAt_eq_ok.mp hbody).1
  · intro hreadable
    rw [bytesAt_eq_ok.mpr ⟨hreadable, rfl⟩]
    dsimp only [bind, Except.bind]
    split
    · exact ⟨false, rfl⟩
    · exact ⟨_, rfl⟩

/-- A caller with no room before it is passed over; any other has to be readable around. -/
theorem exists_gateCandidate {availability call : Nat} :
    (∃ candidate, image.gateCandidate process availability call = .ok candidate) ↔
      (4 ≤ call → image.GateReadable process (call - 4)) := by
  unfold gateCandidate
  cases hsub : checkedSub call 4 with
  | none =>
    refine iff_of_true ⟨none, rfl⟩ fun hle => ?_
    rw [checkedSub_eq_some.mpr ⟨rfl, hle⟩] at hsub
    exact nomatch hsub
  | some gate =>
    obtain ⟨rfl, hle⟩ := checkedSub_eq_some.mp hsub
    rw [← exists_menuGateBodyMatches]
    constructor
    · rintro ⟨candidate, h⟩ -
      obtain ⟨found, hfound, -⟩ := Except.bind_eq_ok.mp h
      exact ⟨found, hfound⟩
    · intro h
      obtain ⟨found, hfound⟩ := h hle
      exact ⟨_, Except.bind_eq_ok.mpr ⟨found, hfound, rfl⟩⟩

/-- The candidate of a caller, once it could be looked at. -/
theorem gateCandidate_eq_some {availability call gate : Nat} {candidate : Option Nat}
    (h : image.gateCandidate process availability call = .ok candidate)
    (havailability : availability < Usize.size) :
    candidate = some gate ↔ gate = call - 4 ∧ image.InGate process availability call := by
  rw [gateCandidate_eq_ok h havailability]
  have hreadable := exists_gateCandidate.mp ⟨candidate, h⟩
  constructor
  · rintro ⟨rfl, hbody⟩
    have hroom := Nat.le_add_left 4 gate
    refine ⟨rfl, hroom, hreadable hroom, ?_⟩
    rwa [Nat.add_sub_cancel]
  · rintro ⟨rfl, hgate⟩
    exact ⟨(Nat.sub_add_cancel hgate.room).symm, hgate.body⟩

/-- An address that is called is a machine word. -/
theorem lt_size_of_findDirectCallsTo {target : Nat} {callers : List Nat}
    (h : image.findDirectCallsTo process target = .ok callers) (hne : callers ≠ []) :
    target < Usize.size := by
  unfold findDirectCallsTo at h
  obtain ⟨windows, -, h⟩ := Except.bind_eq_ok.mp h
  obtain rfl := Except.ok.inj h
  obtain ⟨call, hcall⟩ := List.exists_mem_of_ne_nil _ hne
  obtain ⟨⟨rva, bytes⟩, -, hfound⟩ := List.mem_filterMap.mp hcall
  dsimp only at hfound
  split_ifs at hfound with _ htarget
  exact (relativeTarget_eq_some.mp htarget).2

/-- **Exactness of the gate selection.** With two callers of which one is in a gate, that gate
is selected exactly when the other caller has no room before it or can be read around. -/
theorem selectGates_exact (process : Process) (image : LoadedImage)
    (availability call other : Nat) (callers : List Nat)
    (hcallers : image.findDirectCallsTo process availability = .ok callers)
    (hpair : callers = [call, other] ∨ callers = [other, call])
    (hcall : image.InGate process availability call)
    (hother : ¬ image.InGate process availability other) :
    (do
      let gateHits ← image.selectGates process availability callers
      requireUnique "HDR menu-gate caller" gateHits) = .ok (call - 4) ↔
    (4 ≤ other → image.GateReadable process (other - 4)) := by
  have havailability : availability < Usize.size :=
    lt_size_of_findDirectCallsTo hcallers (by rcases hpair with rfl | rfl <;> simp)
  have hmem : ∀ caller ∈ callers, caller = call ∨ caller = other := by
    rcases hpair with rfl | rfl
    · simp
    · simp [or_comm]
  unfold selectGates
  constructor
  · intro h
    obtain ⟨gates, hgates, -⟩ := Except.bind_eq_ok.mp h
    obtain ⟨candidates, hcandidates, -⟩ := Except.bind_eq_ok.mp hgates
    -- the loop has looked at both callers
    have hlooked := (Except.mapM_eq_ok_toOption.mp hcandidates).1 other
      (by rcases hpair with rfl | rfl <;> simp)
    exact exists_gateCandidate.mp hlooked
  -- both callers can be looked at, and one of them is in a gate
  · intro hreadable
    obtain ⟨candidate, hcandidate⟩ := exists_gateCandidate.mpr fun _ => hcall.readable
    obtain ⟨skipped, hskipped⟩ := exists_gateCandidate.mpr hreadable
    obtain rfl : candidate = some (call - 4) :=
      (gateCandidate_eq_some hcandidate havailability).mpr ⟨rfl, hcall⟩
    obtain rfl : skipped = none := by
      by_contra hsome
      obtain ⟨gate, hgate⟩ := Option.ne_none_iff_exists'.mp hsome
      exact hother ((gateCandidate_eq_some hskipped havailability).mp hgate).2
    refine Except.bind_eq_ok.mpr ⟨[call - 4], ?_, requireUnique_eq_ok.mpr rfl⟩
    refine Except.bind_eq_ok.mpr ⟨_, Except.mapM_eq_ok_toOption.mpr ⟨?_, rfl⟩, ?_⟩
    · intro caller hcaller
      rcases hmem caller hcaller with rfl | rfl
      · exact ⟨_, hcandidate⟩
      · exact ⟨_, hskipped⟩
    · -- the one candidate is left, wherever it stands
      rcases hpair with rfl | rfl
      · simp [hcandidate, hskipped, List.reduceOption_cons_of_some,
          List.reduceOption_cons_of_none, Except.toOption, pure, Except.pure]
      · simp [hcandidate, hskipped, List.reduceOption_cons_of_some,
          List.reduceOption_cons_of_none, Except.toOption, pure, Except.pure]

/-- The gate of the sample module is selected: the bytes around its other caller can be read. -/
theorem selectGates_exact_sample :
    (do
      let gateHits ← sampleImage.selectGates sampleProcess 360 [465, 480]
      requireUnique "HDR menu-gate caller" gateHits) = .ok 461 := by
  have hcall : sampleImage.InGate sampleProcess 360 465 :=
    { room := by decide
      readable := ⟨⟨_, List.mem_cons_self, by decide, by decide, by decide⟩, by decide⟩
      body := ⟨by decide +kernel, by decide +kernel, by decide +kernel, by decide +kernel⟩ }
  have hother : ¬ sampleImage.InGate sampleProcess 360 480 := fun h =>
    absurd h.body.enter (by decide +kernel)
  refine (selectGates_exact sampleProcess sampleImage 360 465 480 [465, 480] (by decide +kernel)
    (.inl rfl) hcall hother).mpr fun _ => ?_
  exact ⟨⟨_, List.mem_cons_self, by decide, by decide, by decide⟩, by decide⟩

/-- The code after the gate at 461: two references to the vtable, and then the other caller of
the availability routine as the last instruction of the section. -/
def edgeCode : List UInt8 :=
  [0x48, 0x8D, 0x05] ++ rel32 487 848 ++
  [0x4C, 0x8D, 0x0D] ++ rel32 494 848 ++
  [0xE8] ++ rel32 499 360

/-- The sample module with this code. -/
def edgeProcess : Process :=
  { sampleProcess with
    memory := fun address =>
      let rva := (address - sampleBase).toNat
      if 480 ≤ rva ∧ rva < 499 then edgeCode.getD (rva - 480) 0 else sampleProcess.memory address }

/-- The caller at 494 ends its section, so the bytes around it end the resolution. -/
example : resolve edgeProcess 1040 "00" =
    .error "RVA 0x000001EA+0x13 is outside readable PE sections" := by
  decide +kernel

/-- One of the two callers is in a gate, and the gate is not selected. -/
theorem selection_fails_at_section_end :
    ¬ ∀ (process : Process) (image : LoadedImage) (availability call other : Nat)
      (callers : List Nat),
      image.findDirectCallsTo process availability = .ok callers →
      callers = [call, other] ∨ callers = [other, call] →
      image.InGate process availability call → ¬ image.InGate process availability other →
      (do
        let gateHits ← image.selectGates process availability callers
        requireUnique "HDR menu-gate caller" gateHits) = .ok (call - 4) := by
  intro h
  have hcall : sampleImage.InGate edgeProcess 360 465 :=
    { room := by decide
      readable := ⟨⟨_, List.mem_cons_self, by decide, by decide, by decide⟩, by decide⟩
      body := ⟨by decide +kernel, by decide +kernel, by decide +kernel, by decide +kernel⟩ }
  have hother : ¬ sampleImage.InGate edgeProcess 360 494 := fun h =>
    absurd h.body.enter (by decide +kernel)
  -- the bytes around the other caller end outside of its section
  have hselected := h edgeProcess sampleImage 360 465 494 [465, 494] (by decide +kernel)
    (.inl rfl) hcall hother
  exact absurd hselected (by decide +kernel)

end Callers

end LoadedImage
end GameCompat
end WindowedHdr
