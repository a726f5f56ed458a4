import Mathlib.Data.List.Basic
import WindowedHdr.GameCompat.Faulting.Image

/-!
# The headers, with the operations of the machine

`main_module` reads the headers at offsets that the headers give. Each of these offsets has been
bounded by the time something is added to it: the first by a constant, the section table by the
size of the headers, and with it each entry of the table. The size of the image is only known in
the end, so a header is read wherever the system finds memory readable.

`mainModule_eq` says that the image which is built is one with every promise of a `LoadedImage`.
-/

namespace WindowedHdr
namespace GameCompat
namespace Faulting

open Usize

section Headers

variable (process : Process) (base : UInt64)

/-- `read_header_u16`. -/
def readHeaderU16 (offset : Nat) : Except (Stop String) Nat := do
  let bytes ← (LoadedImage.readHeaderBytes process base offset 2).guarded
  let field ← Except.expect (Bytes.toArray bytes 2)
  return ofLittleEndian field

/-- `read_header_u32`. -/
def readHeaderU32 (offset : Nat) : Except (Stop String) Nat := do
  let bytes ← (LoadedImage.readHeaderBytes process base offset 4).guarded
  let field ← Except.expect (Bytes.toArray bytes 4)
  return ofLittleEndian field

/-- One entry of the section table, at `header`; none when it maps nothing. -/
def readSection (header imageSize : Nat) : Except (Stop String) (Option Section) := do
  let nameBytes ← (LoadedImage.readHeaderBytes process base header 8).guarded
  -- a name of eight characters has no terminator
  let nameLength := (nameBytes.findIdx? (· == 0)).getD 8
  let name ← Bytes.range nameBytes 0 nameLength
  let name := fromUtf8Lossy name
  let virtualSize ← readHeaderU32 process base (← add header 8)
  let rva ← readHeaderU32 process base (← add header 12)
  let rawSize ← readHeaderU32 process base (← add header 16)
  let characteristics ← readHeaderU32 process base (← add header 36)
  let mappedSize := max virtualSize rawSize
  if mappedSize = 0 then
    return none
  else if (checkedAdd rva mappedSize).all (· > imageSize) = true then
    Except.fail s!"PE section {name} extends outside the loaded image"
  else
    return some
      { name := name
        rva := rva
        size := mappedSize
        characteristics := UInt32.ofNat characteristics }

variable {process base}

/-- A read of the headers has the length that was asked for. -/
theorem length_of_readHeaderBytes {offset length : Nat} {bytes : List UInt8}
    (h : LoadedImage.readHeaderBytes process base offset length = .ok bytes) :
    bytes.length = length := by
  obtain ⟨_, -, h⟩ := Except.bind_eq_ok.mp h
  obtain rfl := Except.ok.inj h
  exact ByteMemory.length_read _ _ _

/-- Two bytes are a number. -/
theorem readHeaderU16_eq (offset : Nat) :
    readHeaderU16 process base offset =
      (LoadedImage.readHeaderU16 process base offset).guarded := by
  unfold readHeaderU16 LoadedImage.readHeaderU16
  refine Except.bind_eq_guarded rfl fun bytes hbytes => ?_
  rw [Bytes.toArray_eq_some (length_of_readHeaderBytes hbytes)]
  rfl

/-- Four bytes are a number. -/
theorem readHeaderU32_eq (offset : Nat) :
    readHeaderU32 process base offset =
      (LoadedImage.readHeaderU32 process base offset).guarded := by
  unfold readHeaderU32 LoadedImage.readHeaderU32
  refine Except.bind_eq_guarded rfl fun bytes hbytes => ?_
  rw [Bytes.toArray_eq_some (length_of_readHeaderBytes hbytes)]
  rfl

/-- The name of a section ends before the first zero. -/
theorem range_name {nameBytes : List UInt8} (h : nameBytes.length = 8) :
    (Bytes.range nameBytes 0 ((nameBytes.findIdx? (· == 0)).getD 8) :
      Except (Stop String) (List UInt8)) = .ok (nameBytes.takeWhile (· != 0)) := by
  have hindex : (nameBytes.findIdx? (· == 0)).getD 8 = nameBytes.findIdx (· == 0) := by
    rw [List.findIdx_eq_getD_findIdx?, h]
  rw [hindex, Bytes.range_eq_ok (Nat.zero_le _) List.findIdx_le_length, slice, List.drop_zero,
    Nat.sub_zero, List.takeWhile_eq_take_findIdx_not]
  simp only [bne, Bool.not_not]

/-- **An entry of the section table.** -/
theorem readSection_eq {header imageSize : Nat} (hheader : header + 36 < Usize.size) :
    readSection process base header imageSize =
      ((LoadedImage.readSection process base header imageSize).map
        (Option.map Subtype.val)).guarded := by
  unfold readSection LoadedImage.readSection
  refine Except.bind_eq_guarded_map rfl fun nameBytes hnameBytes => ?_
  refine Except.bind_of_eq_ok (range_name (length_of_readHeaderBytes hnameBytes)) ?_
  refine Except.bind_of_eq_ok (add_eq_ok (by omega)) ?_
  refine Except.bind_eq_guarded_map (readHeaderU32_eq _) fun virtualSize _ => ?_
  refine Except.bind_of_eq_ok (add_eq_ok (by omega)) ?_
  refine Except.bind_eq_guarded_map (readHeaderU32_eq _) fun rva _ => ?_
  refine Except.bind_of_eq_ok (add_eq_ok (by omega)) ?_
  refine Except.bind_eq_guarded_map (readHeaderU32_eq _) fun rawSize _ => ?_
  refine Except.bind_of_eq_ok (add_eq_ok hheader) ?_
  refine Except.bind_eq_guarded_map (readHeaderU32_eq _) fun characteristics _ => ?_
  -- nothing is mapped by a section without a size
  dsimp only
  by_cases hmapped : max virtualSize rawSize = 0
  · rw [if_pos hmapped, dif_pos hmapped]
    rfl
  rw [if_neg hmapped, dif_neg hmapped]
  -- the test of the source is the negation of the other one
  have htest : ¬ (checkedAdd rva (max virtualSize rawSize)).all (· > imageSize) = true ↔
      (checkedAdd rva (max virtualSize rawSize)).any (· ≤ imageSize) = true := by
    cases checkedAdd rva (max virtualSize rawSize) with
    | none => simp
    | some finish => simp
  -- what the other layer establishes here is kept as a field, and forgotten again
  by_cases hinside : (checkedAdd rva (max virtualSize rawSize)).any (· ≤ imageSize) = true
  · rw [if_neg (htest.mpr hinside), Except.establish_of hinside]
    rfl
  · rw [if_pos (not_not.mp (mt htest.mp hinside)), Except.establish_of_not hinside]
    rfl

end Headers

/-- The loop over the section table. -/
def readSections (process : Process) (base : UInt64) (sectionTable sectionCount size : Nat) :
    Except (Stop String) (List Section) :=
  (List.range sectionCount).foldlM
    (fun sections index => do
      let header ← add sectionTable (← mul index 40)
      let entry ← readSection process base header size
      return sections ++ entry.toList) []

/-- `LoadedImage::main_module`. -/
def mainModule (process : Process) : Except (Stop String) Image := do
  let base := process.mainModule
  (Except.require (base ≠ 0) "GetModuleHandleW(NULL) failed").guarded
  let mz ← readHeaderU16 process base 0
  (Except.require (mz = 0x5A4D) "main module has no MZ signature").guarded
  let nt ← readHeaderU32 process base 0x3C
  (Except.require (nt ≤ 1024 * 1024) "main module has no usable PE signature").guarded
  let pe ← readHeaderU32 process base nt
  (Except.require (pe = 0x00004550) "main module has no usable PE signature").guarded
  let sectionCount ← readHeaderU16 process base (← add nt 6)
  (Except.require (sectionCount ≠ 0 ∧ sectionCount ≤ maxSectionCount)
    s!"main module has an invalid PE section count ({sectionCount})").guarded
  let optionalSize ← readHeaderU16 process base (← add nt 20)
  let optional ← add nt 24
  (Except.require (112 ≤ optionalSize) "main module is not a usable PE32+ image").guarded
  let magic ← readHeaderU16 process base optional
  (Except.require (magic = 0x20B) "main module is not a usable PE32+ image").guarded
  let size ← readHeaderU32 process base (← add optional 56)
  let headersSize ← readHeaderU32 process base (← add optional 60)
  (Except.require ((4096 ≤ size ∧ size ≤ maxImageSize) ∧ headersSize ≠ 0 ∧ headersSize ≤ size)
    s!"main module has an invalid image size ({size})").guarded
  let sectionTable ←
    ((checkedAdd optional optionalSize).okOr "PE section table offset overflow").guarded
  let tableSize ← mul sectionCount 40
  -- the table lies in the headers, and these within the image
  let sectionTableEnd ←
    ((checkedAdd sectionTable tableSize).okOr "PE section table size overflow").guarded
  (Except.require
    (sectionTableEnd ≤ headersSize ∧
      process.rangeIsReadable (base + UInt64.ofNat sectionTable) tableSize = true)
    "PE section table is outside readable image headers").guarded
  let sections ← readSections process base sectionTable sectionCount size
  (Except.require (sections.any Section.isExecutable = true)
    "main module has no executable PE sections").guarded
  return { base := base, size := size, sections := sections }

/-- **The section table.** The loop collects the sections of the other layer. -/
theorem readSections_eq {process : Process} {base : UInt64} {sectionTable sectionCount size : Nat}
    (htable : sectionTable + sectionCount * 40 < Usize.size) :
    readSections process base sectionTable sectionCount size =
      (((List.range sectionCount).mapM fun index =>
          LoadedImage.readSection process base (sectionTable + index * 40) size).map
        fun entries => entries.reduceOption.map Subtype.val).guarded := by
  -- an entry begins forty bytes before the end of the table at the latest
  have hpass : ∀ index ∈ List.range sectionCount, ∀ sections : List Section,
      (do
        let header ← add sectionTable (← mul index 40)
        let entry ← readSection process base header size
        return sections ++ entry.toList : Except (Stop String) (List Section)) =
      ((LoadedImage.readSection process base (sectionTable + index * 40) size).map
        fun entry => sections ++ (entry.map Subtype.val).toList).guarded := by
    intro index hindex sections
    have hindex := List.mem_range.mp hindex
    refine Except.bind_of_eq_ok (mul_eq_ok (by omega)) ?_
    refine Except.bind_of_eq_ok (add_eq_ok (by omega)) ?_
    rw [readSection_eq (by omega)]
    cases LoadedImage.readSection process base (sectionTable + index * 40) size with
    | error e => rfl
    | ok entry => rfl
  unfold readSections
  rw [Except.foldlM_append_eq_guarded hpass]
  congr 2
  funext entries
  show [] ++ entries.flatMap _ = (entries.filterMap id).map Subtype.val
  rw [List.nil_append, ← List.filterMap_eq_flatMap_toList, List.map_filterMap]
  rfl

/-- **The main module.** What is built is an image with the promises of the other layer. -/
theorem mainModule_eq (process : Process) :
    mainModule process =
      ((LoadedImage.mainModule process).map Image.ofLoaded).guarded := by
  unfold mainModule LoadedImage.mainModule
  refine Except.bind_eq_guarded_map rfl fun _ _ => ?_
  refine Except.bind_eq_guarded_map (readHeaderU16_eq _) fun mz _ => ?_
  refine Except.bind_eq_guarded_map rfl fun _ _ => ?_
  refine Except.bind_eq_guarded_map (readHeaderU32_eq _) fun nt _ => ?_
  refine Except.bind_eq_guarded_map rfl fun _ hnt => ?_
  -- from here on every offset is at most a few numbers of sixteen bits above this one
  have hnt := Except.require_eq_ok.mp hnt
  have hword : 2 * (1024 * 1024 * 1024) < Usize.size := by decide
  refine Except.bind_eq_guarded_map (readHeaderU32_eq _) fun pe _ => ?_
  refine Except.bind_eq_guarded_map rfl fun _ _ => ?_
  refine Except.bind_of_eq_ok (add_eq_ok (by omega)) ?_
  refine Except.bind_eq_guarded_map (readHeaderU16_eq _) fun sectionCount _ => ?_
  refine Except.bind_eq_guarded_map rfl fun _ hcount => ?_
  have hcount := (Except.require_eq_ok.mp hcount).2
  rw [maxSectionCount] at hcount
  -- the optional header
  refine Except.bind_of_eq_ok (add_eq_ok (by omega)) ?_
  refine Except.bind_eq_guarded_map (readHeaderU16_eq _) fun optionalSize _ => ?_
  refine Except.bind_of_eq_ok (add_eq_ok (by omega)) ?_
  refine Except.bind_eq_guarded_map rfl fun _ _ => ?_
  refine Except.bind_eq_guarded_map (readHeaderU16_eq _) fun magic _ => ?_
  refine Except.bind_eq_guarded_map rfl fun _ _ => ?_
  refine Except.bind_of_eq_ok (add_eq_ok (by omega)) ?_
  refine Except.bind_eq_guarded_map (readHeaderU32_eq _) fun size _ => ?_
  refine Except.bind_of_eq_ok (add_eq_ok (by omega)) ?_
  refine Except.bind_eq_guarded_map (readHeaderU32_eq _) fun headersSize _ => ?_
  -- a size that is refused ends both layers with the same error
  by_cases hbounds :
    (4096 ≤ size ∧ size ≤ maxImageSize) ∧ headersSize ≠ 0 ∧ headersSize ≤ size
  case neg =>
    rw [Except.require_of_not hbounds, Except.establish_of_not hbounds]
    rfl
  rw [Except.require_of hbounds, Except.establish_of hbounds]
  refine Except.bind_of_eq_ok (a := ⟨⟩) rfl ?_
  refine Except.bind_eq_guarded_map rfl fun sectionTable _ => ?_
  refine Except.bind_of_eq_ok (mul_eq_ok (by omega)) ?_
  refine Except.bind_eq_guarded_map rfl fun sectionTableEnd hend => ?_
  refine Except.bind_eq_guarded_map rfl fun _ hinside => ?_
  -- the checked sum of the source bounds every entry of the table
  have htable := (checkedAdd_eq_some.mp (Option.okOr_eq_ok.mp hend)).2
  rw [readSections_eq htable]
  cases (List.range sectionCount).mapM fun index =>
      LoadedImage.readSection process process.mainModule (sectionTable + index * 40) size with
  | error e => rfl
  | ok entries =>
    refine Except.bind_of_eq_ok (a := entries.reduceOption.map Subtype.val) rfl ?_
    have hany : (entries.reduceOption.map Subtype.val).any Section.isExecutable = true ↔
        ∃ s ∈ entries.reduceOption, s.1.isExecutable = true := by
      rw [List.any_map, List.any_eq_true]
      rfl
    by_cases hexecutable : ∃ s ∈ entries.reduceOption, s.1.isExecutable = true
    · rw [Except.require_of (hany.mpr hexecutable)]
      show _ = ((Except.establish _ _ >>= _).map _).guarded
      rw [Except.establish_of hexecutable]
      rfl
    · rw [Except.require_of_not (mt hany.mp hexecutable)]
      show _ = ((Except.establish _ _ >>= _).map _).guarded
      rw [Except.establish_of_not hexecutable]
      rfl

/-- The table has at most as many sections as it may have entries. -/
theorem length_sections {process : Process} {image : LoadedImage}
    (h : LoadedImage.mainModule process = .ok image) :
    image.sections.length ≤ maxSectionCount := by
  unfold LoadedImage.mainModule at h
  obtain ⟨_, -, h⟩ := Except.bind_eq_ok.mp h
  obtain ⟨mz, -, h⟩ := Except.bind_eq_ok.mp h
  obtain ⟨_, -, h⟩ := Except.bind_eq_ok.mp h
  obtain ⟨nt, -, h⟩ := Except.bind_eq_ok.mp h
  obtain ⟨_, -, h⟩ := Except.bind_eq_ok.mp h
  obtain ⟨pe, -, h⟩ := Except.bind_eq_ok.mp h
  obtain ⟨_, -, h⟩ := Except.bind_eq_ok.mp h
  obtain ⟨sectionCount, -, h⟩ := Except.bind_eq_ok.mp h
  obtain ⟨_, hcount, h⟩ := Except.bind_eq_ok.mp h
  obtain ⟨optionalSize, -, h⟩ := Except.bind_eq_ok.mp h
  obtain ⟨_, -, h⟩ := Except.bind_eq_ok.mp h
  obtain ⟨magic, -, h⟩ := Except.bind_eq_ok.mp h
  obtain ⟨_, -, h⟩ := Except.bind_eq_ok.mp h
  obtain ⟨size, -, h⟩ := Except.bind_eq_ok.mp h
  obtain ⟨headersSize, -, h⟩ := Except.bind_eq_ok.mp h
  obtain ⟨_, -, h⟩ := Except.bind_eq_ok.mp h
  obtain ⟨sectionTable, -, h⟩ := Except.bind_eq_ok.mp h
  obtain ⟨sectionTableEnd, -, h⟩ := Except.bind_eq_ok.mp h
  obtain ⟨_, -, h⟩ := Except.bind_eq_ok.mp h
  obtain ⟨entries, hentries, h⟩ := Except.bind_eq_ok.mp h
  obtain ⟨_, -, h⟩ := Except.bind_eq_ok.mp h
  obtain rfl := Except.ok.inj h
  -- entries that map nothing are left out, so there may be fewer
  obtain ⟨-, rfl⟩ := Except.mapM_eq_ok_toOption.mp hentries
  dsimp only
  rw [List.length_map]
  calc _ ≤ ((List.range sectionCount).filterMap _).length := List.length_filterMap_le _ _
    _ ≤ (List.range sectionCount).length := List.length_filterMap_le _ _
    _ = sectionCount := List.length_range
    _ ≤ maxSectionCount := (Except.require_eq_ok.mp hcount).2

end Faulting
end GameCompat
end WindowedHdr
