import WindowedHdr.GameCompat.Faulting.Image
import WindowedHdr.GameCompat.Scan

/-!
# The scans, with the operations of the machine

A scan indexes the bytes of a section at an offset and adds to it, and adds the offset to the
address of the section. The offset leaves room for a whole window, so every index is in range, and
a section lies within an image, so no sum is too large.

`scanCode_eq` is the rule of these loops: when a step does not fault and does what `g` does to the
window at the offset, the scan is a fold of `g` over the windows of the image. A step may also rely
on an invariant and on the number of steps before it, of which there are not more than windows.

The rule is used three times, for the two scans of this module and for the search of the next
one, which also counts.
-/

namespace WindowedHdr
namespace GameCompat
namespace Faulting

open Usize

universe u

/-- `relative_target`, whose sum is one of `i128`. -/
def relativeTarget (nextInstructionRva : Nat) (displacement : Int) :
    Except (Stop String) (Option Nat) := do
  let result ← I128.add nextInstructionRva displacement
  return if 0 ≤ result ∧ result < Usize.size then some result.toNat else none

/-- An instruction of the image and a 32-bit displacement have a sum. -/
theorem relativeTarget_eq_ok {next : Nat} {displacement : Int} (hnext : next < Usize.size)
    (hdisplacement : -2 ^ 31 ≤ displacement ∧ displacement < 2 ^ 31) :
    relativeTarget next displacement = .ok (GameCompat.relativeTarget next displacement) := by
  refine Except.bind_of_eq_ok (I128.add_eq_ok hnext hdisplacement) ?_
  rfl

/-! ### Signatures -/

/-- The test of one segment in `Signature::matches`. -/
def segmentMatches (s : Signature) (bytes : List UInt8) (segment : SignatureSegment) :
    Except (Stop String) Bool :=
  match checkedAdd segment.offset segment.bytes.length with
  | none => return false
  | some finish => do
    if finish ≤ s.length then
      let part ← Bytes.range bytes segment.offset finish
      return part == segment.bytes
    else
      return false

/-- `Signature::matches`. -/
def signatureMatches (s : Signature) (bytes : List UInt8) : Except (Stop String) Bool :=
  if s.length ≤ bytes.length then s.segments.allM (segmentMatches s bytes) else return false

/-- **A signature.** A segment that ends within the signature ends within the bytes. -/
theorem signatureMatches_eq_ok (s : Signature) (bytes : List UInt8) :
    signatureMatches s bytes = .ok (s.matchesBytes bytes) := by
  unfold signatureMatches Signature.matchesBytes
  by_cases hlength : s.length ≤ bytes.length
  case neg =>
    rw [if_neg hlength, decide_eq_false hlength, Bool.false_and]
    rfl
  -- no segment faults, so the conjunction is the one over plain tests
  have hsegment : segmentMatches s bytes = fun segment => Except.ok
      ((checkedAdd segment.offset segment.bytes.length).any fun finish =>
        finish ≤ s.length && slice bytes segment.offset finish == segment.bytes) := by
    funext segment
    unfold segmentMatches
    cases hfinish : checkedAdd segment.offset segment.bytes.length with
    | none => rfl
    | some finish =>
      obtain ⟨rfl, -⟩ := checkedAdd_eq_some.mp hfinish
      rw [Option.any_some]
      dsimp only
      split
      · next hwithin =>
        refine Except.bind_of_eq_ok (Bytes.range_eq_ok (Nat.le_add_right _ _) (by omega)) ?_
        rw [decide_eq_true hwithin, Bool.true_and]
        rfl
      · next hbeyond =>
        rw [decide_eq_false hbeyond, Bool.false_and]
        rfl
  rw [if_pos hlength, decide_eq_true hlength, Bool.true_and, hsegment]
  exact List.allM_pure

namespace Image

variable (process : Process) (image : Image)

/-! ### The loops -/

/-- The loop over one section: `step`, at each offset that leaves room for `width` bytes. -/
def scanSection {β : Type} (width : Nat)
    (step : β → Section → List UInt8 → Nat → Except (Stop String) β) (result : β) (s : Section) :
    Except (Stop String) β := do
  let bytes ← image.sectionBytes process s
  if bytes.length < width then
    return result
  else
    -- `0..=bytes.len() - width`
    let last ← sub bytes.length width
    (List.range (last + 1)).foldlM (fun result offset => step result s bytes offset) result

/-- What all scans have in common: the loop over the executable sections. -/
def scanCode {β : Type} (width : Nat)
    (step : β → Section → List UInt8 → Nat → Except (Stop String) β) (start : β) :
    Except (Stop String) β :=
  image.executableSections.foldlM (image.scanSection process width step) start

/-- `find_signature`. -/
def findSignature (signature : Signature) : Except (Stop String) (List Nat) :=
  image.scanCode process signature.length
    (fun result s bytes offset => do
      let window ← Bytes.range bytes offset (← add offset signature.length)
      if (← signatureMatches signature window) = true then
        let rva ← add s.rva offset
        return result ++ [rva]
      else
        return result) []

/-- `find_direct_calls_to`. -/
def findDirectCallsTo (targetRva : Nat) : Except (Stop String) (List Nat) :=
  image.scanCode process 5
    (fun result s bytes offset => do
      let opcode ← Bytes.index bytes offset
      if opcode ≠ 0xE8 then
        return result
      else
        let displacement ← Bytes.i32Field bytes (← add offset 1) (← add offset 5)
        let callRva ← add s.rva offset
        let target ← relativeTarget (← add callRva 5) displacement
        if target = some targetRva then
          return result ++ [callRva]
        else
          return result) []

/-! ### The rule of a scan -/

variable {process : Process} {image : LoadedImage} {β : Type}

/-- The loop over the bytes of one section. -/
theorem scanBytes_eq {width bound : Nat} {s : Section} (hs : s ∈ image.sections)
    {step : β → Section → List UInt8 → Nat → Except (Stop String) β}
    {g : β → Nat × List UInt8 → β} {I : Nat → β → Prop}
    (hstep : ∀ offset, offset + width ≤ s.size → ∀ i < bound, ∀ acc, I i acc →
      step acc s (image.content process s.rva s.size) offset =
          .ok (g acc (s.rva + offset, image.content process (s.rva + offset) width)) ∧
        I (i + 1) (g acc (s.rva + offset, image.content process (s.rva + offset) width)))
    {i : Nat} (hi : i + (image.size + 1) ≤ bound) {acc : β} (hacc : I i acc) :
    (if s.size < width then pure acc
      else do
        let last ← sub s.size width
        (List.range (last + 1)).foldlM
          (fun result offset => step result s (image.content process s.rva s.size) offset) acc) =
        .ok ((LoadedImage.sectionWindows process image width s).foldl g acc) ∧
      I (i + (LoadedImage.sectionWindows process image width s).length)
        ((LoadedImage.sectionWindows process image width s).foldl g acc) := by
  have hend := (image.fits s hs).2
  unfold LoadedImage.sectionWindows
  rw [List.length_map, List.length_range, List.foldl_map]
  -- a section that is too short has no window
  by_cases hshort : s.size < width
  · rw [if_pos hshort, show s.size + 1 - width = 0 by omega]
    exact ⟨rfl, hacc⟩
  · rw [if_neg hshort, show s.size + 1 - width = s.size - width + 1 by omega]
    -- an offset in range leaves room for a window
    have hpass : ∀ offset ∈ List.range (s.size - width + 1), ∀ i < bound, ∀ acc, I i acc →
        step acc s (image.content process s.rva s.size) offset =
            .ok (g acc (s.rva + offset, image.content process (s.rva + offset) width)) ∧
          I (i + 1) (g acc (s.rva + offset, image.content process (s.rva + offset) width)) := by
      intro offset hoffset
      have hoffset := List.mem_range.mp hoffset
      exact hstep offset (by omega)
    have hlen : i + (List.range (s.size - width + 1)).length ≤ bound := by
      rw [List.length_range]
      omega
    obtain ⟨hloop, hkept⟩ := Except.foldlM_eq_ok hpass hlen hacc
    rw [List.length_range] at hkept
    exact ⟨Except.bind_of_eq_ok (sub_eq_ok (by omega)) hloop, hkept⟩

/-- **The rule of a scan.** `I` relates the result to the windows so far, of which there are fewer
than `bound` before each step. -/
theorem scanCode_eq {width bound : Nat}
    {step : β → Section → List UInt8 → Nat → Except (Stop String) β}
    {g : β → Nat × List UInt8 → β} {I : Nat → β → Prop}
    (hstep : ∀ s ∈ image.sections, ∀ offset, offset + width ≤ s.size → ∀ i < bound, ∀ acc,
      I i acc →
      step acc s (image.content process s.rva s.size) offset =
          .ok (g acc (s.rva + offset, image.content process (s.rva + offset) width)) ∧
        I (i + 1) (g acc (s.rva + offset, image.content process (s.rva + offset) width)))
    (hbound : image.sections.length * (image.size + 1) ≤ bound) {start : β} (hstart : I 0 start) :
    (ofLoaded image).scanCode process width step start =
      ((image.executableWindows process width).map fun windows =>
        windows.foldl g start).guarded := by
  -- what is left of the sections leaves room for all their windows
  let J (rest : List Section) (acc : β) : Prop :=
    (∀ s ∈ rest, s ∈ image.sections) ∧ ∃ i, I i acc ∧ i + rest.length * (image.size + 1) ≤ bound
  have hpass : ∀ s rest acc, J (s :: rest) acc →
      (ofLoaded image).scanSection process width step acc s =
        ((LoadedImage.listSection process image width s).map fun windows =>
          windows.foldl g acc).guarded ∧
      ∀ windows, LoadedImage.listSection process image width s = .ok windows →
        J rest (windows.foldl g acc) := by
    rintro s rest acc ⟨hmem, i, hacc, hi⟩
    rw [List.length_cons, Nat.succ_mul] at hi
    have hs := hmem s (by simp)
    obtain ⟨hsection, hkept⟩ := scanBytes_eq hs (hstep s hs) (i := i) (by omega) hacc
    constructor
    · -- the windows of the section, and the fold over them
      unfold scanSection LoadedImage.listSection
      refine Except.bind_eq_guarded_map (sectionBytes_eq hs) fun bytes hbytes => ?_
      obtain ⟨-, rfl⟩ := LoadedImage.sectionBytes_eq_ok.mp hbytes
      have hlen : (image.content process s.rva s.size).length = s.size :=
        ByteMemory.length_read _ _ _
      rw [hlen, LoadedImage.map_slice_eq_sectionWindows]
      exact hsection
    · -- a section has at most one window for each of its bytes, and one more
      intro windows hwindows
      obtain ⟨-, rfl⟩ := (LoadedImage.listSection_eq_ok s windows).mp hwindows
      refine ⟨fun s' hs' => hmem s' (List.mem_cons_of_mem s hs'), _, hkept, ?_⟩
      have hend := (image.fits s hs).2
      rw [LoadedImage.sectionWindows, List.length_map, List.length_range]
      omega
  -- there are at most as many executable sections as sections
  have hfirst : J image.executableSections start := by
    refine ⟨fun s hs => (List.mem_filter.mp hs).1, 0, hstart, ?_⟩
    rw [Nat.zero_add]
    exact (Nat.mul_le_mul_right _ (List.length_filter_le _ _)).trans hbound
  have hloop : (ofLoaded image).scanCode process width step start =
      ((image.executableSections.mapM (LoadedImage.listSection process image width)).map
        fun listed => listed.foldl (fun acc windows => windows.foldl g acc) start).guarded :=
    Except.foldlM_eq_guarded hpass hfirst
  rw [hloop, LoadedImage.executableWindows_eq]
  cases image.executableSections.mapM (LoadedImage.listSection process image width) with
  | error e => rfl
  | ok windows =>
    -- a fold of folds is a fold over all windows
    refine congrArg Except.ok ?_
    exact List.foldl_flatten.symm

/-! ### The scans do not fault -/

/-- A displacement is a 32-bit number. -/
theorem displacementAt_bounds (rva : Nat) :
    -2 ^ 31 ≤ image.displacementAt process rva ∧ image.displacementAt process rva < 2 ^ 31 :=
  signedOfLittleEndian_bounds (ByteMemory.length_read _ _ _)

/-- A byte of a section. -/
theorem index_content {rva length i : Nat} (h : i < length) :
    (Bytes.index (image.content process rva length) i : Except (Stop String) UInt8) =
      .ok (image.byteAt process (rva + i)) :=
  Bytes.index_eq_ok (LoadedImage.getElem?_content h)

/-- A signed field of a section. -/
theorem i32Field_content {rva length start finish : Nat} (hstart : start + 4 = finish)
    (hfinish : finish ≤ length) :
    (Bytes.i32Field (image.content process rva length) start finish : Except (Stop String) Int) =
      .ok (image.displacementAt process (rva + start)) := by
  have hlen : (image.content process rva length).length = length := ByteMemory.length_read _ _ _
  rw [Bytes.i32Field_eq_ok hstart (by omega), LoadedImage.slice_content hfinish,
    LoadedImage.displacementAt, show finish - start = 4 by omega]

/-- A scan that enters what `f` finds in a window. -/
theorem scanCode_eq_filterMap {width : Nat}
    {step : List Nat → Section → List UInt8 → Nat → Except (Stop String) (List Nat)}
    {f : Nat × List UInt8 → Option Nat}
    (hstep : ∀ s ∈ image.sections, ∀ offset, offset + width ≤ s.size → ∀ acc,
      step acc s (image.content process s.rva s.size) offset =
        .ok (acc ++
          (f (s.rva + offset, image.content process (s.rva + offset) width)).toList)) :
    (ofLoaded image).scanCode process width step [] =
      ((image.executableWindows process width).map fun windows =>
        windows.filterMap f).guarded := by
  have hkept : ∀ s ∈ image.sections, ∀ offset, offset + width ≤ s.size →
      ∀ i < image.sections.length * (image.size + 1), ∀ acc, True →
      step acc s (image.content process s.rva s.size) offset = .ok (acc ++
          (f (s.rva + offset, image.content process (s.rva + offset) width)).toList) ∧ True := by
    intro s hs offset hoffset _ _ acc _
    exact ⟨hstep s hs offset hoffset acc, trivial⟩
  rw [scanCode_eq (I := fun _ _ => True) (g := fun acc window => acc ++ (f window).toList) hkept
    le_rfl trivial]
  simp only [List.foldl_append_eq_append, List.nil_append, ← List.flatMap_def,
    ← List.filterMap_eq_flatMap_toList]

/-- **Signatures.** -/
theorem findSignature_eq (signature : Signature) :
    (ofLoaded image).findSignature process signature =
      (image.findSignature process signature).guarded := by
  refine (scanCode_eq_filterMap
    (f := fun window => if signature.matchesBytes window.2 then some window.1 else none)
    fun s hs offset hoffset acc => ?_).trans ?_
  · have hend := (image.fits s hs).2
    have hlen : (image.content process s.rva s.size).length = s.size :=
      ByteMemory.length_read _ _ _
    have hrva : s.rva + offset ≤ image.size := by omega
    have hfinish : offset + signature.length ≤ image.size := by omega
    -- the window is a slice of the section
    refine Except.bind_of_eq_ok (add_eq_ok (LoadedImage.lt_size hfinish)) ?_
    refine Except.bind_of_eq_ok (Bytes.range_eq_ok (Nat.le_add_right _ _) (by omega)) ?_
    refine Except.bind_of_eq_ok (signatureMatches_eq_ok _ _) ?_
    rw [LoadedImage.slice_content hoffset, Nat.add_sub_cancel_left]
    dsimp only
    split
    · exact Except.bind_of_eq_ok (add_eq_ok (LoadedImage.lt_size hrva)) rfl
    · rw [Option.toList_none, List.append_nil]
      rfl
  · unfold LoadedImage.findSignature
    cases image.executableWindows process signature.length with
    | error e => rfl
    | ok windows => rfl

/-- **Call sites.** -/
theorem findDirectCallsTo_eq (targetRva : Nat) :
    (ofLoaded image).findDirectCallsTo process targetRva =
      (image.findDirectCallsTo process targetRva).guarded := by
  refine (scanCode_eq_filterMap
    (f := fun window =>
      if window.2[0]? ≠ some 0xE8 then
        none
      else
        let displacement := signedOfLittleEndian (slice window.2 1 5)
        if GameCompat.relativeTarget (window.1 + 5) displacement = some targetRva then
          some window.1
        else none)
    fun s hs offset hoffset acc => ?_).trans ?_
  · have hend := (image.fits s hs).2
    have hopcode : (image.content process (s.rva + offset) 5)[0]? =
        some (image.byteAt process (s.rva + offset)) := LoadedImage.getElem?_content (by decide)
    have hdisplacement : signedOfLittleEndian
        (slice (image.content process (s.rva + offset) 5) 1 5) =
          image.displacementAt process (s.rva + (offset + 1)) := by
      rw [LoadedImage.slice_content (le_refl 5), LoadedImage.displacementAt, Nat.add_assoc]
    refine Except.bind_of_eq_ok (index_content (by omega)) ?_
    dsimp only
    rw [hopcode, hdisplacement]
    -- only the opcode decides whether anything else is read
    by_cases hcall : image.byteAt process (s.rva + offset) = 0xE8
    case neg =>
      rw [if_pos hcall, if_pos fun h => hcall (Option.some.inj h), Option.toList_none,
        List.append_nil]
      rfl
    case pos =>
      rw [if_neg (not_not.mpr hcall), if_neg (not_not.mpr (congrArg some hcall))]
      -- an offset with room for an instruction is far from the largest word
      have hword : ∀ k ≤ 5, offset + k < Usize.size :=
        fun k hk => image.add_lt_size (by omega) (by omega)
      refine Except.bind_of_eq_ok (add_eq_ok (hword 1 (by decide))) ?_
      refine Except.bind_of_eq_ok (add_eq_ok (hword 5 (by decide))) ?_
      refine Except.bind_of_eq_ok (i32Field_content (by omega) (by omega)) ?_
      have hrva : s.rva + offset + 5 < Usize.size := image.add_lt_size (by omega) (by decide)
      refine Except.bind_of_eq_ok (add_eq_ok (by omega)) ?_
      refine Except.bind_of_eq_ok (add_eq_ok hrva) ?_
      refine Except.bind_of_eq_ok (relativeTarget_eq_ok hrva (displacementAt_bounds _)) ?_
      split
      · rfl
      · rw [Option.toList_none, List.append_nil]
        rfl
  · unfold LoadedImage.findDirectCallsTo
    cases image.executableWindows process 5 with
    | error e => rfl
    | ok windows => rfl

end Image
end Faulting
end GameCompat
end WindowedHdr
