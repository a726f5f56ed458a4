import WindowedHdr.GameCompat.Faulting.Scan
import WindowedHdr.GameCompat.MenuGateVtable

/-!
# The menu gate and its vtable, with the operations of the machine

The addresses that are followed here come from the image: the target of an instruction, a pointer
in a table, a field of a Complete Object Locator. None of them is used before it has been found in
a section, with the length that is then read, so what is added to it stays within the image.

The only number that grows with the image is the count of the instructions that name a table. There
are not more of them than bytes in the sections, and not more sections than the headers may list
(`resolveMenuGateVtable_eq`).
-/

namespace WindowedHdr
namespace GameCompat
namespace Faulting

open Usize

/-- `format_rvas`. -/
def formatRvas (rvas : List Nat) : Except (Stop String) String :=
  if rvas.isEmpty then
    return "none"
  else do
    let formatted := ", ".intercalate ((rvas.take 8).map fun rva => "0x" ++ hexUpper 8 rva)
    if rvas.length > 8 then
      let rest ← sub rvas.length 8
      return formatted ++ s!", ... +{rest}"
    else
      return formatted

/-- The addresses left out are counted only where there are more than eight. -/
theorem formatRvas_eq_ok (rvas : List Nat) :
    formatRvas rvas = .ok (GameCompat.formatRvas rvas) := by
  unfold formatRvas GameCompat.formatRvas
  split
  · rfl
  · dsimp only
    split
    · next hmany => exact Except.bind_of_eq_ok (sub_eq_ok (Nat.le_of_lt hmany)) rfl
    · rfl

/-- `require_unique`. -/
def requireUnique (label : String) (found : List Nat) : Except (Stop String) Nat :=
  match found with
  | [single] => return single
  | _ => do
    let rvas ← formatRvas found
    Except.fail (s!"{label} must match exactly once in executable PE sections, " ++
      s!"found {found.length} ({rvas})")

/-- Formatting what was found does not fault. -/
theorem requireUnique_eq (label : String) (found : List Nat) :
    requireUnique label found = (GameCompat.requireUnique label found).guarded := by
  match found with
  | [] => exact Except.bind_of_eq_ok (formatRvas_eq_ok []) rfl
  | [single] => rfl
  | first :: second :: rest => exact Except.bind_of_eq_ok (formatRvas_eq_ok _) rfl

namespace Image

variable (process : Process) (image : Image)

/-! ### The gate -/

/-- `menu_gate_body_matches`. -/
def menuGateBodyMatches (gateRva availabilityRva : Nat) : Except (Stop String) Bool := do
  let body ← image.bytesAt process gateRva 19
  -- the parts of the body are compared in this order, and no further than needed
  let enter ← Bytes.range body 0 4
  if enter ≠ [0x48, 0x83, 0xEC, 0x28] then
    return false
  else
    let call ← Bytes.index body 4
    if call ≠ 0xE8 then
      return false
    else
      let negate ← Bytes.range body 9 body.length
      if negate ≠ [0x84, 0xC0, 0x0F, 0x94, 0xC0, 0x48, 0x83, 0xC4, 0x28, 0xC3] then
        return false
      else
        let displacement ← Bytes.i32Field body 5 9
        let target ← relativeTarget (← add gateRva 9) displacement
        return target = some availabilityRva

/-- The gates among the callers. -/
def selectGates (availabilityRva : Nat) (callers : List Nat) : Except (Stop String) (List Nat) :=
  callers.foldlM
    (fun gates callRva => do
      match checkedSub callRva 4 with
      | none => return gates
      | some gateRva =>
        if (← image.menuGateBodyMatches process gateRva availabilityRva) = true then
          return gates ++ [gateRva]
        else
          return gates) []

/-! ### The vtable -/

/-- One entry of a vtable: the address of the code it points to. -/
def vtableEntry (vtableRva index : Nat) : Except (Stop String) Nat := do
  let pointer ← image.readUsize process (← add vtableRva (← mul index 8))
  let rva ← ((image.vaToRva pointer).okOr
    s!"vtable entry {index} points outside the main image").guarded
  (Except.require (image.isExecutable rva 1 = true)
    s!"vtable entry {index} is not executable PE code").guarded
  return rva

/-- `validate_menu_gate_vtable`. -/
def validateMenuGateVtable (vtableRva gateRva : Nat) : Except (Stop String) VtableMatch := do
  (Except.require (8 ∣ vtableRva) "vtable is not pointer-aligned").guarded
  let locatorSlotRva ← ((checkedSub vtableRva 8).okOr
    "vtable has no Complete Object Locator slot").guarded
  let totalLength ← mul 8 7
  (Except.require (image.isReadableNonExecutable locatorSlotRva totalLength = true)
    "vtable is not in a readable non-executable PE section").guarded
  let gatePointer ← image.readUsize process (← add vtableRva (← mul hdrMenuGateInvokeIndex 8))
  (Except.require (image.vaToRva gatePointer = some gateRva)
    "vtable invoke slot does not point to the resolved gate").guarded
  -- the Complete Object Locator
  let locatorPointer ← image.readUsize process locatorSlotRva
  let locatorRva ← ((image.vaToRva locatorPointer).okOr
    "vtable Complete Object Locator is outside the main image").guarded
  (Except.require (image.isReadableNonExecutable locatorRva 24 = true)
    "vtable Complete Object Locator is not readable data").guarded
  let locator ← image.bytesAt process locatorRva 24
  let signature ← Bytes.u32Field locator 0 4
  let objectOffset ← Bytes.u32Field locator 4 8
  let constructorOffset ← Bytes.u32Field locator 8 12
  let typeDescriptorRva ← Bytes.u32Field locator 12 16
  let classDescriptorRva ← Bytes.u32Field locator 16 20
  let selfRva ← Bytes.u32Field locator 20 24
  (Except.require
    (signature = 1 ∧ objectOffset = 0 ∧ constructorOffset = 0 ∧ selfRva = locatorRva)
    "vtable Complete Object Locator fields do not match MSVC x64 RTTI").guarded
  -- the type that it describes
  (Except.require
    (image.isReadableNonExecutable typeDescriptorRva 17 = true ∧
      image.isReadableNonExecutable classDescriptorRva 4 = true)
    "vtable RTTI descriptors are outside readable data").guarded
  let rttiName ← image.readAsciiCString process (← add typeDescriptorRva 16) maxRttiNameLength
  (Except.require (isHdrMenuLambdaRttiName rttiName = true)
    "vtable RTTI type is not the HDR menu std::function lambda").guarded
  let entry₀ ← image.vtableEntry process vtableRva 0
  let entry₁ ← image.vtableEntry process vtableRva 1
  let entry₂ ← image.vtableEntry process vtableRva 2
  let entry₃ ← image.vtableEntry process vtableRva 3
  let entry₄ ← image.vtableEntry process vtableRva 4
  let entry₅ ← image.vtableEntry process vtableRva 5
  return {
    rva := vtableRva
    completeObjectLocatorRva := locatorRva
    entries := #v[entry₀, entry₁, entry₂] ++ #v[entry₃, entry₄, entry₅]
    referenceCount := 1
    rttiName := rttiName }

/-! ### The search -/

/-- The address that the instruction at an offset of a section names, when it is a RIP-relative
`LEA` with a 64-bit destination. -/
def leaTarget (s : Section) (bytes : List UInt8) (offset : Nat) :
    Except (Stop String) (Option Nat) := do
  let rex ← Bytes.index bytes offset
  let modRm ← Bytes.index bytes (← add offset 2)
  if rex &&& 0xF8 ≠ 0x48 then
    return none
  else
    let opcode ← Bytes.index bytes (← add offset 1)
    if opcode ≠ 0x8D ∨ modRm &&& 0xC7 ≠ 0x05 then
      return none
    else
      let displacement ← Bytes.i32Field bytes (← add offset 3) (← add offset 7)
      let rva ← add s.rva offset
      relativeTarget (← add rva 7) displacement

/-- The table at an address that an instruction names, when it is valid. -/
def vtableAt (gateRva targetRva : Nat) : Except (Stop String) (Option VtableMatch) := do
  match checkedSub targetRva 8 with
  | none => return none
  | some locatorSlotRva =>
    let totalLength ← mul 8 7
    if ¬ 8 ∣ targetRva ∨ image.isReadableNonExecutable locatorSlotRva totalLength = false then
      return none
    else
      let gateSlotRva ← add targetRva (← mul hdrMenuGateInvokeIndex 8)
      match ← (image.readUsize process gateSlotRva).attempt with
      | none => return none
      | some gatePointer =>
        if image.vaToRva gatePointer ≠ some gateRva then
          return none
        else
          (image.validateMenuGateVtable process targetRva gateRva).attempt

/-- Count the instruction with an earlier one that names the same table, or enter the table. -/
def recordReference :
    List VtableMatch → VtableMatch → Except (Stop String) (List VtableMatch)
  | [], validated => return [validated]
  | existing :: candidates, validated =>
    if existing.rva = validated.rva then do
      let referenceCount ← add existing.referenceCount 1
      return { existing with referenceCount := referenceCount } :: candidates
    else do
      let candidates ← recordReference candidates validated
      return existing :: candidates

/-- The body of the search, at one offset. -/
def searchStep (gateRva : Nat) (candidates : List VtableMatch) (s : Section)
    (bytes : List UInt8) (offset : Nat) : Except (Stop String) (List VtableMatch) := do
  match ← leaTarget s bytes offset with
  | none => return candidates
  | some targetRva =>
    match ← image.vtableAt process gateRva targetRva with
    | none => return candidates
    | some validated => recordReference candidates validated

/-- `resolve_menu_gate_vtable`. -/
def resolveMenuGateVtable (gateRva : Nat) : Except (Stop String) VtableMatch := do
  let candidates ← image.scanCode process 7 (image.searchStep process gateRva) []
  if candidates.length ≠ 1 then
    let rvas ← formatRvas (candidates.map VtableMatch.rva)
    Except.fail ("HDR menu-gate RTTI/vtable must resolve to exactly one candidate referenced by " ++
      s!"executable code, found {candidates.length} " ++ s!"({rvas})")
  else
    let candidate ← Except.expect candidates.getLast?
    if candidate.referenceCount < 2 then
      Except.fail (s!"HDR menu-gate vtable RVA 0x{hexUpper 8 candidate.rva} has only " ++
        s!"{candidate.referenceCount} executable LEA reference; expected at least 2")
    else
      return candidate

/-! ### None of this faults -/

variable {process : Process} {image : LoadedImage}

/-- **The gate.** Its body is nineteen bytes within the image. -/
theorem menuGateBodyMatches_eq (gateRva availabilityRva : Nat) :
    (ofLoaded image).menuGateBodyMatches process gateRva availabilityRva =
      (image.menuGateBodyMatches process gateRva availabilityRva).guarded := by
  unfold menuGateBodyMatches LoadedImage.menuGateBodyMatches
  refine Except.bind_eq_guarded bytesAt_eq fun body hbody => ?_
  obtain ⟨⟨hwithin, -⟩, rfl⟩ := LoadedImage.bytesAt_eq_ok.mp hbody
  have hend := hwithin.le_size
  have hlen : (image.content process gateRva 19).length = 19 := ByteMemory.length_read _ _ _
  have hcall : (image.content process gateRva 19)[4]? =
      some (image.byteAt process (gateRva + 4)) := LoadedImage.getElem?_content (by decide)
  refine Except.bind_of_eq_ok (Bytes.range_eq_ok (by omega) (by omega)) ?_
  -- the other layer compares the three parts at once
  by_cases henter : slice (image.content process gateRva 19) 0 4 = [0x48, 0x83, 0xEC, 0x28]
  case neg =>
    rw [if_pos henter, if_pos (.inl henter)]
    rfl
  rw [if_neg (not_not.mpr henter)]
  refine Except.bind_of_eq_ok (Bytes.index_eq_ok hcall) ?_
  rw [hcall]
  by_cases hopcode : image.byteAt process (gateRva + 4) = 0xE8
  case neg =>
    rw [if_pos hopcode, if_pos (.inr (.inl fun h => hopcode (Option.some.inj h)))]
    rfl
  rw [if_neg (not_not.mpr hopcode), hlen]
  refine Except.bind_of_eq_ok (Bytes.range_eq_ok (by omega) (by omega)) ?_
  by_cases hnegate : slice (image.content process gateRva 19) 9 19 =
      [0x84, 0xC0, 0x0F, 0x94, 0xC0, 0x48, 0x83, 0xC4, 0x28, 0xC3]
  case neg =>
    rw [if_pos hnegate, if_pos (.inr (.inr hnegate))]
    rfl
  rw [if_neg (not_not.mpr hnegate), if_neg (by simp [henter, hopcode, hnegate])]
  refine Except.bind_of_eq_ok (Bytes.i32Field_eq_ok rfl (by omega)) ?_
  -- the end of the call lies within the image, and so below `2 ^ 64`
  have hword : gateRva + 9 < Usize.size := image.add_lt_size (by omega) (by decide)
  refine Except.bind_of_eq_ok (add_eq_ok hword) ?_
  refine Except.bind_of_eq_ok (relativeTarget_eq_ok hword (signedOfLittleEndian_bounds ?_)) rfl
  rw [Bytes.length_slice (by omega)]

/-- **The gates among the callers.** -/
theorem selectGates_eq (availabilityRva : Nat) (callers : List Nat) :
    (ofLoaded image).selectGates process availabilityRva callers =
      (image.selectGates process availabilityRva callers).guarded := by
  have hpass : ∀ callRva ∈ callers, ∀ gates : List Nat,
      (match checkedSub callRva 4 with
        | none => return gates
        | some gateRva => do
          if (← (ofLoaded image).menuGateBodyMatches process gateRva availabilityRva) = true then
            return gates ++ [gateRva]
          else
            return gates : Except (Stop String) (List Nat)) =
      ((image.gateCandidate process availabilityRva callRva).map
        fun candidate => gates ++ candidate.toList).guarded := by
    intro callRva _ gates
    unfold LoadedImage.gateCandidate
    cases checkedSub callRva 4 with
    | none =>
      show Except.ok gates = Except.ok (gates ++ [])
      rw [List.append_nil]
    | some gateRva =>
      refine Except.bind_eq_guarded_map (menuGateBodyMatches_eq _ _) fun found _ => ?_
      cases found with
      | true => rfl
      | false =>
        show Except.ok gates = Except.ok (gates ++ [])
        rw [List.append_nil]
  unfold selectGates LoadedImage.selectGates
  rw [Except.foldlM_append_eq_guarded hpass]
  -- the loop appends what is collected in the other layer
  cases callers.mapM (image.gateCandidate process availabilityRva) with
  | error e => rfl
  | ok candidates =>
    refine congrArg Except.ok ?_
    show [] ++ candidates.flatMap Option.toList = candidates.filterMap id
    rw [List.nil_append]
    exact (List.filterMap_eq_flatMap_toList id candidates).symm

/-- **An entry.** Its slot has to be an address. -/
theorem vtableEntry_eq {vtableRva index : Nat} (h : vtableRva + index * 8 < Usize.size) :
    (ofLoaded image).vtableEntry process vtableRva index =
      (image.vtableEntry process vtableRva index).guarded := by
  unfold vtableEntry LoadedImage.vtableEntry
  refine Except.bind_of_eq_ok (mul_eq_ok (by omega)) ?_
  refine Except.bind_of_eq_ok (add_eq_ok h) ?_
  refine Except.bind_eq_guarded readUsize_eq fun pointer _ => ?_
  refine Except.bind_eq_guarded rfl fun rva _ => ?_
  exact Except.bind_eq_guarded rfl fun _ _ => rfl

/-- **Validation.** A table is read only where it lies in a section with all its entries. -/
theorem validateMenuGateVtable_eq (vtableRva gateRva : Nat) :
    (ofLoaded image).validateMenuGateVtable process vtableRva gateRva =
      (image.validateMenuGateVtable process vtableRva gateRva).guarded := by
  unfold validateMenuGateVtable LoadedImage.validateMenuGateVtable
  refine Except.bind_eq_guarded rfl fun _ _ => ?_
  refine Except.bind_eq_guarded rfl fun locatorSlotRva hslot => ?_
  obtain ⟨rfl, hroom⟩ := checkedSub_eq_some.mp (Option.okOr_eq_ok.mp hslot)
  refine Except.bind_of_eq_ok (mul_eq_ok (by decide)) ?_
  refine Except.bind_eq_guarded rfl fun _ hdata => ?_
  have htable := (LoadedImage.isReadableNonExecutable_iff.mp
    (Except.require_eq_ok.mp hdata)).le_size
  -- the slot of the locator and the six entries are one range of a section
  have hentry : ∀ k < 6, vtableRva + k * 8 < Usize.size := by
    intro k hk
    have hinside : vtableRva + k * 8 ≤ image.size := by omega
    exact LoadedImage.lt_size hinside
  refine Except.bind_of_eq_ok (mul_eq_ok (by decide)) ?_
  refine Except.bind_of_eq_ok (add_eq_ok (hentry hdrMenuGateInvokeIndex (by decide))) ?_
  refine Except.bind_eq_guarded readUsize_eq fun gatePointer _ => ?_
  refine Except.bind_eq_guarded rfl fun _ _ => ?_
  refine Except.bind_eq_guarded readUsize_eq fun locatorPointer _ => ?_
  refine Except.bind_eq_guarded rfl fun locatorRva _ => ?_
  refine Except.bind_eq_guarded rfl fun _ _ => ?_
  refine Except.bind_eq_guarded bytesAt_eq fun locator hlocator => ?_
  have hlen := length_of_bytesAt hlocator
  refine Except.bind_of_eq_ok (Bytes.u32Field_eq_ok rfl (by omega)) ?_
  refine Except.bind_of_eq_ok (Bytes.u32Field_eq_ok rfl (by omega)) ?_
  refine Except.bind_of_eq_ok (Bytes.u32Field_eq_ok rfl (by omega)) ?_
  refine Except.bind_of_eq_ok (Bytes.u32Field_eq_ok rfl (by omega)) ?_
  refine Except.bind_of_eq_ok (Bytes.u32Field_eq_ok rfl (by omega)) ?_
  refine Except.bind_of_eq_ok (Bytes.u32Field_eq_ok rfl (by omega)) ?_
  refine Except.bind_eq_guarded rfl fun _ _ => ?_
  refine Except.bind_eq_guarded rfl fun _ hdescriptors => ?_
  -- the name begins sixteen bytes into the type descriptor
  have htype := (LoadedImage.isReadableNonExecutable_iff.mp
    (Except.require_eq_ok.mp hdescriptors).1).le_size
  refine Except.bind_of_eq_ok (add_eq_ok (image.add_lt_size (by omega) (by decide))) ?_
  refine Except.bind_eq_guarded (readAsciiCString_eq _) fun rttiName _ => ?_
  refine Except.bind_eq_guarded rfl fun _ _ => ?_
  refine Except.bind_eq_guarded (vtableEntry_eq (hentry 0 (by decide))) fun entry₀ _ => ?_
  refine Except.bind_eq_guarded (vtableEntry_eq (hentry 1 (by decide))) fun entry₁ _ => ?_
  refine Except.bind_eq_guarded (vtableEntry_eq (hentry 2 (by decide))) fun entry₂ _ => ?_
  refine Except.bind_eq_guarded (vtableEntry_eq (hentry 3 (by decide))) fun entry₃ _ => ?_
  refine Except.bind_eq_guarded (vtableEntry_eq (hentry 4 (by decide))) fun entry₄ _ => ?_
  exact Except.bind_eq_guarded (vtableEntry_eq (hentry 5 (by decide))) fun entry₅ _ => rfl

/-! ### The search does not fault -/

/-- **Instructions.** The fields of an instruction are those of its window. -/
theorem leaTarget_eq_ok {s : Section} (hs : s ∈ image.sections) {offset : Nat}
    (hoffset : offset + 7 ≤ s.size) :
    leaTarget s (image.content process s.rva s.size) offset =
      .ok (LoadedImage.leaTarget (s.rva + offset)
        (image.content process (s.rva + offset) 7)) := by
  have hend := (image.fits s hs).2
  have hbyte : ∀ k < 7, (image.content process (s.rva + offset) 7).getD k 0 =
      image.byteAt process (s.rva + (offset + k)) := by
    intro k hk
    rw [List.getD_eq_getElem?_getD, LoadedImage.getElem?_content hk, Option.getD_some,
      Nat.add_assoc]
  have hdisplacement : signedOfLittleEndian
      (slice (image.content process (s.rva + offset) 7) 3 7) =
        image.displacementAt process (s.rva + (offset + 3)) := by
    rw [LoadedImage.slice_content (le_refl 7), LoadedImage.displacementAt, Nat.add_assoc]
  -- an offset with room for the instruction is far from the largest word
  have hword : ∀ k ≤ 7, offset + k < Usize.size :=
    fun k hk => image.add_lt_size (by omega) (by omega)
  unfold leaTarget LoadedImage.leaTarget
  dsimp only
  rw [hbyte 0 (by decide), hbyte 1 (by decide), hbyte 2 (by decide), hdisplacement, Nat.add_zero]
  refine Except.bind_of_eq_ok (index_content (by omega)) ?_
  refine Except.bind_of_eq_ok (add_eq_ok (hword 2 (by decide))) ?_
  refine Except.bind_of_eq_ok (index_content (by omega)) ?_
  by_cases hrex : image.byteAt process (s.rva + offset) &&& 0xF8 = 0x48
  case neg =>
    rw [if_pos hrex, if_pos (.inl hrex)]
    rfl
  rw [if_neg (not_not.mpr hrex)]
  refine Except.bind_of_eq_ok (add_eq_ok (hword 1 (by decide))) ?_
  refine Except.bind_of_eq_ok (index_content (by omega)) ?_
  by_cases hskip : image.byteAt process (s.rva + (offset + 1)) ≠ 0x8D ∨
      image.byteAt process (s.rva + (offset + 2)) &&& 0xC7 ≠ 0x05
  · rw [if_pos hskip, if_pos (.inr hskip)]
    rfl
  rw [if_neg hskip, if_neg (not_or.mpr ⟨not_not.mpr hrex, hskip⟩)]
  refine Except.bind_of_eq_ok (add_eq_ok (hword 3 (by decide))) ?_
  refine Except.bind_of_eq_ok (add_eq_ok (hword 7 (by decide))) ?_
  refine Except.bind_of_eq_ok (i32Field_content (by omega) hoffset) ?_
  have hrva : s.rva + offset + 7 < Usize.size := image.add_lt_size (by omega) (by decide)
  refine Except.bind_of_eq_ok (add_eq_ok (by omega)) ?_
  refine Except.bind_of_eq_ok (add_eq_ok hrva) ?_
  exact relativeTarget_eq_ok hrva (displacementAt_bounds _)

/-- **Tables.** An address is followed once its table has been found in a section. -/
theorem vtableAt_eq_ok (gateRva targetRva : Nat) :
    (ofLoaded image).vtableAt process gateRva targetRva =
      .ok (do
        let locatorSlotRva ← checkedSub targetRva 8
        if ¬ 8 ∣ targetRva ∨ image.isReadableNonExecutable locatorSlotRva 56 = false then
          none
        else
          let gatePointer ←
            (image.readUsize process (targetRva + hdrMenuGateInvokeIndex * 8)).toOption
          if image.vaToRva gatePointer ≠ some gateRva then
            none
          else
            (image.validateMenuGateVtable process targetRva gateRva).toOption) := by
  unfold vtableAt
  cases hslot : checkedSub targetRva 8 with
  | none => rfl
  | some locatorSlotRva =>
    obtain ⟨rfl, hroom⟩ := checkedSub_eq_some.mp hslot
    refine Except.bind_of_eq_ok (a := 56) (mul_eq_ok (by decide)) ?_
    show _ = Except.ok (if _ then _ else _)
    rw [isReadableNonExecutable_ofLoaded]
    by_cases hskip : ¬ 8 ∣ targetRva ∨ image.isReadableNonExecutable (targetRva - 8) 56 = false
    · rw [if_pos hskip, if_pos hskip]
      rfl
    rw [if_neg hskip, if_neg hskip]
    have hdata : image.isReadableNonExecutable (targetRva - 8) 56 = true :=
      Bool.not_eq_false _ ▸ (not_or.mp hskip).2
    -- the gate entry lies between the slot of the locator and the end of the table
    have htable := (LoadedImage.isReadableNonExecutable_iff.mp hdata).le_size
    have hinside : targetRva + hdrMenuGateInvokeIndex * 8 ≤ image.size := by
      rw [hdrMenuGateInvokeIndex]
      omega
    refine Except.bind_of_eq_ok (mul_eq_ok (by decide)) ?_
    refine Except.bind_of_eq_ok (add_eq_ok (LoadedImage.lt_size hinside)) ?_
    rw [readUsize_eq, Except.attempt_guarded]
    cases image.readUsize process (targetRva + hdrMenuGateInvokeIndex * 8) with
    | error e => rfl
    | ok gatePointer =>
      refine Except.bind_of_eq_ok (a := some gatePointer) rfl ?_
      show _ = Except.ok (if _ then _ else _)
      dsimp only
      rw [vaToRva_ofLoaded]
      split
      · rfl
      · rw [validateMenuGateVtable_eq, Except.attempt_guarded]

/-- **Counting.** A count that is not the largest machine word can be raised. -/
theorem recordReference_eq_ok {candidates : List VtableMatch} (validated : VtableMatch)
    (h : ∀ v ∈ candidates, v.referenceCount + 1 < Usize.size) :
    recordReference candidates validated =
      .ok (tally VtableMatch.rva VtableMatch.countReference candidates validated) := by
  induction candidates with
  | nil => rfl
  | cons existing candidates ih =>
    obtain ⟨hexisting, hrest⟩ := List.forall_mem_cons.mp h
    rw [recordReference, tally]
    split
    · exact Except.bind_of_eq_ok (add_eq_ok hexisting) rfl
    · exact Except.bind_of_eq_ok (ih hrest) rfl

/-- A pass raises no count by more than one. -/
theorem referenceCount_tally_le {candidates : List VtableMatch} {validated : VtableMatch} {i : Nat}
    (hone : validated.referenceCount = 1) (h : ∀ v ∈ candidates, v.referenceCount ≤ i) :
    ∀ v ∈ tally VtableMatch.rva VtableMatch.countReference candidates validated,
      v.referenceCount ≤ i + 1 := by
  induction candidates with
  | nil =>
    intro v hv
    rw [List.mem_singleton.mp hv, hone]
    omega
  | cons existing candidates ih =>
    obtain ⟨hexisting, hrest⟩ := List.forall_mem_cons.mp h
    rw [tally]
    split
    -- this entry is raised, and the later ones stay
    · rw [List.forall_mem_cons]
      refine ⟨Nat.succ_le_succ hexisting, fun v hv => ?_⟩
      exact Nat.le_succ_of_le (hrest v hv)
    · rw [List.forall_mem_cons]
      exact ⟨Nat.le_succ_of_le hexisting, ih hrest⟩

/-- What the other layer does with a window. -/
def enterReference (process : Process) (image : LoadedImage) (gateRva : Nat)
    (candidates : List VtableMatch) (window : Nat × List UInt8) : List VtableMatch :=
  match image.referencedVtable process gateRva window.1 window.2 with
  | none => candidates
  | some validated => tally VtableMatch.rva VtableMatch.countReference candidates validated

/-- **One pass** of the search. -/
theorem searchStep_eq_ok (gateRva : Nat) {s : Section} (hs : s ∈ image.sections) {offset : Nat}
    (hoffset : offset + 7 ≤ s.size) {candidates : List VtableMatch}
    (h : ∀ v ∈ candidates, v.referenceCount + 1 < Usize.size) :
    (ofLoaded image).searchStep process gateRva candidates s
        (image.content process s.rva s.size) offset =
      .ok (enterReference process image gateRva candidates
        (s.rva + offset, image.content process (s.rva + offset) 7)) := by
  refine Except.bind_of_eq_ok (leaTarget_eq_ok hs hoffset) ?_
  unfold enterReference LoadedImage.referencedVtable
  dsimp only
  cases LoadedImage.leaTarget (s.rva + offset) (image.content process (s.rva + offset) 7) with
  | none => rfl
  | some targetRva =>
    refine Except.bind_of_eq_ok (vtableAt_eq_ok gateRva targetRva) ?_
    rw [Option.bind_eq_bind, Option.bind_some]
    split
    · rfl
    · exact recordReference_eq_ok _ h

/-- A window raises no count by more than one. -/
theorem referenceCount_enterReference_le {gateRva i : Nat} {candidates : List VtableMatch}
    (h : ∀ v ∈ candidates, v.referenceCount ≤ i) (window : Nat × List UInt8) :
    ∀ v ∈ enterReference process image gateRva candidates window, v.referenceCount ≤ i + 1 := by
  unfold enterReference
  cases hreferenced : image.referencedVtable process gateRva window.1 window.2 with
  | none => exact fun v hv => Nat.le_succ_of_le (h v hv)
  | some validated =>
    have hvalid := (LoadedImage.referencedVtable_eq_some.mp hreferenced).2
    exact referenceCount_tally_le (LoadedImage.isMenuGateVtable_of_ok hvalid).2.2 h

/-- **The search.** No count exceeds the number of windows before it, and an image that is built
from the headers has fewer windows than there are machine words. -/
theorem resolveMenuGateVtable_eq (gateRva : Nat)
    (hsections : image.sections.length ≤ maxSectionCount) :
    (ofLoaded image).resolveMenuGateVtable process gateRva =
      (image.resolveMenuGateVtable process gateRva).guarded := by
  -- a section has a window for each of its bytes at most, and one more
  have hwindows : image.sections.length * (image.size + 1) ≤ maxSectionCount * (maxImageSize + 1) :=
    Nat.mul_le_mul hsections (Nat.succ_le_succ image.size_bounds.2)
  have hword : maxSectionCount * (maxImageSize + 1) + 1 < Usize.size := by decide
  -- the invariant: after `i` windows no count exceeds `i`
  have hpass : ∀ s ∈ image.sections, ∀ offset, offset + 7 ≤ s.size →
      ∀ i < maxSectionCount * (maxImageSize + 1), ∀ candidates : List VtableMatch,
      (∀ v ∈ candidates, v.referenceCount ≤ i) →
      (ofLoaded image).searchStep process gateRva candidates s
          (image.content process s.rva s.size) offset =
        .ok (enterReference process image gateRva candidates
          (s.rva + offset, image.content process (s.rva + offset) 7)) ∧
      ∀ v ∈ enterReference process image gateRva candidates
        (s.rva + offset, image.content process (s.rva + offset) 7), v.referenceCount ≤ i + 1 := by
    intro s hs offset hoffset i hi candidates hcandidates
    refine ⟨searchStep_eq_ok gateRva hs hoffset fun v hv => ?_,
      referenceCount_enterReference_le hcandidates _⟩
    have hcount := hcandidates v hv
    omega
  unfold resolveMenuGateVtable LoadedImage.resolveMenuGateVtable
  rw [scanCode_eq (I := fun i candidates => ∀ v ∈ candidates, v.referenceCount ≤ i) hpass
    hwindows (by simp)]
  cases image.executableWindows process 7 with
  | error e => rfl
  | ok windows =>
    refine Except.bind_of_eq_ok (a := (windows.filterMap fun window =>
      image.referencedVtable process gateRva window.1 window.2).foldl
        (tally VtableMatch.rva VtableMatch.countReference) []) ?_ ?_
    · rw [List.foldl_filterMap]
      refine congrArg Except.ok (List.foldl_ext _ _ _ fun candidates window _ => ?_)
      unfold enterReference
      cases image.referencedVtable process gateRva window.1 window.2 with
      | none => rfl
      | some validated => rfl
    · dsimp only [bind, Except.bind]
      generalize List.foldl _ [] (List.filterMap _ windows) = candidates
      -- one candidate, or an error that lists what was found
      rcases candidates with _ | ⟨candidate, _ | ⟨second, rest⟩⟩
      · rw [if_pos (by decide), formatRvas_eq_ok]
        rfl
      · rw [if_neg (by simp)]
        show (if candidate.referenceCount < 2 then _ else _) = Except.guarded (if _ then _ else _)
        split
        · rfl
        · rfl
      · rw [if_pos (by simp), formatRvas_eq_ok]
        rfl

end Image
end Faulting
end GameCompat
end WindowedHdr
