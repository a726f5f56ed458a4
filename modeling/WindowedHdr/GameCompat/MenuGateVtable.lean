import WindowedHdr.GameCompat.MenuGate

/-!
# The vtable of the menu gate

The menu gate is an entry of the vtable of a `std::function` lambda. The table is found through
the `LEA` instructions that name it: `validate_menu_gate_vtable` checks everything around an
address that such an instruction names, and `resolve_menu_gate_vtable` requires that all the
instructions that name a valid table name the same one, and that there are two of them at
least.

`IsMenuGateVtable` is what a validated table is: pointers to code, the gate among them, behind
a pointer to a Complete Object Locator (`IsLocator`) that gives the type its name.

The definitions in the middle say what is meant without reading: `PointsTo` is a pointer into
the image at a relative address, `IsLocator` what a Complete Object Locator has in its fields,
and `ReferencesAt` that the instruction at a position names a table. Each reader of the first
part has one lemma that turns its success into these (`vtableEntry_of_ok`, `isLocator_of_ok`,
`isMenuGateVtable_of_ok`), and the search needs no more of them.
-/

namespace WindowedHdr
namespace GameCompat

open Usize

/-- A validated vtable, with the number of instructions that name it. -/
structure VtableMatch where
  rva : Nat
  completeObjectLocatorRva : Nat
  entries : Vector Nat 6
  referenceCount : Nat
  rttiName : String

/-- Count one more instruction. -/
def VtableMatch.countReference (v : VtableMatch) : VtableMatch :=
  { v with referenceCount := v.referenceCount + 1 }

/-- Counting does not move the table. -/
@[simp] theorem VtableMatch.rva_countReference (v : VtableMatch) :
    v.countReference.rva = v.rva := rfl

/-- Counting `n` times adds `n`. -/
theorem VtableMatch.countReference_iterate (n : Nat) (v : VtableMatch) :
    VtableMatch.countReference^[n] v = { v with referenceCount := v.referenceCount + n } := by
  induction n generalizing v with
  | zero => rfl
  | succ n ih =>
    rw [Function.iterate_succ_apply, ih, countReference, Nat.add_assoc, Nat.add_comm 1 n]

namespace LoadedImage

variable (process : Process) (image : LoadedImage)

/-! ### Validation -/

/-- One entry of a vtable: the address of the code it points to. -/
def vtableEntry (vtableRva index : Nat) : Except String Nat := do
  let pointer ← image.readUsize process (vtableRva + index * 8)
  let rva ← (image.vaToRva pointer).okOr
    s!"vtable entry {index} points outside the main image"
  Except.require (image.isExecutable rva 1 = true)
    s!"vtable entry {index} is not executable PE code"
  return rva

/-- `validate_menu_gate_vtable`. -/
def validateMenuGateVtable (vtableRva gateRva : Nat) : Except String VtableMatch := do
  Except.require (8 ∣ vtableRva) "vtable is not pointer-aligned"
  let locatorSlotRva ← (checkedSub vtableRva 8).okOr
    "vtable has no Complete Object Locator slot"
  Except.require (image.isReadableNonExecutable locatorSlotRva 56 = true)
    "vtable is not in a readable non-executable PE section"
  let gatePointer ← image.readUsize process (vtableRva + hdrMenuGateInvokeIndex * 8)
  Except.require (image.vaToRva gatePointer = some gateRva)
    "vtable invoke slot does not point to the resolved gate"
  -- the Complete Object Locator
  let locatorPointer ← image.readUsize process locatorSlotRva
  let locatorRva ← (image.vaToRva locatorPointer).okOr
    "vtable Complete Object Locator is outside the main image"
  Except.require (image.isReadableNonExecutable locatorRva 24 = true)
    "vtable Complete Object Locator is not readable data"
  let locator ← image.bytesAt process locatorRva 24
  let signature := ofLittleEndian (slice locator 0 4)
  let objectOffset := ofLittleEndian (slice locator 4 8)
  let constructorOffset := ofLittleEndian (slice locator 8 12)
  let typeDescriptorRva := ofLittleEndian (slice locator 12 16)
  let classDescriptorRva := ofLittleEndian (slice locator 16 20)
  let selfRva := ofLittleEndian (slice locator 20 24)
  Except.require
    (signature = 1 ∧ objectOffset = 0 ∧ constructorOffset = 0 ∧ selfRva = locatorRva)
    "vtable Complete Object Locator fields do not match MSVC x64 RTTI"
  -- the type that it describes
  Except.require
    (image.isReadableNonExecutable typeDescriptorRva 17 = true ∧
      image.isReadableNonExecutable classDescriptorRva 4 = true)
    "vtable RTTI descriptors are outside readable data"
  let rttiName ← image.readAsciiCString process (typeDescriptorRva + 16) maxRttiNameLength
  Except.require (isHdrMenuLambdaRttiName rttiName = true)
    "vtable RTTI type is not the HDR menu std::function lambda"
  let entry₀ ← image.vtableEntry process vtableRva 0
  let entry₁ ← image.vtableEntry process vtableRva 1
  let entry₂ ← image.vtableEntry process vtableRva 2
  let entry₃ ← image.vtableEntry process vtableRva 3
  let entry₄ ← image.vtableEntry process vtableRva 4
  let entry₅ ← image.vtableEntry process vtableRva 5
  return {
    rva := vtableRva
    completeObjectLocatorRva := locatorRva
    entries := #v[entry₀, entry₁, entry₂, entry₃, entry₄, entry₅]
    referenceCount := 1
    rttiName := rttiName }

/-! ### The search -/

/-- The address that the instruction in a window names, when it is a RIP-relative `LEA` with a
64-bit destination. -/
def leaTarget (rva : Nat) (bytes : List UInt8) : Option Nat :=
  let rex := bytes.getD 0 0
  let modRm := bytes.getD 2 0
  if rex &&& 0xF8 ≠ 0x48 ∨ bytes.getD 1 0 ≠ 0x8D ∨ modRm &&& 0xC7 ≠ 0x05 then
    none
  else
    relativeTarget (rva + 7) (signedOfLittleEndian (slice bytes 3 7))

/-- The table that the instruction in a window names, when it is valid. -/
def referencedVtable (gateRva rva : Nat) (bytes : List UInt8) : Option VtableMatch := do
  let targetRva ← leaTarget rva bytes
  let locatorSlotRva ← checkedSub targetRva 8
  if ¬ 8 ∣ targetRva ∨ image.isReadableNonExecutable locatorSlotRva 56 = false then
    none
  else
    -- most tables are refused by their gate entry alone
    let gatePointer ←
      (image.readUsize process (targetRva + hdrMenuGateInvokeIndex * 8)).toOption
    if image.vaToRva gatePointer ≠ some gateRva then
      none
    else
      (image.validateMenuGateVtable process targetRva gateRva).toOption

/-- `resolve_menu_gate_vtable`. A table that is named again is counted with its first
occurrence. -/
def resolveMenuGateVtable (gateRva : Nat) : Except String VtableMatch := do
  let windows ← image.executableWindows process 7
  let validated := windows.filterMap fun (rva, bytes) =>
    image.referencedVtable process gateRva rva bytes
  let candidates := validated.foldl (tally VtableMatch.rva VtableMatch.countReference) []
  match candidates with
  | [candidate] =>
    if candidate.referenceCount < 2 then
      throw (s!"HDR menu-gate vtable RVA 0x{hexUpper 8 candidate.rva} has only " ++
        s!"{candidate.referenceCount} executable LEA reference; expected at least 2")
    else
      return candidate
  | _ =>
    throw ("HDR menu-gate RTTI/vtable must resolve to exactly one candidate referenced by " ++
      s!"executable code, found {candidates.length} " ++
      s!"({formatRvas (candidates.map VtableMatch.rva)})")

/-! ### What a validated table is -/

/-- The unsigned field of four bytes at a relative address. -/
def fieldAt (rva : Nat) : Nat := ofLittleEndian (image.content process rva 4)

/-- The pointer at `rva` leads to `target`, within the image. -/
def PointsTo (rva target : Nat) : Prop :=
  (process.memory.readPointer (image.address rva)).toNat = image.base.toNat + target ∧
    target < image.size

/-- A Complete Object Locator, and the name of the type it describes. -/
structure IsLocator (locator : Nat) (name : String) : Prop where
  data : image.Within locator 24 Section.isReadableNonExecutable
  signature : image.fieldAt process locator = 1
  offset : image.fieldAt process (locator + 4) = 0
  constructorOffset : image.fieldAt process (locator + 8) = 0
  itself : image.fieldAt process (locator + 20) = locator
  typeDescriptor : image.Within (image.fieldAt process (locator + 12)) 17
    Section.isReadableNonExecutable
  classDescriptor : image.Within (image.fieldAt process (locator + 16)) 4
    Section.isReadableNonExecutable
  name : image.HoldsCString process (image.fieldAt process (locator + 12) + 16) name

/-- The vtable of the lambda whose call is the menu gate. -/
structure IsMenuGateVtable (gate vtable locator : Nat) (entries : Vector Nat 6)
    (name : String) : Prop where
  aligned : 8 ∣ vtable
  room : 8 ≤ vtable
  data : image.Within (vtable - 8) 56 Section.isReadableNonExecutable
  locatorSlot : image.PointsTo process (vtable - 8) locator
  isLocator : image.IsLocator process locator name
  lambda : ∃ hash : String, name = rttiPrefix ++ hash ++ rttiSuffix ∧ hash.length = 32 ∧
    ∀ c ∈ hash.toList, isAsciiHexdigit c = true
  entry : ∀ i : Fin 6, image.PointsTo process (vtable + i * 8) entries[i] ∧
    image.Within entries[i] 1 Section.isExecutable
  invoke : entries[hdrMenuGateInvokeIndex] = gate

/-- The code at the position is a `LEA` with a 64-bit destination that names `target`. -/
def ReferencesAt (target : Nat) (p : image.Position) : Prop :=
  image.HasCode 7 p ∧
    (0x48 ≤ image.byteAt process (image.rvaOf p) ∧
      image.byteAt process (image.rvaOf p) ≤ 0x4F) ∧
    image.byteAt process (image.rvaOf p + 1) = 0x8D ∧
    image.byteAt process (image.rvaOf p + 2) &&& 0xC7 = 0x05 ∧
    (target : Int) = image.rvaOf p + 7 + image.displacementAt process (image.rvaOf p + 3)

variable {process image}

/-- A pointer that was read and translated leads where it says. -/
theorem pointsTo_of_readUsize {rva target : Nat} {pointer : UInt64}
    (hread : image.readUsize process rva = .ok pointer)
    (htarget : image.vaToRva pointer = some target) : image.PointsTo process rva target := by
  obtain ⟨-, rfl⟩ := readUsize_eq_ok.mp hread
  exact vaToRva_eq_some.mp htarget

/-- A pointer leads to one place. -/
theorem PointsTo.unique {rva target target' : Nat} (h : image.PointsTo process rva target)
    (h' : image.PointsTo process rva target') : target = target' :=
  Nat.add_left_cancel (h.1.symm.trans h'.1)

/-- An entry that was accepted points to code of the image. -/
theorem vtableEntry_of_ok {vtable index entry : Nat}
    (h : image.vtableEntry process vtable index = .ok entry) :
    image.PointsTo process (vtable + index * 8) entry ∧
      image.Within entry 1 Section.isExecutable := by
  unfold vtableEntry at h
  obtain ⟨pointer, hpointer, h⟩ := Except.bind_eq_ok.mp h
  obtain ⟨rva, hrva, h⟩ := Except.bind_eq_ok.mp h
  obtain ⟨_, hexecutable, h⟩ := Except.bind_eq_ok.mp h
  obtain rfl := Except.ok.inj h
  exact ⟨pointsTo_of_readUsize hpointer (Option.okOr_eq_ok.mp hrva),
    isExecutable_iff.mp (Except.require_eq_ok.mp hexecutable)⟩

/-- The checks of `validate_menu_gate_vtable` on the Complete Object Locator. -/
theorem isLocator_of_ok {locatorRva : Nat} {locator : List UInt8} {rttiName : String}
    (hdata : image.isReadableNonExecutable locatorRva 24 = true)
    (hlocator : image.bytesAt process locatorRva 24 = .ok locator)
    (hfields : ofLittleEndian (slice locator 0 4) = 1 ∧ ofLittleEndian (slice locator 4 8) = 0 ∧
      ofLittleEndian (slice locator 8 12) = 0 ∧
      ofLittleEndian (slice locator 20 24) = locatorRva)
    (hdescriptors :
      image.isReadableNonExecutable (ofLittleEndian (slice locator 12 16)) 17 = true ∧
      image.isReadableNonExecutable (ofLittleEndian (slice locator 16 20)) 4 = true)
    (hname : image.readAsciiCString process (ofLittleEndian (slice locator 12 16) + 16)
      maxRttiNameLength = .ok rttiName) :
    image.IsLocator process locatorRva rttiName := by
  obtain ⟨-, rfl⟩ := bytesAt_eq_ok.mp hlocator
  -- each field of the locator is a field of the image
  have hfield : ∀ start, start + 4 ≤ 24 →
      ofLittleEndian (slice (image.content process locatorRva 24) start (start + 4)) =
        image.fieldAt process (locatorRva + start) := by
    intro start hstart
    rw [fieldAt, slice_content hstart, Nat.add_sub_cancel_left]
  rw [hfield 0 (by decide), hfield 4 (by decide), hfield 8 (by decide),
    hfield 20 (by decide)] at hfields
  rw [hfield 12 (by decide), hfield 16 (by decide)] at hdescriptors
  rw [hfield 12 (by decide)] at hname
  exact {
    data := isReadableNonExecutable_iff.mp hdata
    signature := hfields.1
    offset := hfields.2.1
    constructorOffset := hfields.2.2.1
    itself := hfields.2.2.2
    typeDescriptor := isReadableNonExecutable_iff.mp hdescriptors.1
    classDescriptor := isReadableNonExecutable_iff.mp hdescriptors.2
    name := (holdsCString_of_ok hname).1 }

/-- **A validated table.** -/
theorem isMenuGateVtable_of_ok {vtable gate : Nat} {v : VtableMatch}
    (h : image.validateMenuGateVtable process vtable gate = .ok v) :
    image.IsMenuGateVtable process gate v.rva v.completeObjectLocatorRva v.entries v.rttiName ∧
      v.rva = vtable ∧ v.referenceCount = 1 := by
  -- each check of the validator, in its order
  unfold validateMenuGateVtable at h
  obtain ⟨_, haligned, h⟩ := Except.bind_eq_ok.mp h
  obtain ⟨slot, hslot, h⟩ := Except.bind_eq_ok.mp h
  obtain ⟨_, hdata, h⟩ := Except.bind_eq_ok.mp h
  obtain ⟨gatePointer, hgatePointer, h⟩ := Except.bind_eq_ok.mp h
  obtain ⟨_, hgate, h⟩ := Except.bind_eq_ok.mp h
  obtain ⟨locatorPointer, hlocatorPointer, h⟩ := Except.bind_eq_ok.mp h
  obtain ⟨locatorRva, hlocatorRva, h⟩ := Except.bind_eq_ok.mp h
  obtain ⟨_, hlocatorData, h⟩ := Except.bind_eq_ok.mp h
  obtain ⟨locator, hlocator, h⟩ := Except.bind_eq_ok.mp h
  obtain ⟨_, hfields, h⟩ := Except.bind_eq_ok.mp h
  obtain ⟨_, hdescriptors, h⟩ := Except.bind_eq_ok.mp h
  obtain ⟨rttiName, hname, h⟩ := Except.bind_eq_ok.mp h
  obtain ⟨_, hlambda, h⟩ := Except.bind_eq_ok.mp h
  obtain ⟨entry₀, h₀, h⟩ := Except.bind_eq_ok.mp h
  obtain ⟨entry₁, h₁, h⟩ := Except.bind_eq_ok.mp h
  obtain ⟨entry₂, h₂, h⟩ := Except.bind_eq_ok.mp h
  obtain ⟨entry₃, h₃, h⟩ := Except.bind_eq_ok.mp h
  obtain ⟨entry₄, h₄, h⟩ := Except.bind_eq_ok.mp h
  obtain ⟨entry₅, h₅, h⟩ := Except.bind_eq_ok.mp h
  obtain rfl := Except.ok.inj h
  obtain ⟨rfl, hroom⟩ := checkedSub_eq_some.mp (Option.okOr_eq_ok.mp hslot)
  have hisLocator := isLocator_of_ok (Except.require_eq_ok.mp hlocatorData) hlocator
    (Except.require_eq_ok.mp hfields) (Except.require_eq_ok.mp hdescriptors) hname
  have hentries : ∀ i : Fin 6,
      image.PointsTo process (vtable + i * 8)
        #v[entry₀, entry₁, entry₂, entry₃, entry₄, entry₅][i] ∧
      image.Within #v[entry₀, entry₁, entry₂, entry₃, entry₄, entry₅][i] 1
        Section.isExecutable := by
    intro i
    match i with
    | 0 => exact vtableEntry_of_ok h₀
    | 1 => exact vtableEntry_of_ok h₁
    | 2 => exact vtableEntry_of_ok h₂
    | 3 => exact vtableEntry_of_ok h₃
    | 4 => exact vtableEntry_of_ok h₄
    | 5 => exact vtableEntry_of_ok h₅
  refine ⟨?_, rfl, rfl⟩
  exact {
    aligned := Except.require_eq_ok.mp haligned
    room := hroom
    data := isReadableNonExecutable_iff.mp (Except.require_eq_ok.mp hdata)
    locatorSlot := pointsTo_of_readUsize hlocatorPointer (Option.okOr_eq_ok.mp hlocatorRva)
    isLocator := hisLocator
    lambda := isHdrMenuLambdaRttiName_iff.mp (Except.require_eq_ok.mp hlambda)
    entry := hentries
    -- the gate entry was read twice, so the third entry is the gate
    invoke := (hentries 2).1.unique
      (pointsTo_of_readUsize hgatePointer (Except.require_eq_ok.mp hgate)) }

/-! ### What the search finds -/

/-- The mask of the source selects the prefixes with a 64-bit operand. -/
theorem rexW_iff (rex : UInt8) : rex &&& 0xF8 = 0x48 ↔ 0x48 ≤ rex ∧ rex ≤ 0x4F := by
  have h : ∀ n < 256, UInt8.ofNat n &&& 0xF8 = 0x48 ↔
      0x48 ≤ UInt8.ofNat n ∧ UInt8.ofNat n ≤ 0x4F := by
    decide +kernel
  have hrex := h rex.toNat rex.toNat_lt
  rwa [UInt8.ofNat_toNat] at hrex

/-- An instruction that names a table. -/
theorem leaTarget_window {p : image.Position} {target : Nat} :
    image.HasCode 7 p ∧
        leaTarget (image.rvaOf p) (image.content process (image.rvaOf p) 7) = some target ↔
      image.ReferencesAt process target p ∧ target < Usize.size := by
  have hbyte : ∀ k, k < 7 →
      (image.content process (image.rvaOf p) 7).getD k 0 =
        image.byteAt process (image.rvaOf p + k) := by
    intro k hk
    rw [List.getD_eq_getElem?_getD, getElem?_content hk, Option.getD_some]
  have hdisplacement : signedOfLittleEndian
      (slice (image.content process (image.rvaOf p) 7) 3 7) =
        image.displacementAt process (image.rvaOf p + 3) := by
    rw [displacementAt, slice_content (le_refl 7)]
  unfold leaTarget ReferencesAt
  dsimp only
  rw [hbyte 0 (by decide), hbyte 1 (by decide), hbyte 2 (by decide), hdisplacement,
    Nat.add_zero]
  rw [← rexW_iff]
  -- one of the three opcode bytes is not that of the instruction, or all of them are
  split_ifs with hskip
  · constructor
    · rintro ⟨-, h⟩
      cases h
    · rintro ⟨⟨-, hrex, hopcode, hmodRm, -⟩, -⟩
      rcases hskip with hskip | hskip | hskip
      · exact absurd hrex hskip
      · exact absurd hopcode hskip
      · exact absurd hmodRm hskip
  · simp only [not_or, not_not] at hskip
    rw [relativeTarget_eq_some]
    -- what is left is the target, written as a sum on one side and a difference on the other
    constructor
    · rintro ⟨hcode, htarget, hlt⟩
      exact ⟨⟨hcode, hskip.1, hskip.2.1, hskip.2.2, by omega⟩, hlt⟩
    · rintro ⟨⟨hcode, -, -, -, htarget⟩, hlt⟩
      exact ⟨hcode, by omega, hlt⟩

/-- The filters before the validation are part of it. -/
theorem referencedVtable_eq_some {gate rva : Nat} {bytes : List UInt8} {v : VtableMatch} :
    image.referencedVtable process gate rva bytes = some v ↔
      leaTarget rva bytes = some v.rva ∧
        image.validateMenuGateVtable process v.rva gate = .ok v := by
  unfold referencedVtable
  constructor
  · intro h
    obtain ⟨target, htarget, h⟩ := Option.bind_eq_some_iff.mp h
    obtain ⟨slot, -, h⟩ := Option.bind_eq_some_iff.mp h
    split at h
    · exact nomatch h
    · obtain ⟨pointer, -, h⟩ := Option.bind_eq_some_iff.mp h
      split at h
      · exact nomatch h
      · have hvalid := Except.toOption_eq_some.mp h
        obtain ⟨-, rfl, -⟩ := isMenuGateVtable_of_ok hvalid
        exact ⟨htarget, hvalid⟩
  · rintro ⟨htarget, hvalid⟩
    -- what the validator has checked by the time it reads the locator
    have h := hvalid
    unfold validateMenuGateVtable at h
    obtain ⟨_, haligned, h⟩ := Except.bind_eq_ok.mp h
    obtain ⟨slot, hslot, h⟩ := Except.bind_eq_ok.mp h
    obtain ⟨_, hdata, h⟩ := Except.bind_eq_ok.mp h
    obtain ⟨gatePointer, hgatePointer, h⟩ := Except.bind_eq_ok.mp h
    obtain ⟨_, hgate, -⟩ := Except.bind_eq_ok.mp h
    have haligned := Except.require_eq_ok.mp haligned
    have hdata := Except.require_eq_ok.mp hdata
    refine Option.bind_eq_some_iff.mpr ⟨v.rva, htarget, ?_⟩
    refine Option.bind_eq_some_iff.mpr ⟨slot, Option.okOr_eq_ok.mp hslot, ?_⟩
    rw [if_neg (by simp [haligned, hdata])]
    refine Option.bind_eq_some_iff.mpr
      ⟨gatePointer, Except.toOption_eq_some.mpr hgatePointer, ?_⟩
    rw [if_neg (not_not.mpr (Except.require_eq_ok.mp hgate))]
    exact Except.toOption_eq_some.mpr hvalid

/-- **What the search records.** One entry for each instruction that names a valid table. -/
theorem referencedVtable_enumerates {windows : List (Nat × List UInt8)} (gate : Nat)
    (hwindows : image.executableWindows process 7 = .ok windows) :
    Enumerates
      (fun p v => image.ReferencesAt process v.rva p ∧
        image.validateMenuGateVtable process v.rva gate = .ok v)
      (windows.filterMap fun window =>
        image.referencedVtable process gate window.1 window.2) := by
  refine ((enumerates_executableWindows hwindows).filterMap _).congr fun p v => ?_
  constructor
  · rintro ⟨_, ⟨hcode, rfl⟩, hreferenced⟩
    obtain ⟨htarget, hvalid⟩ := referencedVtable_eq_some.mp hreferenced
    exact ⟨(leaTarget_window.mp ⟨hcode, htarget⟩).1, hvalid⟩
  · rintro ⟨hreferences, hvalid⟩
    -- a valid table lies within the image, so its address is a machine word
    have hlt : v.rva < Usize.size := by
      have hend := (isMenuGateVtable_of_ok hvalid).1.data.le_size
      have hsize := image.size_bounds.2
      have hmax : maxImageSize < Usize.size := by decide
      omega
    obtain ⟨hcode, htarget⟩ := leaTarget_window.mpr ⟨hreferences, hlt⟩
    exact ⟨_, ⟨hcode, rfl⟩, referencedVtable_eq_some.mpr ⟨htarget, hvalid⟩⟩

/-- **The search.** It returns the table that its first entry names, when all entries name it
and there are two of them at least. -/
theorem resolveMenuGateVtable_eq_ok {windows : List (Nat × List UInt8)} (gate : Nat)
    (v : VtableMatch) (hwindows : image.executableWindows process 7 = .ok windows) :
    image.resolveMenuGateVtable process gate = .ok v ↔
      ∃ first rest, (windows.filterMap fun window =>
          image.referencedVtable process gate window.1 window.2) = first :: rest ∧
        (∀ other ∈ rest, other.rva = first.rva) ∧ rest ≠ [] ∧
        v = { first with referenceCount := rest.length + 1 } := by
  have hfound := referencedVtable_enumerates gate hwindows
  -- an entry is recorded with one reference
  have hone : ∀ first rest, (windows.filterMap fun window =>
      image.referencedVtable process gate window.1 window.2) = first :: rest →
      first.referenceCount = 1 := by
    intro first rest hvalidated
    obtain ⟨p, hp⟩ := (hfound.mem_iff first).mp (by simp [hvalidated])
    exact (isMenuGateVtable_of_ok hp.2).2.2
  unfold resolveMenuGateVtable
  rw [hwindows]
  dsimp only [bind, Except.bind]
  constructor
  · intro h
    split at h
    · next candidate hcandidates =>
      obtain ⟨first, rest, hvalidated, hkeys, hcandidate⟩ :=
        (foldl_tally_eq_singleton VtableMatch.rva_countReference).mp hcandidates
      rw [VtableMatch.countReference_iterate, hone first rest hvalidated] at hcandidate
      split at h
      · exact nomatch h
      · next hcount =>
        obtain rfl := Except.ok.inj h
        subst hcandidate
        refine ⟨first, rest, hvalidated, hkeys, ?_, ?_⟩
        · rintro rfl
          simp at hcount
        · rw [Nat.add_comm]
    · exact nomatch h
  · rintro ⟨first, rest, hvalidated, hkeys, hrest, rfl⟩
    have hcandidates := (foldl_tally_eq_singleton VtableMatch.rva_countReference).mpr
      ⟨first, rest, hvalidated, hkeys, rfl⟩
    rw [VtableMatch.countReference_iterate, hone first rest hvalidated] at hcandidates
    rw [hcandidates]
    -- another entry means a second reference
    have hlen := List.length_pos_of_ne_nil hrest
    dsimp only
    rw [if_neg (by omega), Nat.add_comm]
    rfl

/-- **The resolved table.** It is valid, and two instructions at least name it. -/
theorem resolveMenuGateVtable_of_ok {gate : Nat} {v : VtableMatch}
    (h : image.resolveMenuGateVtable process gate = .ok v) :
    image.IsMenuGateVtable process gate v.rva v.completeObjectLocatorRva v.entries v.rttiName ∧
      ∃ p q, p ≠ q ∧ image.ReferencesAt process v.rva p ∧ image.ReferencesAt process v.rva q := by
  obtain ⟨windows, hwindows, -⟩ := Except.bind_eq_ok.mp h
  obtain ⟨first, rest, hvalidated, hkeys, hrest, rfl⟩ :=
    (resolveMenuGateVtable_eq_ok gate v hwindows).mp h
  have hfound := referencedVtable_enumerates gate hwindows
  rw [hvalidated] at hfound
  obtain ⟨second, rest, rfl⟩ := List.exists_cons_of_ne_nil hrest
  obtain ⟨p, q, hne, hp, hq⟩ := hfound.of_cons_cons
  refine ⟨(isMenuGateVtable_of_ok hp.2).1, p, q, hne, hp.1, ?_⟩
  -- the second entry names the same table
  have hsame := hkeys second (by simp)
  exact hsame ▸ hq.1

end LoadedImage
end GameCompat
end WindowedHdr
