import WindowedHdr.Library.ByteMemory
import WindowedHdr.Library.Faults
import WindowedHdr.Library.Str
import WindowedHdr.Text

/-!
# The imports of the main module

`Image::imports` walks over the import directory of a loaded module and, for each descriptor
of the requested module, over its two parallel tables: the names of what is imported and the
slots that the loader filled. A loop leaves early at a terminator, skips what does not count,
and returns an error for a reference out of the image.

Every address in these tables comes from the image itself. A `load` outside of the image is a
fault here, and so is arithmetic that does not fit, so `imports_exact` says both that no such
thing happens and what the result is: `importTable`, the list that the tables describe.

A proof of freedom from faults is a proof about the loops, since the readers are checked one by
one (`returns_load` and those after it). The walk over the thunks and the walk over the
descriptors count upwards and are bounded by constants of the source, so that their offsets fit;
each has a lemma that says how many entries it has collected when it stops. The specification
`importTable` is a list of descriptors cut off at the terminator, and of thunks cut off at a
null one, so the loops are compared with `List.takeWhile`.
-/

namespace WindowedHdr
namespace Dxgi

open Usize

/-- The bit of a thunk that imports by ordinal. -/
def imageOrdinalFlag64 : UInt64 := 0x8000000000000000

/-- A slot of an import address table. -/
structure Import where
  name : String
  slot : UInt64
  current : UInt64
  deriving DecidableEq

/-- A loaded module with its import directory, which lies within it. -/
structure Image where
  base : UInt64
  size : Nat
  importRva : Nat
  importSize : Nat
  size_lt : size < Usize.size
  inside : importRva + importSize ≤ size
  deriving DecidableEq

/-! ### The headers -/

/-- `read_u16`. -/
def readU16 (memory : ByteMemory) (base : UInt64) (offset : Nat) : Nat :=
  ofLittleEndian (memory.read (base + UInt64.ofNat offset) 2)

/-- `read_u32`. -/
def readU32 (memory : ByteMemory) (base : UInt64) (offset : Nat) : Nat :=
  ofLittleEndian (memory.read (base + UInt64.ofNat offset) 4)

/-- A field of four bytes is a 32-bit number. -/
theorem readU32_lt (memory : ByteMemory) (base : UInt64) (offset : Nat) :
    readU32 memory base offset < 2 ^ 32 := by
  have hlt := ofLittleEndian_lt (memory.read (base + UInt64.ofNat offset) 4)
  rwa [ByteMemory.length_read] at hlt

namespace Image

/-- `Image::main_module`, when `GetModuleHandleW(NULL)` returns `base`. -/
def mainModule (memory : ByteMemory) (base : UInt64) : Except String Image := do
  Except.require (base ≠ 0) "GetModuleHandleW(NULL) failed"
  Except.require (readU16 memory base 0 = 0x5A4D) "main module has no MZ signature"
  let nt := readU32 memory base 0x3C
  Except.require (readU32 memory base nt = 0x00004550) "main module has no PE signature"
  let optional := nt + 24
  Except.require (readU16 memory base optional = 0x20B) "main module is not PE32+"
  let size := readU32 memory base (optional + 56)
  -- the second entry of the data directories
  let directory := optional + 112 + 1 * 8
  let importRva := readU32 memory base directory
  let importSize := readU32 memory base (directory + 4)
  Except.require (¬ (size = 0 ∨ importRva = 0 ∨ importSize < 20))
    "main module has no usable import directory"
  let inside ← Except.establish ((checkedAdd importRva importSize).any (· ≤ size) = true)
    "main module import directory is outside the image"
  return {
    base := base
    size := size
    importRva := importRva
    importSize := importSize
    size_lt := (readU32_lt memory base _).trans (by decide)
    inside := by
      obtain ⟨finish, hfinish, hle⟩ := (Option.any_eq_true _ _).mp inside.down
      obtain ⟨rfl, -⟩ := checkedAdd_eq_some.mp hfinish
      exact of_decide_eq_true hle }

variable (image : Image) (memory : ByteMemory)

/-! ### The tables -/

/-- `base.add(rva)`. -/
def address (rva : Nat) : UInt64 := image.base + UInt64.ofNat rva

/-- Read `length` bytes from `rva` on, which must lie within the image. -/
def load (rva length : Nat) : Except (Stop String) (List UInt8) :=
  if rva + length ≤ image.size then .ok (memory.read (image.address rva) length)
  else .error .fault

/-- `range`. -/
def range (rva length : Nat) : Except (Stop String) Unit :=
  if (checkedAdd rva length).any (· ≤ image.size) then .ok ()
  else Except.fail "import table reference is outside the image"

/-- `u32_at`. -/
def u32At (rva : Nat) : Except (Stop String) Nat := do
  image.range rva 4
  let bytes ← image.load memory rva 4
  return ofLittleEndian bytes

/-- `u64_at`. -/
def u64At (rva : Nat) : Except (Stop String) UInt64 := do
  image.range rva 8
  let bytes ← image.load memory rva 8
  return UInt64.ofNat (ofLittleEndian bytes)

/-- `pointer_at`. -/
def pointerAt (rva : Nat) : Except (Stop String) UInt64 := do
  image.range rva 8
  return image.address rva

/-- `string_at`. -/
def stringAt (rva maximum : Nat) : Except (Stop String) String := do
  image.range rva 1
  let rest ← sub image.size rva
  let bytes ← image.load memory rva (min rest maximum)
  match bytes.findIdx? (· == 0) with
  | none => Except.fail "unterminated import string"
  | some length =>
    let name := bytes.take length
    if name.all (· < 128) then return asciiText name
    else Except.fail "non-ASCII import string"

/-- The inner loop of `imports`, from thunk `index` on, over at most `count` thunks. -/
def importThunks (originalFirstThunk firstThunk : Nat) :
    Nat → Nat → List Import → Except (Stop String) (List Import)
  | 0, _, result => .ok result
  | count + 1, index, result => do
    let offset ← mul index 8
    let thunkRva ← add originalFirstThunk offset
    let nameThunk ← image.u64At memory thunkRva
    if nameThunk = 0 then
      return result
    else if nameThunk &&& imageOrdinalFlag64 ≠ 0 then
      -- `continue`, with the next index all the same
      importThunks originalFirstThunk firstThunk count (index + 1) result
    else
      let nameRva ← add nameThunk.toNat 2
      let name ← image.stringAt memory nameRva 256
      match checkedAdd firstThunk offset with
      | none => Except.fail "IAT slot overflow"
      | some slotRva =>
        let slot ← image.pointerAt slotRva
        let current ← image.load memory slotRva 8
        importThunks originalFirstThunk firstThunk count (index + 1) (result ++
          [{ name := name
             slot := slot
             current := UInt64.ofNat (ofLittleEndian current) }])

/-- The outer loop of `imports`, from descriptor `index` on, over `count` descriptors. -/
def importDescriptors (requestedModule : String) :
    Nat → Nat → List Import → Except (Stop String) (List Import)
  | 0, _, result => .ok result
  | count + 1, index, result => do
    let step ← mul index 20
    let descriptor ← add image.importRva step
    let originalFirstThunk ← image.u32At memory descriptor
    let nameRva ← image.u32At memory (← add descriptor 12)
    let firstThunk ← image.u32At memory (← add descriptor 16)
    if originalFirstThunk = 0 ∧ nameRva = 0 ∧ firstThunk = 0 then
      -- the terminator: `break`
      return result
    else if nameRva = 0 ∨ firstThunk = 0 then
      importDescriptors requestedModule count (index + 1) result
    else
      let module ← image.stringAt memory nameRva 128
      if ¬ Str.eqIgnoreAsciiCase module.toList requestedModule.toList then
        importDescriptors requestedModule count (index + 1) result
      else if originalFirstThunk = 0 then
        Except.fail s!"{requestedModule} import has no original thunk table"
      else
        let result ← image.importThunks memory originalFirstThunk firstThunk 4096 0 result
        importDescriptors requestedModule count (index + 1) result

/-- `imports`. -/
def imports (requestedModule : String) : Except (Stop String) (List Import) :=
  image.importDescriptors memory requestedModule (image.importSize / 20) 0 []

/-! ### What the tables describe -/

/-- The word of four bytes at `rva`. -/
def u32 (rva : Nat) : Nat := readU32 memory image.base rva

/-- The text from `rva` on, up to its terminator. -/
def text (rva maximum : Nat) : String :=
  asciiText ((memory.read (image.address rva) (min (image.size - rva) maximum)).takeWhile (· != 0))

/-- What is used of an import descriptor. -/
structure Descriptor where
  originalFirstThunk : Nat
  nameRva : Nat
  firstThunk : Nat

/-- Descriptor `index` of the directory. -/
def descriptor (index : Nat) : Descriptor where
  originalFirstThunk := image.u32 memory (image.importRva + index * 20)
  nameRva := image.u32 memory (image.importRva + index * 20 + 12)
  firstThunk := image.u32 memory (image.importRva + index * 20 + 16)

/-- The descriptor that ends the directory. -/
def Descriptor.IsTerminator (d : Descriptor) : Prop :=
  d.originalFirstThunk = 0 ∧ d.nameRva = 0 ∧ d.firstThunk = 0

instance (d : Descriptor) : Decidable d.IsTerminator := inferInstanceAs (Decidable (_ ∧ _ ∧ _))

/-- The descriptor has a name and slots, and is one of the requested module. -/
def Names (requestedModule : String) (d : Descriptor) : Prop :=
  d.nameRva ≠ 0 ∧ d.firstThunk ≠ 0 ∧
    Str.eqIgnoreAsciiCase (image.text memory d.nameRva 128).toList requestedModule.toList = true

instance (requestedModule : String) (d : Descriptor) :
    Decidable (image.Names memory requestedModule d) :=
  inferInstanceAs (Decidable (_ ∧ _ ∧ _))

/-- Thunk `k` of the descriptor's names. -/
def nameThunk (d : Descriptor) (k : Nat) : UInt64 :=
  memory.readPointer (image.address (d.originalFirstThunk + 8 * k))

/-- The import that thunk `k` describes: its name, and the slot at the same place in the
other table. -/
def importAt (d : Descriptor) (k : Nat) : Import where
  name := image.text memory ((image.nameThunk memory d k).toNat + 2) 256
  slot := image.address (d.firstThunk + 8 * k)
  current := memory.readPointer (image.address (d.firstThunk + 8 * k))

/-- The thunks that import by name, among `count` of them from `index` on, and before the
first that is zero. -/
def namedThunks (d : Descriptor) (index count : Nat) : List Nat :=
  ((List.range' index count).takeWhile fun k => image.nameThunk memory d k ≠ 0).filter
    fun k => image.nameThunk memory d k &&& imageOrdinalFlag64 = 0

/-- The descriptors of the requested module, among `count` of them from `index` on, and
before the terminator. -/
def namedDescriptors (requestedModule : String) (index count : Nat) : List Descriptor :=
  (((List.range' index count).map (image.descriptor memory)).takeWhile
    fun d => ¬ d.IsTerminator).filter (image.Names memory requestedModule)

/-- **The imports by name of a module**, in the order of the tables. -/
def importTable (requestedModule : String) : List Import :=
  (image.namedDescriptors memory requestedModule 0 (image.importSize / 20)).flatMap fun d =>
    (image.namedThunks memory d 0 4096).map (image.importAt memory d)

/-! ### Reading within the image -/

variable {image memory}

/-- A load within the image does not fault. -/
theorem returns_load {rva length : Nat} (h : rva + length ≤ image.size) :
    (image.load memory rva length).Returns (· = memory.read (image.address rva) length) := by
  rw [load, if_pos h]
  exact .ok rfl

/-- A range that is passed lies within the image. -/
theorem returns_range (rva length : Nat) :
    (image.range rva length).Returns fun _ => rva + length ≤ image.size := by
  rw [range]
  split
  · next h =>
    obtain ⟨finish, hfinish, hle⟩ := (Option.any_eq_true _ _).mp h
    obtain ⟨rfl, -⟩ := checkedAdd_eq_some.mp hfinish
    exact .ok (of_decide_eq_true hle)
  · exact .fail

/-- The word is read, or the reference is refused. -/
theorem returns_u32At (rva : Nat) :
    (image.u32At memory rva).Returns (· = image.u32 memory rva) := by
  refine (returns_range rva 4).bind fun _ h => ?_
  refine (returns_load h).bind fun bytes hbytes => ?_
  rw [hbytes]
  exact .pure rfl

/-- The pointer is read, or the reference is refused. -/
theorem returns_u64At (rva : Nat) :
    (image.u64At memory rva).Returns (· = memory.readPointer (image.address rva)) := by
  refine (returns_range rva 8).bind fun _ h => ?_
  refine (returns_load h).bind fun bytes hbytes => ?_
  rw [hbytes]
  exact .pure rfl

/-- The address lies within the image, or the reference is refused. -/
theorem returns_pointerAt (rva : Nat) :
    (image.pointerAt rva).Returns fun slot =>
      slot = image.address rva ∧ rva + 8 ≤ image.size := by
  refine (returns_range rva 8).bind fun _ h => ?_
  exact .pure ⟨rfl, h⟩

/-- What stands before the first zero. -/
theorem take_of_findIdx?_eq_some {bytes : List UInt8} {length : Nat}
    (h : bytes.findIdx? (· == 0) = some length) :
    bytes.take length = bytes.takeWhile (· != 0) := by
  obtain ⟨-, rfl⟩ := List.findIdx?_eq_some_iff_findIdx_eq.mp h
  rw [List.takeWhile_eq_take_findIdx_not]
  simp only [bne, Bool.not_not]

/-- The text up to its terminator is read, or the reference is refused. -/
theorem returns_stringAt (rva maximum : Nat) :
    (image.stringAt memory rva maximum).Returns (· = image.text memory rva maximum) := by
  refine (returns_range rva 1).bind fun _ h => ?_
  refine (returns_sub (by omega)).bind fun rest hrest => ?_
  subst hrest
  refine (returns_load (by omega)).bind fun bytes hbytes => ?_
  subst hbytes
  -- a text without a terminator is refused, and so is one that is not ASCII
  split
  · exact .fail
  · next length hlength =>
    dsimp only
    split
    · rw [text, take_of_findIdx?_eq_some hlength]
      exact .pure rfl
    · exact .fail

/-- A thunk that imports by name is an address with room behind it. -/
theorem toNat_lt_of_and_eq_zero {thunk : UInt64} (h : thunk &&& imageOrdinalFlag64 = 0) :
    thunk.toNat < 2 ^ 63 := by
  have hand : thunk.toNat &&& 2 ^ 63 = 0 := by
    have hnat := congrArg UInt64.toNat h
    rwa [UInt64.toNat_and] at hnat
  -- the flag is the top bit
  have hbit : thunk.toNat.testBit 63 = false := by
    have hboth := congrArg (Nat.testBit · 63) hand
    rwa [Nat.testBit_and, Nat.testBit_two_pow_self, Bool.and_true, Nat.zero_testBit] at hboth
  rw [Nat.testBit_eq_decide_div_mod_eq, decide_eq_false_iff_not] at hbit
  have hlt := thunk.toNat_lt
  omega

/-! ### The loops -/

/-- **The inner loop** adds the imports of the thunks that are left, in their order. -/
theorem returns_importThunks {d : Descriptor} (hd : d.originalFirstThunk < 2 ^ 32)
    (count index : Nat) (hindex : index + count ≤ 4096) (result : List Import) :
    (image.importThunks memory d.originalFirstThunk d.firstThunk count index result).Returns
      (· = result ++ (image.namedThunks memory d index count).map (image.importAt memory d)) := by
  induction count generalizing index result with
  | zero => exact .ok (by simp [namedThunks])
  | succ count ih =>
    rw [importThunks]
    -- an index below 4096 keeps the arithmetic far from the wrap
    refine (returns_mul (by unfold Usize.size; omega)).bind fun offset hoffset => ?_
    refine (returns_add (by unfold Usize.size; omega)).bind fun thunkRva hthunkRva => ?_
    refine (returns_u64At thunkRva).bind fun nameThunk hnameThunk => ?_
    obtain rfl : thunkRva = d.originalFirstThunk + 8 * index := by omega
    replace hnameThunk : nameThunk = image.nameThunk memory d index := hnameThunk
    split
    · next hzero =>
      -- the first zero thunk ends the table
      have hnone : image.namedThunks memory d index (count + 1) = [] := by
        rw [namedThunks, List.range'_succ,
          List.takeWhile_cons_of_neg (by simp [← hnameThunk, hzero])]
        rfl
      rw [hnone]
      exact .pure (List.append_nil _).symm
    · next hnonzero =>
      have hnamed : image.namedThunks memory d index (count + 1) =
          if nameThunk &&& imageOrdinalFlag64 = 0 then
            index :: image.namedThunks memory d (index + 1) count
          else image.namedThunks memory d (index + 1) count := by
        rw [namedThunks, List.range'_succ,
          List.takeWhile_cons_of_pos (by simp [← hnameThunk, hnonzero]), List.filter_cons,
          ← hnameThunk]
        simp only [decide_eq_true_eq, namedThunks]
      split
      · next hordinal =>
        -- an ordinal is skipped, but still counts for the place of the slots behind it
        rw [hnamed, if_neg hordinal]
        exact ih (index + 1) (by omega) result
      · next hname =>
        rw [hnamed, if_pos (not_not.mp hname), List.map_cons]
        have hthunk := toNat_lt_of_and_eq_zero (not_not.mp hname)
        refine (returns_add (by unfold Usize.size; omega)).bind fun nameRva hnameRva => ?_
        refine (returns_stringAt nameRva 256).bind fun name hname' => ?_
        split
        · exact .fail
        · next slotRva hslotRva =>
          -- the slot stands at the index of the thunk
          obtain rfl : slotRva = d.firstThunk + 8 * index := by
            have hsum := (checkedAdd_eq_some.mp hslotRva).1
            omega
          -- the slot is checked before it is read
          refine (returns_pointerAt _).bind fun slot hslot => ?_
          refine (returns_load hslot.2).bind fun current hcurrent => ?_
          have himport : Import.mk name slot (UInt64.ofNat (ofLittleEndian current)) =
              image.importAt memory d index := by
            rw [importAt, hname', hnameRva, hnameThunk, hslot.1, hcurrent]
            rfl
          rw [himport]
          refine (ih (index + 1) (by omega) _).mono fun r hr => ?_
          rw [hr, List.append_assoc, List.singleton_append]

/-- **The outer loop** adds the imports of the descriptors that are left, in their order. Each
of them has a table of names. -/
theorem returns_importDescriptors (requestedModule : String) (count index : Nat)
    (hindex : (index + count) * 20 ≤ image.importSize) (result : List Import) :
    (image.importDescriptors memory requestedModule count index result).Returns fun r =>
      (r = result ++ (image.namedDescriptors memory requestedModule index count).flatMap fun d =>
        (image.namedThunks memory d 0 4096).map (image.importAt memory d)) ∧
      ∀ d ∈ image.namedDescriptors memory requestedModule index count,
        d.originalFirstThunk ≠ 0 := by
  induction count generalizing index result with
  | zero => exact .ok (by simp [namedDescriptors])
  | succ count ih =>
    have hinside := image.inside
    have hsize := image.size_lt
    -- the descriptor lies in the directory, and that in the image
    have hfits : image.importRva + index * 20 + 20 ≤ image.size := by omega
    have hnext : (index + 1 + count) * 20 ≤ image.importSize := by omega
    rw [importDescriptors]
    refine (returns_mul (by omega)).bind fun step hstep => ?_
    refine (returns_add (by omega)).bind fun descriptor hdescriptor => ?_
    subst hstep hdescriptor
    refine (returns_u32At _).bind fun originalFirstThunk horiginal => ?_
    refine (returns_add (by omega)).bind fun nameField hnameField => ?_
    refine (returns_u32At nameField).bind fun nameRva hname => ?_
    refine (returns_add (by omega)).bind fun thunkField hthunkField => ?_
    refine (returns_u32At thunkField).bind fun firstThunk hfirst => ?_
    subst hnameField hthunkField
    -- the three fields are those of the descriptor
    have hd : image.descriptor memory index = ⟨originalFirstThunk, nameRva, firstThunk⟩ := by
      rw [descriptor, horiginal, hname, hfirst]
    split
    · next hterminator =>
      -- the terminator ends the directory
      have hnone : image.namedDescriptors memory requestedModule index (count + 1) = [] := by
        rw [namedDescriptors, List.range'_succ, List.map_cons, hd, List.takeWhile_cons_of_neg]
        · rfl
        · rw [decide_eq_true_eq]
          exact not_not_intro hterminator
      rw [hnone]
      exact .pure ⟨(List.append_nil _).symm, fun d hd => (nomatch hd)⟩
    · next hmore =>
      have hnamed : image.namedDescriptors memory requestedModule index (count + 1) =
          if image.Names memory requestedModule ⟨originalFirstThunk, nameRva, firstThunk⟩ then
            ⟨originalFirstThunk, nameRva, firstThunk⟩ ::
              image.namedDescriptors memory requestedModule (index + 1) count
          else image.namedDescriptors memory requestedModule (index + 1) count := by
        rw [namedDescriptors, List.range'_succ, List.map_cons, hd,
          List.takeWhile_cons_of_pos (by rw [decide_eq_true_eq]; exact hmore),
          List.filter_cons]
        simp only [decide_eq_true_eq, namedDescriptors]
      split
      -- a descriptor without a name or without slots is passed over
      · next hunused =>
        rw [hnamed, if_neg fun h => hunused.elim h.1 h.2.1]
        exact ih (index + 1) hnext result
      · next hused =>
        rw [not_or] at hused
        refine (returns_stringAt nameRva 128).bind fun module hmodule => ?_
        subst hmodule
        split
        -- another module's descriptor is passed over as well
        · next hother =>
          rw [hnamed, if_neg fun h => hother h.2.2]
          exact ih (index + 1) hnext result
        · next hrequested =>
          split
          · exact .fail
          · next hnames =>
            -- a field of 32 bits, so no address within its table comes near the wrap
            have hlt : originalFirstThunk < 2 ^ 32 := horiginal ▸ readU32_lt _ _ _
            refine (returns_importThunks (d := ⟨originalFirstThunk, nameRva, firstThunk⟩) hlt 4096 0
              le_rfl result).bind fun result' hresult' => ?_
            refine (ih (index + 1) hnext result').mono fun r hr => ?_
            rw [hnamed, if_pos ⟨hused.1, hused.2, not_not.mp hrequested⟩]
            constructor
            · rw [hr.1, hresult', List.flatMap_cons, List.append_assoc]
            · exact List.forall_mem_cons.mpr ⟨hnames, hr.2⟩

/-- `imports` never faults, and what it returns is the import table. -/
theorem returns_imports (image : Image) (memory : ByteMemory) (requestedModule : String) :
    (image.imports memory requestedModule).Returns fun r =>
      r = image.importTable memory requestedModule ∧
      ∀ d ∈ image.namedDescriptors memory requestedModule 0 (image.importSize / 20),
        d.originalFirstThunk ≠ 0 := by
  refine returns_importDescriptors requestedModule (image.importSize / 20) 0 ?_ []
  rw [Nat.zero_add]
  exact Nat.div_mul_le_self _ _

/-- **Import enumeration is exact and in bounds.** Whatever the image holds, `imports` ends
with a list or an error: it reads nothing outside of the image, and no arithmetic in it fails.
A list that it ends with is the list of the imports by name, in the order of the tables. -/
theorem imports_exact (image : Image) (memory : ByteMemory) (requestedModule : String) :
    image.imports memory requestedModule ≠ .error .fault ∧
    ((∃ result, image.imports memory requestedModule = .ok result) ∨
      ∃ message, image.imports memory requestedModule = .error (.error message)) ∧
    ∀ result, image.imports memory requestedModule = .ok result →
      result = image.importTable memory requestedModule := by
  have hreturns := returns_imports image memory requestedModule
  refine ⟨hreturns.1, ?_, fun result hresult => (hreturns.2 result hresult).1⟩
  obtain ⟨result, hresult, -⟩ | herror := hreturns.cases
  · exact .inl ⟨result, hresult⟩
  · exact .inr herror

end Image
end Dxgi
end WindowedHdr
