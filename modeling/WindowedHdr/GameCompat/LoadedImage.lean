import WindowedHdr.Library.ByteMemory
import WindowedHdr.Library.Fallible
import WindowedHdr.Text

/-!
# The loaded main module

`LoadedImage.mainModule` reads the PE headers of the main module from memory and lists its
sections. A `LoadedImage` carries what was checked on the way: its size is that of a module,
each section is non-empty and lies within it, and one of them is executable.

Everything else about the module is read through three readers, of bytes, of a pointer and of
an ASCII text. A reader answers for a relative address only when a readable section covers the
whole range and the memory is readable at that moment; `bytesAt_eq_ok`, `readUsize_eq_ok` and
`readAsciiCString_eq_ok` say so, and what the answer is.

Relative addresses and sizes are `usize` values. They come from 32-bit header fields and are
bounded by the image, so they are natural numbers here and only the checked operations of the
source are bounded explicitly.

The checks of `main_module` become fields of the structure, so that no later function repeats
them. What the code relies on without a check is not among the fields: two sections may overlap,
and the memory of a section may be unreadable.
-/

namespace WindowedHdr
namespace GameCompat

open Usize

def imageScnMemExecute : UInt32 := 0x20000000
def imageScnMemRead : UInt32 := 0x40000000
def maxImageSize : Nat := 1024 * 1024 * 1024
def maxSectionCount : Nat := 96

/-- What the resolver reads of its process. -/
structure Process where
  /-- `GetModuleHandleW(NULL)`; null when it fails. -/
  mainModule : UInt64
  memory : ByteMemory
  /-- `range_is_readable`. -/
  rangeIsReadable : UInt64 → Nat → Bool

/-! ### Sections -/

/-- A PE section. -/
structure Section where
  name : String
  rva : Nat
  size : Nat
  characteristics : UInt32
  deriving DecidableEq

namespace Section

variable (s : Section) (rva length : Nat)

/-- `Section::contains`. -/
def contains : Bool :=
  s.rva ≤ rva && match checkedAdd rva length, checkedAdd s.rva s.size with
    | some finish, some sectionEnd => finish ≤ sectionEnd
    | _, _ => false

def isReadable : Bool := s.characteristics &&& imageScnMemRead != 0

def isExecutable : Bool := s.characteristics &&& imageScnMemExecute != 0

/-- Data that is not code. -/
def isReadableNonExecutable : Bool := s.isReadable && !s.isExecutable

/-- The section is not empty and lies within an image of this size. -/
def Fits (imageSize : Nat) : Prop := 0 < s.size ∧ s.rva + s.size ≤ imageSize

instance (imageSize : Nat) : Decidable (s.Fits imageSize) :=
  inferInstanceAs (Decidable (_ ∧ _))

/-- The range lies within the section. -/
def Covers : Prop := s.rva ≤ rva ∧ rva + length ≤ s.rva + s.size

variable {s rva length}

/-- The checked sums of a section within a module never fail. -/
theorem contains_iff {imageSize : Nat} (hfits : s.Fits imageSize) (hsize : imageSize < Usize.size) :
    s.contains rva length ↔ s.Covers rva length := by
  have hend : checkedAdd s.rva s.size = some (s.rva + s.size) :=
    checkedAdd_eq_some.mpr ⟨rfl, Nat.lt_of_le_of_lt hfits.2 hsize⟩
  unfold contains Covers
  rw [hend, Bool.and_eq_true, decide_eq_true_iff]
  apply and_congr_right
  intro _
  -- a range whose end wraps is in no section
  by_cases hlt : rva + length < Usize.size
  · rw [checkedAdd_eq_some.mpr ⟨rfl, hlt⟩]
    simp
  · have hnone : checkedAdd rva length = none := if_neg hlt
    have hbound := hfits.2
    rw [hnone]
    simp only [Bool.false_eq_true, false_iff]
    omega

end Section

/-! ### The image -/

/-- A loaded module, with what its headers were checked for. -/
structure LoadedImage where
  base : UInt64
  size : Nat
  sections : List Section
  size_bounds : 4096 ≤ size ∧ size ≤ maxImageSize
  fits : ∀ s ∈ sections, s.Fits size
  executable : ∃ s ∈ sections, s.isExecutable = true

namespace LoadedImage

variable (process : Process) (image : LoadedImage) (rva length : Nat)

/-- `base.add(rva)`. -/
def address : UInt64 := image.base + UInt64.ofNat rva

/-- What the image has in memory from `rva` on. -/
def content : List UInt8 := process.memory.read (image.address rva) length

/-- A section of this kind covers the range. -/
def Within (kind : Section → Bool) : Prop :=
  ∃ s ∈ image.sections, kind s = true ∧ s.Covers rva length

def executableSections : List Section := image.sections.filter Section.isExecutable

def isExecutable : Bool :=
  image.sections.any fun s => s.contains rva length && s.isExecutable

def isReadableNonExecutable : Bool :=
  image.sections.any fun s => s.contains rva length && s.isReadableNonExecutable

/-- `va_to_rva`. -/
def vaToRva (address : UInt64) : Option Nat := do
  let rva ← checkedSub address.toNat image.base.toNat
  -- the end of the image is no address in it
  if rva < image.size then some rva else none

/-- `section_name_for`. -/
def sectionNameFor : Except String String :=
  ((image.sections.find? fun s => s.contains rva length).map Section.name).okOr
    s!"RVA 0x{hexUpper 8 rva} is outside PE sections"

/-- The bytes from `rva` on are those of the text, and a terminating zero. -/
def HoldsCString (text : String) : Prop :=
  image.content process rva (text.length + 1) = asciiBytes text ++ [0]

/-! ### Readers -/

/-- `section_bytes`: the whole section. -/
def sectionBytes (s : Section) : Except String (List UInt8) := do
  Except.require
    (s.isReadable = true ∧ process.rangeIsReadable (image.address s.rva) s.size = true)
    s!"PE section {s.name} is not fully readable at runtime"
  return image.content process s.rva s.size

/-- `bytes_at`. -/
def bytesAt : Except String (List UInt8) := do
  let _ ← (image.sections.find? fun s => s.contains rva length && s.isReadable).okOr
    s!"RVA 0x{hexUpper 8 rva}+0x{hexUpper 0 length} is outside readable PE sections"
  Except.require (process.rangeIsReadable (image.address rva) length = true)
    s!"RVA 0x{hexUpper 8 rva}+0x{hexUpper 0 length} is not readable at runtime"
  return image.content process rva length

/-- `array_at`. -/
def arrayAt (n : Nat) : Except String (Vector UInt8 n) := do
  let bytes ← image.bytesAt process rva n
  if h : bytes.length = n then
    return ⟨bytes.toArray, h⟩
  else
    throw "fixed-size PE read failed"

/-- `read_usize`: every word that is read this way is a pointer. -/
def readUsize : Except String UInt64 := do
  let bytes ← image.bytesAt process rva 8
  return UInt64.ofNat (ofLittleEndian bytes)

/-- `read_ascii_c_string`. -/
def readAsciiCString (maximum : Nat) : Except String String := do
  let s ← (image.sections.find? fun s => s.contains rva 1 && s.isReadable).okOr
    s!"ASCII string RVA 0x{hexUpper 8 rva} is outside readable data"
  -- never beyond the section, nor beyond the limit
  let available := min (s.rva + s.size - rva) maximum
  let bytes ← image.bytesAt process rva available
  let length ← (bytes.findIdx? (· == 0)).okOr
    s!"ASCII string at RVA 0x{hexUpper 8 rva} is not terminated"
  let text := bytes.take length
  Except.require (text.all (· < 128) = true) s!"string at RVA 0x{hexUpper 8 rva} is not ASCII"
  return asciiText text

/-! ### What the readers answer -/

variable {process image rva length}

/-- The test of the source, whose sums may wrap, decides what the section covers. -/
theorem contains_iff {s : Section} (hs : s ∈ image.sections) :
    s.contains rva length ↔ s.Covers rva length :=
  Section.contains_iff (image.fits s hs)
    (Nat.lt_of_le_of_lt image.size_bounds.2 (by decide))

/-- A section of the kind is found exactly when one covers the range. -/
theorem any_contains_iff (kind : Section → Bool) :
    (image.sections.any fun s => s.contains rva length && kind s) = true ↔
      image.Within rva length kind := by
  rw [List.any_eq_true]
  apply exists_congr
  intro s
  apply and_congr_right
  intro hs
  rw [Bool.and_eq_true, contains_iff hs, and_comm]

/-- What a section covers lies within the image. -/
theorem Within.le_size {kind : Section → Bool} (h : image.Within rva length kind) :
    rva + length ≤ image.size := by
  obtain ⟨s, hs, -, -, hend⟩ := h
  exact Nat.le_trans hend (image.fits s hs).2

/-- An address in an image is far from the largest machine word. -/
theorem add_lt_size (image : LoadedImage) {rva k : Nat} (h : rva ≤ image.size) (hk : k < 2 ^ 32) :
    rva + k < Usize.size := by
  have hsize := image.size_bounds.2
  have hmax : maxImageSize + 2 ^ 32 < Usize.size := by decide
  omega

/-- An address in an image is a machine word. -/
theorem lt_size {rva : Nat} (h : rva ≤ image.size) : rva < Usize.size :=
  image.add_lt_size (k := 0) h (by decide)

/-- The range is executable exactly when an executable section covers it. -/
theorem isExecutable_iff :
    image.isExecutable rva length = true ↔ image.Within rva length Section.isExecutable :=
  any_contains_iff _

/-- The range is data exactly when a section of data covers it. -/
theorem isReadableNonExecutable_iff :
    image.isReadableNonExecutable rva length = true ↔
      image.Within rva length Section.isReadableNonExecutable :=
  any_contains_iff _

/-- A section covers the range when the search for one of its kind succeeds. -/
theorem find_contains_iff (kind : Section → Bool) :
    (∃ s, (image.sections.find? fun s => s.contains rva length && kind s) = some s) ↔
      image.Within rva length kind := by
  rw [← any_contains_iff, List.any_eq_true, ← List.find?_isSome, Option.isSome_iff_exists]

/-- A pointer into the image. -/
theorem vaToRva_eq_some {address : UInt64} :
    image.vaToRva address = some rva ↔
      address.toNat = image.base.toNat + rva ∧ rva < image.size := by
  unfold vaToRva
  rw [Option.bind_eq_bind, Option.bind_eq_some_iff]
  constructor
  · rintro ⟨r, hr, h⟩
    -- an address below the base has no difference
    obtain ⟨rfl, hle⟩ := checkedSub_eq_some.mp hr
    split at h
    · next hlt =>
      obtain rfl := Option.some.inj h
      exact ⟨(Nat.add_sub_cancel' hle).symm, hlt⟩
    · exact nomatch h
  · rintro ⟨haddress, hlt⟩
    refine ⟨rva, checkedSub_eq_some.mpr ⟨?_, ?_⟩, if_pos hlt⟩
    · rw [haddress, Nat.add_sub_cancel_left]
    · rw [haddress]
      exact Nat.le_add_right _ _

/-- **Reading a section.** -/
theorem sectionBytes_eq_ok {s : Section} {bytes : List UInt8} :
    image.sectionBytes process s = .ok bytes ↔
      (s.isReadable = true ∧ process.rangeIsReadable (image.address s.rva) s.size = true) ∧
        bytes = image.content process s.rva s.size := by
  unfold sectionBytes
  rw [Except.bind_eq_ok]
  constructor
  · rintro ⟨_, hreadable, h⟩
    exact ⟨Except.require_eq_ok.mp hreadable, (Except.ok.inj h).symm⟩
  · rintro ⟨hreadable, rfl⟩
    exact ⟨⟨⟩, Except.require_eq_ok.mpr hreadable, rfl⟩

/-- **Reading bytes.** -/
theorem bytesAt_eq_ok {bytes : List UInt8} :
    image.bytesAt process rva length = .ok bytes ↔
      (image.Within rva length Section.isReadable ∧
          process.rangeIsReadable (image.address rva) length = true) ∧
        bytes = image.content process rva length := by
  unfold bytesAt
  rw [Except.bind_eq_ok]
  constructor
  -- the section that was found is only a proof that the range is covered
  · rintro ⟨s, hs, h⟩
    obtain ⟨_, hreadable, h⟩ := Except.bind_eq_ok.mp h
    have hwithin := (find_contains_iff _).mp ⟨s, Option.okOr_eq_ok.mp hs⟩
    exact ⟨⟨hwithin, Except.require_eq_ok.mp hreadable⟩, (Except.ok.inj h).symm⟩
  · rintro ⟨⟨hwithin, hreadable⟩, rfl⟩
    obtain ⟨s, hs⟩ := (find_contains_iff _).mpr hwithin
    refine ⟨s, Option.okOr_eq_ok.mpr hs, ?_⟩
    exact Except.bind_eq_ok.mpr ⟨⟨⟩, Except.require_eq_ok.mpr hreadable, rfl⟩

/-- **Reading an array.** -/
theorem arrayAt_eq_ok {n : Nat} {bytes : Vector UInt8 n} :
    image.arrayAt process rva n = .ok bytes ↔
      (image.Within rva n Section.isReadable ∧
          process.rangeIsReadable (image.address rva) n = true) ∧
        bytes.toList = image.content process rva n := by
  unfold arrayAt
  rw [Except.bind_eq_ok]
  constructor
  · rintro ⟨read, hread, h⟩
    obtain ⟨hreadable, rfl⟩ := bytesAt_eq_ok.mp hread
    split at h
    · next hlen =>
      obtain rfl := Except.ok.inj h
      exact ⟨hreadable, by simp [Vector.toList]⟩
    · exact nomatch h
  · rintro ⟨hreadable, hbytes⟩
    refine ⟨image.content process rva n, bytesAt_eq_ok.mpr ⟨hreadable, rfl⟩, ?_⟩
    have hlen : (image.content process rva n).length = n := ByteMemory.length_read _ _ _
    -- vectors with the same elements are equal
    rw [dif_pos hlen]
    refine congrArg Except.ok ?_
    rw [← Vector.toList_inj, hbytes]
    simp [Vector.toList]

/-- **Reading a pointer.** -/
theorem readUsize_eq_ok {pointer : UInt64} :
    image.readUsize process rva = .ok pointer ↔
      (image.Within rva 8 Section.isReadable ∧
          process.rangeIsReadable (image.address rva) 8 = true) ∧
        pointer = process.memory.readPointer (image.address rva) := by
  unfold readUsize
  rw [Except.bind_eq_ok]
  constructor
  · rintro ⟨bytes, hbytes, h⟩
    obtain ⟨hreadable, rfl⟩ := bytesAt_eq_ok.mp hbytes
    exact ⟨hreadable, (Except.ok.inj h).symm⟩
  · rintro ⟨hreadable, rfl⟩
    exact ⟨_, bytesAt_eq_ok.mpr ⟨hreadable, rfl⟩, rfl⟩

/-- **Reading a text.** A text that is read is in the image, with its terminator, and shorter
than the limit. -/
theorem holdsCString_of_ok {maximum : Nat} {text : String}
    (h : image.readAsciiCString process rva maximum = .ok text) :
    image.HoldsCString process rva text ∧ text.length < maximum := by
  unfold readAsciiCString at h
  -- each check of the reader, in its order
  obtain ⟨s, -, h⟩ := Except.bind_eq_ok.mp h
  obtain ⟨bytes, hbytes, h⟩ := Except.bind_eq_ok.mp h
  obtain ⟨length, hlength, h⟩ := Except.bind_eq_ok.mp h
  obtain ⟨_, hascii, h⟩ := Except.bind_eq_ok.mp h
  obtain rfl := Except.ok.inj h
  obtain ⟨-, rfl⟩ := bytesAt_eq_ok.mp hbytes
  have hascii := List.all_eq_true.mp (Except.require_eq_ok.mp hascii)
  obtain ⟨hlt, hzero, -⟩ :=
    List.findIdx?_eq_some_iff_getElem.mp (Option.okOr_eq_ok.mp hlength)
  -- the terminator is one of the bytes that were read
  have hread : length < min (s.rva + s.size - rva) maximum := by
    rwa [content, ByteMemory.length_read] at hlt
  have htake : (image.content process rva (min (s.rva + s.size - rva) maximum)).take length =
      image.content process rva length :=
    ByteMemory.take_read _ _ (Nat.le_of_lt hread)
  rw [htake] at hascii ⊢
  have hlen : (image.content process rva length).length = length := ByteMemory.length_read _ _ _
  constructor
  -- the byte after the text is the terminator
  · have hstep : image.content process rva (length + 1) = image.content process rva length ++
        [(image.content process rva (min (s.rva + s.size - rva) maximum))[length]] := by
      rw [← htake, List.take_append_getElem hlt]
      exact (ByteMemory.take_read _ _ hread).symm
    have htext : asciiBytes (asciiText (image.content process rva length)) =
        image.content process rva length :=
      asciiBytes_asciiText _ fun byte hbyte => of_decide_eq_true (hascii byte hbyte)
    rw [HoldsCString, length_asciiText, hlen]
    calc image.content process rva (length + 1)
        = image.content process rva length ++ [0] := by rw [hstep, eq_of_beq hzero]
      _ = asciiBytes (asciiText (image.content process rva length)) ++ [0] := by rw [htext]
  · rw [length_asciiText, hlen]
    exact Nat.lt_of_lt_of_le hread (Nat.min_le_right _ _)

/-! ### The headers -/

section Headers

variable (process : Process) (base : UInt64) (offset : Nat)

/-- `read_header_bytes`. -/
def readHeaderBytes (length : Nat) : Except String (List UInt8) := do
  Except.require (process.rangeIsReadable (base + UInt64.ofNat offset) length = true)
    (s!"main module PE header range 0x{hexUpper 0 offset}+0x{hexUpper 0 length} " ++
      "is not readable")
  return process.memory.read (base + UInt64.ofNat offset) length

/-- `read_header_u16`. -/
def readHeaderU16 : Except String Nat := do
  let bytes ← readHeaderBytes process base offset 2
  return ofLittleEndian bytes

/-- `read_header_u32`. -/
def readHeaderU32 : Except String Nat := do
  let bytes ← readHeaderBytes process base offset 4
  return ofLittleEndian bytes

/-- One entry of the section table; none when it maps nothing. -/
def readSection (imageSize : Nat) :
    Except String (Option { s : Section // s.Fits imageSize }) := do
  let nameBytes ← readHeaderBytes process base offset 8
  let name := fromUtf8Lossy (nameBytes.takeWhile (· != 0))
  let virtualSize ← readHeaderU32 process base (offset + 8)
  let rva ← readHeaderU32 process base (offset + 12)
  let rawSize ← readHeaderU32 process base (offset + 16)
  let characteristics ← readHeaderU32 process base (offset + 36)
  -- the larger of the two sizes is what may be read
  let mappedSize := max virtualSize rawSize
  if hmapped : mappedSize = 0 then
    return none
  else
    -- only what is inside the image becomes a section
    let inside ← Except.establish ((checkedAdd rva mappedSize).any (· ≤ imageSize) = true)
      s!"PE section {name} extends outside the loaded image"
    return some
      { val :=
          { name := name
            rva := rva
            size := mappedSize
            characteristics := UInt32.ofNat characteristics }
        property := by
          obtain ⟨finish, hfinish, hle⟩ := (Option.any_eq_true _ _).mp inside.down
          obtain ⟨rfl, -⟩ := checkedAdd_eq_some.mp hfinish
          exact ⟨Nat.pos_of_ne_zero hmapped, of_decide_eq_true hle⟩ }

end Headers

/-- `LoadedImage::main_module`. -/
def mainModule (process : Process) : Except String LoadedImage := do
  let base := process.mainModule
  Except.require (base ≠ 0) "GetModuleHandleW(NULL) failed"
  let mz ← readHeaderU16 process base 0
  Except.require (mz = 0x5A4D) "main module has no MZ signature"
  let nt ← readHeaderU32 process base 0x3C
  -- an offset this large is refused before it is followed
  Except.require (nt ≤ 1024 * 1024) "main module has no usable PE signature"
  let pe ← readHeaderU32 process base nt
  Except.require (pe = 0x00004550) "main module has no usable PE signature"
  let sectionCount ← readHeaderU16 process base (nt + 6)
  Except.require (sectionCount ≠ 0 ∧ sectionCount ≤ maxSectionCount)
    s!"main module has an invalid PE section count ({sectionCount})"
  let optionalSize ← readHeaderU16 process base (nt + 20)
  let optional := nt + 24
  Except.require (112 ≤ optionalSize) "main module is not a usable PE32+ image"
  let magic ← readHeaderU16 process base optional
  Except.require (magic = 0x20B) "main module is not a usable PE32+ image"
  let size ← readHeaderU32 process base (optional + 56)
  let headersSize ← readHeaderU32 process base (optional + 60)
  let bounds ← Except.establish
    ((4096 ≤ size ∧ size ≤ maxImageSize) ∧ headersSize ≠ 0 ∧ headersSize ≤ size)
    s!"main module has an invalid image size ({size})"
  -- the sums of 32-bit fields cannot wrap, and are checked all the same
  let sectionTable ← (checkedAdd optional optionalSize).okOr "PE section table offset overflow"
  let sectionTableEnd ← (checkedAdd sectionTable (sectionCount * 40)).okOr
    "PE section table size overflow"
  Except.require
    (sectionTableEnd ≤ headersSize ∧
      process.rangeIsReadable (base + UInt64.ofNat sectionTable) (sectionCount * 40) = true)
    "PE section table is outside readable image headers"
  -- the entries that map nothing are dropped
  let entries ← (List.range sectionCount).mapM fun index =>
    readSection process base (sectionTable + index * 40) size
  let sections := entries.reduceOption
  let executable ← Except.establish (∃ s ∈ sections, s.1.isExecutable = true)
    "main module has no executable PE sections"
  return {
    base := base
    size := size
    sections := sections.map Subtype.val
    size_bounds := bounds.down.1
    fits := by
      intro s hs
      obtain ⟨s, -, rfl⟩ := List.mem_map.mp hs
      exact s.2
    executable := by
      obtain ⟨s, hs, hexecutable⟩ := executable.down
      exact ⟨s.1, List.mem_map_of_mem hs, hexecutable⟩ }

/-- The image is the module that the loader mapped. -/
theorem base_mainModule (process : Process) :
    (mainModule process).Ensures fun image => image.base = process.mainModule := by
  unfold mainModule
  -- only the last step builds an image
  repeat refine Except.Ensures.bind fun _ => ?_
  exact Except.Ensures.pure rfl

end LoadedImage
end GameCompat
end WindowedHdr
