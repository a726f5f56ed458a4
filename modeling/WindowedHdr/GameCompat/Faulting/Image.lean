import WindowedHdr.GameCompat.LoadedImage
import WindowedHdr.Library.ByteAccess

/-!
# The loaded main module, with the operations of the machine

`LoadedImage` computes with natural numbers, and its readers return what the memory holds. Here
the same functions are written with the operations of the source: a sum, a difference or a
product that is no machine word faults, and so does a slice out of range, a conversion that is
expected to succeed and does not, and a read of memory outside of the image or that was not found
readable just before.

An `Image` is what the source has after `main_module`, without a promise about its sections.
The two layers agree: `mainModule_eq` says that `main_module` builds the image that the other
layer promises everything of, and on such an image every reader is the one of the other layer
(`bytesAt_eq`, `readUsize_eq`, `readAsciiCString_eq`). So none of them faults.

The arithmetic that is bounded is of two kinds. Offsets into a section are bounded by the
section, since they were compared with its size; addresses are bounded because the whole image
was found to lie in the address space when its size was read. A length that does not match is an
error in the source and no fault, and `arrayAt_of_bytesAt` says that it does not occur: the
bytes that a reader returns are as many as were asked for.
-/

namespace WindowedHdr
namespace GameCompat
namespace Faulting

open Usize

/-- `LoadedImage`, of which nothing is promised. -/
structure Image where
  base : UInt64
  size : Nat
  sections : List Section
  deriving DecidableEq

namespace Image

variable (process : Process) (image : Image) (rva length : Nat)

def executableSections : List Section := image.sections.filter Section.isExecutable

def isExecutable : Bool :=
  image.sections.any fun s => s.contains rva length && s.isExecutable

def isReadableNonExecutable : Bool :=
  image.sections.any fun s => s.contains rva length && s.isReadableNonExecutable

/-- `va_to_rva`. -/
def vaToRva (address : UInt64) : Option Nat := do
  let rva ← checkedSub address.toNat image.base.toNat
  if rva < image.size then some rva else none

/-- `section_name_for`. -/
def sectionNameFor : Except String String :=
  ((image.sections.find? fun s => s.contains rva length).map Section.name).okOr
    s!"RVA 0x{hexUpper 8 rva} is outside PE sections"

/-! ### Memory -/

/-- `base.add(rva)`, which may not leave the image. -/
def pointer : Except (Stop String) UInt64 :=
  if rva ≤ image.size then .ok (image.base + UInt64.ofNat rva) else .error .fault

/-- `from_raw_parts(base.add(rva), length)`, of bytes of the image that were found readable. -/
def load : Except (Stop String) (List UInt8) :=
  let start := image.base + UInt64.ofNat rva
  if rva + length ≤ image.size ∧ process.rangeIsReadable start length = true then
    .ok (process.memory.read start length)
  else
    .error .fault

/-! ### Readers -/

/-- `section_bytes`. -/
def sectionBytes (s : Section) : Except (Stop String) (List UInt8) := do
  let message := s!"PE section {s.name} is not fully readable at runtime"
  -- the address is formed only for a section that is readable
  (Except.require (s.isReadable = true) message).guarded
  let start ← image.pointer s.rva
  (Except.require (process.rangeIsReadable start s.size = true) message).guarded
  image.load process s.rva s.size

/-- `bytes_at`. -/
def bytesAt : Except (Stop String) (List UInt8) := do
  let _ ← ((image.sections.find? fun s => s.contains rva length && s.isReadable).okOr
    s!"RVA 0x{hexUpper 8 rva}+0x{hexUpper 0 length} is outside readable PE sections").guarded
  let start ← image.pointer rva
  (Except.require (process.rangeIsReadable start length = true)
    s!"RVA 0x{hexUpper 8 rva}+0x{hexUpper 0 length} is not readable at runtime").guarded
  image.load process rva length

/-- `array_at`. -/
def arrayAt (n : Nat) : Except (Stop String) (Vector UInt8 n) := do
  let bytes ← image.bytesAt process rva n
  if h : bytes.length = n then
    return ⟨bytes.toArray, h⟩
  else
    Except.fail "fixed-size PE read failed"

/-- `read_usize`. -/
def readUsize : Except (Stop String) UInt64 := do
  let bytes ← image.bytesAt process rva 8
  let word ← Except.expect (Bytes.toArray bytes 8)
  return UInt64.ofNat (ofLittleEndian word)

/-- `read_ascii_c_string`. -/
def readAsciiCString (maximum : Nat) : Except (Stop String) String := do
  let s ← ((image.sections.find? fun s => s.contains rva 1 && s.isReadable).okOr
    s!"ASCII string RVA 0x{hexUpper 8 rva} is outside readable data").guarded
  -- `section.rva + section.size - rva`, neither of which is checked
  let sectionEnd ← add s.rva s.size
  let rest ← sub sectionEnd rva
  let bytes ← image.bytesAt process rva (min rest maximum)
  let length ← ((bytes.findIdx? (· == 0)).okOr
    s!"ASCII string at RVA 0x{hexUpper 8 rva} is not terminated").guarded
  let text ← Bytes.range bytes 0 length
  (Except.require (text.all (· < 128) = true)
    s!"string at RVA 0x{hexUpper 8 rva} is not ASCII").guarded
  Except.expect (fromUtf8 text)

/-! ### The readers do not fault -/

/-- An image as the source has it. -/
def ofLoaded (image : LoadedImage) : Image := ⟨image.base, image.size, image.sections⟩

variable {process : Process} {image : LoadedImage} {rva length : Nat}

/-- Both layers ask the same sections. -/
@[simp] theorem isReadableNonExecutable_ofLoaded :
    (ofLoaded image).isReadableNonExecutable rva length =
      image.isReadableNonExecutable rva length := rfl

/-- Both layers translate addresses alike. -/
@[simp] theorem vaToRva_ofLoaded (address : UInt64) :
    (ofLoaded image).vaToRva address = image.vaToRva address := rfl

/-- An address within the image does not fault. -/
theorem pointer_eq_ok (h : rva ≤ image.size) :
    (ofLoaded image).pointer rva = .ok (image.address rva) := if_pos h

/-- Bytes within the image that are readable do not fault. -/
theorem load_eq_ok (h : rva + length ≤ image.size)
    (hreadable : process.rangeIsReadable (image.address rva) length = true) :
    (ofLoaded image).load process rva length = .ok (image.content process rva length) :=
  if_pos ⟨h, hreadable⟩

/-- **A section.** It lies within the image, so forming its address and reading it do not fault. -/
theorem sectionBytes_eq {s : Section} (hs : s ∈ image.sections) :
    (ofLoaded image).sectionBytes process s = (image.sectionBytes process s).guarded := by
  have hend := (image.fits s hs).2
  unfold sectionBytes LoadedImage.sectionBytes
  -- the other layer asks both questions at once
  by_cases hreadable : s.isReadable = true
  · refine Except.bind_of_eq_ok (a := ⟨⟩) ?_ ?_
    · rw [Except.require, if_pos hreadable]
      rfl
    · refine Except.bind_of_eq_ok (pointer_eq_ok (by omega)) ?_
      simp only [hreadable, true_and]
      refine Except.bind_eq_guarded rfl fun _ hruntime => ?_
      rw [load_eq_ok hend (Except.require_eq_ok.mp hruntime)]
      rfl
  · dsimp only
    unfold Except.require
    rw [if_neg hreadable, if_neg fun h => hreadable h.1]
    rfl

/-- **Bytes.** The section that was found keeps the read within the image. -/
theorem bytesAt_eq :
    (ofLoaded image).bytesAt process rva length =
      (image.bytesAt process rva length).guarded := by
  unfold bytesAt LoadedImage.bytesAt
  refine Except.bind_eq_guarded rfl fun s hs => ?_
  have hwithin : image.Within rva length Section.isReadable :=
    (LoadedImage.find_contains_iff _).mp ⟨s, Option.okOr_eq_ok.mp hs⟩
  have hend := hwithin.le_size
  refine Except.bind_of_eq_ok (pointer_eq_ok (by omega)) ?_
  -- what is read was found readable just before
  refine Except.bind_eq_guarded rfl fun _ hreadable => ?_
  rw [load_eq_ok hend (Except.require_eq_ok.mp hreadable)]
  rfl

/-- A read of bytes has the length that was asked for. -/
theorem length_of_bytesAt {bytes : List UInt8}
    (h : image.bytesAt process rva length = .ok bytes) : bytes.length = length := by
  obtain ⟨-, rfl⟩ := LoadedImage.bytesAt_eq_ok.mp h
  exact ByteMemory.length_read _ _ _

/-- **An array.** It ends as the reader of the other layer. -/
theorem arrayAt_eq (n : Nat) :
    (ofLoaded image).arrayAt process rva n = (image.arrayAt process rva n).guarded := by
  unfold arrayAt LoadedImage.arrayAt
  refine Except.bind_eq_guarded bytesAt_eq fun bytes hbytes => ?_
  rw [dif_pos (length_of_bytesAt hbytes), dif_pos (length_of_bytesAt hbytes)]
  rfl

/-- **The conversion to an array never fails**: what was read has the length of the array. -/
theorem arrayAt_of_bytesAt {n : Nat} {bytes : List UInt8}
    (h : (ofLoaded image).bytesAt process rva n = .ok bytes) :
    ∃ array : Vector UInt8 n, array.toList = bytes ∧
      (ofLoaded image).arrayAt process rva n = .ok array := by
  have hread : image.bytesAt process rva n = .ok bytes :=
    Except.guarded_eq_ok.mp (bytesAt_eq.symm.trans h)
  have hlen := length_of_bytesAt hread
  refine ⟨⟨bytes.toArray, hlen⟩, rfl, ?_⟩
  unfold arrayAt
  exact Except.bind_of_eq_ok h (dif_pos hlen)

/-- **A pointer.** -/
theorem readUsize_eq :
    (ofLoaded image).readUsize process rva = (image.readUsize process rva).guarded := by
  unfold readUsize LoadedImage.readUsize
  refine Except.bind_eq_guarded bytesAt_eq fun bytes hbytes => ?_
  rw [Bytes.toArray_eq_some (length_of_bytesAt hbytes)]
  rfl

/-- **A text.** The text begins in the section that was found, so the bytes from there to its end
can be counted; and what is ASCII is a text. -/
theorem readAsciiCString_eq (maximum : Nat) :
    (ofLoaded image).readAsciiCString process rva maximum =
      (image.readAsciiCString process rva maximum).guarded := by
  unfold readAsciiCString LoadedImage.readAsciiCString
  refine Except.bind_eq_guarded rfl fun s hs => ?_
  have hfound := Option.okOr_eq_ok.mp hs
  have hmem : s ∈ image.sections := List.mem_of_find?_eq_some hfound
  have hcontains : (s.contains rva 1 && s.isReadable) = true := by
    simpa only using List.find?_some hfound
  have hcovers : s.Covers rva 1 :=
    (LoadedImage.contains_iff hmem).mp (Bool.and_eq_true_iff.mp hcontains).1
  have hstart := hcovers.2
  -- the end of a section is no further than that of the image
  have hword : s.rva + s.size < Usize.size :=
    Nat.lt_of_le_of_lt ((image.fits s hmem).2.trans image.size_bounds.2) (by decide)
  refine Except.bind_of_eq_ok (add_eq_ok hword) ?_
  refine Except.bind_of_eq_ok (sub_eq_ok (by omega)) ?_
  refine Except.bind_eq_guarded bytesAt_eq fun bytes _ => ?_
  refine Except.bind_eq_guarded rfl fun length hlength => ?_
  -- the terminator is one of the bytes that were read
  obtain ⟨hlt, -⟩ := List.findIdx?_eq_some_iff_getElem.mp (Option.okOr_eq_ok.mp hlength)
  refine Except.bind_of_eq_ok (Bytes.range_eq_ok (Nat.zero_le _) (Nat.le_of_lt hlt)) ?_
  have hslice : slice bytes 0 length = bytes.take length := by
    rw [slice, List.drop_zero, Nat.sub_zero]
  rw [hslice]
  refine Except.bind_eq_guarded rfl fun _ hascii => ?_
  have hascii := List.all_eq_true.mp (Except.require_eq_ok.mp hascii)
  rw [fromUtf8_of_ascii _ fun byte hbyte => of_decide_eq_true (hascii byte hbyte)]
  rfl

end Image
end Faulting
end GameCompat
end WindowedHdr
