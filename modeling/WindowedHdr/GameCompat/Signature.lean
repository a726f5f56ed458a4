import WindowedHdr.Library.ByteMemory
import WindowedHdr.Library.Fallible

/-!
# Byte signatures

A `Signature` is a run of code with holes: the segments are the bytes that every build has, and
what lies between them are displacements and bytes that may differ. A signature carries that
its segments lie within its length, so comparing it with enough bytes never leaves them, and
`matchesBytes_read` says what a match is: every byte of every segment is in its place.

The three signatures recognise the routines of the game that are patched.
-/

namespace WindowedHdr
namespace GameCompat

open Usize

/-- Bytes at an offset of the signature. -/
structure SignatureSegment where
  offset : Nat
  bytes : List UInt8
  deriving DecidableEq

/-- A run of code, known in part. -/
structure Signature where
  length : Nat
  segments : List SignatureSegment
  short : length < Usize.size
  inBounds : ∀ segment ∈ segments, segment.offset + segment.bytes.length ≤ length

/-- `Signature::matches`. -/
def Signature.matchesBytes (s : Signature) (bytes : List UInt8) : Bool :=
  s.length ≤ bytes.length && s.segments.all fun segment =>
    -- the end of a segment is checked as the source does; it never fails
    (checkedAdd segment.offset segment.bytes.length).any fun finish =>
      finish ≤ s.length && slice bytes segment.offset finish == segment.bytes

/-- The bytes given by `byteAt`, from the signature's start on, are those of its segments. -/
def Signature.Describes (s : Signature) (byteAt : Nat → UInt8) : Prop :=
  ∀ segment ∈ s.segments, ∀ k (hk : k < segment.bytes.length),
    byteAt (segment.offset + k) = segment.bytes[k]

/-- What one segment asks for. -/
theorem Signature.segment_matches_read (s : Signature) (m : ByteMemory) (address : UInt64)
    {length : Nat} (hlength : s.length ≤ length) (segment : SignatureSegment)
    (hmem : segment ∈ s.segments) :
    ((checkedAdd segment.offset segment.bytes.length).any fun finish =>
        finish ≤ s.length && slice (m.read address length) segment.offset finish ==
          segment.bytes) = true ↔
      ∀ k (hk : k < segment.bytes.length),
        m (address + UInt64.ofNat (segment.offset + k)) = segment.bytes[k] := by
  -- a segment lies within the signature, so neither check of its bounds fails
  have hbound := s.inBounds segment hmem
  have hfinish : checkedAdd segment.offset segment.bytes.length =
      some (segment.offset + segment.bytes.length) :=
    checkedAdd_eq_some.mpr ⟨rfl, Nat.lt_of_le_of_lt hbound s.short⟩
  rw [hfinish, Option.any_some, decide_eq_true hbound, Bool.true_and, beq_iff_eq,
    ByteMemory.slice_read _ _ (hbound.trans hlength), Nat.add_sub_cancel_left]
  constructor
  · intro h k hk
    have hread : k < (m.read (address + UInt64.ofNat segment.offset)
        segment.bytes.length).length := by simpa using hk
    -- the byte of the run is that of the memory
    calc m (address + UInt64.ofNat (segment.offset + k))
        = m (address + UInt64.ofNat segment.offset + UInt64.ofNat k) := by
          rw [UInt64.ofNat_add, UInt64.add_assoc]
      _ = (m.read (address + UInt64.ofNat segment.offset) segment.bytes.length)[k] :=
          (ByteMemory.getElem_read _ _ hread).symm
      _ = segment.bytes[k] := by simp only [h]
  · intro h
    -- equal bytes at every place of the segment are an equal slice
    apply List.ext_getElem
    · simp
    · intro k h₁ h₂
      rw [ByteMemory.getElem_read, UInt64.add_assoc, ← UInt64.ofNat_add]
      exact h k h₂

/-- **A match.** A run of memory matches exactly when the signature describes its bytes. -/
theorem Signature.matchesBytes_read (s : Signature) (m : ByteMemory) (address : UInt64)
    {length : Nat} (hlength : s.length ≤ length) :
    s.matchesBytes (m.read address length) ↔
      s.Describes fun k => m (address + UInt64.ofNat k) := by
  unfold matchesBytes Describes
  rw [ByteMemory.length_read, decide_eq_true hlength, Bool.true_and, List.all_eq_true]
  exact forall₂_congr fun segment hmem =>
    s.segment_matches_read m address hlength segment hmem

/-- `AVAILABILITY_SIGNATURE`: whether the game considers HDR available. The holes are the
displacements of the security cookie and of four calls. -/
def availabilitySignature : Signature where
  length := 101
  segments :=
    [⟨0, [0x48, 0x83, 0xEC, 0x48, 0x48, 0x8B, 0x05]⟩,
     ⟨11, [0x48, 0x33, 0xC4, 0x48, 0x89, 0x44, 0x24, 0x30, 0xE8]⟩,
     ⟨24, [0x84, 0xC0, 0x74, 0x35, 0x33, 0xC0, 0x48, 0x8D, 0x4C, 0x24, 0x20, 0xB2, 0x01, 0x48,
       0x89, 0x44, 0x24, 0x20, 0x89, 0x44, 0x24, 0x28, 0xE8]⟩,
     ⟨51, [0x84, 0xC0, 0x75, 0x1A, 0x38, 0x44, 0x24, 0x20, 0x74, 0x14, 0xB0, 0x01, 0x48, 0x8B,
       0x4C, 0x24, 0x30, 0x48, 0x33, 0xCC, 0xE8]⟩,
     ⟨76, [0x48, 0x83, 0xC4, 0x48, 0xC3, 0x32, 0xC0, 0x48, 0x8B, 0x4C, 0x24, 0x30, 0x48, 0x33,
       0xCC, 0xE8]⟩,
     ⟨96, [0x48, 0x83, 0xC4, 0x48, 0xC3]⟩]
  short := by decide
  inBounds := by decide

/-- `GRAPHICS_CONFIG_SIGNATURE`: the routine that copies a graphics configuration. -/
def graphicsConfigSignature : Signature where
  length := 259
  segments :=
    [⟨0, [0x40, 0x53, 0x48, 0x83, 0xEC, 0x20, 0x0F, 0xB6, 0x02, 0x48, 0x8B, 0xDA, 0x88, 0x01,
       0x0F, 0xB6, 0x42, 0x01, 0x88, 0x41, 0x01, 0x0F, 0xB6, 0x42, 0x02, 0x88, 0x41, 0x02,
       0x0F, 0xB6, 0x42, 0x03, 0x88, 0x41, 0x03]⟩,
     ⟨196, [0x0F, 0xB6, 0x42, 0x15, 0x88, 0x41, 0x1B]⟩,
     ⟨245, [0x0F, 0xB6, 0x42, 0x60, 0x88, 0x41, 0x22, 0x0F, 0xB6, 0x42, 0x61, 0x88, 0x41,
       0x23]⟩]
  short := by decide
  inBounds := by decide

/-- `BACKEND_ACTUAL_SIGNATURE`: the query for the HDR state the backend really has. -/
def backendActualSignature : Signature where
  length := 76
  segments :=
    [⟨0, [0x40, 0x53, 0x57, 0x48, 0x83, 0xEC, 0x28, 0xF6, 0x41, 0x32, 0x04, 0x48, 0x8B, 0xFA,
       0x48, 0x8B, 0xD9, 0x75, 0x09, 0x32, 0xC0, 0x48, 0x83, 0xC4, 0x28, 0x5F, 0x5B, 0xC3]⟩,
     ⟨63, [0x48, 0x8B, 0x01, 0xFF, 0x50, 0x58]⟩,
     ⟨69, [0x85, 0xC0, 0x74, 0x0E, 0x8B, 0xC8, 0xE8]⟩]
  short := by decide
  inBounds := by decide

end GameCompat
end WindowedHdr
