import WindowedHdr.Library.ByteMemory

/-!
# Jumps and trampolines

The byte strings that the inline hooks write: the 14-byte absolute jump that replaces a
prologue, and the trampolines that run the replaced prologue and return behind it.
-/

namespace WindowedHdr
namespace GameHdr

/-- `ABSOLUTE_JUMP_LENGTH`. -/
def absoluteJumpLength : Nat := 14

/-- `HDR_COMMON_AVAILABILITY_TRAMPOLINE_LENGTH`. -/
def hdrCommonAvailabilityTrampolineLength : Nat := 34

/-- `absolute_jump`: `jmp qword ptr [rip+0]`, followed by the destination. -/
def absoluteJump (destination : UInt64) : List UInt8 :=
  [0xFF, 0x25, 0, 0, 0, 0] ++ toLittleEndian 8 destination.toNat

/-- The jump is as long as the prologue that it replaces. -/
@[simp] theorem length_absoluteJump (destination : UInt64) :
    (absoluteJump destination).length = absoluteJumpLength := by
  simp [absoluteJump, absoluteJumpLength]

/-- `build_availability_trampoline`: the prologue with its security-cookie load made
absolute, and the jump behind it. -/
def buildAvailabilityTrampoline (securityCookieAddress returnAddress : UInt64) : List UInt8 :=
  [0x48, 0x83, 0xEC, 0x48] ++
  [0x48, 0xB8] ++ toLittleEndian 8 securityCookieAddress.toNat ++
  [0x48, 0x8B, 0x00] ++
  [0x48, 0x33, 0xC4] ++
  absoluteJump returnAddress

/-- The trampoline has the length that is allocated for it. -/
@[simp] theorem length_buildAvailabilityTrampoline (cookie returnAddress : UInt64) :
    (buildAvailabilityTrampoline cookie returnAddress).length =
      hdrCommonAvailabilityTrampolineLength := by
  simp [buildAvailabilityTrampoline, absoluteJumpLength, hdrCommonAvailabilityTrampolineLength]

/-- The trampoline of an inline hook: the replaced prologue, and the jump behind it. -/
def buildInlineTrampoline (expectedPrologue : Vector UInt8 14) (returnAddress : UInt64) :
    List UInt8 :=
  expectedPrologue.toList ++ absoluteJump returnAddress

end GameHdr
end WindowedHdr
