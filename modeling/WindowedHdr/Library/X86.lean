import Mathlib.Logic.Function.Basic
import WindowedHdr.Library.ByteMemory

/-!
# A fragment of x86-64

The six instructions that a relocated function prologue is made of, with their encodings and
their effects on the registers, the status flags, the memory and the instruction pointer. The
code is in the memory like everything else: `Cpu.step` decodes what it finds at the
instruction pointer.

`xor` leaves the auxiliary-carry flag undefined. The value that a processor gives it is a
parameter here, a function of the flags before the instruction and of its operands.

A `Chunk` is an instruction together with bytes that decode to it, whatever follows them, and a
block of code is a list of chunks. `Cpu.run_block` runs a block: when the memory holds the
bytes of its chunks at the instruction pointer, and no chunk but the last one jumps, as many
steps as there are chunks have the effects of the chunks, one after the other.

The decoder looks at the opcode bytes of the six encodings; bytes that begin with none of them
have no meaning here, and a run that comes to them has no result.
-/

namespace X86

open ByteMemory

/-! ### The processor -/

/-- The general-purpose registers. -/
inductive Register
  | rax | rcx | rdx | rbx | rsp | rbp | rsi | rdi
  | r8 | r9 | r10 | r11 | r12 | r13 | r14 | r15
  deriving DecidableEq

/-- The status flags. -/
structure Flags where
  carry : Bool
  parity : Bool
  auxiliary : Bool
  zero : Bool
  sign : Bool
  overflow : Bool
  deriving DecidableEq

/-- The state of one processor. -/
structure Cpu where
  registers : Register → UInt64
  flags : Flags
  memory : ByteMemory
  rip : UInt64

/-- Overwrite one register. -/
def Cpu.setRegister (s : Cpu) (r : Register) (value : UInt64) : Cpu :=
  { s with registers := Function.update s.registers r value }

/-! ### Instructions -/

/-- The instructions of the fragment. A displacement is relative to the next instruction. -/
inductive Instruction
  /-- `sub rsp, imm8`; the operand is sign-extended. -/
  | subRsp (immediate : UInt8)
  /-- `mov rax, [rip + disp32]`. -/
  | movRaxRelative (displacement : Int)
  /-- `mov rax, imm64`. -/
  | movRaxImmediate (value : UInt64)
  /-- `mov rax, [rax]`. -/
  | movRaxAtRax
  /-- `xor rax, rsp`. -/
  | xorRaxRsp
  /-- `jmp qword ptr [rip + disp32]`. -/
  | jmpRelative (displacement : Int)
  deriving DecidableEq

/-- The instruction that the bytes begin with, and its length. -/
def decode (bytes : List UInt8) : Option (Instruction × Nat) :=
  if bytes.take 3 = [0x48, 0x83, 0xEC] then
    some (.subRsp (bytes.getD 3 0), 4)
  else if bytes.take 3 = [0x48, 0x8B, 0x05] then
    some (.movRaxRelative (signedOfLittleEndian (slice bytes 3 7)), 7)
  else if bytes.take 2 = [0x48, 0xB8] then
    some (.movRaxImmediate (.ofNat (ofLittleEndian (slice bytes 2 10))), 10)
  else if bytes.take 3 = [0x48, 0x8B, 0x00] then
    some (.movRaxAtRax, 3)
  else if bytes.take 3 = [0x48, 0x33, 0xC4] then
    some (.xorRaxRsp, 3)
  else if bytes.take 2 = [0xFF, 0x25] then
    some (.jmpRelative (signedOfLittleEndian (slice bytes 2 6)), 6)
  else
    none

/-- The low byte has an even number of ones. -/
def evenParity (result : UInt64) : Bool :=
  (List.range 8).countP (fun i => result.toNat.testBit i) % 2 == 0

/-- The top bit. -/
def signBit (result : UInt64) : Bool := result.toNat.testBit 63

/-- The flags after `a - b`. -/
def Flags.ofSub (a b : UInt64) : Flags where
  carry := a < b
  parity := evenParity (a - b)
  auxiliary := a.toNat % 16 < b.toNat % 16
  zero := a - b == 0
  sign := signBit (a - b)
  -- the operands differ in sign, and the difference has that of the subtrahend
  overflow := signBit ((a ^^^ b) &&& (a ^^^ (a - b)))

/-- The flags after a bitwise operation with this result. -/
def Flags.ofLogic (auxiliary : Bool) (result : UInt64) : Flags where
  carry := false
  parity := evenParity result
  auxiliary := auxiliary
  zero := result == 0
  sign := signBit result
  overflow := false

/-- What `xor` leaves in the auxiliary-carry flag, given the flags before it and its
operands. -/
abbrev XorAuxiliary : Type := Flags → UInt64 → UInt64 → Bool

variable (auxiliary : XorAuxiliary)

namespace Cpu

/-- The effect of an instruction that ends at `next`. -/
def execute (s : Cpu) (next : UInt64) : Instruction → Cpu
  | .subRsp immediate =>
    let a := s.registers .rsp
    let b := UInt64.ofInt (signedOfLittleEndian [immediate])
    { s.setRegister .rsp (a - b) with flags := .ofSub a b, rip := next }
  | .movRaxRelative displacement =>
    -- the displacement counts from the end of the instruction
    { s.setRegister .rax (s.memory.readPointer (next + .ofInt displacement)) with rip := next }
  | .movRaxImmediate value => { s.setRegister .rax value with rip := next }
  | .movRaxAtRax =>
    { s.setRegister .rax (s.memory.readPointer (s.registers .rax)) with rip := next }
  | .xorRaxRsp =>
    let a := s.registers .rax
    let b := s.registers .rsp
    { s.setRegister .rax (a ^^^ b) with
      flags := .ofLogic (auxiliary s.flags a b) (a ^^^ b)
      rip := next }
  | .jmpRelative displacement =>
    { s with rip := s.memory.readPointer (next + .ofInt displacement) }

/-- Fetch, decode and execute one instruction, of fifteen bytes at most. -/
def step (s : Cpu) : Option Cpu :=
  (decode (s.memory.read s.rip 15)).map fun decoded =>
    s.execute auxiliary (s.rip + .ofNat decoded.2) decoded.1

/-- Execute `count` instructions. -/
def run : Nat → Cpu → Option Cpu
  | 0, s => some s
  | count + 1, s => (s.step auxiliary).bind (run count)

end Cpu

/-- The instruction goes on to the next one. -/
def Instruction.Falls : Instruction → Prop
  | .jmpRelative _ => False
  | _ => True

section Execute

variable {auxiliary} (s : Cpu) (next : UInt64) (i : Instruction)

/-- No instruction of the fragment writes to the memory. -/
@[simp] theorem Cpu.execute_memory : (s.execute auxiliary next i).memory = s.memory := by
  cases i <;> simp only [execute, setRegister]

/-- All but a jump go on to the next instruction. -/
theorem Cpu.execute_rip (h : i.Falls) : (s.execute auxiliary next i).rip = next := by
  cases i with
  | jmpRelative displacement => exact absurd h id
  | _ => simp only [execute]

end Execute

/-! ### Blocks -/

/-- An instruction with bytes that encode it. -/
structure Chunk where
  bytes : List UInt8
  instruction : Instruction
  decodes : ∀ rest, decode (bytes ++ rest) = some (instruction, bytes.length)
  short : bytes.length ≤ 15

namespace Chunk

/-- The operand of an instruction, behind its first bytes. -/
theorem slice_operand (opcode operand rest : List UInt8) {start finish : Nat}
    (hstart : opcode.length = start) (hfinish : start + operand.length = finish) :
    slice (opcode ++ operand ++ rest) start finish = operand := by
  subst hstart hfinish
  rw [slice, List.append_assoc, List.drop_left, Nat.add_sub_cancel_left, List.take_left]

def subRsp (immediate : UInt8) : Chunk where
  bytes := [0x48, 0x83, 0xEC, immediate]
  instruction := .subRsp immediate
  decodes _ := rfl
  short := by simp

def movRaxRelative (displacement : List UInt8) (h : displacement.length = 4) : Chunk where
  bytes := [0x48, 0x8B, 0x05] ++ displacement
  instruction := .movRaxRelative (signedOfLittleEndian displacement)
  decodes rest := by
    -- the operand is behind the three bytes of the opcode
    have hoperand : slice ([0x48, 0x8B, 0x05] ++ displacement ++ rest) 3 7 = displacement :=
      slice_operand _ _ _ rfl (by rw [h])
    rw [List.length_append, h, decode, if_neg (by simp), if_pos (by simp), hoperand]
    rfl
  short := by simp [h]

def movRaxImmediate (value : UInt64) : Chunk where
  bytes := [0x48, 0xB8] ++ toLittleEndian 8 value.toNat
  instruction := .movRaxImmediate value
  decodes rest := by
    have hoperand : slice ([0x48, 0xB8] ++ toLittleEndian 8 value.toNat ++ rest) 2 10 =
        toLittleEndian 8 value.toNat :=
      slice_operand _ _ _ rfl (by rw [length_toLittleEndian])
    have hvalue : ofLittleEndian (toLittleEndian 8 value.toNat) = value.toNat := by
      rw [ofLittleEndian_toLittleEndian]
      exact Nat.mod_eq_of_lt value.toNat_lt
    rw [List.length_append, length_toLittleEndian, decode, if_neg (by simp), if_neg (by simp),
      if_pos (by simp), hoperand, hvalue, UInt64.ofNat_toNat]
    rfl
  short := by simp

def movRaxAtRax : Chunk where
  bytes := [0x48, 0x8B, 0x00]
  instruction := .movRaxAtRax
  decodes _ := rfl
  short := by simp

def xorRaxRsp : Chunk where
  bytes := [0x48, 0x33, 0xC4]
  instruction := .xorRaxRsp
  decodes _ := rfl
  short := by simp

def jmpRelative (displacement : List UInt8) (h : displacement.length = 4) : Chunk where
  bytes := [0xFF, 0x25] ++ displacement
  instruction := .jmpRelative (signedOfLittleEndian displacement)
  decodes rest := by
    have hoperand : slice ([0xFF, 0x25] ++ displacement ++ rest) 2 6 = displacement :=
      slice_operand _ _ _ rfl (by rw [h])
    rw [List.length_append, h, decode, if_neg (by simp), if_neg (by simp), if_neg (by simp),
      if_neg (by simp), if_neg (by simp), if_pos (by simp), hoperand]
    rfl
  short := by simp [h]

end Chunk

/-- The bytes of a block. -/
def blockBytes : List Chunk → List UInt8
  | [] => []
  | c :: block => c.bytes ++ blockBytes block

namespace Cpu

variable {auxiliary : XorAuxiliary}

/-- The effects of a block, one chunk after the other. -/
def executeBlock (auxiliary : XorAuxiliary) : List Chunk → Cpu → Cpu
  | [], s => s
  | c :: block, s =>
    executeBlock auxiliary block (s.execute auxiliary (s.rip + .ofNat c.bytes.length) c.instruction)

/-- One chunk. -/
theorem step_chunk (c : Chunk) {s : Cpu}
    (hcode : s.memory.read s.rip c.bytes.length = c.bytes) :
    s.step auxiliary =
      some (s.execute auxiliary (s.rip + .ofNat c.bytes.length) c.instruction) := by
  -- the chunk is what the fetched bytes begin with
  have hfetch : s.memory.read s.rip 15 =
      c.bytes ++ (s.memory.read s.rip 15).drop c.bytes.length := by
    conv_lhs => rw [← List.take_append_drop c.bytes.length (s.memory.read s.rip 15)]
    rw [take_read _ _ c.short, hcode]
  -- what follows the chunk does not change what it decodes to
  rw [step, hfetch, c.decodes]
  rfl

/-- **Running a block.** -/
theorem run_block (block : List Chunk) {s : Cpu}
    (hcode : s.memory.read s.rip (blockBytes block).length = blockBytes block)
    (hfalls : ∀ c ∈ block.dropLast, c.instruction.Falls) :
    s.run auxiliary block.length = some (s.executeBlock auxiliary block) := by
  induction block generalizing s with
  | nil => rfl
  | cons c block ih =>
    rw [blockBytes, List.length_append] at hcode
    -- the code of the block is that of its first chunk, and of the rest behind it
    obtain ⟨hhead, htail⟩ := read_eq_append _ _ rfl hcode
    rw [List.length_cons, run, step_chunk c hhead, Option.bind_some, executeBlock]
    cases block with
    | nil => rfl
    | cons c' block =>
      -- the first chunk goes on to the second one, and leaves the code in place
      have hc : c.instruction.Falls := hfalls c (by simp)
      refine ih ?_ fun d hd => hfalls d (by simp [hd])
      rw [execute_memory, execute_rip _ _ _ hc]
      exact htail

end Cpu

end X86
