import WindowedHdr.GameCompat.Exactness
import WindowedHdr.GameHdr.Install
import WindowedHdr.Library.X86

/-!
# Running the availability trampoline

The prologue of the availability routine loads the security cookie relative to the instruction
pointer, so it cannot be copied. The trampoline loads the cookie from its absolute address
instead: `mov rax, imm64` and `mov rax, [rax]` for `mov rax, [rip + disp32]`. The address is
computed twice, from relative addresses by the resolver and from absolute ones by the
installer, and the two agree whenever the image does not wrap around the end of the address
space (`resolvedCookie_eq`).

`runs_as_prologue` compares the two codes on a processor: they leave the same registers and
flags, do not write to the memory, and end behind the prologue.

Both codes are blocks of instructions with known encodings, so each is run by one lemma
(`run_prologue`, `run_trampoline`), and what is left is arithmetic: that the two ways to compute
the cookie's address agree. The trampoline overwrites `rax` once more than the prologue does,
with the address, but loads the cookie into it next. The flags of the last instruction include
the undefined one, which is the same function of the same operands in both codes.
-/

namespace WindowedHdr
namespace GameHdr

open GameCompat X86 ByteMemory

/-! ### The two codes -/

/-- The prologue: `sub rsp, 0x48`, the load of the cookie, `xor rax, rsp`. -/
def prologueBlock (displacement : List UInt8) (h : displacement.length = 4) : List Chunk :=
  [.subRsp 0x48, .movRaxRelative displacement h, .xorRaxRsp]

/-- The trampoline up to the destination of its jump. -/
def trampolineBlock (cookie : UInt64) : List Chunk :=
  [.subRsp 0x48, .movRaxImmediate cookie, .movRaxAtRax, .xorRaxRsp,
    .jmpRelative [0, 0, 0, 0] rfl]

/-- The trampoline is its instructions and the destination behind them. -/
theorem buildAvailabilityTrampoline_eq (cookie returnAddress : UInt64) :
    buildAvailabilityTrampoline cookie returnAddress =
      blockBytes (trampolineBlock cookie) ++ toLittleEndian 8 returnAddress.toNat := by
  -- both sides are evaluated; only the cookie and the destination are not literals
  simp [buildAvailabilityTrampoline, trampolineBlock, blockBytes, absoluteJump, Chunk.subRsp,
    Chunk.movRaxImmediate, Chunk.movRaxAtRax, Chunk.xorRaxRsp, Chunk.jmpRelative]

/-- What both codes leave in the registers and flags, when the cookie is `cookie`. -/
def afterPrologue (auxiliary : XorAuxiliary) (s : Cpu) (cookie : UInt64) : Cpu :=
  let rsp := s.registers .rsp - 0x48
  let flags := Flags.ofSub (s.registers .rsp) 0x48
  { s.setRegister .rsp rsp |>.setRegister .rax (cookie ^^^ rsp) with
    flags := .ofLogic (auxiliary flags cookie rsp) (cookie ^^^ rsp) }

variable (auxiliary : XorAuxiliary) {s : Cpu}

/-- The prologue in place. -/
theorem run_prologue {displacement : List UInt8} (h : displacement.length = 4)
    (hcode : s.memory.read s.rip 14 = blockBytes (prologueBlock displacement h)) :
    s.run auxiliary 3 = some { afterPrologue auxiliary s (s.memory.readPointer
      (s.rip + 11 + .ofInt (signedOfLittleEndian displacement))) with rip := s.rip + 14 } := by
  have hlen : (blockBytes (prologueBlock displacement h)).length = 14 := by
    simp [prologueBlock, blockBytes, Chunk.subRsp, Chunk.movRaxRelative, Chunk.xorRaxRsp, h]
  have hfalls : ∀ c ∈ (prologueBlock displacement h).dropLast, c.instruction.Falls := by
    simp [prologueBlock, Chunk.subRsp, Chunk.movRaxRelative, Instruction.Falls]
  -- the block runs, and what is left are its effects
  refine (Cpu.run_block (prologueBlock displacement h) (by rw [hlen, hcode]) hfalls).trans ?_
  have himmediate : UInt64.ofInt (signedOfLittleEndian [0x48]) = 0x48 := by decide
  -- the load ends eleven bytes behind the first instruction
  have hload : s.rip + 4 + 7 = s.rip + 11 := by rw [UInt64.add_assoc]; rfl
  have hend : s.rip + 11 + 3 = s.rip + 14 := by rw [UInt64.add_assoc]; rfl
  simp [prologueBlock, Cpu.executeBlock, Cpu.execute, Cpu.setRegister, Chunk.subRsp,
    Chunk.movRaxRelative, Chunk.xorRaxRsp, afterPrologue, h, himmediate, hload, hend]

/-- The trampoline. -/
theorem run_trampoline {cookie returnAddress : UInt64}
    (hcode : s.memory.read s.rip 34 = buildAvailabilityTrampoline cookie returnAddress) :
    s.run auxiliary 5 = some { afterPrologue auxiliary s (s.memory.readPointer cookie) with
      rip := returnAddress } := by
  have hlen : (blockBytes (trampolineBlock cookie)).length = 26 := by
    simp [trampolineBlock, blockBytes, Chunk.subRsp, Chunk.movRaxImmediate, Chunk.movRaxAtRax,
      Chunk.xorRaxRsp, Chunk.jmpRelative]
  have hfalls : ∀ c ∈ (trampolineBlock cookie).dropLast, c.instruction.Falls := by
    simp [trampolineBlock, Chunk.subRsp, Chunk.movRaxImmediate, Chunk.movRaxAtRax,
      Chunk.xorRaxRsp, Instruction.Falls]
  rw [buildAvailabilityTrampoline_eq] at hcode
  -- the code is the block, with the destination of its jump behind it
  obtain ⟨hblock, hdestination⟩ := read_eq_append s.memory s.rip (k := 8) hlen hcode
  refine (Cpu.run_block (trampolineBlock cookie) (by rw [hlen, hblock]) hfalls).trans ?_
  have himmediate : UInt64.ofInt (signedOfLittleEndian [0x48]) = 0x48 := by decide
  have hzero : UInt64.ofInt (signedOfLittleEndian [0, 0, 0, 0]) = 0 := by decide
  -- the destination is stored right behind the jump
  have hjump : s.rip + 4 + 10 + 3 + 3 + 6 = s.rip + 26 := by
    simp only [UInt64.add_assoc]
    rfl
  have hread : s.memory.readPointer (s.rip + 26) = returnAddress :=
    (readPointer_eq_iff _ _).mpr hdestination
  simp [trampolineBlock, Cpu.executeBlock, Cpu.execute, Cpu.setRegister, Chunk.subRsp,
    Chunk.movRaxImmediate, Chunk.movRaxAtRax, Chunk.xorRaxRsp, Chunk.jmpRelative, afterPrologue,
    himmediate, hzero, hjump, hread]

/-! ### The two computations of the cookie's address -/

section Cookie

variable {process : Process} {image : LoadedImage} {availability cookie : Nat}
  {targets : GameTargets}

/-- The prologue that the resolver accepts is the block above. -/
theorem content_eq_prologueBlock
    (hcookie : image.resolveSecurityCookie process availability = .ok cookie) :
    image.content process availability 14 =
      blockBytes (prologueBlock (image.content process (availability + 7) 4)
        (length_read _ _ _)) := by
  obtain ⟨hload, hmix, -⟩ := LoadedImage.isSecurityCookie_of_ok hcookie
  unfold LoadedImage.content at hload hmix ⊢
  rw [LoadedImage.address_add] at hmix ⊢
  -- the code before the displacement of the load, the displacement, and the last instruction
  rw [show 14 = 7 + (4 + 3) from rfl, read_add, read_add, hload, UInt64.add_assoc,
    ← UInt64.ofNat_add, hmix]
  simp [prologueBlock, blockBytes, Chunk.subRsp, Chunk.movRaxRelative, Chunk.xorRaxRsp]

/-- The prologue and the cookie lie within the image. -/
theorem le_size_of_resolveSecurityCookie
    (hcookie : image.resolveSecurityCookie process availability = .ok cookie) :
    availability + 14 ≤ image.size ∧ cookie + 8 ≤ image.size := by
  -- the resolver has read the prologue, and checked where the cookie lies
  constructor
  · obtain ⟨prologue, hprologue, -⟩ := Except.bind_eq_ok.mp hcookie
    exact (LoadedImage.bytesAt_eq_ok.mp hprologue).1.1.le_size
  · exact (LoadedImage.isSecurityCookie_of_ok hcookie).data.le_size

/-- The displacement that both computations read. -/
theorem displacement_eq
    (hprologue : targets.commonAvailabilityPrologue.toList =
      image.content process availability 14) :
    signedOfLittleEndian ((targets.commonAvailabilityPrologue.toList.drop 7).take 4) =
      image.displacementAt process (availability + 7) := by
  have hslice : slice (image.content process availability 14) 7 11 =
      image.content process (availability + 7) 4 := LoadedImage.slice_content (by decide)
  rw [hprologue, LoadedImage.displacementAt, ← hslice]
  rfl

/-- A natural number as an absolute offset. -/
theorem ofInt_natCast (n : Nat) : UInt64.ofInt (n : Int) = UInt64.ofNat n := by
  apply UInt64.toNat.inj
  rw [UInt64.ofInt, UInt64.toNat_ofNat', UInt64.toNat_ofNat']
  omega

/-- The resolver's sum of relative addresses, as a sum of absolute ones. -/
theorem address_cookie
    (hcookie : image.resolveSecurityCookie process availability = .ok cookie) :
    image.address availability + 11 +
        .ofInt (image.displacementAt process (availability + 7)) = image.address cookie := by
  have htarget := (LoadedImage.isSecurityCookie_of_ok hcookie).target
  calc image.address availability + 11 +
        .ofInt (image.displacementAt process (availability + 7))
      = image.base + .ofInt (availability + 11 +
          image.displacementAt process (availability + 7)) := by
        rw [UInt64.ofInt_add, UInt64.ofInt_add, ofInt_natCast, LoadedImage.address,
          UInt64.add_assoc, UInt64.add_assoc, UInt64.add_assoc]
        rfl
    _ = image.base + .ofInt cookie := by rw [htarget]
    _ = image.address cookie := by rw [ofInt_natCast, LoadedImage.address]

/-- **The installer's computation.** It does not overflow, and finds the resolver's cookie. -/
theorem resolvedCookie_eq (hfits : image.base.toNat + image.size < 2 ^ 64)
    (hcookie : image.resolveSecurityCookie process availability = .ok cookie)
    (hprologue : targets.commonAvailabilityPrologue.toList =
      image.content process availability 14) :
    resolvedCookie targets (image.address availability) = some (image.address cookie) := by
  obtain ⟨havailability, hlt⟩ := le_size_of_resolveSecurityCookie hcookie
  have htarget := (LoadedImage.isSecurityCookie_of_ok hcookie).target
  -- the image does not wrap, so the sum is taken on numbers
  have hsum : (image.address availability + 11).toNat = image.base.toNat + availability + 11 := by
    rw [LoadedImage.address, UInt64.toNat_add, UInt64.toNat_add, UInt64.toNat_ofNat']
    have h11 : (11 : UInt64).toNat = 11 := rfl
    omega
  unfold resolvedCookie checkedAddSigned
  dsimp only
  rw [displacement_eq hprologue, hsum, if_pos (by omega)]
  refine congrArg some (UInt64.toNat.inj ?_)
  rw [LoadedImage.address, UInt64.toNat_ofNat', UInt64.toNat_add, UInt64.toNat_ofNat']
  omega

end Cookie

/-! ### The equivalence -/

/-- **The trampoline runs as the prologue.** For a prologue that the resolver accepted and that
the installer finds unchanged, the installer's cookie is the resolver's; and on every processor,
from any registers and flags, the prologue in place and the trampoline anywhere end behind the
prologue with the same registers and flags and the memory they started with. The two memories
hold the code that is run and the same cookie; they may be one memory. -/
theorem runs_as_prologue (process : Process) (image : LoadedImage) (targets : GameTargets)
    (hfits : image.base.toNat + image.size < 2 ^ 64)
    (hcookie : image.resolveSecurityCookie process targets.commonAvailabilityRva =
      .ok targets.securityCookieRva)
    (hprologue : targets.commonAvailabilityPrologue.toList =
      image.content process targets.commonAvailabilityRva 14) :
    let target := image.base + .ofNat targets.commonAvailabilityRva
    let cookie := image.base + .ofNat targets.securityCookieRva
    resolvedCookie targets target = some cookie ∧
    ∀ (auxiliary : XorAuxiliary) (s : Cpu) (trampoline : UInt64) (memory : ByteMemory),
      s.memory.read target 14 = targets.commonAvailabilityPrologue.toList →
      memory.read trampoline 34 = buildAvailabilityTrampoline cookie (target + 14) →
      memory.readPointer cookie = s.memory.readPointer cookie →
      ∃ after : Cpu, after.memory = s.memory ∧ after.rip = target + 14 ∧
        { s with rip := target }.run auxiliary 3 = some after ∧
        { s with memory := memory, rip := trampoline }.run auxiliary 5 =
          some { after with memory := memory } := by
  intro target cookie
  refine ⟨resolvedCookie_eq hfits hcookie hprologue, ?_⟩
  intro auxiliary s trampoline memory hplace hcode hsame
  have hblock := hplace.trans (hprologue.trans (content_eq_prologueBlock hcookie))
  -- the load in the prologue finds the cookie where the resolver computed it
  have hload : target + 11 + .ofInt (signedOfLittleEndian
      (image.content process (targets.commonAvailabilityRva + 7) 4)) = cookie :=
    address_cookie hcookie
  have hprologueRun := run_prologue auxiliary (s := { s with rip := target }) _ hblock
  have htrampolineRun := run_trampoline auxiliary
    (s := { s with memory := memory, rip := trampoline }) hcode
  dsimp only at hprologueRun htrampolineRun
  rw [hload] at hprologueRun
  rw [hsame] at htrampolineRun
  -- both end in the same state, up to the memory they run in
  exact ⟨{ afterPrologue auxiliary s (s.memory.readPointer cookie) with rip := target + 14 },
    rfl, rfl, hprologueRun, htrampolineRun⟩

/-- A processor in the sample module, with the trampoline of its availability routine at
`0x200000000`. -/
def sampleCpu (rip : UInt64) : Cpu where
  registers _ := 0x7FFF0000
  flags := ⟨false, false, false, false, false, false⟩
  memory := sampleProcess.memory.write 0x200000000
    (buildAvailabilityTrampoline (sampleBase + 920) (sampleBase + 374))
  rip := rip

/-- In the sample module the prologue at 360 and its trampoline end in one state. -/
theorem runs_as_prologue_sample :
    ∃ after : Cpu, after.rip = sampleBase + 374 ∧
      (sampleCpu (sampleBase + 360)).run (fun _ _ _ => false) 3 = some after ∧
      (sampleCpu 0x200000000).run (fun _ _ _ => false) 5 = some after := by
  have hplace : (sampleCpu 0).memory.read (sampleBase + 360) 14 =
      sampleTargets.commonAvailabilityPrologue.toList := by
    decide +kernel
  have hcode : (sampleCpu 0).memory.read 0x200000000 34 =
      buildAvailabilityTrampoline (sampleBase + 920) (sampleBase + 360 + 14) := by
    decide +kernel
  obtain ⟨-, hruns⟩ := runs_as_prologue sampleProcess LoadedImage.sampleImage sampleTargets
    (by decide) (by decide +kernel) (by decide +kernel)
  obtain ⟨after, hmemory, hrip, hprologue, htrampoline⟩ :=
    hruns (fun _ _ _ => false) (sampleCpu 0) 0x200000000 (sampleCpu 0).memory hplace hcode rfl
  have hafter : { after with memory := (sampleCpu 0).memory } = after := by rw [← hmemory]
  exact ⟨after, hrip, hprologue, htrampoline.trans (congrArg some hafter)⟩

end GameHdr
end WindowedHdr
