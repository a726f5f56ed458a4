import WindowedHdr.Library.ByteMemory

/-!
# Writing to memory

`write_memory` makes the target writable, copies the bytes, flushes the instruction cache
and restores the page protection. Three of these are calls into the operating system, and
a structure of outcomes says which of them succeed; a call that fails has no other effect.

The copy stands between the first call and the other two. When one of those fails, the
result is an error although the bytes were written (`writeMemory_cases`).
-/

namespace WindowedHdr
namespace Windows

/-- What the calls of `write_memory` return. -/
structure WriteOutcome where
  /-- `VirtualProtect(PAGE_EXECUTE_READWRITE)`. -/
  unprotect : Bool
  /-- `FlushInstructionCache`. -/
  flush : Bool
  /-- `VirtualProtect` with the old protection. -/
  reprotect : Bool
  deriving DecidableEq

/-- Every call succeeds. -/
def WriteOutcome.Succeeds (o : WriteOutcome) : Prop :=
  o.unprotect = true ∧ o.flush = true ∧ o.reprotect = true

/-- The bytes are copied, and a later call fails. -/
def WriteOutcome.FailsAfterCopy (o : WriteOutcome) : Prop :=
  o.unprotect = true ∧ (o.flush = false ∨ o.reprotect = false)

/-- A write that succeeds does not fail behind its copy. -/
theorem WriteOutcome.Succeeds.not_failsAfterCopy {o : WriteOutcome} (h : o.Succeeds) :
    ¬ o.FailsAfterCopy := by
  rintro ⟨-, hf | hf⟩
  · exact absurd h.2.1 (by simp [hf])
  · exact absurd h.2.2 (by simp [hf])

/-- `write_memory`: the result, and the memory afterwards. -/
def writeMemory (o : WriteOutcome) (memory : ByteMemory) (address : UInt64)
    (bytes : List UInt8) : Except String Unit × ByteMemory :=
  if address == 0 || bytes.isEmpty then
    (.error "invalid memory patch range", memory)
  else if !o.unprotect then
    (.error "VirtualProtect(PAGE_EXECUTE_READWRITE) failed", memory)
  else
    let memory := memory.write address bytes
    -- the bytes stay written whatever the next two calls return
    if !o.flush then
      (.error "FlushInstructionCache failed after applying the patch", memory)
    else if !o.reprotect then
      (.error "VirtualProtect failed to restore page protection", memory)
    else
      (.ok (), memory)

/-- `write_pointer`. -/
def writePointer (o : WriteOutcome) (memory : ByteMemory) (address value : UInt64) :
    Except String Unit × ByteMemory :=
  writeMemory o memory address (toLittleEndian 8 value.toNat)

/-- `write_memory` fails before the copy, fails after it, or succeeds. -/
theorem writeMemory_cases (o : WriteOutcome) (m : ByteMemory) (address : UInt64)
    {bytes : List UInt8} (hb : bytes ≠ []) :
    (∃ e, (address = 0 ∨ o.unprotect = false) ∧
      writeMemory o m address bytes = (.error e, m)) ∨
    (∃ e, address ≠ 0 ∧ o.FailsAfterCopy ∧
      writeMemory o m address bytes = (.error e, m.write address bytes)) ∨
    (address ≠ 0 ∧ o.Succeeds ∧
      writeMemory o m address bytes = (.ok (), m.write address bytes)) := by
  -- the cases follow the checks, in their order
  by_cases ha : address = 0
  · exact .inl ⟨_, .inl ha, by rw [writeMemory, if_pos (by simp [ha])]⟩
  have hrange : ¬ (address == 0 || bytes.isEmpty) = true := by simp [ha, hb]
  cases hu : o.unprotect with
  | false =>
    exact .inl ⟨_, .inr rfl, by rw [writeMemory, if_neg hrange, if_pos (by simp [hu])]⟩
  | true =>
    right
    have hcopied : ¬ (!o.unprotect) = true := by simp [hu]
    -- from here on the bytes are copied, whatever the result
    cases hf : o.flush with
    | false =>
      exact .inl ⟨_, ha, ⟨hu, .inl hf⟩, by
        rw [writeMemory, if_neg hrange, if_neg hcopied, if_pos (by simp [hf])]⟩
    | true =>
      have hflushed : ¬ (!o.flush) = true := by simp [hf]
      cases hr : o.reprotect with
      | false =>
        exact .inl ⟨_, ha, ⟨hu, .inr hr⟩, by
          rw [writeMemory, if_neg hrange, if_neg hcopied, if_neg hflushed,
            if_pos (by simp [hr])]⟩
      | true =>
        -- every call succeeds
        refine .inr ⟨ha, ⟨hu, hf, hr⟩, ?_⟩
        rw [writeMemory, if_neg hrange, if_neg hcopied, if_neg hflushed, if_neg (by simp [hr])]

/-- What the calls of `protect_execute_read` return. -/
structure ProtectExecuteOutcome where
  /-- `VirtualProtect(PAGE_EXECUTE_READ)`. -/
  protect : Bool
  /-- `FlushInstructionCache`. -/
  flush : Bool
  deriving DecidableEq

/-- `protect_execute_read`. -/
def protectExecuteRead (o : ProtectExecuteOutcome) (address : UInt64) (size : Nat) :
    Except String Unit :=
  if address == 0 || size == 0 then
    .error "invalid executable memory range"
  else if !o.protect then
    .error "VirtualProtect(PAGE_EXECUTE_READ) failed"
  else if !o.flush then
    .error "FlushInstructionCache failed for executable memory"
  else
    .ok ()

/-- A trampoline becomes executable exactly when both calls succeed. -/
theorem protectExecuteRead_eq_ok {o : ProtectExecuteOutcome} {address : UInt64} {size : Nat} :
    protectExecuteRead o address size = .ok () ↔
      address ≠ 0 ∧ size ≠ 0 ∧ o.protect = true ∧ o.flush = true := by
  unfold protectExecuteRead
  -- each failed check contradicts one part of the condition
  split_ifs with hrange hprotect hflush
  · simp only [false_iff]
    rintro ⟨ha, hs, -⟩
    simp [ha, hs] at hrange
  · simp only [false_iff]
    rintro ⟨-, -, hp, -⟩
    simp [hp] at hprotect
  · simp only [false_iff]
    rintro ⟨-, -, -, hf⟩
    simp [hf] at hflush
  · have hrange' : address ≠ 0 ∧ size ≠ 0 := by simpa using hrange
    have hprotect' : o.protect = true := by simpa using hprotect
    have hflush' : o.flush = true := by simpa using hflush
    exact iff_of_true rfl ⟨hrange'.1, hrange'.2, hprotect', hflush'⟩

/-- `protect_read_only` and `protect_read_write`, which differ in their messages. -/
def protectData (invalidRange failed : String) (protect : Bool) (address : UInt64)
    (size : Nat) : Except String Unit :=
  if address == 0 || size == 0 then
    .error invalidRange
  else if !protect then
    .error failed
  else
    .ok ()

/-- `protect_read_only`, when `VirtualProtect` returns `protect`. -/
def protectReadOnly : Bool → UInt64 → Nat → Except String Unit :=
  protectData "invalid read-only memory range" "VirtualProtect(PAGE_READONLY) failed"

/-- `protect_read_write`, when `VirtualProtect` returns `protect`. -/
def protectReadWrite : Bool → UInt64 → Nat → Except String Unit :=
  protectData "invalid read-write memory range" "VirtualProtect(PAGE_READWRITE) failed"

/-- `compare_exchange_pointer`: whether the exchange happened, and the memory afterwards. -/
def compareExchangePointer (memory : ByteMemory) (address expected replacement : UInt64) :
    Except String Bool × ByteMemory :=
  if address == 0 || address % 8 != 0 then
    (.error "invalid atomic pointer slot", memory)
  -- the comparison and the store are one step, which no other write divides
  else if memory.readPointer address == expected then
    (.ok true, memory.writePointer address replacement)
  else
    (.ok false, memory)

/-- An exchange fails, finds another pointer, or happens. -/
theorem compareExchangePointer_cases (m : ByteMemory) (address expected replacement : UInt64) :
    (∃ e, compareExchangePointer m address expected replacement = (.error e, m)) ∨
    compareExchangePointer m address expected replacement = (.ok false, m) ∨
    compareExchangePointer m address expected replacement =
      (.ok true, m.writePointer address replacement) := by
  rw [compareExchangePointer]
  split
  · exact .inl ⟨_, rfl⟩
  · right
    split
    · exact .inr rfl
    · exact .inl rfl

/-- A pointer that is not null. -/
abbrev NonNull := { address : UInt64 // address ≠ 0 }

/-- `allocate_read_write`, when `VirtualAlloc` returns `allocation`. -/
def allocateReadWrite (allocation : UInt64) (size : Nat) : Except String NonNull :=
  if size == 0 then
    .error "cannot allocate an empty memory region"
  else if h : allocation = 0 then
    .error "VirtualAlloc(PAGE_READWRITE) failed"
  else
    .ok ⟨allocation, h⟩

end Windows
end WindowedHdr
