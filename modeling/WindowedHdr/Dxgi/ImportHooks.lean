import Mathlib.Logic.Function.Basic
import WindowedHdr.Dxgi.Imports
import WindowedHdr.Windows.WriteMemory

/-!
# Hooking the imports of the main module

`install` puts a hook into the import slots of the two DXGI factory functions, and then into
that of `agsSetDisplayMode`, which is imported from another module. It writes slot by slot,
and it returns at the first error: of a write, or of the enumeration of either module. What
was written before is left in place.

So a failed call leaves the slots alone exactly when it writes nothing
(`failed_install_intact_iff`), and that is decided by the first import that is to be hooked
(`WritesNothing`). A slot that was written holds a hook for good: the hooks are functions of
this module, which no slot holds before the call (`Unhooked`).

The proof follows the loops from the inside out: what one import does to its slot
(`hookImport_cases`), what the loop over the imports of one module has done when it stops
(`hookImports_cases`), and how the modules follow each other (`install_cases`). Every outcome is
stated with the slots that were written until then, so a failed call is an outcome with a
written slot or one without. The first import that is to be hooked separates the two, and it is
a value of the image and the process alone.
-/

namespace WindowedHdr
namespace Dxgi

open Windows ByteMemory

/-- The imports that are hooked. -/
inductive HookedImport where
  | createDxgiFactory
  | createDxgiFactory1
  | agsSetDisplayMode
  deriving DecidableEq

/-- What `install` changes. -/
structure ImportState where
  memory : ByteMemory
  /-- `CREATE_FACTORY_ORIGINAL`, `CREATE_FACTORY1_ORIGINAL`, `AGS_SET_DISPLAY_MODE_ORIGINAL`. -/
  originals : HookedImport → UInt64
  /-- The number of calls to `write_pointer` so far. -/
  writes : Nat

structure InstallationReport where
  dxgiFactoryImports : Nat
  amdAgsImports : Nat
  deriving DecidableEq

/-- The hooked imports of `dxgi.dll`. -/
def dxgiImport (name : String) : Option HookedImport :=
  match name with
  | "CreateDXGIFactory" => some .createDxgiFactory
  | "CreateDXGIFactory1" => some .createDxgiFactory1
  | _ => none

/-- The hooked import of `amd_ags_x64.dll`. -/
def agsImport (name : String) : Option HookedImport :=
  if name = "agsSetDisplayMode" then some .agsSetDisplayMode else none

section Install

variable (outcome : Nat → WriteOutcome) (code : HookedImport → UInt64)
  (select : String → Option HookedImport) (image : Image) (requestedModule : String)

/-- Save what an import slot holds and put a hook into it. `outcome n` is what the calls of
write `n` return. -/
def hookImport (entry : Import) (hook : HookedImport) (s : ImportState) :
    Except (Stop String) Unit × ImportState :=
  let r := writePointer (outcome s.writes) s.memory entry.slot (code hook)
  (r.1.guarded,
    { memory := r.2
      originals := Function.update s.originals hook entry.current
      writes := s.writes + 1 })

/-- The loop over the imports of a module; `hooked` counts those that were hooked. -/
def hookImports (hooked : Nat) : List Import → ImportState →
    Except (Stop String) Nat × ImportState
  | [], s => (.ok hooked, s)
  | entry :: entries, s =>
    match select entry.name with
    | none => hookImports hooked entries s
    | some hook =>
      match hookImport outcome code entry hook s with
      | (.error stop, s) => (.error stop, s)
      | (.ok (), s) => hookImports (hooked + 1) entries s

/-- Enumerate the imports of a module and hook those that `select` names. -/
def hookModule (s : ImportState) : Except (Stop String) Nat × ImportState :=
  match image.imports s.memory requestedModule with
  | .error stop => (.error stop, s)
  | .ok entries => hookImports outcome code select 0 entries s

/-- `install`, when `GetModuleHandleW(NULL)` returns `base`. -/
def install (base : UInt64) (s : ImportState) :
    Except (Stop String) InstallationReport × ImportState :=
  -- an error leaves the slots that were written so far
  match Image.mainModule s.memory base with
  | .error e => (Except.fail e, s)
  | .ok image =>
    match hookModule outcome code dxgiImport image "dxgi.dll" s with
    | (.error stop, s) => (.error stop, s)
    | (.ok dxgiFactoryImports, s) =>
      match hookModule outcome code agsImport image "amd_ags_x64.dll" s with
      | (.error stop, s) => (.error stop, s)
      | (.ok amdAgsImports, s) => (.ok { dxgiFactoryImports, amdAgsImports }, s)

end Install

/-! ### The first write -/

variable {outcome : Nat → WriteOutcome} {code : HookedImport → UInt64}
  {select : String → Option HookedImport} {image : Image} {base : UInt64} {s : ImportState}

/-- The first import of the list that is to be hooked. -/
def firstHooked (select : String → Option HookedImport) (entries : List Import) : Option Import :=
  entries.find? fun entry => (select entry.name).isSome

/-- Writing to the slot gets as far as the copy. -/
def Written (o : WriteOutcome) (entry : Import) : Prop := entry.slot ≠ 0 ∧ o.unprotect = true

/-- Writing fails before the copy and changes nothing, or leaves the hook in the slot. -/
theorem hookImport_cases (outcome : Nat → WriteOutcome) (code : HookedImport → UInt64)
    (entry : Import) (hook : HookedImport) (s : ImportState) :
    (¬ Written (outcome s.writes) entry ∧ (∃ stop, (hookImport outcome code entry hook s).1 =
      .error stop) ∧ (hookImport outcome code entry hook s).2.memory = s.memory) ∨
    (Written (outcome s.writes) entry ∧
      (hookImport outcome code entry hook s).2.memory =
        s.memory.writePointer entry.slot (code hook)) := by
  have hbytes : toLittleEndian 8 (code hook).toNat ≠ [] :=
    List.ne_nil_of_length_pos (by rw [length_toLittleEndian]; decide)
  obtain ⟨e, hrefused, hr⟩ | ⟨e, hslot, hcopied, hr⟩ | ⟨hslot, hok, hr⟩ :=
    writeMemory_cases (outcome s.writes) s.memory entry.slot hbytes
  · -- a null slot, or a page that stays protected: nothing has been copied
    refine .inl ⟨?_, ⟨.error e, ?_⟩, ?_⟩
    · rintro ⟨hslot, hunprotect⟩
      rcases hrefused with h | h
      · exact hslot h
      · exact Bool.false_ne_true (h.symm.trans hunprotect)
    · rw [hookImport, Windows.writePointer, hr]
      rfl
    · rw [hookImport, Windows.writePointer, hr]
  · -- the flush or the protection fails behind the copy
    refine .inr ⟨⟨hslot, hcopied.1⟩, ?_⟩
    rw [hookImport, Windows.writePointer, hr]
    rfl
  · refine .inr ⟨⟨hslot, hok.1⟩, ?_⟩
    rw [hookImport, Windows.writePointer, hr]
    rfl

/-- An import that is not to be hooked is passed over. -/
theorem hookImports_of_skipped {entry : Import} (hselect : select entry.name = none)
    (hooked : Nat) (entries : List Import) (s : ImportState) :
    hookImports outcome code select hooked (entry :: entries) s =
      hookImports outcome code select hooked entries s := by
  rw [hookImports, hselect]

/-- A failed write ends the loop. -/
theorem hookImports_of_error {entry : Import} {hook : HookedImport} {stop : Stop String}
    {s' : ImportState} (hselect : select entry.name = some hook)
    (hstep : hookImport outcome code entry hook s = (.error stop, s')) (hooked : Nat)
    (entries : List Import) :
    hookImports outcome code select hooked (entry :: entries) s = (.error stop, s') := by
  rw [hookImports, hselect]
  simp only [hstep]

/-- A write that succeeds is counted, and the loop goes on. -/
theorem hookImports_of_ok {entry : Import} {hook : HookedImport} {s' : ImportState}
    (hselect : select entry.name = some hook)
    (hstep : hookImport outcome code entry hook s = (.ok (), s')) (hooked : Nat)
    (entries : List Import) :
    hookImports outcome code select hooked (entry :: entries) s =
      hookImports outcome code select (hooked + 1) entries s' := by
  rw [hookImports, hselect]
  simp only [hstep]

/-- **The loop.** It has nothing to hook, or fails to write to the first slot, or the last
slot that it writes to is left with a hook. -/
theorem hookImports_cases (outcome : Nat → WriteOutcome) (code : HookedImport → UInt64)
    (select : String → Option HookedImport) (hooked : Nat) (entries : List Import)
    (s : ImportState) :
    (firstHooked select entries = none ∧
      hookImports outcome code select hooked entries s = (.ok hooked, s)) ∨
    ∃ entry, firstHooked select entries = some entry ∧
      ((¬ Written (outcome s.writes) entry ∧
          (∃ stop, (hookImports outcome code select hooked entries s).1 = .error stop) ∧
          (hookImports outcome code select hooked entries s).2.memory = s.memory) ∨
        (Written (outcome s.writes) entry ∧ ∃ last ∈ entries, ∃ hook,
          (hookImports outcome code select hooked entries s).2.memory.readPointer last.slot =
            code hook)) := by
  induction entries generalizing hooked s with
  | nil => exact .inl ⟨rfl, rfl⟩
  | cons entry entries ih =>
    cases hselect : select entry.name with
    | none =>
      rw [hookImports_of_skipped hselect]
      have hfirst : firstHooked select (entry :: entries) = firstHooked select entries :=
        List.find?_cons_of_neg (by simp [hselect])
      rw [hfirst]
      obtain ⟨hnone, hloop⟩ | ⟨first, hsome, hunwritten | ⟨hwritten, last, hlast, hslot⟩⟩ :=
        ih hooked s
      · exact .inl ⟨hnone, hloop⟩
      · exact .inr ⟨first, hsome, .inl hunwritten⟩
      · exact .inr ⟨first, hsome, .inr ⟨hwritten, last, List.mem_cons_of_mem _ hlast, hslot⟩⟩
    | some hook =>
      have hfirst : firstHooked select (entry :: entries) = some entry :=
        List.find?_cons_of_pos (by simp [hselect])
      refine .inr ⟨entry, hfirst, ?_⟩
      rcases hstep : hookImport outcome code entry hook s with ⟨result, s'⟩
      have hcases := hookImport_cases outcome code entry hook s
      rw [hstep] at hcases
      obtain ⟨hunwritten, ⟨stop, hstop⟩, hmemory⟩ | ⟨hwritten, hmemory⟩ := hcases
      · obtain rfl : result = .error stop := hstop
        rw [hookImports_of_error hselect hstep]
        exact .inl ⟨hunwritten, ⟨stop, rfl⟩, hmemory⟩
      · -- the slot holds the hook now, and a later write can only leave another hook
        have hslot : s'.memory.readPointer entry.slot = code hook := by
          replace hmemory : s'.memory = s.memory.writePointer entry.slot (code hook) := hmemory
          rw [hmemory, readPointer_writePointer_self]
        refine .inr ⟨hwritten, ?_⟩
        cases result with
        | error stop =>
          rw [hookImports_of_error hselect hstep]
          exact ⟨entry, List.mem_cons_self, hook, hslot⟩
        | ok _ =>
          rw [hookImports_of_ok hselect hstep]
          -- by what the rest of the loop does to the memory
          obtain ⟨-, hrest⟩ | ⟨first, -, ⟨-, -, hrest⟩ | ⟨-, last, hlast, hook', hslot'⟩⟩ :=
            ih (hooked + 1) s'
          · refine ⟨entry, List.mem_cons_self, hook, ?_⟩
            rw [hrest]
            exact hslot
          · refine ⟨entry, List.mem_cons_self, hook, ?_⟩
            rw [hrest]
            exact hslot
          · exact ⟨last, List.mem_cons_of_mem _ hlast, hook', hslot'⟩

/-! ### The slots -/

/-- A pointer into the table of names of a descriptor, or of slots when it has none. -/
def Image.thunk (image : Image) (memory : ByteMemory) (d : Image.Descriptor) (k : Nat) : UInt64 :=
  memory.readPointer (image.address
    ((if d.originalFirstThunk = 0 then d.firstThunk else d.originalFirstThunk) + 8 * k))

/-- A slot of the import address tables: of a descriptor before the terminator of the
directory, and before the first zero thunk. -/
def Image.IsSlot (image : Image) (memory : ByteMemory) (slot : UInt64) : Prop :=
  ∃ i < image.importSize / 20, (∀ j ≤ i, ¬ (image.descriptor memory j).IsTerminator) ∧
    ∃ k, (∀ j ≤ k, image.thunk memory (image.descriptor memory i) j ≠ 0) ∧
      slot = image.address ((image.descriptor memory i).firstThunk + 8 * k)

/-- What `takeWhile` keeps comes with all that stands before it. -/
theorem forall_of_mem_takeWhile_range' {p : Nat → Bool} {start k count : Nat}
    (h : k ∈ (List.range' start count).takeWhile p) :
    k < start + count ∧ ∀ j, start ≤ j → j ≤ k → p j = true := by
  induction count generalizing start with
  | zero => cases h
  | succ count ih =>
    rw [List.range'_succ] at h
    cases hstart : p start with
    | false =>
      rw [List.takeWhile_cons_of_neg (by simp [hstart])] at h
      cases h
    | true =>
      rw [List.takeWhile_cons_of_pos hstart, List.mem_cons] at h
      rcases h with rfl | h
      · refine ⟨by omega, fun j hle hge => ?_⟩
        rw [Nat.le_antisymm hge hle]
        exact hstart
      · obtain ⟨hlt, hall⟩ := ih h
        refine ⟨by omega, fun j hle hge => ?_⟩
        rcases Nat.eq_or_lt_of_le hle with rfl | hlt'
        · exact hstart
        · exact hall j hlt' hge

/-- What `imports` lists are slots. -/
theorem isSlot_of_imports {memory : ByteMemory} {requestedModule : String}
    {entries : List Import} (h : image.imports memory requestedModule = .ok entries)
    {entry : Import} (hentry : entry ∈ entries) : image.IsSlot memory entry.slot := by
  obtain ⟨rfl, htables⟩ := (Image.returns_imports image memory requestedModule).2 entries h
  obtain ⟨d, hd, hentry⟩ := List.mem_flatMap.mp hentry
  obtain ⟨k, hk, rfl⟩ := List.mem_map.mp hentry
  have htable := htables d hd
  -- a descriptor that is named stands before the terminator
  have hdescriptor := (List.mem_filter.mp hd).1
  rw [List.takeWhile_map] at hdescriptor
  obtain ⟨i, hi, rfl⟩ := List.mem_map.mp hdescriptor
  obtain ⟨hlt, hbefore⟩ := forall_of_mem_takeWhile_range' hi
  obtain ⟨-, hthunks⟩ := forall_of_mem_takeWhile_range' (List.mem_filter.mp hk).1
  refine ⟨i, by omega, fun j hj => of_decide_eq_true (hbefore j (Nat.zero_le j) hj), k, ?_, rfl⟩
  intro j hj
  -- the table of names is not missing, so it is the one whose zero ends the slots
  rw [Image.thunk, if_neg htable]
  exact of_decide_eq_true (hthunks j (Nat.zero_le j) hj)

/-! ### A failed call -/

/-- A slot that the tables list before the call, or after the hooks of `dxgi.dll`. -/
def IsMainSlot (outcome : Nat → WriteOutcome) (code : HookedImport → UInt64) (image : Image)
    (s : ImportState) (slot : UInt64) : Prop :=
  image.IsSlot s.memory slot ∨
    image.IsSlot (hookModule outcome code dxgiImport image "dxgi.dll" s).2.memory slot

/-- No slot of the main module holds a hook. -/
def Unhooked (outcome : Nat → WriteOutcome) (code : HookedImport → UInt64) (base : UInt64)
    (s : ImportState) : Prop :=
  ∀ image, Image.mainModule s.memory base = .ok image →
    ∀ slot, IsMainSlot outcome code image s slot →
      ∀ hook, s.memory.readPointer slot ≠ code hook

/-- Every slot of the main module holds after the call what it held before. -/
def SlotsIntact (outcome : Nat → WriteOutcome) (code : HookedImport → UInt64) (base : UInt64)
    (s : ImportState) : Prop :=
  ∀ image, Image.mainModule s.memory base = .ok image →
    ∀ slot, IsMainSlot outcome code image s slot →
      (install outcome code base s).2.memory.readPointer slot = s.memory.readPointer slot

/-- The import whose slot is to be written first: of `dxgi.dll`, or else of
`amd_ags_x64.dll`. -/
def firstImport (image : Image) (memory : ByteMemory) :
    Except (Stop String) (Option Import) := do
  let dxgi ← image.imports memory "dxgi.dll"
  match firstHooked dxgiImport dxgi with
  | some entry => return some entry
  -- the other module is enumerated only when nothing of `dxgi.dll` is hooked
  | none =>
    let ags ← image.imports memory "amd_ags_x64.dll"
    return firstHooked agsImport ags

/-- Nothing is written: the import whose slot is to be written first, if the tables get as
far as to one, cannot be made writable. -/
def WritesNothing (outcome : Nat → WriteOutcome) (base : UInt64) (s : ImportState) : Prop :=
  ∀ image, Image.mainModule s.memory base = .ok image →
    ∀ entry, firstImport image s.memory = .ok (some entry) →
      ¬ Written (outcome s.writes) entry

/-- A module is refused or has nothing to hook, its first slot is not written to, or one of
its slots is left with a hook. -/
theorem hookModule_cases (outcome : Nat → WriteOutcome) (code : HookedImport → UInt64)
    (select : String → Option HookedImport) (image : Image) (requestedModule : String)
    (s : ImportState) :
    (∃ stop, image.imports s.memory requestedModule = .error stop ∧
      hookModule outcome code select image requestedModule s = (.error stop, s)) ∨
    ∃ entries, image.imports s.memory requestedModule = .ok entries ∧
      ((firstHooked select entries = none ∧
          hookModule outcome code select image requestedModule s = (.ok 0, s)) ∨
        ∃ entry, firstHooked select entries = some entry ∧
          ((¬ Written (outcome s.writes) entry ∧
              (∃ stop, (hookModule outcome code select image requestedModule s).1 =
                .error stop) ∧
              (hookModule outcome code select image requestedModule s).2.memory = s.memory) ∨
            (Written (outcome s.writes) entry ∧ ∃ slot, image.IsSlot s.memory slot ∧ ∃ hook,
              (hookModule outcome code select image requestedModule s).2.memory.readPointer
                slot = code hook))) := by
  cases himports : image.imports s.memory requestedModule with
  | error stop =>
    refine .inl ⟨stop, rfl, ?_⟩
    rw [hookModule, himports]
  | ok entries =>
    have hloop : hookModule outcome code select image requestedModule s =
        hookImports outcome code select 0 entries s := by
      rw [hookModule, himports]
    rw [hloop]
    -- what the loop writes to is listed, and what is listed is a slot
    refine .inr ⟨entries, rfl, ?_⟩
    obtain hnone | ⟨entry, hsome, hunwritten | ⟨hwritten, last, hlast, hslot⟩⟩ :=
      hookImports_cases outcome code select 0 entries s
    · exact .inl hnone
    · exact .inr ⟨entry, hsome, .inl hunwritten⟩
    · exact .inr ⟨entry, hsome, .inr ⟨hwritten, last.slot, isSlot_of_imports himports hlast,
        hslot⟩⟩

/-- What ends with the imports of `dxgi.dll` leaves what they left. -/
theorem install_of_refused {image : Image} {stop : Stop String}
    (himage : Image.mainModule s.memory base = .ok image)
    (h : (hookModule outcome code dxgiImport image "dxgi.dll" s).1 = .error stop) :
    (install outcome code base s).2 =
      (hookModule outcome code dxgiImport image "dxgi.dll" s).2 := by
  rcases hdxgi : hookModule outcome code dxgiImport image "dxgi.dll" s with ⟨result, s'⟩
  rw [hdxgi] at h
  obtain rfl : result = .error stop := h
  rw [install, himage]
  simp only [hdxgi]

/-- The imports of `amd_ags_x64.dll` are hooked after those of `dxgi.dll`. -/
theorem install_of_hooked {image : Image} {n : Nat}
    (himage : Image.mainModule s.memory base = .ok image)
    (h : (hookModule outcome code dxgiImport image "dxgi.dll" s).1 = .ok n) :
    (install outcome code base s).2 = (hookModule outcome code agsImport image
      "amd_ags_x64.dll" (hookModule outcome code dxgiImport image "dxgi.dll" s).2).2 := by
  rcases hdxgi : hookModule outcome code dxgiImport image "dxgi.dll" s with ⟨result, s'⟩
  rw [hdxgi] at h
  obtain rfl : result = .ok n := h
  rw [install, himage]
  simp only [hdxgi]
  rcases hookModule outcome code agsImport image "amd_ags_x64.dll" s' with ⟨result, s''⟩
  cases result <;> rfl

/-- A call that writes nothing leaves the memory as it is, and one that writes leaves a hook
in some slot. -/
theorem install_cases (outcome : Nat → WriteOutcome) (code : HookedImport → UInt64)
    {image : Image} (himage : Image.mainModule s.memory base = .ok image) :
    ((∀ entry, firstImport image s.memory = .ok (some entry) →
        ¬ Written (outcome s.writes) entry) ∧
      (install outcome code base s).2.memory = s.memory) ∨
    ∃ entry, firstImport image s.memory = .ok (some entry) ∧
      Written (outcome s.writes) entry ∧
      ∃ slot, IsMainSlot outcome code image s slot ∧ ∃ hook,
        (install outcome code base s).2.memory.readPointer slot = code hook := by
  obtain ⟨stop, himports, hdxgi⟩ | ⟨dxgi, himports, ⟨hnone, hdxgi⟩ | ⟨entry, hfirst, hwrite⟩⟩ :=
    hookModule_cases outcome code dxgiImport image "dxgi.dll" s
  · -- the tables of `dxgi.dll` are refused, and the call ends before the first write
    have hinstall := install_of_refused himage (congrArg Prod.fst hdxgi)
    rw [hinstall, hdxgi]
    refine .inl ⟨fun entry hentry => ?_, rfl⟩
    rw [firstImport, himports] at hentry
    cases hentry
  · -- nothing of `dxgi.dll` is hooked, so the other module is enumerated in the same memory
    have hinstall := install_of_hooked himage (congrArg Prod.fst hdxgi)
    have hstate : (hookModule outcome code dxgiImport image "dxgi.dll" s).2 = s :=
      congrArg Prod.snd hdxgi
    rw [hinstall, hstate]
    have hfirst : firstImport image s.memory = (image.imports s.memory "amd_ags_x64.dll" >>=
        fun ags => pure (firstHooked agsImport ags)) := by
      rw [firstImport, himports]
      change (match firstHooked dxgiImport dxgi with | some entry => _ | none => _) = _
      rw [hnone]
    rw [hfirst]
    obtain ⟨stop, himports', hags⟩ | ⟨ags, himports', ⟨hnone', hags⟩ |
        ⟨entry, hfirst', hwrite⟩⟩ := hookModule_cases outcome code agsImport image
      "amd_ags_x64.dll" s
    · rw [himports', hags]
      exact .inl ⟨fun entry hentry => (nomatch hentry), rfl⟩
    · rw [himports', hags]
      refine .inl ⟨fun entry hentry => ?_, rfl⟩
      cases hnone'.symm.trans (Except.ok.inj hentry)
    · rw [himports']
      rcases hwrite with ⟨hunwritten, -, hmemory⟩ | ⟨hwritten, slot, hslot, hhook⟩
      · refine .inl ⟨fun entry' hentry => ?_, hmemory⟩
        obtain rfl := Option.some.inj (hfirst'.symm.trans (Except.ok.inj hentry))
        exact hunwritten
      · exact .inr ⟨entry, congrArg Except.ok hfirst', hwritten, slot, .inl hslot, hhook⟩
  · -- `dxgi.dll` has an import to hook, so its first write decides
    have hfirst' : firstImport image s.memory = .ok (some entry) := by
      rw [firstImport, himports]
      change (match firstHooked dxgiImport dxgi with | some entry => _ | none => _) = _
      rw [hfirst]
      rfl
    rcases hwrite with ⟨hunwritten, ⟨stop, hstop⟩, hmemory⟩ | ⟨hwritten, slot, hslot, hook, hhook⟩
    · rw [install_of_refused himage hstop]
      refine .inl ⟨fun entry' hentry => ?_, hmemory⟩
      obtain rfl := Option.some.inj (Except.ok.inj (hfirst'.symm.trans hentry))
      exact hunwritten
    · refine .inr ⟨entry, hfirst', hwritten, ?_⟩
      cases hresult : (hookModule outcome code dxgiImport image "dxgi.dll" s).1 with
      | error stop =>
        rw [install_of_refused himage hresult]
        exact ⟨slot, .inl hslot, hook, hhook⟩
      | ok n =>
        rw [install_of_hooked himage hresult]
        -- the hook of `dxgi.dll` stays, unless a slot is hooked after it
        obtain ⟨stop, -, hags⟩ | ⟨ags, -, ⟨-, hags⟩ | ⟨entry', -, ⟨-, -, hmemory⟩ |
            ⟨-, slot', hslot', hhook'⟩⟩⟩ := hookModule_cases outcome code agsImport image
          "amd_ags_x64.dll" (hookModule outcome code dxgiImport image "dxgi.dll" s).2
        · rw [hags]
          exact ⟨slot, .inl hslot, hook, hhook⟩
        · rw [hags]
          exact ⟨slot, .inl hslot, hook, hhook⟩
        · rw [hmemory]
          exact ⟨slot, .inl hslot, hook, hhook⟩
        · exact ⟨slot', .inr hslot', hhook'⟩

/-- Where nothing is written, every slot keeps its value. -/
theorem slotsIntact_of_writesNothing (h : WritesNothing outcome base s) :
    SlotsIntact outcome code base s := by
  intro image himage slot _
  obtain ⟨-, hmemory⟩ | ⟨entry, hentry, hwritten, -⟩ := install_cases outcome code himage
  · rw [hmemory]
  · exact absurd hwritten (h image himage entry hentry)

/-- The hook that a write leaves behind is not what any slot held before. -/
theorem writesNothing_of_slotsIntact (hunhooked : Unhooked outcome code base s)
    (hintact : SlotsIntact outcome code base s) : WritesNothing outcome base s := by
  intro image himage entry hentry hwritten
  obtain ⟨hnothing, -⟩ | ⟨_, -, -, slot, hslot, hook, hhook⟩ := install_cases outcome code himage
  · exact hnothing entry hentry hwritten
  · rw [hintact image himage slot hslot] at hhook
    exact hunhooked image himage slot hslot hook hhook

/-- **When a failed call leaves the slots alone.** Every slot holds what it held before when
nothing was written before the error; and in a module that holds no hook yet, only then. -/
theorem failed_install_intact_iff (outcome : Nat → WriteOutcome) (code : HookedImport → UInt64)
    (base : UInt64) (s : ImportState) :
    ∀ stop, (install outcome code base s).1 = .error stop →
      (WritesNothing outcome base s → SlotsIntact outcome code base s) ∧
      (Unhooked outcome code base s → SlotsIntact outcome code base s →
        WritesNothing outcome base s) := by
  intro stop _
  constructor
  · exact slotsIntact_of_writesNothing
  · exact writesNothing_of_slotsIntact

/-! ### A sample module

A main module that imports `CreateDXGIFactory1` from `dxgi.dll`, and whose descriptor of
`amd_ags_x64.dll` has no table of names. -/

def sampleBase : UInt64 := 0x140000000

/-- What the module holds, by relative address. -/
def sampleTables : List (Nat × List UInt8) :=
  [(0, [0x4D, 0x5A]), (0x3C, toLittleEndian 4 0x80), (0x80, toLittleEndian 4 0x4550),
    (0x98, toLittleEndian 2 0x20B), (0xD0, toLittleEndian 4 0x1000),
    (0x110, toLittleEndian 4 0x200), (0x114, toLittleEndian 4 60),
    (0x200, toLittleEndian 4 0x300), (0x20C, toLittleEndian 4 0x280),
    (0x210, toLittleEndian 4 0x400),
    (0x220, toLittleEndian 4 0x290), (0x224, toLittleEndian 4 0x440),
    (0x280, asciiBytes "dxgi.dll"), (0x290, asciiBytes "amd_ags_x64.dll"),
    (0x300, toLittleEndian 8 0x500), (0x502, asciiBytes "CreateDXGIFactory1"),
    (0x400, toLittleEndian 8 0x180001000), (0x440, toLittleEndian 8 0x180002000)]

def sampleModule : ImportState where
  memory := sampleTables.foldl
    (fun memory field => memory.write (sampleBase + UInt64.ofNat field.1) field.2) fun _ => 0
  originals _ := 0
  writes := 0

def sampleImage : Image where
  base := sampleBase
  size := 0x1000
  importRva := 0x200
  importSize := 60
  size_lt := by decide
  inside := by decide

/-- The addresses of the hooks. -/
def sampleHook (hook : HookedImport) : UInt64 := 0x7FF000001000 + 16 * UInt64.ofNat hook.ctorIdx

/-- Every call of a write succeeds. -/
def sampleWrites (_ : Nat) : WriteOutcome := ⟨true, true, true⟩

/-- The headers of the sample module are well formed. -/
theorem mainModule_sampleModule :
    Image.mainModule sampleModule.memory sampleBase = .ok sampleImage := by decide +kernel

/-- The sample module has two slots, as long as its tables are what they are. -/
theorem eq_of_isSlot {memory : ByteMemory} {slot : UInt64}
    (hfirst : (sampleImage.descriptor memory 0).firstThunk = 0x400 ∧
      (sampleImage.descriptor memory 1).firstThunk = 0x440)
    (hthunks : sampleImage.thunk memory (sampleImage.descriptor memory 0) 1 = 0 ∧
      sampleImage.thunk memory (sampleImage.descriptor memory 1) 1 = 0)
    (hend : (sampleImage.descriptor memory 2).IsTerminator)
    (h : sampleImage.IsSlot memory slot) : slot = 0x140000400 ∨ slot = 0x140000440 := by
  obtain ⟨i, hi, hbefore, k, hk, rfl⟩ := h
  -- the third descriptor is the terminator, and the second thunk of each table is zero
  have hi : i = 0 ∨ i = 1 := by
    have hne : i < 2 := Nat.lt_of_not_le fun hle => hbefore 2 hle hend
    omega
  have hk0 : k = 0 := by
    by_contra hne
    have hone := hk 1 (by omega)
    rcases hi with rfl | rfl
    · exact hone hthunks.1
    · exact hone hthunks.2
  subst hk0
  rcases hi with rfl | rfl
  · rw [hfirst.1]
    exact .inl (by decide)
  · rw [hfirst.2]
    exact .inr (by decide)

/-- No slot of the sample module holds a hook. -/
theorem sampleModule_unhooked :
    Unhooked sampleWrites sampleHook sampleBase sampleModule := by
  intro image himage slot hslot
  obtain rfl := Except.ok.inj (mainModule_sampleModule.symm.trans himage)
  have hslot : slot = 0x140000400 ∨ slot = 0x140000440 := by
    rcases hslot with h | h
    · exact eq_of_isSlot (by decide +kernel) (by decide +kernel) (by decide +kernel) h
    · exact eq_of_isSlot (by decide +kernel) (by decide +kernel) (by decide +kernel) h
  intro hook
  rcases hslot with rfl | rfl
  · cases hook <;> decide +kernel
  · cases hook <;> decide +kernel

/-- The call fails at the second descriptor of the sample module. -/
theorem install_sampleModule :
    (install sampleWrites sampleHook sampleBase sampleModule).1 =
      Except.fail "amd_ags_x64.dll import has no original thunk table" := by decide +kernel

/-- The sample module, whose first slot is written. -/
theorem failed_install_intact_iff_sample :
    WritesNothing sampleWrites sampleBase sampleModule ↔
      SlotsIntact sampleWrites sampleHook sampleBase sampleModule := by
  obtain ⟨hintact, hnothing⟩ := failed_install_intact_iff sampleWrites sampleHook sampleBase
    sampleModule _ install_sampleModule
  exact ⟨hintact, hnothing sampleModule_unhooked⟩

/-- The call fails, and leaves its hook in the slot of `CreateDXGIFactory1`, although every
write succeeds. -/
theorem failed_install_leaves_hook :
    (install sampleWrites sampleHook sampleBase sampleModule).1 =
      Except.fail "amd_ags_x64.dll import has no original thunk table" ∧
    ¬ ∀ outcome code base s stop, (install outcome code base s).1 = .error stop →
      SlotsIntact outcome code base s := by
  refine ⟨install_sampleModule, fun h => ?_⟩
  have himports : sampleImage.imports sampleModule.memory "dxgi.dll" =
      .ok [⟨"CreateDXGIFactory1", 0x140000400, 0x180001000⟩] := by decide +kernel
  have hslot : IsMainSlot sampleWrites sampleHook sampleImage sampleModule 0x140000400 :=
    .inl (isSlot_of_imports himports List.mem_cons_self)
  -- the slot would hold what it held before
  have hintact := h sampleWrites sampleHook sampleBase sampleModule _ install_sampleModule
    sampleImage mainModule_sampleModule _ hslot
  revert hintact
  decide +kernel

end Dxgi
end WindowedHdr
