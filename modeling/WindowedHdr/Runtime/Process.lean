import WindowedHdr.Library.ThreadSystem
import WindowedHdr.Runtime.Startup

/-!
# The process

`process code` is the game's process with the DLL in it, whose hooks lie at `code`. Its threads
enter at the loader's entry point, at an initializer, at the initialization thread once that
was spawned, or at any hook, in any number and order, and each of their calls is one step. What
a load returns is what the globals hold; what the operating system, COM or the game return is
up to them. Other modules write to memory at any time.

What makes the model one of the process, and not of single hooks, is `perform`: it says for
every call which answers the globals allow and what becomes of them. Loads and stores of
globals, sections under a lock and operations on records have exactly the answer that their
definition computes; for the others every answer is allowed. Another module may write a pointer
anywhere at any time (`disturb`).

The session at the end is one run from the start of the process to a Present that sets a color
space. It serves as the sample of the later modules, so that each of their theorems is applied
at a run in which something happens.
-/

namespace WindowedHdr
namespace Runtime

open ByteMemory Dxgi Shadow
open GameHdr (HdrCandidateCache)

/-- The globals of the DLL. -/
structure Globals where
  /-- `INIT_STATE`. -/
  initState : UInt8
  /-- `DLL_MODULE`. -/
  dllModule : UInt64
  /-- The initialization threads that were spawned and do not run yet. -/
  spawned : Nat
  flags : Flag → Bool
  /-- `LIVE_HDR_SETTING`. -/
  liveHdrSetting : UInt8
  /-- The memory of the process, and the globals of `dxgi`. -/
  shadows : ShadowState
  /-- `HDR_CANDIDATE_CACHE`. -/
  cache : HdrCandidateCache
  cacheLocked : Bool

/-- `vtable_function`. -/
def vtableFunction (memory : ByteMemory) (object : UInt64) (index : Nat) :
    Except String UInt64 := do
  let vtable ← objectVtable memory object
  -- of whatever vtable the object has now
  let pointer := memory.readPointer (slot vtable index)
  if pointer = 0 then
    .error s!"COM vtable entry {index} is null"
  else
    .ok pointer

/-- What a thread enters at. -/
inductive Entry
  | dllMain (module : UInt64) (reason : UInt32)
  | eldenRingWindowedHdrInit (polls : Nat)
  | eldenRingBorderlessHdrInit (polls : Nat)
  | initializationThread
  | hook (c : GameCall)

@[reducible] def Entry.Result : Entry → Type
  | dllMain .. => Int32
  | eldenRingWindowedHdrInit _ => Bool
  | eldenRingBorderlessHdrInit _ => Bool
  | initializationThread => UInt32
  | hook c => c.Answer

/-- What the thread runs. -/
def Entry.body : (entry : Entry) → Routine entry.Result
  | dllMain module reason => Runtime.dllMain module reason
  | eldenRingWindowedHdrInit polls => Runtime.eldenRingWindowedHdrInit polls
  | eldenRingBorderlessHdrInit polls => Runtime.eldenRingBorderlessHdrInit polls
  | initializationThread => Runtime.initializationThread
  | hook c => Runtime.hook c

namespace Globals

/-- A call that does not change the globals, and returns `value`. -/
def load {α : Type} [DecidableEq α] (s : Globals) (value answer : α) : Option Globals :=
  if answer = value then some s else none

/-- What is loaded is what is there. -/
@[simp] theorem load_eq_some {α : Type} [DecidableEq α] {s s' : Globals} {value answer : α} :
    s.load value answer = some s' ↔ answer = value ∧ s = s' := by
  rw [load, Option.ite_none_right_eq_some, Option.some.injEq]

/-- The shadows become `shadows`. -/
def withShadows (s : Globals) (shadows : ShadowState) : Globals := { s with shadows := shadows }

/-- A thread enters. -/
def enter (s : Globals) : Entry → Option Globals
  | .initializationThread =>
    -- a thread that was spawned starts once
    if 0 < s.spawned then some { s with spawned := s.spawned - 1 } else none
  | _ => some s

/-- What a call does when it returns `answer`; nothing, if it cannot. -/
def perform (code : HookFunction → UInt64) (s : Globals) : (c : Call) → c.Answer → Option Globals
  | .readPointer address, answer => s.load (s.shadows.memory.readPointer address) answer
  | .readByte address, answer => s.load (s.shadows.memory address) answer
  | .vtableFunction object index, answer =>
    s.load (vtableFunction s.shadows.memory object index) answer
  | .findShadowRecord object kind, answer =>
    s.load (s.shadows.findShadowRecord object kind) answer
  | .recordEntryCount record, answer =>
    -- the record was found, and records are never freed
    s.load (((s.shadows.records[record]?).map ShadowRecord.entryCount).getD 0) answer
  | .loadSavedRecordFunction record index, answer =>
    s.load ((s.shadows.records[record]?).bind (·.loadSavedRecordFunction index)) answer
  | .loadObjectFunction object kind index, answer =>
    s.load (s.shadows.loadObjectFunction code object kind index) answer
  | .installShadowVtable object kind entryCount, answer =>
    -- the outcomes of the allocation and of the protection calls are part of the answer
    let r := patchObject code answer.1 s.shadows object kind entryCount
    (s.withShadows r.2).load r.1 answer.2
  | .retireRecord record, _ =>
    some (s.withShadows (s.shadows.updateRecord record ShadowRecord.retire))
  | .swapChainState swapChain op, answer =>
    -- a state is made when it is asked for
    let r := op.apply ((s.shadows.swapChainStates swapChain).getD {})
    (s.withShadows (s.shadows.updateSwapChainState swapChain fun _ => r.2)).load r.1 answer
  | .removeSwapChainState swapChain, _ =>
    some (s.withShadows (s.shadows.removeSwapChainState swapChain))
  | .swapActiveSwapChain swapChain, answer =>
    (s.withShadows { s.shadows with activeSwapChain := swapChain }).load
      s.shadows.activeSwapChain answer
  | .loadActiveSwapChain, answer => s.load s.shadows.activeSwapChain answer
  | .clearActiveSwapChain object, answer =>
    if s.shadows.activeSwapChain = object then
      (s.withShadows { s.shadows with activeSwapChain := 0 }).load true answer
    else
      s.load false answer
  | .loadActiveSwapChainRevision, answer => s.load s.shadows.activeSwapChainRevision answer
  | .advanceActiveSwapChainRevision, _ =>
    some (s.withShadows
      { s.shadows with activeSwapChainRevision := s.shadows.activeSwapChainRevision + 1 })
  | .activeSwapChainSnapshot, answer =>
    s.load (GameHdr.activeSwapChainSnapshot s.shadows) answer
  | .lockCandidateCache, answer =>
    -- the lock is free
    if s.cacheLocked then none else { s with cacheLocked := true }.load s.cache answer
  | .unlockCandidateCache cache, _ => some { s with cache := cache, cacheLocked := false }
  | .loadFlag flag, answer => s.load (s.flags flag) answer
  | .storeFlag flag value, _ => some { s with flags := Function.update s.flags flag value }
  | .loadLiveHdrSetting, answer => s.load s.liveHdrSetting answer
  | .storeLiveHdrSetting value, _ => some { s with liveHdrSetting := value }
  | .claimInitState, answer =>
    if s.initState = 0 then { s with initState := 1 }.load true answer else s.load false answer
  | .loadInitState, answer => s.load s.initState answer
  | .storeInitState value, _ => some { s with initState := value }
  | .storeDllModule module, _ => some { s with dllModule := module }
  | .loadDllModule, answer => s.load s.dllModule answer
  | .spawnInitializationThread, answer =>
    some { s with spawned := s.spawned + answer.toNat }
  -- what is called outside of the DLL leaves its globals alone
  | .loadOriginal _, _ => some s
  | .forward .., _ => some s
  | .native .., _ => some s
  | .readGuid _, _ => some s
  | .disableThreadNotifications _, _ => some s
  | .sleep _, _ => some s
  | .modulePath _, _ => some s
  | .createLog _, _ => some s
  | .fileSize _, _ => some s
  | .fileHash _, _ => some s
  | .loadOrCreateConfig _, _ => some s
  | .resolve .., _ => some s
  | .installImportHooks, _ => some s
  | .patchMenuGate .., _ => some s
  | .patchAvailability _, _ => some s
  | .patchGraphicsConfig _, _ => some s
  | .patchBackendQuery _, _ => some s

/-- Another module writes a pointer. -/
def disturb (s : Globals) (write : UInt64 × UInt64) : Option Globals :=
  some (s.withShadows
    { s.shadows with memory := s.shadows.memory.writePointer write.1 write.2 })

/-- The DLL was just loaded. -/
structure Initial (s : Globals) : Prop where
  initState : s.initState = 0
  dllModule : s.dllModule = 0
  spawned : s.spawned = 0
  flags : ∀ flag, s.flags flag = false
  liveHdrSetting : s.liveHdrSetting = liveHdrUnknown
  records : s.shadows.records = []
  swapChainStates : ∀ swapChain, s.shadows.swapChainStates swapChain = none
  activeSwapChain : s.shadows.activeSwapChain = 0
  activeSwapChainRevision : s.shadows.activeSwapChainRevision = 1
  cache : s.cache = {}
  cacheLocked : s.cacheLocked = false

/-- The globals when the DLL was just loaded. -/
def justLoaded (memory : ByteMemory) : Globals where
  initState := 0
  dllModule := 0
  spawned := 0
  flags _ := false
  liveHdrSetting := liveHdrUnknown
  shadows :=
    { memory := memory
      records := []
      swapChainStates _ := none
      activeSwapChain := 0
      -- revision 0 is what an empty cache says
      activeSwapChainRevision := 1 }
  cache := {}
  cacheLocked := false

/-- These are initial globals. -/
theorem justLoaded_initial (memory : ByteMemory) : Initial (justLoaded memory) where
  initState := rfl
  dllModule := rfl
  spawned := rfl
  flags _ := rfl
  liveHdrSetting := rfl
  records := rfl
  swapChainStates _ := rfl
  activeSwapChain := rfl
  activeSwapChainRevision := rfl
  cache := rfl
  cacheLocked := rfl

end Globals

/-- The process. -/
def process (code : HookFunction → UInt64) :
    ThreadSystem Globals Call Call.Answer Entry Entry.Result (UInt64 × UInt64) where
  Init := Globals.Initial
  body := Entry.body
  enter := Globals.enter
  perform := Globals.perform code
  disturb := Globals.disturb

/-- What a thread of the process did. -/
abbrev Happening := ThreadSystem.Happening Call.Answer Entry.Result

/-- A state of the process, with its threads and its history. -/
abbrev ProcessState := ThreadSystem.State Globals Call Call.Answer Entry.Result

instance : Nonempty Guid := ⟨iidIdxgiFactory⟩

instance : Nonempty SwapChainDescription := ⟨⟨⟨0, 0, 0, 0⟩, 0, 0, 0⟩⟩

instance : Nonempty GameHdr.OutputDesc1 := ⟨⟨0, 0, 0⟩⟩

instance : Nonempty HdrCandidateCache := ⟨{}⟩

instance : Nonempty Shadow.InstallOutcome :=
  ⟨{ clone := ⟨fun _ => none, fun _ => 0⟩
     protectReadWrite := true
     protectReadOnly := true
     rootInDxgi := true
     interloper := none }⟩

instance (c : GameCall) : Nonempty c.Answer := by
  cases c <;> exact inferInstance

instance (c : NativeCall) : Nonempty c.Answer := by
  cases c <;> exact inferInstance

instance (op : StateOp) : Nonempty op.Answer := by
  cases op <;> exact inferInstance

instance (c : Call) : Nonempty c.Answer := by
  cases c <;> exact inferInstance

/-- The process begins when the DLL was just loaded, before any thread has entered. -/
theorem reachable_justLoaded (code : HookFunction → UInt64) (memory : ByteMemory) :
    (process code).system.Reachable (.idle (.justLoaded memory) []) :=
  ThreadSystem.reachable_idle (Globals.justLoaded_initial memory)

/-! ### A process that has started -/

def sampleDll : ModulePath := ⟨"C:\\Game\\mods\\windowed_hdr.dll", some "windowed_hdr.dll"⟩

def sampleExe : ModulePath := ⟨"C:\\Game\\eldenring.exe", some "eldenring.exe"⟩

/-- The globals after an initialization in the mode that emulates HDR and sets the color space. -/
def Globals.started (memory : ByteMemory) : Globals :=
  { justLoaded memory with
    initState := 2
    dllModule := 0x180000000
    flags := fun flag => match flag with
      | .menuGateUnlock => true
      | .windowedAvailability => false
      | .backendExperiment => true
      | .backendColorSpaceSync => true }

/-- The process can come to its initialized state: the loader claims the initialization, and the
thread that it spawns installs everything. -/
theorem exists_started (code : HookFunction → UInt64) (memory : ByteMemory)
    (targets : GameCompat.GameTargets) :
    ∃ history, (process code).system.Reachable (.idle (.started memory) history) := by
  -- the loader
  have h := ThreadSystem.reachable_enter 0 (.dllMain 0x180000000 dllProcessAttach)
    (reachable_justLoaded code memory) rfl
  have h := ThreadSystem.reachable_call () h rfl
  have h := ThreadSystem.reachable_call () h rfl
  have h := ThreadSystem.reachable_call true h rfl
  have h := ThreadSystem.reachable_call true h rfl
  have h := ThreadSystem.reachable_return h
  -- the files
  have h := ThreadSystem.reachable_enter 0 .initializationThread h rfl
  have h := ThreadSystem.reachable_call (0x180000000 : UInt64) h rfl
  have h := ThreadSystem.reachable_call (.ok sampleDll) h rfl
  have h := ThreadSystem.reachable_call (.ok ()) h rfl
  have h := ThreadSystem.reachable_call (.ok sampleExe) h rfl
  have h := ThreadSystem.reachable_call (.ok 0x5000000) h rfl
  have h := ThreadSystem.reachable_call (.ok "e3b0c442") h rfl
  have h := ThreadSystem.reachable_call (.ok (⟨.emulateHdrAndSetPq, false⟩, false)) h rfl
  have h := ThreadSystem.reachable_call (.ok targets) h rfl
  -- the hooks
  have h := ThreadSystem.reachable_call (.ok ⟨1, 0⟩) h rfl
  have h := ThreadSystem.reachable_call () h rfl
  have h := ThreadSystem.reachable_call (.ok ()) h rfl
  have h := ThreadSystem.reachable_call (.ok 0x10000) h rfl
  have h := ThreadSystem.reachable_call () h rfl
  have h := ThreadSystem.reachable_call () h rfl
  have h := ThreadSystem.reachable_call (.ok 0x10040) h rfl
  -- the switches
  have h := ThreadSystem.reachable_call () h rfl
  have h := ThreadSystem.reachable_call () h rfl
  have h := ThreadSystem.reachable_call () h rfl
  have h := ThreadSystem.reachable_return h
  -- the flags were set one by one, and only their values count
  refine ⟨_, Eq.subst (motive := fun g => (process code).system.Reachable (.idle g _))
    (congrArg (fun flags => { Globals.started memory with flags := flags }) (funext ?_)) h⟩
  rintro (_ | _ | _ | _) <;> rfl

/-- The backend at `0x9000` supports HDR. -/
def sampleMemory : ByteMemory := fun address => if address = 0x9032 then 4 else 0

/-- Some targets; nothing here depends on them. -/
def sampleTargets : GameCompat.GameTargets where
  menuGateVtableRva := 0
  menuGateCompleteObjectLocatorRva := 0
  menuGateInvokeRva := 0
  menuGateEntries := .replicate 6 0
  menuGateInvokeBytes := .replicate 19 0
  commonAvailabilityRva := 0
  commonAvailabilityPrologue := .replicate 14 0
  securityCookieRva := 0
  graphicsConfigApplyRva := 0
  graphicsConfigApplyPrologue := .replicate 14 0
  backendActualQueryRva := 0
  backendActualQueryPrologue := .replicate 14 0

/-- A query of the backend that has come to the cache. -/
theorem exists_waiting (code : HookFunction → UInt64) :
    ∃ history past next, (process code).system.Reachable
      (.alone 0 ⟨.hook (.hdrBackendActualQuery 0x9000 0), past, .call .lockCandidateCache next⟩
        (.started sampleMemory) history) := by
  obtain ⟨history, h⟩ := exists_started code sampleMemory sampleTargets
  have h := ThreadSystem.reachable_enter 0 (.hook (.hdrBackendActualQuery 0x9000 0)) h rfl
  have h := ThreadSystem.reachable_call (some 0x500) h rfl
  have h := ThreadSystem.reachable_call (0 : UInt8) h rfl
  -- what is read of the backend
  have h := ThreadSystem.reachable_call (0 : UInt8) h rfl
  have h := ThreadSystem.reachable_call (4 : UInt8) h rfl
  have h := ThreadSystem.reachable_call (0 : UInt64) h rfl
  -- what the switches say
  have h := ThreadSystem.reachable_call liveHdrUnknown h rfl
  have h := ThreadSystem.reachable_call true h rfl
  have h := ThreadSystem.reachable_call true h rfl
  have h := ThreadSystem.reachable_call false h rfl
  have h := ThreadSystem.reachable_call (0 : UInt64) h rfl
  have h := ThreadSystem.reachable_call (1 : UInt64) h rfl
  exact ⟨_, _, _, h⟩

/-! ### A session

A factory is created, and a swap chain with it. The game's backend is asked whether HDR is on,
and the swap chain is presented. -/

/-- The factory lies at `0x5000` and the swap chain at `0x5800`, with its newer interfaces at
`0x5880`; the game is handed their addresses at `0x6000` and `0x6008`. The backend at `0x9000`
supports HDR. -/
def sessionMemory : ByteMemory :=
  [((0x5000 : UInt64), (0x2000 : UInt64)), (0x5800, 0x2000), (0x5880, 0x2000), (0x6000, 0x5000),
    (0x6008, 0x5800), (0x9000, 0x5800), (0x9030, 0x40000)].foldl
      (fun memory write => memory.writePointer write.1 write.2) fun _ => 1

/-- Everything succeeds in the session. -/
def sessionNative : (c : NativeCall) → c.Answer
  | .queryInterface this _ => ((0 : HResult), this + 0x80)
  | .release _ => (1 : UInt32)
  | .getDesc _ => ((0 : HResult), ⟨⟨24, 2, 1, 4⟩, 3840, 2160, 0⟩)
  | .getDesc1 _ => (0 : HResult)
  | .getFullscreenState _ => ((0 : HResult), 0)
  | .getContainingOutput _ => ((0 : HResult), 0x5900)
  | .getOutputDesc1 _ => ((0 : HResult), ⟨1, 10, dxgiColorSpaceRgbFullG2084NoneP2020⟩)
  | .checkColorSpaceSupport .. => ((0 : HResult), 1)
  | .setColorSpace1 .. => (0 : HResult)

/-- The game calls nothing that it would have to answer with anything but zero. -/
def sessionGame (c : GameCall) : c.Answer := by
  cases c <;> exact default

/-- What an installation of the session does; what it allocates depends on the object. -/
def sessionOutcome (object : UInt64) : InstallOutcome := sampleOutcomeAt (0x10 * object)

/-- The answers of the session. -/
def sessionAnswers (g : Globals) : (c : Call) → c.Answer
  | .loadOriginal _ => some 0x500
  | .forward _ c => sessionGame c
  | .native _ c => sessionNative c
  | .readPointer address => g.shadows.memory.readPointer address
  | .readByte address => g.shadows.memory address
  | .readGuid _ => iidIdxgiFactory
  | .vtableFunction object index => vtableFunction g.shadows.memory object index
  | .findShadowRecord object kind => g.shadows.findShadowRecord object kind
  | .recordEntryCount record => ((g.shadows.records[record]?).map ShadowRecord.entryCount).getD 0
  | .loadSavedRecordFunction record index =>
    (g.shadows.records[record]?).bind (·.loadSavedRecordFunction index)
  | .loadObjectFunction object kind index =>
    g.shadows.loadObjectFunction sampleCode object kind index
  | .installShadowVtable object kind entryCount =>
    (sessionOutcome object,
      (patchObject sampleCode (sessionOutcome object) g.shadows object kind entryCount).1)
  | .retireRecord _ => ()
  | .swapChainState swapChain op =>
    (op.apply ((g.shadows.swapChainStates swapChain).getD {})).1
  | .removeSwapChainState _ => ()
  | .swapActiveSwapChain _ => g.shadows.activeSwapChain
  | .loadActiveSwapChain => g.shadows.activeSwapChain
  | .clearActiveSwapChain object => decide (g.shadows.activeSwapChain = object)
  | .loadActiveSwapChainRevision => g.shadows.activeSwapChainRevision
  | .advanceActiveSwapChainRevision => ()
  | .activeSwapChainSnapshot => GameHdr.activeSwapChainSnapshot g.shadows
  | .lockCandidateCache => g.cache
  | .unlockCandidateCache _ => ()
  | .loadFlag flag => g.flags flag
  | .storeFlag .. => ()
  | .loadLiveHdrSetting => g.liveHdrSetting
  | .storeLiveHdrSetting _ => ()
  | .claimInitState => decide (g.initState = 0)
  | .loadInitState => g.initState
  | .storeInitState _ => ()
  | .storeDllModule _ => ()
  | .loadDllModule => g.dllModule
  | .disableThreadNotifications _ => ()
  | .spawnInitializationThread => true
  | .sleep _ => ()
  | .modulePath module => .ok (if module = 0 then sampleExe else sampleDll)
  | .createLog _ => .ok ()
  | .fileSize _ => .ok 0x5000000
  | .fileHash _ => .ok "e3b0c442"
  | .loadOrCreateConfig _ => .ok (⟨.emulateHdrAndSetPq, false⟩, false)
  | .resolve .. => .ok sampleTargets
  | .installImportHooks => .ok ⟨1, 0⟩
  | .patchMenuGate .. => .ok ()
  | .patchAvailability _ => .ok 0x10000
  | .patchGraphicsConfig _ => .ok 0x10000
  | .patchBackendQuery _ => .ok 0x10040

/-- The session up to the first frame. -/
def sampleSession : Option (Globals × List Happening) :=
  (process sampleCode).session sessionAnswers
    [.dllMain 0x180000000 dllProcessAttach, .initializationThread,
      .hook (.createDxgiFactory 0x7000 0x6000), .hook (.createSwapChain 0x5000 0 0 0x6008),
      .hook (.hdrBackendActualQuery 0x9000 0)]
    (.justLoaded sessionMemory) []

/-- The frame is presented. -/
def presentFrame (r : Globals × List Happening) : Option (Globals × List Happening) :=
  (process sampleCode).session sessionAnswers [.hook (.present 0x5800 1 0)] r.1 r.2

/-- A color space is set. -/
def setsColorSpace : Happening → Bool
  -- whoever calls it, and whatever it returns
  | .called _ ⟨.native _ (.setColorSpace1 ..), _⟩ => true
  | _ => false

/-- The state of a swap chain is removed. -/
def removesState : Happening → Bool
  | .called _ ⟨.removeSwapChainState _, _⟩ => true
  | _ => false

/-- The swap chain was captured, a transition is due, and it is submitted with the frame. -/
def frameSetsColorSpace (r : Globals × List Happening) : Bool :=
  r.2.all (fun e => !removesState e) &&
  (r.1.shadows.loadObjectFunction sampleCode 0x5800 .swapChain swapChainPresentIndex).isSome &&
  (StateOp.beginTransition.apply ((r.1.shadows.swapChainStates 0x5800).getD {})).1.isSome &&
  (presentFrame r).any fun r' => r'.2.any setsColorSpace

/-- The session goes as described. -/
theorem sampleSession_setsColorSpace : sampleSession.any frameSetsColorSpace = true := by
  decide +kernel

/-- The session is a run of the process. -/
theorem reachable_sampleSession {r : Globals × List Happening} (h : sampleSession = some r) :
    (process sampleCode).system.Reachable (.idle r.1 r.2) :=
  ThreadSystem.reachable_session (reachable_justLoaded sampleCode sessionMemory) h

end Runtime
end WindowedHdr
