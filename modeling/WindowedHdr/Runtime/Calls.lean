import WindowedHdr.Config.Parse
import WindowedHdr.Dxgi.ImportHooks
import WindowedHdr.GameHdr.CandidateCache
import WindowedHdr.GameHdr.Install
import WindowedHdr.Library.Program

/-!
# What the functions of this module call

The entry points of the DLL and its hooks are programs over the calls of this file. A call is
a native function, a load or store of a global, a section under a lock, or one operation of
another module of this development; a program says in which order they are made and what is
made of the answers. Log lines are not calls.

* `GameCall` — a call of the game that ends in one of our hooks, with its arguments. The hook
  makes the same call again to forward it (`Call.forward`).
* `NativeCall` — a COM call that a hook makes of its own accord.
* `StateOp` — a section under the lock of `SWAP_CHAIN_STATES`.
* `Call` — all calls, and `Call.Answer` what each of them returns.

The grain of a call is what the hooks can tell apart. An operation that the source makes under
one lock, or that another module of this development describes as a whole, is one call here;
what the source does between two such operations without a lock is two calls, and other threads
may come in between. The answer to a call has the type that the source's function returns, so a
program is the source's control flow and nothing else.
-/

namespace WindowedHdr
namespace Runtime

open Dxgi GameHdr Shadow

/-- Negative values are failures. -/
abbrev HResult := Int32

/-! ### Calls of the game -/

/-- The global pointers to functions that are not found through a shadow record. -/
inductive OriginalSlot
  | imported (slot : HookedImport)
  /-- A function of the game itself. -/
  | game (slot : SavedOriginal)
  deriving DecidableEq

/-- A call that ends in a hook, with its arguments; pointers are addresses. -/
inductive GameCall
  | createDxgiFactory (riid factory : UInt64)
  | createDxgiFactory1 (riid factory : UInt64)
  | agsSetDisplayMode (context : UInt64) (deviceIndex displayIndex : Int32) (settings : UInt64)
  | queryInterface (kind : ShadowKind) (this riid object : UInt64)
  | release (kind : ShadowKind) (this : UInt64)
  | createSwapChain (this device description swapChain : UInt64)
  | createSwapChainForHwnd
      (this device window description fullscreenDescription restrictToOutput swapChain : UInt64)
  | createSwapChainForCoreWindow
      (this device window description restrictToOutput swapChain : UInt64)
  | createSwapChainForComposition (this device description restrictToOutput swapChain : UInt64)
  | present (this : UInt64) (syncInterval flags : UInt32)
  | present1 (this : UInt64) (syncInterval flags : UInt32) (parameters : UInt64)
  | setFullscreenState (this : UInt64) (fullscreen : Int32) (target : UInt64)
  | resizeBuffers (this : UInt64) (bufferCount width height newFormat flags : UInt32)
  | resizeTarget (this requested : UInt64)
  | resizeBuffers1 (this : UInt64) (bufferCount width height newFormat flags : UInt32)
      (creationNodeMask presentQueue : UInt64)
  | checkColorSpaceSupport (this : UInt64) (colorSpace : UInt32) (support : UInt64)
  | setColorSpace1 (this : UInt64) (requestedColorSpace : UInt32)
  | setHdrMetadata (this : UInt64) (metadataType size : UInt32) (metadata : UInt64)
  | hdrMenuGate (this : UInt64)
  | hdrCommonAvailability
  | graphicsConfigApply (destination source : UInt64)
  | hdrBackendActualQuery (backend outputIdentity : UInt64)
  deriving DecidableEq

/-- What the call returns. -/
@[reducible] def GameCall.Answer : GameCall → Type
  | agsSetDisplayMode .. => Int32
  | release .. => UInt32
  | hdrMenuGate _ => UInt8
  | hdrCommonAvailability => UInt8
  | graphicsConfigApply .. => Unit
  | hdrBackendActualQuery .. => UInt8
  | _ => HResult

/-! ### Calls of our own -/

/-- What is read of a `DXGI_SWAP_CHAIN_DESC`. -/
structure SwapChainDescription extends SwapChainDesc where
  width : UInt32
  height : UInt32
  flags : UInt32
  deriving DecidableEq

/-- A COM call of the module's own. -/
inductive NativeCall
  | queryInterface (this : UInt64) (interface : Guid)
  | release (this : UInt64)
  | getDesc (this : UInt64)
  | getDesc1 (this : UInt64)
  | getFullscreenState (this : UInt64)
  | getContainingOutput (this : UInt64)
  | getOutputDesc1 (this : UInt64)
  | checkColorSpaceSupport (this : UInt64) (colorSpace : UInt32)
  | setColorSpace1 (this : UInt64) (colorSpace : UInt32)
  deriving DecidableEq

/-- What the call returns, with what it writes through its last argument. -/
@[reducible] def NativeCall.Answer : NativeCall → Type
  | queryInterface .. => HResult × UInt64
  | release _ => UInt32
  | getDesc _ => HResult × SwapChainDescription
  | getDesc1 _ => HResult
  | getFullscreenState _ => HResult × Int32
  | getContainingOutput _ => HResult × UInt64
  | getOutputDesc1 _ => HResult × OutputDesc1
  | checkColorSpaceSupport .. => HResult × UInt32
  | setColorSpace1 .. => HResult

/-! ### Sections under the lock of the swap-chain states -/

/-- What is done to the state of one swap chain under the lock. -/
inductive StateOp
  /-- `ensure_swap_chain_state`. -/
  | ensure
  /-- The locked part of `request_managed_hdr_color_space`. -/
  | request (hdr : Bool)
  /-- The first locked part of `apply_managed_color_space_before_present`. -/
  | beginTransition
  /-- The second locked part of `apply_managed_color_space_before_present`. -/
  | finishTransition (transition : ManagedColorSpaceTransition) (succeeded : Bool)
  /-- The locked part of `advance_swap_chain_generation`. -/
  | advanceGeneration
  /-- The locked part of `set_color_space1_hook`. -/
  | observeSetColorSpace1 (requestedColorSpace : UInt32)
  /-- The locked part of `note_first_present`. -/
  | noteFirstPresent
  /-- The locked part of `log_swap_chain_state`. -/
  | recordSignature (signature : SwapChainSignature)
  deriving DecidableEq

/-- What the section hands out. -/
@[reducible] def StateOp.Answer : StateOp → Type
  | request _ => Bool
  | beginTransition => Option ManagedColorSpaceTransition
  | observeSetColorSpace1 _ => Bool
  | noteFirstPresent => Bool
  | recordSignature _ => Bool
  | _ => Unit

instance StateOp.decidableEqAnswer (op : StateOp) : DecidableEq op.Answer :=
  match op with
  | ensure => inferInstanceAs (DecidableEq Unit)
  | request _ => inferInstanceAs (DecidableEq Bool)
  | beginTransition => inferInstanceAs (DecidableEq (Option ManagedColorSpaceTransition))
  | finishTransition .. => inferInstanceAs (DecidableEq Unit)
  | advanceGeneration => inferInstanceAs (DecidableEq Unit)
  | observeSetColorSpace1 _ => inferInstanceAs (DecidableEq Bool)
  | noteFirstPresent => inferInstanceAs (DecidableEq Bool)
  | recordSignature _ => inferInstanceAs (DecidableEq Bool)

/-- What the section does. -/
def StateOp.apply : (op : StateOp) → SwapChainState → op.Answer × SwapChainState
  | ensure, state => ((), state)
  | request hdr, state => state.requestManagedHdrColorSpace hdr
  | beginTransition, state => state.beginManagedTransition
  | finishTransition transition succeeded, state =>
    ((), state.finishManagedTransition transition succeeded)
  | advanceGeneration, state => ((), state.advanceGeneration)
  | observeSetColorSpace1 requestedColorSpace, state =>
    state.observeSetColorSpace1 requestedColorSpace
  | noteFirstPresent, state =>
    (!state.firstPresentLogged, { state with firstPresentLogged := true })
  | recordSignature signature, state =>
    (state.lastSignature != some signature, { state with lastSignature := some signature })

/-! ### All calls -/

/-- The switches of `game_hdr`. -/
inductive Flag
  /-- `HDR_MENU_GATE_UNLOCK`. -/
  | menuGateUnlock
  /-- `HDR_WINDOWED_AVAILABILITY_ENABLED`. -/
  | windowedAvailability
  /-- `HDR_BACKEND_EXPERIMENT_ENABLED`. -/
  | backendExperiment
  /-- `HDR_BACKEND_COLOR_SPACE_SYNC_ENABLED`. -/
  | backendColorSpaceSync
  deriving DecidableEq

/-- What is used of a path to a module. -/
structure ModulePath where
  text : String
  /-- The last component, if it is Unicode. -/
  fileName : Option String
  deriving DecidableEq

inductive Call
  /-- Load the function that a hook forwards to; null is `none`. -/
  | loadOriginal (slot : OriginalSlot)
  | forward (function : UInt64) (c : GameCall)
  -- the game's objects and memory
  | native (function : UInt64) (c : NativeCall)
  | readPointer (address : UInt64)
  | readByte (address : UInt64)
  | readGuid (address : UInt64)
  /-- `vtable_function`. -/
  | vtableFunction (object : UInt64) (index : Nat)
  -- the shadow records, and what is installed over an object
  /-- `find_shadow_record`. -/
  | findShadowRecord (object : UInt64) (kind : ShadowKind)
  | recordEntryCount (record : Nat)
  /-- `load_saved_record_function`. -/
  | loadSavedRecordFunction (record index : Nat)
  /-- `load_object_function`. -/
  | loadObjectFunction (object : UInt64) (kind : ShadowKind) (index : Nat)
  /-- `install_shadow_vtable` with the hooks of the kind, under `SHADOW_INSTALL_LOCK`. -/
  | installShadowVtable (object : UInt64) (kind : ShadowKind) (entryCount : Nat)
  /-- Store false to `ShadowRecord::active`. -/
  | retireRecord (record : Nat)
  -- the states of the swap chains, each section of the lock a call of its own
  | swapChainState (swapChain : UInt64) (op : StateOp)
  /-- `states.remove`. -/
  | removeSwapChainState (swapChain : UInt64)
  -- the active swap chain and its revision are two globals, so they are two calls
  | swapActiveSwapChain (swapChain : UInt64)
  | loadActiveSwapChain
  /-- Exchange `ACTIVE_SWAP_CHAIN` for null if it is the object. -/
  | clearActiveSwapChain (object : UInt64)
  | loadActiveSwapChainRevision
  | advanceActiveSwapChainRevision
  /-- `active_swap_chain_snapshot`. -/
  | activeSwapChainSnapshot
  -- the cache stays locked between these two calls, and other threads wait meanwhile
  | lockCandidateCache
  /-- Store the entry and give up the lock. -/
  | unlockCandidateCache (cache : HdrCandidateCache)
  -- the switches and the setting that the hooks of the game share with the setup
  | loadFlag (flag : Flag)
  | storeFlag (flag : Flag) (value : Bool)
  | loadLiveHdrSetting
  | storeLiveHdrSetting (value : UInt8)
  -- the initialization, and what it asks of the operating system
  /-- Exchange `INIT_STATE` for 1 if it is 0. -/
  | claimInitState
  | loadInitState
  | storeInitState (value : UInt8)
  -- the module that the loader names
  | storeDllModule (module : UInt64)
  | loadDllModule
  | disableThreadNotifications (module : UInt64)
  /-- `spawn_thread(initialization_thread)`. -/
  | spawnInitializationThread
  | sleep (milliseconds : UInt32)
  /-- `module_path`. -/
  | modulePath (module : UInt64)
  /-- `Logger::new` for the log file next to the DLL. -/
  | createLog (dllPath : ModulePath)
  | fileSize (path : ModulePath)
  /-- `sha256::file_hex`. -/
  | fileHash (path : ModulePath)
  /-- `Config::load_or_create` for the file next to the DLL. -/
  | loadOrCreateConfig (dllPath : ModulePath)
  /-- `game_compat::resolve`. -/
  | resolve (executableSize : UInt64) (executableHash : String)
  -- the installers; each one checks, patches and verifies, and is a single call here
  /-- `dxgi::install`. -/
  | installImportHooks
  /-- `install_menu_gate` after it has stored the switch. -/
  | patchMenuGate (targets : GameCompat.GameTargets) (unlock requireVerifiedOriginal : Bool)
  /-- `main_module` and `install_verified_availability_hook`. -/
  | patchAvailability (targets : GameCompat.GameTargets)
  /-- `main_module` and `install_verified_inline_hook` at the graphics-config routine. -/
  | patchGraphicsConfig (targets : GameCompat.GameTargets)
  /-- `main_module` and `install_verified_inline_hook` at the backend query. -/
  | patchBackendQuery (targets : GameCompat.GameTargets)

/-- What the call returns. Nondeterminism of an installation that its result does not tell is
part of the answer. -/
@[reducible] def Call.Answer : Call → Type
  | loadOriginal _ => Option UInt64
  | forward _ c => c.Answer
  | native _ c => c.Answer
  | readPointer _ => UInt64
  | readByte _ => UInt8
  | readGuid _ => Guid
  | vtableFunction .. => Except String UInt64
  | findShadowRecord .. => Option Nat
  | recordEntryCount _ => Nat
  | loadSavedRecordFunction .. => Option UInt64
  | loadObjectFunction .. => Option UInt64
  | installShadowVtable .. => Shadow.InstallOutcome × Except String Unit
  | retireRecord _ => Unit
  | swapChainState _ op => op.Answer
  | removeSwapChainState _ => Unit
  | swapActiveSwapChain _ => UInt64
  | loadActiveSwapChain => UInt64
  | clearActiveSwapChain _ => Bool
  | loadActiveSwapChainRevision => UInt64
  | advanceActiveSwapChainRevision => Unit
  | activeSwapChainSnapshot => Option ActiveSwapChainSnapshot
  | lockCandidateCache => HdrCandidateCache
  | unlockCandidateCache _ => Unit
  | loadFlag _ => Bool
  | storeFlag .. => Unit
  | loadLiveHdrSetting => UInt8
  | storeLiveHdrSetting _ => Unit
  | claimInitState => Bool
  | loadInitState => UInt8
  | storeInitState _ => Unit
  | storeDllModule _ => Unit
  | loadDllModule => UInt64
  | disableThreadNotifications _ => Unit
  | spawnInitializationThread => Bool
  | sleep _ => Unit
  | modulePath _ => Except String ModulePath
  | createLog _ => Except String Unit
  | fileSize _ => Except String UInt64
  | fileHash _ => Except String String
  | loadOrCreateConfig _ => Except String (Config × Bool)
  | resolve .. => Except String GameCompat.GameTargets
  | installImportHooks => Except String InstallationReport
  | patchMenuGate .. => Except String Unit
  | patchAvailability _ => Except String UInt64
  | patchGraphicsConfig _ => Except String UInt64
  | patchBackendQuery _ => Except String UInt64

/-- A function of the module. -/
abbrev Routine (α : Type) := Program Call Call.Answer α

/-- An answered call. -/
abbrev Event := Program.Event Call.Answer

/-- Make a call. -/
abbrev ask (c : Call) : Routine c.Answer := Program.ask c

end Runtime
end WindowedHdr
