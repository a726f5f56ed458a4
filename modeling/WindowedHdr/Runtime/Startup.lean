import WindowedHdr.Runtime.Hooks

/-!
# Starting up

The loader calls `DllMain`, and the mod loader one of the two initializers. Whoever comes first
claims `INIT_STATE` and spawns the thread that runs `initialize`; everyone else finds it
claimed. The initializers wait for the outcome, for as many polls as the clock allows.

`initialize` installs the hooks one after the other. Only when all the hooks that the mode
needs are in place does it turn on the switches that change what the game is told.

The order of the installers matters only for what is left when one of them fails: the ones
before it stay, and the switches are never reached.
-/

namespace WindowedHdr

/-! ### What a mode asks for -/

namespace Mode

/-- `emulate_hdr_fullscreen_state`. -/
def emulatesHdrFullscreenState (mode : Mode) : Bool :=
  mode == emulateHdrFullscreenState || mode == emulateHdrAndSetPq || mode == windowedHdr

/-- `synchronize_hdr_color_space`. -/
def synchronizesHdrColorSpace (mode : Mode) : Bool :=
  mode == emulateHdrAndSetPq || mode == windowedHdr

/-- `force_unlock_hdr_menu`. -/
def forcesHdrMenu (mode : Mode) : Bool :=
  mode == unlockHdrMenu || mode == emulateHdrFullscreenState || mode == emulateHdrAndSetPq

end Mode

namespace Runtime

open Dxgi
open GameCompat (GameTargets)

def dllProcessAttach : UInt32 := 1

/-! ### The installers -/

/-- `install_menu_gate`. -/
def installMenuGate (targets : GameTargets) (unlock requireVerifiedOriginal : Bool) :
    Routine (Except String Unit) := do
  -- before the hook can be called
  ask (.storeFlag .menuGateUnlock unlock)
  ask (.patchMenuGate targets unlock requireVerifiedOriginal)

/-- `install_availability_observer`. -/
def installAvailabilityObserver (targets : GameTargets) : Routine (Except String UInt64) := do
  -- the override is turned on only at the end of the initialization
  ask (.storeFlag .windowedAvailability false)
  ask (.patchAvailability targets)

/-- `install_config_observer`. -/
def installConfigObserver (targets : GameTargets) : Routine (Except String UInt64) :=
  ask (.patchGraphicsConfig targets)

/-- `install_backend_observer`. -/
def installBackendObserver (targets : GameTargets) : Routine (Except String UInt64) := do
  ask (.storeFlag .backendExperiment false)
  ask (.storeFlag .backendColorSpaceSync false)
  ask (.patchBackendQuery targets)

/-- `enable_windowed_availability_override`. -/
def enableWindowedAvailabilityOverride : Routine Unit :=
  ask (.storeFlag .windowedAvailability true)

/-- `enable_backend_experiment`. -/
def enableBackendExperiment (synchronizeColorSpace : Bool) : Routine Unit := do
  -- in this order, so that no query finds the experiment on without the other switch
  ask (.storeFlag .backendColorSpaceSync synchronizeColorSpace)
  ask (.storeFlag .backendExperiment true)

/-- Turn on the switches that the mode asks for, if all that it needs is in place. -/
def enableExperimentIf (enabled : Bool) (mode : Mode) : Routine Unit := do
  if enabled then
    if mode == .windowedHdr then
      enableWindowedAvailabilityOverride
    enableBackendExperiment mode.synchronizesHdrColorSpace
  else
    return ()

/-- Run an installer if the targets were resolved. A failed installation is only logged. -/
def installIf {α : Type} (condition : Bool) (targets : Option GameTargets)
    (install : GameTargets → Routine (Except String α)) : Routine Bool := do
  match targets with
  | none => return false
  | some targets =>
    if condition then
      let r ← install targets
      return r.toOption.isSome
    else
      return false

/-! ### Initialization -/

/-- `is_elden_ring`. -/
def isEldenRing (path : ModulePath) : Bool :=
  match path.fileName with
  | none => false
  | some name => Str.eqIgnoreAsciiCase name.toList "eldenring.exe".toList

/-- `initialize` after the configuration was read. -/
def installHooks (config : Config) (executableSize : UInt64) (executableHash : String) :
    Routine (Except String Unit) := do
  let resolved ← ask (.resolve executableSize executableHash)
  -- without targets the game is left alone, and only DXGI is observed
  let targets := resolved.toOption
  (ask .installImportHooks).tryThen fun installed => do
    let menuGateHooked ← installIf true targets fun targets =>
      installMenuGate targets config.mode.forcesHdrMenu (config.mode != .observe)
    let availabilityHooked ←
      installIf (config.mode == .windowedHdr) targets installAvailabilityObserver
    let graphicsConfigHooked ← installIf true targets installConfigObserver
    let backendHooked ← installIf true targets installBackendObserver
    enableExperimentIf (config.mode.emulatesHdrFullscreenState && menuGateHooked &&
      (config.mode != .windowedHdr || availabilityHooked) && graphicsConfigHooked &&
      backendHooked && installed.dxgiFactoryImports != 0) config.mode
    -- the experiment is off for the same reason
    if installed.dxgiFactoryImports = 0 then
      return .error "eldenring.exe imports neither CreateDXGIFactory nor CreateDXGIFactory1"
    else
      return .ok ()

/-- Put `text` in front of an error. -/
def withContext {α : Type} (text : String) : Except String α → Except String α
  | .ok a => .ok a
  | .error error => .error (text ++ error)

/-- `initialize`. -/
def initializeDll : Routine (Except String Unit) := do
  let module ← ask .loadDllModule
  if module = 0 then
    return .error "DLL module handle is unavailable"
  else
    (ask (.modulePath module)).tryThen fun dllPath =>
      (ask (.createLog dllPath)).tryThen fun _ =>
        (ask (.modulePath 0)).tryThen fun exePath => do
          -- nothing is touched in any other process
          if !isEldenRing exePath then
            return .error s!"refusing to hook unexpected executable: {exePath.text}"
          else
            (withContext "cannot read target executable metadata: " <$>
              ask (.fileSize exePath)).tryThen fun size =>
              (withContext "cannot hash target executable: " <$>
                ask (.fileHash exePath)).tryThen fun hash =>
                (ask (.loadOrCreateConfig dllPath)).tryThen fun loaded =>
                  installHooks loaded.1 size hash

/-- `initialization_thread`. -/
def initializationThread : Routine UInt32 := do
  let r ← initializeDll
  ask (.storeInitState (if r.toOption.isSome then 2 else 3))
  return 0

/-- `start_initialization`. -/
def startInitialization : Routine Unit := do
  let claimed ← ask .claimInitState
  if claimed then
    -- nobody else will, so a failure is the outcome
    let spawned ← ask .spawnInitializationThread
    if !spawned then
      ask (.storeInitState 3)

/-- `wait_for_initialization`, when the clock allows `polls` more polls. -/
def waitForInitialization : Nat → Routine Bool
  | 0 => do
    let state ← ask .loadInitState
    return state == 2
  | polls + 1 => do
    let state ← ask .loadInitState
    if state = 2 then
      return true
    else if state = 3 then
      return false
    else
      -- there is no outcome yet
      ask (.sleep 1)
      waitForInitialization polls

/-! ### Entry points -/

/-- `DllMain`. -/
def dllMain (module : UInt64) (reason : UInt32) : Routine Int32 := do
  if reason = dllProcessAttach then
    -- the loader lock is held here, so nothing else is done
    ask (.storeDllModule module)
    ask (.disableThreadNotifications module)
    startInitialization
  return 1

/-- `elden_ring_windowed_hdr_init`. -/
def eldenRingWindowedHdrInit (polls : Nat) : Routine Bool := do
  startInitialization
  waitForInitialization polls

/-- `elden_ring_borderless_hdr_init`. -/
def eldenRingBorderlessHdrInit (polls : Nat) : Routine Bool := eldenRingWindowedHdrInit polls

end Runtime
end WindowedHdr
