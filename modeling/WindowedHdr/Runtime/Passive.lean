import WindowedHdr.Runtime.Startup

/-!
# Calls that change nothing for the game

A call is passive when it neither makes the game's call again, nor sets a color space, nor
touches what a managed color space, a switch, the cache or the start-up depend on. What a
passive call can do is to look at COM objects and at memory, to capture an object, and to keep
the books about swap chains. The functions that observe make passive calls only
(`inspectWindowedHdrCandidate_passive`, `captureSwapChain_passive`, `logSwapChainState_passive`
and so on), whatever they are answered.

The classes are few. What only looks has nothing to do with references either, what is plain has
nothing to do with anything that a thread may hold, what is ordinary asks for no color space
unless it is said to, and what belongs to the setup is named by itself. A function is classified
once, in the smallest class that it is in (`_looks`, `_passive`, `_ordinary`, `_setup`), and the
later modules use one lemma for each class in place of one for each function: what a class means
for the resources, for the rights and for the tokens.
-/

namespace WindowedHdr
namespace Runtime

open Program (Calls calls_ask calls_pure)
open Shadow

/-- The section touches nothing but the books. -/
def StateOp.Passive : StateOp → Prop
  | ensure => True
  | noteFirstPresent => True
  | recordSignature _ => True
  | _ => False

/-- The call only looks at an object. -/
def NativeCall.Passive : NativeCall → Prop
  | setColorSpace1 .. => False
  | _ => True

/-- The number of entries is that of a known interface. -/
def KnownSize (kind : ShadowKind) (entryCount : Nat) : Prop :=
  ∃ riid, kind.vtableLen riid = some entryCount

theorem knownSize_swapChain : KnownSize .swapChain swapChainVtableLength :=
  ⟨iidIdxgiSwapChain, rfl⟩

theorem knownSize_swapChain1 : KnownSize .swapChain swapChain1VtableLength :=
  ⟨iidIdxgiSwapChain1, rfl⟩

/-- The call looks, captures or keeps the books. -/
def Call.Passive : Call → Prop
  | native _ c => c.Passive
  | swapChainState _ op => op.Passive
  | readPointer _ => True
  | readByte _ => True
  | readGuid _ => True
  | vtableFunction .. => True
  | findShadowRecord .. => True
  | recordEntryCount _ => True
  | loadSavedRecordFunction .. => True
  | loadObjectFunction .. => True
  | loadOriginal _ => True
  -- a shadow of another size would count entries that the table does not have
  | installShadowVtable _ kind entryCount => KnownSize kind entryCount
  | swapActiveSwapChain _ => True
  | loadActiveSwapChain => True
  | loadActiveSwapChainRevision => True
  | advanceActiveSwapChainRevision => True
  | activeSwapChainSnapshot => True
  | _ => False

/-- The call obtains no reference, and gives none up. -/
def NativeCall.Looks : NativeCall → Prop
  | queryInterface .. => False
  | release _ => False
  | getContainingOutput _ => False
  | setColorSpace1 .. => False
  | _ => True

/-- The call is passive, and has nothing to do with references. -/
def Call.Looks : Call → Prop
  | native _ c => c.Looks
  | vtableFunction _ index => index ≠ unknownReleaseIndex
  | c => c.Passive

/-- What only looks is passive. -/
theorem Call.Looks.passive {c : Call} (h : c.Looks) : c.Passive := by
  cases c with
  | native function c =>
    cases c with
    | setColorSpace1 => exact h
    | _ => exact trivial
  | vtableFunction => exact trivial
  | _ => exact h

/-- So a function that only looks is passive. -/
theorem passive_of_looks {α : Type} {p : Routine α} (h : Calls Call.Looks p) :
    Calls Call.Passive p :=
  h.mono fun _ => Call.Looks.passive

section Functions

variable {swapChain object : UInt64} {interface : Guid}

/-- Giving up a reference is passive, though it does not only look. -/
theorem releaseComObject_passive : Calls Call.Passive (releaseComObject object) := by
  refine Calls.bind (calls_ask.mpr trivial) fun r => ?_
  -- an object without a readable vtable is left as it is
  cases r with
  | ok function => exact Calls.bind (calls_ask.mpr trivial) fun _ => trivial
  | error e => exact trivial

/-- A query calls a function and tests what it returns. -/
theorem test_calls {α : Type} {S : Call → Prop} {c : Call} {failed : c.Answer → Prop}
    [DecidablePred failed] {text : c.Answer → String} {value : c.Answer → α} (hc : S c) :
    Calls S (do
      let r ← ask c
      if failed r then return .error (text r) else return .ok (value r) :
        Routine (Except String α)) := by
  refine Calls.bind (calls_ask.mpr hc) fun r => ?_
  split <;> exact trivial

/-- The description is read through one function of the swap chain. -/
theorem swapChainDescription_looks : Calls Call.Looks (swapChainDescription swapChain) := by
  -- the entry is not `Release`, so nothing is given up through it
  have hindex : swapChainGetDescIndex ≠ unknownReleaseIndex := by decide
  exact Calls.tryThen (calls_ask.mpr hindex) fun _ => test_calls trivial

/-- So is the fullscreen state. -/
theorem queryFullscreenState_looks : Calls Call.Looks (queryFullscreenState swapChain) := by
  have hindex : swapChainGetFullscreenStateIndex ≠ unknownReleaseIndex := by decide
  exact Calls.tryThen (calls_ask.mpr hindex) fun _ => test_calls trivial

/-- `GetDesc1` is called only through a shadow record that is long enough for it. -/
theorem swapChainDescription1_looks :
    Calls Call.Looks (swapChainDescription1 swapChain) := by
  refine Calls.bind (calls_ask.mpr trivial) fun record => ?_
  cases record with
  | none => exact trivial
  | some record =>
    refine Calls.bind (calls_ask.mpr trivial) fun entryCount => ?_
    -- an interface older than `IDXGISwapChain1` has no such entry
    split
    · exact trivial
    · refine Calls.bind (calls_ask.mpr trivial) fun function => ?_
      cases function with
      | none => exact trivial
      | some function =>
        refine Calls.bind (calls_ask.mpr trivial) fun result => ?_
        split <;> exact trivial

/-- The output is a reference for the caller. -/
theorem containingOutput_passive : Calls Call.Passive (containingOutput swapChain) :=
  Calls.tryThen (calls_ask.mpr trivial) fun _ => test_calls trivial

/-- The output's description: a reference to the output, and one to its newer interface, are
obtained and given up on every path. -/
theorem queryOutputDesc1_passive : Calls Call.Passive (queryOutputDesc1 swapChain) := by
  -- the output is held from here on
  refine Calls.tryThen containingOutput_passive fun output => ?_
  refine Calls.bind (calls_ask.mpr trivial) fun query => ?_
  cases query with
  | error e => exact releaseComObject_passive.bind fun _ => trivial
  | ok query =>
    refine Calls.bind (calls_ask.mpr trivial) fun r => ?_
    split
    · exact releaseComObject_passive.bind fun _ => trivial
    -- and so is its newer interface
    · refine Calls.bind (calls_ask.mpr trivial) fun getDescription => ?_
      cases getDescription with
      | error e =>
        exact releaseComObject_passive.bind fun _ => releaseComObject_passive.bind fun _ => trivial
      | ok getDescription =>
        refine Calls.bind (calls_ask.mpr trivial) fun r => ?_
        refine releaseComObject_passive.bind fun _ => releaseComObject_passive.bind fun _ => ?_
        split <;> exact trivial

/-- The support for PQ is read through one function of the newer interface. -/
theorem checkPqSupport_looks : Calls Call.Looks (checkPqSupport swapChain) := by
  have hindex : swapChainCheckColorSpaceSupportIndex ≠ unknownReleaseIndex := by decide
  exact Calls.tryThen (calls_ask.mpr hindex) fun _ => test_calls trivial

/-- The newer interface is queried, asked, and released whatever it answers. -/
theorem queryPqPresentSupport_passive :
    Calls Call.Passive (queryPqPresentSupport swapChain) := by
  refine Calls.tryThen (calls_ask.mpr trivial) fun query => ?_
  refine Calls.bind (calls_ask.mpr trivial) fun r => ?_
  -- a query that failed has obtained nothing
  split
  · exact trivial
  · exact (passive_of_looks checkPqSupport_looks).bind fun result =>
      releaseComObject_passive.bind fun _ => trivial

/-- **An inspection is passive**: four queries, each made only if those before it succeeded. -/
theorem inspectWindowedHdrCandidate_passive :
    Calls Call.Passive (inspectWindowedHdrCandidate swapChain) := by
  rw [inspectWindowedHdrCandidate]
  split
  · exact trivial
  · refine Calls.bind (calls_ask.mpr trivial) fun record => ?_
    cases record with
    | none => exact trivial
    | some record =>
      exact Calls.tryThen (passive_of_looks swapChainDescription_looks) fun _ =>
        Calls.tryThen (passive_of_looks queryFullscreenState_looks) fun _ =>
          Calls.tryThen queryOutputDesc1_passive fun _ =>
            Calls.tryThen queryPqPresentSupport_passive fun _ => trivial

/-- What is logged of a swap chain is queried first, and the signature is put into the books. -/
theorem logSwapChainState_passive (force : Bool) :
    Calls Call.Passive (logSwapChainState swapChain force) := by
  refine Calls.bind (passive_of_looks swapChainDescription_looks) fun description => ?_
  -- without a description there is nothing to log
  cases description with
  | error e => exact trivial
  | ok description =>
    refine (passive_of_looks queryFullscreenState_looks).bind fun _ => ?_
    refine Calls.bind (calls_ask.mpr trivial) fun changed => ?_
    split
    · exact trivial
    · exact (passive_of_looks swapChainDescription1_looks).bind fun _ =>
        queryOutputDesc1_passive.bind fun _ => trivial

/-- A shadow is installed with the size of a factory interface. -/
theorem patchFactory_looks {entryCount : Nat} (hsize : KnownSize .factory entryCount) :
    Calls Call.Looks (patchFactory object entryCount) :=
  Calls.bind (calls_ask.mpr hsize) fun _ => trivial

/-- A shadow is installed with the size of a swap-chain interface. -/
theorem patchSwapChain_looks {entryCount : Nat} (hsize : KnownSize .swapChain entryCount) :
    Calls Call.Looks (patchSwapChain swapChain entryCount) :=
  Calls.bind (calls_ask.mpr hsize) fun _ => trivial

/-- An interface that was queried is patched with its own size. -/
theorem patchQueriedInterface_looks :
    Calls Call.Looks (patchQueriedInterface swapChain interface) := by
  rw [patchQueriedInterface]
  split
  · exact trivial
  · next hlen => exact patchSwapChain_looks ⟨interface, hlen⟩

/-- A queried interface is captured before it is handed out, and released if it cannot be. -/
theorem querySwapChainInterface_passive :
    Calls Call.Passive (querySwapChainInterface swapChain interface) := by
  refine Calls.bind (calls_ask.mpr trivial) fun function => ?_
  cases function with
  | none => exact trivial
  | some function =>
    refine Calls.bind (calls_ask.mpr trivial) fun r => ?_
    split
    · exact trivial
    -- the interface is held, so it is patched before anything else is done with it
    · refine (passive_of_looks patchQueriedInterface_looks).bind fun patched => ?_
      cases patched with
      | error e => exact releaseComObject_passive.bind fun _ => trivial
      | ok _ => exact Calls.bind (calls_ask.mpr trivial) fun _ => trivial

/-- The interfaces are tried one after the other, up to the first that the swap chain has. -/
theorem queryFirstInterface_passive (interfaces : List Guid) :
    Calls Call.Passive (queryFirstInterface swapChain interfaces) := by
  -- on the list of interfaces, which are tried until one is found
  induction interfaces with
  | nil => exact trivial
  | cons interface interfaces ih =>
    refine querySwapChainInterface_passive.bind fun queried => ?_
    cases queried with
    | ok queried => exact releaseComObject_passive
    | error e => exact ih

/-- The active swap chain is replaced, and the revision advanced if it was another. -/
theorem noteActiveSwapChain_looks : Calls Call.Looks (noteActiveSwapChain swapChain) := by
  rw [noteActiveSwapChain]
  split
  · exact trivial
  -- the exchange says whether the swap chain was the active one before
  · refine Calls.bind (calls_ask.mpr trivial) fun previous => ?_
    split
    · exact calls_ask.mpr trivial
    · exact trivial

/-- The revision is advanced if the swap chain is the active one. -/
theorem noteActiveSwapChainReconfigured_looks :
    Calls Call.Looks (noteActiveSwapChainReconfigured swapChain) := by
  refine Calls.bind (calls_ask.mpr trivial) fun active => ?_
  split
  · exact calls_ask.mpr trivial
  · exact trivial

/-- **Capturing is passive**: the new swap chain is patched, put into the books, made the active one
and logged. -/
theorem captureSwapChain_passive (result : HResult) (output : UInt64) {entryCount : Nat}
    (hsize : KnownSize .swapChain entryCount) :
    Calls Call.Passive (captureSwapChain result output entryCount) := by
  rw [captureSwapChain]
  split
  · exact trivial
  · refine Calls.bind (calls_ask.mpr trivial) fun swapChain => ?_
    split
    · exact trivial
    · refine (passive_of_looks (patchSwapChain_looks hsize)).bind fun patched => ?_
      -- a swap chain that cannot be patched stays as it is
      cases patched with
      | error e => exact trivial
      | ok _ =>
        exact Calls.bind (calls_ask.mpr trivial) fun _ =>
          (queryFirstInterface_passive _).bind fun _ =>
            (passive_of_looks noteActiveSwapChain_looks).bind fun _ =>
              logSwapChainState_passive true

theorem swapChainRevision_looks : Calls Call.Looks (swapChainRevision swapChain) := by
  refine Calls.bind (calls_ask.mpr trivial) fun active => ?_
  split
  · exact calls_ask.mpr trivial
  · exact trivial

/-- The first frame is logged. -/
theorem noteFirstPresent_passive : Calls Call.Passive (noteFirstPresent swapChain) := by
  refine Calls.bind (calls_ask.mpr trivial) fun shouldLog => ?_
  split
  · exact (passive_of_looks queryFullscreenState_looks).bind fun _ =>
      logSwapChainState_passive false
  · exact trivial

/-- An interface of the kind is captured with the size that belongs to its identifier. -/
theorem captureInterface_looks (kind : ShadowKind) {capture : UInt64 → Nat → Routine Unit}
    {result : HResult} {riid object : UInt64}
    (hcapture : ∀ queried entryCount, KnownSize kind entryCount →
      Calls Call.Looks (capture queried entryCount)) :
    Calls Call.Looks (captureInterface kind.vtableLen capture result riid object) := by
  rw [captureInterface]
  split
  · refine Calls.bind (calls_ask.mpr trivial) fun queried => ?_
    split
    · exact trivial
    -- the identifier decides how many entries the object has
    · refine Calls.bind (calls_ask.mpr trivial) fun interface => ?_
      split
      · exact trivial
      -- here the size is that of a known interface
      · next hlen => exact hcapture queried _ ⟨interface, hlen⟩
  · exact trivial

/-- A factory is captured by being patched. -/
theorem captureFactory_looks {entryCount : Nat} (hsize : KnownSize .factory entryCount) :
    Calls Call.Looks (captureFactory object entryCount) :=
  (patchFactory_looks hsize).bind fun _ => trivial

/-- A swap-chain interface is patched, and gets a state if that succeeded. -/
theorem captureQueriedSwapChain_looks {entryCount : Nat} (hsize : KnownSize .swapChain entryCount) :
    Calls Call.Looks (captureQueriedSwapChain swapChain entryCount) := by
  refine (patchSwapChain_looks hsize).bind fun patched => ?_
  cases patched with
  | ok _ => exact calls_ask.mpr trivial
  | error e => exact trivial

end Functions

/-! ### Calls of our own -/

/-- The call is not the game's. -/
def Call.Own : Call → Prop
  | forward .. => False
  | _ => True

/-- No passive call is the game's. -/
theorem Call.Passive.own {c : Call} (h : c.Passive) : c.Own := by
  cases c with
  | forward => exact h
  | _ => exact trivial

/-- So a passive function makes only calls of our own. -/
theorem own_of_passive {α : Type} {p : Routine α} (h : Calls Call.Passive p) :
    Calls Call.Own p :=
  h.mono fun _ => Call.Passive.own

/-- The call installs the module. -/
def Call.Setup : Call → Prop
  | storeFlag .. => True
  | loadDllModule => True
  | modulePath _ => True
  | createLog _ => True
  | fileSize _ => True
  | fileHash _ => True
  | loadOrCreateConfig _ => True
  | resolve .. => True
  | installImportHooks => True
  | patchMenuGate .. => True
  | patchAvailability _ => True
  | patchGraphicsConfig _ => True
  | patchBackendQuery _ => True
  | _ => False

/-- The call is our own, and neither obtains anything that has to be given back, nor gives
anything back, nor sets a color space, nor has to do with the initialization. -/
def Call.Plain : Call → Prop
  | forward .. => False
  | native _ c => c.Looks
  | vtableFunction _ index => index ≠ unknownReleaseIndex
  | lockCandidateCache => False
  | unlockCandidateCache _ => False
  | swapChainState _ .beginTransition => False
  | swapChainState _ (.finishTransition ..) => False
  | claimInitState => False
  | spawnInitializationThread => False
  | storeInitState _ => False
  | c => ¬ c.Setup

/-- The call is plain, asks for a managed color space only if that is what it `requests`, and
installs a shadow only with the size of a known interface. -/
def Call.Ordinary (requests : Bool) : Call → Prop
  | swapChainState _ (.request _) => requests = true
  | installShadowVtable _ kind entryCount => KnownSize kind entryCount
  | c => c.Plain

/-- A plain call is our own. -/
theorem Call.Plain.own {c : Call} (h : c.Plain) : c.Own := by
  cases c with
  | forward => exact h
  | _ => exact trivial

/-- An ordinary call is plain, whether or not a color space is asked for. -/
theorem Call.Ordinary.plain {requests : Bool} {c : Call} (h : c.Ordinary requests) :
    c.Plain := by
  cases c with
  | swapChainState swapChain op =>
    -- a request is plain in any case, and the other sections are judged alike
    cases op with
    | request => exact id
    | _ => exact h
  | installShadowVtable => exact id
  | _ => exact h

/-- What only looks is ordinary: it has no references, no transition and no part in the setup. -/
theorem Call.Looks.ordinary {c : Call} (h : c.Looks) : c.Ordinary false := by
  cases c with
  -- requests and the two ends of a transition are the sections that do more than keep the books
  | swapChainState swapChain op =>
    cases op with
    | request => exact h.elim
    | beginTransition => exact h
    | finishTransition => exact h
    | _ => exact id
  | installShadowVtable => exact h
  | native => exact h
  | vtableFunction => exact h
  | forward => exact h
  | lockCandidateCache => exact h
  | unlockCandidateCache => exact h
  | claimInitState => exact h
  | spawnInitializationThread => exact h
  | storeInitState => exact h
  | _ => first | exact id | exact fun _ => h

/-- So it is plain. -/
theorem Call.Looks.plain {c : Call} (h : c.Looks) : c.Plain := h.ordinary.plain

/-- A function that only looks is ordinary, and asks for nothing. -/
theorem ordinary_of_looks {α : Type} {p : Routine α} (h : Calls Call.Looks p) :
    Calls (Call.Ordinary false) p :=
  h.mono fun _ => Call.Looks.ordinary

/-- And it is plain. -/
theorem plain_of_looks {α : Type} {p : Routine α} (h : Calls Call.Looks p) :
    Calls Call.Plain p :=
  h.mono fun _ => Call.Looks.plain

/-- So an ordinary function is plain. -/
theorem plain_of_ordinary {α : Type} {requests : Bool} {p : Routine α}
    (h : Calls (Call.Ordinary requests) p) : Calls Call.Plain p :=
  h.mono fun _ => Call.Ordinary.plain

/-- And it makes only calls of our own. -/
theorem own_of_ordinary {α : Type} {requests : Bool} {p : Routine α}
    (h : Calls (Call.Ordinary requests) p) : Calls Call.Own p :=
  h.mono fun _ hc => hc.plain.own

section Ordinary

variable {swapChain : UInt64} {result : HResult}

/-- What is noted of another component's `SetColorSpace1` is one section. -/
theorem observeSetColorSpace1_ordinary (requestedColorSpace : UInt32) :
    Calls (Call.Ordinary false) (observeSetColorSpace1 swapChain requestedColorSpace result) := by
  rw [observeSetColorSpace1]
  split
  · exact Calls.bind (calls_ask.mpr id) fun _ => trivial
  · exact trivial

/-- A color space is asked for of a captured swap chain only. -/
theorem requestManagedHdrColorSpace_ordinary (hdr : Bool) :
    Calls (Call.Ordinary true) (requestManagedHdrColorSpace swapChain hdr) := by
  rw [requestManagedHdrColorSpace]
  split
  · exact trivial
  -- without a record the request is refused, and nothing was asked for
  · refine Calls.bind (calls_ask.mpr id) fun record => ?_
    cases record with
    | none => exact trivial
    | some record => exact Calls.bind (calls_ask.mpr rfl) fun _ => trivial

/-- A color space is asked for on behalf of the override only with synchronization on. -/
theorem colorSpaceReady_ordinary (eligible synchronizeColorSpace : Bool) :
    Calls (Call.Ordinary synchronizeColorSpace)
      (colorSpaceReady eligible synchronizeColorSpace swapChain) := by
  rw [colorSpaceReady]
  split
  · split
    · next hsynchronize =>
      -- it is asked for here, so the index of the class is true
      rw [hsynchronize]
      refine (requestManagedHdrColorSpace_ordinary true).bind fun r => ?_
      cases r with
      | ok accepted => exact trivial
      | error e => exact trivial
    · exact trivial
  · exact trivial

/-- Likewise it is withdrawn only where that is due. -/
theorem withdrawHdr_ordinary (due : Bool) :
    Calls (Call.Ordinary due) (withdrawHdr due swapChain) := by
  rw [withdrawHdr]
  split
  · next hdue =>
    rw [hdue]
    exact (requestManagedHdrColorSpace_ordinary false).bind fun _ => trivial
  · exact trivial

/-- The setting is read where the game has written it, and stored. -/
theorem noteLiveHdrSetting_ordinary (destination source : UInt64) :
    Calls (Call.Ordinary false) (noteLiveHdrSetting destination source) := by
  rw [noteLiveHdrSetting]
  split
  · exact trivial
  · exact Calls.bind (calls_ask.mpr id) fun _ => calls_ask.mpr id

/-- A swap chain is forgotten in the books: as the active one, and then its state. -/
theorem forgetSwapChain_ordinary : Calls (Call.Ordinary false) (forgetSwapChain swapChain) := by
  refine Calls.bind (calls_ask.mpr id) fun cleared => ?_
  dsimp only
  -- the revision is advanced only if the swap chain was the active one
  split
  · exact Calls.bind (calls_ask.mpr id) fun _ => calls_ask.mpr id
  · exact calls_ask.mpr id

/-- A record is retired when no reference is left. -/
theorem retireShadowObject_ordinary (kind : ShadowKind) (record : Nat) (remaining : UInt32) :
    Calls (Call.Ordinary false) (retireShadowObject kind swapChain record remaining) := by
  unfold retireShadowObject
  split
  · refine Calls.bind (calls_ask.mpr id) fun _ => ?_
    -- only a swap chain is in the books
    cases kind with
    | factory => exact trivial
    | swapChain => exact forgetSwapChain_ordinary
  · exact trivial

end Ordinary

/-! ### Starting up -/

section Startup

variable (targets : GameCompat.GameTargets)

/-- The menu gate's switch is stored before the hook is installed. -/
theorem installMenuGate_setup (unlock requireVerifiedOriginal : Bool) :
    Calls Call.Setup (installMenuGate targets unlock requireVerifiedOriginal) :=
  Calls.bind (calls_ask.mpr trivial) fun _ => calls_ask.mpr trivial

/-- The override is off before the hook is installed. -/
theorem installAvailabilityObserver_setup :
    Calls Call.Setup (installAvailabilityObserver targets) :=
  Calls.bind (calls_ask.mpr trivial) fun _ => calls_ask.mpr trivial

/-- Both switches are off before the hook is installed. -/
theorem installBackendObserver_setup : Calls Call.Setup (installBackendObserver targets) :=
  Calls.bind (calls_ask.mpr trivial) fun _ =>
    Calls.bind (calls_ask.mpr trivial) fun _ => calls_ask.mpr trivial

/-- An installer that is run or not belongs to the setup either way. -/
theorem installIf_setup {α : Type} (condition : Bool) (targets : Option GameCompat.GameTargets)
    {install : GameCompat.GameTargets → Routine (Except String α)}
    (hinstall : ∀ targets, Calls Call.Setup (install targets)) :
    Calls Call.Setup (installIf condition targets install) := by
  -- without targets, an unsupported build is left alone
  cases targets with
  | none => exact trivial
  | some targets =>
    rw [installIf]
    split
    · exact (hinstall targets).bind fun _ => trivial
    · exact trivial

/-- The switches are turned on as part of the setup. -/
theorem enableExperimentIf_setup (enabled : Bool) (mode : Mode) :
    Calls Call.Setup (enableExperimentIf enabled mode) := by
  have henable : Calls Call.Setup (enableBackendExperiment mode.synchronizesHdrColorSpace) :=
    Calls.bind (calls_ask.mpr trivial) fun _ => calls_ask.mpr trivial
  rw [enableExperimentIf]
  split
  · split
    · exact Calls.bind (calls_ask.mpr trivial) fun _ => henable
    · exact henable
  · exact trivial

/-- Every call of the installation belongs to the setup. -/
theorem installHooks_setup (config : Config) (executableSize : UInt64) (executableHash : String) :
    Calls Call.Setup (installHooks config executableSize executableHash) := by
  refine Calls.bind (calls_ask.mpr trivial) fun resolved => ?_
  refine Calls.tryThen (calls_ask.mpr trivial) fun installed => ?_
  -- the four hooks of the game, and then the switches
  refine (installIf_setup _ _ fun targets => installMenuGate_setup targets _ _).bind fun _ => ?_
  refine (installIf_setup _ _ installAvailabilityObserver_setup).bind fun _ => ?_
  refine (installIf_setup _ _ fun _ => calls_ask.mpr trivial).bind fun _ => ?_
  refine (installIf_setup _ _ installBackendObserver_setup).bind fun _ => ?_
  refine (enableExperimentIf_setup _ _).bind fun _ => ?_
  split <;> exact trivial

/-- **Every call of `initialize` belongs to the setup.** -/
theorem initializeDll_setup : Calls Call.Setup initializeDll := by
  refine Calls.bind (calls_ask.mpr trivial) fun module => ?_
  split
  · exact trivial
  · refine Calls.tryThen (calls_ask.mpr trivial) fun dllPath => ?_
    refine Calls.tryThen (calls_ask.mpr trivial) fun _ => ?_
    refine Calls.tryThen (calls_ask.mpr trivial) fun exePath => ?_
    split
    · exact trivial
    -- the executable is the game
    · refine Calls.tryThen (Calls.bind (calls_ask.mpr trivial) fun _ => trivial) fun size => ?_
      refine Calls.tryThen (Calls.bind (calls_ask.mpr trivial) fun _ => trivial) fun hash => ?_
      exact Calls.tryThen (calls_ask.mpr trivial) fun loaded => installHooks_setup _ _ _

/-- Waiting is ordinary, for any number of polls. -/
theorem waitForInitialization_ordinary (polls : Nat) :
    Calls (Call.Ordinary false) (waitForInitialization polls) := by
  -- on the polls that are left
  induction polls with
  | zero => exact Calls.bind (calls_ask.mpr id) fun _ => trivial
  | succ polls ih =>
    refine Calls.bind (calls_ask.mpr id) fun state => ?_
    split
    · exact trivial
    · split
      · exact trivial
      · exact Calls.bind (calls_ask.mpr id) fun _ => ih

end Startup

end Runtime
end WindowedHdr
