import WindowedHdr.Runtime.Shapes

/-!
# What each hook is there for

Only the two Present hooks begin, submit and finish color-space transitions, and only for the
swap chain that they present. Only the hook of the backend query asks for one. Whoever installs
a shadow vtable does it with the size of a known interface. `hook_within` says so of all the
calls of a hook, whatever they are answered.

The rights of an entry point are a record of what its calls may be about (`Rights`), and a call
is within them or not, whatever its answer. Ordinary calls are within the rights of every hook,
so the lemmas here are about the few functions that use a right.
-/

namespace WindowedHdr
namespace Runtime

open Program (Calls calls_ask)
open Dxgi Shadow

/-- What a thread is there for. -/
structure Rights where
  /-- The swap chain that is presented. -/
  presents : Option UInt64 := none
  /-- A managed color space may be asked for. -/
  requests : Bool := false

/-- The call is our own, and one of those that the thread is there for. -/
def Call.Within (rights : Rights) : Call → Prop
  | forward .. => False
  -- the interface that is called is a queried one, so only that something is presented counts
  | native _ (.setColorSpace1 ..) => ∃ swapChain, rights.presents = some swapChain
  | swapChainState swapChain .beginTransition => rights.presents = some swapChain
  | swapChainState swapChain (.finishTransition ..) => rights.presents = some swapChain
  | swapChainState _ (.request _) => rights.requests = true
  | installShadowVtable _ kind entryCount => KnownSize kind entryCount
  | _ => True

/-- What the hook of a call is there for. -/
def GameCall.rights : GameCall → Rights
  | present this _ _ => { presents := some this }
  | present1 this _ _ _ => { presents := some this }
  | hdrBackendActualQuery .. => { requests := true }
  | _ => {}

variable {rights : Rights}

/-- Everyone may make passive calls. -/
theorem Call.Passive.within {c : Call} (h : c.Passive) : c.Within rights := by
  cases c with
  | native function c =>
    cases c with
    | setColorSpace1 => exact h.elim
    | _ => exact trivial
  -- the sections that need a right are not passive
  | swapChainState swapChain op =>
    cases op with
    | beginTransition => exact h.elim
    | finishTransition => exact h.elim
    | request => exact h.elim
    | _ => exact trivial
  | installShadowVtable => exact h
  | forward => exact h
  | _ => exact trivial

/-- Rights are about our own calls. -/
theorem Call.Within.own {c : Call} (h : c.Within rights) : c.Own := by
  cases c with
  | forward => exact h
  | _ => exact trivial

/-- So a passive function is within any rights. -/
theorem within_of_passive {α : Type} {p : Routine α} (h : Calls Call.Passive p) :
    Calls (Call.Within rights) p :=
  h.mono fun _ => Call.Passive.within

/-- And so is one that only looks. -/
theorem within_of_looks {α : Type} {p : Routine α} (h : Calls Call.Looks p) :
    Calls (Call.Within rights) p :=
  within_of_passive (passive_of_looks h)

/-- An ordinary call is within the rights of whoever may ask for what it asks for. -/
theorem Call.Ordinary.within {requests : Bool} {c : Call} (h : c.Ordinary requests)
    (hrequests : requests = true → rights.requests = true) : c.Within rights := by
  cases c with
  | native function c =>
    cases c with
    | setColorSpace1 => exact h.elim
    | _ => exact trivial
  | swapChainState swapChain op =>
    cases op with
    | beginTransition => exact h.elim
    | finishTransition => exact h.elim
    | request => exact hrequests h
    | _ => exact trivial
  | installShadowVtable => exact h
  | forward => exact h
  | _ => exact trivial

/-- An ordinary function is within the rights of whoever may ask for what it asks for. -/
theorem within_of_ordinary {α : Type} {requests : Bool} {p : Routine α}
    (hrequests : requests = true → rights.requests = true)
    (h : Calls (Call.Ordinary requests) p) : Calls (Call.Within rights) p :=
  h.mono fun _ hc => hc.within hrequests

/-- Nothing is asked for. -/
theorem within_of_unasking {α : Type} {p : Routine α} (h : Calls (Call.Ordinary false) p) :
    Calls (Call.Within rights) p :=
  within_of_ordinary (fun hfalse => absurd hfalse Bool.false_ne_true) h

/-- A function within some rights makes only calls of our own. -/
theorem own_of_within (rights : Rights) {α : Type} {p : Routine α}
    (h : Calls (Call.Within rights) p) : Calls Call.Own p :=
  h.mono fun _ => Call.Within.own

/-! ### Presenting -/

section Functions

variable {swapChain : UInt64}

/-- The one call that sets a color space needs the right to present. -/
theorem callSetColorSpace1_within {presented : UInt64} (hrights : rights.presents = some presented)
    (swapChain3 : UInt64) (colorSpace : UInt32) :
    Calls (Call.Within rights) (callSetColorSpace1 swapChain3 colorSpace) := by
  refine Calls.bind (calls_ask.mpr trivial) fun function => ?_
  cases function with
  | none => exact trivial
  | some function => exact Calls.bind (calls_ask.mpr ⟨presented, hrights⟩) fun _ => trivial

/-- Around it the interface is queried, captured and released, which is passive. -/
theorem setColorSpaceWithoutObserver_within {presented : UInt64}
    (hrights : rights.presents = some presented) (colorSpace : UInt32) :
    Calls (Call.Within rights) (setColorSpaceWithoutObserver swapChain colorSpace) :=
  Calls.tryThen (within_of_passive querySwapChainInterface_passive) fun swapChain3 =>
    (callSetColorSpace1_within hrights swapChain3 colorSpace).bind fun _ =>
      (within_of_passive releaseComObject_passive).bind fun _ => trivial

/-- A transition is submitted, or rejected after an inspection, by whoever presents. -/
theorem submitTransition_within {presented : UInt64} (hrights : rights.presents = some presented)
    (transition : ManagedColorSpaceTransition) :
    Calls (Call.Within rights) (submitTransition swapChain transition) := by
  rw [submitTransition]
  split
  -- enabling HDR: the inspection decides
  · refine (within_of_passive inspectWindowedHdrCandidate_passive).bind fun r => ?_
    rcases r with e | eligible
    · exact trivial
    · cases eligible with
      | true => exact setColorSpaceWithoutObserver_within hrights _
      | false => exact trivial
  -- restoring a baseline needs no inspection
  · exact setColorSpaceWithoutObserver_within hrights _

/-- **What precedes a Present** begins and finishes transitions on the presented swap chain only. -/
theorem beforePresent_within (hrights : rights.presents = some swapChain) :
    Calls (Call.Within rights) (beforePresent swapChain) := by
  refine Calls.bind (Calls.bind (calls_ask.mpr hrights) fun transition => ?_) fun _ =>
    within_of_passive noteFirstPresent_passive
  -- nothing is due for most frames
  cases transition with
  | none => exact trivial
  | some transition =>
    exact (submitTransition_within hrights transition).bind fun _ => calls_ask.mpr hrights

/-! ### Everything else -/

/-- The cache is locked, and an inspection made if it does not know the answer. -/
theorem candidateIsEligible_within (revision : UInt64) :
    Calls (Call.Within rights) (candidateIsEligible swapChain revision) := by
  refine Calls.bind (calls_ask.mpr trivial) fun cache => ?_
  split
  -- the answer was cached
  · exact Calls.bind (calls_ask.mpr trivial) fun _ => trivial
  · exact (within_of_passive inspectWindowedHdrCandidate_passive).bind fun _ =>
      Calls.bind (calls_ask.mpr trivial) fun _ => trivial

/-- The active swap chain is inspected, where that is asked. -/
theorem windowedCandidate_within (asked : Bool)
    (active : Option GameHdr.ActiveSwapChainSnapshot) :
    Calls (Call.Within rights) (windowedCandidate asked active) := by
  cases active with
  | none => exact trivial
  | some snapshot =>
    rw [windowedCandidate]
    split
    · exact candidateIsEligible_within _
    · exact trivial

/-- The backend's swap chain is inspected, where that is asked. -/
theorem backendCandidate_within (asked : Bool) :
    Calls (Call.Within rights) (backendCandidate asked swapChain) := by
  rw [backendCandidate]
  split
  · exact (within_of_looks swapChainRevision_looks).bind fun _ => candidateIsEligible_within _
  · exact trivial

/-- A reconfiguration advances the generation of the swap chain, and is logged. -/
theorem afterReconfiguration_within (result : HResult) :
    Calls (Call.Within rights) (afterReconfiguration swapChain result) := by
  rw [afterReconfiguration]
  split
  · have hadvance : Calls (Call.Within rights) (advanceSwapChainGeneration swapChain) :=
      Calls.bind (calls_ask.mpr trivial) fun _ =>
        within_of_looks noteActiveSwapChainReconfigured_looks
    exact hadvance.bind fun _ => within_of_passive (logSwapChainState_passive true)
  · exact trivial

/-- A new target size is logged, and the revision advanced. -/
theorem afterTargetResize_within (result : HResult) :
    Calls (Call.Within rights) (afterTargetResize swapChain result) := by
  rw [afterTargetResize]
  split
  · exact (within_of_passive (logSwapChainState_passive true)).bind fun _ =>
      within_of_looks noteActiveSwapChainReconfigured_looks
  · exact trivial

/-- What a hook does with an answer needs no right. -/
theorem Aftermath.within {after : Routine Unit} (h : Aftermath after) :
    Calls (Call.Within rights) after := by
  cases h with
  | ordinary h => exact within_of_unasking h
  | created result swapChain hsize =>
    exact within_of_passive (captureSwapChain_passive result swapChain hsize)
  | reconfigured swapChain result => exact afterReconfiguration_within result
  | resized swapChain result => exact afterTargetResize_within result

end Functions

/-! ### Hooks -/

/-- The call is the game's, or one of those that the thread is there for. -/
def Call.InHook (rights : Rights) (c : Call) : Prop := c.Own → c.Within rights

section Hooks

variable {α : Type} {c : GameCall} {function swapChain : UInt64}

/-- What is within the rights may be done in a hook. -/
theorem inHook_of_within {p : Routine α} (h : Calls (Call.Within rights) p) :
    Calls (Call.InHook rights) p :=
  h.mono fun _ hc _ => hc

/-- Likewise a single call of our own. -/
theorem inHook_ask {own : Call} (h : own.Within rights) :
    Calls (Call.InHook rights) (ask own) :=
  calls_ask.mpr fun _ => h

/-- To forward is what a hook is there for in any case. -/
theorem inHook_forward : Calls (Call.InHook rights) (ask (.forward function c)) :=
  calls_ask.mpr False.elim

/-- Forward the call, do something else, and return the answer. -/
theorem inHook_forward_then {after : c.Answer → Routine Unit}
    (hafter : ∀ r, Calls (Call.Within rights) (after r)) :
    Calls (Call.InHook rights) (do let r ← ask (.forward function c); after r; return r) :=
  inHook_forward.bind fun r => (inHook_of_within (hafter r)).bind fun _ => trivial

/-- A hook that finds its function through the object, whatever it finds. -/
theorem viaObject_inHook {this : UInt64} {kind : ShadowKind} {index : Nat} {failure : α}
    {hook : UInt64 → Routine α} (hhook : ∀ function, Calls (Call.InHook rights) (hook function)) :
    Calls (Call.InHook rights) (viaObject this kind index failure hook) := by
  refine Calls.bind (inHook_ask trivial) fun found => ?_
  cases found with
  | none => exact trivial
  | some function => exact hhook function

/-- A hook that finds its function in a global pointer, whatever it finds. -/
theorem viaOriginal_inHook {slot : OriginalSlot} {failure : α} {hook : UInt64 → Routine α}
    (hhook : ∀ function, Calls (Call.InHook rights) (hook function)) :
    Calls (Call.InHook rights) (viaOriginal slot failure hook) := by
  refine Calls.bind (inHook_ask trivial) fun found => ?_
  cases found with
  | none => exact trivial
  | some function => exact hhook function

/-- A release is forwarded before anything is retired. -/
theorem releaseShadowObject_inHook (kind : ShadowKind) (object : UInt64) :
    Calls (Call.InHook rights) (releaseShadowObject kind object) := by
  refine Calls.bind (inHook_ask trivial) fun record => ?_
  cases record with
  | none => exact trivial
  | some record =>
    refine Calls.bind (inHook_ask trivial) fun found => ?_
    cases found with
    | none => exact trivial
    | some function => exact inHook_forward_then fun r =>
      within_of_unasking (retireShadowObject_ordinary kind record r)

/-- A Present is forwarded after what precedes it. -/
theorem presentation_inHook (hrights : rights.presents = some swapChain) :
    Calls (Call.InHook rights) (do beforePresent swapChain; ask (.forward function c)) :=
  (inHook_of_within (beforePresent_within hrights)).bind fun _ => inHook_forward

/-- The menu gate only reads its switch. -/
theorem hdrMenuGateHook_inHook (this : UInt64) :
    Calls (Call.InHook rights) (hdrMenuGateHook this) := by
  refine viaOriginal_inHook fun function => inHook_forward.bind fun _ => ?_
  exact Calls.bind (inHook_ask trivial) fun _ => Calls.bind (inHook_ask trivial) fun _ => trivial

/-- The availability is overridden after an inspection at most. -/
theorem hdrCommonAvailabilityHook_inHook :
    Calls (Call.InHook rights) hdrCommonAvailabilityHook := by
  refine viaOriginal_inHook fun function => inHook_forward.bind fun _ => ?_
  refine Calls.bind (inHook_ask trivial) fun _ => Calls.bind (inHook_ask trivial) fun active => ?_
  exact (inHook_of_within (windowedCandidate_within _ active)).bind fun _ => trivial

/-- The backend query may ask for a managed color space, and withdraw it. -/
theorem hdrBackendActualQueryHook_inHook (hrights : rights.requests = true)
    (backend outputIdentity : UInt64) :
    Calls (Call.InHook rights) (hdrBackendActualQueryHook backend outputIdentity) := by
  refine viaOriginal_inHook fun function => ?_
  split
  -- a null backend is not asked
  · exact trivial
  -- the game is asked first, and then nothing but ordinary calls are made
  · refine inHook_forward.bind fun answer => ?_
    refine Calls.bind (inHook_ask trivial) fun disabled => ?_
    refine Calls.bind (inHook_ask trivial) fun capabilityFlags => ?_
    refine Calls.bind (inHook_ask trivial) fun swapChain => ?_
    refine (inHook_of_within (within_of_looks noteActiveSwapChain_looks)).bind fun _ => ?_
    refine Calls.bind (inHook_ask trivial) fun liveHdr => ?_
    refine Calls.bind (inHook_ask trivial) fun experiment => ?_
    refine Calls.bind (inHook_ask trivial) fun synchronizeColorSpace => ?_
    refine Calls.bind (inHook_ask trivial) fun windowed => ?_
    refine (inHook_of_within (backendCandidate_within _)).bind fun eligible => ?_
    -- it has the right to ask, so it may make whatever ordinary calls there are
    have hasks {requests : Bool} {α : Type} {p : Routine α}
        (h : Calls (Call.Ordinary requests) p) : Calls (Call.InHook rights) p :=
      inHook_of_within (within_of_ordinary (fun _ => hrights) h)
    refine (hasks (colorSpaceReady_ordinary _ _)).bind fun overridden => ?_
    exact (hasks (withdrawHdr_ordinary _)).bind fun _ => trivial

/-- Whatever its shape, a hook does only what its call gives it the right to. -/
theorem Shape.within {p : Routine c.Answer} (h : Shape c p) :
    Calls (Call.InHook c.rights) p := by
  cases h with
  -- the call is forwarded, and what follows needs no right
  | object _ hafter =>
    exact viaObject_inHook fun _ => inHook_forward_then fun r => (hafter r).within
  | imported _ hafter =>
    exact viaOriginal_inHook fun _ => inHook_forward_then fun r => (hafter r).within
  -- the right to present is for the swap chain of the call
  | present => exact viaObject_inHook fun _ => presentation_inHook rfl
  | present1 => exact viaObject_inHook fun _ => presentation_inHook rfl
  | release kind this => exact releaseShadowObject_inHook kind this
  | hdrMenuGate this => exact hdrMenuGateHook_inHook this
  | hdrCommonAvailability => exact hdrCommonAvailabilityHook_inHook
  | graphicsConfigApply destination source =>
    exact viaOriginal_inHook fun _ => inHook_forward.bind fun _ =>
      inHook_of_within (within_of_unasking (noteLiveHdrSetting_ordinary destination source))
  -- the only hook that may ask
  | hdrBackendActualQuery backend outputIdentity =>
    exact hdrBackendActualQueryHook_inHook rfl backend outputIdentity

end Hooks

/-- **A hook does nothing that it is not there for.** -/
theorem hook_within (c : GameCall) : Calls (Call.InHook c.rights) (hook c) :=
  (hook_shape c).within

/-! ### Starting up -/

/-- The call has nothing to do with color spaces or shadows. -/
theorem Call.Setup.within {c : Call} (h : c.Setup) : c.Within rights := by
  cases c with
  | native => exact h.elim
  | swapChainState => exact h.elim
  | installShadowVtable => exact h.elim
  | forward => exact h.elim
  | _ => exact trivial

/-- Claiming the initialization and spawning its thread needs no right. -/
theorem startInitialization_within : Calls (Call.Within rights) startInitialization := by
  refine Calls.bind (calls_ask.mpr trivial) fun claimed => ?_
  cases claimed with
  | false => exact trivial
  | true =>
    refine Calls.bind (calls_ask.mpr trivial) fun spawned => ?_
    cases spawned with
    | true => exact trivial
    | false => exact calls_ask.mpr trivial

/-- Neither does the loader's entry point. -/
theorem dllMain_within (module : UInt64) (reason : UInt32) :
    Calls (Call.Within rights) (dllMain module reason) := by
  rw [dllMain]
  split
  · exact Calls.bind (calls_ask.mpr trivial) fun _ => Calls.bind (calls_ask.mpr trivial) fun _ =>
      startInitialization_within.bind fun _ => trivial
  · exact trivial

/-- Nor the thread that initializes: all its calls belong to the setup, or store the outcome. -/
theorem initializationThread_within : Calls (Call.Within rights) initializationThread :=
  (initializeDll_setup.mono fun _ => Call.Setup.within).bind fun _ =>
    Calls.bind (calls_ask.mpr trivial) fun _ => trivial

end Runtime
end WindowedHdr
