import WindowedHdr.Library.Exclusion
import WindowedHdr.Runtime.Process
import WindowedHdr.Runtime.Shapes

/-!
# What a function of the module holds, and what it owes

A function may hold references to COM objects that it queried, the lock of the candidate cache,
color-space transitions that it began, and the right to do the next step of the initialization.
It gives all of them up again: a reference by `release` (or it is lost, when the object has no
`Release` to call), the lock by `unlock`, a transition by finishing that very transition on the
swap chain it was begun on, and the initialization by storing its outcome (`body_transfers`). In
the meantime

* a call of the game is forwarded, and the lock is waited for, only by someone who holds
  nothing, so that no thread waits for the lock while it has it;
* a color space is set only on an interface that is held, and only by someone who has begun a
  transition to that color space;
* only whoever initializes installs anything, and the outcome is 2 or 3.

The proof is one triple for each function of the source, in the order of the source. A function
that returns an interface ends with it in its postcondition (`afterQuery`), and a function that
takes one is proved for a caller that owns it and anything else. What the triples mean for
threads is `thread_gives_back`: after any run, a thread that has come to the end of its program
holds nothing.
-/

namespace WindowedHdr
namespace Runtime

open Program (Calls)
open Discipline (transfers_ask transfers_ask_neutral transfers_pure)
open Transfer (Turns)
open Dxgi Shadow

/-- What is held. -/
inductive Resource
  /-- A reference to a COM object. -/
  | reference (object : UInt64)
  /-- The lock of the candidate cache. -/
  | candidateCache
  /-- A transition that was begun. -/
  | transition (swapChain : UInt64) (transition : ManagedColorSpaceTransition)
  /-- The right to spawn the initialization thread. -/
  | spawning
  /-- The right to initialize. -/
  | initializing
  deriving DecidableEq

/-- A query that fails obtains nothing. -/
def obtained (r : HResult × UInt64) : Transfer Resource :=
  if r.1 < 0 ∨ r.2 = 0 then .none else .gain (.reference r.2)

/-- What an event transfers. -/
def transfer : Event → Transfer Resource
  | ⟨.native _ (.queryInterface ..), r⟩ => obtained r
  | ⟨.native _ (.getContainingOutput _), r⟩ => obtained r
  | ⟨.native _ (.release object), _⟩ => .give (.reference object)
  | ⟨.vtableFunction object index, .error _⟩ =>
    -- there is no `Release` to call
    if index = unknownReleaseIndex then .give (.reference object) else .none
  | ⟨.lockCandidateCache, _⟩ => .gain .candidateCache
  | ⟨.unlockCandidateCache _, _⟩ => .give .candidateCache
  | ⟨.swapChainState swapChain .beginTransition, some transition⟩ =>
    .gain (.transition swapChain transition)
  | ⟨.swapChainState swapChain (.finishTransition transition _), _⟩ =>
    .give (.transition swapChain transition)
  | ⟨.claimInitState, true⟩ => .gain .spawning
  | ⟨.spawnInitializationThread, true⟩ => .give .spawning
  -- the outcome is known without a thread
  | ⟨.spawnInitializationThread, false⟩ => .exchange .spawning .initializing
  | ⟨.storeInitState _, _⟩ => .give .initializing
  | _ => .none

/-- Who may make the call; `startup` says whether one may start up at all. -/
def permits (startup : Bool) (held : Multiset Resource) : Call → Prop
  | .forward .. => held = 0
  | .lockCandidateCache => held = 0
  | .native _ (.setColorSpace1 object colorSpace) =>
    .reference object ∈ held ∧ ∃ swapChain transition,
      .transition swapChain transition ∈ held ∧ transition.targetColorSpace = colorSpace
  | .claimInitState => startup = true
  | .spawnInitializationThread => startup = true
  | .storeInitState value => startup = true ∧ (value = 2 ∨ value = 3)
  | c => c.Setup → startup = true ∧ .initializing ∈ held

/-- The discipline of the module: of its hooks, or of all its entry points. -/
def discipline (startup : Bool) : Discipline Call.Answer Resource where
  transfer := transfer
  permits := permits startup

variable {startup : Bool}

/-- A plain call may be made by anyone, and transfers nothing. -/
theorem Call.Plain.neutral {c : Call} (h : c.Plain) : (discipline startup).Neutral c := by
  cases c with
  | native function c =>
    cases c with
    | queryInterface => exact h.elim
    | release => exact h.elim
    | getContainingOutput => exact h.elim
    | setColorSpace1 => exact h.elim
    | _ => exact ⟨fun _ hsetup => hsetup.elim, fun _ => rfl⟩
  | swapChainState swapChain op =>
    cases op with
    | beginTransition => exact h.elim
    | finishTransition => exact h.elim
    | _ => exact ⟨fun _ hsetup => hsetup.elim, fun _ => rfl⟩
  -- a failed look-up loses a reference only if it was for `Release`
  | vtableFunction object index =>
    refine ⟨fun _ hsetup => hsetup.elim, fun answer => ?_⟩
    cases answer with
    | ok function => rfl
    | error e => exact if_neg h
  | forward => exact h.elim
  | lockCandidateCache => exact h.elim
  | unlockCandidateCache => exact h.elim
  | claimInitState => exact h.elim
  | spawnInitializationThread => exact h.elim
  | storeInitState => exact h.elim
  | _ => exact ⟨fun _ hsetup => absurd hsetup h, fun _ => rfl⟩

/-- So a plain function leaves everyone with what they held. -/
theorem transfers_of_plain {α : Type} {p : Routine α} (h : Calls Call.Plain p)
    (m : Multiset Resource) : (discipline startup).Transfers m p fun _ => m :=
  .of_calls (h.mono fun _ hc => ⟨hc.neutral.permits m, hc.neutral.transfer⟩)

/-- And so does one that only looks. -/
theorem transfers_of_looks {α : Type} {p : Routine α} (h : Calls Call.Looks p)
    (m : Multiset Resource) : (discipline startup).Transfers m p fun _ => m :=
  transfers_of_plain (plain_of_looks h) m

/-- And an ordinary one. -/
theorem transfers_of_ordinary {α : Type} {requests : Bool} {p : Routine α}
    (h : Calls (Call.Ordinary requests) p) (m : Multiset Resource) :
    (discipline startup).Transfers m p fun _ => m :=
  transfers_of_plain (plain_of_ordinary h) m

/-- Whoever initializes may install. -/
theorem transfers_of_setup {α : Type} {p : Routine α} (h : Calls Call.Setup p) :
    (discipline true).Transfers {.initializing} p fun _ => {.initializing} := by
  refine .of_calls (h.mono fun c hc => ?_)
  cases c with
  | storeFlag => exact ⟨fun _ => ⟨rfl, Multiset.mem_singleton_self _⟩, fun _ => rfl⟩
  | forward => exact hc.elim
  | native => exact hc.elim
  | lockCandidateCache => exact hc.elim
  | unlockCandidateCache => exact hc.elim
  | vtableFunction => exact hc.elim
  | swapChainState => exact hc.elim
  | claimInitState => exact hc.elim
  | spawnInitializationThread => exact hc.elim
  | storeInitState => exact hc.elim
  | _ => exact ⟨fun _ => ⟨rfl, Multiset.mem_singleton_self _⟩, fun _ => rfl⟩

/-! ### References -/

section References

variable {object swapChain : UInt64} {interface : Guid}

/-- What is held when `Release` was looked for. -/
def afterLookup (object : UInt64) (m : Multiset Resource) : Except String UInt64 → Multiset Resource
  | .ok _ => .reference object ::ₘ m
  | .error _ => m

/-- What is held after a query. -/
def afterQuery (m : Multiset Resource) (r : HResult × UInt64) : Multiset Resource :=
  if r.1 < 0 ∨ r.2 = 0 then m else .reference r.2 ::ₘ m

/-- What is held by someone who was handed a reference. -/
def withReference (m : Multiset Resource) : Except String UInt64 → Multiset Resource
  | .ok object => .reference object ::ₘ m
  | .error _ => m

/-- A query turns what is held into what is held after it. -/
theorem turns_obtained (m : Multiset Resource) (r : HResult × UInt64) :
    Turns m (obtained r) (afterQuery m r) := by
  by_cases h : r.1 < 0 ∨ r.2 = 0
  · rw [obtained, afterQuery, if_pos h, if_pos h]
    exact .none m
  · rw [obtained, afterQuery, if_neg h, if_neg h]
    exact .gain m _

/-- **A reference is given up**, by the call or with the object that has no `Release`. -/
theorem releaseComObject_transfers (m : Multiset Resource) :
    (discipline startup).Transfers (.reference object ::ₘ m) (releaseComObject object)
      fun _ => m := by
  have hlookup : (discipline startup).Transfers (.reference object ::ₘ m)
      (ask (.vtableFunction object unknownReleaseIndex)) (afterLookup object m) := by
    refine transfers_ask False.elim fun answer => ?_
    cases answer with
    | ok function => exact .none _
    | error e => exact .give m _
  refine hlookup.bind fun r => ?_
  -- the call gives the reference up; without a function it is gone already
  cases r with
  | ok function =>
    exact Discipline.Transfers.bind (transfers_ask False.elim fun _ => .give m _) fun _ =>
      transfers_pure rfl
  | error e => exact transfers_pure rfl

/-- The reference to the output goes to the caller. -/
theorem containingOutput_transfers (m : Multiset Resource) :
    (discipline startup).Transfers m (containingOutput swapChain) (withReference m) := by
  have hlookup : (Call.vtableFunction swapChain swapChainGetContainingOutputIndex).Looks :=
    show swapChainGetContainingOutputIndex ≠ unknownReleaseIndex by decide
  refine (transfers_ask_neutral hlookup.plain.neutral).tryThen (fun _ => rfl) fun function => ?_
  -- a failed query has obtained nothing, and otherwise the output goes to the caller
  refine (transfers_ask False.elim (turns_obtained m)).bind fun r => ?_
  split
  · next h => exact transfers_pure (if_pos h)
  · next h => exact transfers_pure (if_neg h)

/-- **Both references are given up on every path.** -/
theorem queryOutputDesc1_transfers (m : Multiset Resource) :
    (discipline startup).Transfers m (queryOutputDesc1 swapChain) fun _ => m := by
  -- along the paths of the source, with what is held at each early return
  refine (containingOutput_transfers m).tryThen (fun _ => rfl) fun output => ?_
  have hlookup : (Call.vtableFunction output 0).Looks :=
    show 0 ≠ unknownReleaseIndex by decide
  refine (transfers_ask_neutral hlookup.plain.neutral).bind fun query => ?_
  -- the output is held
  cases query with
  | error e => exact (releaseComObject_transfers m).bind fun _ => transfers_pure rfl
  | ok query =>
    refine (transfers_ask False.elim (turns_obtained _)).bind fun r => ?_
    split
    · next h =>
      rw [afterQuery, if_pos h]
      exact (releaseComObject_transfers m).bind fun _ => transfers_pure rfl
    · next h =>
      rw [afterQuery, if_neg h]
      have hlookup : (Call.vtableFunction r.2 outputGetDesc1Index).Looks :=
        show outputGetDesc1Index ≠ unknownReleaseIndex by decide
      refine (transfers_ask_neutral hlookup.plain.neutral).bind fun getDescription => ?_
      -- the output and its newer interface are held
      cases getDescription with
      | error e =>
        exact (releaseComObject_transfers _).bind fun _ =>
          (releaseComObject_transfers m).bind fun _ => transfers_pure rfl
      | ok getDescription =>
        -- both are released before the answer is looked at
        refine .ask_bind (Call.Plain.neutral trivial) fun description => ?_
        refine (releaseComObject_transfers _).bind fun _ =>
          (releaseComObject_transfers m).bind fun _ => ?_
        split <;> exact transfers_pure rfl

/-- The newer interface is given up whatever it answered. -/
theorem queryPqPresentSupport_transfers (m : Multiset Resource) :
    (discipline startup).Transfers m (queryPqPresentSupport swapChain) fun _ => m := by
  have hlookup : (Call.vtableFunction swapChain swapChainQueryInterfaceIndex).Looks :=
    show swapChainQueryInterfaceIndex ≠ unknownReleaseIndex by decide
  refine (transfers_ask_neutral hlookup.plain.neutral).tryThen (fun _ => rfl) fun query => ?_
  refine (transfers_ask False.elim (turns_obtained m)).bind fun r => ?_
  split
  · next h => exact transfers_pure (if_pos h)
  · next h =>
    rw [afterQuery, if_neg h]
    -- the check itself only looks, so the interface is still held when it is over
    exact (transfers_of_looks checkPqSupport_looks _).bind fun result =>
      (releaseComObject_transfers m).bind fun _ => transfers_pure rfl

/-- An inspection gives up what it obtains. -/
theorem inspectWindowedHdrCandidate_transfers (m : Multiset Resource) :
    (discipline startup).Transfers m (inspectWindowedHdrCandidate swapChain) fun _ => m := by
  rw [inspectWindowedHdrCandidate]
  split
  · exact transfers_pure rfl
  · refine .ask_bind (Call.Plain.neutral id) fun record => ?_
    cases record with
    | none => exact transfers_pure rfl
    | some record =>
      -- each part gives up what it obtains, so stopping between two of them loses nothing
      refine (transfers_of_looks swapChainDescription_looks m).tryThen (fun _ => rfl) fun _ => ?_
      refine (transfers_of_looks queryFullscreenState_looks m).tryThen (fun _ => rfl) fun _ => ?_
      refine (queryOutputDesc1_transfers m).tryThen (fun _ => rfl) fun _ => ?_
      exact (queryPqPresentSupport_transfers m).tryThen (fun _ => rfl) fun _ =>
        transfers_pure rfl

/-- So does logging. -/
theorem logSwapChainState_transfers (force : Bool) (m : Multiset Resource) :
    (discipline startup).Transfers m (logSwapChainState swapChain force) fun _ => m := by
  refine (transfers_of_looks swapChainDescription_looks m).bind fun description => ?_
  cases description with
  | error e => exact transfers_pure rfl
  | ok description =>
    refine (transfers_of_looks queryFullscreenState_looks m).bind fun _ => ?_
    refine .ask_bind (Call.Plain.neutral id) fun changed => ?_
    split
    · exact transfers_pure rfl
    · exact (transfers_of_looks swapChainDescription1_looks m).bind fun _ =>
        (queryOutputDesc1_transfers m).bind fun _ => transfers_pure rfl

/-- The reference to the queried interface goes to the caller. -/
theorem querySwapChainInterface_transfers (m : Multiset Resource) :
    (discipline startup).Transfers m (querySwapChainInterface swapChain interface)
      (withReference m) := by
  refine .ask_bind (Call.Plain.neutral id) fun function => ?_
  cases function with
  | none => exact transfers_pure rfl
  | some function =>
    refine (transfers_ask False.elim (turns_obtained m)).bind fun r => ?_
    split
    · next h => exact transfers_pure (if_pos h)
    · next h =>
      rw [afterQuery, if_neg h]
      refine (transfers_of_looks patchQueriedInterface_looks _).bind fun patched => ?_
      -- an interface that cannot be patched is not handed out
      cases patched with
      | error e => exact (releaseComObject_transfers m).bind fun _ => transfers_pure rfl
      | ok _ =>
        exact .ask_bind (Call.Plain.neutral id) fun _ => transfers_pure rfl

/-- Each interface that the swap chain has is given up again once it is captured. -/
theorem queryFirstInterface_transfers (interfaces : List Guid) (m : Multiset Resource) :
    (discipline startup).Transfers m (queryFirstInterface swapChain interfaces) fun _ => m := by
  -- the interfaces are tried in turn, until the first one that the swap chain has
  induction interfaces with
  | nil => exact transfers_pure rfl
  | cons interface interfaces ih =>
    refine (querySwapChainInterface_transfers m).bind fun queried => ?_
    cases queried with
    | ok queried => exact releaseComObject_transfers m
    | error e => exact ih

/-- Capturing holds nothing in the end: the record does not own the object. -/
theorem captureSwapChain_transfers (result : HResult) (output : UInt64) {entryCount : Nat}
    (hsize : KnownSize .swapChain entryCount) (m : Multiset Resource) :
    (discipline startup).Transfers m (captureSwapChain result output entryCount) fun _ => m := by
  rw [captureSwapChain]
  split
  · exact transfers_pure rfl
  · refine .ask_bind (Call.Plain.neutral id) fun swapChain => ?_
    split
    · exact transfers_pure rfl
    · refine (transfers_of_looks (patchSwapChain_looks hsize) m).bind fun patched => ?_
      cases patched with
      | error e => exact transfers_pure rfl
      | ok _ =>
        -- the state, the newer interfaces, the note and the log entry, in this order
        exact .ask_bind (Call.Plain.neutral id) fun _ =>
            (queryFirstInterface_transfers _ m).bind fun _ =>
              (transfers_of_looks noteActiveSwapChain_looks m).bind fun _ =>
                logSwapChainState_transfers true m

/-- Nor does the note of the first frame. -/
theorem noteFirstPresent_transfers (m : Multiset Resource) :
    (discipline startup).Transfers m (noteFirstPresent swapChain) fun _ => m := by
  refine .ask_bind (Call.Plain.neutral id) fun shouldLog => ?_
  split
  · exact (transfers_of_looks queryFullscreenState_looks m).bind fun _ =>
      logSwapChainState_transfers false m
  · exact transfers_pure rfl

end References

/-! ### Transitions -/

section Transitions

variable {swapChain : UInt64} {transition : ManagedColorSpaceTransition}

/-- Only on a held interface, and only to the color space of a transition that was begun. -/
theorem callSetColorSpace1_transfers {swapChain3 : UInt64} {m : Multiset Resource}
    (hreference : .reference swapChain3 ∈ m) (htransition : .transition swapChain transition ∈ m) :
    (discipline startup).Transfers m (callSetColorSpace1 swapChain3 transition.targetColorSpace)
      fun _ => m := by
  refine .ask_bind (Call.Plain.neutral id) fun function => ?_
  cases function with
  | none => exact transfers_pure rfl
  | some function =>
    -- the one place where the native set is permitted
    exact Discipline.Transfers.bind
      (transfers_ask ⟨hreference, swapChain, transition, htransition, rfl⟩ fun _ => .none m)
      fun _ => transfers_pure rfl

/-- The interface is held when the color space is set, and given up after it. -/
theorem setColorSpaceWithoutObserver_transfers {m : Multiset Resource}
    (htransition : .transition swapChain transition ∈ m) :
    (discipline startup).Transfers m
      (setColorSpaceWithoutObserver swapChain transition.targetColorSpace) fun _ => m := by
  refine (querySwapChainInterface_transfers m).tryThen (fun _ => rfl) fun swapChain3 => ?_
  -- the interface on top of what was held, the transition below it
  refine Discipline.Transfers.bind (callSetColorSpace1_transfers (Multiset.mem_cons_self _ m)
    (Multiset.mem_cons_of_mem htransition)) fun result => ?_
  exact (releaseComObject_transfers m).bind fun _ => transfers_pure rfl

/-- A transition that is submitted is still to be finished. -/
theorem submitTransition_transfers {m : Multiset Resource}
    (htransition : .transition swapChain transition ∈ m) :
    (discipline startup).Transfers m (submitTransition swapChain transition) fun _ => m := by
  rw [submitTransition]
  -- an enabling transition is inspected first; a restoring one is not
  split
  · refine (inspectWindowedHdrCandidate_transfers m).bind fun r => ?_
    rcases r with e | eligible
    · exact transfers_pure rfl
    · cases eligible with
      | true => exact setColorSpaceWithoutObserver_transfers htransition
      | false => exact transfers_pure rfl
  · exact setColorSpaceWithoutObserver_transfers htransition

/-- What is held when a transition was asked for. -/
def withTransition (swapChain : UInt64) (m : Multiset Resource) :
    Option ManagedColorSpaceTransition → Multiset Resource
  | none => m
  | some transition => .transition swapChain transition ::ₘ m

/-- **A transition that was begun is finished**, whether or not the native set was made. -/
theorem beforePresent_transfers (m : Multiset Resource) :
    (discipline startup).Transfers m (beforePresent swapChain) fun _ => m := by
  refine Discipline.Transfers.bind ?_ fun _ => noteFirstPresent_transfers m
  have hbegin : (discipline startup).Transfers m (ask (.swapChainState swapChain .beginTransition))
      (withTransition swapChain m) := by
    refine transfers_ask False.elim fun transition => ?_
    cases transition with
    | none => exact .none m
    | some transition => exact .gain m _
  -- it is held through the submission
  refine hbegin.bind fun transition => ?_
  cases transition with
  | none => exact transfers_pure rfl
  | some transition =>
    exact (submitTransition_transfers (Multiset.mem_cons_self _ m)).bind fun _ =>
      transfers_ask False.elim fun _ => .give m _

end Transitions

/-! ### The cache -/

section Cache

variable {swapChain : UInt64}

/-- Nothing is held when the lock is taken, and nothing when it was given back. -/
theorem candidateIsEligible_transfers (revision : UInt64) :
    (discipline startup).Transfers 0 (candidateIsEligible swapChain revision) fun _ => 0 := by
  have hunlock (cache : GameHdr.HdrCandidateCache) :
      (discipline startup).Transfers {.candidateCache} (ask (.unlockCandidateCache cache))
        fun _ => 0 :=
    transfers_ask False.elim fun _ => .give 0 _
  refine Discipline.Transfers.bind (transfers_ask rfl fun _ => .gain 0 _) fun cache => ?_
  -- the cached entry is current, or the swap chain is inspected under the lock
  split
  · exact (hunlock cache).bind fun _ => transfers_pure rfl
  · exact (inspectWindowedHdrCandidate_transfers _).bind fun _ =>
      (hunlock _).bind fun _ => transfers_pure rfl

/-- The lock is free again when the active swap chain was inspected. -/
theorem windowedCandidate_transfers (asked : Bool)
    (active : Option GameHdr.ActiveSwapChainSnapshot) :
    (discipline startup).Transfers 0 (windowedCandidate asked active) fun _ => 0 := by
  cases active with
  | none => exact transfers_pure rfl
  | some snapshot =>
    rw [windowedCandidate]
    split
    · exact candidateIsEligible_transfers _
    · exact transfers_pure rfl

/-- And when that of the backend was. -/
theorem backendCandidate_transfers (asked : Bool) :
    (discipline startup).Transfers 0 (backendCandidate asked swapChain) fun _ => 0 := by
  rw [backendCandidate]
  split
  · exact (transfers_of_looks swapChainRevision_looks 0).bind fun _ =>
      candidateIsEligible_transfers _
  · exact transfers_pure rfl

end Cache

/-! ### Hooks -/

section Hooks

variable {α : Type} {c : GameCall} {function swapChain : UInt64}

/-- A hook that finds its function through the object, whatever it finds. -/
theorem viaObject_transfers {this : UInt64} {kind : ShadowKind} {index : Nat} {failure : α}
    {hook : UInt64 → Routine α}
    (hhook : ∀ function, (discipline startup).Transfers 0 (hook function) fun _ => 0) :
    (discipline startup).Transfers 0 (viaObject this kind index failure hook) fun _ => 0 := by
  refine .ask_bind (Call.Plain.neutral id) fun found => ?_
  cases found with
  | none => exact transfers_pure rfl
  | some function => exact hhook function

/-- A hook that finds its function in a global pointer, whatever it finds. -/
theorem viaOriginal_transfers {slot : OriginalSlot} {failure : α} {hook : UInt64 → Routine α}
    (hhook : ∀ function, (discipline startup).Transfers 0 (hook function) fun _ => 0) :
    (discipline startup).Transfers 0 (viaOriginal slot failure hook) fun _ => 0 := by
  refine .ask_bind (Call.Plain.neutral id) fun found => ?_
  cases found with
  | none => exact transfers_pure rfl
  | some function => exact hhook function

/-- A call is forwarded by someone who holds nothing. -/
theorem forward_transfers :
    (discipline startup).Transfers 0 (ask (.forward function c)) fun _ => 0 :=
  transfers_ask rfl fun _ => .none 0

/-- Forward the call, do something else, and return the answer. -/
theorem forward_then_transfers {after : c.Answer → Routine Unit}
    (hafter : ∀ r, (discipline startup).Transfers 0 (after r) fun _ => 0) :
    (discipline startup).Transfers 0 (do let r ← ask (.forward function c); after r; return r)
      fun _ => 0 :=
  forward_transfers.bind fun r => (hafter r).bind fun _ => transfers_pure rfl

/-- What follows a reconfiguration holds nothing in the end. -/
theorem afterReconfiguration_transfers (result : HResult) :
    (discipline startup).Transfers 0 (afterReconfiguration swapChain result) fun _ => 0 := by
  rw [afterReconfiguration]
  split
  · have hadvance : Calls Call.Plain (advanceSwapChainGeneration swapChain) :=
      Calls.bind (Program.calls_ask.mpr id) fun _ =>
        plain_of_looks noteActiveSwapChainReconfigured_looks
    exact (transfers_of_plain hadvance 0).bind fun _ => logSwapChainState_transfers true 0
  · exact transfers_pure rfl

/-- Nor does what follows a new target size. -/
theorem afterTargetResize_transfers (result : HResult) :
    (discipline startup).Transfers 0 (afterTargetResize swapChain result) fun _ => 0 := by
  rw [afterTargetResize]
  split
  · exact (logSwapChainState_transfers true 0).bind fun _ =>
      transfers_of_looks noteActiveSwapChainReconfigured_looks 0
  · exact transfers_pure rfl

/-- Whatever a hook does with an answer, it holds nothing in the end. -/
theorem Aftermath.transfers {after : Routine Unit} (h : Aftermath after) :
    (discipline startup).Transfers 0 after fun _ => 0 := by
  cases h with
  | ordinary h => exact transfers_of_ordinary h 0
  | created result swapChain hsize => exact captureSwapChain_transfers result swapChain hsize 0
  | reconfigured swapChain result => exact afterReconfiguration_transfers result
  | resized swapChain result => exact afterTargetResize_transfers result

/-- The reference that the game gives up is not ours, so nothing is transferred. -/
theorem releaseShadowObject_transfers (kind : ShadowKind) (object : UInt64) :
    (discipline startup).Transfers 0 (releaseShadowObject kind object) fun _ => 0 := by
  refine .ask_bind (Call.Plain.neutral id) fun record => ?_
  cases record with
  | none => exact transfers_pure rfl
  | some record =>
    refine .ask_bind (Call.Plain.neutral id) fun found => ?_
    cases found with
    | none => exact transfers_pure rfl
    | some function =>
      -- the retirement follows the native release, and is ordinary
      exact forward_then_transfers fun r =>
        transfers_of_ordinary (retireShadowObject_ordinary kind record r) 0

/-- The menu gate holds nothing. -/
theorem hdrMenuGateHook_transfers (this : UInt64) :
    (discipline startup).Transfers 0 (hdrMenuGateHook this) fun _ => 0 := by
  refine viaOriginal_transfers fun _ => forward_transfers.bind fun _ => ?_
  refine .ask_bind (Call.Plain.neutral id) fun unlock => ?_
  exact .ask_bind (Call.Plain.neutral id) fun windowed => transfers_pure rfl

/-- The availability may lock the cache after it has forwarded. -/
theorem hdrCommonAvailabilityHook_transfers :
    (discipline startup).Transfers 0 hdrCommonAvailabilityHook fun _ => 0 := by
  refine viaOriginal_transfers fun function => forward_transfers.bind fun _ => ?_
  refine .ask_bind (Call.Plain.neutral id) fun overrideEnabled => ?_
  refine .ask_bind (Call.Plain.neutral id) fun active => ?_
  exact (windowedCandidate_transfers _ active).bind fun _ => transfers_pure rfl

/-- The settings are read after they were copied. -/
theorem graphicsConfigApplyHook_transfers (destination source : UInt64) :
    (discipline startup).Transfers 0 (graphicsConfigApplyHook destination source) fun _ => 0 :=
  viaOriginal_transfers fun _ => forward_transfers.bind fun _ =>
    transfers_of_ordinary (noteLiveHdrSetting_ordinary destination source) 0

/-- The backend query gives the lock back before it asks for a color space. -/
theorem hdrBackendActualQueryHook_transfers (backend outputIdentity : UInt64) :
    (discipline startup).Transfers 0 (hdrBackendActualQueryHook backend outputIdentity)
      fun _ => 0 := by
  refine viaOriginal_transfers fun _ => ?_
  split
  · exact transfers_pure rfl
  -- the call is forwarded first; the loads in between hold nothing
  · refine forward_transfers.bind fun answer => ?_
    refine .ask_bind (Call.Plain.neutral id) fun disabled => ?_
    refine .ask_bind (Call.Plain.neutral id) fun capabilityFlags => ?_
    refine .ask_bind (Call.Plain.neutral id) fun swapChain => ?_
    refine (transfers_of_looks noteActiveSwapChain_looks 0).bind fun _ => ?_
    refine .ask_bind (Call.Plain.neutral id) fun liveHdr => ?_
    refine .ask_bind (Call.Plain.neutral id) fun experiment => ?_
    refine .ask_bind (Call.Plain.neutral id) fun synchronizeColorSpace => ?_
    refine .ask_bind (Call.Plain.neutral id) fun windowed => ?_
    -- the cache is locked and unlocked here
    refine (backendCandidate_transfers _).bind fun eligible => ?_
    refine (transfers_of_ordinary (colorSpaceReady_ordinary _ _) 0).bind fun overridden => ?_
    exact (transfers_of_ordinary (withdrawHdr_ordinary _) 0).bind fun _ => transfers_pure rfl

/-- Whatever its shape, a hook holds nothing in the end. -/
theorem Shape.transfers {p : Routine c.Answer} (h : Shape c p) :
    (discipline startup).Transfers 0 p fun _ => 0 := by
  cases h with
  | object _ hafter =>
    exact viaObject_transfers fun _ => forward_then_transfers fun r => (hafter r).transfers
  | imported _ hafter =>
    exact viaOriginal_transfers fun _ => forward_then_transfers fun r => (hafter r).transfers
  -- only the two Present hooks do something before they forward
  | present =>
    exact viaObject_transfers fun _ => (beforePresent_transfers 0).bind fun _ => forward_transfers
  | present1 =>
    exact viaObject_transfers fun _ => (beforePresent_transfers 0).bind fun _ => forward_transfers
  | release kind this => exact releaseShadowObject_transfers kind this
  | hdrMenuGate this => exact hdrMenuGateHook_transfers this
  | hdrCommonAvailability => exact hdrCommonAvailabilityHook_transfers
  | graphicsConfigApply destination source =>
    exact graphicsConfigApplyHook_transfers destination source
  | hdrBackendActualQuery backend outputIdentity =>
    exact hdrBackendActualQueryHook_transfers backend outputIdentity

/-- **Every hook holds nothing in the end.** -/
theorem hook_transfers (c : GameCall) : (discipline startup).Transfers 0 (hook c) fun _ => 0 :=
  (hook_shape c).transfers

end Hooks

/-! ### Starting up -/

/-- What is held by whoever has tried to claim the initialization. -/
def afterClaim : Bool → Multiset Resource
  | true => {.spawning}
  | false => 0

/-- What is held by whoever has tried to spawn the initialization thread. -/
def afterSpawn : Bool → Multiset Resource
  | true => 0
  | false => {.initializing}

/-- Who claims the initialization spawns its thread, or stores the failure. -/
theorem startInitialization_transfers :
    (discipline true).Transfers 0 startInitialization fun _ => 0 := by
  have hclaim : (discipline true).Transfers 0 (ask .claimInitState) afterClaim := by
    refine transfers_ask rfl fun claimed => ?_
    cases claimed with
    | true => exact .gain 0 _
    | false => exact .none 0
  have hspawn : (discipline true).Transfers {.spawning} (ask .spawnInitializationThread)
      afterSpawn := by
    refine transfers_ask rfl fun spawned => ?_
    cases spawned with
    | true => exact .give 0 _
    | false => exact .exchange 0 _ _
  -- without a claim there is nothing to do
  refine hclaim.bind fun claimed => ?_
  cases claimed with
  | false => exact transfers_pure rfl
  | true =>
    refine hspawn.bind fun spawned => ?_
    cases spawned with
    | true => exact transfers_pure rfl
    -- no thread will store an outcome, so it is stored here
    | false => exact transfers_ask ⟨rfl, .inr rfl⟩ fun _ => .give 0 _

/-- The loader's entry point starts the initialization and returns. -/
theorem dllMain_transfers (module : UInt64) (reason : UInt32) :
    (discipline true).Transfers 0 (dllMain module reason) fun _ => 0 := by
  rw [dllMain]
  split
  · refine .ask_bind (Call.Plain.neutral id) fun _ => .ask_bind (Call.Plain.neutral id) fun _ => ?_
    exact startInitialization_transfers.bind fun _ => transfers_pure rfl
  · exact transfers_pure rfl

/-- An initializer waits for the outcome without holding anything. -/
theorem eldenRingWindowedHdrInit_transfers (polls : Nat) :
    (discipline true).Transfers 0 (eldenRingWindowedHdrInit polls) fun _ => 0 :=
  startInitialization_transfers.bind fun _ =>
    transfers_of_ordinary (waitForInitialization_ordinary polls) 0

/-- The initialization thread stores the outcome, which ends the right that it came with. -/
theorem initializationThread_transfers :
    (discipline true).Transfers {.initializing} initializationThread fun _ => 0 := by
  refine (transfers_of_setup initializeDll_setup).bind fun r => ?_
  refine Discipline.Transfers.bind (transfers_ask ⟨rfl, ?_⟩ fun _ => .give 0 _) fun _ =>
    transfers_pure rfl
  -- success or an error, and so 2 or 3
  split
  · exact .inl rfl
  · exact .inr rfl

/-- What a thread enters with. -/
def Entry.start : Entry → Option Resource
  | .initializationThread => some .initializing
  | _ => none

/-- **Every entry point keeps the discipline, and holds nothing at its end.** -/
theorem body_transfers (entry : Entry) :
    (discipline true).Transfers (Transfer.add entry.start 0) entry.body fun _ => 0 := by
  cases entry with
  | dllMain module reason => exact dllMain_transfers module reason
  | eldenRingWindowedHdrInit polls => exact eldenRingWindowedHdrInit_transfers polls
  | eldenRingBorderlessHdrInit polls => exact eldenRingWindowedHdrInit_transfers polls
  | initializationThread => exact initializationThread_transfers
  | hook c => exact hook_transfers c

/-! ### All threads -/

variable {code : HookFunction → UInt64} {s : ProcessState}

/-- A thread of the process. -/
abbrev Thread := ThreadSystem.Thread Call Call.Answer Entry.Result

/-- What a thread holds that entered at `entry`. -/
def held (entry : Entry) (past : List Event) : Multiset Resource :=
  (discipline true).owned (Transfer.add entry.start 0) past

/-- A thread that entered at `entry` may make the call. -/
def Allowed (entry : Entry) (past : List Event) (c : Call) : Prop :=
  (discipline true).Allows (Transfer.add entry.start 0) past c

/-- An entry point makes only calls that are allowed. -/
theorem body_allowed (entry : Entry) :
    entry.body.wp (Allowed entry) (fun past _ => held entry past = 0) [] :=
  (body_transfers entry).wp

/-- So a running thread is allowed what is left of its program. -/
theorem thread_allowed (h : (process code).system.Reachable s) {i : Nat} {t : Thread}
    (ht : s.threads i = some t) :
    t.rest.wp (Allowed t.entry) (fun past _ => held t.entry past = 0) t.past :=
  ThreadSystem.meets Allowed (fun entry past _ => held entry past = 0) body_allowed h ht

end Runtime
end WindowedHdr
