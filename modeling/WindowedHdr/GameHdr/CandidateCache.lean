import WindowedHdr.Library.History
import WindowedHdr.Shadow.Lifetime
import WindowedHdr.Text

/-!
# The candidate cache

Whether a swap chain can show HDR in a window is decided by an inspection of the swap chain
(`inspectWindowedHdrCandidate`), whose result is kept in a cache with a single entry
(`HdrCandidateCache`). The entry is used again for the same address and the same value of
`ACTIVE_SWAP_CHAIN_REVISION`, a counter that advances when another swap chain becomes active,
when the active one is reconfigured, and when the active one is released for the last time.
It does not advance when an inactive swap chain is reconfigured, or when an address is reused.

`candidateSystem code` runs whole operations in any order and on any swap chains: those of
`shadowSystem`, the creation of an object at an address, a reconfiguration, and the two
queries. It keeps the history of what happened, so that an answer can be compared with the
inspection it came from.

The invariant (`CandidateState.Dated`) dates the entry by the number of times the revision
had advanced when it was made. An entry of the current date belongs to the active swap chain,
which has been neither reconfigured nor replaced since it was inspected.

Only two facts about the counter are used: an operation advances it or leaves it alone, and while
it stands still the active swap chain is the same (`RevisionStep.active_eq`). Both are shown for
every operation of `shadowSystem` before the cache is looked at. What an operation does to the
history and to the cache is said once (`CandidateStep`), so that the invariant has one case for
each. The counter is a 64-bit word and may wrap, so dates are compared under the assumption that
fewer than `2 ^ 64` of them have passed (`revisionAt_inj`).
-/

namespace WindowedHdr
namespace GameHdr

open Shadow Dxgi

/-! ### The inspection -/

def dxgiSwapChainColorSpaceSupportFlagPresent : UInt32 := 1

/-- What the inspection reads of a `DXGI_SWAP_CHAIN_DESC`. -/
structure SwapChainDesc where
  format : UInt32
  bufferCount : UInt32
  windowed : Int32
  swapEffect : UInt32
  deriving DecidableEq, Repr

/-- What the inspection reads of a `DXGI_OUTPUT_DESC1`. -/
structure OutputDesc1 where
  attachedToDesktop : Int32
  bitsPerColor : UInt32
  colorSpace : UInt32
  deriving DecidableEq, Repr

/-- `windowed_hdr_candidate_is_eligible`. -/
def windowedHdrCandidateIsEligible (description : SwapChainDesc) (fullscreen : Bool)
    (output : OutputDesc1) (pqSupport : UInt32) : Bool :=
  -- `DXGI_FORMAT_R10G10B10A2_UNORM`, and the flip models as swap effects
  description.format == 24 && decide (2 ≤ description.bufferCount) &&
    description.windowed != 0 && !fullscreen &&
    (description.swapEffect == 3 || description.swapEffect == 4) &&
    output.attachedToDesktop != 0 && decide (10 ≤ output.bitsPerColor) &&
    output.colorSpace == dxgiColorSpaceRgbFullG2084NoneP2020 &&
    pqSupport &&& dxgiSwapChainColorSpaceSupportFlagPresent != 0

/-- What the queries of an inspection return. -/
structure InspectionAnswers where
  /-- `swap_chain_description`. -/
  description : Except String SwapChainDesc
  /-- `query_fullscreen_state`. -/
  fullscreen : Except String Bool
  /-- `query_output_desc1`. -/
  output : Except String OutputDesc1
  /-- `query_pq_present_support`. -/
  pqSupport : Except String UInt32

/-- `inspect_windowed_hdr_candidate`, without the text for the log. -/
def inspectWindowedHdrCandidate (answers : InspectionAnswers) (s : ShadowState)
    (swapChain : UInt64) : Except String Bool := do
  Except.require (swapChain ≠ 0) "the game backend contains a null swap-chain pointer"
  Except.require ((s.findShadowRecord swapChain .swapChain).isSome = true)
    s!"swap chain {pointerText swapChain} was not captured by the DXGI observer"
  -- the queries are made in this order, and the first that fails decides
  let description ← answers.description
  let fullscreen ← answers.fullscreen
  let output ← answers.output
  let pqSupport ← answers.pqSupport
  return windowedHdrCandidateIsEligible description fullscreen output pqSupport

/-- The answer that an inspection gives; an error counts as false. -/
def inspectionAnswer : Except String Bool → Bool
  | .ok eligible => eligible
  | .error _ => false

/-! ### The cache -/

/-- `HdrCandidateCache`. -/
structure HdrCandidateCache where
  object : UInt64 := 0
  revision : UInt64 := 0
  eligible : Option Bool := none
  deriving DecidableEq, Repr

/-- What the cache answers for a swap chain and a revision. -/
def HdrCandidateCache.lookup (self : HdrCandidateCache) (object revision : UInt64) :
    Option Bool :=
  if self.object = object ∧ self.revision = revision then self.eligible else none

/-- `candidate_is_eligible`, where `inspection` is what an inspection returns now. The lock of
the cache is held throughout; it is never poisoned, since a panic ends the process. -/
def candidateIsEligible (inspection : Except String Bool) (cache : HdrCandidateCache)
    (swapChain revision : UInt64) : Bool × HdrCandidateCache :=
  match cache.lookup swapChain revision with
  | some eligible => (eligible, cache)
  | none =>
    (inspectionAnswer inspection,
      { object := swapChain
        revision := revision
        eligible := some (inspectionAnswer inspection) })

/-! ### The active swap chain -/

/-- `ActiveSwapChainSnapshot`. -/
structure ActiveSwapChainSnapshot where
  swapChain : UInt64
  revision : UInt64
  deriving DecidableEq, Repr

/-- `active_swap_chain_snapshot`. -/
def activeSwapChainSnapshot (s : ShadowState) : Option ActiveSwapChainSnapshot :=
  if s.activeSwapChain = 0 then none
  else some ⟨s.activeSwapChain, s.activeSwapChainRevision⟩

/-- `swap_chain_revision`. -/
def swapChainRevision (s : ShadowState) (swapChain : UInt64) : UInt64 :=
  if s.activeSwapChain = swapChain then s.activeSwapChainRevision else 0

/-- `advance_swap_chain_generation`. -/
def advanceSwapChainGeneration (s : ShadowState) (swapChain : UInt64) : ShadowState :=
  (s.updateSwapChainState swapChain SwapChainState.advanceGeneration)
    |>.noteActiveSwapChainReconfigured swapChain

/-! ### Whole operations -/

/-- What happens to a swap chain. -/
inductive CandidateEvent
  /-- An object was created at the address. -/
  | created (object : UInt64)
  /-- The swap chain was reconfigured. -/
  | reconfigured (swapChain : UInt64)
  /-- The swap chain was inspected. -/
  | inspected (swapChain : UInt64) (inspection : Except String Bool)
  /-- `candidate_is_eligible` answered for the swap chain. -/
  | answered (swapChain : UInt64) (eligible : Bool)

/-- The shadows, the cache, and what happened so far. -/
structure CandidateState where
  shadows : ShadowState
  /-- `HDR_CANDIDATE_CACHE`. -/
  cache : HdrCandidateCache
  /-- Newest first. -/
  history : List CandidateEvent
  /-- How often the revision was advanced. -/
  revisions : Nat

/-- One whole operation. -/
inductive CandidateAction
  /-- An operation on shadows. -/
  | shadow (a : ShadowAction)
  /-- The operating system creates an object. -/
  | create (object : UInt64)
  /-- `advance_swap_chain_generation`. -/
  | advance (swapChain : UInt64)
  /-- The game's backend asks about its swap chain. -/
  | backendQuery (swapChain : UInt64) (answers : InspectionAnswers)
  /-- The game asks whether HDR is available. -/
  | availabilityQuery (answers : InspectionAnswers)

/-- The events of an operation on shadows. -/
def shadowEvents : ShadowAction → List CandidateEvent
  | .noteReconfigured swapChain => [.reconfigured swapChain]
  | _ => []

namespace CandidateState

/-- The shadows become `shadows`. -/
def withShadows (s : CandidateState) (shadows : ShadowState) (events : List CandidateEvent) :
    CandidateState :=
  { s with
    shadows := shadows
    history := events ++ s.history
    revisions :=
      if shadows.activeSwapChainRevision = s.shadows.activeSwapChainRevision then s.revisions
      else s.revisions + 1 }

/-- A call of `candidate_is_eligible`. -/
def query (s : CandidateState) (answers : InspectionAnswers) (swapChain revision : UInt64) :
    CandidateState :=
  let inspection := inspectWindowedHdrCandidate answers s.shadows swapChain
  let inspections : List CandidateEvent :=
    match s.cache.lookup swapChain revision with
    | some _ => []
    | none => [.inspected swapChain inspection]
  let r := candidateIsEligible inspection s.cache swapChain revision
  { s with
    cache := r.2
    history := .answered swapChain r.1 :: (inspections ++ s.history) }

end CandidateState

/-- The system of whole operations. An object is created at an address once the captured
swap chain that was there is gone; what is done to a swap chain, is done to a captured one. -/
def candidateSystem (code : HookFunction → UInt64) :
    ActionSystem CandidateState CandidateAction where
  Init s := (shadowSystem code).Init s.shadows ∧ s.cache = {} ∧ s.history = [] ∧ s.revisions = 0
  step s
    | .shadow a =>
      ((shadowSystem code).step s.shadows a).map fun shadows =>
        s.withShadows shadows (shadowEvents a)
    | .create object =>
      if object ≠ 0 ∧ s.shadows.findShadowRecord object .swapChain = none then
        some { s with history := .created object :: s.history }
      else
        none
    | .advance swapChain =>
      if (s.shadows.findShadowRecord swapChain .swapChain).isSome then
        some (s.withShadows (advanceSwapChainGeneration s.shadows swapChain)
          [.reconfigured swapChain])
      else
        none
    | .backendQuery swapChain answers =>
      if (s.shadows.findShadowRecord swapChain .swapChain).isSome then
        let noted := s.withShadows (s.shadows.noteActiveSwapChain swapChain) []
        some (noted.query answers swapChain (swapChainRevision noted.shadows swapChain))
      else
        none
    | .availabilityQuery answers =>
      match activeSwapChainSnapshot s.shadows with
      | none => some s
      | some snapshot => some (s.query answers snapshot.swapChain snapshot.revision)

variable {code : HookFunction → UInt64} {s s' : CandidateState}
  {swapChain revision object : UInt64} {eligible : Bool}

/-! ### The revision and the active swap chain -/

/-- The revision stays, and with it the active swap chain, or it advances. -/
def RevisionStep (s s' : ShadowState) : Prop :=
  (s'.activeSwapChain = s.activeSwapChain ∧
    s'.activeSwapChainRevision = s.activeSwapChainRevision) ∨
  s'.activeSwapChainRevision = s.activeSwapChainRevision + 1

/-- A revision that stayed did not advance. -/
theorem RevisionStep.active_eq {s s' : ShadowState} (h : RevisionStep s s')
    (heq : s'.activeSwapChainRevision = s.activeSwapChainRevision) :
    s'.activeSwapChain = s.activeSwapChain := by
  obtain ⟨hactive, -⟩ | hadvanced := h
  · exact hactive
  · rw [hadvanced] at heq
    exact absurd heq (by simp)

/-- Another swap chain becomes active only with a new revision. -/
theorem noteActiveSwapChain_revisionStep (s : ShadowState) (swapChain : UInt64) :
    RevisionStep s (s.noteActiveSwapChain swapChain) := by
  rw [ShadowState.noteActiveSwapChain]
  split
  · exact .inl ⟨rfl, rfl⟩
  -- a swap chain that is active already is noted without a new revision
  · by_cases hactive : s.activeSwapChain = swapChain
    · exact .inl ⟨hactive.symm, if_neg (not_not_intro hactive)⟩
    · exact .inr (if_pos hactive)

/-- A reconfiguration of the active swap chain advances the revision. -/
theorem noteActiveSwapChainReconfigured_revisionStep (s : ShadowState) (swapChain : UInt64) :
    RevisionStep s (s.noteActiveSwapChainReconfigured swapChain) ∧
      ((s.noteActiveSwapChainReconfigured swapChain).activeSwapChainRevision =
        s.activeSwapChainRevision → s.activeSwapChain ≠ swapChain) := by
  rw [ShadowState.noteActiveSwapChainReconfigured]
  split
  · exact ⟨.inr rfl, fun heq => absurd heq (by simp)⟩
  · next hother => exact ⟨.inl ⟨rfl, rfl⟩, fun _ => hother⟩

/-- A last release may clear the active swap chain, with a new revision. -/
theorem releaseShadowObject_revisionStep (remaining : UInt32) (s : ShadowState)
    (object : UInt64) (kind : ShadowKind) :
    RevisionStep s (releaseShadowObject remaining s object kind).2 := by
  rw [releaseShadowObject]
  split
  -- no record, or references are left
  · exact .inl ⟨rfl, rfl⟩
  split
  · exact .inl ⟨rfl, rfl⟩
  simp only
  split
  · cases kind with
    | factory => exact .inl ⟨rfl, rfl⟩
    | swapChain =>
      -- clearing the active swap chain advances the revision
      simp only [ShadowState.retireShadowObject, ShadowState.removeSwapChainState,
        ShadowState.clearActiveSwapChain]
      split
      · exact .inr rfl
      · exact .inl ⟨rfl, rfl⟩
  · exact .inl ⟨rfl, rfl⟩

/-- An installation does not touch the revision. -/
theorem installEffect_revisionStep {s s' : ShadowState} {o : Shadow.InstallOutcome}
    {kind : ShadowKind} {entryCount : Nat} {hooks : List VtableHook}
    {result : Except String Unit}
    (h : InstallEffect o s object kind entryCount hooks result s') : RevisionStep s s' := by
  cases h <;> exact .inl ⟨rfl, rfl⟩

/-- **What an operation on shadows does to the revision.** A reconfiguration that leaves it
alone is one of an inactive swap chain. -/
theorem step_revisionStep {s s' : ShadowState} {a : ShadowAction}
    (h : (shadowSystem code).step s a = some s') :
    RevisionStep s s' ∧ ∀ swapChain, CandidateEvent.reconfigured swapChain ∈ shadowEvents a →
      s'.activeSwapChainRevision = s.activeSwapChainRevision → s.activeSwapChain ≠ swapChain := by
  cases a with
  | patch object kind entryCount o =>
    obtain rfl := Option.some.inj h
    have heffect : InstallEffect o s object kind entryCount (kind.hooks code entryCount) _
        (patchObject code o s object kind entryCount).2 := installEffect_of_install rfl
    exact ⟨installEffect_revisionStep heffect, fun _ hmem => absurd hmem List.not_mem_nil⟩
  | release object kind remaining =>
    obtain rfl := Option.some.inj h
    exact ⟨releaseShadowObject_revisionStep remaining s object kind,
      fun _ hmem => absurd hmem List.not_mem_nil⟩
  | write address value =>
    obtain rfl := Option.some.inj h
    exact ⟨.inl ⟨rfl, rfl⟩, fun _ hmem => absurd hmem List.not_mem_nil⟩
  | updateState object f =>
    rw [shadowSystem, Option.ite_none_right_eq_some] at h
    obtain rfl := Option.some.inj h.2
    exact ⟨.inl ⟨rfl, rfl⟩, fun _ hmem => absurd hmem List.not_mem_nil⟩
  | noteActive object =>
    rw [shadowSystem, Option.ite_none_right_eq_some] at h
    obtain rfl := Option.some.inj h.2
    exact ⟨noteActiveSwapChain_revisionStep s object, fun _ hmem => absurd hmem List.not_mem_nil⟩
  | noteReconfigured object =>
    -- the only operation that enters a reconfiguration, and of its own swap chain
    rw [shadowSystem, Option.ite_none_right_eq_some] at h
    obtain rfl := Option.some.inj h.2
    obtain ⟨hstep, hother⟩ := noteActiveSwapChainReconfigured_revisionStep s object
    refine ⟨hstep, fun swapChain hmem => ?_⟩
    obtain rfl := CandidateEvent.reconfigured.inj (List.mem_singleton.mp hmem)
    exact hother

/-- **The active swap chain is a captured one.** Its last release clears it. -/
theorem activeCaptured_of_reachable {s : ShadowState} (h : (shadowSystem code).Reachable s)
    (hactive : s.activeSwapChain ≠ 0) :
    s.findShadowRecord s.activeSwapChain .swapChain ≠ none := by
  refine h.invariant_of_reachable (I := fun s => s.activeSwapChain ≠ 0 →
    s.findShadowRecord s.activeSwapChain .swapChain ≠ none) ?_ ?_ hactive
  · rintro s ⟨-, -, hzero, -⟩ hactive
    exact absurd hzero hactive
  · intro s a s' hs ih _ hstep hactive hnone
    -- what is active after the step had a record before it
    have hbefore : s.findShadowRecord s'.activeSwapChain .swapChain ≠ none := by
      obtain hsame | hzero | hguard := (step_globals hstep s'.activeSwapChain).2
      · rw [hsame] at hactive ⊢
        exact ih hactive
      · exact absurd hzero hactive
      · exact Option.isSome_iff_ne_none.mp hguard
    obtain ⟨i, hfound⟩ := Option.ne_none_iff_exists'.mp hbefore
    obtain ⟨r, hr, hobject, hkind, hactive'⟩ := ShadowState.exists_of_findShadowRecord hfound
    obtain ⟨r', hr', hrecord⟩ := (step_recordsFollow hstep).old i r hr
    obtain ⟨hobject', hkind', -⟩ := hrecord.key
    -- a record that was there and is not found any more was retired
    have hretired := ShadowState.findShadowRecord_eq_none.mp hnone i r' hr'
      (hobject'.trans hobject) (hkind'.trans hkind)
    -- so the step is the last release of that swap chain
    cases hrecord with
    | kept =>
      rw [hretired] at hactive'
      exact nomatch hactive'
    | grown =>
      rw [ShadowRecord.expand, ShadowRecord.publishShadowGeneration] at hretired
      rw [hretired] at hactive'
      exact nomatch hactive'
    | retired _ ha =>
      have heq : (releaseShadowObject 0 s r.object r.kind).2 = s' := by
        subst ha
        exact Option.some.inj hstep
      rw [hobject, hkind] at heq
      exact (gone_after_release hs hfound).notActive rfl (by rw [heq])

/-! ### What one operation does -/

/-- The event makes older inspections of the swap chain worthless. -/
def CandidateEvent.Outdates (swapChain : UInt64) : CandidateEvent → Prop
  | .created object => object = swapChain
  | .reconfigured swapChain' => swapChain' = swapChain
  | _ => False

/-- The event is an inspection of the swap chain that gives the answer. -/
def CandidateEvent.Gives (swapChain : UInt64) (eligible : Bool) : CandidateEvent → Prop
  | .inspected swapChain' inspection =>
    swapChain' = swapChain ∧ inspectionAnswer inspection = eligible
  | _ => False

/-- The answer is that of an inspection of the swap chain, after which the swap chain was
neither reconfigured nor created anew. -/
def FreshlyInspected (swapChain : UInt64) (eligible : Bool) (history : List CandidateEvent) :
    Prop :=
  History.Since (CandidateEvent.Outdates swapChain) (CandidateEvent.Gives swapChain eligible)
    history

/-- An answer is fresh when it is given. -/
def CandidateEvent.AnswerFresh (event : CandidateEvent) (older : List CandidateEvent) : Prop :=
  ∀ swapChain eligible, event = .answered swapChain eligible →
    FreshlyInspected swapChain eligible older

/-- The events are reconfigurations, and of inactive swap chains if the revision stays. -/
def Reconfigures (s s' : ShadowState) (events : List CandidateEvent) : Prop :=
  ∀ event ∈ events, ∃ swapChain, event = .reconfigured swapChain ∧
    (s'.activeSwapChainRevision = s.activeSwapChainRevision → s.activeSwapChain ≠ swapChain)

/-- What an operation does. -/
inductive CandidateStep (code : HookFunction → UInt64) (s : CandidateState) :
    CandidateState → Prop
  /-- The shadows change. -/
  | shadows (shadows : ShadowState) (events : List CandidateEvent) :
      (shadowSystem code).LeadsToWhere (fun _ _ => True) s.shadows shadows →
      RevisionStep s.shadows shadows → Reconfigures s.shadows shadows events →
      CandidateStep code s (s.withShadows shadows events)
  /-- An object is created where no captured swap chain is. -/
  | created (object : UInt64) : object ≠ 0 →
      s.shadows.findShadowRecord object .swapChain = none →
      CandidateStep code s { s with history := .created object :: s.history }
  /-- Nothing is asked, since no swap chain is active. -/
  | idle : CandidateStep code s s
  /-- The active swap chain is asked about, perhaps after it became active. -/
  | asked (shadows : ShadowState) (answers : InspectionAnswers) :
      (shadowSystem code).LeadsToWhere (fun _ _ => True) s.shadows shadows →
      RevisionStep s.shadows shadows → shadows.activeSwapChain ≠ 0 →
      CandidateStep code s ((s.withShadows shadows []).query answers shadows.activeSwapChain
        shadows.activeSwapChainRevision)

/-- One step of the shadows is a run of them. -/
theorem leadsTo_step {s s' : ShadowState} {a : ShadowAction}
    (h : (shadowSystem code).step s a = some s') :
    (shadowSystem code).LeadsToWhere (fun _ _ => True) s s' :=
  .single ⟨a, trivial, h⟩

/-- A reconfiguration is two steps of the shadows. -/
theorem leadsTo_advanceSwapChainGeneration {s : ShadowState}
    (h : (s.findShadowRecord swapChain .swapChain).isSome = true) :
    (shadowSystem code).LeadsToWhere (fun _ _ => True) s
      (advanceSwapChainGeneration s swapChain) :=
  .trans (leadsTo_step (a := .updateState swapChain SwapChainState.advanceGeneration) (if_pos h))
    (leadsTo_step (a := .noteReconfigured swapChain) (if_pos h))

/-- Shadows that do not change enter nothing. -/
theorem withShadows_self (s : CandidateState) : s.withShadows s.shadows [] = s := by
  rw [CandidateState.withShadows, if_pos rfl, List.nil_append]

/-- What is noted as active is active, unless it is null. -/
theorem noteActiveSwapChain_active {s : ShadowState} (h : swapChain ≠ 0) :
    (s.noteActiveSwapChain swapChain).activeSwapChain = swapChain := by
  rw [ShadowState.noteActiveSwapChain, if_neg h]

/-- **What one operation does.** -/
theorem candidateStep_of_step (hs : (shadowSystem code).Reachable s.shadows)
    {a : CandidateAction} (h : (candidateSystem code).step s a = some s') :
    CandidateStep code s s' := by
  cases a with
  | shadow a =>
    obtain ⟨shadows, hstep, rfl⟩ := Option.map_eq_some_iff.mp h
    obtain ⟨hrevision, hother⟩ := step_revisionStep hstep
    refine .shadows shadows _ (leadsTo_step hstep) hrevision fun event hevent => ?_
    cases a with
    | noteReconfigured swapChain =>
      obtain rfl := List.mem_singleton.mp hevent
      exact ⟨swapChain, rfl, hother swapChain hevent⟩
    | _ => exact nomatch hevent
  | create object =>
    obtain ⟨⟨hobject, hnone⟩, h⟩ := Option.ite_none_right_eq_some.mp h
    obtain rfl := Option.some.inj h
    exact .created object hobject hnone
  | advance swapChain =>
    obtain ⟨hcaptured, h⟩ := Option.ite_none_right_eq_some.mp h
    obtain rfl := Option.some.inj h
    obtain ⟨hrevision, hother⟩ := noteActiveSwapChainReconfigured_revisionStep
      (s.shadows.updateSwapChainState swapChain SwapChainState.advanceGeneration) swapChain
    refine .shadows _ _ (leadsTo_advanceSwapChainGeneration hcaptured) hrevision
      fun event hevent => ?_
    exact ⟨swapChain, List.mem_singleton.mp hevent, hother⟩
  | backendQuery swapChain answers =>
    obtain ⟨hcaptured, h⟩ := Option.ite_none_right_eq_some.mp h
    obtain ⟨i, hfound⟩ := Option.isSome_iff_exists.mp hcaptured
    obtain ⟨r, hr, hobject, -⟩ := ShadowState.exists_of_findShadowRecord hfound
    -- a captured swap chain is not null, so noting it makes it the active one
    have hne : swapChain ≠ 0 := hobject ▸ object_ne_of_reachable hs i r hr
    have hactive := noteActiveSwapChain_active (s := s.shadows) hne
    have hasked : CandidateStep code s _ := .asked
      (s.shadows.noteActiveSwapChain swapChain) answers
      (leadsTo_step (a := .noteActive swapChain) (if_pos hcaptured))
      (noteActiveSwapChain_revisionStep _ _) (ne_of_eq_of_ne hactive hne)
    obtain rfl := Option.some.inj h
    rw [hactive] at hasked
    have hrevision : swapChainRevision (s.withShadows (s.shadows.noteActiveSwapChain swapChain)
        []).shadows swapChain = (s.shadows.noteActiveSwapChain swapChain).activeSwapChainRevision :=
      if_pos hactive
    rw [hrevision]
    exact hasked
  | availabilityQuery answers =>
    -- without an active swap chain there is nothing to ask about
    dsimp only [candidateSystem, activeSwapChainSnapshot] at h
    split at h
    · obtain rfl := Option.some.inj h
      exact .idle
    · next snapshot hsnapshot =>
      split at hsnapshot
      · exact nomatch hsnapshot
      · next hactive =>
        obtain rfl := Option.some.inj hsnapshot
        obtain rfl := Option.some.inj h
        have hasked : CandidateStep code s _ := .asked s.shadows answers .refl
          (.inl ⟨rfl, rfl⟩) hactive
        rw [withShadows_self] at hasked
        exact hasked

/-! ### Dating the cache -/

/-- The revision after it was advanced `date` times. -/
def revisionAt (date : Nat) : UInt64 := UInt64.ofNat (date + 1)

/-- Each advance adds one. -/
theorem revisionAt_succ (date : Nat) : revisionAt (date + 1) = revisionAt date + 1 := by
  rw [revisionAt, UInt64.ofNat_add]
  rfl

/-- Before the counter wraps, a revision tells its date. -/
theorem revisionAt_inj {date date' : Nat} (hdate : date ≤ date') (hlt : date' < 2 ^ 64)
    (h : revisionAt date = revisionAt date') : date = date' := by
  have hnat : (date + 1) % 2 ^ 64 = (date' + 1) % 2 ^ 64 := congrArg UInt64.toNat h
  omega

namespace CandidateState

/-- **The invariant.** The revision tells how often it was advanced; the cache's entry was made
at some date, and if that is the current one, then it is fresh and about the active swap chain;
and every answer so far was fresh. -/
structure Dated (s : CandidateState) : Prop where
  revision_eq : s.shadows.activeSwapChainRevision = revisionAt s.revisions
  cached : ∀ eligible, s.cache.eligible = some eligible →
    ∃ date ≤ s.revisions, s.cache.revision = revisionAt date ∧
      (date = s.revisions → s.cache.object = s.shadows.activeSwapChain ∧ s.cache.object ≠ 0 ∧
        FreshlyInspected s.cache.object eligible s.history)
  answers : s.revisions < 2 ^ 64 → History.Always CandidateEvent.AnswerFresh s.history

/-- Revisions are never taken back. -/
theorem revisions_le (s : CandidateState) (shadows : ShadowState) (events : List CandidateEvent) :
    s.revisions ≤ (s.withShadows shadows events).revisions := by
  simp only [withShadows]
  split <;> omega

/-- **Shadows that change** keep the invariant: a new revision outdates the entry, and an old one
leaves the active swap chain alone. -/
theorem Dated.withShadows {shadows : ShadowState} {events : List CandidateEvent} (hs : s.Dated)
    (hrevision : RevisionStep s.shadows shadows)
    (hevents : Reconfigures s.shadows shadows events) :
    (s.withShadows shadows events).Dated := by
  refine ⟨?_, ?_, ?_⟩
  · simp only [CandidateState.withShadows]
    split
    · next hsame => exact hsame.trans hs.revision_eq
    -- the revision changed, and it changes only by advancing
    · next hne =>
      obtain ⟨-, hsame⟩ | hadvanced := hrevision
      · exact absurd hsame hne
      · rw [hadvanced, hs.revision_eq, revisionAt_succ]
  · intro eligible heligible
    obtain ⟨date, hdate, hcached, hfresh⟩ := hs.cached eligible heligible
    refine ⟨date, hdate.trans (revisions_le s shadows events), hcached, fun hcurrent => ?_⟩
    by_cases hsame : shadows.activeSwapChainRevision = s.shadows.activeSwapChainRevision
    · -- nothing but inactive swap chains was reconfigured
      have hcurrent : date = s.revisions := by
        rw [hcurrent, CandidateState.withShadows]
        exact if_pos hsame
      obtain ⟨hactive, hne, hfresh⟩ := hfresh hcurrent
      refine ⟨hactive.trans (hrevision.active_eq hsame).symm, hne, hfresh.append ?_⟩
      intro event hevent houtdates
      obtain ⟨swapChain, rfl, hother⟩ := hevents event hevent
      exact hother hsame (hactive.symm.trans (Eq.symm houtdates))
    · -- the entry is from before the revision advanced
      have hadvanced : (s.withShadows shadows events).revisions = s.revisions + 1 := if_neg hsame
      omega
  -- a reconfiguration answers nothing
  · intro hlt
    have hle := revisions_le s shadows events
    refine (hs.answers (by omega)).append fun event hevent older swapChain eligible heq => ?_
    obtain ⟨swapChain', rfl, -⟩ := hevents event hevent
    exact nomatch heq

/-- **A new object** keeps the invariant, because it is not where the active swap chain still is. -/
theorem Dated.created (hs : s.Dated) (hreachable : (shadowSystem code).Reachable s.shadows)
    (hobject : object ≠ 0) (hnone : s.shadows.findShadowRecord object .swapChain = none) :
    ({ s with history := .created object :: s.history } : CandidateState).Dated := by
  refine ⟨hs.revision_eq, ?_, ?_⟩
  · intro eligible heligible
    obtain ⟨date, hdate, hcached, hfresh⟩ := hs.cached eligible heligible
    refine ⟨date, hdate, hcached, fun hcurrent => ?_⟩
    obtain ⟨hactive, hne, hfresh⟩ := hfresh hcurrent
    refine ⟨hactive, hne, hfresh.cons fun houtdates => ?_⟩
    -- the active swap chain is still there, so the new object is elsewhere
    have houtdates : object = s.shadows.activeSwapChain := Eq.trans houtdates hactive
    subst houtdates
    exact activeCaptured_of_reachable hreachable hobject hnone
  · intro hlt
    exact History.always_cons.mpr ⟨fun _ _ heq => (nomatch heq), hs.answers hlt⟩

/-- What the cache answers for the active swap chain is fresh. -/
theorem Dated.lookup (hs : s.Dated) (hlt : s.revisions < 2 ^ 64)
    (h : s.cache.lookup s.shadows.activeSwapChain s.shadows.activeSwapChainRevision =
      some eligible) :
    FreshlyInspected s.shadows.activeSwapChain eligible s.history := by
  rw [HdrCandidateCache.lookup, Option.ite_none_right_eq_some] at h
  obtain ⟨⟨hobject, hrevision⟩, heligible⟩ := h
  obtain ⟨date, hdate, hcached, hfresh⟩ := hs.cached eligible heligible
  -- the entry has the current revision, so it is of the current date
  have hcurrent : date = s.revisions :=
    revisionAt_inj hdate hlt (hcached.symm.trans (hrevision.trans hs.revision_eq))
  obtain ⟨-, -, hfresh⟩ := hfresh hcurrent
  rw [hobject] at hfresh
  exact hfresh

/-- An answer, and an inspection of the same swap chain, outdate nothing. -/
theorem Dated.query {answers : InspectionAnswers} (hs : s.Dated)
    (hactive : s.shadows.activeSwapChain ≠ 0) :
    (s.query answers s.shadows.activeSwapChain s.shadows.activeSwapChainRevision).Dated := by
  simp only [CandidateState.query, candidateIsEligible]
  cases hlookup : s.cache.lookup s.shadows.activeSwapChain s.shadows.activeSwapChainRevision with
  | some cached =>
    refine ⟨hs.revision_eq, ?_, ?_⟩
    · intro eligible heligible
      obtain ⟨date, hdate, hcached, hfresh⟩ := hs.cached eligible heligible
      refine ⟨date, hdate, hcached, fun hcurrent => ?_⟩
      obtain ⟨hobject, hne, hfresh⟩ := hfresh hcurrent
      -- the entry stays, and an answer does not outdate it
      exact ⟨hobject, hne, hfresh.cons id⟩
    · intro hlt
      refine History.always_cons.mpr ⟨?_, hs.answers hlt⟩
      intro swapChain eligible heq
      obtain ⟨rfl, rfl⟩ := CandidateEvent.answered.inj heq
      exact hs.lookup hlt hlookup
  | none =>
    -- the swap chain was inspected just now
    have hinspected : ∀ inspection, FreshlyInspected s.shadows.activeSwapChain
        (inspectionAnswer inspection)
        (.inspected s.shadows.activeSwapChain inspection :: s.history) := by
      intro inspection
      exact .head (And.intro rfl rfl)
    refine ⟨hs.revision_eq, ?_, ?_⟩
    · intro eligible heligible
      -- the new entry is of today
      obtain rfl := Option.some.inj heligible
      exact ⟨s.revisions, Nat.le_refl _, hs.revision_eq, fun _ =>
        ⟨rfl, hactive, (hinspected _).cons id⟩⟩
    · intro hlt
      refine History.always_cons.mpr ⟨?_, History.always_cons.mpr ⟨?_, hs.answers hlt⟩⟩
      · intro swapChain eligible heq
        obtain ⟨rfl, rfl⟩ := CandidateEvent.answered.inj heq
        exact hinspected _
      · exact fun _ _ heq => nomatch heq

end CandidateState

/-- The shadows of a reachable state are reachable. -/
theorem CandidateStep.reachable (h : CandidateStep code s s')
    (hs : (shadowSystem code).Reachable s.shadows) : (shadowSystem code).Reachable s'.shadows := by
  cases h with
  | shadows _ _ hleads => exact hs.leadsTo hleads
  | created => exact hs
  | idle => exact hs
  | asked _ _ hleads => exact hs.leadsTo hleads

/-- **One operation** keeps the invariant. -/
theorem CandidateStep.dated (h : CandidateStep code s s')
    (hreachable : (shadowSystem code).Reachable s.shadows) (hs : s.Dated) : s'.Dated := by
  cases h with
  | shadows shadows events _ hrevision hevents => exact hs.withShadows hrevision hevents
  | created object hobject hnone => exact hs.created hreachable hobject hnone
  | idle => exact hs
  | asked shadows answers _ hrevision hactive =>
    have hnoted : (s.withShadows shadows []).Dated :=
      hs.withShadows hrevision fun _ hevent => nomatch hevent
    exact hnoted.query hactive

/-- **The invariant holds** after any run, along with the reachability of the shadows. -/
theorem dated_of_reachable (hs : (candidateSystem code).Reachable s) :
    (shadowSystem code).Reachable s.shadows ∧ s.Dated := by
  refine hs.invariant (I := fun s => (shadowSystem code).Reachable s.shadows ∧ s.Dated) ?_ ?_
  · rintro s ⟨hshadows, hcache, hhistory, hrevisions⟩
    -- the revision counts from zero, and there is nothing to date yet
    refine ⟨.init hshadows, ?_, ?_, ?_⟩
    · rw [hrevisions]
      exact hshadows.2.2.2
    · intro eligible heligible
      rw [hcache] at heligible
      exact nomatch heligible
    · intro _
      rw [hhistory]
      exact History.always_nil
  · rintro s a s' ⟨hreachable, hdated⟩ - hstep
    have hcases := candidateStep_of_step hreachable hstep
    exact ⟨hcases.reachable hreachable, hcases.dated hreachable hdated⟩

/-- **Answers are fresh.** After any run in which the revision was advanced fewer than `2 ^ 64`
times: every answer that was given for a swap chain is that of an inspection of this swap chain,
an error counting as false, and between the inspection and the answer the swap chain was not
reconfigured, and no object was created at its address. -/
theorem answers_are_fresh (hs : (candidateSystem code).Reachable s)
    (hrevisions : s.revisions < 2 ^ 64) (swapChain : UInt64) (eligible : Bool)
    (older : List CandidateEvent)
    (h : .answered swapChain eligible :: older <:+ s.history) :
    ∃ (between : List CandidateEvent) (inspection : Except String Bool)
      (before : List CandidateEvent),
      older = between ++ .inspected swapChain inspection :: before ∧
      inspectionAnswer inspection = eligible ∧
      ∀ event ∈ between, event ≠ .reconfigured swapChain ∧ event ≠ .created swapChain := by
  -- the invariant says it of every answer in the history
  have hfresh : FreshlyInspected swapChain eligible older :=
    (dated_of_reachable hs).2.answers hrevisions _ _ h _ _ rfl
  obtain ⟨between, event, before, rfl, hgives, hbetween⟩ := hfresh
  -- no other event gives an answer
  -- what happened in between outdates nothing
  cases event with
  | inspected swapChain' inspection =>
    obtain ⟨rfl, hanswer⟩ := hgives
    refine ⟨between, inspection, before, rfl, hanswer, fun event hevent => ⟨?_, ?_⟩⟩
    · rintro rfl
      exact hbetween _ hevent rfl
    · rintro rfl
      exact hbetween _ hevent rfl
  | _ => exact hgives.elim

/-! ### A sample run

The swap chain of the sample process is captured and asked about twice: by the backend, when it
can show HDR, and by the game, when its inspection would fail. -/

/-- A swap chain that can show HDR. -/
def sampleAnswers : InspectionAnswers where
  description := .ok ⟨24, 3, 1, 4⟩
  fullscreen := .ok false
  output := .ok ⟨1, 10, dxgiColorSpaceRgbFullG2084NoneP2020⟩
  pqSupport := .ok dxgiSwapChainColorSpaceSupportFlagPresent

def sampleCaptured : CandidateState where
  shadows := sampleShadowed
  cache := {}
  history := []
  revisions := 0

def sampleAsked : CandidateState where
  shadows := sampleShadowed.noteActiveSwapChain sampleObject
  cache := ⟨sampleObject, 2, some true⟩
  history :=
    [.answered sampleObject true, .answered sampleObject true,
      .inspected sampleObject (.ok true)]
  revisions := 1

/-- The backend asks first, and the game is answered from the cache. -/
theorem sampleAsked_run :
    (candidateSystem sampleCode).run sampleCaptured
      [.backendQuery sampleObject sampleAnswers,
        .availabilityQuery { sampleAnswers with fullscreen := .error "" }] = some sampleAsked :=
  rfl

/-- The two questions are a run. -/
theorem sampleAsked_reachable : (candidateSystem sampleCode).Reachable sampleAsked := by
  -- first the swap chain is captured
  have hcapture : (candidateSystem sampleCode).step ⟨sampleState, {}, [], 0⟩
      (.shadow (.patch sampleObject .swapChain swapChainVtableLength sampleOutcome)) =
        some sampleCaptured := by
    dsimp only [candidateSystem]
    rw [sampleState_capture]
    rfl
  have hcaptured : (candidateSystem sampleCode).Reachable sampleCaptured :=
    ActionSystem.Reachable.step (.init ⟨sampleState_init, rfl, rfl, rfl⟩) hcapture
  exact hcaptured.run sampleAsked_run

/-- The second answer is that of the first inspection. -/
theorem answers_are_fresh_sample :
    ∃ (between : List CandidateEvent) (inspection : Except String Bool)
      (before : List CandidateEvent),
      [.answered sampleObject true, .inspected sampleObject (.ok true)] =
        between ++ .inspected sampleObject inspection :: before ∧
      inspectionAnswer inspection = true ∧
      ∀ event ∈ between, event ≠ .reconfigured sampleObject ∧ event ≠ .created sampleObject :=
  answers_are_fresh sampleAsked_reachable (by decide) sampleObject true _ (List.suffix_refl _)

end GameHdr
end WindowedHdr
