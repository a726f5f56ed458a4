import WindowedHdr.Runtime.Process
import WindowedHdr.Runtime.Rights

/-!
# Hooks forward what they receive

A hook that found its function makes the game's call again exactly once, with the arguments
that it received, and returns the answer; without a function it makes no call of the game at
all (`hook_forwards`). The function it calls is the one it stands in for: the lookup is for
the slot that `shadow_replacement` fills with this very hook. The three hooks of `game_hdr`
return a normalized byte, and may return another answer than the game's only when they have
found their switch on, and then only the favourable one.

A hook is a program, and `Forwards` is a condition on its events and its result, so each shape
of a hook (`Shape`) has one lemma that is found by the rules of `wp`. To forward, and to do
something before or afterwards, leaves only what is done besides: that it makes no call of the
game (`Call.Own`). The hooks in the code of the game have their own lemmas, since three of them
may change the answer.

That the function which is found belongs to the slot is a fact about tables of the source: the
slot of a hook, and what `shadow_replacement` names for it (`shadowReplacement_vtableSlot`).
-/

namespace WindowedHdr
namespace Runtime

open Program (Calls Goes wp calls_ask)
open Dxgi Shadow

/-! ### What a hook does with a call -/

namespace GameCall

/-- The lookup of the function to forward to was answered `found`. -/
inductive LooksUp (c : GameCall) (past : List Event) : Option UInt64 → Prop
  | object {s : VtableSlot} {found : Option UInt64} : c.vtableSlot = some s →
      ⟨.loadObjectFunction s.this s.kind s.index, found⟩ ∈ past → LooksUp c past found
  | noRecord {s : VtableSlot} : c.vtableSlot = some s →
      ⟨.findShadowRecord s.this s.kind, none⟩ ∈ past → LooksUp c past none
  | record {s : VtableSlot} {record : Nat} {found : Option UInt64} : c.vtableSlot = some s →
      ⟨.findShadowRecord s.this s.kind, some record⟩ ∈ past →
      ⟨.loadSavedRecordFunction record s.index, found⟩ ∈ past → LooksUp c past found
  | original {slot : OriginalSlot} {found : Option UInt64} : c.originalSlot = some slot →
      ⟨.loadOriginal slot, found⟩ ∈ past → LooksUp c past found

/-- What the hook may return when the forwarded call returns `answer`. -/
def Returns : (c : GameCall) → List Event → c.Answer → c.Answer → Prop
  | hdrMenuGate _, past, answer, r =>
    r = byteOfBool (answer != 0) ∨ ⟨.loadFlag .menuGateUnlock, true⟩ ∈ past ∧ r = 0
  | hdrCommonAvailability, past, answer, r =>
    r = byteOfBool (answer != 0) ∨ ⟨.loadFlag .windowedAvailability, true⟩ ∈ past ∧ r = 1
  | hdrBackendActualQuery .., past, answer, r =>
    r = byteOfBool (answer != 0) ∨ ⟨.loadFlag .backendExperiment, true⟩ ∈ past ∧ r = 1
  | _, _, answer, r => r = answer

end GameCall

/-- A call that was made again. -/
structure ForwardedCall where
  function : UInt64
  call : GameCall
  answer : call.Answer

/-- The forwarded call of an event, if it is one. -/
def forwarded : Event → Option ForwardedCall
  | ⟨.forward function call, answer⟩ => some ⟨function, call, answer⟩
  | _ => none

/-- The calls of the game that were made again. -/
def forwards (past : List Event) : List ForwardedCall := past.filterMap forwarded

/-- A forwarded call is among those that were made again. -/
theorem mem_forwards {c : GameCall} {past : List Event} {function : UInt64} {answer : c.Answer}
    (h : ⟨.forward function c, answer⟩ ∈ past) : ⟨function, c, answer⟩ ∈ forwards past :=
  List.mem_filterMap.mpr ⟨_, h, rfl⟩

/-- The call was made again once, at the function that was found for it. -/
structure ForwardedTo (c : GameCall) (past : List Event) (function : UInt64)
    (answer : c.Answer) : Prop where
  forwards : forwards past = [⟨function, c, answer⟩]
  found : c.LooksUp past (some function)

/-- A call is made again as it was received, at the function that was found for it, and for the
first time. -/
def GameCall.Forwardable (c : GameCall) (past : List Event) : Call → Prop
  | .forward function again =>
    again = c ∧ forwards past = [] ∧ c.LooksUp past (some function)
  | _ => True

/-- Nothing is required of our own calls. -/
theorem Call.Own.forwardable {call : Call} (h : call.Own) (c : GameCall) (past : List Event) :
    c.Forwardable past call := by
  cases call with
  | forward => exact h.elim
  | _ => exact trivial

/-- The hook did what it should: nothing without a function, and else one forwarded call. -/
def Forwards (c : GameCall) (past : List Event) (r : c.Answer) : Prop :=
  (forwards past = [] ∧ r = c.failure ∧
    (c.LooksUp past none ∨ ∃ outputIdentity, c = .hdrBackendActualQuery 0 outputIdentity)) ∨
  ∃ function answer, ForwardedTo c past function answer ∧ c.Returns past answer r

/-! ### One forwarded call -/

variable {c : GameCall} {past events : List Event} {function : UInt64} {answer : c.Answer}

/-- Calls of our own do not count as forwarded. -/
theorem forwards_append (h : ∀ event ∈ events, event.1.Own) :
    forwards (events ++ past) = forwards past := by
  rw [forwards, List.filterMap_append, List.filterMap_eq_nil_iff.mpr, List.nil_append]
  · rfl
  · rintro ⟨call, answer⟩ hevent
    have hown := h _ hevent
    cases call with
    | forward => exact hown.elim
    | _ => rfl

/-- Nor does a single call of our own. -/
theorem forwards_cons {own : Call} (hown : own.Own) (a : own.Answer) :
    forwards (⟨own, a⟩ :: past) = forwards past :=
  show forwards ([⟨own, a⟩] ++ past) = forwards past from
    forwards_append (List.forall_mem_singleton.mpr hown)

/-- What was looked up stays looked up. -/
theorem GameCall.LooksUp.append {found : Option UInt64} (h : c.LooksUp past found) :
    c.LooksUp (events ++ past) found := by
  cases h with
  | object hs hmem => exact .object hs (List.mem_append_right _ hmem)
  | noRecord hs hmem => exact .noRecord hs (List.mem_append_right _ hmem)
  | record hs hfound hmem =>
    exact .record hs (List.mem_append_right _ hfound) (List.mem_append_right _ hmem)
  | original hs hmem => exact .original hs (List.mem_append_right _ hmem)

/-- Also after one more event. -/
theorem GameCall.LooksUp.cons {found : Option UInt64} (h : c.LooksUp past found) (event : Event) :
    c.LooksUp (event :: past) found :=
  show c.LooksUp ([event] ++ past) found from h.append

/-- The function to forward to was found, and nothing was forwarded yet. -/
structure ForwardsTo (c : GameCall) (past : List Event) (function : UInt64) : Prop where
  forwards : forwards past = []
  found : c.LooksUp past (some function)

/-- So the call can be made again. -/
theorem ForwardsTo.forwardable (h : ForwardsTo c past function) :
    c.Forwardable past (.forward function c) :=
  ⟨rfl, h.forwards, h.found⟩

section Own

variable {α : Type} {p : Routine α} {post : List Event → α → Prop}

/-- Own calls before the forwarded one. -/
theorem ForwardsTo.own_ends (h : ForwardsTo c past function) (hp : Calls Call.Own p)
    (hpost : ∀ past' a, ForwardsTo c past' function → post past' a) :
    p.wp c.Forwardable post past :=
  hp.wp (fun _ _ h => h.forwardable c _) fun _ a hevents =>
    hpost _ a ⟨(forwards_append hevents).trans h.forwards, h.found.append⟩

/-- The forwarded call. -/
theorem ForwardsTo.forward (h : ForwardsTo c past function) (answer : c.Answer) :
    ForwardedTo c (⟨.forward function c, answer⟩ :: past) function answer :=
  ⟨congrArg _ h.forwards, h.found.cons _⟩

/-- Own calls after the forwarded one. -/
theorem ForwardedTo.own_ends (h : ForwardedTo c past function answer) (hp : Calls Call.Own p)
    (hpost : ∀ past' a, past ⊆ past' → ForwardedTo c past' function answer → post past' a) :
    p.wp c.Forwardable post past :=
  hp.wp (fun _ _ h => h.forwardable c _) fun _ a hevents =>
    hpost _ a (List.subset_append_right _ _)
      ⟨(forwards_append hevents).trans h.forwards, h.found.append⟩

/-- An own call after the forwarded one. -/
theorem ForwardedTo.ask_ends {own : Call} {post : List Event → own.Answer → Prop}
    (h : ForwardedTo c past function answer) (hown : own.Own)
    (hpost : ∀ past' a, past ⊆ past' → ⟨own, a⟩ ∈ past' →
      ForwardedTo c past' function answer → post past' a) :
    (ask own).wp c.Forwardable post past := by
  refine ⟨hown.forwardable c past, fun a =>
    hpost _ a (List.subset_cons_self _ _) List.mem_cons_self ⟨?_, ?_⟩⟩
  · exact (forwards_cons hown a).trans h.forwards
  · exact h.found.cons _

end Own

/-! ### Before and after the call -/

/-- Forward the call, do own calls, and return the answer. -/
theorem ForwardsTo.forward_ends {after : c.Answer → Routine Unit}
    (h : ForwardsTo c past function) (hafter : ∀ r, Calls Call.Own (after r))
    (hreturns : ∀ past answer, c.Returns past answer answer) :
    Program.wp (do let r ← ask (.forward function c); after r; return r) c.Forwardable
      (Forwards c) past := by
  refine Program.wp_bind.mpr ⟨h.forwardable, fun answer => Program.wp_bind.mpr ?_⟩
  exact (h.forward answer).own_ends (hafter answer) fun _ _ _ hforwarded =>
    .inr ⟨function, answer, hforwarded, hreturns _ answer⟩

/-- Do own calls, forward the call, and return the answer. -/
theorem ForwardsTo.before_ends {before : Routine Unit} (h : ForwardsTo c past function)
    (hbefore : Calls Call.Own before) (hreturns : ∀ past answer, c.Returns past answer answer) :
    Program.wp (do before; ask (.forward function c)) c.Forwardable (Forwards c) past := by
  refine Program.wp_bind.mpr (h.own_ends hbefore fun _ _ h => ⟨h.forwardable, fun answer => ?_⟩)
  exact .inr ⟨function, answer, h.forward answer, hreturns _ answer⟩

/-- A hook of a COM call: its look-up fails, or leads to the function that is forwarded to. -/
theorem viaObject_ends {this : UInt64} {kind : ShadowKind} {index : Nat} {f : HookFunction}
    {hook : UInt64 → Routine c.Answer} (hs : c.vtableSlot = some ⟨this, kind, index, f⟩)
    (hhook : ∀ function past, ForwardsTo c past function →
      (hook function).wp c.Forwardable (Forwards c) past) :
    (viaObject this kind index c.failure hook).wp c.Forwardable (Forwards c) [] := by
  refine Program.wp_bind.mpr ⟨trivial, fun found => ?_⟩
  have hfound : c.LooksUp [⟨.loadObjectFunction this kind index, found⟩] found :=
    .object hs List.mem_cons_self
  cases found with
  | none => exact .inl ⟨rfl, rfl, .inl hfound⟩
  | some function => exact hhook function _ ⟨rfl, hfound⟩

/-- A hook with a global pointer, likewise. -/
theorem viaOriginal_ends {slot : OriginalSlot} {hook : UInt64 → Routine c.Answer}
    (hs : c.originalSlot = some slot)
    (hhook : ∀ function past, ForwardsTo c past function →
      (hook function).wp c.Forwardable (Forwards c) past) :
    (viaOriginal slot c.failure hook).wp c.Forwardable (Forwards c) [] := by
  refine Program.wp_bind.mpr ⟨trivial, fun found => ?_⟩
  have hfound : c.LooksUp [⟨.loadOriginal slot, found⟩] found :=
    .original hs List.mem_cons_self
  cases found with
  | none => exact .inl ⟨rfl, rfl, .inl hfound⟩
  | some function => exact hhook function _ ⟨rfl, hfound⟩

/-- A release is forwarded through the record that was found for the object. -/
theorem releaseShadowObject_ends (kind : ShadowKind) (this : UInt64) :
    (releaseShadowObject kind this).wp (GameCall.release kind this).Forwardable
      (Forwards (.release kind this)) [] := by
  -- the slot of `Release` is the same in both vtables, with a hook each
  obtain ⟨f, hs⟩ : ∃ f, (GameCall.release kind this).vtableSlot =
      some ⟨this, kind, unknownReleaseIndex, f⟩ := by
    cases kind <;> exact ⟨_, rfl⟩
  refine Program.wp_bind.mpr ⟨trivial, fun record => ?_⟩
  cases record with
  | none => exact .inl ⟨rfl, rfl, .inl (.noRecord hs List.mem_cons_self)⟩
  | some record =>
    refine Program.wp_bind.mpr ⟨trivial, fun found => ?_⟩
    have hfound : (GameCall.release kind this).LooksUp
        [⟨.loadSavedRecordFunction record unknownReleaseIndex, found⟩,
          ⟨.findShadowRecord this kind, some record⟩] found :=
      .record hs (List.mem_cons_of_mem _ List.mem_cons_self) List.mem_cons_self
    cases found with
    | none => exact .inl ⟨rfl, rfl, .inl hfound⟩
    | some function =>
      -- what is retired afterwards is our own business
      exact ForwardsTo.forward_ends (c := .release kind this) ⟨rfl, hfound⟩
        (fun _ => own_of_ordinary (retireShadowObject_ordinary kind record _)) fun _ _ => rfl

/-! ### The hooks of the game -/

/-- The row is grayed out as the game says, or shown because the switch was on. -/
theorem hdrMenuGateHook_ends (this : UInt64) :
    (hdrMenuGateHook this).wp (GameCall.hdrMenuGate this).Forwardable
      (Forwards (.hdrMenuGate this)) [] := by
  refine viaOriginal_ends (c := .hdrMenuGate this) rfl fun function past h => ?_
  refine Program.wp_bind.mpr ⟨h.forwardable, fun answer => ?_⟩
  refine Program.wp_bind.mpr
    ((h.forward answer).ask_ends trivial fun past unlock _ hunlock h => ?_)
  refine Program.wp_bind.mpr (h.ask_ends trivial fun past' windowed hpast _ h => ?_)
  refine .inr ⟨function, answer, h, ?_⟩
  -- the only byte that differs from the game's is 0
  cases unlock with
  | false => exact .inl (by rw [Bool.not_false, Bool.and_true])
  | true => exact .inr ⟨hpast hunlock, by rw [Bool.not_true, Bool.and_false]; rfl⟩

/-- A favourable answer is the game's, or comes from the override. -/
theorem byteOfBool_or (native overridden : Bool) :
    byteOfBool (native || overridden) = byteOfBool native ∨
      overridden = true ∧ byteOfBool (native || overridden) = 1 := by
  cases overridden with
  | false => exact .inl (by rw [Bool.or_false])
  | true => exact .inr ⟨rfl, by rw [Bool.or_true]; rfl⟩

/-- HDR is available as the game says, or because the switch was on. -/
theorem hdrCommonAvailabilityHook_ends :
    hdrCommonAvailabilityHook.wp GameCall.hdrCommonAvailability.Forwardable
      (Forwards .hdrCommonAvailability) [] := by
  refine viaOriginal_ends (c := .hdrCommonAvailability) rfl fun function past h => ?_
  refine Program.wp_bind.mpr ⟨h.forwardable, fun answer => ?_⟩
  refine Program.wp_bind.mpr
    ((h.forward answer).ask_ends trivial fun past overrideEnabled _ henabled h => ?_)
  refine Program.wp_bind.mpr (h.ask_ends trivial fun past' active hpast _ h => ?_)
  refine Program.wp_bind.mpr
    (h.own_ends (own_of_within {} (windowedCandidate_within _ active))
      fun past'' candidate hpast' h => ?_)
  refine .inr ⟨function, answer, h, ?_⟩
  -- an override has read its switch on the way
  refine (byteOfBool_or (answer != 0) (overrideEnabled && candidate)).imp_right ?_
  rintro ⟨hoverridden, hr⟩
  obtain rfl := (Bool.and_eq_true_iff.mp hoverridden).1
  exact ⟨hpast' (hpast henabled), hr⟩

/-- The settings are copied by the game before they are read. -/
theorem graphicsConfigApplyHook_ends (destination source : UInt64) :
    (graphicsConfigApplyHook destination source).wp
      (GameCall.graphicsConfigApply destination source).Forwardable
      (Forwards (.graphicsConfigApply destination source)) [] := by
  refine viaOriginal_ends (c := .graphicsConfigApply destination source) rfl
    fun function past h => ?_
  refine Program.wp_bind.mpr ⟨h.forwardable, fun answer => ?_⟩
  exact (h.forward answer).own_ends (p := noteLiveHdrSetting destination source)
    (own_of_ordinary (noteLiveHdrSetting_ordinary destination source)) fun _ _ _ h =>
      .inr ⟨function, answer, h, rfl⟩

/-- Only a candidate that was asked for is eligible. -/
theorem ForwardedTo.backendCandidate_ends {asked : Bool} {swapChain : UInt64}
    {post : List Event → Bool → Prop} (h : ForwardedTo c past function answer)
    (hpost : ∀ past' eligible, past ⊆ past' → ForwardedTo c past' function answer →
      (eligible = true → asked = true) → post past' eligible) :
    (backendCandidate asked swapChain).wp c.Forwardable post past := by
  cases asked with
  | false => exact hpost past false (List.Subset.refl _) h id
  | true =>
    exact h.own_ends (own_of_within {} (backendCandidate_within true)) fun past' eligible hpast h =>
      hpost past' eligible hpast h fun _ => rfl

/-- Only an eligible candidate is overridden. -/
theorem ForwardedTo.colorSpaceReady_ends {eligible synchronizeColorSpace : Bool}
    {swapChain : UInt64} {post : List Event → Bool → Prop}
    (h : ForwardedTo c past function answer)
    (hpost : ∀ past' overridden, past ⊆ past' → ForwardedTo c past' function answer →
      (overridden = true → eligible = true) → post past' overridden) :
    (colorSpaceReady eligible synchronizeColorSpace swapChain).wp c.Forwardable post past := by
  cases eligible with
  | false => exact hpost past false (List.Subset.refl _) h id
  | true =>
    exact h.own_ends (own_of_ordinary (colorSpaceReady_ordinary true _))
      fun past' overridden hpast h => hpost past' overridden hpast h fun _ => rfl

/-- The override is never wanted with its switch off. -/
theorem experiment_of_overrideWanted {experiment nativeActual : Bool}
    {disabled liveHdr capabilityFlags : UInt8}
    (h : overrideWanted experiment disabled liveHdr capabilityFlags nativeActual = true) :
    experiment = true := by
  simp only [overrideWanted, Bool.and_eq_true] at h
  exact h.1.1.1.1

/-- The backend is fullscreen as the game says, or because the switch was on. A null backend is not
asked at all. -/
theorem hdrBackendActualQueryHook_ends (backend outputIdentity : UInt64) :
    (hdrBackendActualQueryHook backend outputIdentity).wp
      (GameCall.hdrBackendActualQuery backend outputIdentity).Forwardable
      (Forwards (.hdrBackendActualQuery backend outputIdentity)) [] := by
  refine viaOriginal_ends (c := .hdrBackendActualQuery backend outputIdentity) rfl
    fun function past h => ?_
  split
  · next hbackend =>
    subst hbackend
    -- a null backend is answered without asking the game
    exact .inl ⟨h.forwards, rfl, .inr ⟨outputIdentity, rfl⟩⟩
  · refine Program.wp_bind.mpr ⟨h.forwardable, fun answer => ?_⟩
    -- what is read of the backend
    refine Program.wp_bind.mpr ((h.forward answer).ask_ends trivial fun _ disabled _ _ h => ?_)
    refine Program.wp_bind.mpr (h.ask_ends trivial fun _ capabilityFlags _ _ h => ?_)
    refine Program.wp_bind.mpr (h.ask_ends trivial fun _ swapChain _ _ h => ?_)
    refine Program.wp_bind.mpr
      (h.own_ends (own_of_passive (passive_of_looks noteActiveSwapChain_looks)) fun _ _ _ h => ?_)
    -- what the switches say
    refine Program.wp_bind.mpr (h.ask_ends trivial fun _ liveHdr _ _ h => ?_)
    refine Program.wp_bind.mpr
      (h.ask_ends trivial fun past experiment _ hexperiment h => ?_)
    refine Program.wp_bind.mpr (h.ask_ends trivial fun _ synchronize hsynchronize _ h => ?_)
    refine Program.wp_bind.mpr (h.ask_ends trivial fun _ windowed hwindowed _ h => ?_)
    -- what becomes of them
    refine Program.wp_bind.mpr
      (h.backendCandidate_ends fun _ eligible hfound h heligible => ?_)
    refine Program.wp_bind.mpr
      (h.colorSpaceReady_ends fun _ overridden hready h hoverridden => ?_)
    refine Program.wp_bind.mpr
      (h.own_ends (own_of_ordinary (withdrawHdr_ordinary _)) fun past' _ hwithdrawn h => ?_)
    refine .inr ⟨function, answer, h, ?_⟩
    -- the override was wanted, so its switch was on
    refine (byteOfBool_or (answer != 0) overridden).imp_right fun hr => ⟨?_, hr.2⟩
    obtain rfl := experiment_of_overrideWanted (heligible (hoverridden hr.1))
    exact hwithdrawn (hready (hfound (hwindowed (hsynchronize hexperiment))))

/-! ### All hooks -/

/-- What precedes a Present is our own business. -/
theorem beforePresent_own {swapChain : UInt64} : Calls Call.Own (beforePresent swapChain) :=
  own_of_within { presents := some swapChain } (beforePresent_within rfl)

/-- So is what a hook does with an answer. -/
theorem Aftermath.own {after : Routine Unit} (h : Aftermath after) : Calls Call.Own after :=
  own_of_within {} h.within

/-- Outside the code of the game, an answer is returned as it is. -/
theorem returns_answer (hs : ∀ slot, c.originalSlot ≠ some (.game slot)) (past : List Event)
    (answer : c.Answer) : c.Returns past answer answer := by
  cases c with
  | hdrMenuGate => exact absurd rfl (hs .hdrMenuGate)
  | hdrCommonAvailability => exact absurd rfl (hs .hdrCommonAvailability)
  | hdrBackendActualQuery => exact absurd rfl (hs .hdrBackendActualQuery)
  | _ => rfl

/-- Whatever its shape, a hook forwards what it receives. -/
theorem Shape.ends {p : Routine c.Answer} (h : Shape c p) :
    p.wp c.Forwardable (Forwards c) [] := by
  cases h with
  -- a COM call is none of the game's own routines, so its answer is returned
  | object hs hafter =>
    have hreturns := returns_answer (c := c) fun slot hslot => by
      rw [GameCall.originalSlot_eq_none hs] at hslot
      cases hslot
    exact viaObject_ends hs fun _ _ h => h.forward_ends (fun r => (hafter r).own) hreturns
  | imported hs hafter =>
    have hreturns := returns_answer (c := c) fun slot hslot => by
      rw [hs] at hslot
      cases hslot
    exact viaOriginal_ends hs fun _ _ h => h.forward_ends (fun r => (hafter r).own) hreturns
  -- the transition is submitted before the frame is presented
  | present this syncInterval flags =>
    exact viaObject_ends (c := .present this syncInterval flags) rfl fun _ _ h =>
      h.before_ends beforePresent_own fun _ _ => rfl
  | present1 this syncInterval flags parameters =>
    exact viaObject_ends (c := .present1 this syncInterval flags parameters) rfl fun _ _ h =>
      h.before_ends beforePresent_own fun _ _ => rfl
  | release kind this => exact releaseShadowObject_ends kind this
  -- the hooks in the code of the game may answer for themselves
  | hdrMenuGate this => exact hdrMenuGateHook_ends this
  | hdrCommonAvailability => exact hdrCommonAvailabilityHook_ends
  | graphicsConfigApply destination source => exact graphicsConfigApplyHook_ends destination source
  | hdrBackendActualQuery backend outputIdentity =>
    exact hdrBackendActualQueryHook_ends backend outputIdentity

/-- **Every hook forwards what it receives**, whatever its calls are answered: it looks its function
up, makes the same call again at that function, and returns the answer. -/
theorem hook_ends (c : GameCall) : (hook c).wp c.Forwardable (Forwards c) [] :=
  (hook_shape c).ends

/-- The hook is the one that `shadow_replacement` puts into the slot. -/
theorem shadowReplacement_vtableSlot (code : HookFunction → UInt64) {c : GameCall}
    {s : VtableSlot} (hs : c.vtableSlot = some s) :
    shadowReplacement code s.kind s.index = some (code s.function) := by
  cases c with
  -- a call that both interfaces have is hooked in both
  | queryInterface kind => cases kind <;> (obtain rfl := Option.some.inj hs; rfl)
  | release kind => cases kind <;> (obtain rfl := Option.some.inj hs; rfl)
  | _ => first | (obtain rfl := Option.some.inj hs; rfl) | cases hs

/-- **Hooks forward what they receive**, in every run of the process. -/
theorem hook_forwards (code : HookFunction → UInt64) {s : ProcessState}
    (h : (process code).system.Reachable s) {i : Nat} {c : GameCall} {past : List Event}
    {r : c.Answer} (ht : s.threads i = some ⟨.hook c, past, .done r⟩) :
    Forwards c past r ∧ ∀ slot, c.vtableSlot = some slot →
      shadowReplacement code slot.kind slot.index = some (code slot.function) :=
  ⟨(hook_ends c).result (ThreadSystem.running_of_reachable h i _ ht).goes,
    fun _ => shadowReplacement_vtableSlot code⟩

/-- A call of the menu gate is forwarded to `0x500`, and the row is grayed out. -/
theorem hook_forwards_menuGate :
    Forwards (.hdrMenuGate 0x10)
      [⟨.loadFlag .windowedAvailability, false⟩, ⟨.loadFlag .menuGateUnlock, false⟩,
        ⟨.forward 0x500 (.hdrMenuGate 0x10), (1 : UInt8)⟩,
        ⟨.loadOriginal (.game .hdrMenuGate), some 0x500⟩] (1 : UInt8) := by
  have h := ThreadSystem.reachable_enter 0 (.hook (.hdrMenuGate 0x10))
    (reachable_justLoaded sampleCode fun _ => 0) rfl
  have h := ThreadSystem.reachable_call (some 0x500) h rfl
  have h := ThreadSystem.reachable_call (1 : UInt8) h rfl
  have h := ThreadSystem.reachable_call false h rfl
  have h := ThreadSystem.reachable_call false h rfl
  exact (hook_forwards sampleCode h (ThreadSystem.State.alone_threads 0 _)).1

end Runtime
end WindowedHdr
