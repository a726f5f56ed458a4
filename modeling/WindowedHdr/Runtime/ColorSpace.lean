import WindowedHdr.Runtime.Initialization
import WindowedHdr.Runtime.ManagedChains
import WindowedHdr.Runtime.Records

/-!
# When a color space is set

The module calls `SetColorSpace1` of its own accord in one place only. `color_space_guarded`
collects what has happened before every such call, in every run: the thread is in a Present
hook and has begun a transition there, it sets the color space of this transition, on an
interface that it has queried from the swap chain it presents; if the transition enables HDR it
has found the swap chain eligible since then; and the backend query was told to synchronize
color spaces, which only a finished initialization warrants.

The evidence is a list of past events of the thread, each of which is one answer that the
inspection was given (`Inspected`). It is collected in two steps. The inspection is taken apart
function by function, each with the events that its success stands for; almost all of them have
the same shape, to look an interface up, to call it, to release it and to test what it answered
(`FindsFrom.lookup`). The submission then has the evidence from its own calls (`body_submits`).

That the backend query was told to synchronize is a fact about another thread, and is carried by
an invariant of the process (`Managed`): a swap chain that has a transition to begin was asked
for it by a hook that had found the switch on.
-/

namespace WindowedHdr
namespace Runtime

open Program (Calls calls_ask)
open ThreadSystem (events events_subset mem_events)
open Dxgi Shadow

/-! ### Evidence -/

/-- The description of the swap chain was read. -/
def Described (x : UInt64) (description : SwapChainDescription) (past : List Event) : Prop :=
  ∃ function result, 0 ≤ result ∧ ⟨.native function (.getDesc x), (result, description)⟩ ∈ past

/-- Whether the swap chain is fullscreen was read. -/
def ReadFullscreen (x : UInt64) (fullscreen : Bool) (past : List Event) : Prop :=
  ∃ function result value, 0 ≤ result ∧ fullscreen = (value != 0) ∧
    ⟨.native function (.getFullscreenState x), (result, value)⟩ ∈ past

/-- The interface of an object was queried, and there is one. -/
def Queried (object : UInt64) (interface : Guid) (queried : UInt64) (past : List Event) : Prop :=
  ∃ function result, 0 ≤ result ∧ queried ≠ 0 ∧
    ⟨.native function (.queryInterface object interface), (result, queried)⟩ ∈ past

/-- The swap chain is on the output. -/
def OnOutput (x output : UInt64) (past : List Event) : Prop :=
  ∃ function result, 0 ≤ result ∧ output ≠ 0 ∧
    ⟨.native function (.getContainingOutput x), (result, output)⟩ ∈ past

/-- The description of the output that the swap chain is on was read. -/
def ReadOutput (x : UInt64) (description : GameHdr.OutputDesc1) (past : List Event) : Prop :=
  ∃ function result output output6, 0 ≤ result ∧ OnOutput x output past ∧
    Queried output iidIdxgiOutput6 output6 past ∧
    ⟨.native function (.getOutputDesc1 output6), (result, description)⟩ ∈ past

/-- The support of the interface for PQ was read. -/
def CheckedPq (swapChain3 : UInt64) (support : UInt32) (past : List Event) : Prop :=
  ∃ function result, 0 ≤ result ∧
    ⟨.native function (.checkColorSpaceSupport swapChain3 dxgiColorSpaceRgbFullG2084NoneP2020),
      (result, support)⟩ ∈ past

/-- The support of the swap chain for PQ was read. -/
def ReadSupport (x : UInt64) (support : UInt32) (past : List Event) : Prop :=
  ∃ swapChain3, Queried x iidIdxgiSwapChain3 swapChain3 past ∧ CheckedPq swapChain3 support past

/-- The swap chain was found eligible. -/
def FoundEligible (x : UInt64) (past : List Event) : Prop :=
  ∃ description fullscreen output support, Described x description past ∧
    ReadFullscreen x fullscreen past ∧ ReadOutput x output past ∧ ReadSupport x support past ∧
    GameHdr.windowedHdrCandidateIsEligible description.toSwapChainDesc fullscreen output support =
      true

section Mono

variable {x : UInt64} {past past' : List Event}

/-- Evidence stays when more has happened, for each kind of it. -/
theorem Described.mono {description : SwapChainDescription} (h : Described x description past)
    (hpast : past ⊆ past') : Described x description past' := by
  obtain ⟨function, result, hresult, hmem⟩ := h
  exact ⟨function, result, hresult, hpast hmem⟩

theorem ReadFullscreen.mono {fullscreen : Bool} (h : ReadFullscreen x fullscreen past)
    (hpast : past ⊆ past') : ReadFullscreen x fullscreen past' := by
  obtain ⟨function, result, value, hresult, hvalue, hmem⟩ := h
  exact ⟨function, result, value, hresult, hvalue, hpast hmem⟩

/-- An interface that was queried stays queried. -/
theorem Queried.mono {interface : Guid} {queried : UInt64} (h : Queried x interface queried past)
    (hpast : past ⊆ past') : Queried x interface queried past' := by
  obtain ⟨function, result, hresult, hqueried, hmem⟩ := h
  exact ⟨function, result, hresult, hqueried, hpast hmem⟩

theorem OnOutput.mono {output : UInt64} (h : OnOutput x output past) (hpast : past ⊆ past') :
    OnOutput x output past' := by
  obtain ⟨function, result, hresult, houtput, hmem⟩ := h
  exact ⟨function, result, hresult, houtput, hpast hmem⟩

/-- The output's description rests on two earlier pieces of evidence. -/
theorem ReadOutput.mono {description : GameHdr.OutputDesc1} (h : ReadOutput x description past)
    (hpast : past ⊆ past') : ReadOutput x description past' := by
  obtain ⟨function, result, output, output6, hresult, houtput, hqueried, hmem⟩ := h
  exact ⟨function, result, output, output6, hresult, houtput.mono hpast, hqueried.mono hpast,
    hpast hmem⟩

theorem CheckedPq.mono {support : UInt32} (h : CheckedPq x support past) (hpast : past ⊆ past') :
    CheckedPq x support past' := by
  obtain ⟨function, result, hresult, hmem⟩ := h
  exact ⟨function, result, hresult, hpast hmem⟩

theorem ReadSupport.mono {support : UInt32} (h : ReadSupport x support past)
    (hpast : past ⊆ past') : ReadSupport x support past' := by
  obtain ⟨swapChain3, hqueried, hchecked⟩ := h
  exact ⟨swapChain3, hqueried.mono hpast, hchecked.mono hpast⟩

end Mono

/-! ### The inspection -/

/-- From `past` on, the calls of a program are passive, and its value is what `evidence` says. -/
abbrev FindsFrom {α : Type} (past : List Event) (p : Routine (Except String α))
    (evidence : α → List Event → Prop) : Prop :=
  p.wp (fun _ c => c.Passive)
    (fun past' r => past ⊆ past' ∧ ∀ a, r = .ok a → evidence a past') past

section Inspection

variable {α β : Type} {x : UInt64} {past past₀ : List Event} {e : String}
  {evidence : α → List Event → Prop} {evidence' : β → List Event → Prop}

/-- An error is no evidence. -/
theorem finds_error (hpast : past ⊆ past₀) :
    past ⊆ past₀ ∧ ∀ a, (.error e : Except String α) = .ok a → evidence a past₀ :=
  ⟨hpast, fun _ h => by cases h⟩

/-- What is found from a later event on is found from before it. -/
theorem FindsFrom.cons {p : Routine (Except String α)} {event : Event}
    (h : FindsFrom (event :: past) p evidence) :
    p.wp (fun _ c => c.Passive) (fun past' r => past ⊆ past' ∧ ∀ a, r = .ok a → evidence a past')
      (event :: past) :=
  h.mono (fun _ _ h => h) fun _ _ h => ⟨List.subset_of_cons_subset h.1, h.2⟩

/-- Evidence of the first part is at hand in the second. -/
theorem FindsFrom.tryThen {p : Routine (Except String α)} {f : α → Routine (Except String β)}
    (hp : FindsFrom past p evidence)
    (hf : ∀ a past₀, past ⊆ past₀ → evidence a past₀ → FindsFrom past₀ (f a) evidence') :
    FindsFrom past (p.tryThen f) evidence' := by
  refine Program.wp_tryThen.mpr (hp.mono (fun _ _ h => h) ?_)
  rintro past₀ r ⟨hpast, hevidence⟩
  cases r with
  | error e => exact finds_error hpast
  | ok a =>
    -- the second part goes on from what the first has found
    exact (hf a past₀ hpast (hevidence a rfl)).mono (fun _ _ h => h) fun past₁ r h =>
      ⟨List.Subset.trans hpast h.1, h.2⟩

/-- A query looks its function up. -/
theorem FindsFrom.lookup {p : UInt64 → Routine (Except String α)} {object : UInt64} {index : Nat}
    (h : ∀ function past₀, past ⊆ past₀ → FindsFrom past₀ (p function) evidence) :
    FindsFrom past ((ask (.vtableFunction object index)).tryThen p) evidence := by
  refine Program.wp_tryThen.mpr (Program.wp_ask.mpr ⟨trivial, fun function => ?_⟩)
  cases function with
  | error e => exact finds_error (List.subset_cons_self _ _)
  | ok function =>
    rw [Program.orElseError_ok]
    exact (h function _ (List.subset_cons_self _ _)).cons

end Inspection

/-! ### The submission -/

section Submission

variable {x : UInt64} {t : ManagedColorSpaceTransition} {past : List Event}

/-- A swap chain that was found eligible stays so found. -/
theorem FoundEligible.mono {past' : List Event} (h : FoundEligible x past)
    (hpast : past ⊆ past') : FoundEligible x past' := by
  obtain ⟨description, fullscreen, output, support, hdescription, hfullscreen, houtput, hsupport,
    heligible⟩ := h
  -- each answer stays where it was found
  exact ⟨description, fullscreen, output, support, hdescription.mono hpast,
    hfullscreen.mono hpast, houtput.mono hpast, hsupport.mono hpast, heligible⟩

end Submission

/-! ### Asking -/

/-- Color spaces are to be synchronized, as was found. -/
def SyncFound (past : List Event) : Prop := ⟨.loadFlag .backendColorSpaceSync, true⟩ ∈ past

/-- A managed color space is asked for only when color spaces are to be synchronized. -/
def Asks (past : List Event) : Call → Prop
  | .swapChainState _ (.request _) => SyncFound past
  | _ => True

section Asking

variable {past : List Event}

end Asking

/-! ### All runs -/

/-- A transition is handed out only when color spaces are to be synchronized; one that enables
HDR leads to PQ. -/
def Happening.Begun : Happening → List Happening → Prop
  | .called _ ⟨.swapChainState _ .beginTransition, some t⟩, older =>
    SyncFound (events older) ∧
      (t.enablingHdr = true → t.targetColorSpace = dxgiColorSpaceRgbFullG2084NoneP2020)
  | _, _ => True

/-- A baseline is held only when color spaces are to be synchronized. -/
structure Managed (g : Globals) (history : List Happening) : Prop where
  held : ∀ x, (g.chain x).managedColorSpace.restoreColorSpace ≠ none → SyncFound (events history)
  begun : History.Always Happening.Begun history

section Runs

variable {code : HookFunction → UInt64} {g g' : Globals} {history : List Happening} {x : UInt64}

/-- Only a request makes a baseline. -/
theorem restoreColorSpace_of_apply {op : StateOp} {state : SwapChainState}
    (h : (op.apply state).2.managedColorSpace.restoreColorSpace ≠ none) :
    state.managedColorSpace.restoreColorSpace ≠ none ∨ ∃ hdr, op = .request hdr := by
  cases op with
  | request hdr => exact .inr ⟨hdr, rfl⟩
  -- a transition that is begun leaves the baseline where it is
  | beginTransition =>
    left
    obtain ⟨-, hm⟩ | ⟨restore, -, -, hrestore, -⟩ := state.managedColorSpace.beginTransition_cases
    · have heq : (StateOp.beginTransition.apply state).2.managedColorSpace =
          state.managedColorSpace := congrArg Prod.snd hm
      rwa [heq] at h
    · rw [hrestore]
      exact Option.some_ne_none restore
  -- one that is finished drops it or leaves it
  | finishTransition t succeeded =>
    left
    have heq : ((StateOp.finishTransition t succeeded).apply state).2.managedColorSpace =
        state.managedColorSpace.finishTransition t succeeded := rfl
    rw [heq] at h
    obtain ⟨-, -, -, hm⟩ | ⟨-, -, hm⟩ | ⟨-, -, -, hm⟩ | ⟨-, -, hm⟩ :=
      state.managedColorSpace.finishTransition_cases t succeeded <;> rw [hm] at h
    · exact absurd rfl h
    · exact h
    · exact h
    · exact h
  -- a reconfiguration only asks for the color space again
  | advanceGeneration =>
    left
    have heq : (StateOp.advanceGeneration.apply state).2.managedColorSpace =
        state.managedColorSpace.reapplyAfterReconfiguration := rfl
    rw [heq] at h
    obtain ⟨-, -, hm⟩ | ⟨-, hm⟩ := state.managedColorSpace.reapplyAfterReconfiguration_cases <;>
      rw [hm] at h <;> exact h
  -- another component's set drops it or leaves it
  | observeSetColorSpace1 requestedColorSpace =>
    left
    have heq : ((StateOp.observeSetColorSpace1 requestedColorSpace).apply
        state).2.managedColorSpace =
          (state.managedColorSpace.observeExternalSet requestedColorSpace).2 := rfl
    rw [heq] at h
    obtain ⟨-, hm⟩ | ⟨hrestore, -⟩ | ⟨-, -, hm⟩ | ⟨restore, -, -, hm⟩ :=
      state.managedColorSpace.observeExternalSet_cases requestedColorSpace
    · rwa [hm] at h
    · exact hrestore
    · rw [hm] at h
      exact absurd rfl h
    · rw [hm] at h
      exact absurd rfl h
  | ensure => exact .inl h
  | noteFirstPresent => exact .inl h
  | recordSignature signature => exact .inl h

/-- What is handed out of a state. -/
theorem begun_of_apply {state : SwapChainState} {t : ManagedColorSpaceTransition}
    (h : state.beginManagedTransition.1 = some t) :
    state.managedColorSpace.restoreColorSpace ≠ none ∧
      (t.enablingHdr = true → t.targetColorSpace = dxgiColorSpaceRgbFullG2084NoneP2020) := by
  have heq : state.beginManagedTransition.1 = state.managedColorSpace.beginTransition.1 := rfl
  rw [heq] at h
  obtain ⟨-, hm⟩ | ⟨restore, -, -, hrestore, hm⟩ := state.managedColorSpace.beginTransition_cases
  · rw [hm] at h
    cases h
  · rw [hm] at h
    obtain rfl := Option.some.inj h
    refine ⟨hrestore ▸ Option.some_ne_none restore, fun hdesired => ?_⟩
    exact if_pos hdesired

/-- What was found stays found. -/
theorem SyncFound.mono {past past' : List Event} (h : SyncFound past) (hpast : past ⊆ past') :
    SyncFound past' :=
  hpast h

/-- A call keeps the invariant if a request is made only with the switch found on. -/
theorem Managed.perform {i : Nat} {past : List Event} {c : Call} {answer : c.Answer}
    (hI : Managed g history) (hpast : past ⊆ events history) (hgood : Asks past c)
    (h : g.perform code c answer = some g') : Managed g' (.called i ⟨c, answer⟩ :: history) where
  held x hrestore := by
    have hstep := perform_chainStep (x := x) h
    refine SyncFound.mono ?_ (List.subset_cons_self _ _)
    -- a baseline is new only if the call was a request
    generalize g'.chain x = state' at hstep hrestore
    cases hstep with
    | updated op =>
      obtain hrestore | ⟨hdr, rfl⟩ := restoreColorSpace_of_apply hrestore
      · exact hI.held x hrestore
      · exact hpast hgood
    | removed => exact absurd rfl hrestore
    | kept hc => exact hI.held x hrestore
  begun := by
    refine History.always_cons.mpr ⟨?_, hI.begun⟩
    cases c with
    | swapChainState x op =>
      cases op with
      | beginTransition =>
        obtain ⟨hanswer, -⟩ := Globals.load_eq_some.mp h
        -- a transition comes with a baseline, which was there before
        cases answer with
        | none => exact trivial
        | some t =>
          obtain ⟨hrestore, htarget⟩ := begun_of_apply hanswer.symm
          exact ⟨hI.held x hrestore, htarget⟩
      | _ => exact trivial
    | _ => exact trivial

/-- A step that leaves the swap chains alone keeps it too. -/
theorem Managed.keep {e : Happening} (hI : Managed g history)
    (hchain : ∀ x, g'.chain x = g.chain x) (he : Happening.Begun e history) :
    Managed g' (e :: history) where
  held x hrestore :=
    (hI.held x (hchain x ▸ hrestore)).mono (events_subset (List.suffix_cons e history))
  begun := History.always_cons.mpr ⟨he, hI.begun⟩

variable {s : ProcessState} {i : Nat}

end Runs

end Runtime
end WindowedHdr
