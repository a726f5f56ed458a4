import WindowedHdr.Runtime.Resources

/-!
# The tokens of the process

Three of the resources exist at most once: the lock of the candidate cache, the right to spawn
the initialization thread, and the right to initialize. `process_tokens` says when each of them
is taken, and how the shared state and the history agree on how far the initialization has come.
So in every run no two threads hold the lock, `INIT_STATE` is claimed at most once, at most one
initialization thread is spawned and runs, and the outcome is stored at most once and never
changes again.

The course of the initialization is read off the history: how often `INIT_STATE` was claimed,
the thread was spawned or could not be spawned, the thread began to run, and the outcome was
stored. `Agrees` compares these counts with `INIT_STATE` and with the number of threads that
were spawned and have not begun, and says that none of them exceeds one; so
`initialization_once` is read off it. All other calls move no token (`moves_of_silent`), which
is shown by classes of calls and not call by call.
-/

namespace WindowedHdr
namespace Runtime

open ThreadSystem (Tokens Moves Exclusive holdings)
open Dxgi Shadow

/-! ### The course of the initialization -/

/-- How often each step of the initialization happened. -/
structure Course where
  /-- `INIT_STATE` was claimed. -/
  claims : Nat
  /-- The initialization thread was spawned. -/
  launches : Nat
  /-- The initialization thread could not be spawned. -/
  failures : Nat
  /-- The initialization thread began to run. -/
  starts : Nat
  /-- The outcome was stored. -/
  outcomes : Nat

namespace Course

def claim (c : Course) : Course := { c with claims := c.claims + 1 }

def launch (c : Course) : Course := { c with launches := c.launches + 1 }

def fail (c : Course) : Course := { c with failures := c.failures + 1 }

def start (c : Course) : Course := { c with starts := c.starts + 1 }

def finish (c : Course) : Course := { c with outcomes := c.outcomes + 1 }

/-- The course after one more thing that happened. -/
def next (c : Course) : Happening → Course
  | .called _ ⟨.claimInitState, true⟩ => c.claim
  | .called _ ⟨.spawnInitializationThread, true⟩ => c.launch
  | .called _ ⟨.spawnInitializationThread, false⟩ => c.fail
  | .entered _ .initializationThread => c.start
  | .called _ ⟨.storeInitState _, _⟩ => c.finish
  | _ => c

end Course

/-- The course of what happened. -/
def course : List Happening → Course
  | [] => ⟨0, 0, 0, 0, 0⟩
  | e :: history => (course history).next e

namespace Course

/-- The initialization thread was not tried to be spawned yet. -/
def MayLaunch (c : Course) : Prop := c.claims = 1 ∧ c.launches + c.failures = 0

/-- Somebody initializes. -/
def MayFinish (c : Course) : Prop := c.failures + c.starts = 1 ∧ c.outcomes = 0

/-- The course and the globals agree, and no step was made twice. -/
structure Agrees (c : Course) (initState : UInt8) (spawned : Nat) : Prop where
  claims_le : c.claims ≤ 1
  unclaimed : initState = 0 ↔ c.claims = 0
  running : initState = 1 ↔ c.claims = 1 ∧ c.outcomes = 0
  spawned_le : c.launches + c.failures ≤ c.claims
  launched : c.launches = spawned + c.starts
  outcomes_le : c.outcomes ≤ c.failures + c.starts

variable {c : Course} {initState : UInt8} {spawned : Nat}

/-- A claim makes it possible to spawn the thread. -/
theorem Agrees.claim (h : c.Agrees 0 spawned) :
    c.claim.Agrees 1 spawned ∧ ¬ c.MayLaunch ∧ c.claim.MayLaunch := by
  obtain ⟨-, hunclaimed, -, hspawned, hlaunched, houtcomes⟩ := h
  have hzero := hunclaimed.mp rfl
  -- the counts, and then what may happen next
  refine ⟨⟨?_, ⟨fun h => absurd h (by decide), ?_⟩, ⟨fun _ => ?_, fun _ => rfl⟩, ?_, ?_, ?_⟩,
    ?_, ?_⟩ <;> simp only [Course.claim, MayLaunch] <;> omega

/-- The thread is spawned once. -/
theorem Agrees.launch (h : c.Agrees initState spawned) (hmay : c.MayLaunch) :
    c.launch.Agrees initState (spawned + 1) ∧ ¬ c.launch.MayLaunch := by
  obtain ⟨hle, hunclaimed, hrunning, hspawned, hlaunched, houtcomes⟩ := h
  obtain ⟨hclaims, hnone⟩ := hmay
  -- one thread more is spawned, and none has started
  refine ⟨⟨hle, hunclaimed, hrunning, ?_, ?_, houtcomes⟩, ?_⟩ <;>
    simp only [Course.launch, MayLaunch] <;> omega

/-- It could not be spawned, and whoever tried stores the outcome. -/
theorem Agrees.fail (h : c.Agrees initState spawned) (hmay : c.MayLaunch) :
    c.fail.Agrees initState spawned ∧ ¬ c.fail.MayLaunch ∧ ¬ c.MayFinish ∧ c.fail.MayFinish := by
  obtain ⟨hle, hunclaimed, hrunning, hspawned, hlaunched, houtcomes⟩ := h
  obtain ⟨hclaims, hnone⟩ := hmay
  -- a failure counts as somebody who is to store the outcome
  refine ⟨⟨hle, hunclaimed, hrunning, ?_, hlaunched, ?_⟩, ?_, ?_, ?_⟩ <;>
    simp only [Course.fail, MayLaunch, MayFinish] <;> omega

/-- The thread that was spawned runs, and is to store the outcome. -/
theorem Agrees.start (h : c.Agrees initState (spawned + 1)) :
    c.start.Agrees initState spawned ∧ ¬ c.MayFinish ∧ c.start.MayFinish := by
  obtain ⟨hle, hunclaimed, hrunning, hspawned, hlaunched, houtcomes⟩ := h
  -- a thread that starts was spawned, so nobody has failed
  refine ⟨⟨hle, hunclaimed, hrunning, hspawned, ?_, ?_⟩, ?_, ?_⟩ <;>
    simp only [Course.start, MayFinish] <;> omega

/-- The outcome is stored once, and is 2 or 3. -/
theorem Agrees.finish {value : UInt8} (h : c.Agrees initState spawned) (hmay : c.MayFinish)
    (hvalue : value = 2 ∨ value = 3) :
    c.finish.Agrees value spawned ∧ ¬ c.finish.MayFinish := by
  obtain ⟨hle, hunclaimed, hrunning, hspawned, hlaunched, houtcomes⟩ := h
  obtain ⟨hsome, hnone⟩ := hmay
  -- the state says neither unclaimed nor running from now on
  have hne₀ : value ≠ 0 := by rcases hvalue with rfl | rfl <;> decide
  have hne₁ : value ≠ 1 := by rcases hvalue with rfl | rfl <;> decide
  refine ⟨⟨hle, ⟨fun h => absurd h hne₀, ?_⟩, ⟨fun h => absurd h hne₁, ?_⟩, hspawned, hlaunched,
    ?_⟩, ?_⟩ <;> simp only [Course.finish, MayFinish] <;> omega

end Course

/-- The resources of which there is at most one. -/
def IsToken : Resource → Prop
  | .candidateCache => True
  | .spawning => True
  | .initializing => True
  | _ => False

/-- Some thread has the token. -/
def taken : Resource → Globals → List Happening → Prop
  | .candidateCache, g, _ => g.cacheLocked = true
  | .spawning, _, history => (course history).MayLaunch
  | .initializing, _, history => (course history).MayFinish
  | _, _, _ => False

/-! ### What has nothing to do with tokens -/

/-- The calls that move tokens. -/
def Call.Moves : Call → Prop
  | lockCandidateCache => True
  | unlockCandidateCache _ => True
  | claimInitState => True
  | spawnInitializationThread => True
  | storeInitState _ => True
  | _ => False

/-- The globals agree on what tokens depend on. -/
structure Globals.SameTokens (g g' : Globals) : Prop where
  cacheLocked : g'.cacheLocked = g.cacheLocked
  initState : g'.initState = g.initState
  spawned : g'.spawned = g.spawned

/-- Other calls leave alone what tokens depend on. -/
theorem perform_sameTokens {code : HookFunction → UInt64} {g g' : Globals} {c : Call}
    {answer : c.Answer} (h : g.perform code c answer = some g') (hc : ¬ c.Moves) :
    g.SameTokens g' := by
  cases c with
  | lockCandidateCache => exact absurd trivial hc
  | unlockCandidateCache => exact absurd trivial hc
  | claimInitState => exact absurd trivial hc
  | spawnInitializationThread => exact absurd trivial hc
  | storeInitState => exact absurd trivial hc
  | clearActiveSwapChain object =>
    -- it writes under a condition, but never what tokens depend on
    simp only [Globals.perform] at h
    split at h <;> (obtain ⟨-, rfl⟩ := Globals.load_eq_some.mp h; exact ⟨rfl, rfl, rfl⟩)
  | _ =>
    first
    | (obtain ⟨-, rfl⟩ := Globals.load_eq_some.mp h; exact ⟨rfl, rfl, rfl⟩)
    | (obtain rfl := Option.some.inj h; exact ⟨rfl, rfl, rfl⟩)

/-- What happened is no step of the initialization. -/
def Happening.Silent (e : Happening) : Prop := ∀ c : Course, c.next e = c

/-- Other calls are no steps of the initialization. -/
theorem silent_called {c : Call} {answer : c.Answer} (i : Nat) (hc : ¬ c.Moves) :
    Happening.Silent (.called i ⟨c, answer⟩) := by
  cases c with
  | claimInitState => exact absurd trivial hc
  | spawnInitializationThread => exact absurd trivial hc
  | storeInitState => exact absurd trivial hc
  | _ => exact fun _ => rfl

/-- A token stays where it is when nothing happens to it. -/
theorem taken_silent {g g' : Globals} {history : List Happening} {e : Happening} {r : Resource}
    (hg : r = .candidateCache → g'.cacheLocked = g.cacheLocked) (he : Happening.Silent e) :
    taken r g' (e :: history) ↔ taken r g history := by
  have hcourse : course (e :: history) = course history := he _
  cases r with
  | candidateCache => rw [taken, taken, hg rfl]
  | spawning => rw [taken, taken, hcourse]
  | initializing => rw [taken, taken, hcourse]
  | reference => exact Iff.rfl
  | transition => exact Iff.rfl

/-- What is no token is no token's transfer. -/
theorem some_ne_of_isToken {r r' : Resource} (hr : IsToken r) (hr' : ¬ IsToken r') :
    some r' ≠ some r :=
  fun h => hr' (Option.some.inj h ▸ hr)

/-- A query obtains nothing but a reference. -/
theorem obtained_no_token (answer : HResult × UInt64) {r : Resource} (hr : IsToken r) :
    (obtained answer).gives ≠ some r ∧ (obtained answer).gains ≠ some r := by
  rw [obtained]
  split
  · exact ⟨(Option.some_ne_none r).symm, (Option.some_ne_none r).symm⟩
  · exact ⟨(Option.some_ne_none r).symm, some_ne_of_isToken hr id⟩

/-- Other calls transfer no tokens. -/
theorem transfer_no_token {c : Call} (answer : c.Answer) {r : Resource} (hc : ¬ c.Moves)
    (hr : IsToken r) :
    (transfer ⟨c, answer⟩).gives ≠ some r ∧ (transfer ⟨c, answer⟩).gains ≠ some r := by
  have hnone : none ≠ some r := (Option.some_ne_none r).symm
  cases c with
  | lockCandidateCache => exact absurd trivial hc
  | unlockCandidateCache => exact absurd trivial hc
  | claimInitState => exact absurd trivial hc
  | spawnInitializationThread => exact absurd trivial hc
  | storeInitState => exact absurd trivial hc
  -- the references that the native calls give and take are no tokens
  | native function c =>
    cases c with
    | queryInterface => exact obtained_no_token answer hr
    | getContainingOutput => exact obtained_no_token answer hr
    | release object => exact ⟨some_ne_of_isToken hr id, hnone⟩
    | _ => exact ⟨hnone, hnone⟩
  -- a lost reference is no token
  | vtableFunction object index =>
    cases answer with
    | ok function => exact ⟨hnone, hnone⟩
    | error e =>
      simp only [transfer]
      split
      · exact ⟨some_ne_of_isToken hr id, hnone⟩
      · exact ⟨hnone, hnone⟩
  | swapChainState swapChain op =>
    cases op with
    | beginTransition =>
      cases answer with
      | none => exact ⟨hnone, hnone⟩
      | some transition => exact ⟨hnone, some_ne_of_isToken hr id⟩
    | finishTransition => exact ⟨some_ne_of_isToken hr id, hnone⟩
    | _ => exact ⟨hnone, hnone⟩
  | _ => exact ⟨hnone, hnone⟩

/-! ### The tokens -/

/-- A call that moves no tokens. -/
theorem moves_of_silent {g g' : Globals} {history : List Happening} {c : Call} {answer : c.Answer}
    {i : Nat} (hc : ¬ c.Moves) (hg : g.SameTokens g') (r : Resource) (hr : IsToken r) :
    Moves (transfer ⟨c, answer⟩) r (taken r g history)
      (taken r g' (.called i ⟨c, answer⟩ :: history)) where
  gain h := absurd h (transfer_no_token answer hc hr).2
  give h := absurd h (transfer_no_token answer hc hr).1
  keep _ _ := taken_silent (fun _ => hg.cacheLocked) (silent_called i hc)

/-- What the shared state and the history agree on. -/
def processCourse (g : Globals) (history : List Happening) : Prop :=
  (course history).Agrees g.initState g.spawned

variable {code : HookFunction → UInt64} {g g' : Globals} {history : List Happening} {i : Nat}

/-- A call that takes the lock, or gives it back. -/
theorem moves_lock {e : Event} (r : Resource) (hr : r ≠ .candidateCache)
    (he : Happening.Silent (.called i e))
    (ht : (transfer e).gives = none ∧ (transfer e).gains = some .candidateCache ∨
      (transfer e).gives = some .candidateCache ∧ (transfer e).gains = none) :
    Moves (transfer e) r (taken r g history) (taken r g' (.called i e :: history)) := by
  have hne : some .candidateCache ≠ some r := fun h => hr (Option.some.inj h).symm
  have hnone : none ≠ some r := (Option.some_ne_none r).symm
  have hkeep : taken r g' (.called i e :: history) ↔ taken r g history :=
    taken_silent (fun h => absurd h hr) he
  obtain ⟨hgives, hgains⟩ | ⟨hgives, hgains⟩ := ht
  · exact .of_ne (hgives ▸ hnone) (hgains ▸ hne) hkeep
  · exact .of_ne (hgives ▸ hne) (hgains ▸ hnone) hkeep

/-- Whoever claims the initialization may spawn its thread; a refused claim moves nothing. -/
theorem claimInitState_moves {answer : Bool} (hI : processCourse g history)
    (hperform : g.perform code .claimInitState answer = some g') :
    processCourse g' (.called i ⟨.claimInitState, answer⟩ :: history) ∧
      ∀ r, IsToken r → Moves (transfer ⟨.claimInitState, answer⟩) r (taken r g history)
        (taken r g' (.called i ⟨.claimInitState, answer⟩ :: history)) := by
  simp only [Globals.perform] at hperform
  split at hperform
  · next hinit =>
    obtain ⟨rfl, rfl⟩ := Globals.load_eq_some.mp hperform
    rw [processCourse, hinit] at hI
    obtain ⟨hagrees, hbefore, hafter⟩ := hI.claim
    refine ⟨hagrees, fun r hr => ?_⟩
    cases r with
    | spawning => exact .of_gain (by decide) rfl hbefore hafter
    | initializing => exact .of_ne (by decide) (by decide) Iff.rfl
    | candidateCache => exact .of_ne (by decide) (by decide) Iff.rfl
    | reference => exact hr.elim
    | transition => exact hr.elim
  · -- somebody else was first, and nothing changes
    obtain ⟨rfl, rfl⟩ := Globals.load_eq_some.mp hperform
    refine ⟨hI, fun r _ => .of_ne (Option.some_ne_none _).symm (Option.some_ne_none _).symm ?_⟩
    exact taken_silent (fun _ => rfl) fun _ => rfl

/-- The right to spawn is used up; after a failure it is exchanged for that to store the outcome. -/
theorem spawnInitializationThread_moves {answer : Bool} (hI : processCourse g history)
    (hperform : g.perform code .spawnInitializationThread answer = some g')
    (hmay : (course history).MayLaunch) :
    processCourse g' (.called i ⟨.spawnInitializationThread, answer⟩ :: history) ∧
      ∀ r, IsToken r → Moves (transfer ⟨.spawnInitializationThread, answer⟩) r (taken r g history)
        (taken r g' (.called i ⟨.spawnInitializationThread, answer⟩ :: history)) := by
  obtain rfl := Option.some.inj hperform
  cases answer with
  | true =>
    obtain ⟨hagrees, hafter⟩ := hI.launch hmay
    refine ⟨hagrees, fun r hr => ?_⟩
    cases r with
    | spawning => exact .of_give rfl (by decide) hafter
    | initializing => exact .of_ne (by decide) (by decide) Iff.rfl
    | candidateCache => exact .of_ne (by decide) (by decide) Iff.rfl
    | reference => exact hr.elim
    | transition => exact hr.elim
  | false =>
    -- one token is exchanged for the other
    obtain ⟨hagrees, hafter, hbefore', hafter'⟩ := hI.fail hmay
    refine ⟨hagrees, fun r hr => ?_⟩
    cases r with
    | spawning => exact .of_give rfl (by decide) hafter
    | initializing => exact .of_gain (by decide) rfl hbefore' hafter'
    | candidateCache => exact .of_ne (by decide) (by decide) Iff.rfl
    | reference => exact hr.elim
    | transition => exact hr.elim

/-- The outcome is stored by whoever was to store it, and by nobody afterwards. -/
theorem storeInitState_moves {value : UInt8} {answer : Unit} (hI : processCourse g history)
    (hperform : g.perform code (.storeInitState value) answer = some g')
    (hmay : (course history).MayFinish) (hvalue : value = 2 ∨ value = 3) :
    processCourse g' (.called i ⟨.storeInitState value, answer⟩ :: history) ∧
      ∀ r, IsToken r → Moves (transfer ⟨.storeInitState value, answer⟩) r (taken r g history)
        (taken r g' (.called i ⟨.storeInitState value, answer⟩ :: history)) := by
  obtain rfl := Option.some.inj hperform
  obtain ⟨hagrees, hafter⟩ := hI.finish hmay hvalue
  have hnone {r : Resource} : none ≠ some r := (Option.some_ne_none r).symm
  have hgives {r : Resource} (hr : .initializing ≠ r) : some .initializing ≠ some r :=
    fun h => hr (Option.some.inj h)
  refine ⟨hagrees, fun r hr => ?_⟩
  cases r with
  | initializing => exact .of_give rfl hnone hafter
  | spawning => exact .of_ne (hgives (by decide)) hnone Iff.rfl
  | candidateCache => exact .of_ne (hgives (by decide)) hnone Iff.rfl
  | reference => exact hr.elim
  | transition => exact hr.elim

/-- A call that moves a token. -/
theorem perform_moves {c : Call} {answer : c.Answer} (hc : c.Moves) (hI : processCourse g history)
    (hperform : g.perform code c answer = some g') (hpermits : ∃ m, permits true m c)
    (htaken : ∀ r, IsToken r → (transfer ⟨c, answer⟩).gives = some r → taken r g history) :
    processCourse g' (.called i ⟨c, answer⟩ :: history) ∧
      ∀ r, IsToken r → Moves (transfer ⟨c, answer⟩) r (taken r g history)
        (taken r g' (.called i ⟨c, answer⟩ :: history)) := by
  cases c with
  | lockCandidateCache =>
    simp only [Globals.perform] at hperform
    split at hperform
    · exact nomatch hperform
    -- the lock was free, and is taken
    · next hfree =>
      obtain ⟨-, rfl⟩ := Globals.load_eq_some.mp hperform
      refine ⟨hI, fun r _ => ?_⟩
      by_cases hr : r = .candidateCache
      · subst hr
        exact .of_gain (Option.some_ne_none _).symm rfl hfree rfl
      · exact moves_lock r hr (fun _ => rfl) (.inl ⟨rfl, rfl⟩)
  | unlockCandidateCache cache =>
    -- whoever writes the cache back frees the lock
    obtain rfl := Option.some.inj hperform
    refine ⟨hI, fun r _ => ?_⟩
    by_cases hr : r = .candidateCache
    · subst hr
      exact .of_give rfl (Option.some_ne_none _).symm Bool.noConfusion
    · exact moves_lock r hr (fun _ => rfl) (.inr ⟨rfl, rfl⟩)
  | claimInitState => exact claimInitState_moves hI hperform
  | spawnInitializationThread =>
    have hgives : (transfer ⟨.spawnInitializationThread, answer⟩).gives = some .spawning := by
      cases answer <;> rfl
    exact spawnInitializationThread_moves hI hperform (htaken .spawning trivial hgives)
  | storeInitState value =>
    obtain ⟨m, -, hvalue⟩ := hpermits
    exact storeInitState_moves hI hperform (htaken .initializing trivial rfl) hvalue
  | _ => exact hc.elim

/-- A thread enters. -/
theorem enter_moves {entry : Entry} (hI : processCourse g history)
    (henter : g.enter entry = some g') :
    processCourse g' (.entered i entry :: history) ∧
      ∀ r, IsToken r → Moves ⟨none, entry.start⟩ r (taken r g history)
        (taken r g' (.entered i entry :: history)) := by
  cases entry with
  | initializationThread =>
    obtain ⟨hspawned, henter⟩ := Option.ite_none_right_eq_some.mp henter
    obtain rfl := Option.some.inj henter
    rw [processCourse, ← Nat.sub_add_cancel hspawned] at hI
    -- a thread that was spawned initializes
    obtain ⟨hagrees, hbefore, hafter⟩ := hI.start
    refine ⟨hagrees, fun r hr => ?_⟩
    cases r with
    | initializing => exact .of_gain (by decide) rfl hbefore hafter
    | spawning => exact .of_ne (by decide) (by decide) Iff.rfl
    | candidateCache => exact .of_ne (by decide) (by decide) Iff.rfl
    | reference => exact hr.elim
    | transition => exact hr.elim
  | _ =>
    obtain rfl := Option.some.inj henter
    refine ⟨hI, fun r _ => .of_ne (Option.some_ne_none r).symm (Option.some_ne_none r).symm ?_⟩
    exact taken_silent (fun _ => rfl) fun _ => rfl

/-- **The tokens of the process**: each is free or taken as the shared state and the history say. -/
theorem process_tokens :
    (process code).Tokens (discipline true) Entry.start IsToken processCourse taken where
  init g h := by
    refine ⟨⟨Nat.zero_le 1, ?_, ?_, Nat.le_refl 0, ?_, Nat.zero_le _⟩, fun r hr => ?_⟩
    · exact ⟨fun _ => rfl, fun _ => h.initState⟩
    · rw [h.initState]
      exact ⟨fun h => absurd h (by decide), fun h => absurd h.1 (by decide)⟩
    · rw [h.spawned]
      rfl
    · cases r with
      | candidateCache => exact Bool.eq_false_iff.mp h.cacheLocked
      | spawning => exact fun h => absurd h.1 (by decide)
      | initializing => exact fun h => absurd h.1 (by decide)
      | reference => exact hr.elim
      | transition => exact hr.elim
  enter := enter_moves
  perform {g g' history i c answer} hI h hpermits htaken := by
    -- most calls move no token
    by_cases hc : c.Moves
    · exact perform_moves hc hI h hpermits htaken
    · have hg := perform_sameTokens h hc
      refine ⟨?_, moves_of_silent hc hg⟩
      rw [processCourse, hg.initState, hg.spawned, course, silent_called i hc]
      exact hI
  ret {g history i entry result} hI :=
    ⟨hI, fun r _ => taken_silent (fun _ => rfl) fun _ => rfl⟩
  disturb {g g' history d} hI h := by
    obtain rfl := Option.some.inj h
    refine ⟨hI, fun r _ => ?_⟩
    cases r with
    | _ => exact Iff.rfl

variable {s : ProcessState}

/-- **One thread at a time has a token**, and no step of the initialization is made twice. -/
theorem tokens_exclusive (h : (process code).system.Reachable s) :
    (course s.history).Agrees s.shared.initState s.shared.spawned ∧
      ∀ r, IsToken r → Exclusive (taken r s.shared s.history)
        (holdings (discipline true) Entry.start r s.threads) :=
  process_tokens.exclusive body_transfers h

/-- A token that a thread gives up was taken. -/
theorem taken_of_allowed (h : (process code).system.Reachable s) {entry : Entry}
    {past : List Event} {c : Call} {next : c.Answer → Routine entry.Result} {r : Resource}
    (hi : s.threads i = some ⟨entry, past, .call c next⟩) (answer : c.Answer) (hr : IsToken r)
    (hgives : (transfer ⟨c, answer⟩).gives = some r) : taken r s.shared s.history := by
  have hheld : r ∈ held entry past := (thread_allowed h hi).1.2 answer r hgives
  refine ((tokens_exclusive h).2 r hr).taken_of_pos (i := i) ?_
  rw [holdings, hi]
  exact Multiset.count_pos.mpr hheld

/-- Success and failure are final. -/
theorem initState_step {s' : ProcessState} (h : (process code).system.Reachable s)
    (hstep : (process code).Step s s') (hclaimed : s.shared.initState ≠ 0)
    (hdone : s.shared.initState ≠ 1) : s'.shared.initState = s.shared.initState := by
  have hagrees := (tokens_exclusive h).1
  cases hstep with
  | @entered i entry g hfree henter =>
    cases entry with
    | initializationThread =>
      obtain ⟨-, henter⟩ := Option.ite_none_right_eq_some.mp henter
      obtain rfl := Option.some.inj henter
      rfl
    | _ =>
      obtain rfl := Option.some.inj henter
      rfl
  | @called i entry past c next answer g hi hperform =>
    -- of the calls that move tokens two could change the state
    by_cases hc : c.Moves
    · cases c with
      | storeInitState value =>
        -- whoever stores the outcome initializes, and then there is none yet
        obtain ⟨-, hnone⟩ : (course s.history).MayFinish :=
          taken_of_allowed h hi () (r := .initializing) trivial rfl
        have hclaims := hagrees.claims_le
        have hunclaimed := hagrees.unclaimed.not.mp hclaimed
        exact absurd (hagrees.running.mpr ⟨by omega, hnone⟩) hdone
      | claimInitState =>
        -- a second claim is refused
        simp only [process, Globals.perform, if_neg hclaimed] at hperform
        obtain ⟨-, rfl⟩ := Globals.load_eq_some.mp hperform
        rfl
      | lockCandidateCache =>
        simp only [process, Globals.perform] at hperform
        split at hperform
        · exact nomatch hperform
        · obtain ⟨-, rfl⟩ := Globals.load_eq_some.mp hperform
          rfl
      | unlockCandidateCache cache =>
        obtain rfl := Option.some.inj hperform
        rfl
      | spawnInitializationThread =>
        obtain rfl := Option.some.inj hperform
        rfl
      | _ => exact hc.elim
    · exact (perform_sameTokens hperform hc).initState
  | returned hi => rfl
  | disturbed hdisturb =>
    obtain rfl := Option.some.inj hdisturb
    rfl

/-- Success and failure are final, however long the process runs on. -/
theorem initState_final {s' : ProcessState} (h : (process code).system.Reachable s)
    (hleads : (process code).system.LeadsToWhere (fun _ _ => True) s s')
    (hdone : s.shared.initState = 2 ∨ s.shared.initState = 3) :
    s'.shared.initState = s.shared.initState := by
  have hne : s.shared.initState ≠ 0 ∧ s.shared.initState ≠ 1 := by
    rcases hdone with h | h <;> (rw [h]; decide)
  -- a state reached on the way is itself reached by a run
  refine (hleads.stable (I := fun t => (process code).system.Reachable t ∧
    t.shared.initState = s.shared.initState) ?_ ⟨h, rfl⟩).2
  rintro t a t' ⟨ht, heq⟩ - hstep
  refine ⟨ht.step hstep, ?_⟩
  have hkeep := initState_step ht (ThreadSystem.step_of_system hstep) (heq ▸ hne.1) (heq ▸ hne.2)
  exact hkeep.trans heq

/-- Whoever has found the outcome has found it for good. -/
theorem initState_of_load (h : (process code).system.Reachable s) {state : UInt8}
    (hdone : state = 2 ∨ state = 3)
    (hload : ⟨.loadInitState, state⟩ ∈ ThreadSystem.events s.history) :
    s.shared.initState = state := by
  have hne : state ≠ 0 ∧ state ≠ 1 := by
    rcases hdone with rfl | rfl <;> decide
  refine h.invariant_of_reachable (I := fun s =>
    ⟨.loadInitState, state⟩ ∈ ThreadSystem.events s.history → s.shared.initState = state)
    ?_ ?_ hload
  · rintro s ⟨-, -, hhistory⟩ hload
    rw [hhistory] at hload
    exact nomatch hload
  · intro s a s' hs ih _ hstep hload
    have hstep := ThreadSystem.step_of_system hstep
    -- whoever found it before finds it still
    have hkeep (hload : ⟨.loadInitState, state⟩ ∈ ThreadSystem.events s.history) :
        s'.shared.initState = state := by
      have heq := ih hload
      rw [initState_step hs hstep (heq ▸ hne.1) (heq ▸ hne.2), heq]
    cases hstep with
    | entered hfree henter => exact hkeep hload
    | @called i entry past c next answer g hi hperform =>
      obtain heq | hload := List.mem_cons.mp hload
      · cases heq
        -- this is the load, and it has read the present state
        obtain ⟨rfl, rfl⟩ := Globals.load_eq_some.mp hperform
        rfl
      · exact hkeep hload
    | returned hi => exact hkeep hload
    | disturbed hdisturb => exact hkeep hload

/-- **The initialization happens at most once**, whoever asks for it and however often, and its
outcome never changes. -/
theorem initialization_once (h : (process code).system.Reachable s) :
    ((course s.history).claims ≤ 1 ∧ (course s.history).launches ≤ 1 ∧
      (course s.history).starts ≤ 1 ∧ (course s.history).outcomes ≤ 1) ∧
    ∀ s', (process code).system.LeadsToWhere (fun _ _ => True) s s' →
      (s.shared.initState = 2 ∨ s.shared.initState = 3) →
      s'.shared.initState = s.shared.initState := by
  refine ⟨?_, fun s' hleads hdone => initState_final h hleads hdone⟩
  obtain ⟨hclaims, -, -, hspawned, hlaunched, houtcomes⟩ := (tokens_exclusive h).1
  exact ⟨hclaims, by omega, by omega, by omega⟩

/-- An initialization that came to its end. -/
theorem initialization_once_started :
    ∃ history, (course history).outcomes ≤ 1 ∧
      ∀ s', (process sampleCode).system.LeadsToWhere (fun _ _ => True)
        (.idle (.started sampleMemory) history) s' → s'.shared.initState = 2 := by
  obtain ⟨history, h⟩ := exists_started sampleCode sampleMemory sampleTargets
  obtain ⟨⟨-, -, -, houtcomes⟩, hfinal⟩ := initialization_once h
  exact ⟨history, houtcomes, fun s' hleads => hfinal s' hleads (.inl rfl)⟩

/-- **Mutual exclusion**: while the lock is free nobody holds it, and else exactly one thread
does, in every run. -/
theorem candidateCache_exclusive (h : (process code).system.Reachable s) :
    Exclusive (s.shared.cacheLocked = true)
      (holdings (discipline true) Entry.start .candidateCache s.threads) :=
  (tokens_exclusive h).2 .candidateCache trivial

/-- A query of the backend holds the lock. -/
theorem candidateCache_exclusive_query :
    ∃ s : ProcessState, s.shared.cacheLocked = true ∧
      Exclusive (s.shared.cacheLocked = true)
        (holdings (discipline true) Entry.start .candidateCache s.threads) := by
  obtain ⟨history, past, next, h⟩ := exists_waiting sampleCode
  exact ⟨_, rfl, candidateCache_exclusive (ThreadSystem.reachable_call {} h rfl)⟩

end Runtime
end WindowedHdr
