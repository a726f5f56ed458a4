import WindowedHdr.Library.ActionSystem
import WindowedHdr.Library.Program
import Mathlib.Logic.Function.Basic

/-!
# Threads that run programs on shared state

A `ThreadSystem` has entry points, each with the program that a thread runs when it enters
there. Any number of threads run at once. One step performs one call of one thread: the shared
state says which answers are possible and what becomes of it. Between any two steps threads
may enter and return, and the surroundings may disturb the shared state.

A state keeps what happened so far, newest first. Two rules lift facts to all runs:

* `ThreadSystem.meets` — what `Program.wp` says of every entry point holds of every thread,
  wherever it is.
* `ThreadSystem.Invariant.of_reachable` — an invariant of the shared state and the history is
  kept when every performed call keeps it, for a thread that has come to this call.

The proof of the first rule follows a thread from its entry: what is left of its program goes on
after exactly the events that the history has of it (`Thread.Running`, `Program.Goes`), and
other threads' steps do not touch it. The second rule is the induction over a run, with the
first one at hand in every step.

`session` runs one entry point after the other with given answers, and with nobody in between.
It is how a state is shown to be reachable: the run is a computation, and `reachable_session`
says that it is a run of the system.
-/

/-- Programs at their entry points, and the shared state that they run on. -/
structure ThreadSystem (Shared Call : Type) (Answer : Call → Type) (Entry : Type)
    (Result : Entry → Type) (Disturbance : Type) where
  /-- The initial shared states. -/
  Init : Shared → Prop
  /-- What a thread runs that enters here. -/
  body : (entry : Entry) → Program Call Answer (Result entry)
  /-- A thread enters. -/
  enter : Shared → Entry → Option Shared
  /-- A call is answered. -/
  perform : Shared → (c : Call) → Answer c → Option Shared
  /-- Something else happens. -/
  disturb : Shared → Disturbance → Option Shared

namespace ThreadSystem

open Program (Event Goes)

variable {Shared Call : Type} {Answer : Call → Type} {Entry : Type} {Result : Entry → Type}
  {Disturbance : Type}

/-- A thread that entered somewhere: its events, and what is left of its program. -/
structure Thread (Call : Type) (Answer : Call → Type) {Entry : Type} (Result : Entry → Type) where
  entry : Entry
  past : List (Event Answer)
  rest : Program Call Answer (Result entry)

/-- What a thread did. -/
inductive Happening (Answer : Call → Type) (Result : Entry → Type)
  | entered (i : Nat) (entry : Entry)
  | called (i : Nat) (event : Event Answer)
  | returned (i : Nat) (entry : Entry) (result : Result entry)

/-- The call of a happening, if it is one. -/
def Happening.event : Happening Answer Result → Option (Event Answer)
  | .called _ event => some event
  | _ => none

/-- The calls of all threads. -/
def events (history : List (Happening Answer Result)) : List (Event Answer) :=
  history.filterMap Happening.event

/-- A call adds its event. -/
@[simp] theorem events_called {i : Nat} {event : Event Answer}
    {history : List (Happening Answer Result)} :
    events (.called i event :: history) = event :: events history := rfl

/-- What a thread called is among the calls of all threads. -/
theorem mem_events {i : Nat} {event : Event Answer} {history : List (Happening Answer Result)}
    (h : .called i event ∈ history) : event ∈ events history :=
  List.mem_filterMap.mpr ⟨_, h, rfl⟩

/-- Earlier calls are among the later ones. -/
theorem events_subset {history older : List (Happening Answer Result)} (h : older <:+ history) :
    events older ⊆ events history :=
  (h.filterMap _).subset

/-- The shared state, the threads that run, and what happened so far. -/
structure State (Shared Call : Type) (Answer : Call → Type) {Entry : Type}
    (Result : Entry → Type) where
  shared : Shared
  threads : Nat → Option (Thread Call Answer Result)
  /-- Newest first. -/
  history : List (Happening Answer Result)

/-- One step; an answer is given for whatever call the thread has come to. -/
inductive Action (Call : Type) (Answer : Call → Type) (Entry Disturbance : Type)
  | enter (i : Nat) (entry : Entry)
  | call (i : Nat) (answer : (c : Call) → Answer c)
  | ret (i : Nat)
  | disturb (d : Disturbance)

variable (M : ThreadSystem Shared Call Answer Entry Result Disturbance)

/-- Thread `i` performs its next call. -/
def callStep (s : State Shared Call Answer Result) (i : Nat) (t : Thread Call Answer Result)
    (answer : (c : Call) → Answer c) : Option (State Shared Call Answer Result) :=
  match t.rest with
  | .done _ => none
  | .call c next =>
    (M.perform s.shared c (answer c)).map fun shared =>
      { shared := shared
        threads := Function.update s.threads i
          (some ⟨t.entry, ⟨c, answer c⟩ :: t.past, next (answer c)⟩)
        history := .called i ⟨c, answer c⟩ :: s.history }

/-- Thread `i` returns. -/
def retStep (s : State Shared Call Answer Result) (i : Nat) (t : Thread Call Answer Result) :
    Option (State Shared Call Answer Result) :=
  match t.rest with
  | .done result =>
    some { s with
      threads := Function.update s.threads i none
      history := .returned i t.entry result :: s.history }
  | .call _ _ => none

/-- All runs. -/
def system : ActionSystem (State Shared Call Answer Result)
    (Action Call Answer Entry Disturbance) where
  Init s := M.Init s.shared ∧ (∀ i, s.threads i = none) ∧ s.history = []
  step s
    | .enter i entry =>
      if s.threads i = none then
        (M.enter s.shared entry).map fun shared =>
          { shared := shared
            threads := Function.update s.threads i (some ⟨entry, [], M.body entry⟩)
            history := .entered i entry :: s.history }
      else
        none
    | .call i answer => (s.threads i).bind fun t => M.callStep s i t answer
    | .ret i => (s.threads i).bind fun t => retStep s i t
    | .disturb d => (M.disturb s.shared d).map fun shared => { s with shared := shared }

/-- **What one step does.** -/
inductive Step : State Shared Call Answer Result → State Shared Call Answer Result → Prop
  | entered {s : State Shared Call Answer Result} {i : Nat} {entry : Entry} {shared : Shared} :
      s.threads i = none → M.enter s.shared entry = some shared →
      Step s ⟨shared, Function.update s.threads i (some ⟨entry, [], M.body entry⟩),
        .entered i entry :: s.history⟩
  | called {s : State Shared Call Answer Result} {i : Nat} {entry : Entry}
      {past : List (Event Answer)} {c : Call} {next : Answer c → Program Call Answer (Result entry)}
      {answer : Answer c} {shared : Shared} :
      s.threads i = some ⟨entry, past, .call c next⟩ →
      M.perform s.shared c answer = some shared →
      Step s ⟨shared, Function.update s.threads i
        (some ⟨entry, ⟨c, answer⟩ :: past, next answer⟩), .called i ⟨c, answer⟩ :: s.history⟩
  | returned {s : State Shared Call Answer Result} {i : Nat} {entry : Entry}
      {past : List (Event Answer)} {result : Result entry} :
      s.threads i = some ⟨entry, past, .done result⟩ →
      Step s ⟨s.shared, Function.update s.threads i none, .returned i entry result :: s.history⟩
  | disturbed {s : State Shared Call Answer Result} {d : Disturbance} {shared : Shared} :
      M.disturb s.shared d = some shared → Step s ⟨shared, s.threads, s.history⟩

variable {M} {s s' : State Shared Call Answer Result}

/-- An action does one of the four steps. -/
theorem step_of_system {a : Action Call Answer Entry Disturbance}
    (h : M.system.step s a = some s') : M.Step s s' := by
  cases a with
  | enter i entry =>
    obtain ⟨hfree, h⟩ := Option.ite_none_right_eq_some.mp h
    obtain ⟨shared, hshared, rfl⟩ := Option.map_eq_some_iff.mp h
    exact .entered hfree hshared
  -- only a thread that has come to a call performs one
  | call i answer =>
    obtain ⟨⟨entry, past, rest⟩, ht, h⟩ := Option.bind_eq_some_iff.mp h
    cases rest with
    | done result => exact nomatch h
    | call c next =>
      obtain ⟨shared, hshared, rfl⟩ := Option.map_eq_some_iff.mp h
      exact .called ht hshared
  -- only a thread that is done returns
  | ret i =>
    obtain ⟨⟨entry, past, rest⟩, ht, h⟩ := Option.bind_eq_some_iff.mp h
    cases rest with
    | done result =>
      obtain rfl := Option.some.inj h
      exact .returned ht
    | call c next => exact nomatch h
  | disturb d =>
    obtain ⟨shared, hshared, rfl⟩ := Option.map_eq_some_iff.mp h
    exact .disturbed hshared

/-! ### What holds of every thread -/

/-- A thread runs the program of its entry point, and what it called is part of the history. -/
structure Thread.Running (M : ThreadSystem Shared Call Answer Entry Result Disturbance)
    (history : List (Happening Answer Result)) (i : Nat) (t : Thread Call Answer Result) :
    Prop where
  goes : Goes (M.body t.entry) t.past t.rest
  entered : .entered i t.entry ∈ history
  past : ∀ event ∈ t.past, .called i event ∈ history

/-- A thread goes on running its program when anything happens. -/
theorem Thread.Running.cons {history : List (Happening Answer Result)} {i : Nat}
    {t : Thread Call Answer Result} (h : t.Running M history i) (e : Happening Answer Result) :
    t.Running M (e :: history) i where
  goes := h.goes
  entered := List.mem_cons_of_mem e h.entered
  past event hevent := List.mem_cons_of_mem e (h.past event hevent)

/-- One thread changed, and one thing happened. -/
theorem running_update {threads : Nat → Option (Thread Call Answer Result)}
    {history : List (Happening Answer Result)} {i : Nat} {e : Happening Answer Result}
    {changed : Option (Thread Call Answer Result)}
    (h : ∀ j t, threads j = some t → t.Running M history j)
    (hchanged : ∀ t, changed = some t → t.Running M (e :: history) i) :
    ∀ j t, Function.update threads i changed j = some t → t.Running M (e :: history) j := by
  intro j t ht
  -- the thread that changed, and the others
  by_cases hij : j = i
  · subst hij
    rw [Function.update_self] at ht
    exact hchanged t ht
  · rw [Function.update_of_ne hij] at ht
    exact (h j t ht).cons e

/-- **Threads run their programs**, after any run. -/
theorem running_of_reachable (h : M.system.Reachable s) :
    ∀ i t, s.threads i = some t → t.Running M s.history i := by
  refine h.invariant (I := fun s => ∀ i t, s.threads i = some t → t.Running M s.history i)
    ?_ ?_
  · rintro s ⟨-, hthreads, -⟩ i t ht
    rw [hthreads i] at ht
    exact nomatch ht
  · intro s a s' ih _ hs
    cases step_of_system hs with
    | entered hfree henter =>
      -- a thread that enters has its whole program before it
      refine running_update ih fun t ht => ?_
      obtain rfl := Option.some.inj ht
      exact ⟨.start, List.mem_cons_self, fun _ he => nomatch he⟩
    -- the event of the call joins the thread's own events and the history at once
    | called hi hperform =>
      refine running_update ih fun t ht => ?_
      obtain rfl := Option.some.inj ht
      have hrunning := ih _ _ hi
      exact ⟨.answered _ hrunning.goes, List.mem_cons_of_mem _ hrunning.entered,
        List.forall_mem_cons.mpr ⟨List.mem_cons_self,
          fun event hevent => List.mem_cons_of_mem _ (hrunning.past event hevent)⟩⟩
    | returned hi => exact running_update ih fun t ht => nomatch ht
    | disturbed hdisturb => exact ih

/-- **What is shown of the entry points holds of every thread**, after any run. -/
theorem meets (good : Entry → List (Event Answer) → Call → Prop)
    (post : (entry : Entry) → List (Event Answer) → Result entry → Prop)
    (hbody : ∀ entry, (M.body entry).wp (good entry) (post entry) [])
    (h : M.system.Reachable s) {i : Nat} {t : Thread Call Answer Result}
    (ht : s.threads i = some t) : t.rest.wp (good t.entry) (post t.entry) t.past := by
  have hgoes := (hbody t.entry).goes (running_of_reachable h i t ht).goes
  rwa [List.append_nil] at hgoes

/-- Where thread `i` has entered, if it has not returned since, and what it has called there. -/
def ongoing (i : Nat) : List (Happening Answer Result) → Option (Entry × List (Event Answer))
  | [] => none
  | .entered j entry :: history => if j = i then some (entry, []) else ongoing i history
  | .called j event :: history =>
    if j = i then (ongoing i history).map fun r => (r.1, event :: r.2) else ongoing i history
  | .returned j _ _ :: history => if j = i then none else ongoing i history

/-- What a thread is at. -/
def progress (t : Option (Thread Call Answer Result)) : Option (Entry × List (Event Answer)) :=
  t.map fun t => (t.entry, t.past)

/-- There is no progress without a thread. -/
@[simp] theorem progress_none :
    progress (none : Option (Thread Call Answer Result)) = none := rfl

/-- The progress of a thread is its entry point and its calls. -/
@[simp] theorem progress_some (t : Thread Call Answer Result) :
    progress (some t) = some (t.entry, t.past) := rfl

/-- Only the thread that changes makes progress. -/
theorem progress_update {threads : Nat → Option (Thread Call Answer Result)} {i j : Nat}
    {t : Option (Thread Call Answer Result)} :
    progress (Function.update threads i t j) =
      if i = j then progress t else progress (threads j) := by
  by_cases hij : i = j
  · subst hij
    rw [Function.update_self, if_pos rfl]
  · rw [Function.update_of_ne (Ne.symm hij), if_neg hij]

/-- **The history tells what every thread is at**, after any run. -/
theorem ongoing_of_reachable (h : M.system.Reachable s) (i : Nat) :
    ongoing i s.history = progress (s.threads i) := by
  revert i
  refine h.invariant (I := fun s => ∀ i, ongoing i s.history = progress (s.threads i)) ?_ ?_
  · rintro s ⟨-, hthreads, hhistory⟩ i
    rw [hhistory, hthreads i]
    rfl
  · intro s a s' ih _ hs i
    cases step_of_system hs with
    | entered hfree henter => rw [ongoing, progress_update, ih i, progress_some]
    | @called j entry past c next answer shared hj hperform =>
      rw [ongoing, progress_update, ih i]
      -- the call belongs to thread `i` or to another one
      split
      · next hij =>
        subst hij
        rw [hj, progress_some, Option.map_some, progress_some]
      · rfl
    | returned hj => rw [ongoing, progress_update, ih i, progress_none]
    | disturbed hdisturb => exact ih i

/-- What the history tells of a thread has happened. -/
theorem mem_of_ongoing {history : List (Happening Answer Result)} {i : Nat} {entry : Entry}
    {past : List (Event Answer)} (h : ongoing i history = some (entry, past)) :
    .entered i entry ∈ history ∧ ∀ e ∈ past, .called i e ∈ history := by
  induction history generalizing past with
  | nil => cases h
  | cons e history ih =>
    -- nothing that other threads do matters
    have hother (h : ongoing i history = some (entry, past)) :
        .entered i entry ∈ e :: history ∧ ∀ e' ∈ past, .called i e' ∈ e :: history :=
      ⟨.tail _ (ih h).1, fun e' he' => .tail _ ((ih h).2 e' he')⟩
    cases e with
    | entered j entry' =>
      rw [ongoing] at h
      split at h
      · next hj =>
        subst hj
        obtain ⟨rfl, rfl⟩ := Prod.mk.inj (Option.some.inj h)
        exact ⟨.head _, fun e he => by cases he⟩
      · exact hother h
    | called j event =>
      rw [ongoing] at h
      split at h
      · next hj =>
        subst hj
        -- the thread was ongoing before its call, so the induction hypothesis is about the rest
        obtain ⟨⟨entry', past'⟩, hpast', heq⟩ := Option.map_eq_some_iff.mp h
        obtain ⟨rfl, rfl⟩ := Prod.mk.inj heq
        exact ⟨.tail _ (ih hpast').1, List.forall_mem_cons.mpr
          ⟨.head _, fun e he => .tail _ ((ih hpast').2 e he)⟩⟩
      · exact hother h
    | returned j entry' result =>
      rw [ongoing] at h
      split at h
      · cases h
      · exact hother h

/-- A call was made by a thread that had come to it, and it was `good` there. -/
def MadeGood (good : Entry → List (Event Answer) → Call → Prop) :
    Happening Answer Result → List (Happening Answer Result) → Prop
  | .called i event, older =>
    ∃ entry past, ongoing i older = some (entry, past) ∧ good entry past event.1
  | _, _ => True

/-- **What is shown of the entry points holds of every call** of a run, when it is made. -/
theorem madeGood_of_reachable (good : Entry → List (Event Answer) → Call → Prop)
    (post : (entry : Entry) → List (Event Answer) → Result entry → Prop)
    (hbody : ∀ entry, (M.body entry).wp (good entry) (post entry) [])
    (h : M.system.Reachable s) : History.Always (MadeGood good) s.history := by
  refine h.invariant_of_reachable (I := fun s => History.Always (MadeGood good) s.history) ?_ ?_
  · rintro s ⟨-, -, hhistory⟩
    rw [hhistory]
    -- nothing was called yet
    exact History.always_nil
  · intro s a s' hreachable ih _ hs
    cases step_of_system hs with
    | entered hfree henter => exact History.always_cons.mpr ⟨trivial, ih⟩
    | @called i entry past c next answer shared hi hperform =>
      -- the history before the call says where the thread is
      have hongoing : ongoing i s.history = some (entry, past) := by
        rw [ongoing_of_reachable hreachable i, hi, progress_some]
      have hgood := (meets good post hbody hreachable hi).1
      exact History.always_cons.mpr ⟨⟨entry, past, hongoing, hgood⟩, ih⟩
    | returned hi => exact History.always_cons.mpr ⟨trivial, ih⟩
    | disturbed hdisturb => exact ih

/-- A call of thread `i` that can be performed is performed by a step of thread `i`. -/
theorem exists_call_step [∀ c, Nonempty (Answer c)] {i : Nat} {entry : Entry}
    {past : List (Event Answer)} {c : Call} {next : Answer c → Program Call Answer (Result entry)}
    {answer : Answer c} {shared : Shared} (hi : s.threads i = some ⟨entry, past, .call c next⟩)
    (hperform : M.perform s.shared c answer = some shared) :
    ∃ answers, M.system.step s (.call i answers) = some ⟨shared, Function.update s.threads i
      (some ⟨entry, ⟨c, answer⟩ :: past, next answer⟩), .called i ⟨c, answer⟩ :: s.history⟩ := by
  classical
  -- only the answer to `c` matters
  refine ⟨fun c' => if h : c = c' then h ▸ answer else Classical.arbitrary _, ?_⟩
  simp only [system, hi, Option.bind_some, callStep, dif_pos, hperform, Option.map_some]

/-- What one step does is done by an action. -/
theorem exists_of_step [∀ c, Nonempty (Answer c)] (h : M.Step s s') :
    ∃ a, M.system.step s a = some s' := by
  cases h with
  | @entered i entry _ hfree henter =>
    refine ⟨.enter i entry, ?_⟩
    simp only [system, hfree, henter, if_true, Option.map_some]
  | called hi hperform =>
    obtain ⟨answers, hstep⟩ := exists_call_step hi hperform
    exact ⟨_, hstep⟩
  | @returned i entry past result hi =>
    refine ⟨.ret i, ?_⟩
    simp only [system, hi, Option.bind_some, retStep]
  | @disturbed d shared hdisturb =>
    refine ⟨.disturb d, ?_⟩
    simp only [system, hdisturb, Option.map_some]

/-- What one step makes of a reachable state is reachable. -/
theorem reachable_of_step [∀ c, Nonempty (Answer c)] (h : M.system.Reachable s)
    (hs : M.Step s s') : M.system.Reachable s' := by
  obtain ⟨a, ha⟩ := exists_of_step hs
  exact h.step ha

/-! ### Threads that take turns -/

/-- No thread runs. -/
def State.idle (shared : Shared) (history : List (Happening Answer Result)) :
    State Shared Call Answer Result :=
  ⟨shared, fun _ => none, history⟩

/-- Only thread `i` runs. -/
def State.alone (i : Nat) (t : Thread Call Answer Result) (shared : Shared)
    (history : List (Happening Answer Result)) : State Shared Call Answer Result :=
  ⟨shared, Function.update (fun _ => none) i (some t), history⟩

section Turns

variable {shared shared' : Shared}
  {history : List (Happening Answer Result)} {entry : Entry} {past : List (Event Answer)}

/-- The thread that runs alone runs. -/
@[simp] theorem State.alone_threads (i : Nat) (t : Thread Call Answer Result) :
    (State.alone i t shared history).threads i = some t := by
  simp only [State.alone, Function.update_self]

/-- The system starts without threads. -/
theorem reachable_idle (h : M.Init shared) : M.system.Reachable (.idle shared []) :=
  .init ⟨h, fun _ => rfl, rfl⟩

variable [∀ c, Nonempty (Answer c)]

/-- A thread may enter while nobody runs. -/
theorem reachable_enter (i : Nat) (entry : Entry)
    (h : M.system.Reachable (.idle shared history)) (henter : M.enter shared entry = some shared') :
    M.system.Reachable
      (.alone i ⟨entry, [], M.body entry⟩ shared' (.entered i entry :: history)) :=
  reachable_of_step h (.entered rfl henter)

/-- A thread that runs alone may perform its next call. -/
theorem reachable_call {i : Nat} {c : Call} {next : Answer c → Program Call Answer (Result entry)}
    (answer : Answer c)
    (h : M.system.Reachable (.alone i ⟨entry, past, .call c next⟩ shared history))
    (hperform : M.perform shared c answer = some shared') :
    M.system.Reachable (.alone i ⟨entry, ⟨c, answer⟩ :: past, next answer⟩ shared'
      (.called i ⟨c, answer⟩ :: history)) := by
  have hstep := reachable_of_step h (.called (State.alone_threads i _) hperform)
  -- the thread is alone before and afterwards
  rwa [State.alone, Function.update_idem] at hstep

/-- A thread that runs alone may return. -/
theorem reachable_return {i : Nat} {result : Result entry}
    (h : M.system.Reachable (.alone i ⟨entry, past, .done result⟩ shared history)) :
    M.system.Reachable (.idle shared (.returned i entry result :: history)) := by
  have hstep := reachable_of_step h (.returned (State.alone_threads i _))
  rwa [State.alone, Function.update_idem, Function.update_eq_self] at hstep

/-! ### Sessions

A session calls entry points one after the other, and answers every call in one fixed way. It
is a value, so what a sample session comes to can be evaluated. -/

/-- Run a program to its end; what becomes of the shared state, the events and the result. -/
def execute {α : Type} (perform : Shared → (c : Call) → Answer c → Option Shared)
    (answers : Shared → (c : Call) → Answer c) :
    Program Call Answer α → Shared → List (Event Answer) →
      Option (Shared × List (Event Answer) × α)
  | .done a, shared, past => some (shared, past, a)
  | .call c next, shared, past =>
    (perform shared c (answers shared c)).bind fun shared' =>
      execute perform answers (next (answers shared c)) shared' (⟨c, answers shared c⟩ :: past)

/-- Enter at one entry point after the other. -/
def session (M : ThreadSystem Shared Call Answer Entry Result Disturbance)
    (answers : Shared → (c : Call) → Answer c) :
    List Entry → Shared → List (Happening Answer Result) →
      Option (Shared × List (Happening Answer Result))
  | [], shared, history => some (shared, history)
  | entry :: entries, shared, history =>
    (M.enter shared entry).bind fun shared₁ =>
      (execute M.perform answers (M.body entry) shared₁ []).bind fun r =>
        session M answers entries r.1
          (.returned 0 entry r.2.2 :: (r.2.1.map (.called 0) ++ .entered 0 entry :: history))

/-- A thread that runs alone may run to its end. -/
theorem reachable_execute {answers : Shared → (c : Call) → Answer c}
    {p : Program Call Answer (Result entry)} {past' : List (Event Answer)}
    {result : Result entry}
    (h : M.system.Reachable
      (.alone 0 ⟨entry, past, p⟩ shared (past.map (.called 0) ++ .entered 0 entry :: history)))
    (hp : execute M.perform answers p shared past = some (shared', past', result)) :
    M.system.Reachable (.idle shared'
      (.returned 0 entry result :: (past'.map (.called 0) ++ .entered 0 entry :: history))) := by
  -- on the program, for the events and the shared state that it has come to
  induction p generalizing shared past with
  | done a =>
    obtain ⟨rfl, rfl, rfl⟩ : shared = shared' ∧ past = past' ∧ a = result := by
      simpa only [execute, Option.some.injEq, Prod.mk.injEq] using hp
    exact reachable_return h
  | call c next ih =>
    obtain ⟨shared₁, hperform, hp⟩ := Option.bind_eq_some_iff.mp hp
    -- the call is a step, and the rest of the program is run from there
    exact ih _ (reachable_call _ h hperform) hp

/-- A session is a run of the system. -/
theorem reachable_session {answers : Shared → (c : Call) → Answer c} {entries : List Entry}
    {history' : List (Happening Answer Result)} (h : M.system.Reachable (.idle shared history))
    (hs : M.session answers entries shared history = some (shared', history')) :
    M.system.Reachable (.idle shared' history') := by
  -- one entry point after the other
  induction entries generalizing shared history with
  | nil =>
    obtain ⟨rfl, rfl⟩ := Prod.mk.inj (Option.some.inj hs)
    exact h
  | cons entry entries ih =>
    obtain ⟨shared₁, henter, hs⟩ := Option.bind_eq_some_iff.mp hs
    obtain ⟨⟨shared₂, past, result⟩, hp, hs⟩ := Option.bind_eq_some_iff.mp hs
    have hentered := reachable_enter 0 entry h henter
    exact ih (reachable_execute hentered hp) hs

end Turns

/-! ### Invariants -/

/-- An invariant of the shared state and the history. A call is performed by a thread that has
come to it, and a result is returned by one that has ended with it. -/
structure Invariant (M : ThreadSystem Shared Call Answer Entry Result Disturbance)
    (I : Shared → List (Happening Answer Result) → Prop)
    (good : Entry → List (Event Answer) → Call → Prop)
    (post : (entry : Entry) → List (Event Answer) → Result entry → Prop) : Prop where
  body : ∀ entry, (M.body entry).wp (good entry) (post entry) []
  init : ∀ shared, M.Init shared → I shared []
  enter : ∀ {shared shared' history i entry}, I shared history →
    M.enter shared entry = some shared' → I shared' (.entered i entry :: history)
  perform : ∀ {shared shared' history i entry past c answer}, I shared history →
    (∀ event ∈ past, .called i event ∈ history) → .entered i entry ∈ history →
    good entry past c → M.perform shared c answer = some shared' →
    I shared' (.called i ⟨c, answer⟩ :: history)
  ret : ∀ {shared history i entry past result}, I shared history →
    (∀ event ∈ past, .called i event ∈ history) → post entry past result →
    I shared (.returned i entry result :: history)
  disturb : ∀ {shared shared' history d}, I shared history →
    M.disturb shared d = some shared' → I shared' history

/-- **An invariant holds** after any run. -/
theorem Invariant.of_reachable {I : Shared → List (Happening Answer Result) → Prop}
    {good : Entry → List (Event Answer) → Call → Prop}
    {post : (entry : Entry) → List (Event Answer) → Result entry → Prop}
    (hI : M.Invariant I good post) (h : M.system.Reachable s) : I s.shared s.history := by
  refine h.invariant_of_reachable (I := fun s => I s.shared s.history) ?_ ?_
  · rintro s ⟨hinit, -, hhistory⟩
    rw [hhistory]
    exact hI.init _ hinit
  · intro s a s' hreachable ih _ hs
    cases step_of_system hs with
    | entered hfree henter => exact hI.enter ih henter
    -- the thread has come to this call, so the call is good
    | called hi hperform =>
      have hrunning := running_of_reachable hreachable _ _ hi
      exact hI.perform ih hrunning.past hrunning.entered
        (meets good post hI.body hreachable hi).1 hperform
    | returned hi =>
      exact hI.ret ih (running_of_reachable hreachable _ _ hi).past
        (meets good post hI.body hreachable hi)
    | disturbed hdisturb => exact hI.disturb ih hdisturb

end ThreadSystem
