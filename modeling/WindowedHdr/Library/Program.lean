import WindowedHdr.Library.History

/-!
# Programs that call their environment

A `Program` makes calls, and whoever runs it answers them: the operating system, another
component, or memory that other threads write to. It is a tree that branches on the answers.
The answered calls are its events; a list of events is newest first.

* `Program.Goes p past q` — after the events `past`, what is left of `p` is `q`.
* `Program.wp p good post past` — when `p` goes on after the events `past`, every call that it
  makes is `good` after the events before it, and its result meets `post`, whatever is
  answered. The rules `wp_pure`, `wp_ask`, `wp_bind` and `wp_tryThen` take a program apart,
  and `wp.goes` says that the statement holds of what really happens.
* `Program.Calls S p` — all the calls of `p`, whatever is answered, are in `S`.

The predicate `wp` speaks of the events before a call, and not only of the program's state,
since what a program may do often depends on what it has found out. A condition on histories
that holds of everything a program does is carried by `wp.always`, and one on its result by
`wp.result`.
-/

/-- A program that makes calls and returns an `α`. -/
inductive Program (Call : Type) (Answer : Call → Type) (α : Type)
  | done (result : α)
  | call (c : Call) (next : Answer c → Program Call Answer α)

namespace Program

variable {Call : Type} {Answer : Call → Type} {α β ε : Type}

/-- An answered call. -/
abbrev Event (Answer : Call → Type) := Sigma Answer

/-- Go on with the result of a program. -/
protected def bind : Program Call Answer α → (α → Program Call Answer β) → Program Call Answer β
  | .done a, f => f a
  | .call c next, f => .call c fun answer => (next answer).bind f

instance : Monad (Program Call Answer) where
  pure := .done
  bind := Program.bind

/-- One call. -/
def ask (c : Call) : Program Call Answer (Answer c) := .call c .done

/-- Go on with the value of a program; an error ends it. -/
def tryThen (p : Program Call Answer (Except ε α))
    (f : α → Program Call Answer (Except ε β)) : Program Call Answer (Except ε β) :=
  p >>= fun
    | .ok a => f a
    | .error e => pure (.error e)

/-- After the events `past`, what is left of `p` is `q`. -/
inductive Goes (p : Program Call Answer α) :
    List (Event Answer) → Program Call Answer α → Prop
  | start : Goes p [] p
  | answered {past : List (Event Answer)} {c : Call} {next : Answer c → Program Call Answer α}
      (answer : Answer c) :
      Goes p past (.call c next) → Goes p (⟨c, answer⟩ :: past) (next answer)

/-! ### Weakest preconditions -/

/-- From the events `past` on, the calls of the program are `good` and its result meets
`post`, whatever is answered. -/
def wp : Program Call Answer α → (List (Event Answer) → Call → Prop) →
    (List (Event Answer) → α → Prop) → List (Event Answer) → Prop
  | .done a, _, post, past => post past a
  | .call c next, good, post, past =>
    good past c ∧ ∀ answer, (next answer).wp good post (⟨c, answer⟩ :: past)

variable {good good' : List (Event Answer) → Call → Prop}
  {post post' : List (Event Answer) → α → Prop} {p q : Program Call Answer α}
  {past older : List (Event Answer)}

/-- A program that is done has its result. -/
@[simp] theorem wp_done (a : α) : wp (.done a) good post past ↔ post past a := Iff.rfl

/-- The call is made now, and what follows it is judged with its answer among the events. -/
@[simp] theorem wp_call (c : Call) (next : Answer c → Program Call Answer α) :
    wp (.call c next) good post past ↔
      good past c ∧ ∀ answer, (next answer).wp good post (⟨c, answer⟩ :: past) := Iff.rfl

/-- A program without calls. -/
@[simp] theorem wp_pure (a : α) : wp (pure a) good post past ↔ post past a := Iff.rfl

/-- A program of one call ends with the answer. -/
@[simp] theorem wp_ask {c : Call} {post : List (Event Answer) → Answer c → Prop} :
    wp (ask c) good post past ↔ good past c ∧ ∀ answer, post (⟨c, answer⟩ :: past) answer :=
  Iff.rfl

/-- What follows a program is its postcondition. -/
@[simp] theorem wp_bind {p : Program Call Answer β} {f : β → Program Call Answer α} :
    wp (p >>= f) good post past ↔ p.wp good (fun past b => (f b).wp good post past) past := by
  induction p generalizing past with
  | done b => rfl
  | call c next ih => exact and_congr_right fun _ => forall_congr' fun answer => ih answer

/-- The postcondition of a program whose errors end what follows it. -/
def orElseError (post : List (Event Answer) → Except ε β → Prop)
    (ok : List (Event Answer) → α → Prop) (past : List (Event Answer)) : Except ε α → Prop
  | .ok a => ok past a
  | .error e => post past (.error e)

/-- After a value the program goes on. -/
@[simp] theorem orElseError_ok {post : List (Event Answer) → Except ε β → Prop}
    {ok : List (Event Answer) → α → Prop} {a : α} :
    orElseError post ok past (.ok a) ↔ ok past a := Iff.rfl

/-- An error is what the whole program ends with. -/
@[simp] theorem orElseError_error {post : List (Event Answer) → Except ε β → Prop}
    {ok : List (Event Answer) → α → Prop} {e : ε} :
    orElseError post ok past (.error e) ↔ post past (.error e) := Iff.rfl

/-- An error of the first program ends the whole, and its value goes on. -/
@[simp] theorem wp_tryThen {post : List (Event Answer) → Except ε β → Prop}
    {p : Program Call Answer (Except ε α)} {f : α → Program Call Answer (Except ε β)} :
    wp (p.tryThen f) good post past ↔
      p.wp good (orElseError post fun past a => (f a).wp good post past) past := by
  rw [tryThen, wp_bind]
  -- the two postconditions agree on either kind of result
  refine iff_of_eq (congrArg (fun post => p.wp good post past) ?_)
  funext past r
  cases r with
  | ok a => rfl
  | error e => rfl

/-- What may be called and what is ended with may be weakened. -/
theorem wp.mono (h : p.wp good post past)
    (hgood : ∀ past c, good past c → good' past c)
    (hpost : ∀ past a, post past a → post' past a) : p.wp good' post' past := by
  -- the events before the program change with every call
  induction p generalizing past with
  | done a => exact hpost past a h
  | call c next ih => exact ⟨hgood past c h.1, fun answer => ih answer (h.2 answer)⟩

/-- What is shown of a program by itself holds of its own events when it goes on after others. -/
theorem wp.after (h : p.wp good post [])
    (hgood : ∀ recent c, good recent c → good' (recent ++ past) c)
    (hpost : ∀ recent a, post recent a → post' (recent ++ past) a) : p.wp good' post' past := by
  suffices ∀ recent, p.wp good post recent → p.wp good' post' (recent ++ past) from this [] h
  clear h
  -- on the program, for its own events so far
  induction p with
  | done a => exact fun recent h => hpost recent a h
  | call c next ih =>
    exact fun recent h => ⟨hgood recent c h.1, fun answer => ih answer _ (h.2 answer)⟩

/-- **Soundness.** What has been shown of a program holds of what is left of it. -/
theorem wp.goes (h : p.wp good post older) (hgoes : Goes p past q) :
    q.wp good post (past ++ older) := by
  -- one answered call takes one layer off the statement
  induction hgoes with
  | start => exact h
  | answered answer _ ih => exact ih.2 answer

/-- The result of a program meets its postcondition. -/
theorem wp.result {a : α} (h : p.wp good post []) (hgoes : Goes p past (.done a)) :
    post past a := by
  have hdone := h.goes hgoes
  rwa [List.append_nil] at hdone

/-! ### Programs of certain calls -/

/-- All calls of the program are in `S`, whatever is answered. -/
def Calls (S : Call → Prop) : Program Call Answer α → Prop
  | .done _ => True
  | .call c next => S c ∧ ∀ answer, Calls S (next answer)

variable {S : Call → Prop}

/-- A program without calls makes no calls outside `S`. -/
@[simp] theorem calls_pure (a : α) : Calls S (pure a : Program Call Answer α) := trivial

/-- A program of one call makes just this one. -/
@[simp] theorem calls_ask {c : Call} :
    Calls S (ask c : Program Call Answer (Answer c)) ↔ S c :=
  and_iff_left fun _ => trivial

/-- The calls of two programs in a row are those of either. -/
theorem Calls.bind {p : Program Call Answer β} {f : β → Program Call Answer α} (hp : Calls S p)
    (hf : ∀ b, Calls S (f b)) : Calls S (p >>= f) := by
  induction p with
  | done b => exact hf b
  | call c next ih => exact ⟨hp.1, fun answer => ih answer (hp.2 answer)⟩

/-- The calls of a program and of what goes on with its value are those of either. -/
theorem Calls.tryThen {p : Program Call Answer (Except ε α)}
    {f : α → Program Call Answer (Except ε β)} (hp : Calls S p) (hf : ∀ a, Calls S (f a)) :
    Calls S (p.tryThen f) := by
  refine hp.bind fun r => ?_
  cases r with
  | ok a => exact hf a
  | error e => exact trivial

/-- A program of calls in `S` is one of calls in any larger set. -/
theorem Calls.mono {S' : Call → Prop} (hp : Calls S p) (hS : ∀ c, S c → S' c) : Calls S' p := by
  induction p with
  | done a => exact trivial
  | call c next ih => exact ⟨hS c hp.1, fun answer => ih answer (hp.2 answer)⟩

/-- **The frame rule.** A program of calls in `S` adds events in `S` to what happened, and may
end with anything. -/
theorem Calls.wp (hp : Calls S p) (hgood : ∀ recent c, S c → good (recent ++ past) c)
    (hpost : ∀ (events : List (Event Answer)) (a : α), (∀ event ∈ events, S event.1) →
      post (events ++ past) a) : p.wp good post past := by
  suffices ∀ recent : List (Event Answer), (∀ event ∈ recent, S event.1) →
      p.wp good post (recent ++ past) from this [] (fun _ h => nomatch h)
  -- on the program, for the events since `past`
  induction p with
  | done a => exact fun recent hrecent => hpost recent a hrecent
  | call c next ih =>
    exact fun recent hrecent => ⟨hgood _ c hp.1, fun answer =>
      ih answer (hp.2 answer) (⟨c, answer⟩ :: recent)
        (List.forall_mem_cons.mpr ⟨hp.1, hrecent⟩)⟩

end Program
