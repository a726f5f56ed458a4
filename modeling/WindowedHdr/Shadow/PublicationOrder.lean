import WindowedHdr.Shadow.Publication

/-!
# Publication order

A caller that found one of our replacements in an object's vtable has to find a record that
saved the function behind it, at whatever point of an installation it looks. A record `Serves`
a replacement when its entry is counted, and saved and not null. Three things carry the proof:

* **exposure** — where a table of a live object holds a replacement, a settled record serves
  it (`PublicationState.Exposed`); so a shadow is hooked only while it is private, or after the
  record's originals and number of entries were raised;
* **persistence** — a settled record goes on serving what it serves while its object lives,
  since a larger table of originals starts with the smaller one, and is stored before the
  number of entries is raised;
* **uniqueness** — an object has at most one active record of a kind, so what a caller finds is
  the record that serves it.

Shadows are written, and other memory is not (`PublicationState.Placed`): the slots of a shadow
are no other object's table, and no object.
-/

namespace WindowedHdr
namespace Shadow

open ByteMemory Usize Windows

/-! ### Shadows, tables and serving records -/

/-- The shadow of a fresh installation under way and the index of its record, when there are
`n` records. -/
def Installer.shadow (n : Nat) : Installer → Option (Nat × ShadowGeneration)
  | .publishing _ generation => some (n, generation)
  | .exchanging i _ generation | .publishingGeneration i _ generation => some (i, generation)
  | _ => none

/-- The shadow that no object points at yet. -/
def Installer.privateShadow : Installer → Option ShadowGeneration
  | .publishing _ generation | .exchanging _ _ generation => some generation
  | _ => none

/-- The record that is published without its object pointing at the shadow. -/
def Installer.inFlight : Installer → Option Nat
  | .exchanging i _ _ | .retiring i _ => some i
  | _ => none

/-- The two are sizes of one table. -/
def ShadowGeneration.SameTable (g g' : ShadowGeneration) : Prop :=
  g.vtable = g'.vtable ∧ g.entryCapacity = g'.entryCapacity

/-- The record saved a function for the replacement, and counts its entry. -/
structure ShadowRecord.Serves (r : ShadowRecord) (hook : HookFunction) : Prop where
  kind : r.kind = hook.kind
  index_lt : hook.index < r.entryCount
  saved : ∃ originals, r.originals = some originals ∧ r.entryCount ≤ originals.length ∧
    ∃ function, originals[hook.index]? = some function ∧ function ≠ 0

namespace PublicationState

variable (s : PublicationState)

/-- `g` is a size of the shadow of the record at index `i`. -/
def IsShadow (i : Nat) (g : ShadowGeneration) : Prop :=
  (∃ r, s.shadow.records[i]? = some r ∧ ∃ g' ∈ r.generations, g'.SameTable g) ∨
    ∃ g', s.installer.shadow s.shadow.records.length = some (i, g') ∧ g'.SameTable g

/-- The record at index `i` is that of a live object, and stays active while it lives. -/
structure Settled (i : Nat) (object : UInt64) : Prop where
  record : ∃ r, s.shadow.records[i]? = some r ∧ r.object = object ∧ r.active = true
  live : ∃ l, s.live object = some l ∧ l.born ≤ i
  notInFlight : s.installer.inFlight ≠ some i

/-- The table is a shadow of the object. -/
def OwnShadow (object vtable : UInt64) : Prop :=
  ∃ i g, s.IsShadow i g ∧ s.Settled i object ∧ g.vtable = vtable

/-- A call on the object may go through the table: the object points at it, a caller has loaded
it, or it is a shadow of the object. -/
def TableOf (object vtable : UInt64) : Prop :=
  s.shadow.memory.readPointer object = vtable ∨
    (∃ caller index, s.callers caller = .loadedVtable object index vtable) ∨
    s.OwnShadow object vtable

/-- The record at index `i` is settled and serves the replacement. -/
def Serves (i : Nat) (object : UInt64) (hook : HookFunction) : Prop :=
  s.Settled i object ∧ ∃ r, s.shadow.records[i]? = some r ∧ r.Serves hook

/-- The address is neither a live object nor a slot of a shadow. -/
structure Outside (address : UInt64) : Prop where
  notObject : s.live address = none
  notShadow : ∀ i g k, s.IsShadow i g → k < g.entryCapacity → slot g.vtable k ≠ address

end PublicationState

/-! ### What is assumed -/

variable (code : HookFunction → UInt64)

/-- What an installation may assume. The hooks are those of the module, and the interface is one
that the object implements. Regions are aligned and hold whole vtables, and `VirtualAlloc` hands
out memory that is not in use. -/
structure SafeBegin (s : PublicationState) (object : UInt64) (kind : ShadowKind)
    (entryCount : Nat) (hooks : List VtableHook) (o : InstallOutcome) (l : LiveObject) :
    Prop where
  live : s.live object = some l
  hooks : ∀ hook ∈ hooks, shadowReplacement code kind hook.index = some hook.replacement
  entries : entryCount ≤ l.entries
  clone : ∀ clone entryCapacity cloned,
    cloneVtable o s.shadow.memory (s.shadow.memory.readPointer object) entryCount =
      .ok (clone, entryCapacity, cloned) →
    Aligned clone.clonedAddress ∧ l.entries ≤ entryCapacity
  unused_region : ∀ information,
    o.clone.virtualQuery (s.shadow.memory.readPointer object) = some information →
    o.clone.AllocatesApartFrom information.region
  unused_objects : ∀ x, s.live x ≠ none → o.clone.AllocatesApartFrom (Region.pointer x)
  unused_tables : ∀ x l v k, s.live x = some l → s.TableOf x v → k < l.entries →
    o.clone.AllocatesApartFrom (Region.pointer (slot v k))
  unused_shadows : ∀ i g k, s.IsShadow i g → k < g.entryCapacity →
    o.clone.AllocatesApartFrom (Region.pointer (slot g.vtable k))

/-- A table that another module may point a live object at: one of its shadows, or a table of its
own that holds our replacements only where the object's table does. -/
def SafePointer (s : PublicationState) (object : UInt64) (l : LiveObject) (vtable : UInt64) :
    Prop :=
  s.OwnShadow object vtable ∨ Aligned vtable ∧ ∀ k < l.entries, s.Outside (slot vtable k) ∧
    ∀ hook, s.shadow.memory.readPointer (slot vtable k) = code hook →
      s.shadow.memory.readPointer (slot (s.shadow.memory.readPointer object) k) = code hook

/-- What another module may store elsewhere: one of our replacements only to put it back into the
slot of a shadow where it is served. -/
def SafeValue (s : PublicationState) (address value : UInt64) : Prop :=
  ∀ hook, value = code hook → ∃ i g object, s.IsShadow i g ∧ s.Serves i object hook ∧
    hook.index < g.entryCapacity ∧ address = slot g.vtable hook.index

/-- Another module's aligned store. -/
structure SafeWrite (s : PublicationState) (address value : UInt64) : Prop where
  aligned : Aligned address
  pointer : ∀ l, s.live address = some l → SafePointer code s address l value
  value : s.live address = none → SafeValue code s address value

/-- An object is created apart from everything in use, with a vtable that holds none of our
replacements. -/
structure SafeCreate (s : PublicationState) (object : UInt64) (entries : Nat) : Prop where
  aligned : Aligned object
  table_aligned : Aligned (s.shadow.memory.readPointer object)
  entries_lt : entries < 2 ^ 60
  outside : s.Outside object
  notTable : ∀ x l v k, s.live x = some l → s.TableOf x v → k < l.entries → slot v k ≠ object
  table : ∀ k < entries, slot (s.shadow.memory.readPointer object) k ≠ object ∧
    s.Outside (slot (s.shadow.memory.readPointer object) k) ∧
    ∀ hook, s.shadow.memory.readPointer (slot (s.shadow.memory.readPointer object) k) ≠ code hook

/-- What is assumed of an action. An object is not destroyed while it is called or installed on;
the caller that releases it has obtained the saved function. Its records are retired only then. -/
def PublicationAction.Safe (s : PublicationState) : PublicationAction → Prop
  | .install object kind entryCount hooks o =>
    ∃ l, SafeBegin code s object kind entryCount hooks o l
  | .write address value => SafeWrite code s address value
  | .create object entries => SafeCreate code s object entries
  | .destroy object =>
    s.installer.object ≠ some object ∧ ∀ caller, (s.callers caller).object ≠ some object
  | .retire i => ∀ r l, s.shadow.records[i]? = some r → s.live r.object = some l → i < l.born
  | .store | .call _ _ _ | .load _ => True

/-! ### The invariant -/

/-- Where objects, tables and shadows lie. -/
structure PublicationState.Placed (s : PublicationState) : Prop where
  object_aligned : ∀ x, s.live x ≠ none → Aligned x
  entries_lt : ∀ x l, s.live x = some l → l.entries < 2 ^ 60
  table_aligned : ∀ x v, s.live x ≠ none → s.TableOf x v → Aligned v
  table_object : ∀ x l v k, s.live x = some l → s.TableOf x v → k < l.entries →
    s.live (slot v k) = none
  shadow_aligned : ∀ i g, s.IsShadow i g → Aligned g.vtable ∧ g.entryCapacity < 2 ^ 60
  shadow_object : ∀ i g k, s.IsShadow i g → k < g.entryCapacity → s.live (slot g.vtable k) = none
  shadow_table : ∀ i g k x l v k', s.IsShadow i g → k < g.entryCapacity → s.live x = some l →
    s.TableOf x v → k' < l.entries → slot g.vtable k = slot v k' →
    s.Settled i x ∧ g.vtable = v
  shadow_shadow : ∀ i g k i' g' k', s.IsShadow i g → k < g.entryCapacity → s.IsShadow i' g' →
    k' < g'.entryCapacity → slot g.vtable k = slot g'.vtable k' → i = i'
  one_shadow : ∀ i g g', s.IsShadow i g → s.IsShadow i g' →
    g.vtable = g'.vtable ∧ g.entryCapacity = g'.entryCapacity
  shadow_entries : ∀ i g x l, s.IsShadow i g → s.Settled i x → s.live x = some l →
    l.entries ≤ g.entryCapacity

/-- Where a table of a live object holds a replacement, it is the one of that slot, and a settled
record serves it. -/
def PublicationState.Exposed (s : PublicationState) : Prop :=
  ∀ x l v k hook, s.live x = some l → s.TableOf x v → k < l.entries →
    s.shadow.memory.readPointer (slot v k) = code hook →
    hook.index = k ∧ ∃ i, s.Serves i x hook

/-- What a caller relies on. -/
def PublicationState.CallerOk (s : PublicationState) : Caller → Prop
  | .outside => True
  | .loadedVtable object index _ => ∃ l, s.live object = some l ∧ index < l.entries
  | .replaced object index hook => hook.index = index ∧ ∃ i, s.Serves i object hook
  | .searching object index hook n => hook.index = index ∧ ∃ i < n, s.Serves i object hook
  | .found object index hook i | .counted object index hook i =>
    hook.index = index ∧ s.Serves i object hook
  | .loadedOriginals _ index hook originals =>
    hook.index = index ∧ ∃ function, originals[hook.index]? = some function ∧ function ≠ 0
  | .saved _ index hook function => hook.index = index ∧ function ≠ 0
  | .failed _ _ _ _ => False

/-- A shadow that no caller can see yet. -/
structure PrivateShadow (s : PublicationState) (record : ShadowRecord)
    (generation : ShadowGeneration) (l : LiveObject) : Prop where
  live : s.live record.object = some l
  active : record.active = true
  unpublished : record.generations = []
  count : generation.entryCount = record.entryCount
  saved : ∃ originals, record.originals = some originals ∧
    originals.length = record.entryCount
  entries : l.entries ≤ generation.entryCapacity
  exposed : ∀ k < l.entries, ∀ hook,
    s.shadow.memory.readPointer (slot generation.vtable k) = code hook →
    hook.index = k ∧ ((∃ i, s.Serves i record.object hook) ∨ record.Serves hook)

/-- The record `r` of an expansion, with the hooks that are left to write. -/
structure Expanding (s : PublicationState) (e : Expansion) (hooks : List VtableHook)
    (r : ShadowRecord) : Prop where
  record : s.shadow.records[e.i]? = some r
  settled : s.Settled e.i e.object
  mem : e.generation ∈ r.generations
  oneTable : ∀ g ∈ r.generations, ∀ g' ∈ r.generations, g.vtable = g'.vtable
  length : e.originals.length = e.entryCount
  fits : e.entryCount ≤ e.generation.entryCapacity
  hooks : ∀ hook ∈ hooks, ∃ f : HookFunction, code f = hook.replacement ∧ f.kind = r.kind ∧
    f.index = hook.index ∧ hook.index < e.entryCount ∧
    ∃ function, e.originals[hook.index]? = some function ∧ function ≠ 0

/-- What the installer relies on. -/
def PublicationState.InstallerOk (s : PublicationState) : Installer → Prop
  | .idle => True
  | .publishing record generation =>
    (∃ l, PrivateShadow code s record generation l) ∧
      s.shadow.findShadowRecord record.object record.kind = none
  | .exchanging i record generation =>
    ∃ l, PrivateShadow code s record generation l ∧ s.shadow.records[i]? = some record ∧
      l.born ≤ i
  | .retiring i object =>
    ∃ r l, s.shadow.records[i]? = some r ∧ r.object = object ∧ s.live object = some l ∧
      l.born ≤ i
  | .publishingGeneration i object generation =>
    ∃ r, s.shadow.records[i]? = some r ∧ s.Settled i object ∧ r.generations = [] ∧
      generation.entryCount = r.entryCount
  | .storingOriginals e hooks =>
    ∃ r originals, Expanding code s e hooks r ∧ r.originals = some originals ∧
      r.entryCount ≤ originals.length ∧ r.entryCount < e.entryCount ∧
      ∀ k < r.entryCount, e.originals[k]? = originals[k]?
  | .storingEntryCount e hooks =>
    ∃ r, Expanding code s e hooks r ∧ r.originals = some e.originals ∧
      r.entryCount < e.entryCount
  | .loadingSlot e hooks =>
    ∃ r, Expanding code s e hooks r ∧ r.originals = some e.originals ∧
      r.entryCount = e.entryCount
  | .storingSlot e hook hooks =>
    ∃ r, Expanding code s e (hook :: hooks) r ∧ r.originals = some e.originals ∧
      r.entryCount = e.entryCount

/-- The record whose sizes do not fit together at the moment. -/
def Installer.resizing : Installer → Option Nat
  | .storingEntryCount e _ | .loadingSlot e _ | .storingSlot e _ _ => some e.i
  | _ => none

/-- **The invariant.** -/
structure PublicationState.Ordered (s : PublicationState) : Prop where
  unique : s.shadow.UniqueActive
  born_le : ∀ x l, s.live x = some l → l.born ≤ s.shadow.records.length
  sized : ∀ i r, s.shadow.records[i]? = some r → s.installer.resizing ≠ some i → r.Sized
  placed : s.Placed
  exposed : s.Exposed code
  callers : ∀ caller, s.CallerOk (s.callers caller)
  installer : s.InstallerOk code s.installer

variable {code} {s s' : PublicationState} {x : UInt64} {i : Nat} {g : ShadowGeneration}
  {hook : HookFunction} {l : LiveObject}

/-! ### What a step leaves behind -/

/-- The record stays that of its object, and serves what it served. -/
structure ShadowRecord.Continues (r r' : ShadowRecord) : Prop where
  object : r'.object = r.object
  kind : r'.kind = r.kind
  active : r'.active = r.active
  serves : ∀ hook, r.Serves hook → r'.Serves hook

/-- A record that is left alone goes on serving what it serves. -/
theorem ShadowRecord.Continues.refl (r : ShadowRecord) : r.Continues r :=
  ⟨rfl, rfl, rfl, fun _ h => h⟩

/-- The generations of a record are sizes of its shadow. -/
theorem PublicationState.IsShadow.of_mem {r : ShadowRecord} (hr : s.shadow.records[i]? = some r)
    (hg : g ∈ r.generations) : s.IsShadow i g :=
  .inl ⟨r, hr, g, hg, rfl, rfl⟩

/-- The shadow of an installation under way belongs to the record that it publishes. -/
theorem PublicationState.IsShadow.of_installer
    (h : s.installer.shadow s.shadow.records.length = some (i, g)) : s.IsShadow i g :=
  .inr ⟨g, h, rfl, rfl⟩

/-- Whether a table is a shadow does not depend on the number of entries that are counted. -/
theorem PublicationState.IsShadow.sameTable {g' : ShadowGeneration} (h : s.IsShadow i g)
    (hsame : g.SameTable g') : s.IsShadow i g' := by
  obtain ⟨r, hr, g₀, hg₀, hvtable, hcapacity⟩ | ⟨g₀, hg₀, hvtable, hcapacity⟩ := h
  · exact .inl ⟨r, hr, g₀, hg₀, hvtable.trans hsame.1, hcapacity.trans hsame.2⟩
  · exact .inr ⟨g₀, hg₀, hvtable.trans hsame.1, hcapacity.trans hsame.2⟩

/-- A settled record is that of a live object. -/
theorem PublicationState.Settled.isLive (h : s.Settled i x) : s.live x ≠ none := by
  obtain ⟨l, hl, -⟩ := h.live
  rw [hl]
  exact Option.some_ne_none l

namespace PublicationState

/-- A record that is not there yet is not settled. -/
theorem not_settled_length (x : UInt64) : ¬ s.Settled s.shadow.records.length x := by
  intro h
  obtain ⟨r, hr, -⟩ := h.record
  exact absurd (List.getElem?_eq_some_iff.mp hr).1 (Nat.lt_irrefl _)

/-- The record at index `i` is that of a live object, published after its creation. -/
def Current (s : PublicationState) (i : Nat) (r : ShadowRecord) : Prop :=
  s.shadow.records[i]? = some r ∧ ∃ l, s.live r.object = some l ∧ l.born ≤ i

/-- `s'` has no table that `s` does not have, and what was settled or served in `s` is so
in `s'`. -/
structure Later (s s' : PublicationState) : Prop where
  live : ∀ x l, s'.live x = some l → s.live x = some l
  table : ∀ x v, s'.live x ≠ none → s'.TableOf x v → s.TableOf x v
  settled : ∀ i x, s'.live x ≠ none → (s'.Settled i x ↔ s.Settled i x)
  serves : ∀ i x hook, s'.live x ≠ none → s.Serves i x hook → s'.Serves i x hook

/-- How a step is seen to leave everything behind: current records continue, and no new ones
are settled. -/
theorem Later.of_continues (hlive : ∀ x l, s'.live x = some l → s.live x = some l)
    (hpointer : ∀ x, s'.live x ≠ none →
      s'.shadow.memory.readPointer x = s.shadow.memory.readPointer x)
    (hcallers : ∀ caller x index v, s'.live x ≠ none →
      s'.callers caller = .loadedVtable x index v → s.TableOf x v)
    (hshadow : ∀ i g x, s'.Settled i x → s'.IsShadow i g → s.IsShadow i g)
    (hold : ∀ i r, s.Current i r → s'.live r.object ≠ none → r.active = true →
      s.installer.inFlight ≠ some i → s'.installer.inFlight ≠ some i ∧
        ∃ r', s'.shadow.records[i]? = some r' ∧ r.Continues r')
    (hnew : ∀ i r', s'.Current i r' → r'.active = true → s'.installer.inFlight ≠ some i →
      s.installer.inFlight ≠ some i ∧ ∃ r, s.shadow.records[i]? = some r ∧ r.Continues r') :
    s.Later s' := by
  -- a settled record was settled before, and stays so while its object lives
  have hback : ∀ i x, s'.Settled i x → s.Settled i x := by
    rintro i x ⟨⟨r', hr', rfl, hactive⟩, ⟨l, hl, hborn⟩, hflight⟩
    obtain ⟨hflight', r, hr, hcontinues⟩ := hnew i r' ⟨hr', l, hl, hborn⟩ hactive hflight
    exact ⟨⟨r, hr, hcontinues.object.symm, hcontinues.active.symm.trans hactive⟩,
      ⟨l, hlive _ _ hl, hborn⟩, hflight'⟩
  have hforth : ∀ i x, s'.live x ≠ none → s.Settled i x → s'.Settled i x := by
    rintro i x hne ⟨⟨r, hr, rfl, hactive⟩, ⟨l, hl, hborn⟩, hflight⟩
    obtain ⟨hflight', r', hr', hcontinues⟩ := hold i r ⟨hr, l, hl, hborn⟩ hne hactive hflight
    obtain ⟨l', hl'⟩ := Option.ne_none_iff_exists'.mp hne
    obtain rfl := Option.some.inj (hl.symm.trans (hlive _ _ hl'))
    exact ⟨⟨r', hr', hcontinues.object, hcontinues.active.trans hactive⟩, ⟨l, hl', hborn⟩,
      hflight'⟩
  -- a table is where the object points, what a caller has loaded, or a shadow
  refine ⟨hlive, ?_, fun i x hne => ⟨hback i x, hforth i x hne⟩, ?_⟩
  · rintro x v hne (hpoints | ⟨caller, index, hcaller⟩ | ⟨i, g, hg, hsettled, rfl⟩)
    · exact .inl ((hpointer x hne).symm.trans hpoints)
    · exact hcallers caller x index v hne hcaller
    · exact .inr (.inr ⟨i, g, hshadow i g x hsettled hg, hback i x hsettled, rfl⟩)
  · rintro i x hook hne ⟨hsettled, r, hr, hserves⟩
    refine ⟨hforth i x hne hsettled, ?_⟩
    obtain ⟨⟨r₀, hr₀, rfl, hactive⟩, ⟨l, hl, hborn⟩, hflight⟩ := hsettled
    obtain rfl := Option.some.inj (hr.symm.trans hr₀)
    obtain ⟨-, r', hr', hcontinues⟩ := hold i r ⟨hr, l, hl, hborn⟩ hne hactive hflight
    -- the record that serves goes on as a record that serves
    exact ⟨r', hr', hcontinues.serves hook hserves⟩

/-- What is found is there. -/
theorem ne_none_of_eq_some {α : Type} {a : Option α} {b : α} (h : a = some b) : a ≠ none := by
  rw [h]
  exact Option.some_ne_none b

/-- No object comes to life while everything is left behind. -/
theorem Later.live_ne (h : s.Later s') (hx : s'.live x ≠ none) : s.live x ≠ none := by
  obtain ⟨l, hl⟩ := Option.ne_none_iff_exists'.mp hx
  exact ne_none_of_eq_some (h.live x l hl)

/-- Where nothing lives, nothing comes to life. -/
theorem Later.live_none {a : UInt64} (h : s.Later s') (ha : s.live a = none) :
    s'.live a = none := by
  by_contra hne
  exact h.live_ne hne ha

/-- Without a new shadow, everything stays in its place. -/
theorem Placed.later (hs : s.Placed) (h : s.Later s')
    (hshadow : ∀ i g, s'.IsShadow i g → s.IsShadow i g) : s'.Placed where
  object_aligned x hx := hs.object_aligned x (h.live_ne hx)
  entries_lt x l hl := hs.entries_lt x l (h.live x l hl)
  table_aligned x v hx hv := hs.table_aligned x v (h.live_ne hx) (h.table x v hx hv)
  table_object x l v k hl hv hk := h.live_none
    (hs.table_object x l v k (h.live x l hl) (h.table x v (ne_none_of_eq_some hl) hv) hk)
  shadow_aligned i g hg := hs.shadow_aligned i g (hshadow i g hg)
  shadow_object i g k hg hk := h.live_none (hs.shadow_object i g k (hshadow i g hg) hk)
  -- the two coincided before, so the shadow was that of the object, and its record stays settled
  shadow_table i g k x l v k' hg hk hl hv hk' heq := by
    have hne := ne_none_of_eq_some hl
    obtain ⟨hsettled, hvtable⟩ := hs.shadow_table i g k x l v k' (hshadow i g hg) hk
      (h.live x l hl) (h.table x v hne hv) hk' heq
    exact ⟨(h.settled i x hne).mpr hsettled, hvtable⟩
  shadow_shadow i g k i' g' k' hg hk hg' hk' heq :=
    hs.shadow_shadow i g k i' g' k' (hshadow i g hg) hk (hshadow i' g' hg') hk' heq
  one_shadow i g g' hg hg' := hs.one_shadow i g g' (hshadow i g hg) (hshadow i g' hg')
  shadow_entries i g x l hg hsettled hl :=
    hs.shadow_entries i g x l (hshadow i g hg)
      ((h.settled i x (ne_none_of_eq_some hl)).mp hsettled) (h.live x l hl)

/-- Where no replacement appears, the exposed ones stay served. -/
theorem Exposed.later (hs : s.Exposed code) (h : s.Later s')
    (hread : ∀ x l v k hook, s'.live x = some l → s'.TableOf x v → k < l.entries →
      s'.shadow.memory.readPointer (slot v k) = code hook →
      s.shadow.memory.readPointer (slot v k) = code hook) : s'.Exposed code := by
  intro x l v k hook hl hv hk hvalue
  have hne := ne_none_of_eq_some hl
  -- the replacement was in the table before, where a record served it
  obtain ⟨hindex, i, hserves⟩ := hs x l v k hook (h.live x l hl) (h.table x v hne hv) hk
    (hread x l v k hook hl hv hk hvalue)
  exact ⟨hindex, i, h.serves i x hook hne hserves⟩

/-- A replacement is served for a live object. -/
theorem Serves.isLive (h : s.Serves i x hook) : s.live x ≠ none := h.1.isLive

/-- What a caller relies on persists while its object lives. -/
theorem CallerOk.persists {c : Caller} (hs : s.CallerOk c)
    (hlive : ∀ x, c.object = some x → s.live x ≠ none → s'.live x = s.live x)
    (hserves : ∀ i x hook, s'.live x ≠ none → s.Serves i x hook → s'.Serves i x hook) :
    s'.CallerOk c := by
  -- the object that the caller is about is not destroyed under it
  have hkeep : ∀ i x hook, c.object = some x → s.Serves i x hook → s'.Serves i x hook := by
    intro i x hook hx h
    refine hserves i x hook ?_ h
    rw [hlive x hx h.isLive]
    exact h.isLive
  cases c with
  | outside => exact hs
  | loadedVtable object index vtable =>
    obtain ⟨l, hl, hindex⟩ := hs
    exact ⟨l, (hlive object rfl (ne_none_of_eq_some hl)).trans hl, hindex⟩
  | replaced object index hook =>
    obtain ⟨hindex, i, hi⟩ := hs
    exact ⟨hindex, i, hkeep i object hook rfl hi⟩
  | searching object index hook n =>
    obtain ⟨hindex, i, hlt, hi⟩ := hs
    exact ⟨hindex, i, hlt, hkeep i object hook rfl hi⟩
  | found object index hook i => exact ⟨hs.1, hkeep i object hook rfl hs.2⟩
  | counted object index hook i => exact ⟨hs.1, hkeep i object hook rfl hs.2⟩
  -- from here on the caller uses what it has loaded, and not the records
  | loadedOriginals object index hook originals => exact hs
  | saved object index hook function => exact hs
  | failed object index hook failure => exact hs

/-- A settled record is the current one of its object, and is active. -/
theorem Settled.current {r : ShadowRecord} (h : s.Settled i x)
    (hr : s.shadow.records[i]? = some r) : s.Current i r ∧ r.object = x ∧ r.active = true := by
  obtain ⟨⟨r', hr', rfl, hactive⟩, hlive, -⟩ := h
  obtain rfl := Option.some.inj (hr.symm.trans hr')
  exact ⟨⟨hr, hlive⟩, rfl, hactive⟩

end PublicationState

section Persists

variable {record r : ShadowRecord} {e : Expansion} {hooks : List VtableHook}

/-- A private shadow stays as it is while nobody stores a replacement into it. -/
theorem PrivateShadow.persists (h : PrivateShadow code s record g l)
    (hlive : s'.live record.object = s.live record.object)
    (hserves : ∀ i x hook, s'.live x ≠ none → s.Serves i x hook → s'.Serves i x hook)
    (hread : ∀ k hook, k < g.entryCapacity →
      s'.shadow.memory.readPointer (slot g.vtable k) = code hook →
      s.shadow.memory.readPointer (slot g.vtable k) = code hook) :
    PrivateShadow code s' record g l where
  live := hlive.trans h.live
  active := h.active
  unpublished := h.unpublished
  count := h.count
  saved := h.saved
  entries := h.entries
  exposed k hk hook hvalue := by
    have hentries := h.entries
    -- an entry is served by an old record, or will be by the new one
    obtain ⟨hindex, ⟨i, hi⟩ | hrecord⟩ := h.exposed k hk hook (hread k hook (by omega) hvalue)
    · refine ⟨hindex, .inl ⟨i, hserves i _ hook ?_ hi⟩⟩
      rw [hlive]
      exact hi.isLive
    · exact ⟨hindex, .inr hrecord⟩

/-- An expansion goes on as long as its record is left alone and stays settled. -/
theorem Expanding.persists (h : Expanding code s e hooks r)
    (hrecord : s'.shadow.records[e.i]? = some r) (hsettled : s'.Settled e.i e.object) :
    Expanding code s' e hooks r :=
  { h with record := hrecord, settled := hsettled }

/-- What the installer relies on persists while others act. -/
theorem PublicationState.InstallerOk.persists {w : Installer} (hs : s.InstallerOk code w)
    (hlive : ∀ x, w.object = some x → s.live x ≠ none → s'.live x = s.live x)
    (hrecords : ∀ i r, s.Current i r → s'.shadow.records[i]? = some r)
    (hfind : ∀ x kind, s.shadow.findShadowRecord x kind = none →
      s'.shadow.findShadowRecord x kind = none)
    (hsettled : ∀ i x, s'.live x ≠ none → s.Settled i x → s'.Settled i x)
    (hserves : ∀ i x hook, s'.live x ≠ none → s.Serves i x hook → s'.Serves i x hook)
    (hread : ∀ g k hook, w.privateShadow = some g → k < g.entryCapacity →
      s'.shadow.memory.readPointer (slot g.vtable k) = code hook →
      s.shadow.memory.readPointer (slot g.vtable k) = code hook) :
    s'.InstallerOk code w := by
  -- nor is the one that the installer is about
  have hkeep : ∀ i x, w.object = some x → s.Settled i x → s'.Settled i x := by
    intro i x hx h
    refine hsettled i x ?_ h
    rw [hlive x hx h.isLive]
    exact h.isLive
  have hexpanding : ∀ {e hooks r}, w.object = some e.object → Expanding code s e hooks r →
      Expanding code s' e hooks r := by
    intro e hooks r hx h
    exact h.persists (hrecords _ _ (h.settled.current h.record).1) (hkeep _ _ hx h.settled)
  cases w with
  | idle => exact hs
  | publishing record generation =>
    obtain ⟨⟨l, hprivate⟩, hnone⟩ := hs
    -- the object that gets the shadow lives on
    have hsame := hlive _ rfl (PublicationState.ne_none_of_eq_some hprivate.live)
    exact ⟨⟨l, hprivate.persists hsame hserves fun k hook => hread _ k hook rfl⟩,
      hfind _ _ hnone⟩
  | exchanging i record generation =>
    obtain ⟨l, hprivate, hrecord, hborn⟩ := hs
    have hsame := hlive _ rfl (PublicationState.ne_none_of_eq_some hprivate.live)
    exact ⟨l, hprivate.persists hsame hserves fun k hook => hread _ k hook rfl,
      hrecords i record ⟨hrecord, l, hprivate.live, hborn⟩, hborn⟩
  | retiring i object =>
    obtain ⟨r, l, hr, rfl, hl, hborn⟩ := hs
    have hsame := hlive _ rfl (PublicationState.ne_none_of_eq_some hl)
    exact ⟨r, l, hrecords i r ⟨hr, l, hl, hborn⟩, rfl, hsame.trans hl, hborn⟩
  | publishingGeneration i object generation =>
    obtain ⟨r, hr, hi, hgens, hcount⟩ := hs
    exact ⟨r, hrecords i r (hi.current hr).1, hkeep i object rfl hi, hgens, hcount⟩
  | storingOriginals e hooks =>
    obtain ⟨r, originals, h, hrest⟩ := hs
    exact ⟨r, originals, hexpanding rfl h, hrest⟩
  | storingEntryCount e hooks =>
    obtain ⟨r, h, hrest⟩ := hs
    exact ⟨r, hexpanding rfl h, hrest⟩
  | loadingSlot e hooks =>
    obtain ⟨r, h, hrest⟩ := hs
    exact ⟨r, hexpanding rfl h, hrest⟩
  | storingSlot e hook hooks =>
    obtain ⟨r, h, hrest⟩ := hs
    exact ⟨r, hexpanding rfl h, hrest⟩

end Persists

/-! ### Callers -/

namespace PublicationState

/-- A caller moves on. -/
theorem Ordered.withCaller (hs : s.Ordered code) (caller : Nat) (c : Caller)
    (htable : ∀ x index v, c = .loadedVtable x index v → s.TableOf x v) (hc : s.CallerOk c) :
    ({ s with callers := Function.update s.callers caller c } : PublicationState).Ordered
      code := by
  have hlater : s.Later { s with callers := Function.update s.callers caller c } := by
    refine .of_continues (fun _ _ => id) (fun _ _ => rfl) ?_ (fun _ _ _ _ => id) ?_ ?_
    · -- a vtable that a caller has loaded: by this one, or by another one before
      intro caller' x index v _ hcaller
      dsimp only at hcaller
      rw [Function.update_apply] at hcaller
      split at hcaller
      · exact htable x index v hcaller
      · exact .inr (.inl ⟨caller', index, hcaller⟩)
    · exact fun i r hr _ _ hflight => ⟨hflight, r, hr.1, .refl r⟩
    · exact fun i r hr _ hflight => ⟨hflight, r, hr.1, .refl r⟩
  refine ⟨hs.unique, hs.born_le, hs.sized, hs.placed.later hlater fun _ _ => id,
    hs.exposed.later hlater fun _ _ _ _ _ _ _ _ => id, ?_, ?_⟩
  · intro caller'
    dsimp only
    -- the caller that moved, and the others
    rw [Function.update_apply]
    split
    · exact hc.persists (fun _ _ _ => rfl) hlater.serves
    · exact (hs.callers caller').persists (fun _ _ _ => rfl) hlater.serves
  · exact hs.installer.persists (fun _ _ _ => rfl) (fun _ _ hr => hr.1) (fun _ _ => id)
      (fun i x hne => (hlater.settled i x hne).mpr) hlater.serves fun _ _ _ _ _ => id

/-- The replacement that is found for an address is the one at that address. -/
theorem hookAt_eq_some {function : UInt64} (h : hookAt code function = some hook) :
    code hook = function := by
  simpa using List.find?_some h

/-- **A caller's load finds what it relies on.** -/
theorem CallerOk.load (hs : s.Ordered code) {c c' : Caller} (hc : s.CallerOk c)
    (htable : ∀ x index v, c = .loadedVtable x index v → s.TableOf x v)
    (h : c.load code s.shadow = some c') : s.CallerOk c' := by
  cases c with
  | outside => exact nomatch h
  | loadedVtable object index vtable =>
    obtain ⟨l, hl, hindex⟩ := hc
    obtain rfl := Option.some.inj h
    -- without a replacement of ours, the caller's business is none of the record's
    cases hhook : hookAt code (s.shadow.memory.readPointer (slot vtable index)) with
    | none => trivial
    | some hook =>
      -- a replacement in a table of a live object is exposed, so it is served
      exact hs.exposed object l vtable index hook hl (htable object index vtable rfl) hindex
        (hookAt_eq_some hhook).symm
  | replaced object index hook =>
    obtain ⟨hindex, i, hi⟩ := hc
    obtain rfl := Option.some.inj h
    obtain ⟨r, hr, -⟩ := hi.2
    exact ⟨hindex, i, (List.getElem?_eq_some_iff.mp hr).1, hi⟩
  | searching object index hook n =>
    obtain ⟨hindex, i, hlt, hi⟩ := hc
    cases n with
    -- the search does not run out of records before the serving one
    | zero => exact absurd hlt (Nat.not_lt_zero i)
    | succ n =>
      obtain rfl := Option.some.inj h
      obtain ⟨r, hr, hserves⟩ := hi.2
      obtain ⟨-, hobject, hactive⟩ := hi.1.current hr
      split
      · next hmatch =>
        -- the record that is found is the one that serves the replacement
        obtain ⟨r', hr', hfor⟩ := (Option.any_eq_true _ _).mp hmatch
        obtain ⟨hobject', hkind', hactive'⟩ := ShadowRecord.isActiveFor_iff.mp hfor
        obtain rfl := hs.unique n i r' r hr' hr hactive' hactive (hobject'.trans hobject.symm)
          (hkind'.trans hserves.kind.symm)
        exact ⟨hindex, hi⟩
      · next hother =>
        -- it is among the older ones, since it would have been found here
        refine ⟨hindex, i, ?_, hi⟩
        have hne : i ≠ n := by
          rintro rfl
          refine hother ?_
          rw [hr, Option.any_some]
          exact ShadowRecord.isActiveFor_iff.mpr ⟨hobject, hserves.kind, hactive⟩
        omega
  | found object index hook i =>
    obtain rfl := Option.some.inj h
    obtain ⟨hindex, hi⟩ := hc
    obtain ⟨r, hr, hserves⟩ := hi.2
    -- the entry is counted, so the comparison does not reject it
    simp only [hr, Nat.not_le.mpr hserves.index_lt, if_false]
    exact ⟨hindex, hi⟩
  | counted object index hook i =>
    obtain rfl := Option.some.inj h
    obtain ⟨hindex, hi⟩ := hc
    obtain ⟨r, hr, hserves⟩ := hi.2
    -- a record that serves a replacement has a table of originals with its entry
    obtain ⟨originals, horiginals, -, hfunction⟩ := hserves.saved
    simp only [hr, Option.bind_some, horiginals]
    exact ⟨hindex, hfunction⟩
  | loadedOriginals object index hook originals =>
    obtain rfl := Option.some.inj h
    obtain ⟨hindex, function, hfunction, hne⟩ := hc
    -- what is saved for the entry is not null
    simp only [hfunction, hne, if_false]
    exact ⟨hindex, hne⟩
  | saved object index hook function =>
    obtain rfl := Option.some.inj h
    trivial
  | failed object index hook failure => exact hc.elim

/-- No load is of a vtable pointer. -/
theorem load_ne_loadedVtable {c c' : Caller} (h : c.load code s.shadow = some c')
    (x : UInt64) (index : Nat) (v : UInt64) : c' ≠ .loadedVtable x index v := by
  -- only a call loads a vtable; each load leads to a later stage
  rintro rfl
  cases c with
  | outside => exact nomatch h
  | loadedVtable object index vtable =>
    have h := Option.some.inj h
    split at h <;> exact nomatch h
  | replaced object index hook => exact nomatch Option.some.inj h
  | searching object index hook n =>
    cases n with
    | zero => exact nomatch Option.some.inj h
    | succ n =>
      have h := Option.some.inj h
      split at h <;> exact nomatch h
  | found object index hook i =>
    have h := Option.some.inj h
    split at h
    · exact nomatch h
    · split at h <;> exact nomatch h
  | counted object index hook i =>
    have h := Option.some.inj h
    split at h <;> exact nomatch h
  | loadedOriginals object index hook originals =>
    have h := Option.some.inj h
    split at h
    · exact nomatch h
    · split at h <;> exact nomatch h
  | saved object index hook function => exact nomatch Option.some.inj h
  | failed object index hook failure => exact nomatch Option.some.inj h

end PublicationState

end Shadow
end WindowedHdr
