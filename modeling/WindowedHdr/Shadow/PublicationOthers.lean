import WindowedHdr.Shadow.PublicationOrder

/-!
# Publication order while others act

The records of objects that are gone are retired, objects come and go, and other modules write
to memory. Each of these keeps the invariant `PublicationState.Ordered`, at whatever point an
installation stands:

* a retired record was not settled (`Ordered.retire`);
* an object is created with a table that holds no replacement (`Ordered.create`), and destroyed
  when nobody uses it (`Ordered.destroy`);
* another module's pointer leads an object to a shadow of its own, or to a table that holds a
  replacement only where the object's table does (`Ordered.storePointer`), and what it stores
  elsewhere is no replacement that is not served there (`Ordered.storeValue`).
-/

namespace WindowedHdr
namespace Shadow

open ByteMemory Usize Windows

variable {code : HookFunction → UInt64} {s s' : PublicationState} {x : UInt64} {i : Nat}
  {g : ShadowGeneration} {hook : HookFunction} {l : LiveObject}

/-! ### Records -/

section UpdateRecord

variable {t : ShadowState} {f : ShadowRecord → ShadowRecord} {j : Nat} {r r' : ShadowRecord}

/-- The record at the index is updated. -/
theorem updateRecord_self (h : t.records[i]? = some r) :
    (t.updateRecord i f).records[i]? = some (f r) := by
  rw [ShadowState.updateRecord, List.getElem?_modify_eq, h]
  rfl

/-- Records at other indices stay as they are. -/
theorem updateRecord_ne (h : i ≠ j) : (t.updateRecord i f).records[j]? = t.records[j]? := by
  exact List.getElem?_modify_ne _ _ h

/-- A record was updated, or is at another index. -/
theorem exists_of_updateRecord (h : (t.updateRecord i f).records[j]? = some r') :
    ∃ r, t.records[j]? = some r ∧ (i = j ∧ r' = f r ∨ i ≠ j ∧ r' = r) := by
  by_cases hij : i = j
  · subst hij
    cases hr : t.records[i]? with
    | none =>
      rw [ShadowState.updateRecord, List.getElem?_modify_eq, hr] at h
      -- the index is outside, and nothing was updated
      exact absurd h.symm (Option.some_ne_none r')
    | some r =>
      rw [updateRecord_self hr] at h
      exact ⟨r, rfl, .inl ⟨rfl, (Option.some.inj h).symm⟩⟩
  · rw [updateRecord_ne hij] at h
    exact ⟨r', h, .inr ⟨hij, rfl⟩⟩

/-- No record is added or removed. -/
theorem length_updateRecord : (t.updateRecord i f).records.length = t.records.length :=
  List.length_modify _ _ _

/-- A record that is not revived stays the only active one. -/
theorem uniqueActive_updateRecord (h : t.UniqueActive)
    (hf : ∀ r, t.records[i]? = some r → (f r).object = r.object ∧ (f r).kind = r.kind ∧
      ((f r).active = true → r.active = true)) : (t.updateRecord i f).UniqueActive := by
  -- an updated record was active for the same object and kind before
  have hback : ∀ (j : Nat) (r' : ShadowRecord), (t.updateRecord i f).records[j]? = some r' →
      r'.active = true → ∃ r, t.records[j]? = some r ∧ r.active = true ∧
        r'.object = r.object ∧ r'.kind = r.kind := by
    intro j r' hr' hactive
    obtain ⟨r, hr, ⟨rfl, rfl⟩ | ⟨-, rfl⟩⟩ := exists_of_updateRecord hr'
    · obtain ⟨hobject, hkind, hback⟩ := hf r hr
      exact ⟨r, hr, hback hactive, hobject, hkind⟩
    · exact ⟨r', hr, hactive, rfl, rfl⟩
  intro a b r₁ r₂ hr₁ hr₂ hactive₁ hactive₂ hobject hkind
  obtain ⟨q₁, hq₁, hactive₁', hobject₁, hkind₁⟩ := hback a r₁ hr₁ hactive₁
  obtain ⟨q₂, hq₂, hactive₂', hobject₂, hkind₂⟩ := hback b r₂ hr₂ hactive₂
  exact h a b q₁ q₂ hq₁ hq₂ hactive₁' hactive₂' (by rw [← hobject₁, hobject, hobject₂])
    (by rw [← hkind₁, hkind, hkind₂])

/-- Where no record was found, none is found after an update that revives none. -/
theorem findShadowRecord_updateRecord_none {kind : ShadowKind}
    (h : t.findShadowRecord x kind = none)
    (hf : ∀ r, t.records[i]? = some r → (f r).object = r.object ∧ (f r).kind = r.kind ∧
      ((f r).active = true → r.active = true)) :
    (t.updateRecord i f).findShadowRecord x kind = none := by
  rw [ShadowState.findShadowRecord_eq_none] at h ⊢
  intro j r' hr' hobject hkind
  obtain ⟨r, hr, ⟨rfl, rfl⟩ | ⟨-, rfl⟩⟩ := exists_of_updateRecord hr'
  -- if the update left it active, it was active before
  · obtain ⟨hobject', hkind', hback⟩ := hf r hr
    have hfalse := h _ r hr (hobject'.symm.trans hobject) (hkind'.symm.trans hkind)
    by_contra hactive
    rw [hback (eq_true_of_ne_false hactive)] at hfalse
    exact nomatch hfalse
  · exact h j r' hr hobject hkind

end UpdateRecord

namespace PublicationState

/-- The record at index `i` is updated, and the installer goes on to `w`. -/
def withRecord (s : PublicationState) (i : Nat) (f : ShadowRecord → ShadowRecord)
    (w : Installer) : PublicationState :=
  { s with shadow := s.shadow.updateRecord i f, installer := w }

section WithRecord

variable {f : ShadowRecord → ShadowRecord} {w : Installer}

/-- Everything that is settled or served in `s` is so when the record goes on to serve. -/
theorem later_withRecord (hf : ∀ r, s.shadow.records[i]? = some r → r.Continues (f r))
    (hflight : w.inFlight = s.installer.inFlight)
    (hshadow : ∀ j g, (s.withRecord i f w).IsShadow j g → s.IsShadow j g) :
    s.Later (s.withRecord i f w) := by
  refine .of_continues (fun _ _ => id) (fun _ _ => rfl)
    (fun caller x index v _ hcaller => .inr (.inl ⟨caller, index, hcaller⟩))
    (fun j g _ _ => hshadow j g) ?_ ?_
  -- the old records, and then the new ones: the one at the index continues
  · intro j r hr _ _ hnot
    refine ⟨hflight ▸ hnot, ?_⟩
    by_cases hij : i = j
    · subst hij
      exact ⟨f r, updateRecord_self hr.1, hf r hr.1⟩
    · exact ⟨r, (updateRecord_ne hij).trans hr.1, .refl r⟩
  · intro j r' hr' _ hnot
    refine ⟨hflight ▸ hnot, ?_⟩
    obtain ⟨r, hr, ⟨rfl, rfl⟩ | ⟨-, rfl⟩⟩ := exists_of_updateRecord hr'.1
    · exact ⟨r, hr, hf r hr⟩
    · exact ⟨r', hr, .refl r'⟩

/-- A record that is not settled can be retired. -/
theorem later_retire (hnot : ∀ x, ¬ s.Settled i x)
    (hflight : ∀ j, i ≠ j → (w.inFlight = some j ↔ s.installer.inFlight = some j))
    (hshadow : ∀ j g, (s.withRecord i ShadowRecord.retire w).IsShadow j g → s.IsShadow j g) :
    s.Later (s.withRecord i ShadowRecord.retire w) := by
  refine .of_continues (fun _ _ => id) (fun _ _ => rfl)
    (fun caller x index v _ hcaller => .inr (.inl ⟨caller, index, hcaller⟩))
    (fun j g _ _ => hshadow j g) ?_ ?_
  · intro j r hr _ hactive hj
    -- an active record of a live object is settled, so it is another one
    have hij : i ≠ j := by
      rintro rfl
      exact hnot r.object ⟨⟨r, hr.1, rfl, hactive⟩, hr.2, hj⟩
    exact ⟨fun h => hj ((hflight j hij).mp h), r, (updateRecord_ne hij).trans hr.1, .refl r⟩
  · intro j r' hr' hactive hj
    obtain ⟨r, hr, ⟨rfl, rfl⟩ | ⟨hij, rfl⟩⟩ := exists_of_updateRecord hr'.1
    -- the retired record is not active, so nothing is required of it
    · exact nomatch hactive
    · exact ⟨fun h => hj ((hflight j hij).mpr h), r', hr, .refl r'⟩

/-- No new shadow appears when a record keeps its generations, or publishes a shadow that it
has. -/
theorem isShadow_withRecord
    (hf : ∀ r, s.shadow.records[i]? = some r → ∀ g ∈ (f r).generations, s.IsShadow i g)
    (hw : ∀ j g, w.shadow s.shadow.records.length = some (j, g) → s.IsShadow j g)
    {j : Nat} (h : (s.withRecord i f w).IsShadow j g) : s.IsShadow j g := by
  obtain ⟨r', hr', g', hg', hsame⟩ | ⟨g', h, hsame⟩ := h
  · obtain ⟨r, hr, ⟨rfl, rfl⟩ | ⟨-, rfl⟩⟩ := exists_of_updateRecord hr'
    · exact (hf r hr g' hg').sameTable hsame
    · exact .inl ⟨r', hr, g', hg', hsame⟩
  -- the shadow of the installer, whose record is published at the same index
  · simp only [withRecord, length_updateRecord] at h
    exact (hw j g' h).sameTable hsame

end WithRecord

/-- A record that is not settled is retired. -/
theorem Ordered.retireRecord {w : Installer} (hs : s.Ordered code)
    (hnot : ∀ x, ¬ s.Settled i x)
    (hflight : ∀ j, i ≠ j → (w.inFlight = some j ↔ s.installer.inFlight = some j))
    (hshadow : ∀ j g, w.shadow s.shadow.records.length = some (j, g) → s.IsShadow j g)
    (hresizing : w.resizing = s.installer.resizing)
    (hok : s.Later (s.withRecord i ShadowRecord.retire w) →
      (s.withRecord i ShadowRecord.retire w).InstallerOk code w) :
    (s.withRecord i ShadowRecord.retire w).Ordered code := by
  -- a retired record keeps its generations
  have hback : ∀ j g, (s.withRecord i ShadowRecord.retire w).IsShadow j g → s.IsShadow j g :=
    fun j g h => isShadow_withRecord (f := ShadowRecord.retire) (fun r hr g hg => .of_mem hr hg)
      hshadow h
  have hlater := later_retire hnot hflight hback
  refine ⟨uniqueActive_updateRecord hs.unique fun _ _ => ⟨rfl, rfl, fun h => nomatch h⟩, ?_, ?_,
    hs.placed.later hlater hback, hs.exposed.later hlater fun _ _ _ _ _ _ _ _ => id,
    fun caller => (hs.callers caller).persists (fun _ _ _ => rfl) hlater.serves, hok hlater⟩
  · intro x l hl
    exact Nat.le_trans (hs.born_le x l hl) (Nat.le_of_eq length_updateRecord.symm)
  · intro j r' hr' hnot
    obtain ⟨r, hr, ⟨rfl, rfl⟩ | ⟨-, rfl⟩⟩ := exists_of_updateRecord hr'
    · have hsized := hs.sized _ r hr (hresizing ▸ hnot)
      exact ⟨hsized.saved, hsized.oneTable, hsized.newest⟩
    · exact hs.sized j r' hr (hresizing ▸ hnot)

/-- The record of an object that is gone is retired. -/
theorem Ordered.retire (hs : s.Ordered code)
    (hgone : ∀ r l, s.shadow.records[i]? = some r → s.live r.object = some l → i < l.born) :
    (s.withRecord i ShadowRecord.retire s.installer).Ordered code := by
  -- the object at this address is a later one
  have hnot : ∀ r, ¬ s.Current i r := by
    rintro r ⟨hr, l, hl, hborn⟩
    exact absurd (hgone r l hr hl) (Nat.not_lt.mpr hborn)
  refine hs.retireRecord ?_ (fun _ _ => .rfl) (fun j g h => .of_installer h) rfl fun hlater => ?_
  · intro x h
    obtain ⟨r, hr, -⟩ := h.record
    exact hnot r (h.current hr).1
  · refine hs.installer.persists (fun _ _ _ => rfl) ?_ ?_
      (fun i x hne => (hlater.settled i x hne).mpr) hlater.serves fun _ _ _ _ _ => id
    · intro j r hr
      refine (updateRecord_ne ?_).trans hr.1
      rintro rfl
      exact hnot r hr
    · exact fun x kind hnone =>
        findShadowRecord_updateRecord_none hnone fun _ _ => ⟨rfl, rfl, fun h => nomatch h⟩

end PublicationState

/-! ### Objects -/

namespace PublicationState

/-- The object at `x` comes to life, or is gone. -/
def withLive (s : PublicationState) (x : UInt64) (l : Option LiveObject) : PublicationState :=
  { s with live := Function.update s.live x l }

/-- An object that nobody uses is destroyed. -/
theorem Ordered.destroy (hs : s.Ordered code) (hinstaller : s.installer.object ≠ some x)
    (hcallers : ∀ caller, (s.callers caller).object ≠ some x) :
    (s.withLive x none).Ordered code := by
  have hlive : ∀ y l, Function.update s.live x none y = some l → s.live y = some l := by
    intro y l hl
    rw [Function.update_apply] at hl
    split at hl
    · exact nomatch hl
    · exact hl
  have hother : ∀ y, y ≠ x → Function.update s.live x none y = s.live y :=
    fun y hy => Function.update_of_ne hy _ _
  -- fewer objects live, and nothing else is different
  have hlater : s.Later (s.withLive x none) := by
    refine .of_continues hlive (fun _ _ => rfl)
      (fun caller y index v _ hcaller => .inr (.inl ⟨caller, index, hcaller⟩))
      (fun _ _ _ _ => id) (fun i r hr _ _ hflight => ⟨hflight, r, hr.1, .refl r⟩)
      (fun i r hr _ hflight => ⟨hflight, r, hr.1, .refl r⟩)
  -- neither a caller nor the installer is at work on the object
  refine ⟨hs.unique, fun y l hl => hs.born_le y l (hlive y l hl), hs.sized,
    hs.placed.later hlater fun _ _ => id, hs.exposed.later hlater fun _ _ _ _ _ _ _ _ => id,
    ?_, ?_⟩
  · intro caller
    refine (hs.callers caller).persists (fun y hy _ => hother y ?_) hlater.serves
    rintro rfl
    exact hcallers caller hy
  · refine hs.installer.persists (fun y hy _ => hother y ?_) (fun _ _ hr => hr.1)
      (fun _ _ => id) (fun i y hne => (hlater.settled i y hne).mpr) hlater.serves
      fun _ _ _ _ _ => id
    rintro rfl
    exact hinstaller hy

/-! An object that is created is born after all records, so that none of them is its own, and
nobody knows a table of it but the one that it points at. -/

section Create

variable {new : LiveObject}

/-- The new object lives. -/
theorem live_withLive_self : (s.withLive x (some new)).live x = some new :=
  Function.update_self ..

/-- Other objects live as before. -/
theorem live_withLive_of_ne {y : UInt64} (hy : y ≠ x) :
    (s.withLive x (some new)).live y = s.live y :=
  Function.update_of_ne hy ..

/-- A live object is the new one, or was there before. -/
theorem live_withLive_cases {y : UInt64} (hl : (s.withLive x (some new)).live y = some l) :
    (y = x ∧ l = new) ∨ (y ≠ x ∧ s.live y = some l) := by
  by_cases hy : y = x
  · subst hy
    rw [live_withLive_self] at hl
    exact .inl ⟨rfl, (Option.some.inj hl).symm⟩
  · rw [live_withLive_of_ne hy] at hl
    exact .inr ⟨hy, hl⟩

/-- Where nothing lived and the new object is not, nothing lives. -/
theorem live_withLive_none {y : UInt64} (hy : y ≠ x) (hnone : s.live y = none) :
    (s.withLive x (some new)).live y = none :=
  (live_withLive_of_ne hy).trans hnone

/-- The same records are settled: no record is that of the new object. -/
theorem settled_withLive (hx : s.live x = none) (hborn : s.shadow.records.length ≤ new.born)
    {y : UInt64} : (s.withLive x (some new)).Settled i y ↔ s.Settled i y := by
  constructor
  · rintro ⟨⟨r, hr, hobject, hactive⟩, ⟨l, hl, hle⟩, hflight⟩
    obtain ⟨rfl, rfl⟩ | ⟨-, hl⟩ := live_withLive_cases hl
    · have hi : i < s.shadow.records.length := (List.getElem?_eq_some_iff.mp hr).1
      -- the object was born after the record was published
      exact absurd (Nat.lt_of_lt_of_le hi hborn) (Nat.not_lt.mpr hle)
    · exact ⟨⟨r, hr, hobject, hactive⟩, ⟨l, hl, hle⟩, hflight⟩
  · rintro ⟨hrecord, ⟨l, hl, hle⟩, hflight⟩
    refine ⟨hrecord, ⟨l, (live_withLive_of_ne ?_).trans hl, hle⟩, hflight⟩
    rintro rfl
    exact Option.some_ne_none l (hl.symm.trans hx)

/-- What was served is served after the creation. -/
theorem serves_withLive (hx : s.live x = none) (hborn : s.shadow.records.length ≤ new.born)
    {y : UInt64} (h : s.Serves i y hook) : (s.withLive x (some new)).Serves i y hook :=
  ⟨(settled_withLive hx hborn).mpr h.1, h.2⟩

/-- A table is the one that the new object points at, or was that of an object before. -/
theorem Ordered.tableOf_withLive (hs : s.Ordered code) (hx : s.live x = none)
    (hborn : s.shadow.records.length ≤ new.born) {y v : UInt64}
    (hl : (s.withLive x (some new)).live y = some l) (hv : (s.withLive x (some new)).TableOf y v) :
    (y = x ∧ l = new ∧ s.shadow.memory.readPointer x = v) ∨
      (s.live y = some l ∧ s.TableOf y v) := by
  have hold : s.shadow.memory.readPointer y = v ∨ s.TableOf y v ∧ s.live y ≠ none := by
    obtain hpoints | ⟨caller, index, hcaller⟩ | ⟨i, g, hg, hi, rfl⟩ := hv
    · exact .inl hpoints
    · -- a caller that has loaded the table of an object keeps the object alive
      have hc := hs.callers caller
      have hcaller' : s.callers caller = .loadedVtable y index v := hcaller
      rw [hcaller'] at hc
      obtain ⟨l, hl, -⟩ := hc
      exact .inr ⟨.inr (.inl ⟨caller, index, hcaller⟩), hl ▸ Option.some_ne_none l⟩
    · have hi := (settled_withLive hx hborn).mp hi
      exact .inr ⟨.inr (.inr ⟨i, g, hg, hi, rfl⟩), hi.isLive⟩
  obtain ⟨rfl, rfl⟩ | ⟨-, hl⟩ := live_withLive_cases hl
  · obtain hpoints | ⟨-, hlive⟩ := hold
    · exact .inl ⟨rfl, rfl, hpoints⟩
    · exact absurd hx hlive
  · obtain hpoints | ⟨hv, -⟩ := hold
    · exact .inr ⟨hl, .inl hpoints⟩
    · exact .inr ⟨hl, hv⟩

end Create

/-- The new object and its table lie apart from everything in use. -/
theorem Ordered.placed_create (hs : s.Ordered code) (hx : s.live x = none) {entries : Nat}
    (hsafe : SafeCreate code s x entries) :
    (s.withLive x (some ⟨s.shadow.records.length, entries⟩)).Placed where
  object_aligned y hy := by
    by_cases heq : y = x
    · rw [heq]
      exact hsafe.aligned
    · rw [live_withLive_of_ne heq] at hy
      exact hs.placed.object_aligned y hy
  entries_lt y l hl := by
    obtain ⟨-, rfl⟩ | ⟨-, hl⟩ := live_withLive_cases hl
    · exact hsafe.entries_lt
    · exact hs.placed.entries_lt y l hl
  table_aligned y v hy hv := by
    obtain ⟨l, hl⟩ := Option.ne_none_iff_exists'.mp hy
    obtain ⟨-, -, rfl⟩ | ⟨hl, hv⟩ := hs.tableOf_withLive hx (Nat.le_refl _) hl hv
    · exact hsafe.table_aligned
    · exact hs.placed.table_aligned y v (ne_none_of_eq_some hl) hv
  table_object y l v k hl hv hk := by
    obtain ⟨-, rfl, rfl⟩ | ⟨hl, hv⟩ := hs.tableOf_withLive hx (Nat.le_refl _) hl hv
    · obtain ⟨hne, houtside, -⟩ := hsafe.table k hk
      exact live_withLive_none hne houtside.notObject
    · exact live_withLive_none (hsafe.notTable y l v k hl hv hk)
        (hs.placed.table_object y l v k hl hv hk)
  -- where the shadows lie does not change
  shadow_aligned := hs.placed.shadow_aligned
  shadow_object i g k hg hk :=
    live_withLive_none (hsafe.outside.notShadow i g k hg hk) (hs.placed.shadow_object i g k hg hk)
  shadow_table i g k y l v k' hg hk hl hv hk' heq := by
    obtain ⟨-, rfl, rfl⟩ | ⟨hl, hv⟩ := hs.tableOf_withLive hx (Nat.le_refl _) hl hv
    · obtain ⟨-, houtside, -⟩ := hsafe.table k' hk'
      exact absurd heq (houtside.notShadow i g k hg hk)
    · obtain ⟨hi, hvtable⟩ := hs.placed.shadow_table i g k y l v k' hg hk hl hv hk' heq
      exact ⟨(settled_withLive hx (Nat.le_refl _)).mpr hi, hvtable⟩
  shadow_shadow := hs.placed.shadow_shadow
  one_shadow := hs.placed.one_shadow
  shadow_entries i g y l hg hi hl := by
    have hsettled := (settled_withLive hx (Nat.le_refl _)).mp hi
    obtain ⟨rfl, -⟩ | ⟨-, hl⟩ := live_withLive_cases hl
    · exact absurd hx hsettled.isLive
    · exact hs.placed.shadow_entries i g y l hg hsettled hl

/-- An object is created. -/
theorem Ordered.create (hs : s.Ordered code) (hx : s.live x = none) {entries : Nat}
    (hsafe : SafeCreate code s x entries) :
    (s.withLive x (some ⟨s.shadow.records.length, entries⟩)).Ordered code where
  unique := hs.unique
  born_le y l hl := by
    obtain ⟨-, rfl⟩ | ⟨-, hl⟩ := live_withLive_cases hl
    · exact Nat.le_refl _
    · exact hs.born_le y l hl
  sized := hs.sized
  placed := hs.placed_create hx hsafe
  exposed y l v k hook hl hv hk hvalue := by
    obtain ⟨-, rfl, rfl⟩ | ⟨hl, hv⟩ := hs.tableOf_withLive hx (Nat.le_refl _) hl hv
    -- the new object's table holds none of our replacements
    · exact absurd hvalue ((hsafe.table k hk).2.2 hook)
    · obtain ⟨hindex, i, hi⟩ := hs.exposed y l v k hook hl hv hk hvalue
      exact ⟨hindex, i, serves_withLive hx (Nat.le_refl _) hi⟩
  callers caller := by
    refine (hs.callers caller).persists (fun y _ hy => live_withLive_of_ne ?_)
      fun i y hook _ => serves_withLive hx (Nat.le_refl _)
    rintro rfl
    exact hy hx
  installer := by
    refine hs.installer.persists (fun y _ hy => live_withLive_of_ne ?_) (fun _ _ hr => hr.1)
      (fun _ _ => id) (fun i y _ => (settled_withLive hx (Nat.le_refl _)).mpr)
      (fun i y hook _ => serves_withLive hx (Nat.le_refl _)) fun _ _ _ _ _ => id
    rintro rfl
    exact hy hx

end PublicationState

/-! ### Memory -/

namespace PublicationState

/-- The memory becomes `memory`. -/
def withMemory (s : PublicationState) (memory : ByteMemory) : PublicationState :=
  { s with shadow := { s.shadow with memory := memory } }

variable {memory : ByteMemory} {a v : UInt64}

/-- Memory does not decide which records are settled. -/
theorem settled_withMemory : (s.withMemory memory).Settled i x ↔ s.Settled i x :=
  ⟨fun h => ⟨h.record, h.live, h.notInFlight⟩, fun h => ⟨h.record, h.live, h.notInFlight⟩⟩

/-- Memory does not decide which replacements are served. -/
theorem serves_withMemory : (s.withMemory memory).Serves i x hook ↔ s.Serves i x hook :=
  and_congr settled_withMemory .rfl

/-- Memory does not decide which tables are shadows of an object. -/
theorem ownShadow_withMemory (h : (s.withMemory memory).OwnShadow x v) : s.OwnShadow x v := by
  obtain ⟨i, g, hg, hi, rfl⟩ := h
  exact ⟨i, g, hg, settled_withMemory.mp hi, rfl⟩

/-- A change of memory that leaves the objects' vtable pointers alone leaves everything behind. -/
theorem later_withMemory (hpointer : ∀ x, s.live x ≠ none →
    memory.readPointer x = s.shadow.memory.readPointer x) : s.Later (s.withMemory memory) :=
  .of_continues (fun _ _ => id) hpointer
    (fun caller _ index _ _ hcaller => .inr (.inl ⟨caller, index, hcaller⟩)) (fun _ _ _ _ => id)
    (fun _ r hr _ _ hflight => ⟨hflight, r, hr.1, .refl r⟩)
    (fun _ r hr _ hflight => ⟨hflight, r, hr.1, .refl r⟩)

/-- A private shadow is not that of a settled record. -/
theorem exists_of_privateShadow (h : s.installer.privateShadow = some g) :
    ∃ i, s.IsShadow i g ∧ ∀ x, ¬ s.Settled i x := by
  cases hw : s.installer with
  | publishing record generation =>
    rw [hw] at h
    obtain rfl := Option.some.inj h
    exact ⟨s.shadow.records.length, .of_installer (by rw [hw]; rfl), not_settled_length⟩
  | exchanging i record generation =>
    rw [hw] at h
    obtain rfl := Option.some.inj h
    refine ⟨i, .of_installer (by rw [hw]; rfl), fun x hx => hx.notInFlight ?_⟩
    rw [hw]
    rfl
  | _ =>
    rw [hw] at h
    exact nomatch h

/-- A change of memory that leaves the objects alone, and exposes what it should. -/
theorem Ordered.withMemory (hs : s.Ordered code)
    (hpointer : ∀ x, s.live x ≠ none →
      memory.readPointer x = s.shadow.memory.readPointer x)
    (hexposed : (s.withMemory memory).Exposed code)
    (hread : ∀ g k hook, s.installer.privateShadow = some g → k < g.entryCapacity →
      memory.readPointer (slot g.vtable k) = code hook →
      s.shadow.memory.readPointer (slot g.vtable k) = code hook) :
    (s.withMemory memory).Ordered code := by
  have hlater := later_withMemory hpointer
  exact ⟨hs.unique, hs.born_le, hs.sized, hs.placed.later hlater fun _ _ => id, hexposed,
    fun caller => (hs.callers caller).persists (fun _ _ _ => rfl) hlater.serves,
    hs.installer.persists (fun _ _ _ => rfl) (fun _ _ hr => hr.1) (fun _ _ => id)
      (fun i x hne => (hlater.settled i x hne).mpr) hlater.serves hread⟩

/-- A store elsewhere than into an object, of a value that may be stored there. -/
theorem Ordered.storeValue (hs : s.Ordered code) (ha : Aligned a) (hlive : s.live a = none)
    (hvalue : SafeValue code s a v) :
    (s.withMemory (s.shadow.memory.writePointer a v)).Ordered code := by
  have hpointer : ∀ x, s.live x ≠ none → (s.shadow.memory.writePointer a v).readPointer x =
      s.shadow.memory.readPointer x := by
    intro x hx
    rw [readPointer_writePointer_of_aligned _ ha (hs.placed.object_aligned x hx), if_neg]
    -- the store is not into an object, so every object keeps its table
    rintro rfl
    exact hx hlive
  have hlater := later_withMemory hpointer
  -- in the tables of live objects, and in a private shadow
  refine hs.withMemory hpointer ?_ ?_
  · intro x l w k hook hl hw hk hread
    have hne := ne_none_of_eq_some hl
    have hw' := hlater.table x w hne hw
    have hlt := hs.placed.entries_lt x l hl
    change (s.shadow.memory.writePointer a v).readPointer (slot w k) = code hook at hread
    rw [readPointer_writePointer_of_aligned _ ha ((hs.placed.table_aligned x w hne hw').slot k)]
      at hread
    split at hread
    · next heq =>
      -- the slot is that of a shadow of this object, which serves what is stored
      obtain ⟨i, g, y, hg, hserves, hindex, rfl⟩ := hvalue hook hread
      obtain ⟨hi, rfl⟩ := hs.placed.shadow_table i g hook.index x l w k hg hindex hl hw' hk heq
      obtain ⟨-, hcapacity⟩ := hs.placed.shadow_aligned i g hg
      obtain ⟨hsettled, r, hr, hrserves⟩ := hserves
      obtain rfl : x = y := (hi.current hr).2.1.symm.trans (hsettled.current hr).2.1
      exact ⟨slot_inj (by omega) (by omega) heq, i,
        serves_withMemory.mpr ⟨hsettled, r, hr, hrserves⟩⟩
    · obtain ⟨hindex, i, hi⟩ := hs.exposed x l w k hook hl hw' hk hread
      exact ⟨hindex, i, serves_withMemory.mpr hi⟩
  · intro g k hook hprivate hk hread
    obtain ⟨i, hg, hnot⟩ := exists_of_privateShadow hprivate
    rw [readPointer_writePointer_of_aligned _ ha ((hs.placed.shadow_aligned i g hg).1.slot k)]
      at hread
    split at hread
    · next heq =>
      -- nothing that is served is stored into a private shadow
      obtain ⟨i', g', y, hg', hserves, hindex, rfl⟩ := hvalue hook hread
      obtain rfl := hs.placed.shadow_shadow i' g' hook.index i g k hg' hindex hg hk heq
      exact absurd hserves.1 (hnot y)
    · exact hread

/-! Another module points an object at another table, which is the object's own shadow, or lies
apart from all objects and shadows. -/

section StorePointer

variable (hs : s.Ordered code) (hl : s.live x = some l)

include hs hl

/-- Slots are no objects, so all of them stay as they are. -/
theorem readPointer_storePointer {b : UInt64} (hb : Aligned b) (hnone : s.live b = none) :
    (s.shadow.memory.writePointer x v).readPointer b = s.shadow.memory.readPointer b := by
  have hx := hs.placed.object_aligned x (ne_none_of_eq_some hl)
  rw [readPointer_writePointer_of_aligned _ hx hb, if_neg]
  rintro rfl
  exact nomatch hl.symm.trans hnone

/-- The object's new table is its own shadow, or one of the other module. -/
theorem tableOf_storePointer (hsafe : SafePointer code s x l v) {y w : UInt64}
    {l' : LiveObject} (hl' : s.live y = some l')
    (hw : (s.withMemory (s.shadow.memory.writePointer x v)).TableOf y w) :
    s.TableOf y w ∨ l' = l ∧ Aligned w ∧ ∀ k < l.entries, s.Outside (slot w k) ∧
      ∀ hook, s.shadow.memory.readPointer (slot w k) = code hook →
        s.shadow.memory.readPointer (slot (s.shadow.memory.readPointer y) k) = code hook := by
  have hx := hs.placed.object_aligned x (ne_none_of_eq_some hl)
  have hy := hs.placed.object_aligned y (ne_none_of_eq_some hl')
  obtain hpoints | hcaller | hown := hw
  · change (s.shadow.memory.writePointer x v).readPointer y = w at hpoints
    rw [readPointer_writePointer_of_aligned _ hx hy] at hpoints
    split at hpoints
    · next heq =>
      -- the object itself, at its new table
      subst heq hpoints
      obtain hown | houtside := hsafe
      · exact .inl (.inr (.inr hown))
      · exact .inr ⟨Option.some.inj (hl'.symm.trans hl), houtside⟩
    · exact .inl (.inl hpoints)
  · exact .inl (.inr (.inl hcaller))
  · exact .inl (.inr (.inr (ownShadow_withMemory hown)))

/-- The other module's table lies apart from the objects and the shadows. -/
theorem placed_storePointer (hsafe : SafePointer code s x l v) :
    (s.withMemory (s.shadow.memory.writePointer x v)).Placed where
  object_aligned := hs.placed.object_aligned
  entries_lt := hs.placed.entries_lt
  table_aligned y w hy hw := by
    obtain ⟨l', hl'⟩ := Option.ne_none_iff_exists'.mp hy
    obtain hw | ⟨-, haligned, -⟩ := tableOf_storePointer hs hl hsafe hl' hw
    · exact hs.placed.table_aligned y w hy hw
    · exact haligned
  table_object y l' w k hl' hw hk := by
    obtain hw | ⟨rfl, -, houtside⟩ := tableOf_storePointer hs hl hsafe hl' hw
    · exact hs.placed.table_object y l' w k hl' hw hk
    · exact (houtside k hk).1.notObject
  shadow_aligned := hs.placed.shadow_aligned
  shadow_object := hs.placed.shadow_object
  shadow_table i g k y l' w k' hg hk hl' hw hk' heq := by
    obtain hw | ⟨rfl, -, houtside⟩ := tableOf_storePointer hs hl hsafe hl' hw
    · obtain ⟨hi, hvtable⟩ := hs.placed.shadow_table i g k y l' w k' hg hk hl' hw hk' heq
      exact ⟨settled_withMemory.mpr hi, hvtable⟩
    · exact absurd heq ((houtside k' hk').1.notShadow i g k hg hk)
  shadow_shadow := hs.placed.shadow_shadow
  one_shadow := hs.placed.one_shadow
  shadow_entries i g y l' hg hi hl' :=
    hs.placed.shadow_entries i g y l' hg (settled_withMemory.mp hi) hl'

/-- Another module points an object at another table. -/
theorem Ordered.storePointer (hsafe : SafePointer code s x l v) :
    (s.withMemory (s.shadow.memory.writePointer x v)).Ordered code where
  unique := hs.unique
  born_le := hs.born_le
  sized := hs.sized
  placed := placed_storePointer hs hl hsafe
  exposed y l' w k hook hl' hw hk hvalue := by
    change (s.shadow.memory.writePointer x v).readPointer (slot w k) = code hook at hvalue
    obtain hw | ⟨rfl, haligned, houtside⟩ := tableOf_storePointer hs hl hsafe hl' hw
    · have haligned := hs.placed.table_aligned y w (ne_none_of_eq_some hl') hw
      rw [readPointer_storePointer hs hl (haligned.slot k)
        (hs.placed.table_object y l' w k hl' hw hk)] at hvalue
      obtain ⟨hindex, i, hi⟩ := hs.exposed y l' w k hook hl' hw hk hvalue
      exact ⟨hindex, i, serves_withMemory.mpr hi⟩
    · -- what the other table holds, the object's table held
      rw [readPointer_storePointer hs hl (haligned.slot k) (houtside k hk).1.notObject] at hvalue
      obtain ⟨hindex, i, hi⟩ := hs.exposed y l' _ k hook hl' (.inl rfl) hk
        ((houtside k hk).2 hook hvalue)
      exact ⟨hindex, i, serves_withMemory.mpr hi⟩
  callers caller := (hs.callers caller).persists (fun _ _ _ => rfl)
    fun _ _ _ _ => serves_withMemory.mpr
  installer := by
    refine hs.installer.persists (fun _ _ _ => rfl) (fun _ _ hr => hr.1) (fun _ _ => id)
      (fun _ _ _ => settled_withMemory.mpr) (fun _ _ _ _ => serves_withMemory.mpr) ?_
    -- a private shadow is not an object either, and holds what it held
    intro g k hook hprivate hk hvalue
    obtain ⟨i, hg, -⟩ := exists_of_privateShadow hprivate
    change (s.shadow.memory.writePointer x v).readPointer (slot g.vtable k) = code hook at hvalue
    rw [readPointer_storePointer hs hl ((hs.placed.shadow_aligned i g hg).1.slot k)
      (hs.placed.shadow_object i g k hg hk)] at hvalue
    exact hvalue

end StorePointer

end PublicationState

end Shadow
end WindowedHdr
