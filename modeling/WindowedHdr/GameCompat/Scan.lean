import WindowedHdr.GameCompat.LoadedImage
import WindowedHdr.GameCompat.Signature
import WindowedHdr.Library.Scan

/-!
# Scans of the executable sections

The resolver runs three loops over the executable sections. Each visits every window of a
fixed width, section by section and byte by byte, and records what it finds:
`find_signature` the places that match a signature, `find_direct_calls_to` the relative calls
that end at an address, and the search for the menu-gate vtable the `LEA` instructions that
name a table.

A position is a section together with an offset into it, so two sections that overlap have two
positions for one address. `enumerates_executableWindows` says that a scan meets each position
with a full window once, and the results of the scans follow: the recorded addresses enumerate
the positions that match (`findSignature_enumerates`) or call (`findDirectCallsTo_enumerates`).

The windows of all executable sections are listed once, in the order of the scan, and each scan
is a filter of this list; so there is one proof that every position is met, and one short proof
for what is recorded there.
-/

namespace WindowedHdr
namespace GameCompat

/-! ### Relative targets -/

/-- `relative_target`: the address that a displacement names, if it is one. -/
def relativeTarget (nextInstructionRva : Nat) (displacement : Int) : Option Nat :=
  let result : Int := nextInstructionRva + displacement
  if 0 ≤ result ∧ result < Usize.size then some result.toNat else none

/-- A target is the exact sum, if that is a machine word. -/
theorem relativeTarget_eq_some {next target : Nat} {displacement : Int} :
    relativeTarget next displacement = some target ↔
      (target : Int) = next + displacement ∧ target < Usize.size := by
  unfold relativeTarget
  dsimp only
  split
  · rw [Option.some.injEq]
    omega
  · refine iff_of_false (fun h => nomatch h) ?_
    rintro ⟨heq, hlt⟩
    omega

namespace LoadedImage

variable (process : Process) (image : LoadedImage)

/-! ### Positions -/

/-- A section, by its index, and an offset into it. -/
abbrev Position : Type := Fin image.sections.length × Nat

/-- The section of a position. -/
def sectionOf (p : image.Position) : Section := image.sections.get p.1

/-- The address of a position. -/
def rvaOf (p : image.Position) : Nat := (image.sectionOf p).rva + p.2

/-- The section of the position is executable, and has `width` bytes from there on. -/
def HasCode (width : Nat) (p : image.Position) : Prop :=
  (image.sectionOf p).isExecutable = true ∧ p.2 + width ≤ (image.sectionOf p).size

instance (width : Nat) (p : image.Position) : Decidable (image.HasCode width p) :=
  inferInstanceAs (Decidable (_ ∧ _))

/-- The byte at a relative address. -/
def byteAt (rva : Nat) : UInt8 := process.memory (image.address rva)

/-- The signed field of four bytes at a relative address. -/
def displacementAt (rva : Nat) : Int := signedOfLittleEndian (image.content process rva 4)

/-! ### Windows -/

/-- What the loops of all scans run over: each window of `width` bytes in the executable
sections, with its address. -/
def executableWindows (width : Nat) : Except String (List (Nat × List UInt8)) := do
  let windows ← image.executableSections.mapM fun s => do
    let bytes ← image.sectionBytes process s
    -- a section that is too short is passed over
    if bytes.length < width then
      return []
    else
      return (List.range (bytes.length - width + 1)).map fun offset =>
        (s.rva + offset, slice bytes offset (offset + width))
  return windows.flatten

/-- `find_signature`. -/
def findSignature (signature : Signature) : Except String (List Nat) := do
  let windows ← image.executableWindows process signature.length
  return windows.filterMap fun (rva, bytes) =>
    if signature.matchesBytes bytes then some rva else none

/-- `find_direct_calls_to`. -/
def findDirectCallsTo (targetRva : Nat) : Except String (List Nat) := do
  let windows ← image.executableWindows process 5
  return windows.filterMap fun (callRva, bytes) =>
    if bytes[0]? ≠ some 0xE8 then
      none
    else
      let displacement := signedOfLittleEndian (slice bytes 1 5)
      if relativeTarget (callRva + 5) displacement = some targetRva then some callRva else none

/-! ### The windows of an image -/

variable {process image}

/-- An offset into the image is added to the address. -/
theorem address_add (rva k : Nat) :
    image.address (rva + k) = image.address rva + UInt64.ofNat k := by
  rw [address, address, UInt64.ofNat_add, UInt64.add_assoc]

/-- A part of what the image holds is what it holds there. -/
theorem slice_content {rva length start finish : Nat} (h : finish ≤ length) :
    slice (image.content process rva length) start finish =
      image.content process (rva + start) (finish - start) := by
  rw [content, content, address_add, ByteMemory.slice_read _ _ h]

/-- Each byte that was read is the image's. -/
theorem getElem?_content {rva length k : Nat} (h : k < length) :
    (image.content process rva length)[k]? = some (image.byteAt process (rva + k)) := by
  have hk : k < (image.content process rva length).length := by
    rwa [content, ByteMemory.length_read]
  rw [List.getElem?_eq_getElem hk, byteAt, address_add]
  exact congrArg some (ByteMemory.getElem_read _ _ hk)

/-- The windows of one section. -/
def sectionWindows (process : Process) (image : LoadedImage) (width : Nat) (s : Section) :
    List (Nat × List UInt8) :=
  (List.range (s.size + 1 - width)).map fun offset =>
    (s.rva + offset, image.content process (s.rva + offset) width)

/-- The slices that the loop over one section takes. -/
theorem map_slice_eq_sectionWindows (width : Nat) (s : Section) :
    (if s.size < width then pure []
      else pure ((List.range (s.size - width + 1)).map fun offset =>
        (s.rva + offset, slice (image.content process s.rva s.size) offset (offset + width))) :
      Except String _) = .ok (sectionWindows process image width s) := by
  split
  · next hshort =>
    rw [sectionWindows, show s.size + 1 - width = 0 by omega]
    rfl
  -- a slice of the section is what the image holds there
  · next hlong =>
    rw [sectionWindows, show s.size + 1 - width = s.size - width + 1 by omega]
    refine congrArg Except.ok (List.map_congr_left fun offset hoffset => ?_)
    have hoffset := List.mem_range.mp hoffset
    rw [slice_content (by omega), Nat.add_sub_cancel_left]

/-- What the loop over one section lists. -/
def listSection (process : Process) (image : LoadedImage) (width : Nat) (s : Section) :
    Except String (List (Nat × List UInt8)) := do
  let bytes ← image.sectionBytes process s
  if bytes.length < width then
    return []
  else
    return (List.range (bytes.length - width + 1)).map fun offset =>
      (s.rva + offset, slice bytes offset (offset + width))

/-- The windows are listed section by section. -/
theorem executableWindows_eq (width : Nat) :
    image.executableWindows process width = (do
      let windows ← image.executableSections.mapM (listSection process image width)
      return windows.flatten) := rfl

/-- The loop over one section fails only when the section cannot be read. -/
theorem listSection_eq_ok {width : Nat} (s : Section) (ws : List (Nat × List UInt8)) :
    listSection process image width s = .ok ws ↔
      (s.isReadable = true ∧ process.rangeIsReadable (image.address s.rva) s.size = true) ∧
        ws = sectionWindows process image width s := by
  have hlen : (image.content process s.rva s.size).length = s.size :=
    ByteMemory.length_read _ _ _
  unfold listSection
  rw [Except.bind_eq_ok]
  constructor
  · rintro ⟨bytes, hbytes, h⟩
    obtain ⟨hreadable, rfl⟩ := sectionBytes_eq_ok.mp hbytes
    rw [hlen, map_slice_eq_sectionWindows] at h
    exact ⟨hreadable, (Except.ok.inj h).symm⟩
  · rintro ⟨hreadable, rfl⟩
    refine ⟨_, sectionBytes_eq_ok.mpr ⟨hreadable, rfl⟩, ?_⟩
    rw [hlen, map_slice_eq_sectionWindows]

/-- **The windows of an image.** They can be listed exactly when the executable sections can be
read. -/
theorem executableWindows_eq_ok {width : Nat} {windows : List (Nat × List UInt8)} :
    image.executableWindows process width = .ok windows ↔
      (∀ s ∈ image.executableSections,
        s.isReadable = true ∧ process.rangeIsReadable (image.address s.rva) s.size = true) ∧
      windows = image.executableSections.flatMap (sectionWindows process image width) := by
  rw [executableWindows_eq, Except.bind_eq_ok]
  constructor
  · rintro ⟨ws, hws, h⟩
    obtain ⟨hreadable, rfl⟩ := (Except.mapM_eq_ok listSection_eq_ok).mp hws
    refine ⟨hreadable, ?_⟩
    rw [List.flatMap_def]
    exact (Except.ok.inj h).symm
  · rintro ⟨hreadable, rfl⟩
    refine ⟨_, (Except.mapM_eq_ok listSection_eq_ok).mpr ⟨hreadable, rfl⟩, ?_⟩
    rw [List.flatMap_def]
    rfl

/-- **Every position once.** The windows of a scan are those of the positions with code. -/
theorem enumerates_executableWindows {width : Nat} {windows : List (Nat × List UInt8)}
    (h : image.executableWindows process width = .ok windows) :
    Enumerates
      (fun p window => image.HasCode width p ∧
        window = (image.rvaOf p, image.content process (image.rvaOf p) width)) windows := by
  obtain ⟨-, rfl⟩ := executableWindows_eq_ok.mp h
  -- a section that is not executable has no positions
  let count (s : Section) : Nat := if s.isExecutable then s.size + 1 - width else 0
  -- so all sections may be counted, and not only the executable ones
  have hall : image.executableSections.flatMap (sectionWindows process image width) =
      image.sections.flatMap fun s => (List.range (count s)).map fun offset =>
        (s.rva + offset, image.content process (s.rva + offset) width) := by
    rw [executableSections]
    induction image.sections with
    | nil => rfl
    | cons s sections ih =>
      rw [List.filter_cons, List.flatMap_cons]
      cases hexecutable : s.isExecutable with
      | false => simp [count, hexecutable, ih]
      | true => simp [count, hexecutable, ih, sectionWindows]
  rw [hall]
  -- the offsets of a section are those that leave room for a window
  refine (enumerates_flatMap_range image.sections count _).congr fun p window => ?_
  refine and_congr_left fun _ => ?_
  show p.2 < count (image.sectionOf p) ↔ _
  unfold HasCode
  cases hexecutable : (image.sectionOf p).isExecutable with
  | false => simp [count, hexecutable]
  | true =>
    simp only [count, hexecutable, if_true, true_and]
    omega

/-! ### What the scans find -/

/-- The code at the position matches the signature, byte for byte. -/
def MatchesAt (process : Process) (image : LoadedImage) (signature : Signature)
    (p : image.Position) : Prop :=
  image.HasCode signature.length p ∧
    signature.Describes fun k => image.byteAt process (image.rvaOf p + k)

/-- The code at the position is a relative call that ends at `target`. -/
def CallsAt (process : Process) (image : LoadedImage) (target : Nat) (p : image.Position) :
    Prop :=
  image.HasCode 5 p ∧ image.byteAt process (image.rvaOf p) = 0xE8 ∧
    (target : Int) = image.rvaOf p + 5 + image.displacementAt process (image.rvaOf p + 1)

/-- **Signature hits.** -/
theorem findSignature_enumerates {signature : Signature} {hits : List Nat}
    (h : image.findSignature process signature = .ok hits) :
    Enumerates (fun p rva => MatchesAt process image signature p ∧ rva = image.rvaOf p) hits := by
  unfold findSignature at h
  obtain ⟨windows, hwindows, h⟩ := Except.bind_eq_ok.mp h
  obtain rfl := Except.ok.inj h
  refine ((enumerates_executableWindows hwindows).filterMap _).congr fun p rva => ?_
  -- the window is compared as the signature describes it
  have hmatch : signature.matchesBytes
      (image.content process (image.rvaOf p) signature.length) = true ↔
        signature.Describes fun k => image.byteAt process (image.rvaOf p + k) := by
    refine (signature.matchesBytes_read _ _ le_rfl).trans ?_
    simp only [byteAt, address_add]
  constructor
  · rintro ⟨_, ⟨hcode, rfl⟩, hrva⟩
    dsimp only at hrva
    split_ifs at hrva with hbytes
    exact ⟨⟨hcode, hmatch.mp hbytes⟩, (Option.some.inj hrva).symm⟩
  · rintro ⟨⟨hcode, hbytes⟩, rfl⟩
    exact ⟨_, ⟨hcode, rfl⟩, if_pos (hmatch.mpr hbytes)⟩

/-- **Call sites.** -/
theorem findDirectCallsTo_enumerates {target : Nat} {hits : List Nat}
    (h : image.findDirectCallsTo process target = .ok hits) (htarget : target < Usize.size) :
    Enumerates (fun p rva => CallsAt process image target p ∧ rva = image.rvaOf p) hits := by
  unfold findDirectCallsTo at h
  obtain ⟨windows, hwindows, h⟩ := Except.bind_eq_ok.mp h
  obtain rfl := Except.ok.inj h
  refine ((enumerates_executableWindows hwindows).filterMap _).congr fun p rva => ?_
  -- the two fields of the window, as fields of the image
  have hopcode : (image.content process (image.rvaOf p) 5)[0]? =
      some (image.byteAt process (image.rvaOf p)) := getElem?_content (by decide)
  have hdisplacement : signedOfLittleEndian
      (slice (image.content process (image.rvaOf p) 5) 1 5) =
        image.displacementAt process (image.rvaOf p + 1) := by
    rw [displacementAt, slice_content (le_refl 5)]
  constructor
  · rintro ⟨_, ⟨hcode, rfl⟩, hrva⟩
    dsimp only at hrva
    rw [hopcode, hdisplacement] at hrva
    split_ifs at hrva with hbyte hcall
    obtain rfl := Option.some.inj hrva
    refine ⟨⟨hcode, by simpa using hbyte, ?_⟩, rfl⟩
    have htarget := (relativeTarget_eq_some.mp hcall).1
    omega
  · rintro ⟨⟨hcode, hbyte, hcall⟩, rfl⟩
    refine ⟨_, ⟨hcode, rfl⟩, ?_⟩
    dsimp only
    rw [hopcode, hdisplacement, hbyte, if_neg (by simp), if_pos]
    exact relativeTarget_eq_some.mpr ⟨by omega, htarget⟩

end LoadedImage
end GameCompat
end WindowedHdr
