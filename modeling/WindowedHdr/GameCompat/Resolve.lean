import WindowedHdr.GameCompat.MenuGateVtable

/-!
# Resolving the targets

`resolve` reads the main module and finds every target in it, and refuses the module when one
of them is missing or is not unique. Nothing that it returns is assumed: the executable's hash
only adds conditions, when it is the hash of a known build.

`Resolved` says what the returned bundle is, in terms of the module's bytes and sections alone,
and `resolve_sound` that a bundle that is returned is one. `sampleProcess` is a small module
that is resolved.

The proof takes the chain of searches apart from its front, one `Except.bind_eq_ok` at a time,
and keeps what each of them says of its result. A requirement that a list has one entry becomes
the statement that there is one position (`onlyAt_of_requireUnique`), since the list enumerates
the positions.
-/

namespace WindowedHdr
namespace GameCompat

open Usize

namespace LoadedImage

variable (process : Process) (image : LoadedImage)

/-- `resolve_security_cookie`. -/
def resolveSecurityCookie (availabilityRva : Nat) : Except String Nat := do
  let prologue ← image.bytesAt process availabilityRva 14
  Except.require
    (slice prologue 0 7 = [0x48, 0x83, 0xEC, 0x48, 0x48, 0x8B, 0x05] ∧
      slice prologue 11 14 = [0x48, 0x33, 0xC4])
    ("common HDR availability no longer begins with the verified security-cookie " ++
      "prologue")
  let displacement := signedOfLittleEndian (slice prologue 7 11)
  let cookieRva ← (relativeTarget (availabilityRva + 11) displacement).okOr
    "common HDR availability security-cookie relocation overflow"
  Except.require (8 ∣ cookieRva ∧ image.isReadableNonExecutable cookieRva 8 = true)
    ("common HDR availability resolved an invalid security-cookie RVA " ++
      s!"0x{hexUpper 8 cookieRva}")
  return cookieRva

/-- The availability routine begins by loading the cookie at `cookie`. -/
structure IsSecurityCookie (availability cookie : Nat) : Prop where
  load : image.content process availability 7 = [0x48, 0x83, 0xEC, 0x48, 0x48, 0x8B, 0x05]
  mix : image.content process (availability + 11) 3 = [0x48, 0x33, 0xC4]
  target : (cookie : Int) = availability + 11 + image.displacementAt process (availability + 7)
  aligned : 8 ∣ cookie
  data : image.Within cookie 8 Section.isReadableNonExecutable

variable {process image}

/-- **The cookie.** What was resolved is what the prologue loads, aligned and in data. -/
theorem isSecurityCookie_of_ok {availability cookie : Nat}
    (h : image.resolveSecurityCookie process availability = .ok cookie) :
    image.IsSecurityCookie process availability cookie := by
  unfold resolveSecurityCookie at h
  -- the read, the comparison, the target and its check all went well
  obtain ⟨prologue, hprologue, h⟩ := Except.bind_eq_ok.mp h
  obtain ⟨_, hbytes, h⟩ := Except.bind_eq_ok.mp h
  obtain ⟨cookieRva, htarget, h⟩ := Except.bind_eq_ok.mp h
  obtain ⟨_, hvalid, h⟩ := Except.bind_eq_ok.mp h
  obtain rfl := Except.ok.inj h
  obtain ⟨-, rfl⟩ := bytesAt_eq_ok.mp hprologue
  obtain ⟨hload, hmix⟩ := Except.require_eq_ok.mp hbytes
  obtain ⟨haligned, hdata⟩ := Except.require_eq_ok.mp hvalid
  obtain ⟨htarget, -⟩ := relativeTarget_eq_some.mp (Option.okOr_eq_ok.mp htarget)
  -- the parts of the prologue are the image at the offsets of the parts
  rw [slice_content (by decide)] at hload hmix htarget
  refine ⟨hload, hmix, ?_, haligned, isReadableNonExecutable_iff.mp hdata⟩
  rw [displacementAt]
  exact htarget

end LoadedImage

/-- The last step of `resolve`: a known build has to have the targets of its profile. -/
def acceptTargets (known : Option KnownBuild) (targets : GameTargets) :
    Except String GameTargets :=
  match known with
  | some build => do
    verifyKnownTargets build targets
    return targets
  | none => return targets

/-- What is accepted is what was found, and that of the profile if there is one. -/
theorem acceptTargets_eq_ok {known : Option KnownBuild} {targets t : GameTargets} :
    acceptTargets known targets = .ok t ↔
      t = targets ∧ ∀ build, known = some build → MatchesProfile build.expected targets := by
  cases known with
  | none =>
    constructor
    · intro h
      exact ⟨(Except.ok.inj h).symm, fun _ h => (nomatch h)⟩
    · rintro ⟨rfl, -⟩
      rfl
  | some build =>
    unfold acceptTargets
    rw [Except.bind_eq_ok]
    constructor
    · rintro ⟨_, hverified, h⟩
      refine ⟨(Except.ok.inj h).symm, fun build' hbuild => ?_⟩
      obtain rfl := Option.some.inj hbuild
      exact (verifyKnownTargets_eq_ok build targets).mp hverified
    · rintro ⟨rfl, hmatches⟩
      exact ⟨⟨⟩, (verifyKnownTargets_eq_ok build t).mpr (hmatches build rfl), rfl⟩

/-- `resolve`: find every target of the main module. -/
def resolve (process : Process) (executableSize : UInt64) (executableHash : String) :
    Except String GameTargets := do
  let image ← LoadedImage.mainModule process
  -- the availability routine, and the one of its two callers that is the menu gate
  let availabilityHits ← image.findSignature process availabilitySignature
  let commonAvailabilityRva ←
    requireUnique "common HDR availability signature" availabilityHits
  let directCallers ← image.findDirectCallsTo process commonAvailabilityRva
  Except.require (directCallers.length = 2)
    ("common HDR availability must have exactly 2 direct callers, found " ++
      s!"{directCallers.length} ({formatRvas directCallers})")
  let gateHits ← image.selectGates process commonAvailabilityRva directCallers
  let menuGateInvokeRva ← requireUnique "HDR menu-gate caller" gateHits
  let vtable ← image.resolveMenuGateVtable process menuGateInvokeRva
  -- the two routines that are called or hooked besides the gate
  let configHits ← image.findSignature process graphicsConfigSignature
  let graphicsConfigApplyRva ← requireUnique "graphics-config apply signature" configHits
  let backendHits ← image.findSignature process backendActualSignature
  let backendActualQueryRva ← requireUnique "HDR backend actual-state signature" backendHits
  -- the bytes that the installers compare with before they patch
  let commonAvailabilityPrologue ← image.arrayAt process commonAvailabilityRva 14
  let securityCookieRva ← image.resolveSecurityCookie process commonAvailabilityRva
  -- the name of the cookie's section is only logged, but the search for it may fail
  let _ ← image.sectionNameFor securityCookieRva 8
  let menuGateInvokeBytes ← image.arrayAt process menuGateInvokeRva 19
  let graphicsConfigApplyPrologue ← image.arrayAt process graphicsConfigApplyRva 14
  let backendActualQueryPrologue ← image.arrayAt process backendActualQueryRva 14
  -- a build with a profile has to give exactly the targets of that profile
  acceptTargets (knownBuild executableSize executableHash) {
    menuGateVtableRva := vtable.rva
    menuGateCompleteObjectLocatorRva := vtable.completeObjectLocatorRva
    menuGateInvokeRva := menuGateInvokeRva
    menuGateEntries := vtable.entries
    menuGateInvokeBytes := menuGateInvokeBytes
    commonAvailabilityRva := commonAvailabilityRva
    commonAvailabilityPrologue := commonAvailabilityPrologue
    securityCookieRva := securityCookieRva
    graphicsConfigApplyRva := graphicsConfigApplyRva
    graphicsConfigApplyPrologue := graphicsConfigApplyPrologue
    backendActualQueryRva := backendActualQueryRva
    backendActualQueryPrologue := backendActualQueryPrologue }

/-! ### What a resolved bundle is -/

/-- The property holds at one position of the executable sections, and its address is `rva`. -/
def LoadedImage.OnlyAt (image : LoadedImage) (property : image.Position → Prop) (rva : Nat) :
    Prop :=
  ∃ p, image.rvaOf p = rva ∧ ∀ q, property q ↔ q = p

/-- What the bundle says holds of the image. -/
structure Resolved (process : Process) (image : LoadedImage) (t : GameTargets) : Prop where
  base : image.base = process.mainModule
  /-- The availability routine is the one match of its signature. -/
  availability : image.OnlyAt (image.MatchesAt process availabilitySignature)
    t.commonAvailabilityRva
  /-- It has two callers, and one of them is in the menu gate. -/
  callers : ∃ p q, p ≠ q ∧
    (∀ r, image.CallsAt process t.commonAvailabilityRva r ↔ r = p ∨ r = q) ∧
    image.rvaOf p = t.menuGateInvokeRva + 4 ∧
    image.GateBody process t.menuGateInvokeRva t.commonAvailabilityRva ∧
    ∀ gate, image.rvaOf q = gate + 4 → ¬ image.GateBody process gate t.commonAvailabilityRva
  /-- The menu gate is the invoke entry of the vtable of the lambda. -/
  vtable : ∃ name, image.IsMenuGateVtable process t.menuGateInvokeRva t.menuGateVtableRva
    t.menuGateCompleteObjectLocatorRva t.menuGateEntries name
  /-- Two instructions at least name the vtable. -/
  references : ∃ p q, p ≠ q ∧ image.ReferencesAt process t.menuGateVtableRva p ∧
    image.ReferencesAt process t.menuGateVtableRva q
  graphicsConfig : image.OnlyAt (image.MatchesAt process graphicsConfigSignature)
    t.graphicsConfigApplyRva
  backendActual : image.OnlyAt (image.MatchesAt process backendActualSignature)
    t.backendActualQueryRva
  cookie : image.IsSecurityCookie process t.commonAvailabilityRva t.securityCookieRva
  /-- The bytes that the installers compare with are those of the image. -/
  invokeBytes : t.menuGateInvokeBytes.toList = image.content process t.menuGateInvokeRva 19
  availabilityPrologue :
    t.commonAvailabilityPrologue.toList = image.content process t.commonAvailabilityRva 14
  graphicsConfigPrologue :
    t.graphicsConfigApplyPrologue.toList = image.content process t.graphicsConfigApplyRva 14
  backendActualPrologue :
    t.backendActualQueryPrologue.toList = image.content process t.backendActualQueryRva 14

namespace LoadedImage

variable {process : Process} {image : LoadedImage}

/-- Code lies within the image. -/
theorem rvaOf_add_le {width : Nat} {p : image.Position} (h : image.HasCode width p) :
    image.rvaOf p + width ≤ image.size := by
  -- the section of the position fits into the image
  have hfits := (image.fits _ (List.get_mem image.sections p.1)).2
  have hend := h.2
  unfold rvaOf
  unfold sectionOf at *
  omega

/-- **A unique match.** -/
theorem onlyAt_of_requireUnique {signature : Signature} {label : String} {hits : List Nat}
    {rva : Nat} (hhits : image.findSignature process signature = .ok hits)
    (hunique : requireUnique label hits = .ok rva) :
    image.OnlyAt (image.MatchesAt process signature) rva := by
  obtain rfl := requireUnique_eq_ok.mp hunique
  -- a scan lists every match once, so one hit is one position
  obtain ⟨p, hp⟩ := (findSignature_enumerates hhits).of_singleton
  refine ⟨p, ((hp p rva).mpr ⟨rfl, rfl⟩).2.symm, fun q => ?_⟩
  constructor
  · intro hq
    exact ((hp q (image.rvaOf q)).mp ⟨hq, rfl⟩).1
  · rintro rfl
    exact ((hp q rva).mpr ⟨rfl, rfl⟩).1

/-- A match lies within the image. -/
theorem OnlyAt.le_size {signature : Signature} {rva : Nat}
    (h : image.OnlyAt (image.MatchesAt process signature) rva) : rva ≤ image.size := by
  obtain ⟨p, rfl, hp⟩ := h
  have hcode := rvaOf_add_le ((hp p).mpr rfl).1
  omega

/-- **Two callers, one gate.** -/
theorem callers_of_selectGates {availability gate : Nat} {label : String}
    {callers gates : List Nat} (havailability : availability < Usize.size)
    (hcallers : image.findDirectCallsTo process availability = .ok callers)
    (htwo : callers.length = 2)
    (hgates : image.selectGates process availability callers = .ok gates)
    (hunique : requireUnique label gates = .ok gate) :
    ∃ p q, p ≠ q ∧ (∀ r, image.CallsAt process availability r ↔ r = p ∨ r = q) ∧
      image.rvaOf p = gate + 4 ∧ image.GateBody process gate availability ∧
      ∀ gate', image.rvaOf q = gate' + 4 → ¬ image.GateBody process gate' availability := by
  obtain rfl := requireUnique_eq_ok.mp hunique
  obtain ⟨b₁, b₂, rfl⟩ := List.length_eq_two.mp htwo
  have hsites := findDirectCallsTo_enumerates hcallers havailability
  have hselected := selectGates_enumerates hgates havailability hsites
  obtain ⟨p, hp⟩ := hselected.of_singleton
  obtain ⟨a₁, a₂, hne, hcalls⟩ := hsites.of_pair
  -- the position that was selected is a call site in a gate
  obtain ⟨hcall, hrva, hbody⟩ := (hp p gate).mpr ⟨rfl, rfl⟩
  -- the call sites are the two positions
  have hcalls_iff : ∀ r, image.CallsAt process availability r ↔ r = a₁ ∨ r = a₂ := by
    intro r
    constructor
    · intro hr
      rcases (hcalls r (image.rvaOf r)).mp ⟨hr, rfl⟩ with ⟨rfl, -⟩ | ⟨rfl, -⟩
      · exact .inl rfl
      · exact .inr rfl
    · rintro (rfl | rfl)
      · exact ((hcalls _ b₁).mpr (.inl ⟨rfl, rfl⟩)).1
      · exact ((hcalls _ b₂).mpr (.inr ⟨rfl, rfl⟩)).1
  -- a call site other than `p` is in no gate, since there is only one gate
  have hother : ∀ q, image.CallsAt process availability q → p ≠ q → ∀ gate',
      image.rvaOf q = gate' + 4 → ¬ image.GateBody process gate' availability := by
    intro q hq hpq gate' hrva' hbody'
    exact hpq ((hp q gate').mp ⟨hq, hrva', hbody'⟩).1.symm
  -- the gate is around one of the two callers, and the other is named `q`
  rcases (hcalls_iff p).mp hcall with rfl | rfl
  · exact ⟨p, a₂, hne, hcalls_iff, hrva, hbody, hother a₂ ((hcalls_iff a₂).mpr (.inr rfl)) hne⟩
  · refine ⟨p, a₁, hne.symm, fun r => (hcalls_iff r).trans or_comm, hrva, hbody, ?_⟩
    exact hother a₁ ((hcalls_iff a₁).mpr (.inl rfl)) hne.symm

end LoadedImage

open LoadedImage

/-- **Soundness of the resolver.** A bundle that is returned is what its fields say, in the
module that the loader mapped; for a known build it is the bundle of the profile. -/
theorem resolve_sound {process : Process} {executableSize : UInt64} {executableHash : String}
    {t : GameTargets} (h : resolve process executableSize executableHash = .ok t) :
    ∃ image, mainModule process = .ok image ∧ Resolved process image t ∧
      ∀ build, knownBuild executableSize executableHash = some build →
        MatchesProfile build.expected t := by
  -- every step of the resolver succeeded
  unfold resolve at h
  obtain ⟨image, himage, h⟩ := Except.bind_eq_ok.mp h
  obtain ⟨availabilityHits, havailabilityHits, h⟩ := Except.bind_eq_ok.mp h
  obtain ⟨availability, havailability, h⟩ := Except.bind_eq_ok.mp h
  obtain ⟨callers, hcallers, h⟩ := Except.bind_eq_ok.mp h
  obtain ⟨_, htwo, h⟩ := Except.bind_eq_ok.mp h
  obtain ⟨gates, hgates, h⟩ := Except.bind_eq_ok.mp h
  obtain ⟨gate, hgate, h⟩ := Except.bind_eq_ok.mp h
  obtain ⟨vtable, hvtable, h⟩ := Except.bind_eq_ok.mp h
  obtain ⟨configHits, hconfigHits, h⟩ := Except.bind_eq_ok.mp h
  obtain ⟨config, hconfig, h⟩ := Except.bind_eq_ok.mp h
  obtain ⟨backendHits, hbackendHits, h⟩ := Except.bind_eq_ok.mp h
  obtain ⟨backend, hbackend, h⟩ := Except.bind_eq_ok.mp h
  obtain ⟨availabilityBytes, havailabilityBytes, h⟩ := Except.bind_eq_ok.mp h
  obtain ⟨cookie, hcookie, h⟩ := Except.bind_eq_ok.mp h
  obtain ⟨_, -, h⟩ := Except.bind_eq_ok.mp h
  obtain ⟨gateBytes, hgateBytes, h⟩ := Except.bind_eq_ok.mp h
  obtain ⟨configBytes, hconfigBytes, h⟩ := Except.bind_eq_ok.mp h
  obtain ⟨backendBytes, hbackendBytes, h⟩ := Except.bind_eq_ok.mp h
  -- each step has found its part of the bundle
  have honly := onlyAt_of_requireUnique havailabilityHits havailability
  obtain ⟨htable, hreferences⟩ := resolveMenuGateVtable_of_ok hvtable
  obtain ⟨rfl, hprofile⟩ := acceptTargets_eq_ok.mp h
  refine ⟨image, himage, ?_, hprofile⟩
  exact {
    base := base_mainModule process image himage
    availability := honly
    callers := callers_of_selectGates (lt_size honly.le_size) hcallers
      (Except.require_eq_ok.mp htwo) hgates hgate
    vtable := ⟨vtable.rttiName, htable⟩
    references := hreferences
    graphicsConfig := onlyAt_of_requireUnique hconfigHits hconfig
    backendActual := onlyAt_of_requireUnique hbackendHits hbackend
    cookie := isSecurityCookie_of_ok hcookie
    invokeBytes := (arrayAt_eq_ok.mp hgateBytes).2
    availabilityPrologue := (arrayAt_eq_ok.mp havailabilityBytes).2
    graphicsConfigPrologue := (arrayAt_eq_ok.mp hconfigBytes).2
    backendActualPrologue := (arrayAt_eq_ok.mp hbackendBytes).2 }

/-! ### A module that is resolved -/

/-- The bytes of a signature, with breakpoints between its segments. -/
def Signature.materialize (s : Signature) : List UInt8 :=
  (List.range s.length).map fun k =>
    (s.segments.findSome? fun segment =>
      if segment.offset ≤ k then segment.bytes[k - segment.offset]? else none).getD 0xCC

/-- The displacement from the end of an instruction to its target. -/
def rel32 (next target : Nat) : List UInt8 := toLittleEndian 4 (2 ^ 32 + target - next)

/-- An entry of the section table. -/
def sectionHeader (name : List UInt8) (size rva characteristics : Nat) : List UInt8 :=
  name ++ List.replicate (8 - name.length) 0 ++ toLittleEndian 4 size ++ toLittleEndian 4 rva ++
    List.replicate 20 0 ++ toLittleEndian 4 characteristics

def sampleBase : UInt64 := 0x140000000

/-- The headers of a module with three code sections and a data section. -/
def sampleHeaders : List UInt8 :=
  [0x4D, 0x5A] ++ List.replicate 58 0 ++ toLittleEndian 4 64 ++
  -- the file header: four sections, an optional header of 112 bytes
  toLittleEndian 4 0x4550 ++ [0, 0] ++ toLittleEndian 2 4 ++ List.replicate 12 0 ++
  toLittleEndian 2 112 ++ [0, 0] ++
  -- the optional header: sizes of the image and of the headers
  toLittleEndian 2 0x20B ++ List.replicate 54 0 ++ toLittleEndian 4 4096 ++
  toLittleEndian 4 360 ++ List.replicate 48 0 ++
  sectionHeader (asciiBytes ".menu") 139 360 0x60000000 ++
  sectionHeader (asciiBytes ".config") 259 499 0x60000000 ++
  sectionHeader (asciiBytes ".backend") 76 758 0x60000000 ++
  sectionHeader (asciiBytes ".rdata") 200 840 0x40000000

/-- The first code section: the availability routine at 360, the gate at 461, another caller at
480, and two references to the vtable. -/
def sampleMenuCode : List UInt8 :=
  let availability := availabilitySignature.materialize
  availability.take 7 ++ rel32 371 920 ++ availability.drop 11 ++
  [0x48, 0x83, 0xEC, 0x28, 0xE8] ++ rel32 470 360 ++
  [0x84, 0xC0, 0x0F, 0x94, 0xC0, 0x48, 0x83, 0xC4, 0x28, 0xC3] ++
  [0xE8] ++ rel32 485 360 ++
  [0x48, 0x8D, 0x05] ++ rel32 492 848 ++
  [0x4C, 0x8D, 0x0D] ++ rel32 499 848

/-- The data section: the vtable at 848 behind its locator slot, the locator at 896, the cookie
at 920 and the type descriptor at 928. -/
def sampleData : List UInt8 :=
  ([896, 360, 485, 461, 480, 499, 758].flatMap fun rva =>
    toLittleEndian 8 (sampleBase.toNat + rva)) ++
  ([1, 0, 0, 928, 1036, 896].flatMap (toLittleEndian 4)) ++
  List.replicate 8 0xAB ++
  List.replicate 16 0 ++
  asciiBytes (rttiPrefix ++ "a057e0ed719cb0e74a1562f63717e283" ++ rttiSuffix) ++ [0] ++
  List.replicate 3 0

/-- The bytes in rows of sixteen. -/
def rowsOfSixteen : Nat → List UInt8 → List (List UInt8)
  | 0, _ => []
  | count + 1, bytes => bytes.take 16 :: rowsOfSixteen count (bytes.drop 16)

/-- A process with this module alone. -/
def sampleProcess : Process where
  mainModule := sampleBase
  memory address :=
    let rva := (address - sampleBase).toNat
    let bytes := sampleHeaders ++ sampleMenuCode ++ graphicsConfigSignature.materialize ++
      backendActualSignature.materialize ++ List.replicate 6 0 ++ sampleData
    ((rowsOfSixteen 65 bytes).getD (rva / 16) []).getD (rva % 16) 0
  rangeIsReadable address size :=
    sampleBase ≤ address && size != 0 && address.toNat + size ≤ sampleBase.toNat + 4096

/-- What is found in it. -/
def sampleTargets : GameTargets where
  menuGateVtableRva := 848
  menuGateCompleteObjectLocatorRva := 896
  menuGateInvokeRva := 461
  menuGateEntries := #v[360, 485, 461, 480, 499, 758]
  menuGateInvokeBytes := #v[0x48, 0x83, 0xEC, 0x28, 0xE8, 0x92, 0xFF, 0xFF, 0xFF, 0x84, 0xC0,
    0x0F, 0x94, 0xC0, 0x48, 0x83, 0xC4, 0x28, 0xC3]
  commonAvailabilityRva := 360
  commonAvailabilityPrologue := #v[0x48, 0x83, 0xEC, 0x48, 0x48, 0x8B, 0x05, 0x25, 0x02, 0x00,
    0x00, 0x48, 0x33, 0xC4]
  securityCookieRva := 920
  graphicsConfigApplyRva := 499
  graphicsConfigApplyPrologue := #v[0x40, 0x53, 0x48, 0x83, 0xEC, 0x20, 0x0F, 0xB6, 0x02, 0x48,
    0x8B, 0xDA, 0x88, 0x01]
  backendActualQueryRva := 758
  backendActualQueryPrologue := #v[0x40, 0x53, 0x57, 0x48, 0x83, 0xEC, 0x28, 0xF6, 0x41, 0x32,
    0x04, 0x48, 0x8B, 0xFA]

/-- The sample module is resolved, so what `resolve_sound` says holds of it. -/
theorem resolve_sound_sample :
    ∃ image, mainModule sampleProcess = .ok image ∧ Resolved sampleProcess image sampleTargets ∧
      ∀ build, knownBuild 1040 "00" = some build →
        MatchesProfile build.expected sampleTargets :=
  have h : resolve sampleProcess 1040 "00" = .ok sampleTargets := by decide +kernel
  resolve_sound h

end GameCompat
end WindowedHdr
