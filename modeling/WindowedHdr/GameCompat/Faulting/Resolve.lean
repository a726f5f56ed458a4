import WindowedHdr.GameCompat.Faulting.MainModule
import WindowedHdr.GameCompat.Faulting.Vtable
import WindowedHdr.GameCompat.Resolve

/-!
# The resolver does not fault

`resolve` as the source has it, with the operations of the machine. Its addresses are those that
the scans return and those that instructions and tables of the image name, and every function that
receives one checks it before anything is added to it or read through it.

`resolve_eq` says that this resolver ends as the other one does, so that what is proved of the
latter holds of the machine's arithmetic. `resolver_never_faults` says what the headers are
checked for, and that nothing faults afterwards.

Each function of this layer has an equation with the one of the other layer, under the
conditions that its callers have established, and `resolve_eq` is their composition. The
statement that nothing faults is then not one about the arithmetic any more: a guarded
computation has no fault to end in (`guarded_ne_fault`).
-/

namespace WindowedHdr
namespace GameCompat
namespace Faulting

open Usize

namespace Image

variable (process : Process) (image : Image)

/-- `resolve_security_cookie`. -/
def resolveSecurityCookie (availabilityRva : Nat) : Except (Stop String) Nat := do
  let message := "common HDR availability no longer begins with the verified security-cookie " ++
    "prologue"
  let prologue ← image.bytesAt process availabilityRva 14
  -- the displacement of the load is the hole between the two parts
  let load ← Bytes.range prologue 0 7
  (Except.require (load = [0x48, 0x83, 0xEC, 0x48, 0x48, 0x8B, 0x05]) message).guarded
  let mix ← Bytes.range prologue 11 prologue.length
  (Except.require (mix = [0x48, 0x33, 0xC4]) message).guarded
  let displacement ← Bytes.i32Field prologue 7 11
  let target ← relativeTarget (← add availabilityRva 11) displacement
  let cookieRva ← (target.okOr
    "common HDR availability security-cookie relocation overflow").guarded
  (Except.require (8 ∣ cookieRva ∧ image.isReadableNonExecutable cookieRva 8 = true)
    ("common HDR availability resolved an invalid security-cookie RVA " ++
      s!"0x{hexUpper 8 cookieRva}")).guarded
  return cookieRva

variable {process : Process} {image : LoadedImage}

/-- **The cookie.** The prologue that refers to it is fourteen bytes within the image. -/
theorem resolveSecurityCookie_eq (availabilityRva : Nat) :
    (ofLoaded image).resolveSecurityCookie process availabilityRva =
      (image.resolveSecurityCookie process availabilityRva).guarded := by
  unfold resolveSecurityCookie LoadedImage.resolveSecurityCookie
  dsimp only
  refine Except.bind_eq_guarded bytesAt_eq fun prologue hprologue => ?_
  obtain ⟨⟨hwithin, -⟩, -⟩ := LoadedImage.bytesAt_eq_ok.mp hprologue
  have hend := hwithin.le_size
  have hlen := length_of_bytesAt hprologue
  have hword : availabilityRva + 11 < Usize.size := image.add_lt_size (by omega) (by decide)
  refine Except.bind_of_eq_ok (Bytes.range_eq_ok (by omega) (by omega)) ?_
  -- the other layer compares both parts at once
  by_cases hload : slice prologue 0 7 = [0x48, 0x83, 0xEC, 0x48, 0x48, 0x8B, 0x05]
  case neg =>
    rw [Except.require_of_not hload, Except.require_of_not fun h => hload h.1]
    rfl
  rw [Except.require_of hload, hlen]
  refine Except.bind_of_eq_ok (a := ⟨⟩) rfl ?_
  refine Except.bind_of_eq_ok (Bytes.range_eq_ok (by omega) (by omega)) ?_
  simp only [hload, true_and]
  refine Except.bind_eq_guarded rfl fun _ _ => ?_
  refine Except.bind_of_eq_ok (Bytes.i32Field_eq_ok rfl (by omega)) ?_
  refine Except.bind_of_eq_ok (add_eq_ok hword) ?_
  have hfield : (slice prologue 7 11).length = 4 := Bytes.length_slice (by omega)
  refine Except.bind_of_eq_ok
    (relativeTarget_eq_ok hword (signedOfLittleEndian_bounds hfield)) ?_
  refine Except.bind_eq_guarded rfl fun cookieRva _ => ?_
  exact Except.bind_eq_guarded rfl fun _ _ => rfl

end Image

/-- `verify_known_targets`. -/
def verifyKnownTargets (build : KnownBuild) (actual : GameTargets) : Except (Stop String) Unit :=
  let expected := build.expected
  match (knownTargetChecks expected actual).find? fun check => check.2.1 != check.2.2 with
  | some (label, expectedRva, actualRva) =>
    Except.fail (s!"known {build.name} profile resolved an unexpected {label} RVA: " ++
      s!"expected 0x{hexUpper 8 expectedRva}, found 0x{hexUpper 8 actualRva}")
  | none => do
    if expected.menuGateEntries != actual.menuGateEntries then
      let expectedRvas ← formatRvas expected.menuGateEntries.toList
      let actualRvas ← formatRvas actual.menuGateEntries.toList
      Except.fail (s!"known {build.name} profile resolved unexpected HDR menu-gate vtable " ++
        s!"entries: expected {expectedRvas}, " ++ s!"found {actualRvas}")
    else
      return ()

/-- **The profile.** It is compared as in the other layer; the tables are formatted only where they
differ. -/
theorem verifyKnownTargets_eq (build : KnownBuild) (actual : GameTargets) :
    verifyKnownTargets build actual =
      (GameCompat.verifyKnownTargets build actual).guarded := by
  unfold verifyKnownTargets GameCompat.verifyKnownTargets
  dsimp only
  cases (knownTargetChecks build.expected actual).find? fun check => check.2.1 != check.2.2 with
  | some check => rfl
  | none =>
    dsimp only
    split
    · refine Except.bind_of_eq_ok (formatRvas_eq_ok _) ?_
      exact Except.bind_of_eq_ok (formatRvas_eq_ok _) rfl
    · rfl

/-- `resolve`. What is only logged is formatted all the same. -/
def resolve (process : Process) (executableSize : UInt64) (executableHash : String) :
    Except (Stop String) GameTargets := do
  let image ← mainModule process
  -- each function that is looked for must be found once
  let availabilityHits ← image.findSignature process availabilitySignature
  let _ ← formatRvas availabilityHits
  let commonAvailabilityRva ←
    requireUnique "common HDR availability signature" availabilityHits
  let directCallers ← image.findDirectCallsTo process commonAvailabilityRva
  let callerRvas ← formatRvas directCallers
  (Except.require (directCallers.length = 2)
    ("common HDR availability must have exactly 2 direct callers, found " ++
      s!"{directCallers.length} ({callerRvas})")).guarded
  let gateHits ← image.selectGates process commonAvailabilityRva directCallers
  let _ ← formatRvas gateHits
  let menuGateInvokeRva ← requireUnique "HDR menu-gate caller" gateHits
  let vtable ← image.resolveMenuGateVtable process menuGateInvokeRva
  let configHits ← image.findSignature process graphicsConfigSignature
  let _ ← formatRvas configHits
  let graphicsConfigApplyRva ← requireUnique "graphics-config apply signature" configHits
  let backendHits ← image.findSignature process backendActualSignature
  let _ ← formatRvas backendHits
  let backendActualQueryRva ← requireUnique "HDR backend actual-state signature" backendHits
  -- what stands where the functions were found
  let commonAvailabilityPrologue ← image.arrayAt process commonAvailabilityRva 14
  let securityCookieRva ← image.resolveSecurityCookie process commonAvailabilityRva
  let _ ← (image.sectionNameFor securityCookieRva 8).guarded
  let menuGateInvokeBytes ← image.arrayAt process menuGateInvokeRva 19
  let graphicsConfigApplyPrologue ← image.arrayAt process graphicsConfigApplyRva 14
  let backendActualQueryPrologue ← image.arrayAt process backendActualQueryRva 14
  let targets : GameTargets := {
    menuGateVtableRva := vtable.rva
    menuGateCompleteObjectLocatorRva := vtable.completeObjectLocatorRva
    menuGateInvokeRva := menuGateInvokeRva
    menuGateEntries := vtable.entries
    menuGateInvokeBytes := menuGateInvokeBytes
    commonAvailabilityRva := commonAvailabilityRva
    commonAvailabilityPrologue := commonAvailabilityPrologue
    securityCookieRva := securityCookieRva
    graphicsConfigApplyRva := graphicsConfigApplyRva
    graphicsConfigApplyPrologue := graphicsConfigApplyPrologue
    backendActualQueryRva := backendActualQueryRva
    backendActualQueryPrologue := backendActualQueryPrologue }
  match knownBuild executableSize executableHash with
  | some build =>
    verifyKnownTargets build targets
    return targets
  | none => return targets

/-- **The resolver ends as the other one does.** -/
theorem resolve_eq (process : Process) (executableSize : UInt64) (executableHash : String) :
    resolve process executableSize executableHash =
      (GameCompat.resolve process executableSize executableHash).guarded := by
  unfold resolve GameCompat.resolve
  rw [mainModule_eq]
  cases himage : LoadedImage.mainModule process with
  | error e => rfl
  | ok image =>
    refine Except.bind_of_eq_ok (a := Image.ofLoaded image) rfl ?_
    show _ = Except.guarded (LoadedImage.findSignature process image _ >>= _)
    refine Except.bind_eq_guarded (Image.findSignature_eq _) fun availabilityHits _ => ?_
    refine Except.bind_of_eq_ok (formatRvas_eq_ok _) ?_
    refine Except.bind_eq_guarded (requireUnique_eq _ _) fun availabilityRva _ => ?_
    refine Except.bind_eq_guarded (Image.findDirectCallsTo_eq _) fun directCallers _ => ?_
    refine Except.bind_of_eq_ok (formatRvas_eq_ok _) ?_
    refine Except.bind_eq_guarded rfl fun _ _ => ?_
    refine Except.bind_eq_guarded (Image.selectGates_eq _ _) fun gateHits _ => ?_
    refine Except.bind_of_eq_ok (formatRvas_eq_ok _) ?_
    refine Except.bind_eq_guarded (requireUnique_eq _ _) fun gateRva _ => ?_
    -- the count of references relies on the number of sections, which the headers bound
    refine Except.bind_eq_guarded
      (Image.resolveMenuGateVtable_eq _ (length_sections himage)) fun vtable _ => ?_
    refine Except.bind_eq_guarded (Image.findSignature_eq _) fun configHits _ => ?_
    refine Except.bind_of_eq_ok (formatRvas_eq_ok _) ?_
    refine Except.bind_eq_guarded (requireUnique_eq _ _) fun configRva _ => ?_
    refine Except.bind_eq_guarded (Image.findSignature_eq _) fun backendHits _ => ?_
    refine Except.bind_of_eq_ok (formatRvas_eq_ok _) ?_
    refine Except.bind_eq_guarded (requireUnique_eq _ _) fun backendRva _ => ?_
    refine Except.bind_eq_guarded (Image.arrayAt_eq _) fun availabilityPrologue _ => ?_
    refine Except.bind_eq_guarded (Image.resolveSecurityCookie_eq _) fun cookieRva _ => ?_
    refine Except.bind_eq_guarded rfl fun _ _ => ?_
    refine Except.bind_eq_guarded (Image.arrayAt_eq _) fun invokeBytes _ => ?_
    refine Except.bind_eq_guarded (Image.arrayAt_eq _) fun configPrologue _ => ?_
    refine Except.bind_eq_guarded (Image.arrayAt_eq _) fun backendPrologue _ => ?_
    -- the profile of a known build is compared last
    unfold acceptTargets
    cases knownBuild executableSize executableHash with
    | none => rfl
    | some build => exact Except.bind_eq_guarded (verifyKnownTargets_eq _ _) fun _ _ => rfl

/-! ### Safety -/

/-- What the sections of an image are checked for. -/
structure Image.WellFormed (image : Image) : Prop where
  nonempty : ∀ s ∈ image.sections, 0 < s.size
  inside : ∀ s ∈ image.sections, s.rva + s.size ≤ image.size
  executable : ∃ s ∈ image.sections, s.isExecutable = true

/-- No function that reads the image faults, whatever address it is given, and bytes that were
read convert to an array. -/
structure Image.Safe (process : Process) (image : Image) : Prop where
  sectionBytes : ∀ s ∈ image.sections, image.sectionBytes process s ≠ .error .fault
  bytesAt : ∀ rva length, image.bytesAt process rva length ≠ .error .fault
  arrayAt : ∀ rva n, image.arrayAt process rva n ≠ .error .fault
  converts : ∀ rva n bytes, image.bytesAt process rva n = .ok bytes →
    ∃ array : Vector UInt8 n, array.toList = bytes ∧ image.arrayAt process rva n = .ok array
  readUsize : ∀ rva, image.readUsize process rva ≠ .error .fault
  readAsciiCString : ∀ rva maximum, image.readAsciiCString process rva maximum ≠ .error .fault
  findSignature : ∀ signature, image.findSignature process signature ≠ .error .fault
  findDirectCallsTo : ∀ target, image.findDirectCallsTo process target ≠ .error .fault
  menuGateBodyMatches : ∀ gate availability,
    image.menuGateBodyMatches process gate availability ≠ .error .fault
  validateMenuGateVtable : ∀ vtable gate,
    image.validateMenuGateVtable process vtable gate ≠ .error .fault
  resolveMenuGateVtable : ∀ gate, image.resolveMenuGateVtable process gate ≠ .error .fault
  resolveSecurityCookie : ∀ availability,
    image.resolveSecurityCookie process availability ≠ .error .fault

/-- An image that is built from the headers can be read anywhere. -/
theorem Image.safe_ofLoaded {process : Process} {image : LoadedImage}
    (hsections : image.sections.length ≤ maxSectionCount) :
    (ofLoaded image).Safe process where
  -- each reader ends as the one of the other layer, which cannot fault
  sectionBytes _ hs := Except.ne_fault_of_eq_guarded (sectionBytes_eq hs)
  bytesAt _ _ := Except.ne_fault_of_eq_guarded bytesAt_eq
  arrayAt _ n := Except.ne_fault_of_eq_guarded (arrayAt_eq n)
  converts _ _ _ := arrayAt_of_bytesAt
  readUsize _ := Except.ne_fault_of_eq_guarded readUsize_eq
  readAsciiCString _ maximum := Except.ne_fault_of_eq_guarded (readAsciiCString_eq maximum)
  findSignature signature := Except.ne_fault_of_eq_guarded (findSignature_eq signature)
  findDirectCallsTo target := Except.ne_fault_of_eq_guarded (findDirectCallsTo_eq target)
  menuGateBodyMatches gate availability :=
    Except.ne_fault_of_eq_guarded (menuGateBodyMatches_eq gate availability)
  validateMenuGateVtable vtable gate :=
    Except.ne_fault_of_eq_guarded (validateMenuGateVtable_eq vtable gate)
  resolveMenuGateVtable gate :=
    Except.ne_fault_of_eq_guarded (resolveMenuGateVtable_eq gate hsections)
  resolveSecurityCookie availability :=
    Except.ne_fault_of_eq_guarded (resolveSecurityCookie_eq availability)

/-- **The resolver is safe on every image.** Whatever the memory holds and whatever of it is
readable, `main_module` returns an error or an image with sections as they should be, on which no
read, sum, slice or conversion of any function faults; and so `resolve` does not fault. -/
theorem resolver_never_faults (process : Process) (executableSize : UInt64)
    (executableHash : String) :
    ((∃ e, mainModule process = .error (.error e)) ∨
      ∃ image, mainModule process = .ok image ∧ image.WellFormed ∧ image.Safe process) ∧
    resolve process executableSize executableHash ≠ .error .fault := by
  constructor
  · rw [mainModule_eq]
    -- the headers are refused, or they promise what is asked for
    cases himage : LoadedImage.mainModule process with
    | error e => exact .inl ⟨e, rfl⟩
    | ok image =>
      refine .inr ⟨Image.ofLoaded image, rfl, ?_, Image.safe_ofLoaded (length_sections himage)⟩
      exact ⟨fun s hs => (image.fits s hs).1, fun s hs => (image.fits s hs).2, image.executable⟩
  · exact Except.ne_fault_of_eq_guarded (resolve_eq process executableSize executableHash)

end Faulting
end GameCompat
end WindowedHdr
