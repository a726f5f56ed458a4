import WindowedHdr.Text

/-!
# The bundle of game targets

`GameTargets` is what the resolver hands to the installers: the relative virtual addresses
of every routine and table that is patched, with the bytes found there. The profiles of the
two known builds say which addresses a resolution of these builds has to end in.

Offsets and relative addresses are `usize` values, and none of the sums the resolver forms
exceeds its range (`Faulting.resolve_eq`), so they are natural numbers here.
-/

namespace WindowedHdr
namespace GameCompat

/-- The index of the invoke entry in the menu-gate vtable. -/
def hdrMenuGateInvokeIndex : Nat := 2

/-- Every version-sensitive target, as one bundle. -/
structure GameTargets where
  menuGateVtableRva : Nat
  menuGateCompleteObjectLocatorRva : Nat
  menuGateInvokeRva : Nat
  menuGateEntries : Vector Nat 6
  menuGateInvokeBytes : Vector UInt8 19
  commonAvailabilityRva : Nat
  commonAvailabilityPrologue : Vector UInt8 14
  securityCookieRva : Nat
  graphicsConfigApplyRva : Nat
  graphicsConfigApplyPrologue : Vector UInt8 14
  backendActualQueryRva : Nat
  backendActualQueryPrologue : Vector UInt8 14
  deriving DecidableEq

/-- The addresses expected of a known build. -/
structure KnownTargets where
  menuGateVtableRva : Nat
  menuGateCompleteObjectLocatorRva : Nat
  menuGateInvokeRva : Nat
  menuGateEntries : Vector Nat 6
  commonAvailabilityRva : Nat
  securityCookieRva : Nat
  graphicsConfigApplyRva : Nat
  backendActualQueryRva : Nat
  deriving DecidableEq

/-- A build that was verified in the game. -/
structure KnownBuild where
  name : String
  size : UInt64
  sha256 : String
  expected : KnownTargets
  deriving DecidableEq

/-- `KNOWN_BUILDS`. -/
def knownBuilds : List KnownBuild :=
  [{ name := "App Ver. 1.16.2 / file version 2.6.2.0"
     size := 86998096
     sha256 := "34102B1C08BB5F769A724427A6F70FE29B3B732C31CF73693F861C48D3492DDB"
     expected :=
       { menuGateVtableRva := 0x02B12248
         menuGateCompleteObjectLocatorRva := 0x0331D7F8
         menuGateInvokeRva := 0x00961A00
         menuGateEntries := #v[0x0095E1A0, 0x00963910, 0x00961A00, 0x009654A0, 0x00960630,
           0x00962530]
         commonAvailabilityRva := 0x00952870
         securityCookieRva := 0x03C5ADB0
         graphicsConfigApplyRva := 0x0025C7B0
         backendActualQueryRva := 0x01E9D6D0 } },
   { name := "App Ver. 1.17 / file version 2.7.0.0"
     size := 87024720
     sha256 := "D1A84083C6C7C7902162FF098F7D86812839AA6B3575959398857E539C488134"
     expected :=
       { menuGateVtableRva := 0x02B152C8
         menuGateCompleteObjectLocatorRva := 0x03320AB8
         menuGateInvokeRva := 0x00962B30
         menuGateEntries := #v[0x0095F2C0, 0x00964A30, 0x00962B30, 0x00966620, 0x00961750,
           0x009636B0]
         commonAvailabilityRva := 0x00953A10
         securityCookieRva := 0x03C5EE10
         graphicsConfigApplyRva := 0x0025C780
         backendActualQueryRva := 0x01E9F4D0 } }]

/-- `str::eq_ignore_ascii_case`. -/
def eqIgnoreAsciiCase (a b : String) : Bool :=
  a.toList.map Char.toLower == b.toList.map Char.toLower

/-- `known_build`: the first build with this file size and hash. -/
def knownBuild (size : UInt64) (hash : String) : Option KnownBuild :=
  -- the hash is compared as text, in either case
  knownBuilds.find? fun build => build.size == size && eqIgnoreAsciiCase build.sha256 hash

/-- `format_rvas`: at most eight addresses, and how many more there are. -/
def formatRvas (rvas : List Nat) : String :=
  if rvas.isEmpty then
    "none"
  else
    -- the list is cut off, and the rest only counted
    let formatted := ", ".intercalate ((rvas.take 8).map fun rva => "0x" ++ hexUpper 8 rva)
    if rvas.length > 8 then
      formatted ++ s!", ... +{rvas.length - 8}"
    else
      formatted

/-- The labelled addresses that `verify_known_targets` compares, in its order. -/
def knownTargetChecks (expected : KnownTargets) (actual : GameTargets) :
    List (String × Nat × Nat) :=
  [("menu vtable", expected.menuGateVtableRva, actual.menuGateVtableRva),
   ("menu COL", expected.menuGateCompleteObjectLocatorRva,
     actual.menuGateCompleteObjectLocatorRva),
   ("menu invoke", expected.menuGateInvokeRva, actual.menuGateInvokeRva),
   ("common availability", expected.commonAvailabilityRva, actual.commonAvailabilityRva),
   ("security cookie", expected.securityCookieRva, actual.securityCookieRva),
   ("graphics-config apply", expected.graphicsConfigApplyRva, actual.graphicsConfigApplyRva),
   ("backend actual query", expected.backendActualQueryRva, actual.backendActualQueryRva)]

/-- `verify_known_targets`. -/
def verifyKnownTargets (build : KnownBuild) (actual : GameTargets) : Except String Unit :=
  let expected := build.expected
  match (knownTargetChecks expected actual).find? fun check => check.2.1 != check.2.2 with
  -- the first difference is the one that is reported
  | some (label, expectedRva, actualRva) =>
    .error (s!"known {build.name} profile resolved an unexpected {label} RVA: " ++
      s!"expected 0x{hexUpper 8 expectedRva}, found 0x{hexUpper 8 actualRva}")
  | none =>
    if expected.menuGateEntries != actual.menuGateEntries then
      .error (s!"known {build.name} profile resolved unexpected HDR menu-gate vtable " ++
        s!"entries: expected {formatRvas expected.menuGateEntries.toList}, " ++
        s!"found {formatRvas actual.menuGateEntries.toList}")
    else
      .ok ()

/-- The bundle has every address of the profile. -/
structure MatchesProfile (expected : KnownTargets) (actual : GameTargets) : Prop where
  menuGateVtable : actual.menuGateVtableRva = expected.menuGateVtableRva
  menuGateLocator :
    actual.menuGateCompleteObjectLocatorRva = expected.menuGateCompleteObjectLocatorRva
  menuGateInvoke : actual.menuGateInvokeRva = expected.menuGateInvokeRva
  menuGateEntries : actual.menuGateEntries = expected.menuGateEntries
  commonAvailability : actual.commonAvailabilityRva = expected.commonAvailabilityRva
  securityCookie : actual.securityCookieRva = expected.securityCookieRva
  graphicsConfigApply : actual.graphicsConfigApplyRva = expected.graphicsConfigApplyRva
  backendActualQuery : actual.backendActualQueryRva = expected.backendActualQueryRva

/-- A bundle passes exactly when it has every address of the profile. -/
theorem verifyKnownTargets_eq_ok (build : KnownBuild) (actual : GameTargets) :
    verifyKnownTargets build actual = .ok () ↔ MatchesProfile build.expected actual := by
  unfold verifyKnownTargets
  dsimp only
  constructor
  · intro h
    split at h
    · simp at h
    · next hnone =>
      -- no check of the table finds a difference, and the entries are compared behind it
      have hchecks := List.find?_eq_none.mp hnone
      simp only [knownTargetChecks, List.forall_mem_cons, bne_iff_ne, ne_eq, not_not,
        List.not_mem_nil, false_implies, implies_true, and_true] at hchecks
      obtain ⟨hv, hl, hi, ha, hc, hg, hb⟩ := hchecks
      split at h
      · simp at h
      · next he =>
        have he : build.expected.menuGateEntries = actual.menuGateEntries := by simpa using he
        exact ⟨hv.symm, hl.symm, hi.symm, he.symm, ha.symm, hc.symm, hg.symm, hb.symm⟩
  · intro h
    -- the profile leaves no check of the table a difference
    have hnone : (knownTargetChecks build.expected actual).find?
        (fun check => check.2.1 != check.2.2) = none := by
      simp [knownTargetChecks, h.menuGateVtable, h.menuGateLocator, h.menuGateInvoke,
        h.commonAvailability, h.securityCookie, h.graphicsConfigApply, h.backendActualQuery]
    rw [hnone]
    simp [h.menuGateEntries]

end GameCompat
end WindowedHdr
