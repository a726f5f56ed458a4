import WindowedHdr.GameCompat.Scan
import WindowedHdr.GameCompat.Targets

/-!
# The menu gate

The menu gate is a predicate of nineteen bytes that calls the availability routine and negates
its answer (`GateBody`). It is found among the callers of that routine: four bytes before the
call, the body of a gate has to begin (`selectGates_enumerates`).

The gate is also the call operator of a `std::function` lambda. Its RTTI name is known but for
a hash, which may change from build to build (`isHdrMenuLambdaRttiName_iff`).

`selectGates_enumerates` is the rule for a scan whose findings are filtered again: a recorded
gate comes from one caller, and each caller that is in a gate is recorded. The module requires
that there is exactly one (`requireUnique_eq_ok`).
-/

namespace WindowedHdr
namespace GameCompat

open Usize

def maxRttiNameLength : Nat := 160

/-- `require_unique`. -/
def requireUnique (label : String) (found : List Nat) : Except String Nat :=
  match found with
  | [single] => .ok single
  | _ =>
    .error (s!"{label} must match exactly once in executable PE sections, " ++
      s!"found {found.length} ({formatRvas found})")

/-- Only a single finding is accepted. -/
theorem requireUnique_eq_ok {label : String} {found : List Nat} {rva : Nat} :
    requireUnique label found = .ok rva ↔ found = [rva] := by
  unfold requireUnique
  split
  · next single => exact ⟨fun h => by rw [Except.ok.inj h], fun h => by simpa using h⟩
  · next hne =>
    refine iff_of_false (fun h => nomatch h) ?_
    rintro rfl
    exact hne rva rfl

/-! ### The RTTI name -/

def rttiPrefix : String := ".?AV?$_Func_impl@V<lambda_"

def rttiSuffix : String := ">@@V?$allocator@H@std@@_N$$V@std@@"

/-- `u8::is_ascii_hexdigit`. -/
def isAsciiHexdigit (c : Char) : Bool :=
  ('0' ≤ c && c ≤ '9') || ('A' ≤ c && c ≤ 'F') || ('a' ≤ c && c ≤ 'f')

/-- `is_hdr_menu_lambda_rtti_name`. A text of hexadecimal digits has as many bytes as
characters. -/
def isHdrMenuLambdaRttiName (name : String) : Bool :=
  ((name.toList.dropPrefix? rttiPrefix.toList).bind fun value =>
    value.dropSuffix? rttiSuffix.toList).any fun hash =>
      hash.length == 32 && hash.all isAsciiHexdigit

/-- The name of the lambda, with a hash that may change from build to build. -/
theorem isHdrMenuLambdaRttiName_iff {name : String} :
    isHdrMenuLambdaRttiName name = true ↔
      ∃ hash : String, name = rttiPrefix ++ hash ++ rttiSuffix ∧ hash.length = 32 ∧
        ∀ c ∈ hash.toList, isAsciiHexdigit c = true := by
  unfold isHdrMenuLambdaRttiName
  rw [Option.any_eq_true]
  constructor
  · rintro ⟨hash, hhash, hdigits⟩
    obtain ⟨value, hvalue, hhash⟩ := Option.bind_eq_some_iff.mp hhash
    -- what is left between the prefix and the suffix is the hash
    obtain ⟨p, hname, hp⟩ := List.dropPrefix?_eq_some_iff.mp hvalue
    obtain ⟨q, rfl, hq⟩ := List.dropSuffix?_eq_some_iff.mp hhash
    obtain ⟨hlen, hdigits⟩ := Bool.and_eq_true_iff.mp hdigits
    refine ⟨String.ofList hash, ?_, ?_, ?_⟩
    · apply String.toList_inj.mp
      rw [String.toList_append, String.toList_append, String.toList_ofList, hname,
        eq_of_beq hp, eq_of_beq hq, List.append_assoc]
    · rw [String.length_ofList]
      exact eq_of_beq hlen
    · rw [String.toList_ofList]
      exact List.all_eq_true.mp hdigits
  -- a name of this form loses first its front and then its end
  · rintro ⟨hash, rfl, hlen, hdigits⟩
    refine ⟨hash.toList, Option.bind_eq_some_iff.mpr ⟨hash.toList ++ rttiSuffix.toList, ?_, ?_⟩,
      Bool.and_eq_true_iff.mpr ⟨?_, List.all_eq_true.mpr hdigits⟩⟩
    · refine List.dropPrefix?_eq_some_iff.mpr ⟨rttiPrefix.toList, ?_, beq_self_eq_true _⟩
      rw [String.toList_append, String.toList_append, List.append_assoc]
    · exact List.dropSuffix?_eq_some_iff.mpr ⟨_, rfl, beq_self_eq_true _⟩
    · rw [beq_iff_eq, String.length_toList, hlen]

namespace LoadedImage

variable (process : Process) (image : LoadedImage)

/-! ### The gate among the callers -/

/-- `menu_gate_body_matches`. -/
def menuGateBodyMatches (gateRva availabilityRva : Nat) : Except String Bool := do
  let body ← image.bytesAt process gateRva 19
  if slice body 0 4 ≠ [0x48, 0x83, 0xEC, 0x28] ∨ body[4]? ≠ some 0xE8 ∨
      slice body 9 19 ≠ [0x84, 0xC0, 0x0F, 0x94, 0xC0, 0x48, 0x83, 0xC4, 0x28, 0xC3] then
    return false
  else
    let displacement := signedOfLittleEndian (slice body 5 9)
    return relativeTarget (gateRva + 9) displacement = some availabilityRva

/-- The gate around one caller of the availability routine, if the caller is in one. -/
def gateCandidate (availabilityRva callRva : Nat) : Except String (Option Nat) :=
  match checkedSub callRva 4 with
  | none => return none
  | some gateRva => do
    let found ← image.menuGateBodyMatches process gateRva availabilityRva
    return if found then some gateRva else none

/-- The gates among the callers. -/
def selectGates (availabilityRva : Nat) (callers : List Nat) : Except String (List Nat) := do
  let candidates ← callers.mapM (image.gateCandidate process availabilityRva)
  return candidates.reduceOption

/-- The nineteen bytes at `gate` call `availability` and negate what it answers. -/
structure GateBody (gate availability : Nat) : Prop where
  enter : image.content process gate 4 = [0x48, 0x83, 0xEC, 0x28]
  call : image.byteAt process (gate + 4) = 0xE8
  target : (availability : Int) = gate + 9 + image.displacementAt process (gate + 5)
  negate : image.content process (gate + 9) 10 =
    [0x84, 0xC0, 0x0F, 0x94, 0xC0, 0x48, 0x83, 0xC4, 0x28, 0xC3]

variable {process image}

/-- The body is compared as a whole. -/
theorem menuGateBodyMatches_eq_ok {gate availability : Nat} {found : Bool}
    (h : image.menuGateBodyMatches process gate availability = .ok found)
    (havailability : availability < Usize.size) :
    image.Within gate 19 Section.isReadable ∧
      (found = true ↔ GateBody process image gate availability) := by
  unfold menuGateBodyMatches at h
  obtain ⟨body, hbody, h⟩ := Except.bind_eq_ok.mp h
  obtain ⟨⟨hwithin, -⟩, rfl⟩ := bytesAt_eq_ok.mp hbody
  refine ⟨hwithin, ?_⟩
  -- the parts of the body that are compared
  have henter : slice (image.content process gate 19) 0 4 = image.content process gate 4 :=
    slice_content (by decide)
  have hcall : (image.content process gate 19)[4]? = some (image.byteAt process (gate + 4)) :=
    getElem?_content (by decide)
  have hdisplacement : slice (image.content process gate 19) 5 9 =
      image.content process (gate + 5) 4 := slice_content (by decide)
  have hnegate : slice (image.content process gate 19) 9 19 =
      image.content process (gate + 9) 10 := slice_content (by decide)
  rw [henter, hcall, hdisplacement, hnegate] at h
  split_ifs at h with hdiffers
  -- one part differs, so this is no gate
  · obtain rfl := Except.ok.inj h
    refine iff_of_false Bool.false_ne_true fun hgate => ?_
    rcases hdiffers with hdiffers | hdiffers | hdiffers
    · exact hdiffers hgate.enter
    · exact hdiffers (congrArg some hgate.call)
    · exact hdiffers hgate.negate
  · obtain rfl := Except.ok.inj h
    simp only [not_or, not_not, Option.some.injEq] at hdiffers
    rw [decide_eq_true_iff, relativeTarget_eq_some]
    constructor
    · rintro ⟨htarget, -⟩
      exact ⟨hdiffers.1, hdiffers.2.1, by rw [displacementAt]; omega, hdiffers.2.2⟩
    · intro hgate
      have htarget := hgate.target
      rw [displacementAt] at htarget
      exact ⟨by omega, havailability⟩

/-- **The gate around a caller.** -/
theorem gateCandidate_eq_ok {availability call : Nat} {candidate : Option Nat}
    (h : image.gateCandidate process availability call = .ok candidate)
    (havailability : availability < Usize.size) (gate : Nat) :
    candidate = some gate ↔ call = gate + 4 ∧ GateBody process image gate availability := by
  unfold gateCandidate at h
  cases hsub : checkedSub call 4 with
  | none =>
    -- there is no room for a gate before the call
    rw [hsub] at h
    obtain rfl := Except.ok.inj h
    refine iff_of_false (fun h => nomatch h) ?_
    rintro ⟨rfl, -⟩
    rw [checkedSub_eq_some.mpr ⟨rfl, Nat.le_add_left 4 gate⟩] at hsub
    exact nomatch hsub
  | some gate' =>
    obtain ⟨rfl, hle⟩ := checkedSub_eq_some.mp hsub
    rw [hsub] at h
    obtain ⟨found, hfound, h⟩ := Except.bind_eq_ok.mp h
    obtain rfl := Except.ok.inj h
    have hbody := (menuGateBodyMatches_eq_ok hfound havailability).2
    constructor
    · intro hsome
      split at hsome
      · next htrue =>
        obtain rfl := Option.some.inj hsome
        exact ⟨by omega, hbody.mp htrue⟩
      · exact nomatch hsome
    · rintro ⟨rfl, hgate⟩
      rw [Nat.add_sub_cancel] at hbody ⊢
      rw [if_pos (hbody.mpr hgate)]

/-- **The gates among the callers.** -/
theorem selectGates_enumerates {availability : Nat} {callers gates : List Nat}
    (h : image.selectGates process availability callers = .ok gates)
    (havailability : availability < Usize.size)
    (hcallers : Enumerates
      (fun p rva => CallsAt process image availability p ∧ rva = image.rvaOf p) callers) :
    Enumerates
      (fun p gate => CallsAt process image availability p ∧ image.rvaOf p = gate + 4 ∧
        GateBody process image gate availability) gates := by
  unfold selectGates at h
  obtain ⟨candidates, hcandidates, h⟩ := Except.bind_eq_ok.mp h
  obtain rfl := Except.ok.inj h
  obtain ⟨hall, rfl⟩ := Except.mapM_eq_ok_toOption.mp hcandidates
  -- the callers are filtered twice: an error would have ended the loop, and no gate is dropped
  refine ((hcallers.filterMap _).filterMap id).congr fun p gate => ?_
  constructor
  · rintro ⟨_, ⟨_, ⟨hcalls, rfl⟩, hcandidate⟩, rfl⟩
    have hcandidate := Except.toOption_eq_some.mp hcandidate
    exact ⟨hcalls, (gateCandidate_eq_ok hcandidate havailability gate).mp rfl⟩
  · rintro ⟨hcalls, hgate⟩
    obtain ⟨candidate, hcandidate⟩ :=
      hall (image.rvaOf p) ((hcallers.mem_iff _).mpr ⟨p, hcalls, rfl⟩)
    refine ⟨candidate, ⟨image.rvaOf p, ⟨hcalls, rfl⟩, ?_⟩, ?_⟩
    · exact Except.toOption_eq_some.mpr hcandidate
    · exact (gateCandidate_eq_ok hcandidate havailability gate).mpr hgate

end LoadedImage
end GameCompat
end WindowedHdr
