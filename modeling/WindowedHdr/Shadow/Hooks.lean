import Mathlib.Tactic.Common

/-!
# Which vtable entries are hooked

Three tables of the source are written down separately and have to agree: the hooks that
`patch_factory` and `patch_swap_chain` install, which grow with the number of entries of the
interface; `shadow_replacement`, which the dispatch consults; and the numbers of entries of
the known interfaces.

Every hook that is installed is the one that `shadow_replacement` names
(`shadowReplacement_of_mem`). The converse needs the interface tables: a factory of 15 to 24
entries would leave slots unhooked that `shadow_replacement` covers, but no interface has so
many (`exists_mem_of_shadowReplacement`).

The comparison is made by indices: the hooks of an interface are a list that grows with its
number of entries, and the slots that `shadow_replacement` covers are looked up in it for each
of the known numbers.
-/

namespace WindowedHdr
namespace Shadow

/-! ### Indices and lengths -/

@[match_pattern] def factoryQueryInterfaceIndex : Nat := 0
@[match_pattern] def factoryCreateSwapChainIndex : Nat := 10
@[match_pattern] def factoryCreateSwapChainForHwndIndex : Nat := 15
@[match_pattern] def factoryCreateSwapChainForCoreWindowIndex : Nat := 16
@[match_pattern] def factoryCreateSwapChainForCompositionIndex : Nat := 24

@[match_pattern] def unknownReleaseIndex : Nat := 2
@[match_pattern] def swapChainQueryInterfaceIndex : Nat := 0
@[match_pattern] def swapChainPresentIndex : Nat := 8
@[match_pattern] def swapChainSetFullscreenStateIndex : Nat := 10
def swapChainGetFullscreenStateIndex : Nat := 11
def swapChainGetDescIndex : Nat := 12
@[match_pattern] def swapChainResizeBuffersIndex : Nat := 13
@[match_pattern] def swapChainResizeTargetIndex : Nat := 14
def swapChainGetContainingOutputIndex : Nat := 15
def swapChainGetDesc1Index : Nat := 18
@[match_pattern] def swapChainPresent1Index : Nat := 22
@[match_pattern] def swapChainCheckColorSpaceSupportIndex : Nat := 37
@[match_pattern] def swapChainSetColorSpace1Index : Nat := 38
@[match_pattern] def swapChainResizeBuffers1Index : Nat := 39
@[match_pattern] def swapChainSetHdrMetadataIndex : Nat := 40

def outputGetDesc1Index : Nat := 27

def factoryVtableLength : Nat := 12
def factory1VtableLength : Nat := 14
def factory2VtableLength : Nat := 25
def factory3VtableLength : Nat := 26
def factory4VtableLength : Nat := 28
def factory5VtableLength : Nat := 29
def factory6VtableLength : Nat := 30
def factory7VtableLength : Nat := 32

def swapChainVtableLength : Nat := 18
def swapChain1VtableLength : Nat := 29
def swapChain2VtableLength : Nat := 36
def swapChain3VtableLength : Nat := 40
def swapChain4VtableLength : Nat := 41

/-! ### The known interfaces -/

/-- An interface identifier. -/
structure Guid where
  data1 : UInt32
  data2 : UInt16
  data3 : UInt16
  data4 : Vector UInt8 8
  deriving DecidableEq

def iidIdxgiFactory : Guid :=
  ⟨0x7b7166ec, 0x21c7, 0x44ae, #v[0xb2, 0x1a, 0xc9, 0xae, 0x32, 0x1a, 0xe3, 0x69]⟩

def iidIdxgiFactory1 : Guid :=
  ⟨0x770aae78, 0xf26f, 0x4dba, #v[0xa8, 0x29, 0x25, 0x3c, 0x83, 0xd1, 0xb3, 0x87]⟩

def iidIdxgiFactory2 : Guid :=
  ⟨0x50c83a1c, 0xe072, 0x4c48, #v[0x87, 0xb0, 0x36, 0x30, 0xfa, 0x36, 0xa6, 0xd0]⟩

def iidIdxgiFactory3 : Guid :=
  ⟨0x25483823, 0xcd46, 0x4c7d, #v[0x86, 0xca, 0x47, 0xaa, 0x95, 0xb8, 0x37, 0xbd]⟩

def iidIdxgiFactory4 : Guid :=
  ⟨0x1bc6ea02, 0xef36, 0x464f, #v[0xbf, 0x0c, 0x21, 0xca, 0x39, 0xe5, 0x16, 0x8a]⟩

def iidIdxgiFactory5 : Guid :=
  ⟨0x7632e1f5, 0xee65, 0x4dca, #v[0x87, 0xfd, 0x84, 0xcd, 0x75, 0xf8, 0x83, 0x8d]⟩

def iidIdxgiFactory6 : Guid :=
  ⟨0xc1b6694f, 0xff09, 0x44a9, #v[0xb0, 0x3c, 0x77, 0x90, 0x0a, 0x0a, 0x1d, 0x17]⟩

def iidIdxgiFactory7 : Guid :=
  ⟨0xa4966eed, 0x76db, 0x44da, #v[0x84, 0xc1, 0xee, 0x9a, 0x7a, 0xfb, 0x20, 0xa8]⟩

def iidIdxgiSwapChain : Guid :=
  ⟨0x310d36a0, 0xd2e7, 0x4c0a, #v[0xaa, 0x04, 0x6a, 0x9d, 0x23, 0xb8, 0x88, 0x6a]⟩

def iidIdxgiSwapChain1 : Guid :=
  ⟨0x790a45f7, 0x0d42, 0x4876, #v[0x98, 0x3a, 0x0a, 0x55, 0xcf, 0xe6, 0xf4, 0xaa]⟩

def iidIdxgiSwapChain2 : Guid :=
  ⟨0xa8be2ac4, 0x199f, 0x4946, #v[0xb3, 0x31, 0x79, 0x59, 0x9f, 0xb9, 0x8d, 0xe7]⟩

def iidIdxgiSwapChain3 : Guid :=
  ⟨0x94d99bdb, 0xf1f8, 0x4ab0, #v[0xb2, 0x36, 0x7d, 0xa0, 0x17, 0x0e, 0xda, 0xb1]⟩

def iidIdxgiSwapChain4 : Guid :=
  ⟨0x3d585d5a, 0xbd4a, 0x489e, #v[0xb1, 0xf4, 0x3d, 0xbc, 0xb6, 0x45, 0x2f, 0xfb]⟩

def iidIdxgiOutput6 : Guid :=
  ⟨0x068346e8, 0xaaec, 0x4b84, #v[0xad, 0xd7, 0x13, 0x7f, 0x51, 0x3f, 0x77, 0xa1]⟩

/-- `factory_vtable_len`. -/
def factoryVtableLen (riid : Guid) : Option Nat :=
  if riid = iidIdxgiFactory then some factoryVtableLength
  else if riid = iidIdxgiFactory1 then some factory1VtableLength
  else if riid = iidIdxgiFactory2 then some factory2VtableLength
  else if riid = iidIdxgiFactory3 then some factory3VtableLength
  else if riid = iidIdxgiFactory4 then some factory4VtableLength
  else if riid = iidIdxgiFactory5 then some factory5VtableLength
  else if riid = iidIdxgiFactory6 then some factory6VtableLength
  else if riid = iidIdxgiFactory7 then some factory7VtableLength
  else none

/-- `swap_chain_vtable_len`. -/
def swapChainVtableLen (riid : Guid) : Option Nat :=
  if riid = iidIdxgiSwapChain then some swapChainVtableLength
  else if riid = iidIdxgiSwapChain1 then some swapChain1VtableLength
  else if riid = iidIdxgiSwapChain2 then some swapChain2VtableLength
  else if riid = iidIdxgiSwapChain3 then some swapChain3VtableLength
  else if riid = iidIdxgiSwapChain4 then some swapChain4VtableLength
  else none

/-! ### Hooks and replacements -/

/-- What a shadowed object is. -/
inductive ShadowKind
  | factory
  | swapChain
  deriving DecidableEq, Repr

/-- How messages name a kind. -/
def ShadowKind.text : ShadowKind → String
  | factory => "Factory"
  | swapChain => "SwapChain"

/-- The number of entries that the interface `riid` of the kind has. -/
def ShadowKind.vtableLen : ShadowKind → Guid → Option Nat
  | factory => factoryVtableLen
  | swapChain => swapChainVtableLen

/-- The functions of this module that stand in for a vtable entry. -/
inductive HookFunction
  | factoryQueryInterfaceHook
  | factoryReleaseHook
  | createSwapChainHook
  | createSwapChainForHwndHook
  | createSwapChainForCoreWindowHook
  | createSwapChainForCompositionHook
  | swapChainQueryInterfaceHook
  | swapChainReleaseHook
  | presentHook
  | setFullscreenStateHook
  | resizeBuffersHook
  | resizeTargetHook
  | present1Hook
  | checkColorSpaceSupportHook
  | setColorSpace1Hook
  | resizeBuffers1Hook
  | setHdrMetadataHook
  deriving DecidableEq, Repr

/-- One entry to hook. -/
structure VtableHook where
  index : Nat
  replacement : UInt64
  name : String

open HookFunction

variable (code : HookFunction → UInt64)

/-- The hooks that `patch_factory` installs, when its functions lie at `code`. -/
def factoryHooks (entryCount : Nat) : List VtableHook :=
  [⟨factoryQueryInterfaceIndex, code factoryQueryInterfaceHook, "IDXGIFactory::QueryInterface"⟩,
    ⟨unknownReleaseIndex, code factoryReleaseHook, "IDXGIFactory::Release"⟩,
    ⟨factoryCreateSwapChainIndex, code createSwapChainHook, "IDXGIFactory::CreateSwapChain"⟩] ++
  -- the three slots of `IDXGIFactory2` are added together
  if entryCount > factoryCreateSwapChainForCompositionIndex then
    [⟨factoryCreateSwapChainForHwndIndex, code createSwapChainForHwndHook,
        "IDXGIFactory2::CreateSwapChainForHwnd"⟩,
      ⟨factoryCreateSwapChainForCoreWindowIndex, code createSwapChainForCoreWindowHook,
        "IDXGIFactory2::CreateSwapChainForCoreWindow"⟩,
      ⟨factoryCreateSwapChainForCompositionIndex, code createSwapChainForCompositionHook,
        "IDXGIFactory2::CreateSwapChainForComposition"⟩]
  else []

/-- The hooks that `patch_swap_chain` installs. -/
def swapChainHooks (entryCount : Nat) : List VtableHook :=
  [⟨swapChainQueryInterfaceIndex, code swapChainQueryInterfaceHook,
      "IDXGISwapChain::QueryInterface"⟩,
    ⟨unknownReleaseIndex, code swapChainReleaseHook, "IDXGISwapChain::Release"⟩,
    ⟨swapChainPresentIndex, code presentHook, "IDXGISwapChain::Present"⟩,
    ⟨swapChainSetFullscreenStateIndex, code setFullscreenStateHook,
      "IDXGISwapChain::SetFullscreenState"⟩,
    ⟨swapChainResizeBuffersIndex, code resizeBuffersHook, "IDXGISwapChain::ResizeBuffers"⟩,
    ⟨swapChainResizeTargetIndex, code resizeTargetHook, "IDXGISwapChain::ResizeTarget"⟩] ++
  -- each later interface adds to the slots of the earlier ones
  (if entryCount > swapChainPresent1Index then
    [⟨swapChainPresent1Index, code present1Hook, "IDXGISwapChain1::Present1"⟩]
  else []) ++
  (if entryCount > swapChainSetColorSpace1Index then
    [⟨swapChainCheckColorSpaceSupportIndex, code checkColorSpaceSupportHook,
        "IDXGISwapChain3::CheckColorSpaceSupport"⟩,
      ⟨swapChainSetColorSpace1Index, code setColorSpace1Hook,
        "IDXGISwapChain3::SetColorSpace1"⟩]
  else []) ++
  (if entryCount > swapChainResizeBuffers1Index then
    [⟨swapChainResizeBuffers1Index, code resizeBuffers1Hook, "IDXGISwapChain3::ResizeBuffers1"⟩]
  else []) ++
  if entryCount > swapChainSetHdrMetadataIndex then
    [⟨swapChainSetHdrMetadataIndex, code setHdrMetadataHook, "IDXGISwapChain4::SetHDRMetaData"⟩]
  else []

/-- The hooks of an interface with `entryCount` entries. -/
def ShadowKind.hooks : ShadowKind → Nat → List VtableHook
  | factory => factoryHooks code
  | swapChain => swapChainHooks code

/-- `shadow_replacement`. -/
def shadowReplacement : ShadowKind → Nat → Option UInt64
  | .factory, factoryQueryInterfaceIndex => some (code factoryQueryInterfaceHook)
  | .factory, unknownReleaseIndex => some (code factoryReleaseHook)
  | .factory, factoryCreateSwapChainIndex => some (code createSwapChainHook)
  | .factory, factoryCreateSwapChainForHwndIndex => some (code createSwapChainForHwndHook)
  | .factory, factoryCreateSwapChainForCoreWindowIndex =>
    some (code createSwapChainForCoreWindowHook)
  | .factory, factoryCreateSwapChainForCompositionIndex =>
    some (code createSwapChainForCompositionHook)
  | .swapChain, swapChainQueryInterfaceIndex => some (code swapChainQueryInterfaceHook)
  | .swapChain, unknownReleaseIndex => some (code swapChainReleaseHook)
  | .swapChain, swapChainPresentIndex => some (code presentHook)
  | .swapChain, swapChainSetFullscreenStateIndex => some (code setFullscreenStateHook)
  | .swapChain, swapChainResizeBuffersIndex => some (code resizeBuffersHook)
  | .swapChain, swapChainResizeTargetIndex => some (code resizeTargetHook)
  | .swapChain, swapChainPresent1Index => some (code present1Hook)
  | .swapChain, swapChainCheckColorSpaceSupportIndex => some (code checkColorSpaceSupportHook)
  | .swapChain, swapChainSetColorSpace1Index => some (code setColorSpace1Hook)
  | .swapChain, swapChainResizeBuffers1Index => some (code resizeBuffers1Hook)
  | .swapChain, swapChainSetHdrMetadataIndex => some (code setHdrMetadataHook)
  | _, _ => none

/-- The kind of the record that a hook looks up. -/
def HookFunction.kind : HookFunction → ShadowKind
  | factoryQueryInterfaceHook | factoryReleaseHook | createSwapChainHook
  | createSwapChainForHwndHook | createSwapChainForCoreWindowHook
  | createSwapChainForCompositionHook => .factory
  | _ => .swapChain

/-- The entry whose saved function a hook calls. -/
def HookFunction.index : HookFunction → Nat
  | factoryQueryInterfaceHook => factoryQueryInterfaceIndex
  | factoryReleaseHook => unknownReleaseIndex
  | createSwapChainHook => factoryCreateSwapChainIndex
  | createSwapChainForHwndHook => factoryCreateSwapChainForHwndIndex
  | createSwapChainForCoreWindowHook => factoryCreateSwapChainForCoreWindowIndex
  | createSwapChainForCompositionHook => factoryCreateSwapChainForCompositionIndex
  | swapChainQueryInterfaceHook => swapChainQueryInterfaceIndex
  | swapChainReleaseHook => unknownReleaseIndex
  | presentHook => swapChainPresentIndex
  | setFullscreenStateHook => swapChainSetFullscreenStateIndex
  | resizeBuffersHook => swapChainResizeBuffersIndex
  | resizeTargetHook => swapChainResizeTargetIndex
  | present1Hook => swapChainPresent1Index
  | checkColorSpaceSupportHook => swapChainCheckColorSpaceSupportIndex
  | setColorSpace1Hook => swapChainSetColorSpace1Index
  | resizeBuffers1Hook => swapChainResizeBuffers1Index
  | setHdrMetadataHook => swapChainSetHdrMetadataIndex

/-! ### The tables agree -/

variable {code} {kind : ShadowKind} {entryCount index : Nat} {replacement : UInt64}

/-- An installed hook is the replacement that the dispatch knows of. -/
theorem shadowReplacement_of_mem {hook : VtableHook} (h : hook ∈ kind.hooks code entryCount) :
    shadowReplacement code kind hook.index = some hook.replacement := by
  cases kind with
  | factory =>
    simp only [ShadowKind.hooks, factoryHooks, List.mem_append, List.mem_ite_nil_right,
      List.mem_cons, List.not_mem_nil, or_false] at h
    -- one case for each entry of the table
    obtain (rfl | rfl | rfl) | ⟨-, rfl | rfl | rfl⟩ := h <;> rfl
  | swapChain =>
    simp only [ShadowKind.hooks, swapChainHooks, List.mem_append, List.mem_ite_nil_right,
      List.mem_cons, List.not_mem_nil, or_false] at h
    obtain ((((rfl | rfl | rfl | rfl | rfl | rfl) | ⟨-, rfl⟩) | ⟨-, rfl | rfl⟩) | ⟨-, rfl⟩) |
      ⟨-, rfl⟩ := h <;> rfl

/-- The numbers of entries that occur. -/
theorem ShadowKind.vtableLen_cases {riid : Guid} (h : kind.vtableLen riid = some entryCount) :
    (kind = .factory ∧ (entryCount < 15 ∧ 10 < entryCount ∨ 24 < entryCount)) ∨
    (kind = .swapChain ∧ (entryCount < 22 ∧ 14 < entryCount ∨
      22 < entryCount ∧ entryCount < 37 ∨ entryCount = 40 ∨ entryCount = 41)) := by
  cases kind with
  | factory =>
    rw [vtableLen, factoryVtableLen] at h
    split_ifs at h <;> cases h <;> decide
  | swapChain =>
    rw [vtableLen, swapChainVtableLen] at h
    split_ifs at h <;> cases h <;> decide

/-- The slots of a factory that are hooked, by the size of its interface. -/
theorem map_index_factoryHooks : (factoryHooks code entryCount).map (·.index) =
    [0, 2, 10] ++ if 24 < entryCount then [15, 16, 24] else [] := by
  rw [factoryHooks, List.map_append, apply_ite (List.map _)]
  rfl

/-- The slots of a swap chain that are hooked, by the size of its interface. -/
theorem map_index_swapChainHooks : (swapChainHooks code entryCount).map (·.index) =
    [0, 2, 8, 10, 13, 14] ++ (if 22 < entryCount then [22] else []) ++
      (if 38 < entryCount then [37, 38] else []) ++ (if 39 < entryCount then [39] else []) ++
      if 40 < entryCount then [40] else [] := by
  simp only [swapChainHooks, List.map_append, apply_ite (List.map _)]
  rfl

/-- **No slot is left out.** In an interface of a known length, every slot that the dispatch
has a replacement for is hooked. -/
theorem exists_mem_of_shadowReplacement {riid : Guid}
    (hlen : kind.vtableLen riid = some entryCount) (hindex : index < entryCount)
    (h : shadowReplacement code kind index = some replacement) :
    ∃ hook ∈ kind.hooks code entryCount, hook.index = index ∧ hook.replacement = replacement := by
  have hcases := ShadowKind.vtableLen_cases hlen
  -- the slots of later interface versions lie beyond the lengths of the earlier ones
  have hmem : index ∈ (kind.hooks code entryCount).map (·.index) := by
    cases kind with
    | factory =>
      have hentries : entryCount < 15 ∧ 10 < entryCount ∨ 24 < entryCount := by simpa using hcases
      rw [ShadowKind.hooks, map_index_factoryHooks]
      unfold shadowReplacement at h
      split at h <;> simp_all <;> omega
    | swapChain =>
      have hentries : entryCount < 22 ∧ 14 < entryCount ∨ 22 < entryCount ∧ entryCount < 37 ∨
          entryCount = 40 ∨ entryCount = 41 := by simpa using hcases
      rw [ShadowKind.hooks, map_index_swapChainHooks]
      unfold shadowReplacement at h
      split at h <;> simp_all
      omega
  -- the hook of that slot carries the replacement, since the tables agree
  obtain ⟨hook, hhook, rfl⟩ := List.mem_map.mp hmem
  refine ⟨hook, hhook, rfl, ?_⟩
  rw [shadowReplacement_of_mem hhook] at h
  exact Option.some.inj h

/-- **What a slot is replaced by looks this slot up again.** -/
theorem shadowReplacement_eq_some_iff :
    shadowReplacement code kind index = some replacement ↔
      ∃ f : HookFunction, f.kind = kind ∧ f.index = index ∧ code f = replacement := by
  constructor
  · intro h
    unfold shadowReplacement at h
    split at h <;> first
      | exact ⟨_, rfl, rfl, Option.some.inj h⟩
      | cases h
  · rintro ⟨f, rfl, rfl, rfl⟩
    cases f <;> rfl

end Shadow
end WindowedHdr
