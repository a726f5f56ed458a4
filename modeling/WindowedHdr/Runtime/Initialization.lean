import WindowedHdr.Runtime.Forwarding
import WindowedHdr.Runtime.Tokens

/-!
# What the initialization warrants

The switches of `game_hdr` are off until the initialization thread turns them on, and it turns
one on only when everything that the mode needs was installed (`initializationThread_wp`). The
invariant `Grounded` carries this from the calls of that thread to every thread that
ever finds a switch on. Likewise an initializer reports success only if the initialization
thread has come to its end without an error (`initializer_reports`).

Each `Warrants` predicate is a statement about the past of the initialization thread: that the
configuration was read, that the executable is a known one, that the targets were resolved, that
the hooks of the mode were installed, and with what outcome. They are monotone in the history,
so what `installHooks` has seen when it stores a switch is still true whenever somebody loads
it. The carrier of the invariant is the globals: a switch that is on was stored by a call whose
warrant is in the history.
-/

namespace WindowedHdr
namespace Runtime

open Program (Calls calls_ask)
open Dxgi Shadow

/-! ### Evidence -/

/-- `mode` was configured. -/
def Configured (mode : Mode) (past : List Event) : Prop :=
  ∃ path config created, config.mode = mode ∧
    ⟨.loadOrCreateConfig path, .ok (config, created)⟩ ∈ past

/-- The executable of the process is the game, with this size and hash. -/
def Identified (size : UInt64) (hash : String) (past : List Event) : Prop :=
  ∃ exePath, isEldenRing exePath = true ∧ ⟨.modulePath 0, .ok exePath⟩ ∈ past ∧
    ⟨.fileSize exePath, .ok size⟩ ∈ past ∧ ⟨.fileHash exePath, .ok hash⟩ ∈ past

/-- The game's routines were found. -/
def Resolved (targets : GameCompat.GameTargets) (past : List Event) : Prop :=
  ∃ size hash, Identified size hash past ∧ ⟨.resolve size hash, .ok targets⟩ ∈ past

/-- An import of a factory was hooked. -/
def FactoryHooked (past : List Event) : Prop :=
  ∃ report : InstallationReport, report.dxgiFactoryImports ≠ 0 ∧
    ⟨.installImportHooks, .ok report⟩ ∈ past

/-- The hooks of the game that `mode` needs are in place. -/
structure Hooked (mode : Mode) (targets : GameCompat.GameTargets) (past : List Event) : Prop where
  menuGate : ∃ a, ⟨.patchMenuGate targets mode.forcesHdrMenu (mode != .observe), .ok a⟩ ∈ past
  availability : mode = .windowedHdr →
    ∃ trampoline, ⟨.patchAvailability targets, .ok trampoline⟩ ∈ past
  graphicsConfig : ∃ trampoline, ⟨.patchGraphicsConfig targets, .ok trampoline⟩ ∈ past
  backend : ∃ trampoline, ⟨.patchBackendQuery targets, .ok trampoline⟩ ∈ past

/-- All that `mode` needs was installed, and `mode` emulates HDR. -/
def Prepared (mode : Mode) (past : List Event) : Prop :=
  mode.emulatesHdrFullscreenState = true ∧ Configured mode past ∧ FactoryHooked past ∧
    ∃ targets, Resolved targets past ∧ Hooked mode targets past

/-- The initialization came to its end. -/
def Initialized (past : List Event) : Prop :=
  (∃ size hash, Identified size hash past) ∧ (∃ mode, Configured mode past) ∧ FactoryHooked past

/-- What warrants that a switch is on. -/
def Warrants (past : List Event) : Flag → Prop
  | .menuGateUnlock => ∃ mode, mode.forcesHdrMenu = true ∧ Configured mode past
  | .windowedAvailability => Prepared .windowedHdr past
  | .backendExperiment => ∃ mode, Prepared mode past
  | .backendColorSpaceSync => ∃ mode, mode.synchronizesHdrColorSpace = true ∧ Prepared mode past

section Mono

variable {mode : Mode} {past past' : List Event} {targets : GameCompat.GameTargets}

/-- Evidence is about events that have happened, so it stays when more happen. -/
theorem Configured.mono (h : Configured mode past) (hpast : past ⊆ past') :
    Configured mode past' := by
  obtain ⟨path, config, created, hmode, hconfig⟩ := h
  exact ⟨path, config, created, hmode, hpast hconfig⟩

theorem Identified.mono {size : UInt64} {hash : String} (h : Identified size hash past)
    (hpast : past ⊆ past') : Identified size hash past' := by
  obtain ⟨exePath, hgame, hpath, hsize, hhash⟩ := h
  exact ⟨exePath, hgame, hpast hpath, hpast hsize, hpast hhash⟩

theorem Resolved.mono (h : Resolved targets past) (hpast : past ⊆ past') :
    Resolved targets past' := by
  obtain ⟨size, hash, hidentified, hresolve⟩ := h
  exact ⟨size, hash, hidentified.mono hpast, hpast hresolve⟩

theorem FactoryHooked.mono (h : FactoryHooked past) (hpast : past ⊆ past') :
    FactoryHooked past' := by
  obtain ⟨report, hfactory, himports⟩ := h
  exact ⟨report, hfactory, hpast himports⟩

/-- Hooks stay in place as far as evidence goes. -/
theorem Hooked.mono (h : Hooked mode targets past) (hpast : past ⊆ past') :
    Hooked mode targets past' where
  menuGate := h.menuGate.imp fun _ ha => hpast ha
  availability hwindowed := (h.availability hwindowed).imp fun _ ht => hpast ht
  graphicsConfig := h.graphicsConfig.imp fun _ ht => hpast ht
  backend := h.backend.imp fun _ ht => hpast ht

/-- What was prepared stays prepared. -/
theorem Prepared.mono (h : Prepared mode past) (hpast : past ⊆ past') : Prepared mode past' := by
  obtain ⟨hemulates, hconfig, hfactory, targets, hresolved, hhooked⟩ := h
  exact ⟨hemulates, hconfig.mono hpast, hfactory.mono hpast, targets, hresolved.mono hpast,
    hhooked.mono hpast⟩

/-- What was initialized stays initialized. -/
theorem Initialized.mono (h : Initialized past) (hpast : past ⊆ past') : Initialized past' := by
  obtain ⟨⟨size, hash, hidentified⟩, ⟨mode, hmode⟩, hfactory⟩ := h
  exact ⟨⟨size, hash, hidentified.mono hpast⟩, ⟨mode, hmode.mono hpast⟩, hfactory.mono hpast⟩

/-- **A warrant stays a warrant.** -/
theorem Warrants.mono {flag : Flag} (h : Warrants past flag) (hpast : past ⊆ past') :
    Warrants past' flag := by
  cases flag with
  | menuGateUnlock => exact h.imp fun _ h => ⟨h.1, h.2.mono hpast⟩
  | windowedAvailability => exact Prepared.mono h hpast
  | backendExperiment => exact h.imp fun _ h => h.mono hpast
  | backendColorSpaceSync => exact h.imp fun _ h => ⟨h.1, h.2.mono hpast⟩

end Mono

/-! ### The initialization thread -/

/-- A switch is turned on, and success is reported, only when that is warranted. -/
def Warranted (past : List Event) : Call → Prop
  | .storeFlag flag value => value = true → Warrants past flag
  | .storeInitState value => value = 2 → Initialized past
  | _ => True

/-- An installer that leaves evidence of its success. -/
theorem installIf_wp {α : Type} {condition : Bool} {targets : Option GameCompat.GameTargets}
    {install : GameCompat.GameTargets → Routine (Except String α)}
    {evidence : GameCompat.GameTargets → List Event → Prop} {past : List Event}
    (hinstall : ∀ targets, (install targets).wp Warranted
      (fun past' r => past ⊆ past' ∧ ∀ a, r = .ok a → evidence targets past') past) :
    (installIf condition targets install).wp Warranted
      (fun past' r => past ⊆ past' ∧ (r = true → condition = true ∧
        ∃ t, targets = some t ∧ evidence t past')) past := by
  cases targets with
  | none => exact ⟨List.Subset.refl past, fun h => nomatch h⟩
  | some targets =>
    cases condition with
    -- the installer was not run, and reports no success
    | false => exact ⟨List.Subset.refl past, fun h => nomatch h⟩
    | true =>
      refine Program.wp_bind.mpr ((hinstall targets).mono (fun _ _ h => h) fun past' r h => ?_)
      refine ⟨h.1, fun hr => ⟨rfl, targets, rfl, ?_⟩⟩
      cases r with
      | ok a => exact h.2 a rfl
      | error e => exact nomatch hr

section Installers

variable {targets : GameCompat.GameTargets} {past : List Event}

/-- The menu gate's switch is stored as the mode has it, and a success leaves evidence. -/
theorem installMenuGate_wp {mode : Mode} (hmode : Configured mode past) :
    (installMenuGate targets mode.forcesHdrMenu (mode != .observe)).wp Warranted
      (fun past' r => past ⊆ past' ∧ ∀ a, r = .ok a → ∃ a,
        ⟨.patchMenuGate targets mode.forcesHdrMenu (mode != .observe), .ok a⟩ ∈ past') past := by
  refine Program.wp_bind.mpr ⟨fun hunlock => ⟨mode, hunlock, hmode⟩, fun _ =>
    ⟨trivial, fun r => ⟨?_, ?_⟩⟩⟩
  -- the events only grow, and the last of them is the installation
  · exact fun _ h => List.mem_cons_of_mem _ (List.mem_cons_of_mem _ h)
  · rintro a rfl
    exact ⟨a, List.mem_cons_self⟩

/-- The override is off while its hook is being installed. -/
theorem installAvailabilityObserver_wp :
    (installAvailabilityObserver targets).wp Warranted
      (fun past' r => past ⊆ past' ∧ ∀ a, r = .ok a →
        ∃ a, ⟨.patchAvailability targets, .ok a⟩ ∈ past') past := by
  refine Program.wp_bind.mpr ⟨Bool.noConfusion, fun _ => ⟨trivial, fun r => ⟨?_, ?_⟩⟩⟩
  · exact fun _ h => List.mem_cons_of_mem _ (List.mem_cons_of_mem _ h)
  · rintro a rfl
    exact ⟨a, List.mem_cons_self⟩

/-- The hook of the graphics configuration has no switch. -/
theorem installConfigObserver_wp :
    (installConfigObserver targets).wp Warranted
      (fun past' r => past ⊆ past' ∧ ∀ a, r = .ok a →
        ∃ a, ⟨.patchGraphicsConfig targets, .ok a⟩ ∈ past') past := by
  refine Program.wp_ask.mpr ⟨trivial, fun r => ⟨List.subset_cons_self _ _, ?_⟩⟩
  rintro a rfl
  exact ⟨a, List.mem_cons_self⟩

/-- Both switches of the backend are off while its hook is being installed. -/
theorem installBackendObserver_wp :
    (installBackendObserver targets).wp Warranted
      (fun past' r => past ⊆ past' ∧ ∀ a, r = .ok a →
        ∃ a, ⟨.patchBackendQuery targets, .ok a⟩ ∈ past') past := by
  refine Program.wp_bind.mpr ⟨Bool.noConfusion, fun _ => Program.wp_bind.mpr
    ⟨Bool.noConfusion, fun _ => ⟨trivial, fun r => ⟨?_, ?_⟩⟩⟩⟩
  · exact fun _ h => List.mem_cons_of_mem _ (List.mem_cons_of_mem _ (List.mem_cons_of_mem _ h))
  · rintro a rfl
    exact ⟨a, List.mem_cons_self⟩

/-- The experiment is turned on for a mode that was prepared, and color spaces are synchronized only
if the mode says so. -/
theorem enableBackendExperiment_wp {mode : Mode} (h : Prepared mode past) :
    (enableBackendExperiment mode.synchronizesHdrColorSpace).wp Warranted
      (fun past' _ => past ⊆ past') past := by
  refine Program.wp_bind.mpr ⟨fun hsync => ⟨mode, hsync, h⟩, fun _ => Program.wp_ask.mpr
    ⟨fun _ => ⟨mode, h.mono (List.subset_cons_self _ _)⟩, fun _ _ h => ?_⟩⟩
  exact List.mem_cons_of_mem _ (List.mem_cons_of_mem _ h)

/-- The switches are turned on for a mode that was prepared. -/
theorem enableExperimentIf_wp {enabled : Bool} {mode : Mode}
    (h : enabled = true → Prepared mode past) :
    (enableExperimentIf enabled mode).wp Warranted (fun past' _ => past ⊆ past') past := by
  cases enabled with
  | false => exact List.Subset.refl past
  | true =>
    rw [enableExperimentIf, if_pos rfl]
    split
    -- the windowed mode has a switch of its own
    · next hwindowed =>
      obtain rfl := eq_of_beq hwindowed
      refine Program.wp_bind.mpr ⟨fun _ => h rfl, fun _ => ?_⟩
      exact (enableBackendExperiment_wp ((h rfl).mono (List.subset_cons_self _ _))).mono
        (fun _ _ h => h) fun _ _ h => List.Subset.trans (List.subset_cons_self _ _) h
    -- the other modes have only the switches of the backend
    · exact enableBackendExperiment_wp (h rfl)

end Installers

/-- **The switches go on only when everything that the mode needs is in place.** Each installer that
reports success has left evidence, and the condition in front of the switches names all that are
needed. -/
theorem installHooks_wp {config : Config} {size : UInt64} {hash : String} {past : List Event}
    (hidentified : Identified size hash past) (hmode : Configured config.mode past) :
    (installHooks config size hash).wp Warranted
      (fun past' r => r = .ok () → past ⊆ past' ∧ FactoryHooked past') past := by
  refine Program.wp_bind.mpr ⟨trivial, fun resolved => ?_⟩
  refine Program.wp_tryThen.mpr (Program.wp_ask.mpr ⟨trivial, fun installed => ?_⟩)
  cases installed with
  | error e => exact fun h => nomatch h
  | ok report =>
    -- what the two calls leave as evidence
    generalize hpast₀ : (⟨.installImportHooks, .ok report⟩ :: ⟨.resolve size hash, resolved⟩ :: past
      : List Event) = past₀
    have hpast : past ⊆ past₀ := by
      rw [← hpast₀]
      exact fun _ h => List.mem_cons_of_mem _ (List.mem_cons_of_mem _ h)
    have hreport : ⟨.installImportHooks, .ok report⟩ ∈ past₀ := by
      rw [← hpast₀]
      exact List.mem_cons_self
    have hresolved (targets) (h : resolved.toOption = some targets) : Resolved targets past₀ := by
      refine ⟨size, hash, hidentified.mono hpast, ?_⟩
      cases resolved with
      | error e => exact nomatch h
      | ok targets' =>
        obtain rfl := Option.some.inj h
        rw [← hpast₀]
        exact List.mem_cons_of_mem _ List.mem_cons_self
    clear hpast₀
    -- the installers
    refine Program.wp_bind.mpr ((installIf_wp fun _ =>
      installMenuGate_wp (hmode.mono hpast)).mono (fun _ _ h => h) ?_)
    rintro past₁ menuGateHooked ⟨hpast₁, hmenu⟩
    refine Program.wp_bind.mpr ((installIf_wp fun _ =>
      installAvailabilityObserver_wp).mono (fun _ _ h => h) ?_)
    rintro past₂ availabilityHooked ⟨hpast₂, havailability⟩
    refine Program.wp_bind.mpr ((installIf_wp fun _ =>
      installConfigObserver_wp).mono (fun _ _ h => h) ?_)
    rintro past₃ graphicsConfigHooked ⟨hpast₃, hgraphics⟩
    refine Program.wp_bind.mpr ((installIf_wp fun _ =>
      installBackendObserver_wp).mono (fun _ _ h => h) ?_)
    rintro past₄ backendHooked ⟨hpast₄, hbackend⟩
    -- all the conditions together are that the mode is prepared
    have hprepared : (config.mode.emulatesHdrFullscreenState && menuGateHooked &&
        (config.mode != .windowedHdr || availabilityHooked) && graphicsConfigHooked &&
        backendHooked && report.dxgiFactoryImports != 0) = true → Prepared config.mode past₄ := by
      simp only [Bool.and_eq_true, Bool.or_eq_true, bne_iff_ne]
      rintro ⟨⟨⟨⟨⟨hemulates, hmenu'⟩, havailability'⟩, hgraphics'⟩, hbackend'⟩, hfactory⟩
      obtain ⟨-, t, ht, hmenu⟩ := hmenu hmenu'
      obtain ⟨-, t₃, ht₃, hgraphics⟩ := hgraphics hgraphics'
      obtain ⟨-, t₄, ht₄, hbackend⟩ := hbackend hbackend'
      -- every installer was given the same targets
      obtain rfl := Option.some.inj (ht.symm.trans ht₃)
      obtain rfl := Option.some.inj (ht.symm.trans ht₄)
      have hpast₁₄ : past₁ ⊆ past₄ := fun _ h => hpast₄ (hpast₃ (hpast₂ h))
      have hpast₀₄ : past₀ ⊆ past₄ := fun _ h => hpast₁₄ (hpast₁ h)
      refine ⟨hemulates, hmode.mono fun _ h => hpast₀₄ (hpast h), ⟨report, hfactory,
        hpast₀₄ hreport⟩, t, (hresolved t ht).mono hpast₀₄, ?_, fun hwindowed => ?_, ?_, hbackend⟩
      · exact hmenu.imp fun _ h => hpast₁₄ h
      · obtain ⟨-, t₂, ht₂, havailability⟩ :=
          havailability (havailability'.resolve_left (not_not_intro hwindowed))
        obtain rfl := Option.some.inj (ht.symm.trans ht₂)
        exact havailability.imp fun _ h => hpast₄ (hpast₃ h)
      · exact hgraphics.imp fun _ h => hpast₄ h
    -- and then the switches
    refine Program.wp_bind.mpr ((enableExperimentIf_wp hprepared).mono (fun _ _ h => h) ?_)
    intro past₅ _ hpast₅
    split
    -- no factory import was hooked
    · exact fun h => nomatch h
    · next hfactory =>
      have hpast₀₅ : past₀ ⊆ past₅ := fun _ h => hpast₅ (hpast₄ (hpast₃ (hpast₂ (hpast₁ h))))
      exact fun _ => ⟨fun _ h => hpast₀₅ (hpast h), report, hfactory, hpast₀₅ hreport⟩

/-- Once the hooks are installed, the initialization is at its end. -/
theorem installHooks_initialized {config : Config} {size : UInt64} {hash : String}
    {past : List Event} (hidentified : Identified size hash past)
    (hmode : Configured config.mode past) :
    (installHooks config size hash).wp Warranted
      (fun past' r => r = .ok () → Initialized past') past := by
  refine (installHooks_wp hidentified hmode).mono (fun _ _ h => h) fun past' r h hr => ?_
  obtain ⟨hpast, hfactory⟩ := h hr
  exact ⟨⟨size, hash, hidentified.mono hpast⟩, ⟨config.mode, hmode.mono hpast⟩, hfactory⟩

/-- `initialize` comes to its end without an error only with the evidence for it. Each step that may
fail ends it. -/
theorem initializeDll_wp :
    initializeDll.wp Warranted (fun past r => r = .ok () → Initialized past) [] := by
  refine Program.wp_bind.mpr ⟨trivial, fun module => ?_⟩
  rw [Program.wp_done]
  split
  · exact fun h => nomatch h
  refine Program.wp_tryThen.mpr (Program.wp_ask.mpr ⟨trivial, fun dllPath => ?_⟩)
  cases dllPath with
  | error e => exact fun h => nomatch h
  | ok dllPath =>
  refine Program.wp_tryThen.mpr (Program.wp_ask.mpr ⟨trivial, fun log => ?_⟩)
  cases log with
  | error e => exact fun h => nomatch h
  | ok log =>
  refine Program.wp_tryThen.mpr (Program.wp_ask.mpr ⟨trivial, fun exePath => ?_⟩)
  cases exePath with
  | error e => exact fun h => nomatch h
  | ok exePath =>
  rw [Program.orElseError_ok]
  split
  · exact fun h => nomatch h
  -- the name of the executable was checked
  next hgame =>
  refine Program.wp_tryThen.mpr (Program.wp_bind.mpr ⟨trivial, fun size => ?_⟩)
  cases size with
  | error e => exact fun h => nomatch h
  | ok size =>
  refine Program.wp_tryThen.mpr (Program.wp_bind.mpr ⟨trivial, fun hash => ?_⟩)
  cases hash with
  | error e => exact fun h => nomatch h
  | ok hash =>
  refine Program.wp_tryThen.mpr (Program.wp_ask.mpr ⟨trivial, fun loaded => ?_⟩)
  cases loaded with
  | error e => exact fun h => nomatch h
  | ok loaded =>
  rw [Program.orElseError_ok]
  -- the path, the size, the hash and the configuration were found on the way
  refine installHooks_initialized ⟨exePath, ?_, ?_, ?_, ?_⟩ ⟨dllPath, loaded.1, loaded.2, rfl, ?_⟩
  · rwa [Bool.not_eq_true', Bool.not_eq_false] at hgame
  · exact .tail _ (.tail _ (.tail _ (.head _)))
  · exact .tail _ (.tail _ (.head _))
  · exact .tail _ (.head _)
  · exact .head _

/-- The outcome is success only if there was no error. -/
theorem initializationThread_wp :
    initializationThread.wp Warranted (fun _ _ => True) [] := by
  refine Program.wp_bind.mpr (initializeDll_wp.mono (fun _ _ h => h) fun past r h => ?_)
  refine Program.wp_bind.mpr ⟨fun hvalue => h ?_, fun _ => trivial⟩
  cases r with
  | ok _ => rfl
  | error e => exact absurd hvalue (show ¬ (3 : UInt8) = 2 by decide)

/-! ### The other entry points -/

/-- Whoever is not permitted to start up does nothing that has to be warranted. -/
theorem warranted_of_permits {held : Multiset Resource} {past : List Event} {c : Call}
    (h : permits false held c) : Warranted past c := by
  cases c with
  | storeFlag flag value => exact absurd (h trivial).1 Bool.false_ne_true
  | storeInitState value => exact absurd h.1 Bool.false_ne_true
  | _ => exact trivial

/-- A hook turns no switch on and reports no outcome. -/
theorem hook_wp (c : GameCall) : (hook c).wp Warranted (fun _ _ => True) [] := by
  have htransfers : (discipline false).Transfers 0 (hook c) fun _ => 0 := hook_transfers c
  exact htransfers.wp.mono (fun _ _ h => warranted_of_permits h.1) fun _ _ _ => trivial

/-- Success was found. -/
def FoundReady (past : List Event) : Prop := ⟨.loadInitState, (2 : UInt8)⟩ ∈ past

/-- Nothing was found at the beginning. -/
theorem not_foundReady_nil : ¬ FoundReady [] := fun h => nomatch h

/-- Only a look at the state can find success. -/
theorem foundReady_cons {c : Call} {answer : c.Answer} {past : List Event}
    (hc : c ≠ .loadInitState) : FoundReady (⟨c, answer⟩ :: past) ↔ FoundReady past := by
  rw [FoundReady, List.mem_cons, or_iff_right]
  · rfl
  · exact fun h => hc (congrArg Sigma.fst h).symm

/-- A look finds success if the state is 2. -/
theorem foundReady_load (state : UInt8) {past : List Event} (hpast : ¬ FoundReady past) :
    FoundReady (⟨.loadInitState, state⟩ :: past) ↔ state = 2 := by
  rw [FoundReady, List.mem_cons]
  refine (or_iff_left hpast).trans ⟨?_, ?_⟩
  · exact fun h => (eq_of_heq (Sigma.mk.inj h).2).symm
  · rintro rfl
    rfl

/-- To start the initialization is not to look at its outcome; at most a failure is stored. -/
theorem startInitialization_wp {past : List Event} (hpast : ¬ FoundReady past) :
    startInitialization.wp Warranted (fun past' _ => ¬ FoundReady past') past := by
  refine Program.wp_bind.mpr ⟨trivial, fun claimed => ?_⟩
  cases claimed with
  | false => exact (foundReady_cons (by simp)).not.mpr hpast
  | true =>
    refine Program.wp_bind.mpr ⟨trivial, fun spawned => ?_⟩
    cases spawned with
    | true => exact (foundReady_cons (by simp)).not.mpr ((foundReady_cons (by simp)).not.mpr hpast)
    -- without a thread the outcome is 3, which needs no warrant
    | false =>
      refine Program.wp_ask.mpr ⟨fun h => absurd h (by decide), fun _ => ?_⟩
      exact (foundReady_cons (by simp)).not.mpr
        ((foundReady_cons (by simp)).not.mpr ((foundReady_cons (by simp)).not.mpr hpast))

/-- The wait ends with success exactly when success was found. -/
theorem waitForInitialization_wp (polls : Nat) {past : List Event} (hpast : ¬ FoundReady past) :
    (waitForInitialization polls).wp Warranted (fun past' r => r = true ↔ FoundReady past')
      past := by
  -- on the number of polls, for the events that lie behind them
  induction polls generalizing past with
  | zero =>
    refine Program.wp_bind.mpr ⟨trivial, fun state => ?_⟩
    rw [Program.wp_done, Program.wp_pure, foundReady_load state hpast, beq_iff_eq]
  | succ polls ih =>
    refine Program.wp_bind.mpr ⟨trivial, fun state => ?_⟩
    have hload := foundReady_load state hpast
    rw [Program.wp_done]
    split
    · next hready => exact iff_of_true rfl (hload.mpr hready)
    -- neither outcome yet, or a failure
    · next hready =>
      split
      · exact iff_of_false Bool.false_ne_true (hload.not.mpr hready)
      · refine Program.wp_bind.mpr ⟨trivial, fun _ => ih ?_⟩
        exact (foundReady_cons (by simp)).not.mpr (hload.not.mpr hready)

/-- What is known of a result. -/
def Reports : (entry : Entry) → List Event → entry.Result → Prop
  | .eldenRingWindowedHdrInit _, past, r => r = true ↔ FoundReady past
  | .eldenRingBorderlessHdrInit _, past, r => r = true ↔ FoundReady past
  | _, _, _ => True

/-- **Every entry point does only what is warranted**, and an initializer returns what it found. -/
theorem body_warranted (entry : Entry) : entry.body.wp Warranted (Reports entry) [] := by
  have hwait (polls : Nat) : (eldenRingWindowedHdrInit polls).wp Warranted
      (fun past r => r = true ↔ FoundReady past) [] :=
    Program.wp_bind.mpr ((startInitialization_wp not_foundReady_nil).mono (fun _ _ h => h)
      fun _ _ h => waitForInitialization_wp polls h)
  cases entry with
  | dllMain module reason =>
    rw [Entry.body, dllMain]
    split
    -- the loader stores the module, and then starts the initialization
    · refine Program.wp_bind.mpr ⟨trivial, fun _ => Program.wp_bind.mpr ⟨trivial, fun _ => ?_⟩⟩
      refine Program.wp_bind.mpr ((startInitialization_wp ?_).mono (fun _ _ h => h) fun _ _ _ => ?_)
      · exact (foundReady_cons (by simp)).not.mpr ((foundReady_cons (by simp)).not.mpr
          not_foundReady_nil)
      · exact trivial
    · exact trivial
  | eldenRingWindowedHdrInit polls => exact hwait polls
  | eldenRingBorderlessHdrInit polls => exact hwait polls
  | initializationThread => exact initializationThread_wp
  | hook c => exact hook_wp c

/-! ### All runs -/

open ThreadSystem (events events_subset mem_events)

/-- A switch or a success that is found was warranted before, and a success that is reported
was found. -/
def Happening.Grounded : Happening → List Happening → Prop
  | .called _ ⟨.loadFlag flag, true⟩, older => Warrants (events older) flag
  | .called _ ⟨.loadInitState, state⟩, older => state = (2 : UInt8) → Initialized (events older)
  | .returned _ (.eldenRingWindowedHdrInit _) r, older => r = true → FoundReady (events older)
  | .returned _ (.eldenRingBorderlessHdrInit _) r, older => r = true → FoundReady (events older)
  | _, _ => True

/-- What is on, and what was found on, was warranted before. -/
structure Grounded (g : Globals) (history : List Happening) : Prop where
  flags : ∀ flag, g.flags flag = true → Warrants (events history) flag
  ready : g.initState = 2 → Initialized (events history)
  found : History.Always Happening.Grounded history

section Runs

variable {code : HookFunction → UInt64} {g g' : Globals} {history : List Happening}

/-- Whatever is on now was on before, or is warranted now. -/
theorem Grounded.cons {e : Happening} (hI : Grounded g history)
    (hflags : ∀ flag, g'.flags flag = true →
      g.flags flag = true ∨ Warrants (events history) flag)
    (hready : g'.initState = 2 → g.initState = 2 ∨ Initialized (events history))
    (hfound : Happening.Grounded e history) : Grounded g' (e :: history) where
  flags flag hflag := by
    have hwarrants : Warrants (events history) flag := (hflags flag hflag).elim (hI.flags flag) id
    exact hwarrants.mono (events_subset (List.suffix_cons e history))
  ready h := by
    have hinitialized : Initialized (events history) := (hready h).elim hI.ready id
    exact hinitialized.mono (events_subset (List.suffix_cons e history))
  found := History.always_cons.mpr ⟨hfound, hI.found⟩

/-- Nothing changes that has to be warranted. -/
theorem Grounded.keep {e : Happening} (hI : Grounded g history) (hflags : g'.flags = g.flags)
    (hinit : g'.initState = g.initState) (hfound : Happening.Grounded e history) :
    Grounded g' (e :: history) :=
  hI.cons (fun _ h => .inl (hflags ▸ h)) (fun h => .inl (hinit ▸ h)) hfound

/-- A call keeps the invariant if what it turns on or reports is warranted. -/
theorem Grounded.perform {i : Nat} {past : List Event} {c : Call} {answer : c.Answer}
    (hI : Grounded g history) (hpast : past ⊆ events history) (hgood : Warranted past c)
    (h : g.perform code c answer = some g') : Grounded g' (.called i ⟨c, answer⟩ :: history) := by
  cases c with
  | storeFlag flag value =>
    obtain rfl := Option.some.inj h
    refine hI.cons (fun flag' hflag => ?_) .inl trivial
    -- the stored switch, or another one
    by_cases hne : flag' = flag
    · subst hne
      have hvalue : value = true := (Function.update_self ..).symm.trans hflag
      exact .inr ((hgood hvalue).mono hpast)
    · exact .inl ((Function.update_of_ne hne ..).symm.trans hflag)
  | storeInitState value =>
    obtain rfl := Option.some.inj h
    -- a success that is stored was reached
    exact hI.cons (fun _ => .inl) (fun hvalue => .inr ((hgood hvalue).mono hpast)) trivial
  | claimInitState =>
    simp only [Globals.perform] at h
    split at h
    · obtain ⟨-, rfl⟩ := Globals.load_eq_some.mp h
      -- the state becomes 1, which is no success
      exact hI.cons (fun _ => .inl) (fun h => absurd h (show ¬ (1 : UInt8) = 2 by decide)) trivial
    · obtain ⟨-, rfl⟩ := Globals.load_eq_some.mp h
      exact hI.keep rfl rfl trivial
  -- what is loaded is what is there
  | loadFlag flag =>
    obtain ⟨rfl, rfl⟩ := Globals.load_eq_some.mp h
    refine hI.keep rfl rfl ?_
    cases hflag : g.flags flag with
    | true => exact hI.flags flag hflag
    | false => exact trivial
  | loadInitState =>
    obtain ⟨rfl, rfl⟩ := Globals.load_eq_some.mp h
    exact hI.keep rfl rfl hI.ready
  | lockCandidateCache =>
    simp only [Globals.perform] at h
    split at h
    · cases h
    · obtain ⟨-, rfl⟩ := Globals.load_eq_some.mp h
      exact hI.keep rfl rfl trivial
  | clearActiveSwapChain object =>
    simp only [Globals.perform] at h
    split at h <;> (obtain ⟨-, rfl⟩ := Globals.load_eq_some.mp h; exact hI.keep rfl rfl trivial)
  | _ =>
    first
    | (obtain ⟨-, rfl⟩ := Globals.load_eq_some.mp h; exact hI.keep rfl rfl trivial)
    | (obtain rfl := Option.some.inj h; exact hI.keep rfl rfl trivial)

/-- A thread that returns reports what it found. -/
theorem Grounded.returned {i : Nat} {entry : Entry} {past : List Event} {r : entry.Result}
    (hI : Grounded g history) (hpast : past ⊆ events history)
    (hreports : Reports entry past r) : Grounded g (.returned i entry r :: history) := by
  refine hI.keep rfl rfl ?_
  cases entry with
  | eldenRingWindowedHdrInit => exact fun hr => hpast (hreports.mp hr)
  | eldenRingBorderlessHdrInit => exact fun hr => hpast (hreports.mp hr)
  | dllMain => exact trivial
  | initializationThread => exact trivial
  | hook => exact trivial

/-- So it is an invariant of the process. -/
theorem process_grounded :
    (process code).Invariant Grounded (fun _ => Warranted) Reports where
  body := body_warranted
  init g h :=
    { flags := fun flag hflag => absurd ((h.flags flag).symm.trans hflag) Bool.false_ne_true
      ready := fun hready => absurd (h.initState.symm.trans hready) (by decide)
      found := History.always_nil }
  enter {g g' history i entry} hI henter := by
    cases entry with
    | initializationThread =>
      obtain ⟨-, henter⟩ := Option.ite_none_right_eq_some.mp henter
      obtain rfl := Option.some.inj henter
      exact hI.keep rfl rfl trivial
    | _ =>
      obtain rfl := Option.some.inj henter
      exact hI.keep rfl rfl trivial
  perform hI hpast _ hgood h := hI.perform (fun _ he => mem_events (hpast _ he)) hgood h
  ret hI hpast hreports := hI.returned (fun _ he => mem_events (hpast _ he)) hreports
  disturb hI h := by
    obtain rfl := Option.some.inj h
    exact ⟨hI.flags, hI.ready, hI.found⟩

/-- **What is on is warranted**, in every run. -/
theorem grounded_of_reachable {s : ProcessState} (h : (process code).system.Reachable s) :
    Grounded s.shared s.history :=
  process_grounded.of_reachable h

/-- **A reported success is true, and stays true**: an initializer returns true only when the
initialization has come to its end, and then its outcome is success for good. -/
theorem initializer_reports {s : ProcessState} (h : (process code).system.Reachable s)
    {i polls : Nat}
    (hreturned : .returned i (.eldenRingWindowedHdrInit polls) true ∈ s.history ∨
      .returned i (.eldenRingBorderlessHdrInit polls) true ∈ s.history) :
    Initialized (events s.history) ∧ s.shared.initState = 2 := by
  have hgrounded := grounded_of_reachable h
  have hfound : FoundReady (events s.history) := by
    -- both names of the initializer run the same code
    rcases hreturned with hreturned | hreturned <;>
    · obtain ⟨older, hsuffix, hfound⟩ := hgrounded.found.of_mem hreturned
      exact events_subset hsuffix (hfound rfl)
  -- a success that was found once is still there
  have hready : s.shared.initState = 2 := initState_of_load h (.inl rfl) hfound
  exact ⟨hgrounded.ready hready, hready⟩

/-- The mod loader asks after the initialization, and is told of its success. -/
theorem initializer_reports_started :
    ∃ history : List Happening, Initialized (events history) ∧
      .returned 0 (.eldenRingWindowedHdrInit 0) true ∈ history := by
  obtain ⟨history, h⟩ := exists_started sampleCode sampleMemory sampleTargets
  have h := ThreadSystem.reachable_enter 0 (.eldenRingWindowedHdrInit 0) h rfl
  have h := ThreadSystem.reachable_call false h rfl
  have h := ThreadSystem.reachable_call (2 : UInt8) h rfl
  have h := ThreadSystem.reachable_return h
  exact ⟨_, (initializer_reports h (.inl (.head _))).1, .head _⟩

end Runs

/-! ### What the game is told -/

namespace GameCall

/-- The game's answer, as a hook hands it on. -/
def plain : (c : GameCall) → c.Answer → c.Answer
  | hdrMenuGate _, answer => byteOfBool (answer != 0)
  | hdrCommonAvailability, answer => byteOfBool (answer != 0)
  | hdrBackendActualQuery .., answer => byteOfBool (answer != 0)
  | _, answer => answer

/-- What a hook may say instead, and the switch that lets it. -/
def override : (c : GameCall) → Option (Flag × c.Answer)
  | hdrMenuGate _ => some (.menuGateUnlock, (0 : UInt8))
  | hdrCommonAvailability => some (.windowedAvailability, (1 : UInt8))
  | hdrBackendActualQuery .. => some (.backendExperiment, (1 : UInt8))
  | _ => none

/-- Of the hooks, only the three of the game may say something else than the game did. -/
theorem Returns.plain_or_override {c : GameCall} {past : List Event} {answer r : c.Answer}
    (h : c.Returns past answer r) :
    r = c.plain answer ∨ ∃ flag, c.override = some (flag, r) ∧ ⟨.loadFlag flag, true⟩ ∈ past := by
  cases c with
  | hdrMenuGate this =>
    refine h.imp_right ?_
    rintro ⟨hflag, rfl⟩
    exact ⟨_, rfl, hflag⟩
  | hdrCommonAvailability =>
    refine h.imp_right ?_
    rintro ⟨hflag, rfl⟩
    exact ⟨_, rfl, hflag⟩
  | hdrBackendActualQuery backend outputIdentity =>
    refine h.imp_right ?_
    rintro ⟨hflag, rfl⟩
    exact ⟨_, rfl, hflag⟩
  | _ => exact .inl h

end GameCall

section Runs

variable {code : HookFunction → UInt64} {s : ProcessState} {i : Nat}

/-- **No answer is changed without warrant**: a hook that returns something else than the game
answered has the warrant of the switch for it. -/
theorem override_warranted (h : (process code).system.Reachable s) {c : GameCall}
    {past : List Event} {r : c.Answer} (ht : s.threads i = some ⟨.hook c, past, .done r⟩)
    {function : UInt64} {answer : c.Answer} (hanswer : ⟨.forward function c, answer⟩ ∈ past)
    (hr : r ≠ c.plain answer) :
    ∃ flag, c.override = some (flag, r) ∧ Warrants (events s.history) flag := by
  have hrunning := ThreadSystem.running_of_reachable h i _ ht
  have hmem := mem_forwards hanswer
  -- a hook that has forwarded nothing has no answer of the game
  obtain ⟨hnone, -, -⟩ | ⟨function', answer', hforwarded, hreturns⟩ :=
    (hook_ends c).result hrunning.goes
  · rw [hnone] at hmem
    exact nomatch hmem
  · rw [hforwarded.forwards, List.mem_singleton] at hmem
    obtain rfl : answer = answer' := by
      cases hmem
      rfl
    obtain ⟨flag, hoverride, hflag⟩ := hreturns.plain_or_override.resolve_left hr
    -- the switch was found on, so its warrant was there
    obtain ⟨older, hsuffix, hwarrants⟩ :=
      (grounded_of_reachable h).found.of_mem (hrunning.past _ hflag)
    exact ⟨flag, hoverride, Warrants.mono hwarrants (events_subset hsuffix)⟩

/-- The row is shown although the game would gray it out. -/
theorem override_warranted_menuGate :
    ∃ history : List Happening, Warrants (events history) .menuGateUnlock := by
  obtain ⟨history, h⟩ := exists_started sampleCode sampleMemory sampleTargets
  have h := ThreadSystem.reachable_enter 0 (.hook (.hdrMenuGate 0x10)) h rfl
  have h := ThreadSystem.reachable_call (some 0x500) h rfl
  have h := ThreadSystem.reachable_call (1 : UInt8) h rfl
  have h := ThreadSystem.reachable_call true h rfl
  have h := ThreadSystem.reachable_call false h rfl
  have hanswer : ⟨.forward 0x500 (.hdrMenuGate 0x10), (1 : UInt8)⟩ ∈
      [⟨.loadFlag .windowedAvailability, false⟩, ⟨.loadFlag .menuGateUnlock, true⟩,
        ⟨.forward 0x500 (.hdrMenuGate 0x10), (1 : UInt8)⟩,
        (⟨.loadOriginal (.game .hdrMenuGate), some 0x500⟩ : Event)] := .tail _ (.tail _ (.head _))
  obtain ⟨flag, hoverride, hwarrants⟩ :=
    override_warranted h (ThreadSystem.State.alone_threads 0 _) hanswer
      (show (0 : UInt8) ≠ 1 by decide)
  cases hoverride
  exact ⟨_, hwarrants⟩

end Runs

end Runtime
end WindowedHdr
