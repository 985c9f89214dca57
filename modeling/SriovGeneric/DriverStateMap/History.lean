import SriovGeneric.DriverStateMap.Runs

/-!
# What a run of the `DriverStateMap` plugin did

`Runs` proves what every state a run reaches satisfies; this module reads the state after a run
back to the run's own events and outside calls.

* `loadsFollowLastRequest`: every module an event loads is the driver of a type that the last
  requested state needs (`DesireState` is that state: `desireState_run`);
* `attemptsCountAcceptedRuns`: each counter of the ledger is, modulo `2 ^ 64`, the number of the
  run's setter runs for its parameter that `trySetKernelParam` accepted (`LedgerCounts`), and the
  setter ran only for queued parameters;
* `kernelArgsRequested`: every queued parameter, and every parameter the setter ran for, is
  `pci=realloc` or an IOMMU parameter of a run that asked for a state needing VFIO;
* `reallocRecovery`: after an `Apply` whose `SyncNodeState` ran out of memory, the next
  `OnNodeStateChange` runs the setter for `pci=realloc`, and reboots when the setter asks to.
-/

namespace Generic.DriverStateMap

variable (c : Consts)

/-! ## `DesireState` -/

section
variable {c} {s : GenericPlugin} {e : Event}

theorem step_desireState : (step c s e).1.desireState = e.requested.or s.desireState := by
  cases e with
  | onNodeStateChange new env => simp [step, onNodeStateChange_state, Event.requested]
  | apply env order => simp [step, Event.requested]

end

/-- `DesireState` after a run from `p`: the state of the run's last `OnNodeStateChange`, or `p`'s. -/
theorem desireState_run (p : GenericPlugin) (events : List Event) :
    (run c p events).1.desireState = (events.filterMap Event.requested).getLast?.or p.desireState :=
  runFrom_induction_events (step c)
    (fun s evs _ => s.desireState = (evs.filterMap Event.requested).getLast?.or p.desireState)
    rfl (fun s evs log e h => by
      dsimp only at h ⊢
      rw [step_desireState, h, getLast?_filterMap_append_singleton, Option.or_assoc]) events

/-- **Modules follow the last request.**  Every `LoadKernelModule` call an event makes after a run
from `NewGenericPlugin` is for the driver of a type that the state of the run's last
`OnNodeStateChange` needs, a driver that was not loaded. -/
def LoadsFollowLastRequest : Prop :=
  ∀ runningOnHost events e name err,
    let s := (run c (newGenericPlugin runningOnHost) events).1
    .loadKernelModule name err ∈ (step c s e).2 →
      ∃ id d, (events.filterMap Event.requested).getLast? = some d ∧ name = id.driverName ∧
        s.driverLoaded id = false ∧ driverNeeded c id d

theorem loadsFollowLastRequest : LoadsFollowLastRequest c := by
  intro runningOnHost events e name err s h
  obtain ⟨id, d, hd, hname, hoff, hn⟩ := step_load h
  rw [desireState_run, newGenericPlugin, Option.or_none] at hd
  exact ⟨id, d, hd, hname, hoff, hn⟩

/-! ## The ledger -/

/-- The ledger over a run: each counter, read as Go reads a map (0 when absent), counts modulo
`2 ^ 64` the setter runs for its parameter that `trySetKernelParam` accepted, and the setter ran
only for queued parameters. -/
structure LedgerCounts (s : GenericPlugin) (log : List Call) : Prop where
  attempts : ∀ k, ((s.desiredKernelParams.lookup k).getD 0).toNat = acceptedRuns k log % 2 ^ 64
  queued : ∀ k, k ∉ s.desiredKernelParams → scriptRuns k log = 0

theorem ledgerCounts_newGenericPlugin (runningOnHost : Bool) :
    LedgerCounts (newGenericPlugin runningOnHost) [] :=
  ⟨fun _ => rfl, fun _ _ => rfl⟩

section
variable {c} {s : GenericPlugin} {log : List Call}

theorem ledgerCounts_onNodeStateChange (h : LedgerCounts s log) (new : SriovNetworkNodeState)
    (env : NodeStateEnv) :
    LedgerCounts (onNodeStateChange c s new env).state (log ++ (onNodeStateChange c s new env).calls) := by
  refine ⟨fun k => ?_, fun k hk => ?_⟩
  · rw [acceptedRuns_append, ← Nat.mod_add_mod, ← h.attempts k]
    exact (onNodeStateChange_attempts k).1
  · rw [scriptRuns_append, (onNodeStateChange_attempts k).2 hk,
      h.queued k fun h' => hk (mem_onNodeStateChange_desiredKernelParams.2 (mem_addVfioDesiredKernelParam h'))]

theorem ledgerCounts_apply (h : LedgerCounts s log) (env : ApplyEnv) (order : RangeOrder DriverId) :
    LedgerCounts (apply c env order s).state (log ++ (apply c env order s).calls) := by
  have hruns (k : String) : scriptRuns k (apply c env order s).calls = 0 :=
    scriptRuns_eq_zero apply_isLoad_or_ofHost
  refine ⟨fun k => ?_, fun k hk => ?_⟩
  · rw [acceptedRuns_append, acceptedRuns_eq_zero (hruns k), Nat.add_zero, attempts_apply]
    exact h.attempts k
  · rw [scriptRuns_append, hruns k, h.queued k fun h' => hk (mem_apply_desiredKernelParams.2 (.inl h'))]

theorem ledgerCounts_step (h : LedgerCounts s log) (e : Event) :
    LedgerCounts (step c s e).1 (log ++ (step c s e).2) := by
  cases e with
  | onNodeStateChange new env => exact ledgerCounts_onNodeStateChange h new env
  | apply env order => exact ledgerCounts_apply h env order

end

/-- **Counters count accepted runs.**  After every run from `NewGenericPlugin`, each parameter's
counter, read as Go reads a map (0 when absent), is modulo `2 ^ 64` the number of the run's setter
runs for it that `trySetKernelParam` accepted: a run that fails, and with it the call, is not
counted.  The setter ran only for parameters the ledger holds. -/
def AttemptsCountAcceptedRuns : Prop :=
  ∀ runningOnHost events k,
    let r := run c (newGenericPlugin runningOnHost) events
    ((r.1.desiredKernelParams.lookup k).getD 0).toNat = acceptedRuns k r.2 % 2 ^ 64 ∧
      (0 < scriptRuns k r.2 → k ∈ r.1.desiredKernelParams)

theorem ledgerCounts_run (runningOnHost : Bool) (events : List Event) :
    LedgerCounts (run c (newGenericPlugin runningOnHost) events).1
      (run c (newGenericPlugin runningOnHost) events).2 := by
  simpa using runFrom_induction (step c) LedgerCounts (ledgerCounts_newGenericPlugin runningOnHost)
    (fun _ _ e h => ledgerCounts_step h e) events

/-- The setter ran only for parameters the ledger holds. -/
theorem LedgerCounts.mem_of_scriptRuns_pos {s : GenericPlugin} {log : List Call}
    (h : LedgerCounts s log) {k : String} (hpos : 0 < scriptRuns k log) : k ∈ s.desiredKernelParams :=
  by_contra fun hk => (h.queued k hk ▸ hpos).false

theorem attemptsCountAcceptedRuns : AttemptsCountAcceptedRuns c := fun runningOnHost events k =>
  have h := ledgerCounts_run c runningOnHost events
  ⟨h.attempts k, h.mem_of_scriptRuns_pos⟩

/-- Every queued parameter is `pci=realloc`, or an IOMMU parameter after a request of a state that
needs VFIO. -/
def QueuedRequested (s : GenericPlugin) (events : List Event) : Prop :=
  ∀ k ∈ s.desiredKernelParams, k = c.kernelParamPciRealloc ∨
    (k = c.kernelParamIntelIommu ∨ k = c.kernelParamIommuPt) ∧
      ∃ new ∈ events.filterMap Event.requested, driverNeeded c .vfio new

theorem queuedRequested_step {s : GenericPlugin} {events : List Event}
    (h : QueuedRequested c s events) (e : Event) : QueuedRequested c (step c s e).1 (events ++ [e]) := by
  have hmono : ∀ new ∈ events.filterMap Event.requested,
      new ∈ (events ++ [e]).filterMap Event.requested := fun new hn => by
    rw [List.filterMap_append]; exact List.mem_append_left _ hn
  have hold : ∀ k ∈ s.desiredKernelParams, k = c.kernelParamPciRealloc ∨
      (k = c.kernelParamIntelIommu ∨ k = c.kernelParamIommuPt) ∧
        ∃ new ∈ (events ++ [e]).filterMap Event.requested, driverNeeded c .vfio new :=
    fun k hk => (h k hk).imp_right fun ⟨hiommu, new, hn, hv⟩ => ⟨hiommu, new, hmono new hn, hv⟩
  cases e with
  | onNodeStateChange new env =>
    intro k hk
    rcases mem_addVfioDesiredKernelParam_iff.1 (mem_onNodeStateChange_desiredKernelParams.1 hk) with
      hk | ⟨⟨-, hv⟩, hiommu⟩
    · exact hold k hk
    · exact .inr ⟨hiommu, new, by simp [List.filterMap_append, Event.requested], hv⟩
  | apply env order =>
    intro k hk
    rcases mem_apply_desiredKernelParams.1 hk with hk | ⟨rfl, -⟩
    exacts [hold k hk, .inl rfl]

/-- **Only requested kernel arguments.**  After every run from `NewGenericPlugin`, every parameter
the ledger holds, and every parameter the setter ran for, is `pci=realloc`, or one of the two IOMMU
parameters in a run with an `OnNodeStateChange` whose state needs VFIO. -/
def KernelArgsRequested : Prop :=
  ∀ runningOnHost events k,
    let r := run c (newGenericPlugin runningOnHost) events
    (k ∈ r.1.desiredKernelParams ∨ 0 < scriptRuns k r.2) →
      k = c.kernelParamPciRealloc ∨ (k = c.kernelParamIntelIommu ∨ k = c.kernelParamIommuPt) ∧
        ∃ new ∈ events.filterMap Event.requested, driverNeeded c .vfio new

theorem kernelArgsRequested : KernelArgsRequested c := by
  intro runningOnHost events k r hk
  have hq : QueuedRequested c r.1 events :=
    runFrom_induction_events (step c) (fun s evs _ => QueuedRequested c s evs)
      (fun _ h => absurd h (AList.not_mem_empty _)) (fun _ _ _ e h => queuedRequested_step c h e) events
  exact hq k (hk.elim id (ledgerCounts_run c runningOnHost events).mem_of_scriptRuns_pos)

/-! ## Recovering from a failure to allocate memory -/

/-- **Recovery from a failure to allocate memory.**  After an `Apply` whose `SyncNodeState` failed
with an error containing `cannot allocate memory`, the next `OnNodeStateChange` whose outside calls
do not fail, on a command line without `pci=realloc`, runs the setter for `pci=realloc` once, and
asks for a reboot and a drain when that run printed a positive integer. -/
def ReallocRecovery : Prop :=
  ∀ p env order new nsEnv msg,
    (∃ d pfs, .syncNodeState d pfs (some msg) ∈ (apply c env order p).calls) →
    contains msg "cannot allocate memory" = true →
    (∀ k, (nsEnv.isKernelCmdLineParamSet k).2 = none) → (∀ k, SetterWellBehaved (nsEnv.enableKargs k)) →
    nsEnv.writeSwitchdevConfFile.2 = none →
    (nsEnv.isKernelCmdLineParamSet c.kernelParamPciRealloc).1 = false →
    let o := onNodeStateChange c (apply c env order p).state new nsEnv
    scriptRuns c.kernelParamPciRealloc o.calls = 1 ∧
      (ReportsReboot (nsEnv.enableKargs c.kernelParamPciRealloc) → o.ret.2.1 = true ∧ o.ret.1 = true)

theorem reallocRecovery : ReallocRecovery c := by
  intro p env order new nsEnv msg hsync hmsg hchk hrun hws hset o
  have hq : c.kernelParamPciRealloc ∈ addVfioDesiredKernelParam c new (apply c env order p).state :=
    mem_addVfioDesiredKernelParam (mem_apply_desiredKernelParams.2 (.inr ⟨rfl, msg, hsync, hmsg⟩))
  obtain ⟨-, -, hruns, -, hreboot, hdrain⟩ := oneFullPass c _ new nsEnv hchk hrun hws
  refine ⟨by rw [hruns, if_pos ⟨addVfioDesiredKernelParam_eq ▸ hq, hset⟩], fun hr => ?_⟩
  have h₁ : o.ret.2.1 = true := hreboot.2 (.inr ⟨_, addVfioDesiredKernelParam_eq ▸ hq, hset, hr⟩)
  exact ⟨h₁, by rw [hdrain, h₁, Bool.or_true]⟩

/-- A state with no virtual functions whose `SyncNodeState` runs out of memory, then the same state
again with a setter that prints `1`: the setter runs for `pci=realloc` and the node is rebooted. -/
theorem reallocRecovery_setter_prints_one :
    let c : Consts := ⟨"vfio-pci", "netdevice", "virtio", "vhost", "intel_iommu=on", "iommu=pt",
      "pci=realloc", fun _ _ => false⟩
    let state : SriovNetworkNodeState := ⟨⟨[⟨"0000:3b:00.0", 0, []⟩]⟩, ⟨[⟨"0000:3b:00.0", 0⟩]⟩⟩
    let p : GenericPlugin := { newGenericPlugin false with desireState := some state }
    let env : ApplyEnv := ⟨fun _ => none, ([], none), none, some "cannot allocate memory"⟩
    let nsEnv : NodeStateEnv := ⟨fun _ => (false, none), fun _ => .exited 0 "1", (false, none), .stored⟩
    let o := onNodeStateChange c (apply c env .stored p).state state nsEnv
    scriptRuns "pci=realloc" o.calls = 1 ∧ o.ret.2.1 = true := by
  intro c state p env nsEnv o
  have hcalls : (apply c env .stored p).calls = [.getPfsToSkip state ([], none), .chroot "/host" none,
      .syncNodeState state [] (some "cannot allocate memory"), .exitChroot] := rfl
  obtain ⟨h₁, h₂⟩ := reallocRecovery c p env .stored state nsEnv "cannot allocate memory"
    ⟨state, [], by rw [hcalls]; simp⟩ (by decide) (fun _ => rfl) (fun _ => .inl ⟨"1", 1, rfl, rfl⟩) rfl rfl
  exact ⟨h₁, (h₂ ⟨"1", 1, rfl, rfl, by decide⟩).1⟩

end Generic.DriverStateMap
