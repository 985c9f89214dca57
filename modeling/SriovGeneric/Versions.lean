import SriovGeneric.TriState.History
import SriovGeneric.DriverStateMap.History

/-!
# The two versions side by side

Each property below is stated once per version in that version's `Runs` or `NodeState` module, and
proved there from the version's run invariant; this module puts the two versions together.

* `needed_drivers_loaded`: whenever `Apply` reaches `SyncNodeState` or returns nil, every driver
  the desired state needs is loaded;
* `vfio_load_needs_iommu`: `vfio_pci` is loaded only with both IOMMU parameters queued;
* `driver_status_forward`: driver statuses only move forward, a driver is loaded exactly when the
  run loaded its module, and no loaded driver's module is loaded again;
* `apply_idempotent`: after an `Apply` that synced, `OnNodeStateChange` with the same interfaces
  leaves nothing for the next `Apply` to do;
* `last_state_is_last_success`: `LastState` is the state of the last *successful* sync, and the
  short cut is taken only for its interfaces; `last_sync_may_have_failed`: the last sync of the run
  may have failed, and for other interfaces;
* `reboot_kept_unless_error`: the tri-state version never drops a reboot signal of the same call;
  the `DriverStateMap` version keeps it unless the call fails, and `reboot_signal_dropped`: a later
  error does drop it;
* `kernel_param_pass_exact`: over every ledger, order and outcome of the outside calls, the
  kernel-parameter pass does a `FullPass`: `SetAllDesiredKernelParams` always, with the parameters
  absent from the command line with at most 4 attempts due, and `syncDesiredKernelParams` whenever
  it returns no error, with those absent from the command line due;
* `one_full_pass`: `OnNodeStateChange` runs exactly one full kernel-parameter pass, in the
  `DriverStateMap` version whenever no outside call fails, in the tri-state version whenever the
  switchdev file is unchanged;
* `realloc_after_memory_failure`: the `DriverStateMap` version queues `pci=realloc` exactly after a
  `SyncNodeState` that failed for lack of memory and drops no queued parameter, the tri-state
  version never queues it;
* `apply_fails_fast`: `Apply` returns the error of its first failed outside call and makes no call
  after it but the exit of a chroot it entered when `SyncNodeState` failed, and a failed `Apply`
  leaves `LastState` as it was;
* `requests_idempotent`: a second `OnNodeStateChange` with the same desired state changes no driver
  status and queues no new kernel parameter (the setter still runs again: `noGiveUp`);
* `refactor_keeps_onNodeStateChange`: from corresponding plugins and outside calls, when no outside
  call fails, the switchdev file is unchanged and no counter has reached 5, both versions of
  `OnNodeStateChange` return the same, set the same desired state and leave the same ledger.

What a whole run did, read back from its events and outside calls (the `History` modules):

* `attempts_count_runs`: each counter of the ledger counts the setter's runs for its parameter
  (in the `DriverStateMap` version those that `trySetKernelParam` accepted), and the setter ran
  only for queued parameters;
* `kernel_args_requested`: every queued parameter is an IOMMU parameter of a requested state that
  needs VFIO, or (in the `DriverStateMap` version) `pci=realloc`;
* `module_loads_follow_requests`: in the `DriverStateMap` version every module loaded serves the
  last requested state; in the tri-state version only some requested state;
* `reboot_only_with_cause`: `OnNodeStateChange` asks for a reboot only after a setter run or a
  switchdev write that asked for one.

After each theorem whose statement has hypotheses, a run on sample inputs meets them all.
-/

namespace Generic

theorem needed_drivers_loaded (c : Consts) :
    TriState.NeededDriversLoaded c ∧ DriverStateMap.NeededDriversLoaded c :=
  ⟨TriState.neededDriversLoaded c, DriverStateMap.neededDriversLoaded c⟩

/-- A fresh plugin asked for VFs bound to `vfio-pci`, then an `Apply` whose outside calls all
succeed: in both versions `vfio_pci` is loaded after it. -/
theorem needed_drivers_loaded_vfio :
    let c := Consts.upstream
    let env : ApplyEnv := ⟨fun _ => none, ([], none), none, none⟩
    let et : List TriState.Event :=
      [.onNodeStateChange vfioRequest ⟨fun _ => false, fun _ => .exited 0 "1", (false, none), .stored⟩]
    let ed : List DriverStateMap.Event :=
      [.onNodeStateChange vfioRequest ⟨fun _ => (false, none), fun _ => .exited 0 "1", (false, none), .stored⟩]
    (TriState.apply env (TriState.run c (TriState.newGenericPlugin false) et).1).state.loadVfioDriver =
        .loaded ∧
      (DriverStateMap.apply c env .stored
        (DriverStateMap.run c (DriverStateMap.newGenericPlugin false) ed).1).state.driverLoaded .vfio := by
  intro c env et ed
  exact ⟨((needed_drivers_loaded c).1 false et env (.inl (by decide)) vfioRequest (by decide)).1 (by decide),
    (needed_drivers_loaded c).2 false ed env .stored (.inl (by decide)) vfioRequest (by decide) .vfio
      (by decide)⟩

theorem vfio_load_needs_iommu (c : Consts) :
    TriState.VfioLoadNeedsIommu c ∧ DriverStateMap.VfioLoadNeedsIommu c :=
  ⟨TriState.vfioLoadNeedsIommu c, DriverStateMap.vfioLoadNeedsIommu c⟩

/-- A fresh plugin asked for VFs bound to `vfio-pci`: the next `Apply` of either version loads
`vfio_pci`, and both IOMMU parameters are queued. -/
theorem vfio_load_after_request :
    let c := Consts.upstream
    let st := (TriState.run c (TriState.newGenericPlugin false)
      [.onNodeStateChange vfioRequest ⟨fun _ => false, fun _ => .exited 0 "1", (false, none), .stored⟩]).1
    let sd := (DriverStateMap.run c (DriverStateMap.newGenericPlugin false)
      [.onNodeStateChange vfioRequest
        ⟨fun _ => (false, none), fun _ => .exited 0 "1", (false, none), .stored⟩]).1
    ("intel_iommu=on" ∈ st.desiredKernelParams ∧ "iommu=pt" ∈ st.desiredKernelParams) ∧
      "intel_iommu=on" ∈ sd.desiredKernelParams ∧ "iommu=pt" ∈ sd.desiredKernelParams := by
  intro c st sd
  let env : ApplyEnv := ⟨fun _ => none, ([], none), none, none⟩
  exact ⟨(vfio_load_needs_iommu c).1 false _ (.apply env) none (by decide),
    (vfio_load_needs_iommu c).2 false _ (.apply env .stored) none (by decide)⟩

theorem driver_status_forward (c : Consts) :
    TriState.DriverStatusForward c ∧ DriverStateMap.DriverStatusForward c :=
  ⟨TriState.driverStatusForward c, DriverStateMap.driverStatusForward c⟩

/-- A fresh plugin asked for VFs bound to `vfio-pci`: the next `Apply` of either version loads
`vfio_pci`, which was not loaded. -/
theorem driver_status_forward_vfio :
    let c := Consts.upstream
    let env : ApplyEnv := ⟨fun _ => none, ([], none), none, none⟩
    let st := (TriState.run c (TriState.newGenericPlugin false)
      [.onNodeStateChange vfioRequest ⟨fun _ => false, fun _ => .exited 0 "1", (false, none), .stored⟩]).1
    let sd := (DriverStateMap.run c (DriverStateMap.newGenericPlugin false)
      [.onNodeStateChange vfioRequest
        ⟨fun _ => (false, none), fun _ => .exited 0 "1", (false, none), .stored⟩]).1
    .loadKernelModule "vfio_pci" none ∈ (TriState.step c st (.apply env)).2 ∧
      st.loadVfioDriver ≠ .loaded ∧
      .loadKernelModule "vfio_pci" none ∈ (DriverStateMap.step c sd (.apply env .stored)).2 ∧
      sd.driverLoaded .vfio = false := by
  intro c env st sd
  have ht : .loadKernelModule "vfio_pci" none ∈ (TriState.step c st (.apply env)).2 := by decide
  have hd : .loadKernelModule "vfio_pci" none ∈ (DriverStateMap.step c sd (.apply env .stored)).2 := by
    decide
  obtain ⟨-, hvt⟩ | ⟨hv, -⟩ := ((driver_status_forward c).1 false _ (.apply env)).2.2.2 _ _ ht
  · obtain ⟨id, hid, hoff⟩ := ((driver_status_forward c).2 false _ (.apply env .stored)).2.2 _ _ hd
    obtain rfl : id = .vfio := DriverStateMap.DriverId.driverName_inj hid.symm
    exact ⟨ht, hvt, hd, hoff⟩
  · exact absurd hv (by decide)

theorem apply_idempotent (c : Consts) :
    TriState.ApplyIdempotent c ∧ DriverStateMap.ApplyIdempotent c :=
  ⟨TriState.applyIdempotent c, DriverStateMap.applyIdempotent c⟩

/-- A fresh plugin asked for VFs bound to `vfio-pci`, an `Apply` that syncs, and the same request
again: in both versions the next `Apply` returns nil and makes no call. -/
theorem apply_idempotent_after_sync :
    let c := Consts.upstream
    let env : ApplyEnv := ⟨fun _ => none, ([], none), none, none⟩
    let nt : TriState.NodeStateEnv := ⟨fun _ => false, fun _ => .exited 0 "1", (false, none), .stored⟩
    let nd : DriverStateMap.NodeStateEnv :=
      ⟨fun _ => (false, none), fun _ => .exited 0 "1", (false, none), .stored⟩
    let st := (TriState.run c (TriState.newGenericPlugin false) [.onNodeStateChange vfioRequest nt]).1
    let sd := (DriverStateMap.run c (DriverStateMap.newGenericPlugin false)
      [.onNodeStateChange vfioRequest nd]).1
    let st' := (TriState.run c (TriState.apply env st).state [.onNodeStateChange vfioRequest nt]).1
    let sd' := (DriverStateMap.run c (DriverStateMap.apply c env .stored sd).state
      [.onNodeStateChange vfioRequest nd]).1
    TriState.apply env st' = ⟨.returned none, st', []⟩ ∧
      DriverStateMap.apply c env .stored sd' = ⟨.returned none, sd', []⟩ := by
  intro c env nt nd st sd st' sd'
  have hsync : ∀ calls : List Call, .syncNodeState vfioRequest [] none ∈ calls →
      ∃ call ∈ calls, call.IsSync := fun _ h => ⟨_, h, trivial⟩
  exact ⟨(apply_idempotent c).1 false [.onNodeStateChange vfioRequest nt] env (by decide)
      (hsync _ (by decide)) vfioRequest (by decide) [(vfioRequest, nt)] env
      fun _ h => by rw [List.mem_singleton.1 h],
    (apply_idempotent c).2 false [.onNodeStateChange vfioRequest nd] env .stored (by decide)
      (hsync _ (by decide)) vfioRequest (by decide) [(vfioRequest, nd)] env .stored
      fun _ h => by rw [List.mem_singleton.1 h]⟩

theorem last_state_is_last_success (c : Consts) :
    TriState.LastStateIsLastSuccess c ∧ DriverStateMap.LastStateIsLastSuccess c :=
  ⟨TriState.lastStateIsLastSuccess c, DriverStateMap.lastStateIsLastSuccess c⟩

/-- A request, then an `Apply` that syncs it: in both versions the next `Apply` takes the short cut,
for the interfaces of the last successful sync. -/
theorem last_state_after_sync :
    let c := Consts.upstream
    let env : ApplyEnv := ⟨fun _ => none, ([], none), none, none⟩
    let rt := TriState.run c (TriState.newGenericPlugin false)
      [.onNodeStateChange vfioRequest ⟨fun _ => false, fun _ => .exited 0 "1", (false, none), .stored⟩,
        .apply env]
    let rd := DriverStateMap.run c (DriverStateMap.newGenericPlugin false)
      [.onNodeStateChange vfioRequest ⟨fun _ => (false, none), fun _ => .exited 0 "1", (false, none), .stored⟩,
        .apply env .stored]
    (∃ d last, rt.1.desireState = some d ∧ lastSynced rt.2 = some last ∧
        last.spec.interfaces = d.spec.interfaces) ∧
      ∃ d last, rd.1.desireState = some d ∧ lastSynced rd.2 = some last ∧
        last.spec.interfaces = d.spec.interfaces := by
  intro c env rt rd
  have hnil (calls : List Call) (h : calls = []) : ∀ call ∈ calls, ¬ call.IsSync :=
    fun _ hc => absurd (h ▸ hc) (List.not_mem_nil _)
  exact ⟨((last_state_is_last_success c).1 false _ env).2 (by decide) (hnil _ (by decide)),
    ((last_state_is_last_success c).2 false _ env .stored).2 (by decide) (hnil _ (by decide))⟩

/-- In neither version, for no constants, does a short cut always follow a successful
`SyncNodeState` of the same interfaces. -/
theorem last_sync_may_have_failed :
    ¬ ∃ c, TriState.ShortCutAfterLastSync c ∨ DriverStateMap.ShortCutAfterLastSync c := by
  rintro ⟨c, h | h⟩
  · exact TriState.shortCutAfterLastSync_false c h
  · exact DriverStateMap.shortCutAfterLastSync_false c h

theorem reboot_kept_unless_error (c : Consts) :
    TriState.RebootKept c ∧ DriverStateMap.RebootKeptUnlessError c :=
  ⟨TriState.rebootKept c, DriverStateMap.rebootKeptUnlessError c⟩

/-- A fresh plugin asked for VFs bound to `vfio-pci` and a setter that prints `1`: in both versions
the call asks for a reboot and a drain. -/
theorem reboot_kept_setter_prints_one :
    let c := Consts.upstream
    let et : TriState.NodeStateEnv := ⟨fun _ => false, fun _ => .exited 0 "1", (false, none), .stored⟩
    let ed : DriverStateMap.NodeStateEnv :=
      ⟨fun _ => (false, none), fun _ => .exited 0 "1", (false, none), .stored⟩
    let t := TriState.onNodeStateChange c (TriState.newGenericPlugin false) vfioRequest et
    let d := DriverStateMap.onNodeStateChange c (DriverStateMap.newGenericPlugin false) vfioRequest ed
    t.ret.2.1 = true ∧ t.ret.1 = true ∧ d.ret.2.1 = true ∧ d.ret.1 = true := by
  intro c et ed t d
  have hcause (calls : List Call) (h : .enableKargs "intel_iommu=on" (.exited 0 "1") ∈ calls) :
      (∃ k run, .enableKargs k run ∈ calls ∧ ReportsReboot run) ∨
        ∃ st err, .writeSwitchdevConfFile st (true, err) ∈ calls :=
    .inl ⟨_, _, h, "1", 1, rfl, rfl, by decide⟩
  have ht := (reboot_kept_unless_error c).1 (TriState.newGenericPlugin false) vfioRequest et (hcause _ (by decide))
  have hd := ((reboot_kept_unless_error c).2 (DriverStateMap.newGenericPlugin false) vfioRequest ed (hcause _ (by decide))).1 (by decide)
  exact ⟨ht.1, ht.2, hd.1, hd.2⟩

/-- For no constants does the `DriverStateMap` version keep every reboot signal of a call. -/
theorem reboot_signal_dropped : ¬ ∃ c, DriverStateMap.RebootKept c :=
  fun ⟨c, h⟩ => DriverStateMap.rebootKept_false c h

/-- For no constants does the `DriverStateMap` version fail only on a command line check error or
a setter exit status other than 0 and 127. -/
theorem atoi_failure_is_error : ¬ ∃ c, DriverStateMap.ErrorIffCheckOrExit c :=
  fun ⟨c, h⟩ => DriverStateMap.errorIffCheckOrExit_false c h

theorem kernel_param_pass_exact : TriState.SetAllFullPass ∧ DriverStateMap.SyncFullPass :=
  ⟨TriState.setAllFullPass, DriverStateMap.syncFullPass⟩

/-- One queued parameter, absent from the command line, and a setter that prints `1`: both passes
run the setter once, and the `DriverStateMap` pass, which returns no error, asks for a reboot. -/
theorem kernel_param_pass_one_param :
    let m : KernelParams := (∅ : KernelParams).insert "intel_iommu=on" 0
    let et : TriState.NodeStateEnv := ⟨fun _ => false, fun _ => .exited 0 "1", (false, none), .stored⟩
    let ed : DriverStateMap.NodeStateEnv :=
      ⟨fun _ => (false, none), fun _ => .exited 0 "1", (false, none), .stored⟩
    scriptRuns "intel_iommu=on" (TriState.setAllDesiredKernelParams et m).calls = 1 ∧
      scriptRuns "intel_iommu=on" (DriverStateMap.syncDesiredKernelParams ed m).calls = 1 ∧
      (DriverStateMap.syncDesiredKernelParams ed m).ret.1 = true := by
  intro m et ed
  have hd := kernel_param_pass_exact.2 ed m (by decide)
  exact ⟨((kernel_param_pass_exact.1 et m).runs _).trans (by decide), (hd.runs _).trans (by decide),
    hd.reboot_iff.2 ⟨"intel_iommu=on", by decide, rfl, rfl⟩⟩

/-- Where one full pass is run: in the `DriverStateMap` version whenever no outside call fails, in
the tri-state version whenever the switchdev file is unchanged. -/
theorem one_full_pass (c : Consts) :
    TriState.OneFullPassIfUnchanged c ∧ DriverStateMap.OneFullPass c :=
  ⟨TriState.oneFullPassIfUnchanged c, DriverStateMap.oneFullPass c⟩

/-- A needed `vfio_pci` on a fresh plugin, nothing on the command line, a setter that prints `1`
and an unchanged switchdev file: in both versions the call runs the setter once for the queued
`intel_iommu=on` and asks for a reboot. -/
theorem one_full_pass_vfio_needed :
    let c : Consts := ⟨"vfio-pci", "netdevice", "virtio", "vhost", "intel_iommu=on", "iommu=pt",
      "pci=realloc", fun _ _ => false⟩
    let state : SriovNetworkNodeState :=
      ⟨⟨[⟨"0000:3b:00.0", 4, [⟨"vfio-pci", ""⟩]⟩]⟩, ⟨[⟨"0000:3b:00.0", 0⟩]⟩⟩
    let et : TriState.NodeStateEnv := ⟨fun _ => false, fun _ => .exited 0 "1", (false, none), .stored⟩
    let ed : DriverStateMap.NodeStateEnv :=
      ⟨fun _ => (false, none), fun _ => .exited 0 "1", (false, none), .stored⟩
    let t := TriState.onNodeStateChange c (TriState.newGenericPlugin false) state et
    let d := DriverStateMap.onNodeStateChange c (DriverStateMap.newGenericPlugin false) state ed
    scriptRuns "intel_iommu=on" t.calls = 1 ∧ t.ret.2.1 = true ∧
      scriptRuns "intel_iommu=on" d.calls = 1 ∧ d.ret.2.1 = true := by
  intro c state et ed t d
  have hreboot : ReportsReboot (.exited 0 "1") := ⟨"1", 1, rfl, rfl, by decide⟩
  obtain ⟨-, -, hrt, -, hbt, -⟩ := (one_full_pass c).1 _ state et rfl
  obtain ⟨-, -, hrd, -, hbd, -⟩ := (one_full_pass c).2 _ state ed (fun _ => rfl)
    (fun _ => .inl ⟨"1", 1, rfl, rfl⟩) rfl
  exact ⟨(hrt _).trans (by decide), hbt.2 ⟨"intel_iommu=on", by decide, rfl, by decide, hreboot⟩,
    (hrd _).trans (by decide), hbd.2 (.inr ⟨"intel_iommu=on", by decide, rfl, hreboot⟩)⟩

/-- Where `pci=realloc` is queued: in the `DriverStateMap` version exactly after a `SyncNodeState`
that failed for lack of memory, in the tri-state version never. -/
theorem realloc_after_memory_failure (c : Consts) :
    TriState.NoRealloc c ∧ DriverStateMap.ReallocAfterMemoryFailure c :=
  ⟨TriState.noRealloc c, DriverStateMap.reallocAfterMemoryFailure c⟩

/-- A state with no virtual functions, then an `Apply` whose `SyncNodeState` fails for lack of
memory: the `DriverStateMap` version queues `pci=realloc`, the tri-state version after the same
calls does not. -/
theorem realloc_after_memory_failure_run :
    let c : Consts := ⟨"vfio-pci", "netdevice", "virtio", "vhost", "intel_iommu=on", "iommu=pt",
      "pci=realloc", fun _ _ => false⟩
    let state : SriovNetworkNodeState := ⟨⟨[⟨"0000:3b:00.0", 0, []⟩]⟩, ⟨[⟨"0000:3b:00.0", 0⟩]⟩⟩
    let env : ApplyEnv := ⟨fun _ => none, ([], none), none, some "cannot allocate memory"⟩
    c.kernelParamPciRealloc ∉ (TriState.run c (TriState.newGenericPlugin false)
        [.onNodeStateChange state ⟨fun _ => false, fun _ => .exited 0 "0", (false, none), .stored⟩,
          .apply env]).1.desiredKernelParams ∧
      c.kernelParamPciRealloc ∈ (DriverStateMap.run c (DriverStateMap.newGenericPlugin false)
        [.onNodeStateChange state ⟨fun _ => (false, none), fun _ => .exited 0 "0", (false, none), .stored⟩,
          .apply env .stored]).1.desiredKernelParams := by
  intro c state env
  have hlog : (DriverStateMap.run c (DriverStateMap.newGenericPlugin false)
        [.onNodeStateChange state ⟨fun _ => (false, none), fun _ => .exited 0 "0", (false, none), .stored⟩,
          .apply env .stored]).2 =
      [.writeSwitchdevConfFile state (false, none), .getPfsToSkip state ([], none),
        .chroot "/host" none, .syncNodeState state [] (some "cannot allocate memory"), .exitChroot] := rfl
  refine ⟨(realloc_after_memory_failure c).1 false _ (by decide) (by decide),
    ((realloc_after_memory_failure c).2.1 false _ (by decide) (by decide)).2
      ⟨"cannot allocate memory", ⟨state, [], by rw [hlog]; simp⟩, by decide⟩⟩

/-- In both versions a second `OnNodeStateChange` with the same desired state changes no driver
status and queues no new kernel parameter. -/
theorem requests_idempotent (c : Consts) :
    TriState.RequestsIdempotent c ∧ DriverStateMap.RequestsIdempotent c :=
  ⟨TriState.requestsIdempotent c, DriverStateMap.requestsIdempotent c⟩

/-! ## The refactor -/

/-- Both versions decide that VFIO is needed by the same test. -/
theorem driverNeeded_vfio (c : Consts) (state : SriovNetworkNodeState) :
    DriverStateMap.driverNeeded c .vfio state = TriState.needVfioDriver c state :=
  rfl

/-- A tri-state plugin and a `DriverStateMap` plugin that hold the same desired state and ledger,
with VFIO loaded in one exactly when in the other. -/
structure Corresponds (t : TriState.GenericPlugin) (d : DriverStateMap.GenericPlugin) : Prop where
  desireState : t.desireState = d.desireState
  desiredKernelParams : t.desiredKernelParams = d.desiredKernelParams
  vfio : t.loadVfioDriver = .loaded ↔ d.driverLoaded .vfio = true

/-- Outside calls of `OnNodeStateChange` that return the same in both versions, the command line
check with no error. -/
structure EnvCorresponds (et : TriState.NodeStateEnv) (ed : DriverStateMap.NodeStateEnv) :
    Prop where
  check : ∀ k, ed.isKernelCmdLineParamSet k = (et.isKernelCmdLineParamSet k, none)
  enableKargs : ed.enableKargs = et.enableKargs
  writeSwitchdevConfFile : ed.writeSwitchdevConfFile = et.writeSwitchdevConfFile

/-- **The refactor keeps `OnNodeStateChange`.**  From corresponding plugins and outside calls, when
every setter run exits 0 printing a decimal integer or exits 127, the switchdev file is written
without error and unchanged, and no counter has reached 5, both versions return the same
`(needDrain, needReboot, err)`, set the same desired state and leave the same ledger. -/
def SameOnNodeStateChange (c : Consts) : Prop :=
  ∀ t d new et ed, Corresponds t d → EnvCorresponds et ed →
    (∀ k, SetterWellBehaved (et.enableKargs k)) → et.writeSwitchdevConfFile = (false, none) →
    (∀ k v, t.desiredKernelParams.lookup k = some v → v ≤ 4) →
    (TriState.onNodeStateChange c t new et).ret = (DriverStateMap.onNodeStateChange c d new ed).ret ∧
    (TriState.onNodeStateChange c t new et).state.desireState =
      (DriverStateMap.onNodeStateChange c d new ed).state.desireState ∧
    ∀ k, (TriState.onNodeStateChange c t new et).state.desiredKernelParams.lookup k =
      (DriverStateMap.onNodeStateChange c d new ed).state.desiredKernelParams.lookup k

theorem refactor_keeps_onNodeStateChange (c : Consts) : SameOnNodeStateChange c := by
  intro t d new et ed hc he hrun hw hle
  have hw' : ed.writeSwitchdevConfFile = (false, none) := he.writeSwitchdevConfFile.trans hw
  obtain ⟨-, hlt, hrt, het, hbt, hdt⟩ :=
    TriState.oneFullPassIfUnchanged c t new et (by rw [hw])
  obtain ⟨-, hld, hrd, hed, hbd, hdd⟩ := DriverStateMap.oneFullPass c d new ed
    (fun k => by rw [he.check]) (fun k => he.enableKargs ▸ hrun k) (by rw [hw'])
  have h4 : ∀ k, (t.desiredKernelParams.lookup k).getD 0 ≤ 4 := fun k => by
    cases hk : t.desiredKernelParams.lookup k with
    | none => decide
    | some v => exact hle k v hk
  have hm : (if t.loadVfioDriver ≠ .loaded ∧ TriState.needVfioDriver c new then
        addToDesiredKernelParams c.kernelParamIommuPt
          (addToDesiredKernelParams c.kernelParamIntelIommu t.desiredKernelParams)
      else t.desiredKernelParams) =
      if d.driverLoaded .vfio = false ∧ DriverStateMap.driverNeeded c .vfio new then
        addToDesiredKernelParams c.kernelParamIommuPt
          (addToDesiredKernelParams c.kernelParamIntelIommu d.desiredKernelParams)
      else d.desiredKernelParams := by
    simp only [hc.desiredKernelParams, driverNeeded_vfio, ne_eq, hc.vfio, Bool.not_eq_true]
  have h4m : ∀ k, ((if t.loadVfioDriver ≠ .loaded ∧ TriState.needVfioDriver c new then
        addToDesiredKernelParams c.kernelParamIommuPt
          (addToDesiredKernelParams c.kernelParamIntelIommu t.desiredKernelParams)
      else t.desiredKernelParams).lookup k).getD 0 ≤ 4 := fun k => by
    split_ifs <;> simp only [attempts_addToDesiredKernelParams, h4]
  simp only [h4m, and_true, true_and] at hlt hbt
  simp only [hm] at hlt hbt
  simp only [he.check, he.enableKargs, hw', Bool.false_eq_true, false_or] at hld hbd
  have hreboot : (TriState.onNodeStateChange c t new et).ret.2.1 =
      (DriverStateMap.onNodeStateChange c d new ed).ret.2.1 :=
    Bool.eq_iff_iff.2 (hbt.trans hbd.symm)
  refine ⟨Prod.ext (by rw [hdt, hdd, hreboot]) (Prod.ext hreboot (het.trans hed.symm)),
    by simp [DriverStateMap.onNodeStateChange_state],
    fun k => (hlt k).trans (hld k).symm⟩

/-- Fresh plugins of both versions, a needed `vfio_pci`, nothing on the command line and a setter
that prints `1`: both versions return the same `(needDrain, needReboot, err)`. -/
theorem refactor_keeps_onNodeStateChange_vfio_needed :
    let c : Consts := ⟨"vfio-pci", "netdevice", "virtio", "vhost", "intel_iommu=on", "iommu=pt",
      "pci=realloc", fun _ _ => false⟩
    let state : SriovNetworkNodeState :=
      ⟨⟨[⟨"0000:3b:00.0", 4, [⟨"vfio-pci", ""⟩]⟩]⟩, ⟨[⟨"0000:3b:00.0", 0⟩]⟩⟩
    let et : TriState.NodeStateEnv := ⟨fun _ => false, fun _ => .exited 0 "1", (false, none), .stored⟩
    let ed : DriverStateMap.NodeStateEnv :=
      ⟨fun _ => (false, none), fun _ => .exited 0 "1", (false, none), .stored⟩
    (TriState.onNodeStateChange c (TriState.newGenericPlugin false) state et).ret =
      (DriverStateMap.onNodeStateChange c (DriverStateMap.newGenericPlugin false) state ed).ret := by
  intro c state et ed
  exact (refactor_keeps_onNodeStateChange c _ _ state et ed ⟨rfl, rfl, by decide⟩ ⟨fun _ => rfl, rfl, rfl⟩
    (fun _ => .inl ⟨"1", 1, rfl, rfl⟩) rfl (fun _ _ h => by simp [TriState.newGenericPlugin] at h)).1

/-! ## What a run did -/

/-- What a counter counts: in the tri-state version every setter run for its parameter, failed or
not; in the `DriverStateMap` version the runs `trySetKernelParam` accepted, modulo `2 ^ 64`.  In
both the setter ran only for queued parameters. -/
theorem attempts_count_runs (c : Consts) :
    TriState.AttemptsCountRuns c ∧ DriverStateMap.AttemptsCountAcceptedRuns c :=
  ⟨TriState.attemptsCountRuns c, DriverStateMap.attemptsCountAcceptedRuns c⟩

/-- One request that needs `vfio-pci` and a setter that prints `1`: in both versions the counter of
`intel_iommu=on` counts the setter's one run for it. -/
theorem attempts_count_one_request :
    let c := Consts.upstream
    let rt := TriState.run c (TriState.newGenericPlugin false)
      [.onNodeStateChange vfioRequest ⟨fun _ => false, fun _ => .exited 0 "1", (false, none), .stored⟩]
    let rd := DriverStateMap.run c (DriverStateMap.newGenericPlugin false)
      [.onNodeStateChange vfioRequest ⟨fun _ => (false, none), fun _ => .exited 0 "1", (false, none), .stored⟩]
    ((rt.1.desiredKernelParams.lookup "intel_iommu=on").getD 0).toNat = scriptRuns "intel_iommu=on" rt.2 ∧
      "intel_iommu=on" ∈ rt.1.desiredKernelParams ∧
      ((rd.1.desiredKernelParams.lookup "intel_iommu=on").getD 0).toNat =
        acceptedRuns "intel_iommu=on" rd.2 % 2 ^ 64 ∧
      "intel_iommu=on" ∈ rd.1.desiredKernelParams := by
  intro c rt rd
  have ht := (attempts_count_runs c).1 false
    [.onNodeStateChange vfioRequest ⟨fun _ => false, fun _ => .exited 0 "1", (false, none), .stored⟩]
    "intel_iommu=on"
  have hd := (attempts_count_runs c).2 false
    [.onNodeStateChange vfioRequest ⟨fun _ => (false, none), fun _ => .exited 0 "1", (false, none), .stored⟩]
    "intel_iommu=on"
  exact ⟨ht.1, ht.2 (by decide), hd.1, hd.2 (by decide)⟩

/-- In both versions the ledger holds, and the setter runs for, only the IOMMU parameters of a run
that asked for a state needing VFIO, and in the `DriverStateMap` version `pci=realloc`. -/
theorem kernel_args_requested (c : Consts) :
    TriState.KernelArgsRequested c ∧ DriverStateMap.KernelArgsRequested c :=
  ⟨TriState.kernelArgsRequested c, DriverStateMap.kernelArgsRequested c⟩

/-- One request that needs `vfio-pci`: in both versions `iommu=pt` is queued, on account of it. -/
theorem kernel_args_requested_vfio :
    let c := Consts.upstream
    let et : List TriState.Event :=
      [.onNodeStateChange vfioRequest ⟨fun _ => false, fun _ => .exited 0 "1", (false, none), .stored⟩]
    let ed : List DriverStateMap.Event :=
      [.onNodeStateChange vfioRequest ⟨fun _ => (false, none), fun _ => .exited 0 "1", (false, none), .stored⟩]
    (∃ new ∈ et.filterMap TriState.Event.requested, TriState.needVfioDriver c new) ∧
      ∃ new ∈ ed.filterMap DriverStateMap.Event.requested, DriverStateMap.driverNeeded c .vfio new := by
  intro c et ed
  exact ⟨((kernel_args_requested c).1 false et "iommu=pt" (.inl (by decide))).2,
    (((kernel_args_requested c).2 false ed "iommu=pt" (.inl (by decide))).resolve_left (by decide)).2⟩

/-- The `DriverStateMap` version loads only drivers that the last requested state needs; the
tri-state version loads `vfio_pci` or `virtio_vdpa` only after some request needed it, but not only
when the last one does. -/
theorem module_loads_follow_requests (c : Consts) :
    DriverStateMap.LoadsFollowLastRequest c ∧ TriState.LoadsFollowSomeRequest c ∧
      ¬ TriState.LoadsFollowLastRequest c :=
  ⟨DriverStateMap.loadsFollowLastRequest c, TriState.loadsFollowSomeRequest c,
    TriState.loadsFollowLastRequest_false c⟩

/-- One request that needs `vfio-pci`: the next `Apply` of either version loads `vfio_pci`, for that
request. -/
theorem module_loads_follow_vfio_request :
    let c := Consts.upstream
    let et : List TriState.Event :=
      [.onNodeStateChange vfioRequest ⟨fun _ => false, fun _ => .exited 0 "1", (false, none), .stored⟩]
    let ed : List DriverStateMap.Event :=
      [.onNodeStateChange vfioRequest ⟨fun _ => (false, none), fun _ => .exited 0 "1", (false, none), .stored⟩]
    (∃ id d, (ed.filterMap DriverStateMap.Event.requested).getLast? = some d ∧ "vfio_pci" = id.driverName ∧
      (DriverStateMap.run c (DriverStateMap.newGenericPlugin false) ed).1.driverLoaded id = false ∧
      DriverStateMap.driverNeeded c id d) ∧
    ∃ new ∈ et.filterMap TriState.Event.requested, TriState.needVfioDriver c new := by
  intro c et ed
  let env : ApplyEnv := ⟨fun _ => none, ([], none), none, none⟩
  exact ⟨(module_loads_follow_requests c).1 false ed (.apply env .stored) "vfio_pci" none (by decide),
    (((module_loads_follow_requests c).2.1 false et (.apply env) "vfio_pci" none (by decide)).resolve_right
      fun h => absurd h.1 (by decide)).2⟩

/-- In both versions `OnNodeStateChange` asks for a reboot only when a setter run of the call
printed a positive integer or the switchdev file changed, and in the `DriverStateMap` version only
when the call returns no error. -/
theorem reboot_only_with_cause (c : Consts) :
    TriState.RebootOnlyWithCause c ∧ DriverStateMap.RebootOnlyWithCause c :=
  ⟨TriState.rebootOnlyWithCause c, DriverStateMap.rebootOnlyWithCause c⟩

/-- A fresh plugin asked for VFs bound to `vfio-pci` and a setter that prints `1`: the reboot both
versions ask for comes from a setter run. -/
theorem reboot_only_after_setter :
    let c := Consts.upstream
    let t := TriState.onNodeStateChange c (TriState.newGenericPlugin false) vfioRequest
      ⟨fun _ => false, fun _ => .exited 0 "1", (false, none), .stored⟩
    let d := DriverStateMap.onNodeStateChange c (DriverStateMap.newGenericPlugin false) vfioRequest
      ⟨fun _ => (false, none), fun _ => .exited 0 "1", (false, none), .stored⟩
    ((∃ k run, .enableKargs k run ∈ t.calls ∧ ReportsReboot run) ∨
        ∃ st err, .writeSwitchdevConfFile st (true, err) ∈ t.calls) ∧
      d.ret.2.2 = none ∧ ((∃ k run, .enableKargs k run ∈ d.calls ∧ ReportsReboot run) ∨
        ∃ st err, .writeSwitchdevConfFile st (true, err) ∈ d.calls) := by
  intro c t d
  exact ⟨(reboot_only_with_cause c).1 (TriState.newGenericPlugin false) vfioRequest _ (by decide),
    (reboot_only_with_cause c).2 (DriverStateMap.newGenericPlugin false) vfioRequest _ (by decide)⟩

end Generic
