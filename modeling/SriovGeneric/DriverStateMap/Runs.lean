import SriovGeneric.DriverStateMap.Apply

/-!
# Runs of the `DriverStateMap` plugin

`Inv` is what every state a run reaches satisfies, together with the outside calls of the run so
far.  It holds of `newGenericPlugin` and every `OnNodeStateChange` and `Apply` keeps it
(`inv_onNodeStateChange`, `inv_apply`), so it holds after every run (`inv_run`):

* VFIO, while the desired state needs it and it is not loaded, has both IOMMU parameters queued;
* every driver that `LastState` needs is loaded: this is what makes the short cut of `Apply`,
  taken before `syncDriverState`, safe;
* a driver is loaded exactly when the run loaded its module, and no module is loaded again after a
  successful load;
* `LastState` is the desired state of the last successful `SyncNodeState` of the run.

The properties of runs follow: needed drivers are loaded whenever `Apply` reaches `SyncNodeState`
or returns nil (`neededDriversLoaded`), VFIO is loaded only with the IOMMU parameters queued
(`vfioLoadNeedsIommu`), flags only go up (`driverStatusForward`), `LastState` is the last
successful sync (`lastStateIsLastSuccess`) and a second `Apply` does nothing
(`applyIdempotent`).  Every run queues `pci=realloc` exactly after a `SyncNodeState` that ran out
of memory, and no run drops a queued parameter (`reallocAfterMemoryFailure`).  Unlike the tri-state
version this one never gives up on a kernel parameter: a parameter that stays off the command line
has the setter run at every `OnNodeStateChange` (`noGiveUp`).
-/

namespace Generic.DriverStateMap

variable (c : Consts)

/-- What holds of every state a run of the `DriverStateMap` plugin reaches, with the calls of the
run. -/
structure Inv (s : GenericPlugin) (log : List Call) : Prop where
  iommu : ∀ d, s.desireState = some d → s.driverLoaded .vfio = false → driverNeeded c .vfio d →
    c.kernelParamIntelIommu ∈ s.desiredKernelParams ∧ c.kernelParamIommuPt ∈ s.desiredKernelParams
  lastState_loaded : ∀ l, s.lastState = some l → ∀ id, driverNeeded c id l → s.driverLoaded id
  loaded : ∀ id, s.driverLoaded id ↔ .loadKernelModule id.driverName none ∈ log
  noLoadAfterSuccess : NoLoadAfterSuccess log
  lastState : s.lastState = lastSynced log

theorem inv_newGenericPlugin (runningOnHost : Bool) : Inv c (newGenericPlugin runningOnHost) [] where
  iommu _ h := nomatch h
  lastState_loaded _ h := nomatch h
  loaded _ := by simp [newGenericPlugin]
  noLoadAfterSuccess _ _ _ h := by simp at h
  lastState := rfl

section
variable {c} {s : GenericPlugin} {log : List Call}

theorem inv_onNodeStateChange (hi : Inv c s log) {new : SriovNetworkNodeState}
    {env : NodeStateEnv} :
    Inv c (onNodeStateChange c s new env).state (log ++ (onNodeStateChange c s new env).calls) := by
  have hcalls : ∀ call ∈ (onNodeStateChange c s new env).calls, call.OfNodeState :=
    onNodeStateChange_ofNodeState
  have hkeys := (syncDesiredKernelParams_spec env (addVfioDesiredKernelParam c new s)).keys
  have hload : ∀ name err, .loadKernelModule name err ∉ (onNodeStateChange c s new env).calls :=
    fun name err h => (hcalls _ h).not_isLoad trivial
  rw [onNodeStateChange_state]
  refine ⟨fun d hd hv hn => ?_, hi.lastState_loaded, fun id => ?_, ?_, ?_⟩
  · cases hd
    rw [hkeys, hkeys, addVfioDesiredKernelParam_eq, if_pos ⟨hv, hn⟩]
    simp
  · rw [hi.loaded, List.mem_append]
    simp [hload]
  · exact hi.noLoadAfterSuccess.append
      (.of_nodup (by rw [loadNames_eq_nil fun call h => (hcalls call h).not_isLoad]; simp))
      fun name _ err => hload name err
  · rw [hi.lastState, lastSynced_append, lastSynced_eq_none fun call h => .inr (hcalls call h)]
    rfl

theorem inv_apply (hi : Inv c s log) (env : ApplyEnv) (order : RangeOrder DriverId) :
    Inv c (apply c env order s).state (log ++ (apply c env order s).calls) := by
  cases hd : s.desireState with
  | none => simpa [apply_of_desireState_none hd] using hi
  | some d =>
    by_cases hn : nothingToApply s.lastState d
    · simpa [apply_of_nothingToApply hd hn] using hi
    obtain ⟨rest, hrest, hcalls, hdl, hls, hkeys, hsync⟩ :=
      apply_shape env order hd hn
    have hl := syncDriverStateLoop_spec c env d (order.arrange DriverId.all) s.driverLoaded
    have hrestLoad : ∀ name err, .loadKernelModule name err ∉ rest :=
      fun name err h => (hrest _ h).not_isLoad trivial
    rw [hcalls]
    refine ⟨fun d' hd' hv hn' => ?_, fun l hl' id hn' => ?_, fun id => ?_, ?_, ?_⟩
    · rw [apply_desireState, hd] at hd'
      cases hd'
      have hv₀ : s.driverLoaded .vfio = false := by
        by_contra h
        rw [hdl, (hl.loaded_iff .vfio).2 (.inl (by simpa using h))] at hv
        cases hv
      exact ⟨hkeys _ (hi.iommu d hd hv₀ hn').1, hkeys _ (hi.iommu d hd hv₀ hn').2⟩
    · rw [hdl]
      rw [hls] at hl'
      cases hr : lastSynced rest with
      | some l' =>
        rw [hr, Option.or_some] at hl'
        cases hl'
        obtain ⟨rfl, hok⟩ := hsync l hr
        exact hl.ok hok id (mem_arrange_all order id) hn'
      | none =>
        rw [hr, Option.none_or] at hl'
        exact (hl.loaded_iff id).2 (.inl (hi.lastState_loaded l hl' id hn'))
    · rw [hdl, hl.loaded_iff, hi.loaded, List.mem_append, List.mem_append]
      simp [hrestLoad]
    · refine hi.noLoadAfterSuccess.append (.of_nodup ?_) fun name hname err hmem => ?_
      · rw [loadNames_append, loadNames_eq_nil fun call h => (hrest call h).not_isLoad,
          List.append_nil]
        exact hl.nodup
      · rcases List.mem_append.1 hmem with hmem | hmem
        · obtain ⟨id, -, rfl, hoff, -⟩ := hl.loads name err hmem
          rw [← hi.loaded] at hname
          simp [hname] at hoff
        · exact hrestLoad name err hmem
    · rw [hls, hi.lastState, lastSynced_append, lastSynced_append,
        lastSynced_eq_none fun call h => .inl (hl.isLoad call h), Option.or_none]

theorem inv_step (hi : Inv c s log) (e : Event) :
    Inv c (step c s e).1 (log ++ (step c s e).2) := by
  cases e with
  | onNodeStateChange new env => exact inv_onNodeStateChange hi
  | apply env order => exact inv_apply hi env order

end

/-- Every run from `newGenericPlugin` keeps `Inv`. -/
theorem inv_run (runningOnHost : Bool) (events : List Event) :
    Inv c (run c (newGenericPlugin runningOnHost) events).1
      (run c (newGenericPlugin runningOnHost) events).2 := by
  simpa using runFrom_induction (step c) (Inv c) (inv_newGenericPlugin c runningOnHost)
    (fun _ _ e h => inv_step h e) events

/-! ## Drivers -/

/-- **Needed drivers are loaded.**  Whenever `Apply` calls `SyncNodeState` or returns nil, every
driver the desired state needs is loaded. -/
def NeededDriversLoaded : Prop :=
  ∀ runningOnHost events env order,
    let o := apply c env order (run c (newGenericPlugin runningOnHost) events).1
    (o.ret = .returned none ∨ ∃ call ∈ o.calls, call.IsSync) →
    ∀ d, o.state.desireState = some d → ∀ id, driverNeeded c id d → o.state.driverLoaded id

theorem neededDriversLoaded : NeededDriversLoaded c := by
  intro runningOnHost events env order o h d hd id hn
  have hi := inv_run c runningOnHost events
  rw [apply_desireState] at hd
  by_cases hshort : nothingToApply (run c (newGenericPlugin runningOnHost) events).1.lastState d
  · simp only [o, apply_of_nothingToApply hd hshort]
    cases hl : (run c (newGenericPlugin runningOnHost) events).1.lastState with
    | none => simp [hl, nothingToApply] at hshort
    | some l =>
      have heq : l.spec.interfaces = d.spec.interfaces := by simpa [hl, nothingToApply] using hshort
      exact hi.lastState_loaded l hl id (by rwa [driverNeeded_congr c heq])
  · obtain ⟨rest, -, -, hdl, -⟩ := apply_shape env order hd hshort
    rw [hdl]
    exact (syncDriverStateLoop_spec c env d _ _).ok (loads_ret_of_apply hd hshort h) id
      (mem_arrange_all order id) hn

/-- **VFIO is loaded with the IOMMU parameters queued.**  An event that calls
`LoadKernelModule("vfio_pci")` starts from a ledger with both IOMMU parameters. -/
def VfioLoadNeedsIommu : Prop :=
  ∀ runningOnHost events e err,
    let s := (run c (newGenericPlugin runningOnHost) events).1
    .loadKernelModule "vfio_pci" err ∈ (step c s e).2 →
      c.kernelParamIntelIommu ∈ s.desiredKernelParams ∧ c.kernelParamIommuPt ∈ s.desiredKernelParams

theorem vfioLoadNeedsIommu : VfioLoadNeedsIommu c := by
  intro runningOnHost events e err s h
  obtain ⟨id, d, hd, hname, hoff, hn⟩ := step_load h
  cases DriverId.driverName_inj (i := .vfio) hname
  exact (inv_run c runningOnHost events).iommu d hd hoff hn

/-- **Driver flags only go up.**  No event unloads a driver; a driver is loaded exactly when the
run loaded its module; no event loads the module of a loaded driver. -/
def DriverStatusForward : Prop :=
  ∀ runningOnHost events e,
    let r := run c (newGenericPlugin runningOnHost) events
    (∀ id, r.1.driverLoaded id → (step c r.1 e).1.driverLoaded id) ∧
    (∀ id, r.1.driverLoaded id ↔ .loadKernelModule id.driverName none ∈ r.2) ∧
    ∀ name err, .loadKernelModule name err ∈ (step c r.1 e).2 →
      ∃ id, name = id.driverName ∧ r.1.driverLoaded id = false

theorem driverStatusForward : DriverStatusForward c := by
  intro runningOnHost events e r
  refine ⟨fun id h => step_driverLoaded h, (inv_run c runningOnHost events).loaded,
    fun name err h => ?_⟩
  obtain ⟨id, -, -, hname, hoff, -⟩ := step_load h
  exact ⟨id, hname, hoff⟩

/-! ## `LastState` and the short cut -/

/-- **`LastState` is the last successful sync.**  In every state a run reaches `LastState` is the
desired state of the run's last successful `SyncNodeState` call, and an `Apply` that returns nil
without calling `SyncNodeState` found its interfaces equal to that state's. -/
def LastStateIsLastSuccess : Prop :=
  ∀ runningOnHost events env order,
    let r := run c (newGenericPlugin runningOnHost) events
    let o := apply c env order r.1
    r.1.lastState = lastSynced r.2 ∧
    (o.ret = .returned none → (∀ call ∈ o.calls, ¬ call.IsSync) →
      ∃ d last, r.1.desireState = some d ∧ lastSynced r.2 = some last ∧
        last.spec.interfaces = d.spec.interfaces)

/-- An `Apply` that returns nil without calling `SyncNodeState` took the short cut. -/
theorem nothingToApply_of_apply {env : ApplyEnv} {order : RangeOrder DriverId} {p : GenericPlugin}
    {d : SriovNetworkNodeState} (hd : p.desireState = some d)
    (hr : (apply c env order p).ret = .returned none)
    (hs : ∀ call ∈ (apply c env order p).calls, ¬ call.IsSync) : nothingToApply p.lastState d := by
  by_contra hn
  have hok := loads_ret_of_apply hd hn (.inl hr)
  rw [apply_of_loads_ok hd hn hok] at hr hs
  obtain ⟨call, hc, hsync⟩ := exists_isSync_of_lastSynced (applyHost_returned_none hr)
  exact hs call (List.mem_append_right _ hc) hsync

theorem lastStateIsLastSuccess : LastStateIsLastSuccess c := by
  intro runningOnHost events env order r o
  have hi := inv_run c runningOnHost events
  refine ⟨hi.lastState, fun hr hs => ?_⟩
  cases hd : r.1.desireState with
  | none => simp [o, apply_of_desireState_none hd] at hr
  | some d =>
    have hn := nothingToApply_of_apply c hd hr hs
    rw [hi.lastState] at hn
    cases hl : lastSynced r.2 with
    | none => simp [hl, nothingToApply] at hn
    | some last => exact ⟨d, last, rfl, rfl, by simpa [hl, nothingToApply] using hn⟩

/-- A short cut of `Apply` always follows a last `SyncNodeState` of the run that succeeded, for the
same interfaces; `shortCutAfterLastSync_false` refutes it. -/
def ShortCutAfterLastSync : Prop :=
  ∀ runningOnHost events env order,
    let r := run c (newGenericPlugin runningOnHost) events
    let o := apply c env order r.1
    o.ret = .returned none → (∀ call ∈ o.calls, ¬ call.IsSync) →
      ∃ d last pfs, r.1.desireState = some d ∧ lastSyncCall r.2 = some (last, pfs, none) ∧
        last.spec.interfaces = d.spec.interfaces

/-- Apply `S1` and sync it, apply `S2` with a failing `SyncNodeState`, go back to `S1`: the next
`Apply` takes the short cut although the run's last `SyncNodeState` call failed, for `S2`. -/
theorem shortCutAfterLastSync_false : ¬ ShortCutAfterLastSync c := by
  let s₁ : SriovNetworkNodeState := ⟨⟨[⟨"0000:3b:00.0", 4, []⟩]⟩, ⟨[]⟩⟩
  let s₂ : SriovNetworkNodeState := ⟨⟨[⟨"0000:3b:00.0", 8, []⟩]⟩, ⟨[]⟩⟩
  let nsEnv : NodeStateEnv := ⟨fun _ => (true, none), fun _ => .exited 0 "0", (false, none), .stored⟩
  let ok : ApplyEnv := ⟨fun _ => none, ([], none), none, none⟩
  let bad : ApplyEnv := ⟨fun _ => none, ([], none), none, some "sync failed"⟩
  let p₁ := { newGenericPlugin true with desireState := some s₁ }
  let p₂ := { p₁ with lastState := some s₁ }
  let p₃ := { p₂ with desireState := some s₂ }
  have h₁ : step c (newGenericPlugin true) (.onNodeStateChange s₁ nsEnv) =
      (p₁, [.writeSwitchdevConfFile s₁ (false, none)]) := rfl
  have h₂ : step c p₁ (.apply ok .stored) =
      (p₂, [.getPfsToSkip s₁ ([], none), .syncNodeState s₁ [] none]) := rfl
  have h₃ : step c p₂ (.onNodeStateChange s₂ nsEnv) =
      (p₃, [.writeSwitchdevConfFile s₂ (false, none)]) := rfl
  have h₄ : step c p₃ (.apply bad .stored) =
      (p₃, [.getPfsToSkip s₂ ([], none), .syncNodeState s₂ [] (some "sync failed")]) := rfl
  have h₅ : step c p₃ (.onNodeStateChange s₁ nsEnv) =
      (p₂, [.writeSwitchdevConfFile s₁ (false, none)]) := rfl
  have hrun : run c (newGenericPlugin true) [.onNodeStateChange s₁ nsEnv, .apply ok .stored,
      .onNodeStateChange s₂ nsEnv, .apply bad .stored, .onNodeStateChange s₁ nsEnv] =
      (p₂, [.writeSwitchdevConfFile s₁ (false, none), .getPfsToSkip s₁ ([], none),
        .syncNodeState s₁ [] none, .writeSwitchdevConfFile s₂ (false, none),
        .getPfsToSkip s₂ ([], none), .syncNodeState s₂ [] (some "sync failed"),
        .writeSwitchdevConfFile s₁ (false, none)]) := by
    rw [run, runFrom_cons, h₁, runFrom_cons, h₂, runFrom_cons, h₃, runFrom_cons, h₄,
      runFrom_cons, h₅]
    rfl
  have hshort : apply c ok .stored p₂ = ⟨.returned none, p₂, []⟩ := rfl
  intro h
  obtain ⟨d, last, pfs, -, hl, -⟩ :=
    h true _ ok .stored (by rw [hrun, hshort]) (by rw [hrun, hshort]; simp)
  rw [hrun] at hl
  cases hl

/-! ## A second `Apply` -/

/-- What an `Apply` that synced `d` leaves behind, and what `OnNodeStateChange` with `d`'s
interfaces keeps. -/
structure Settled (d : SriovNetworkNodeState) (q : GenericPlugin) : Prop where
  lastState : q.lastState = some d
  desired : ∃ n, q.desireState = some n ∧ n.spec.interfaces = d.spec.interfaces

section
variable {c} {d : SriovNetworkNodeState} {q : GenericPlugin}

theorem settled_onNodeStateChange (hq : Settled d q) {new : SriovNetworkNodeState}
    {env : NodeStateEnv} (hn : new.spec.interfaces = d.spec.interfaces) :
    Settled d (onNodeStateChange c q new env).state := by
  rw [onNodeStateChange_state]
  exact ⟨hq.lastState, new, rfl, hn⟩

/-- `Apply` from a settled state takes the short cut. -/
theorem apply_of_settled (hq : Settled d q) (env : ApplyEnv) (order : RangeOrder DriverId) :
    apply c env order q = ⟨.returned none, q, []⟩ := by
  obtain ⟨n, hd, hn⟩ := hq.desired
  exact apply_of_nothingToApply hd (by simp [hq.lastState, nothingToApply, hn])

/-- An `Apply` that returns nil after calling `SyncNodeState` leaves a settled state. -/
theorem settled_apply {env : ApplyEnv} {order : RangeOrder DriverId} {s : GenericPlugin}
    (hd : s.desireState = some d) (hr : (apply c env order s).ret = .returned none)
    (hs : ∃ call ∈ (apply c env order s).calls, call.IsSync) :
    Settled d (apply c env order s).state := by
  refine ⟨?_, d, by simpa using hd, rfl⟩
  by_cases hn : nothingToApply s.lastState d
  · obtain ⟨call, hc, -⟩ := hs
    simp [apply_of_nothingToApply hd hn] at hc
  have hok := loads_ret_of_apply hd hn (.inl hr)
  rw [apply_of_loads_ok hd hn hok] at hr ⊢
  rw [Outcome.after_state, (applyHost_state env d _).2.2.1, applyHost_returned_none hr]
  rfl

end

/-- **`Apply` is idempotent.**  After an `Apply` that returns nil having called `SyncNodeState`,
and any `OnNodeStateChange` calls with the same interfaces, the next `Apply` returns nil and makes
no outside call. -/
def ApplyIdempotent : Prop :=
  ∀ runningOnHost events env order,
    let s := (run c (newGenericPlugin runningOnHost) events).1
    let o := apply c env order s
    o.ret = .returned none → (∃ call ∈ o.calls, call.IsSync) →
    ∀ d, s.desireState = some d →
    ∀ (changes : List (SriovNetworkNodeState × NodeStateEnv)) env' order',
      (∀ n ∈ changes, n.1.spec.interfaces = d.spec.interfaces) →
      let s' := (run c o.state (changes.map fun n => .onNodeStateChange n.1 n.2)).1
      apply c env' order' s' = ⟨.returned none, s', []⟩

theorem applyIdempotent : ApplyIdempotent c := by
  intro runningOnHost events env order s o hr hs d hd changes env' order' hchanges s'
  refine apply_of_settled (runFrom_induction_of_forall (step c) (Settled d)
    (fun e => ∃ n ∈ changes, e = .onNodeStateChange n.1 n.2) (settled_apply hd hr hs) ?_ ?_)
    env' order'
  · rintro q _ ⟨n, hn, rfl⟩ hq
    exact settled_onNodeStateChange hq (hchanges n hn)
  · intro e he
    obtain ⟨n, hn, rfl⟩ := List.mem_map.1 he
    exact ⟨n, hn, rfl⟩

/-! ## `pci=realloc` -/

/-- No call drops a queued parameter. -/
theorem step_mem_desiredKernelParams {s : GenericPlugin} {k : String} (h : k ∈ s.desiredKernelParams)
    (e : Event) : k ∈ (step c s e).1.desiredKernelParams := by
  cases e with
  | onNodeStateChange new env =>
    exact mem_onNodeStateChange_desiredKernelParams.2 (mem_addVfioDesiredKernelParam h)
  | apply env order => exact mem_apply_desiredKernelParams.2 (.inl h)

/-- **`pci=realloc` follows a failure to allocate memory.**  When the realloc parameter is neither
IOMMU parameter, it is queued after a run exactly when some `SyncNodeState` call of the run failed
with an error whose text contains `cannot allocate memory`; and no run, from any plugin, drops a
queued parameter. -/
def ReallocAfterMemoryFailure : Prop :=
  (∀ runningOnHost events,
    c.kernelParamPciRealloc ≠ c.kernelParamIntelIommu →
    c.kernelParamPciRealloc ≠ c.kernelParamIommuPt →
    (c.kernelParamPciRealloc ∈ (run c (newGenericPlugin runningOnHost) events).1.desiredKernelParams ↔
      ∃ msg, (∃ d pfs, .syncNodeState d pfs (some msg) ∈ (run c (newGenericPlugin runningOnHost) events).2) ∧
        contains msg "cannot allocate memory" = true)) ∧
  ∀ p events k, k ∈ p.desiredKernelParams → k ∈ (run c p events).1.desiredKernelParams

theorem reallocAfterMemoryFailure : ReallocAfterMemoryFailure c := by
  refine ⟨fun r events h₁ h₂ => ?_, fun p events k hk => runFrom_induction_of_forall (step c)
    (fun s => k ∈ s.desiredKernelParams) (fun _ => True) hk
    (fun s e _ hs => step_mem_desiredKernelParams c hs e) fun _ _ => trivial⟩
  have := @runFrom_induction _ _ (step c)
    (fun s log => c.kernelParamPciRealloc ∈ s.desiredKernelParams ↔
      ∃ msg, (∃ d pfs, .syncNodeState d pfs (some msg) ∈ log) ∧
        contains msg "cannot allocate memory" = true)
    (newGenericPlugin r) [] (by simp only [newGenericPlugin, AList.not_mem_empty, List.not_mem_nil,
      exists_const, exists_false, false_and]) ?_ events
  · simpa only [List.nil_append] using this
  intro s log e h
  cases e with
  | onNodeStateChange new env =>
    have hno : ∀ d pfs msg, .syncNodeState d pfs (some msg) ∉ (onNodeStateChange c s new env).calls :=
      fun d pfs msg hm => onNodeStateChange_ofNodeState _ hm
    simpa only [step, mem_onNodeStateChange_desiredKernelParams, mem_addVfioDesiredKernelParam_iff, h₁,
      h₂, or_self, and_false, or_false, List.mem_append, hno] using h
  | apply env order =>
    simp only [step, mem_apply_desiredKernelParams, h, List.mem_append]
    simp only [true_and, exists_or, or_and_right]

/-! ## No give-up -/

/-- **No give-up.**  The `DriverStateMap` version keeps no limit on attempts: from any plugin with
`kparam` queued, any list of `OnNodeStateChange` calls, each with a command line check that never
fails nor finds `kparam`, a setter whose runs exit 0 printing a decimal integer or exit 127, and a
switchdev writer that returns no error, runs the setter for `kparam` once per call. -/
def NoGiveUp : Prop :=
  ∀ p kparam (calls : List (SriovNetworkNodeState × NodeStateEnv)), kparam ∈ p.desiredKernelParams →
    (∀ n ∈ calls, (∀ k, (n.2.isKernelCmdLineParamSet k).2 = none) ∧
      (n.2.isKernelCmdLineParamSet kparam).1 = false ∧ (∀ k, SetterWellBehaved (n.2.enableKargs k)) ∧
      n.2.writeSwitchdevConfFile.2 = none) →
    scriptRuns kparam (run c p (calls.map fun n => .onNodeStateChange n.1 n.2)).2 = calls.length

theorem noGiveUp : NoGiveUp c := by
  intro p kparam calls hk hcalls
  induction calls generalizing p with
  | nil => rfl
  | cons n calls ih =>
    obtain ⟨hchk, hset, hrun, hws⟩ := hcalls n (List.mem_cons_self _ _)
    have hm : kparam ∈ addVfioDesiredKernelParam c n.1 p := mem_addVfioDesiredKernelParam hk
    obtain ⟨-, -, hruns, -⟩ := oneFullPass c p n.1 n.2 hchk hrun hws
    have hone : scriptRuns kparam (onNodeStateChange c p n.1 n.2).calls = 1 := by
      rw [hruns, if_pos ⟨addVfioDesiredKernelParam_eq ▸ hm, hset⟩]
    rw [List.map_cons, run, runFrom_cons, scriptRuns_append]
    change scriptRuns kparam (onNodeStateChange c p n.1 n.2).calls +
      scriptRuns kparam (run c (onNodeStateChange c p n.1 n.2).state _).2 = calls.length + 1
    rw [hone, ih _ (mem_onNodeStateChange_desiredKernelParams.2 hm)
      fun m hm' => hcalls m (List.mem_cons_of_mem _ hm'), Nat.add_comm]

/-- A plugin with `intel_iommu=on` queued and six calls that never get it on the command line: the
setter runs six times, past the five attempts the tri-state version allows. -/
theorem noGiveUp_six_calls :
    let c : Consts := ⟨"vfio-pci", "netdevice", "virtio", "vhost", "intel_iommu=on", "iommu=pt",
      "pci=realloc", fun _ _ => false⟩
    let p : GenericPlugin :=
      { newGenericPlugin false with desiredKernelParams := (∅ : KernelParams).insert "intel_iommu=on" 0 }
    let env : NodeStateEnv := ⟨fun _ => (false, none), fun _ => .exited 0 "1", (false, none), .stored⟩
    scriptRuns "intel_iommu=on" (run c p ((List.replicate 6 (⟨⟨[]⟩, ⟨[]⟩⟩, env)).map
      fun n => .onNodeStateChange n.1 n.2)).2 = 6 := by
  intro c p env
  exact noGiveUp c p _ _ ((AList.mem_insert _).2 (.inl rfl)) fun n hn => by
    rw [List.eq_of_mem_replicate hn]
    exact ⟨fun _ => rfl, rfl, fun _ => .inl ⟨"1", 1, rfl, rfl⟩, rfl⟩

end Generic.DriverStateMap
