import SriovGeneric.TriState.Steps

/-!
# Runs of the tri-state plugin

`Inv` is what every state a run reaches satisfies, together with the outside calls of the run so
far.  It holds of `newGenericPlugin` and every `OnNodeStateChange` and `Apply` keeps it
(`inv_onNodeStateChange`, `inv_apply`), so it holds after every run (`inv_run`):

* VFIO is marked `loading` only with both IOMMU parameters queued;
* a driver the desired state needs is at least `loading`;
* every attempt counter is at most 5 and equals the number of script runs for its parameter;
* a driver is `loaded` exactly when the run loaded its module, and no module is loaded again
  after a successful load;
* `LastState` is the desired state of the last successful `SyncNodeState` of the run.

The properties of runs follow from it; the absence of `pci=realloc` (`noRealloc`) follows from one
step lemma by `runFrom_induction`.  A second
`OnNodeStateChange` with the same desired state requests nothing new (`requestsIdempotent`).
-/

namespace Generic.TriState

variable (c : Consts)

/-- What holds of every state a run of the tri-state plugin reaches, with the calls of the run. -/
structure Inv (s : GenericPlugin) (log : List Call) : Prop where
  iommu : s.loadVfioDriver = .loading →
    c.kernelParamIntelIommu ∈ s.desiredKernelParams ∧ c.kernelParamIommuPt ∈ s.desiredKernelParams
  vfio_requested : ∀ d, s.desireState = some d → needVfioDriver c d →
    s.loadVfioDriver ≠ .unloaded
  virtio_requested : ∀ d, s.desireState = some d → needVirtioVdpaDriver c d →
    s.loadVirtioVdpaDriver ≠ .unloaded
  attempts_le : ∀ k v, s.desiredKernelParams.lookup k = some v → v ≤ 5
  attempts_runs : ∀ k, scriptRuns k log = ((s.desiredKernelParams.lookup k).getD 0).toNat
  vfio_loaded : s.loadVfioDriver = .loaded ↔ .loadKernelModule "vfio_pci" none ∈ log
  virtio_loaded : s.loadVirtioVdpaDriver = .loaded ↔ .loadKernelModule "virtio_vdpa" none ∈ log
  noLoadAfterSuccess : NoLoadAfterSuccess log
  lastState : s.lastState = lastSynced log

theorem inv_newGenericPlugin (runningOnHost : Bool) : Inv c (newGenericPlugin runningOnHost) [] where
  iommu h := nomatch h
  vfio_requested _ h := nomatch h
  virtio_requested _ h := nomatch h
  attempts_le _ _ h := by simp [newGenericPlugin, AList.lookup_empty] at h
  attempts_runs _ := by simp [newGenericPlugin, scriptRuns, AList.lookup_empty]
  vfio_loaded := by simp [newGenericPlugin]
  virtio_loaded := by simp [newGenericPlugin]
  noLoadAfterSuccess _ _ _ h := by simp at h
  lastState := rfl

/-! ## `OnNodeStateChange` keeps the invariant -/

section
variable {c} {state : SriovNetworkNodeState} {p : GenericPlugin}

/-- Requesting a driver that the state needs leaves it at least `loading`. -/
theorem requested_ne_unloaded {st : LoadState} {need : Prop} [Decidable need] (hn : need) :
    (if st ≠ .loaded ∧ need then LoadState.loading else st) ≠ .unloaded := by
  split_ifs with h
  · nofun
  · rw [Classical.not_not.1 fun h' => h ⟨h', hn⟩]
    nofun

/-- Requesting a driver makes no driver `loaded` and keeps a `loaded` one. -/
theorem requested_eq_loaded_iff {st : LoadState} {need : Prop} [Decidable need] :
    (if st ≠ .loaded ∧ need then LoadState.loading else st) = .loaded ↔ st = .loaded := by
  split_ifs with h
  · exact iff_of_false nofun h.1
  · exact Iff.rfl

/-- Requesting the drivers queues the IOMMU parameters whenever VFIO ends up `loading`. -/
theorem requestDrivers_iommu
    (h : p.loadVfioDriver = .loading →
      c.kernelParamIntelIommu ∈ p.desiredKernelParams ∧ c.kernelParamIommuPt ∈ p.desiredKernelParams)
    (hv : (requestDrivers c state p).loadVfioDriver = .loading) :
    c.kernelParamIntelIommu ∈ (requestDrivers c state p).desiredKernelParams ∧
      c.kernelParamIommuPt ∈ (requestDrivers c state p).desiredKernelParams := by
  rw [requestDrivers_loadVfioDriver] at hv
  rw [requestDrivers_desiredKernelParams]
  split_ifs at hv ⊢ with hc
  · simp
  · exact h hv

theorem mem_requestDrivers {k : String} (h : k ∈ p.desiredKernelParams) :
    k ∈ (requestDrivers c state p).desiredKernelParams := by
  rw [requestDrivers_desiredKernelParams]
  split_ifs <;> simp [h]

theorem attempts_requestDrivers (k : String) :
    (((requestDrivers c state p).desiredKernelParams.lookup k).getD 0) =
      (p.desiredKernelParams.lookup k).getD 0 := by
  rw [requestDrivers_desiredKernelParams]
  split_ifs <;> simp [attempts_addToDesiredKernelParams]

theorem le_five_requestDrivers (h : ∀ k v, p.desiredKernelParams.lookup k = some v → v ≤ 5)
    {k : String} {v : UInt64} (hv : (requestDrivers c state p).desiredKernelParams.lookup k = some v) :
    v ≤ 5 := by
  rw [requestDrivers_desiredKernelParams] at hv
  split_ifs at hv
  · rcases lookup_addToDesiredKernelParams hv with hv | rfl
    · rcases lookup_addToDesiredKernelParams hv with hv | rfl
      · exact h k v hv
      · decide
    · decide
  · exact h k v hv

end

section
variable {c} {s : GenericPlugin} {new : SriovNetworkNodeState} {env : NodeStateEnv}

/-- The ledger after `OnNodeStateChange`: the keys of the requested ledger, counters at most 5,
each raised by the script runs of the call. -/
theorem onNodeStateChange_ledger (new : SriovNetworkNodeState) (env : NodeStateEnv)
    (hle : ∀ k v, s.desiredKernelParams.lookup k = some v → v ≤ 5) :
    let q := requestDrivers c new { s with desireState := some new }
    let m := (onNodeStateChange c s new env).state.desiredKernelParams
    (∀ k, k ∈ m ↔ k ∈ q.desiredKernelParams) ∧ (∀ k v, m.lookup k = some v → v ≤ 5) ∧
    ∀ k, scriptRuns k (onNodeStateChange c s new env).calls +
      ((s.desiredKernelParams.lookup k).getD 0).toNat = ((m.lookup k).getD 0).toNat := by
  intro q m
  have hq : ∀ k v, q.desiredKernelParams.lookup k = some v → v ≤ 5 :=
    fun k v hv => le_five_requestDrivers (p := { s with desireState := some new }) hle hv
  simp only [m, onNodeStateChange_state, onNodeStateChange_calls]
  split
  · refine ⟨fun _ => Iff.rfl, hq, fun k => ?_⟩
    simp only [scriptRuns, Bool.false_eq_true, not_false_eq_true, List.countP_cons_of_neg,
      List.countP_nil, Nat.zero_add, q, attempts_requestDrivers]
  · obtain ⟨hkeys, hbound, hruns⟩ := setAllLoop_attempts env false
      (pending_of_perm (env.paramOrder.perm q.desiredKernelParams.entries)) hq
    refine ⟨hkeys, hbound, fun k => ?_⟩
    have := hruns k
    simp only [q, attempts_requestDrivers] at this
    simpa only [setAllDesiredKernelParams, scriptRuns_cons, Nat.add_zero] using this

theorem inv_onNodeStateChange {log : List Call} (hi : Inv c s log) :
    Inv c (onNodeStateChange c s new env).state (log ++ (onNodeStateChange c s new env).calls) := by
  obtain ⟨hkeys, hbound, hruns⟩ := onNodeStateChange_ledger new env hi.attempts_le
  have hcalls : ∀ call ∈ (onNodeStateChange c s new env).calls, call.OfNodeState :=
    onNodeStateChange_ofNodeState
  have hload : ∀ name err, .loadKernelModule name err ∉ (onNodeStateChange c s new env).calls :=
    fun name err h => (hcalls _ h).not_isLoad trivial
  refine ⟨fun h => ?_, fun d hd hn => ?_, fun d hd hn => ?_, hbound, fun k => ?_, ?_, ?_, ?_, ?_⟩
  · rw [hkeys, hkeys]
    rw [onNodeStateChange_loadVfioDriver] at h
    exact requestDrivers_iommu (p := { s with desireState := some new }) hi.iommu h
  · rw [onNodeStateChange_desireState, Option.some_inj] at hd
    subst hd
    rw [onNodeStateChange_loadVfioDriver, requestDrivers_loadVfioDriver]
    exact requested_ne_unloaded hn
  · rw [onNodeStateChange_desireState, Option.some_inj] at hd
    subst hd
    rw [onNodeStateChange_loadVirtioVdpaDriver, requestDrivers_loadVirtioVdpaDriver]
    exact requested_ne_unloaded hn
  · rw [scriptRuns_append, hi.attempts_runs, ← hruns k]
    omega
  · rw [onNodeStateChange_loadVfioDriver, requestDrivers_loadVfioDriver, List.mem_append,
      ← hi.vfio_loaded, requested_eq_loaded_iff]
    exact (or_iff_left (hload _ _)).symm
  · rw [onNodeStateChange_loadVirtioVdpaDriver, requestDrivers_loadVirtioVdpaDriver,
      List.mem_append, ← hi.virtio_loaded, requested_eq_loaded_iff]
    exact (or_iff_left (hload _ _)).symm
  · exact hi.noLoadAfterSuccess.append
      (.of_nodup (by rw [loadNames_eq_nil fun call h => (hcalls call h).not_isLoad]; simp))
      fun name _ err => hload name err
  · rw [onNodeStateChange_lastState, hi.lastState, lastSynced_append,
      lastSynced_eq_none fun call h => .inr (hcalls call h)]
    rfl

end

/-! ## `Apply` keeps the invariant -/

theorem inv_apply {s : GenericPlugin} {log : List Call} (hi : Inv c s log) (env : ApplyEnv) :
    Inv c (apply env s).state (log ++ (apply env s).calls) := by
  cases hd : s.desireState with
  | none => simpa [apply_of_desireState_none hd] using hi
  | some desired =>
    obtain ⟨rest, hrest, hcalls, hstate⟩ := apply_shape env hd
    have hl := loadDrivers_spec env s
    have hds₀ : (loadDrivers env s).state.desireState = s.desireState := by rw [hl.others]
    have hm₀ : (loadDrivers env s).state.desiredKernelParams = s.desiredKernelParams := by
      rw [hl.others]
    have hds : (apply env s).state.desireState = s.desireState := by rw [hstate]; exact hds₀
    have hm : (apply env s).state.desiredKernelParams = s.desiredKernelParams := by
      rw [hstate]; exact hm₀
    have hvfio := apply_loadVfioDriver env hd
    have hvirtio := apply_loadVirtioVdpaDriver env hd
    have hls : (apply env s).state.lastState = (lastSynced rest).or s.lastState := by rw [hstate]
    rw [hcalls]
    have hrestLoad : ∀ name err, .loadKernelModule name err ∉ rest :=
      fun name err h => (hrest _ h).not_isLoad trivial
    refine ⟨fun h => ?_, fun d hd' hn => ?_, fun d hd' hn => ?_, hm ▸ hi.attempts_le, fun k => ?_,
      ?_, ?_, ?_, ?_⟩
    · rw [hm]
      rcases hl.vfio with h' | ⟨h', -⟩
      · exact hi.iommu (h' ▸ hvfio ▸ h)
      · exact hi.iommu h'
    · rw [hvfio]
      rcases hl.vfio with h' | ⟨-, h'⟩ <;> rw [h']
      exacts [hi.vfio_requested d (hds ▸ hd') hn, nofun]
    · rw [hvirtio]
      rcases hl.virtio with h' | ⟨-, h'⟩ <;> rw [h']
      exacts [hi.virtio_requested d (hds ▸ hd') hn, nofun]
    · rw [scriptRuns_append, scriptRuns_append, hi.attempts_runs, hm,
        scriptRuns_eq_zero fun call h => .inl (hl.isLoad call h),
        scriptRuns_eq_zero fun call h => .inr (hrest call h)]
      simp
    · rw [hvfio, hl.vfio_loaded, hi.vfio_loaded]
      simp [hrestLoad]
    · rw [hvirtio, hl.virtio_loaded, hi.virtio_loaded]
      simp [hrestLoad]
    · refine hi.noLoadAfterSuccess.append (.of_nodup ?_) fun name hname err hmem => ?_
      · rw [loadNames_append, loadNames_eq_nil fun call h => (hrest call h).not_isLoad,
          List.append_nil]
        exact hl.nodup
      · rcases List.mem_append.1 hmem with hmem | hmem
        · rcases hl.loads name err hmem with ⟨rfl, hv⟩ | ⟨rfl, hv⟩
          · exact nomatch hv.symm.trans (hi.vfio_loaded.2 hname)
          · exact nomatch hv.symm.trans (hi.virtio_loaded.2 hname)
        · exact hrestLoad name err hmem
    · rw [hls, hi.lastState, lastSynced_append, lastSynced_append,
        lastSynced_eq_none fun call h => .inl (hl.isLoad call h), Option.or_none]

theorem inv_step {s : GenericPlugin} {log : List Call} (hi : Inv c s log) (e : Event) :
    Inv c (step c s e).1 (log ++ (step c s e).2) := by
  cases e with
  | onNodeStateChange new env => exact inv_onNodeStateChange hi
  | apply env => exact inv_apply c hi env

/-- Every run from `newGenericPlugin` keeps `Inv`. -/
theorem inv_run (runningOnHost : Bool) (events : List Event) :
    Inv c (run c (newGenericPlugin runningOnHost) events).1
      (run c (newGenericPlugin runningOnHost) events).2 := by
  simpa using runFrom_induction (step c) (Inv c) (inv_newGenericPlugin c runningOnHost)
    (fun _ _ e h => inv_step c h e) events

/-! ## Drivers -/

/-- **Needed drivers are loaded.**  Whenever `Apply` calls `SyncNodeState` or returns nil, every
driver the desired state needs is `loaded`. -/
def NeededDriversLoaded : Prop :=
  ∀ runningOnHost events env,
    let o := apply env (run c (newGenericPlugin runningOnHost) events).1
    (o.ret = .returned none ∨ ∃ call ∈ o.calls, call.IsSync) →
    ∀ d, o.state.desireState = some d →
      (needVfioDriver c d → o.state.loadVfioDriver = .loaded) ∧
      (needVirtioVdpaDriver c d → o.state.loadVirtioVdpaDriver = .loaded)

theorem neededDriversLoaded : NeededDriversLoaded c := by
  intro runningOnHost events env o h d hd
  have hi := inv_run c runningOnHost events
  rw [apply_desireState] at hd
  obtain ⟨⟨-, hv⟩, ⟨-, hw⟩⟩ := apply_loadState_of_loadDrivers_ok hd (loadDrivers_ret_of_apply hd h)
  exact ⟨fun hn => hv (hi.vfio_requested d hd hn), fun hn => hw (hi.virtio_requested d hd hn)⟩

/-- **VFIO is loaded with the IOMMU parameters queued.**  An event that calls
`LoadKernelModule("vfio_pci")` starts from a ledger with both IOMMU parameters. -/
def VfioLoadNeedsIommu : Prop :=
  ∀ runningOnHost events e err,
    let s := (run c (newGenericPlugin runningOnHost) events).1
    .loadKernelModule "vfio_pci" err ∈ (step c s e).2 →
      c.kernelParamIntelIommu ∈ s.desiredKernelParams ∧ c.kernelParamIommuPt ∈ s.desiredKernelParams

theorem vfioLoadNeedsIommu : VfioLoadNeedsIommu c := by
  intro runningOnHost events e err s h
  rcases step_load h with ⟨-, hv⟩ | ⟨hname, -⟩
  · exact (inv_run c runningOnHost events).iommu hv
  · exact absurd hname (by decide)

/-- **Driver statuses move forward.**  No event moves a status back; a driver is `loaded` exactly
when the run loaded its module; no event loads the module of a driver marked `loaded`. -/
def DriverStatusForward : Prop :=
  ∀ runningOnHost events e,
    let r := run c (newGenericPlugin runningOnHost) events
    (r.1.loadVfioDriver.toNat ≤ (step c r.1 e).1.loadVfioDriver.toNat ∧
      r.1.loadVirtioVdpaDriver.toNat ≤ (step c r.1 e).1.loadVirtioVdpaDriver.toNat) ∧
    (r.1.loadVfioDriver = .loaded ↔ .loadKernelModule "vfio_pci" none ∈ r.2) ∧
    (r.1.loadVirtioVdpaDriver = .loaded ↔ .loadKernelModule "virtio_vdpa" none ∈ r.2) ∧
    ∀ name err, .loadKernelModule name err ∈ (step c r.1 e).2 →
      name = "vfio_pci" ∧ r.1.loadVfioDriver ≠ .loaded ∨
        name = "virtio_vdpa" ∧ r.1.loadVirtioVdpaDriver ≠ .loaded

theorem driverStatusForward : DriverStatusForward c := by
  intro runningOnHost events e
  have hi := inv_run c runningOnHost events
  refine ⟨step_loadState_toNat_le, hi.vfio_loaded, hi.virtio_loaded, fun name err h => ?_⟩
  rcases step_load h with ⟨rfl, hv⟩ | ⟨rfl, hw⟩
  · exact .inl ⟨rfl, by rw [hv]; decide⟩
  · exact .inr ⟨rfl, by rw [hw]; decide⟩

/-! ## Attempts -/

/-- The next event keeps every parameter of a ledger with counters at most 5 and lowers no
counter. -/
theorem step_lookup_mono {s : GenericPlugin} (e : Event)
    (hle : ∀ k v, s.desiredKernelParams.lookup k = some v → v ≤ 5) {k : String} {v : UInt64}
    (hv : s.desiredKernelParams.lookup k = some v) :
    ∃ v', (step c s e).1.desiredKernelParams.lookup k = some v' ∧ v ≤ v' := by
  cases e with
  | apply env => exact ⟨v, by simpa [step] using hv, (attempts_le_iff v v).2 le_rfl⟩
  | onNodeStateChange new env =>
    obtain ⟨hkeys, -, hruns⟩ := onNodeStateChange_ledger new env hle
    have hmem : k ∈ (step c s (.onNodeStateChange new env)).1.desiredKernelParams :=
      (hkeys k).2 (mem_requestDrivers (AList.lookup_isSome.1 (by simp [hv])))
    obtain ⟨v', hv'⟩ := Option.isSome_iff_exists.1 (AList.lookup_isSome.2 hmem)
    refine ⟨v', hv', (attempts_le_iff v v').2 ?_⟩
    have := hruns k
    simp only [step] at hv'
    rw [hv, hv', Option.getD_some, Option.getD_some] at this
    omega

/-- **Bounded attempts.**  In every state a run reaches every attempt counter is at most 5 and
the next event removes no parameter and lowers no counter; the script ran at most five times for
any one parameter. -/
theorem attempts_at_most_five (runningOnHost : Bool) (events : List Event) (e : Event) :
    let r := run c (newGenericPlugin runningOnHost) events
    (∀ k v, r.1.desiredKernelParams.lookup k = some v →
      v ≤ 5 ∧ ∃ v', (step c r.1 e).1.desiredKernelParams.lookup k = some v' ∧ v ≤ v') ∧
    ∀ k, scriptRuns k r.2 ≤ 5 := by
  intro r
  have hi := inv_run c runningOnHost events
  refine ⟨fun k v hv => ⟨hi.attempts_le k v hv, step_lookup_mono c e hi.attempts_le hv⟩,
    fun k => ?_⟩
  rw [hi.attempts_runs]
  cases hk : r.1.desiredKernelParams.lookup k with
  | none => simp
  | some v => simpa [← attempts_le_five_iff] using hi.attempts_le k v hk

/-- A fresh plugin asked for VFs bound to `vfio-pci` and a setter that prints `1`: one attempt for
`intel_iommu=on`, within the bound. -/
theorem attempts_at_most_five_one_request :
    let c := Consts.upstream
    let r := run c (newGenericPlugin false)
      [.onNodeStateChange vfioRequest ⟨fun _ => false, fun _ => .exited 0 "1", (false, none), .stored⟩]
    r.1.desiredKernelParams.lookup "intel_iommu=on" = some 1 ∧ (1 : UInt64) ≤ 5 ∧
      scriptRuns "intel_iommu=on" r.2 ≤ 5 := by
  intro c r
  have h := attempts_at_most_five c false
    [.onNodeStateChange vfioRequest ⟨fun _ => false, fun _ => .exited 0 "1", (false, none), .stored⟩]
    (.apply ⟨fun _ => none, ([], none), none, none⟩)
  have hl : r.1.desiredKernelParams.lookup "intel_iommu=on" = some 1 := by decide
  exact ⟨hl, (h.1 _ _ hl).1, h.2 _⟩

/-! ## `LastState` and the short cut -/

/-- **`LastState` is the last successful sync.**  In every state a run reaches `LastState` is the
desired state of the run's last successful `SyncNodeState` call, and an `Apply` that returns nil
without calling `SyncNodeState` found its interfaces equal to that state's. -/
def LastStateIsLastSuccess : Prop :=
  ∀ runningOnHost events env,
    let r := run c (newGenericPlugin runningOnHost) events
    let o := apply env r.1
    r.1.lastState = lastSynced r.2 ∧
    (o.ret = .returned none → (∀ call ∈ o.calls, ¬ call.IsSync) →
      ∃ d last, r.1.desireState = some d ∧ lastSynced r.2 = some last ∧
        last.spec.interfaces = d.spec.interfaces)

/-- An `Apply` that returns nil without calling `SyncNodeState` took the short cut. -/
theorem nothingToApply_of_apply {env : ApplyEnv} {p : GenericPlugin} {d : SriovNetworkNodeState}
    (hd : p.desireState = some d) (hr : (apply env p).ret = .returned none)
    (hs : ∀ call ∈ (apply env p).calls, ¬ call.IsSync) : nothingToApply p.lastState d := by
  have hok := loadDrivers_ret_of_apply hd (.inl hr)
  have hls : (loadDrivers env p).state.lastState = p.lastState := by
    rw [(loadDrivers_spec env p).others]
  rw [apply_of_loadDrivers_ok hd hok] at hr hs
  by_contra hn
  rw [← hls] at hn
  obtain ⟨call, hc, hsync⟩ := exists_isSync_of_lastSynced (applyInterfaces_returned_none hn hr)
  exact hs call (List.mem_append_right _ hc) hsync

theorem lastStateIsLastSuccess : LastStateIsLastSuccess c := by
  intro runningOnHost events env r o
  have hi := inv_run c runningOnHost events
  refine ⟨hi.lastState, fun hr hs => ?_⟩
  cases hd : r.1.desireState with
  | none => simp [o, apply_of_desireState_none hd] at hr
  | some d =>
    have hn := nothingToApply_of_apply hd hr hs
    rw [hi.lastState] at hn
    cases hl : lastSynced r.2 with
    | none => simp [hl, nothingToApply] at hn
    | some last => exact ⟨d, last, rfl, rfl, by simpa [hl, nothingToApply] using hn⟩

/-- A short cut of `Apply` always follows a last `SyncNodeState` of the run that succeeded, for the
same interfaces; `shortCutAfterLastSync_false` refutes it. -/
def ShortCutAfterLastSync : Prop :=
  ∀ runningOnHost events env,
    let r := run c (newGenericPlugin runningOnHost) events
    let o := apply env r.1
    o.ret = .returned none → (∀ call ∈ o.calls, ¬ call.IsSync) →
      ∃ d last pfs, r.1.desireState = some d ∧ lastSyncCall r.2 = some (last, pfs, none) ∧
        last.spec.interfaces = d.spec.interfaces

/-- Apply `S1` and sync it, apply `S2` with a failing `SyncNodeState`, go back to `S1`: the next
`Apply` takes the short cut although the run's last `SyncNodeState` call failed, for `S2`. -/
theorem shortCutAfterLastSync_false : ¬ ShortCutAfterLastSync c := by
  let s₁ : SriovNetworkNodeState := ⟨⟨[⟨"0000:3b:00.0", 4, []⟩]⟩, ⟨[]⟩⟩
  let s₂ : SriovNetworkNodeState := ⟨⟨[⟨"0000:3b:00.0", 8, []⟩]⟩, ⟨[]⟩⟩
  let nsEnv : NodeStateEnv := ⟨fun _ => true, fun _ => .exited 0 "0", (false, none), .stored⟩
  let ok : ApplyEnv := ⟨fun _ => none, ([], none), none, none⟩
  let bad : ApplyEnv := ⟨fun _ => none, ([], none), none, some "sync failed"⟩
  let p₁ := { newGenericPlugin true with desireState := some s₁ }
  let p₂ := { p₁ with lastState := some s₁ }
  let p₃ := { p₂ with desireState := some s₂ }
  have h₁ : step c (newGenericPlugin true) (.onNodeStateChange s₁ nsEnv) =
      (p₁, [.writeSwitchdevConfFile s₁ (false, none)]) := rfl
  have h₂ : step c p₁ (.apply ok) =
      (p₂, [.getPfsToSkip s₁ ([], none), .syncNodeState s₁ [] none]) := rfl
  have h₃ : step c p₂ (.onNodeStateChange s₂ nsEnv) =
      (p₃, [.writeSwitchdevConfFile s₂ (false, none)]) := rfl
  have h₄ : step c p₃ (.apply bad) =
      (p₃, [.getPfsToSkip s₂ ([], none), .syncNodeState s₂ [] (some "sync failed")]) := rfl
  have h₅ : step c p₃ (.onNodeStateChange s₁ nsEnv) =
      (p₂, [.writeSwitchdevConfFile s₁ (false, none)]) := rfl
  have hrun : run c (newGenericPlugin true) [.onNodeStateChange s₁ nsEnv, .apply ok,
      .onNodeStateChange s₂ nsEnv, .apply bad, .onNodeStateChange s₁ nsEnv] =
      (p₂, [.writeSwitchdevConfFile s₁ (false, none), .getPfsToSkip s₁ ([], none),
        .syncNodeState s₁ [] none, .writeSwitchdevConfFile s₂ (false, none),
        .getPfsToSkip s₂ ([], none), .syncNodeState s₂ [] (some "sync failed"),
        .writeSwitchdevConfFile s₁ (false, none)]) := by
    rw [run, runFrom_cons, h₁, runFrom_cons, h₂, runFrom_cons, h₃, runFrom_cons, h₄,
      runFrom_cons, h₅]
    rfl
  have hshort : apply ok p₂ = ⟨.returned none, p₂, []⟩ := rfl
  intro h
  obtain ⟨d, last, pfs, -, hl, -⟩ := h true _ ok (by rw [hrun, hshort]) (by rw [hrun, hshort]; simp)
  rw [hrun] at hl
  cases hl

/-! ## A second `OnNodeStateChange` -/

/-- Requesting a driver twice is requesting it once. -/
theorem requested_idem {st : LoadState} {need : Prop} [Decidable need] :
    (if (if st ≠ .loaded ∧ need then LoadState.loading else st) ≠ .loaded ∧ need then
        LoadState.loading
      else if st ≠ .loaded ∧ need then LoadState.loading else st) =
      if st ≠ .loaded ∧ need then LoadState.loading else st := by
  by_cases h : st ≠ .loaded ∧ need
  · rw [if_pos h, ite_self]
  · rw [if_neg h, if_neg h]

/-- **Requests are idempotent.**  A second `OnNodeStateChange` with the same desired state, whatever
its outside calls return, changes no driver status and queues no new kernel parameter. -/
def RequestsIdempotent : Prop :=
  ∀ p new env env',
    let s := (onNodeStateChange c p new env).state
    let s' := (onNodeStateChange c s new env').state
    s'.loadVfioDriver = s.loadVfioDriver ∧ s'.loadVirtioVdpaDriver = s.loadVirtioVdpaDriver ∧
      ∀ k, k ∈ s'.desiredKernelParams ↔ k ∈ s.desiredKernelParams

theorem requestsIdempotent : RequestsIdempotent c := by
  intro p new env env' s s'
  have hv : s.loadVfioDriver =
      if p.loadVfioDriver ≠ .loaded ∧ needVfioDriver c new then .loading else p.loadVfioDriver := by
    simp only [s, onNodeStateChange_loadVfioDriver, requestDrivers_loadVfioDriver]
  refine ⟨?_, ?_, fun k => ?_⟩
  · simp only [s', onNodeStateChange_loadVfioDriver, requestDrivers_loadVfioDriver, hv]
    exact requested_idem
  · simp only [s', s, onNodeStateChange_loadVirtioVdpaDriver, requestDrivers_loadVirtioVdpaDriver]
    exact requested_idem
  rw [mem_onNodeStateChange_desiredKernelParams, requestDrivers_desiredKernelParams]
  split_ifs with h₁
  · -- the second call requests VFIO only if the first one did, which queued both parameters
    have hc : p.loadVfioDriver ≠ .loaded ∧ needVfioDriver c new := by
      by_contra hc
      rw [hv, if_neg hc] at h₁
      exact hc h₁
    have hq : ∀ k', k' = c.kernelParamIntelIommu ∨ k' = c.kernelParamIommuPt →
        k' ∈ s.desiredKernelParams := fun k' hk' => by
      rw [mem_onNodeStateChange_desiredKernelParams, requestDrivers_desiredKernelParams, if_pos hc]
      rcases hk' with rfl | rfl <;> simp
    rw [addToDesiredKernelParams_of_mem (hq _ (.inl rfl)),
      addToDesiredKernelParams_of_mem (hq _ (.inr rfl))]
  · rfl

/-! ## A second `Apply` -/

theorem needVfioDriver_congr {a b : SriovNetworkNodeState}
    (h : a.spec.interfaces = b.spec.interfaces) : needVfioDriver c a = needVfioDriver c b := by
  simp only [needVfioDriver, anyVfGroup, h]

theorem needVirtioVdpaDriver_congr {a b : SriovNetworkNodeState}
    (h : a.spec.interfaces = b.spec.interfaces) :
    needVirtioVdpaDriver c a = needVirtioVdpaDriver c b := by
  simp only [needVirtioVdpaDriver, anyVfGroup, h]

/-- What an `Apply` that synced `d` leaves behind, and what `OnNodeStateChange` with `d`'s
interfaces keeps. -/
structure Settled (d : SriovNetworkNodeState) (q : GenericPlugin) : Prop where
  lastState : q.lastState = some d
  vfio : q.loadVfioDriver ≠ .loading
  virtio : q.loadVirtioVdpaDriver ≠ .loading
  vfio_needed : needVfioDriver c d → q.loadVfioDriver = .loaded
  virtio_needed : needVirtioVdpaDriver c d → q.loadVirtioVdpaDriver = .loaded
  desired : ∃ n, q.desireState = some n ∧ n.spec.interfaces = d.spec.interfaces

section
variable {c} {d : SriovNetworkNodeState} {q : GenericPlugin}

/-- A settled driver needed by the new state is already `loaded`, so `OnNodeStateChange` with
`d`'s interfaces marks nothing `loading`. -/
theorem settled_onNodeStateChange (hq : Settled c d q) {new : SriovNetworkNodeState}
    {env : NodeStateEnv} (hn : new.spec.interfaces = d.spec.interfaces) :
    Settled c d (onNodeStateChange c q new env).state := by
  have hv : (onNodeStateChange c q new env).state.loadVfioDriver = q.loadVfioDriver := by
    rw [onNodeStateChange_loadVfioDriver, requestDrivers_loadVfioDriver, needVfioDriver_congr c hn]
    exact if_neg fun h => h.1 (hq.vfio_needed h.2)
  have hw : (onNodeStateChange c q new env).state.loadVirtioVdpaDriver = q.loadVirtioVdpaDriver := by
    rw [onNodeStateChange_loadVirtioVdpaDriver, requestDrivers_loadVirtioVdpaDriver,
      needVirtioVdpaDriver_congr c hn]
    exact if_neg fun h => h.1 (hq.virtio_needed h.2)
  exact ⟨by simpa using hq.lastState, hv ▸ hq.vfio, hw ▸ hq.virtio, hv ▸ hq.vfio_needed,
    hw ▸ hq.virtio_needed, ⟨new, by simp, hn⟩⟩

/-- `Apply` from a settled state returns nil and makes no outside call. -/
theorem apply_of_settled (hq : Settled c d q) (env : ApplyEnv) :
    apply env q = ⟨.returned none, q, []⟩ := by
  obtain ⟨n, hd, hn⟩ := hq.desired
  have hok : loadDrivers env q = ⟨none, q, []⟩ := loadDrivers_of_not_loading hq.vfio hq.virtio
  have hnothing : nothingToApply q.lastState n := by simp [hq.lastState, nothingToApply, hn]
  rw [apply_of_loadDrivers_ok hd (by rw [hok]), hok, applyInterfaces_of_nothingToApply hnothing]
  rfl

end

/-- An `Apply` from a reachable state that returns nil after calling `SyncNodeState` leaves a
settled state. -/
theorem settled_apply {s : GenericPlugin} {log : List Call} (hi : Inv c s log) {env : ApplyEnv}
    {d : SriovNetworkNodeState} (hd : s.desireState = some d)
    (hr : (apply env s).ret = .returned none) (hs : ∃ call ∈ (apply env s).calls, call.IsSync) :
    Settled c d (apply env s).state := by
  have hok := loadDrivers_ret_of_apply hd (.inl hr)
  obtain ⟨⟨hv, hv'⟩, ⟨hw, hw'⟩⟩ := apply_loadState_of_loadDrivers_ok hd hok
  have hls : (apply env s).state.lastState = some d := by
    have hld := loadDrivers_spec env s
    rw [apply_of_loadDrivers_ok hd hok] at hr hs ⊢
    obtain ⟨call, hc, hsync⟩ := hs
    rcases List.mem_append.1 hc with hc | hc
    · exact absurd hsync (hld.isLoad call hc).not_isSync
    have hn : ¬ nothingToApply (loadDrivers env s).state.lastState d := fun hn => by
      simp [applyInterfaces_of_nothingToApply hn] at hc
    rw [Outcome.after_state, applyInterfaces_state, applyInterfaces_returned_none hn hr]
    rfl
  exact ⟨hls, hv, hw, fun hn => hv' (hi.vfio_requested d hd hn),
    fun hn => hw' (hi.virtio_requested d hd hn), ⟨d, by simpa using hd, rfl⟩⟩

/-- **`Apply` is idempotent.**  After an `Apply` that returns nil having called `SyncNodeState`,
and any `OnNodeStateChange` calls with the same interfaces, the next `Apply` returns nil and makes
no outside call. -/
def ApplyIdempotent : Prop :=
  ∀ runningOnHost events env,
    let s := (run c (newGenericPlugin runningOnHost) events).1
    let o := apply env s
    o.ret = .returned none → (∃ call ∈ o.calls, call.IsSync) →
    ∀ d, s.desireState = some d →
    ∀ (changes : List (SriovNetworkNodeState × NodeStateEnv)) (env' : ApplyEnv),
      (∀ n ∈ changes, n.1.spec.interfaces = d.spec.interfaces) →
      let s' := (run c o.state (changes.map fun n => .onNodeStateChange n.1 n.2)).1
      apply env' s' = ⟨.returned none, s', []⟩

theorem applyIdempotent : ApplyIdempotent c := by
  intro runningOnHost events env s o hr hs d hd changes env' hchanges s'
  refine apply_of_settled (runFrom_induction_of_forall (step c) (Settled c d)
    (fun e => ∃ n ∈ changes, e = .onNodeStateChange n.1 n.2)
    (settled_apply c (inv_run c runningOnHost events) hd hr hs) ?_ ?_) env'
  · rintro q _ ⟨n, hn, rfl⟩ hq
    exact settled_onNodeStateChange hq (hchanges n hn)
  · intro e he
    obtain ⟨n, hn, rfl⟩ := List.mem_map.1 he
    exact ⟨n, hn, rfl⟩

/-! ## `pci=realloc` -/

/-- **No `pci=realloc`.**  When the realloc parameter is neither IOMMU parameter, no run of the
tri-state version queues it. -/
def NoRealloc : Prop :=
  ∀ runningOnHost events,
    c.kernelParamPciRealloc ≠ c.kernelParamIntelIommu →
    c.kernelParamPciRealloc ≠ c.kernelParamIommuPt →
    c.kernelParamPciRealloc ∉ (run c (newGenericPlugin runningOnHost) events).1.desiredKernelParams

theorem noRealloc : NoRealloc c := by
  intro r events h₁ h₂
  refine @runFrom_induction _ _ (step c) (fun s _ => c.kernelParamPciRealloc ∉ s.desiredKernelParams)
    (newGenericPlugin r) [] (by simp [newGenericPlugin]) (fun s _ e h => ?_) events
  cases e with
  | onNodeStateChange new env =>
    simp only [step, mem_onNodeStateChange_desiredKernelParams, requestDrivers_desiredKernelParams]
    split_ifs <;> simp [h, h₁, h₂]
  | apply env => simpa [step] using h

end Generic.TriState
