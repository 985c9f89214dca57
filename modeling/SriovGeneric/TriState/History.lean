import SriovGeneric.TriState.Runs

/-!
# What a run of the tri-state plugin did

`Runs` proves what every state a run reaches satisfies; this module reads the state after a run
back to the run's own events and outside calls.

* `loadsFollowSomeRequest`: every module an event loads is `vfio_pci` or `virtio_vdpa`, after a
  request of a state that needs it; not necessarily the last request
  (`loadsFollowLastRequest_false`): a driver marked `loading` stays so when the next state no longer
  needs it;
* `attemptsCountRuns`: each counter of the ledger is the number of the run's setter runs for its
  parameter, failed or not, and `kernelArgsRequested`: the setter ran only for the IOMMU parameters,
  in a run that asked for a state needing VFIO;
* `giveUpAfterFive`: `n` calls of `OnNodeStateChange`, each with the parameter off the command line
  and the switchdev file unchanged, run the setter `min n (5 - a)` times from `a` attempts.
-/

namespace Generic.TriState

variable (c : Consts)

/-! ## Module loads -/

/-- Each driver that is not `unloaded` was asked for by a request of a state that needs it. -/
structure Requested (s : GenericPlugin) (events : List Event) : Prop where
  vfio : s.loadVfioDriver ≠ .unloaded → ∃ new ∈ events.filterMap Event.requested, needVfioDriver c new
  virtio : s.loadVirtioVdpaDriver ≠ .unloaded →
    ∃ new ∈ events.filterMap Event.requested, needVirtioVdpaDriver c new

/-- A status `loading` set for a need, or kept. -/
theorem requested_mono {st : LoadState} {need : Prop} [Decidable need] {P : Prop}
    (hst : st ≠ .unloaded → P) (hneed : need → P) :
    (if st ≠ .loaded ∧ need then LoadState.loading else st) ≠ .unloaded → P := by
  split_ifs with h
  exacts [fun _ => hneed h.2, hst]

/-- `Apply` moves a driver's status only from `loading` to `loaded`. -/
theorem apply_loadState (env : ApplyEnv) (s : GenericPlugin) :
    ((apply env s).state.loadVfioDriver = s.loadVfioDriver ∨ s.loadVfioDriver = .loading) ∧
      ((apply env s).state.loadVirtioVdpaDriver = s.loadVirtioVdpaDriver ∨
        s.loadVirtioVdpaDriver = .loading) := by
  cases hd : s.desireState with
  | none => rw [apply_of_desireState_none hd]; exact ⟨.inl rfl, .inl rfl⟩
  | some d =>
    have hl := loadDrivers_spec env s
    rw [apply_loadVfioDriver env hd, apply_loadVirtioVdpaDriver env hd]
    exact ⟨hl.vfio.imp_right And.left, hl.virtio.imp_right And.left⟩

theorem requested_step {s : GenericPlugin} {events : List Event} (h : Requested c s events)
    (e : Event) : Requested c (step c s e).1 (events ++ [e]) := by
  -- a request of the run so far is a request of the longer run
  have hold {P : SriovNetworkNodeState → Prop} : (∃ new ∈ events.filterMap Event.requested, P new) →
      ∃ new ∈ (events ++ [e]).filterMap Event.requested, P new :=
    fun ⟨new, hn, hp⟩ => ⟨new, by rw [List.filterMap_append]; exact List.mem_append_left _ hn, hp⟩
  cases e with
  | onNodeStateChange new env =>
    have hnew : new ∈ (events ++ [Event.onNodeStateChange new env]).filterMap Event.requested := by
      simp [List.filterMap_append, Event.requested]
    refine ⟨?_, ?_⟩ <;> simp only [step, onNodeStateChange_loadVfioDriver,
      onNodeStateChange_loadVirtioVdpaDriver, requestDrivers_loadVfioDriver,
      requestDrivers_loadVirtioVdpaDriver]
    · exact requested_mono (fun hv => hold (h.vfio hv)) fun hv => ⟨new, hnew, hv⟩
    · exact requested_mono (fun hv => hold (h.virtio hv)) fun hv => ⟨new, hnew, hv⟩
  | apply env =>
    have hback {st st' : LoadState} (h : st' = st ∨ st = .loading) (hne : st' ≠ .unloaded) :
        st ≠ .unloaded := by
      rcases h with rfl | rfl
      exacts [hne, nofun]
    obtain ⟨hv, hvi⟩ := apply_loadState env s
    exact ⟨fun hne => hold (h.vfio (hback hv hne)), fun hne => hold (h.virtio (hback hvi hne))⟩

theorem requested_run (runningOnHost : Bool) (events : List Event) :
    Requested c (run c (newGenericPlugin runningOnHost) events).1 events :=
  runFrom_induction_events (step c) (fun s evs _ => Requested c s evs)
    ⟨fun h => absurd rfl h, fun h => absurd rfl h⟩ (fun _ _ _ e h => requested_step c h e) events

/-- **Modules follow some request.**  Every `LoadKernelModule` call an event makes after a run from
`NewGenericPlugin` is for `vfio_pci`, in a run with an `OnNodeStateChange` whose state needs VFIO,
or for `virtio_vdpa`, in a run with one whose state needs virtio vDPA. -/
def LoadsFollowSomeRequest : Prop :=
  ∀ runningOnHost events e name err,
    .loadKernelModule name err ∈ (step c (run c (newGenericPlugin runningOnHost) events).1 e).2 →
      name = "vfio_pci" ∧ (∃ new ∈ events.filterMap Event.requested, needVfioDriver c new) ∨
        name = "virtio_vdpa" ∧ ∃ new ∈ events.filterMap Event.requested, needVirtioVdpaDriver c new

theorem loadsFollowSomeRequest : LoadsFollowSomeRequest c := by
  intro runningOnHost events e name err h
  have hr := requested_run c runningOnHost events
  rcases step_load h with ⟨rfl, hv⟩ | ⟨rfl, hv⟩
  · exact .inl ⟨rfl, hr.vfio (by rw [hv]; exact nofun)⟩
  · exact .inr ⟨rfl, hr.virtio (by rw [hv]; exact nofun)⟩

/-- An `Apply` whose loads succeed loads `vfio_pci` when it is marked `loading`. -/
theorem loadVfio_mem_apply {env : ApplyEnv} {s : GenericPlugin} {d : SriovNetworkNodeState}
    (hd : s.desireState = some d) (hv : s.loadVfioDriver = .loading)
    (hok : ∀ name, env.loadKernelModule name = none) :
    .loadKernelModule "vfio_pci" none ∈ (step c s (.apply env)).2 := by
  show _ ∈ (apply env s).calls
  have hl := loadDrivers_spec env s
  obtain ⟨rest, -, hcalls, -⟩ := apply_shape env hd
  rw [hcalls]
  refine List.mem_append_left _ ((hl.vfio_loaded.1 ?_).resolve_left (by rw [hv]; exact nofun))
  rcases hl.vfio with h | ⟨-, h⟩
  exacts [absurd (h.trans hv) (hl.ok (loadDrivers_ok s hok)).1, h]

/-- Every module an event loads is needed by the run's last requested state, as in the
`DriverStateMap` version; `loadsFollowLastRequest_false` refutes it for this version. -/
def LoadsFollowLastRequest : Prop :=
  ∀ runningOnHost events e name err,
    .loadKernelModule name err ∈ (step c (run c (newGenericPlugin runningOnHost) events).1 e).2 →
      ∃ d, (events.filterMap Event.requested).getLast? = some d ∧
        (name = "vfio_pci" ∧ needVfioDriver c d ∨ name = "virtio_vdpa" ∧ needVirtioVdpaDriver c d)

/-- A state that needs VFIO, then one with no interface, then an `Apply` whose loads succeed:
`vfio_pci` stays `loading` and is loaded for a desired state that does not need it. -/
theorem loadsFollowLastRequest_false : ¬ LoadsFollowLastRequest c := by
  let vfio : SriovNetworkNodeState := ⟨⟨[⟨"0000:3b:00.0", 1, [⟨c.deviceTypeVfioPci, ""⟩]⟩]⟩, ⟨[]⟩⟩
  let empty : SriovNetworkNodeState := ⟨⟨[]⟩, ⟨[]⟩⟩
  let env : NodeStateEnv := ⟨fun _ => true, fun _ => .exited 0 "0", (false, none), .stored⟩
  let ok : ApplyEnv := ⟨fun _ => none, ([], none), none, none⟩
  let s := (run c (newGenericPlugin false) [.onNodeStateChange vfio env, .onNodeStateChange empty env]).1
  have hd : s.desireState = some empty := by simp [s, run, runFrom, step]
  have hv : s.loadVfioDriver = .loading := by
    simp [s, run, runFrom, step, requestDrivers_loadVfioDriver, newGenericPlugin, needVfioDriver,
      anyVfGroup, vfio]
  have hload : Call.loadKernelModule "vfio_pci" none ∈ (step c s (.apply ok)).2 :=
    loadVfio_mem_apply c hd hv fun _ => rfl
  intro h
  obtain ⟨d, hl, hn⟩ := h false [.onNodeStateChange vfio env, .onNodeStateChange empty env] (.apply ok)
    "vfio_pci" none hload
  obtain rfl : d = empty := Option.some.inj (hl.symm : some d = some empty)
  simp [needVfioDriver, needVirtioVdpaDriver, anyVfGroup, empty] at hn

/-! ## The ledger -/

/-- The setter ran only for parameters the ledger holds. -/
theorem Inv.mem_of_scriptRuns_pos {s : GenericPlugin} {log : List Call} (hi : Inv c s log)
    {k : String} (hpos : 0 < scriptRuns k log) : k ∈ s.desiredKernelParams := by
  rw [hi.attempts_runs] at hpos
  exact AList.lookup_isSome.1 (Option.isSome_iff_ne_none.2 fun hk => by simp [hk] at hpos)

/-- **Counters count every run.**  After every run from `NewGenericPlugin`, each parameter's counter,
read as Go reads a map (0 when absent), is the number of the run's setter runs for it, failed or
not; the setter ran only for parameters the ledger holds. -/
def AttemptsCountRuns : Prop :=
  ∀ runningOnHost events k,
    let r := run c (newGenericPlugin runningOnHost) events
    ((r.1.desiredKernelParams.lookup k).getD 0).toNat = scriptRuns k r.2 ∧
      (0 < scriptRuns k r.2 → k ∈ r.1.desiredKernelParams)

theorem attemptsCountRuns : AttemptsCountRuns c := fun runningOnHost events k =>
  have hi := inv_run c runningOnHost events
  ⟨(hi.attempts_runs k).symm, hi.mem_of_scriptRuns_pos⟩

/-- Every queued parameter is an IOMMU parameter, after a request of a state that needs VFIO. -/
def QueuedRequested (s : GenericPlugin) (events : List Event) : Prop :=
  ∀ k ∈ s.desiredKernelParams, (k = c.kernelParamIntelIommu ∨ k = c.kernelParamIommuPt) ∧
    ∃ new ∈ events.filterMap Event.requested, needVfioDriver c new

theorem queuedRequested_step {s : GenericPlugin} {events : List Event}
    (h : QueuedRequested c s events) (e : Event) : QueuedRequested c (step c s e).1 (events ++ [e]) := by
  have hold (k : String) (hk : k ∈ s.desiredKernelParams) :
      (k = c.kernelParamIntelIommu ∨ k = c.kernelParamIommuPt) ∧
        ∃ new ∈ (events ++ [e]).filterMap Event.requested, needVfioDriver c new :=
    (h k hk).imp_right fun ⟨new, hn, hp⟩ =>
      ⟨new, by rw [List.filterMap_append]; exact List.mem_append_left _ hn, hp⟩
  cases e with
  | onNodeStateChange new env =>
    have hnew : new ∈ (events ++ [Event.onNodeStateChange new env]).filterMap Event.requested := by
      simp [List.filterMap_append, Event.requested]
    intro k hk
    rw [step, mem_onNodeStateChange_desiredKernelParams, requestDrivers_desiredKernelParams] at hk
    split_ifs at hk with hc
    · rcases mem_addToDesiredKernelParams.1 hk with rfl | hk
      · exact ⟨.inr rfl, new, hnew, hc.2⟩
      rcases mem_addToDesiredKernelParams.1 hk with rfl | hk
      exacts [⟨.inl rfl, new, hnew, hc.2⟩, hold k hk]
    · exact hold k hk
  | apply env => exact fun k hk => hold k (by simpa [step] using hk)

/-- **Only requested kernel arguments.**  After every run from `NewGenericPlugin`, every parameter
the ledger holds, and every parameter the setter ran for, is one of the two IOMMU parameters, in a
run with an `OnNodeStateChange` whose state needs VFIO. -/
def KernelArgsRequested : Prop :=
  ∀ runningOnHost events k,
    let r := run c (newGenericPlugin runningOnHost) events
    (k ∈ r.1.desiredKernelParams ∨ 0 < scriptRuns k r.2) →
      (k = c.kernelParamIntelIommu ∨ k = c.kernelParamIommuPt) ∧
        ∃ new ∈ events.filterMap Event.requested, needVfioDriver c new

theorem kernelArgsRequested : KernelArgsRequested c := by
  intro runningOnHost events k r hk
  have hq : QueuedRequested c r.1 events :=
    runFrom_induction_events (step c) (fun s evs _ => QueuedRequested c s evs)
      (fun _ h => absurd h (AList.not_mem_empty _)) (fun _ _ _ e h => queuedRequested_step c h e) events
  exact hq k (hk.elim id (inv_run c runningOnHost events).mem_of_scriptRuns_pos)

/-! ## Giving up -/

/-- One `OnNodeStateChange` with `kparam` off the command line and the switchdev file unchanged runs
the setter for `kparam` once and raises its counter when it has at most 4 attempts, and otherwise
neither. -/
theorem onNodeStateChange_attempt {p : GenericPlugin} {new : SriovNetworkNodeState}
    {env : NodeStateEnv} {kparam : String} {a : UInt64} (hk : p.desiredKernelParams.lookup kparam = some a)
    (hset : env.isKernelCmdLineParamSet kparam = false) (hw : env.writeSwitchdevConfFile.1 = false) :
    (onNodeStateChange c p new env).state.desiredKernelParams.lookup kparam =
        some (if a ≤ 4 then a + 1 else a) ∧
      scriptRuns kparam (onNodeStateChange c p new env).calls = if a ≤ 4 then 1 else 0 := by
  obtain ⟨-, hl, hr, -⟩ := oneFullPassIfUnchanged c p new env hw
  have hm : (if p.loadVfioDriver ≠ .loaded ∧ needVfioDriver c new then
      addToDesiredKernelParams c.kernelParamIommuPt
        (addToDesiredKernelParams c.kernelParamIntelIommu p.desiredKernelParams)
    else p.desiredKernelParams).lookup kparam = some a := by
    have hmem : kparam ∈ p.desiredKernelParams := AList.lookup_isSome.1 (by simp [hk])
    split_ifs <;> simp only [lookup_addToDesiredKernelParams_of_mem hmem,
      lookup_addToDesiredKernelParams_of_mem (mem_addToDesiredKernelParams.2 (.inr hmem)), hk]
  rw [hl, hr, hm]
  have hmem := AList.lookup_isSome.1 (Option.isSome_iff_exists.2 ⟨a, hm⟩)
  by_cases ha : a ≤ 4 <;> simp [hmem, hset, ha]

/-- **Giving up after five attempts.**  From any plugin that queues `kparam` with `a` attempts, any
list of `OnNodeStateChange` calls, each with a command line that does not have `kparam` and a
switchdev writer that reports the file unchanged, runs the setter for `kparam` `min n (5 - a)`
times for `n` calls, whatever the setter returns, and leaves `a + min n (5 - a)` attempts: one run
per call until the counter passes 4, none after. -/
def GiveUpAfterFive : Prop :=
  ∀ p kparam a (calls : List (SriovNetworkNodeState × NodeStateEnv)),
    p.desiredKernelParams.lookup kparam = some a →
    (∀ n ∈ calls, n.2.isKernelCmdLineParamSet kparam = false ∧ n.2.writeSwitchdevConfFile.1 = false) →
    let r := run c p (calls.map fun n => .onNodeStateChange n.1 n.2)
    scriptRuns kparam r.2 = min calls.length (5 - a.toNat) ∧
      (r.1.desiredKernelParams.lookup kparam).map UInt64.toNat =
        some (a.toNat + min calls.length (5 - a.toNat))

theorem giveUpAfterFive : GiveUpAfterFive c := by
  intro p kparam a calls hk hcalls
  dsimp only
  induction calls generalizing p a with
  | nil => simp [run, runFrom, hk]
  | cons n calls ih =>
    obtain ⟨hset, hw⟩ := hcalls n (List.mem_cons_self _ _)
    obtain ⟨hl, hr⟩ := onNodeStateChange_attempt c hk hset hw
    obtain ⟨ih₁, ih₂⟩ := ih _ _ hl fun m hm => hcalls m (List.mem_cons_of_mem n hm)
    rw [List.map_cons, run, runFrom_cons, scriptRuns_append, List.length_cons]
    change scriptRuns kparam (onNodeStateChange c p n.1 n.2).calls +
        scriptRuns kparam (run c (onNodeStateChange c p n.1 n.2).state _).2 = _ ∧
      ((run c (onNodeStateChange c p n.1 n.2).state _).1.desiredKernelParams.lookup kparam).map
        UInt64.toNat = _
    rw [hr, ih₁, ih₂]
    by_cases ha : a.toNat ≤ 4
    · have harith : 1 + min calls.length (5 - (a.toNat + 1)) = min (calls.length + 1) (5 - a.toNat) := by
        rw [Nat.sub_add_eq, show 5 - a.toNat = 4 - a.toNat + 1 by omega, Nat.add_sub_cancel,
          Nat.add_min_add_right, Nat.add_comm]
      have hle := (attempts_le_iff a 4).2 ha
      rw [if_pos hle, if_pos hle, attempts_toNat_succ ha, Nat.add_assoc, harith]
      exact ⟨rfl, rfl⟩
    · have harith : min calls.length (5 - a.toNat) = min (calls.length + 1) (5 - a.toNat) := by
        rw [Nat.sub_eq_zero_of_le (by omega), Nat.min_zero, Nat.min_zero]
      have hgt : ¬ a ≤ 4 := fun h => ha ((attempts_le_iff a 4).1 h)
      rw [if_neg hgt, if_neg hgt, Nat.zero_add, harith]
      exact ⟨rfl, rfl⟩

/-- A plugin with `intel_iommu=on` queued and seven calls that never get it on the command line:
the setter runs five times, where the `DriverStateMap` version runs it at every call. -/
theorem giveUpAfterFive_seven_calls :
    let c : Consts := ⟨"vfio-pci", "netdevice", "virtio", "vhost", "intel_iommu=on", "iommu=pt",
      "pci=realloc", fun _ _ => false⟩
    let p : GenericPlugin :=
      { newGenericPlugin false with desiredKernelParams := (∅ : KernelParams).insert "intel_iommu=on" 0 }
    let env : NodeStateEnv := ⟨fun _ => false, fun _ => .exited 0 "1", (false, none), .stored⟩
    scriptRuns "intel_iommu=on" (run c p ((List.replicate 7 (⟨⟨[]⟩, ⟨[]⟩⟩, env)).map
      fun n => .onNodeStateChange n.1 n.2)).2 = 5 := by
  intro c p env
  exact (giveUpAfterFive c p "intel_iommu=on" 0 _ rfl fun n hn => by
    rw [List.eq_of_mem_replicate hn]
    exact ⟨rfl, rfl⟩).1

end Generic.TriState
