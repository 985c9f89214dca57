import SriovGeneric.TriState.Plugin

/-!
# What one call of the tri-state plugin does

One lemma per function, which the run invariants cite instead of unfolding it:

* the pass `setAllLoop` runs the script once for each parameter absent from the command line with
  at most 4 attempts and for no other, raises exactly those counters by one, and asks for a reboot
  exactly when one of those runs did (`setAllLoop_exact`, and over the whole ledger
  `setAllFullPass`); so `OnNodeStateChange` runs one full pass whenever the switchdev file is
  unchanged (`oneFullPassIfUnchanged`);
* `onNodeStateChange` sets `DesireState`, marks needed drivers `loading` with the IOMMU parameters
  queued for VFIO, and makes only calls of `OnNodeStateChange` (`onNodeStateChange_*`);
* `loadDrivers` loads exactly the drivers marked `loading`, once each (`loadDrivers_spec`, from
  one lemma per load block, `loadIfLoading_spec`), and
  `applyInterfaces` records the desired state as applied exactly when `SyncNodeState` succeeded;
  an `Apply` returns the error of its first failed call, makes no call after it but the exit of a
  chroot it entered when `SyncNodeState` failed, and then keeps `LastState` (`applyFailsFast`);
* `OnNodeStateChange` asks for a reboot only after a setter run or a switchdev write that asked for
  one (`rebootOnlyWithCause`).
-/

namespace Generic.TriState

variable (c : Consts)

/-! ## The kernel-parameter pass -/

theorem attempts_le_five_iff (v : UInt64) : v ≤ 5 ↔ v.toNat ≤ 5 := by
  simp [UInt64.le_def, BitVec.le_def, UInt64.toNat]

theorem attempts_le_iff (v v' : UInt64) : v ≤ v' ↔ v.toNat ≤ v'.toNat := by
  simp [UInt64.le_def, BitVec.le_def, UInt64.toNat]

theorem attempts_not_gt_four_iff (v : UInt64) : ¬ v > 4 ↔ v.toNat ≤ 4 := by
  simp [UInt64.lt_def, BitVec.lt_def, UInt64.toNat]

theorem attempts_toNat_succ {v : UInt64} (h : v.toNat ≤ 4) : (v + 1).toNat = v.toNat + 1 := by
  simp only [UInt64.toNat, UInt64.add_def, BitVec.toNat_add] at *
  simp
  omega

theorem setAllLoop_ofPass (env : NodeStateEnv) (l : List KernelParam) (m : KernelParams)
    (b : Bool) : ∀ call ∈ (setAllLoop env l m b).calls, call.OfPass := by
  induction l generalizing m b with
  | nil => simp [setAllLoop]
  | cons e rest ih =>
    obtain ⟨kparam, attempts⟩ := e
    simp only [setAllLoop]
    split_ifs <;> simp only [Outcome.after_calls, List.cons_append, List.nil_append,
      List.forall_mem_cons]
    · exact ⟨trivial, ih _ _⟩
    · exact ⟨trivial, ih _ _⟩
    · exact ⟨trivial, trivial, ih _ _⟩

/-- The pass runs the script once for each visited parameter absent from the kernel command line
with at most 4 attempts, and for no other; raises exactly those counters by one; and asks for a
reboot exactly when one of those runs did. -/
theorem setAllLoop_exact (env : NodeStateEnv) {l : List KernelParam} {m : KernelParams} (b : Bool)
    (hp : Pending m l) :
    (∀ k, (setAllLoop env l m b).state.lookup k =
      if k ∈ l.map Sigma.fst ∧ env.isKernelCmdLineParamSet k = false ∧ (m.lookup k).getD 0 ≤ 4 then
        (m.lookup k).map (· + 1)
      else m.lookup k) ∧
    (∀ k, scriptRuns k (setAllLoop env l m b).calls =
      if k ∈ l.map Sigma.fst ∧ env.isKernelCmdLineParamSet k = false ∧ (m.lookup k).getD 0 ≤ 4 then 1
      else 0) ∧
    (setAllLoop env l m b).ret = (b || l.any fun e =>
      !env.isKernelCmdLineParamSet e.1 && decide (e.2 ≤ 4) &&
        (trySetKernelParam (env.enableKargs e.1)).1) := by
  induction l generalizing m b with
  | nil => simp only [setAllLoop, List.map_nil, List.not_mem_nil, false_and, ↓reduceIte, implies_true,
    scriptRuns, List.countP_nil, List.any_nil, Bool.or_false, and_self]
  | cons e rest ih =>
    obtain ⟨k, a⟩ := e
    have hk : m.lookup k = some a := hp.lookup_head
    have hnot : k ∉ rest.map Sigma.fst := (List.nodup_cons.1 hp.1).1
    -- the parameters the pass sets, by their attempts before it
    let due : String → Prop := fun k =>
      env.isKernelCmdLineParamSet k = false ∧ (m.lookup k).getD 0 ≤ 4
    by_cases hset : env.isKernelCmdLineParamSet k = true
    · rw [setAllLoop, if_pos hset]
      obtain ⟨h₂, h₃, h₄⟩ := ih b hp.tail
      have hdue : ¬ due k := fun h => by simp only [due, hset, Bool.true_eq_false, false_and] at h
      refine ⟨fun k' => ?_, fun k' => ?_, by
        simp only [hset, Outcome.after_ret, h₄, List.any_cons, Bool.not_true, Bool.false_and,
          Bool.false_or]⟩
      · rw [Outcome.after_state, h₂]
        exact lookup_visit_skip due hdue _ _
      · rw [Outcome.after_calls, List.singleton_append, scriptRuns_isKernelCmdLineParamSet, h₃]
        exact lookup_visit_skip due hdue _ _
    by_cases hgt : a > 4
    · rw [setAllLoop, if_neg hset, if_pos hgt]
      have hle : ¬ a ≤ 4 := fun h => (attempts_not_gt_four_iff a).2 ((attempts_le_iff a 4).1 h) hgt
      obtain ⟨h₂, h₃, h₄⟩ := ih b hp.tail
      have hdue : ¬ due k := fun h => hle (by simpa only [hk, Option.getD_some] using h.2)
      refine ⟨fun k' => ?_, fun k' => ?_, by
        simp only [Outcome.after_ret, h₄, List.any_cons, hle, decide_False, Bool.and_false,
          Bool.false_and, Bool.false_or]⟩
      · rw [Outcome.after_state, h₂]
        exact lookup_visit_skip due hdue _ _
      · rw [Outcome.after_calls, List.singleton_append, scriptRuns_isKernelCmdLineParamSet, h₃]
        exact lookup_visit_skip due hdue _ _
    rw [setAllLoop, if_neg hset, if_neg hgt]
    have hle : a ≤ 4 := (attempts_le_iff a 4).2 ((attempts_not_gt_four_iff a).1 hgt)
    obtain ⟨h₂, h₃, h₄⟩ := ih (b || (trySetKernelParam (env.enableKargs k)).1) hp.increment
    have hdue : due k := ⟨by simpa only [Bool.not_eq_true] using hset, by rwa [hk, Option.getD_some]⟩
    -- the rest of the pass reads the attempts of keys other than `k`, which the visit kept
    have hrest (k' : String) : (k' ∈ rest.map Sigma.fst ∧ env.isKernelCmdLineParamSet k' = false ∧
        ((incrementAttempts k m).lookup k').getD 0 ≤ 4) ↔ k' ∈ rest.map Sigma.fst ∧ due k' :=
      and_congr_right fun hk' => by rw [lookup_incrementAttempts_ne (ne_of_mem_of_not_mem hk' hnot)]
    refine ⟨fun k' => ?_, fun k' => ?_, by
      simp only [hset, Outcome.after_ret, h₄, Bool.or_assoc, List.any_cons, Bool.not_false, hle,
        decide_True, Bool.and_self, Bool.true_and]⟩
    · rw [Outcome.after_state, h₂, if_congr (hrest k') rfl rfl]
      exact lookup_visit_increment due hk hnot hdue
    · rw [Outcome.after_calls, List.cons_append, List.singleton_append,
        scriptRuns_isKernelCmdLineParamSet, scriptRuns_enableKargs, h₃, if_congr (hrest k') rfl rfl]
      exact runs_visit_increment due hnot hdue

/-- The pass keeps the keys of the ledger, keeps every counter at most 5, and raises the counter
of a parameter by the number of script runs for it. -/
theorem setAllLoop_attempts (env : NodeStateEnv) {l : List KernelParam} {m : KernelParams}
    (b : Bool) (hp : Pending m l) (hle : ∀ k v, m.lookup k = some v → v ≤ 5) :
    (∀ k, k ∈ (setAllLoop env l m b).state ↔ k ∈ m) ∧
    (∀ k v, (setAllLoop env l m b).state.lookup k = some v → v ≤ 5) ∧
    ∀ k, scriptRuns k (setAllLoop env l m b).calls + ((m.lookup k).getD 0).toNat =
      (((setAllLoop env l m b).state.lookup k).getD 0).toNat := by
  obtain ⟨hlookup, hruns, -⟩ := setAllLoop_exact env b hp
  refine ⟨mem_iff_of_lookup hlookup, fun k v hv => ?_, fun k => ?_⟩
  · rw [hlookup] at hv
    split_ifs at hv with hc
    · obtain ⟨v₀, hv₀, rfl⟩ := Option.map_eq_some'.1 hv
      have h4 : v₀.toNat ≤ 4 := by simpa [hv₀, attempts_le_iff] using hc.2.2
      rw [attempts_le_five_iff, attempts_toNat_succ h4]
      omega
    · exact hle k v hv
  rw [hlookup, hruns]
  split_ifs with hc
  · obtain ⟨⟨_, a⟩, he, rfl⟩ := List.mem_map.1 hc.1
    have ha := hp.2 _ he
    have h4 : a.toNat ≤ 4 := by simpa [ha, attempts_le_iff] using hc.2.2
    simp [ha, attempts_toNat_succ h4]
    omega
  · simp

/-- A script run of the pass that asks for a reboot makes the pass ask for one. -/
theorem setAllLoop_ret_of_reboot (env : NodeStateEnv) (l : List KernelParam) (m : KernelParams)
    (b : Bool) (h : b = true ∨ ∃ k run, .enableKargs k run ∈ (setAllLoop env l m b).calls ∧
      (trySetKernelParam run).1 = true) :
    (setAllLoop env l m b).ret = true := by
  induction l generalizing m b with
  | nil => simpa [setAllLoop] using h
  | cons e rest ih =>
    obtain ⟨kparam, attempts⟩ := e
    by_cases hset : env.isKernelCmdLineParamSet kparam = true
    · rw [setAllLoop, if_pos hset] at h ⊢
      exact ih _ _ (by simpa only [Outcome.after_calls, List.singleton_append, List.mem_cons,
        reduceCtorEq, false_or] using h)
    by_cases hgt : attempts > 4
    · rw [setAllLoop, if_neg hset, if_pos hgt] at h ⊢
      exact ih _ _ (by simpa only [Outcome.after_calls, List.singleton_append, List.mem_cons,
        reduceCtorEq, false_or] using h)
    rw [setAllLoop, if_neg hset, if_neg hgt] at h ⊢
    apply ih
    rcases h with rfl | ⟨k, run, hmem, hr⟩
    · exact .inl (Bool.true_or _)
    · simp only [Outcome.after_calls, List.cons_append, List.singleton_append, List.mem_cons,
        Call.enableKargs.injEq, reduceCtorEq, false_or] at hmem
      rcases hmem with ⟨rfl, rfl⟩ | hmem
      · exact .inl (by rw [hr, Bool.or_true])
      · exact .inr ⟨k, run, hmem, hr⟩

/-- The pass asks for a reboot only when it started asking for one, or a script run of it did. -/
theorem setAllLoop_reboot_cause (env : NodeStateEnv) (l : List KernelParam) (m : KernelParams)
    (b : Bool) (h : (setAllLoop env l m b).ret = true) :
    b = true ∨ ∃ k run, .enableKargs k run ∈ (setAllLoop env l m b).calls ∧ ReportsReboot run := by
  induction l generalizing m b with
  | nil => exact .inl h
  | cons e rest ih =>
    obtain ⟨kparam, attempts⟩ := e
    have hcons (call : Call) (calls : List Call) :
        (∃ k run, .enableKargs k run ∈ calls ∧ ReportsReboot run) →
          ∃ k run, .enableKargs k run ∈ call :: calls ∧ ReportsReboot run :=
      fun ⟨k, run, hk, hr⟩ => ⟨k, run, List.mem_cons_of_mem _ hk, hr⟩
    by_cases hset : env.isKernelCmdLineParamSet kparam = true
    · rw [setAllLoop, if_pos hset] at h ⊢
      exact (ih _ _ h).imp_right (hcons _ _)
    by_cases hgt : attempts > 4
    · rw [setAllLoop, if_neg hset, if_pos hgt] at h ⊢
      exact (ih _ _ h).imp_right (hcons _ _)
    rw [setAllLoop, if_neg hset, if_neg hgt] at h ⊢
    rcases ih _ _ h with hb | hrun
    · rcases Bool.or_eq_true _ _ ▸ hb with hb | hb
      · exact .inl hb
      · exact .inr ⟨kparam, _, List.mem_cons_of_mem _ (List.mem_cons_self _ _),
          (trySetKernelParam_reboot_iff _).1 hb⟩
    · exact .inr (hcons _ _ (hcons _ _ hrun))

/-- The pass of `SetAllDesiredKernelParams`: `setAllLoop_exact` over the keys of the ledger, in
any order. -/
theorem setAllDesiredKernelParams_exact (env : NodeStateEnv) (m : KernelParams) :
    (∀ k, (setAllDesiredKernelParams env m).state.lookup k =
      if k ∈ m ∧ env.isKernelCmdLineParamSet k = false ∧ (m.lookup k).getD 0 ≤ 4 then
        (m.lookup k).map (· + 1)
      else m.lookup k) ∧
    (∀ k, scriptRuns k (setAllDesiredKernelParams env m).calls =
      if k ∈ m ∧ env.isKernelCmdLineParamSet k = false ∧ (m.lookup k).getD 0 ≤ 4 then 1 else 0) ∧
    ((setAllDesiredKernelParams env m).ret = true ↔ ∃ k ∈ m, env.isKernelCmdLineParamSet k = false ∧
      (m.lookup k).getD 0 ≤ 4 ∧ ReportsReboot (env.enableKargs k)) := by
  obtain ⟨h₁, h₂, h₃⟩ := setAllLoop_exact env false (pending_of_perm (env.paramOrder.perm m.entries))
  refine ⟨fun k => by simpa only [mem_map_fst_arrange] using h₁ k,
    fun k => by simpa only [mem_map_fst_arrange] using h₂ k, ?_⟩
  rw [setAllDesiredKernelParams, h₃, Bool.false_or, List.any_eq_true]
  constructor
  · rintro ⟨⟨k, a⟩, he, h⟩
    have ha := (mem_arrange_iff _ m _).1 he
    simp only [Bool.and_eq_true, Bool.not_eq_true', decide_eq_true_eq,
      trySetKernelParam_reboot_iff] at h
    exact ⟨k, AList.lookup_isSome.1 (by simp [ha]), h.1.1, by simpa [ha] using h.1.2, h.2⟩
  · rintro ⟨k, hk, hs, h4, hr⟩
    obtain ⟨a, ha⟩ := Option.isSome_iff_exists.1 (AList.lookup_isSome.2 hk)
    refine ⟨⟨k, a⟩, (mem_arrange_iff _ m _).2 ha, ?_⟩
    rw [ha, Option.getD_some] at h4
    simp [hs, h4, (trySetKernelParam_reboot_iff _).2 hr]

/-- **`SetAllDesiredKernelParams` runs one full pass.**  Over every ledger, in every order and for
every outcome of the command line check and the setter, it does a `FullPass` over the ledger; the
parameters due are those absent from the command line with at most 4 attempts. -/
def SetAllFullPass : Prop :=
  ∀ env m, FullPass m (fun k => env.isKernelCmdLineParamSet k = false ∧ (m.lookup k).getD 0 ≤ 4)
    env.enableKargs (setAllDesiredKernelParams env m).state (setAllDesiredKernelParams env m).calls
    (setAllDesiredKernelParams env m).ret

theorem setAllFullPass : SetAllFullPass := fun env m =>
  have ⟨h₁, h₂, h₃⟩ := setAllDesiredKernelParams_exact env m
  .of_lookup h₁ h₂ (by simpa only [and_assoc] using h₃)

/-! ## `OnNodeStateChange` -/

section
variable {c} {state new : SriovNetworkNodeState} {p : GenericPlugin} {env : NodeStateEnv}

/-- `requestDrivers` as one update: each flag and the ledger, from the plugin it starts with (the
VFIO block does not touch what the virtio block reads). -/
theorem requestDrivers_eq : requestDrivers c state p =
    { p with
      loadVfioDriver :=
        if p.loadVfioDriver ≠ .loaded ∧ needVfioDriver c state then .loading else p.loadVfioDriver
      loadVirtioVdpaDriver :=
        if p.loadVirtioVdpaDriver ≠ .loaded ∧ needVirtioVdpaDriver c state then .loading
        else p.loadVirtioVdpaDriver
      desiredKernelParams :=
        if p.loadVfioDriver ≠ .loaded ∧ needVfioDriver c state then
          addToDesiredKernelParams c.kernelParamIommuPt
            (addToDesiredKernelParams c.kernelParamIntelIommu p.desiredKernelParams)
        else p.desiredKernelParams } := by
  simp only [requestDrivers]
  split_ifs <;> rfl

@[simp] theorem requestDrivers_desireState :
    (requestDrivers c state p).desireState = p.desireState := by
  rw [requestDrivers_eq]

@[simp] theorem requestDrivers_lastState : (requestDrivers c state p).lastState = p.lastState := by
  rw [requestDrivers_eq]

theorem requestDrivers_loadVfioDriver : (requestDrivers c state p).loadVfioDriver =
    if p.loadVfioDriver ≠ .loaded ∧ needVfioDriver c state then .loading else p.loadVfioDriver := by
  rw [requestDrivers_eq]

theorem requestDrivers_loadVirtioVdpaDriver : (requestDrivers c state p).loadVirtioVdpaDriver =
    if p.loadVirtioVdpaDriver ≠ .loaded ∧ needVirtioVdpaDriver c state then .loading
    else p.loadVirtioVdpaDriver := by
  rw [requestDrivers_eq]

theorem requestDrivers_desiredKernelParams : (requestDrivers c state p).desiredKernelParams =
    if p.loadVfioDriver ≠ .loaded ∧ needVfioDriver c state then
      addToDesiredKernelParams c.kernelParamIommuPt
        (addToDesiredKernelParams c.kernelParamIntelIommu p.desiredKernelParams)
    else p.desiredKernelParams := by
  rw [requestDrivers_eq]

/-- The plugin after `OnNodeStateChange`: the drivers requested for the new state, and the ledger
after the kernel-parameter pass unless the switchdev file changed. -/
theorem onNodeStateChange_state :
    (onNodeStateChange c p new env).state =
      if env.writeSwitchdevConfFile.1 then requestDrivers c new { p with desireState := some new }
      else { requestDrivers c new { p with desireState := some new } with
        desiredKernelParams := (setAllDesiredKernelParams env
          (requestDrivers c new { p with desireState := some new }).desiredKernelParams).state } := by
  simp only [onNodeStateChange, needRebootNode]
  split <;> rfl

theorem onNodeStateChange_calls :
    (onNodeStateChange c p new env).calls =
      .writeSwitchdevConfFile new env.writeSwitchdevConfFile ::
        if env.writeSwitchdevConfFile.1 then []
        else (setAllDesiredKernelParams env
          (requestDrivers c new { p with desireState := some new }).desiredKernelParams).calls := by
  simp only [onNodeStateChange, needRebootNode]
  split <;> rfl

/-- `OnNodeStateChange` queues only what `requestDrivers` queues, and drops no parameter. -/
theorem mem_onNodeStateChange_desiredKernelParams {k : String} :
    k ∈ (onNodeStateChange c p new env).state.desiredKernelParams ↔
      k ∈ (requestDrivers c new { p with desireState := some new }).desiredKernelParams := by
  rw [onNodeStateChange_state]
  split
  · rfl
  · rw [← AList.lookup_isSome, ← AList.lookup_isSome, (setAllDesiredKernelParams_exact env _).1]
    split_ifs <;> simp

@[simp] theorem onNodeStateChange_desireState :
    (onNodeStateChange c p new env).state.desireState = some new := by
  rw [onNodeStateChange_state]; split <;> simp

@[simp] theorem onNodeStateChange_lastState :
    (onNodeStateChange c p new env).state.lastState = p.lastState := by
  rw [onNodeStateChange_state]; split <;> simp

@[simp] theorem onNodeStateChange_loadVfioDriver :
    (onNodeStateChange c p new env).state.loadVfioDriver =
      (requestDrivers c new { p with desireState := some new }).loadVfioDriver := by
  rw [onNodeStateChange_state]; split <;> rfl

@[simp] theorem onNodeStateChange_loadVirtioVdpaDriver :
    (onNodeStateChange c p new env).state.loadVirtioVdpaDriver =
      (requestDrivers c new { p with desireState := some new }).loadVirtioVdpaDriver := by
  rw [onNodeStateChange_state]; split <;> rfl

theorem onNodeStateChange_ofNodeState :
    ∀ call ∈ (onNodeStateChange c p new env).calls, call.OfNodeState := by
  rw [onNodeStateChange_calls, List.forall_mem_cons]
  refine ⟨trivial, ?_⟩
  split
  · simp
  · exact fun call h => (setAllLoop_ofPass _ _ _ _ call h).ofNodeState

end

/-- **The reboot signal is kept.**  A script run that asks for a reboot, or a switchdev file that
changed, makes `OnNodeStateChange` ask for a reboot and a drain, whatever the other outside calls
return. -/
def RebootKept : Prop :=
  ∀ p new env,
    ((∃ k run, .enableKargs k run ∈ (onNodeStateChange c p new env).calls ∧ ReportsReboot run) ∨
      ∃ st err, .writeSwitchdevConfFile st (true, err) ∈ (onNodeStateChange c p new env).calls) →
    (onNodeStateChange c p new env).ret.2.1 = true ∧ (onNodeStateChange c p new env).ret.1 = true

theorem rebootKept : RebootKept c := by
  intro p new env h
  have hreboot : (onNodeStateChange c p new env).ret.2.1 = true := by
    rw [onNodeStateChange_calls] at h
    simp only [onNodeStateChange, needRebootNode]
    split
    · rfl
    · next hw =>
      refine setAllLoop_ret_of_reboot _ _ _ _ (.inr ?_)
      rcases h with ⟨k, run, hmem, hr⟩ | ⟨st, err, hmem⟩
      · rw [if_neg hw] at hmem
        exact ⟨k, run, (List.mem_cons.1 hmem).resolve_left (by simp),
          (trySetKernelParam_reboot_iff run).2 hr⟩
      · rw [if_neg hw, List.mem_cons, Call.writeSwitchdevConfFile.injEq] at hmem
        rcases hmem with ⟨-, hmem⟩ | hmem
        · rw [← hmem] at hw
          exact absurd rfl hw
        · exact False.elim (setAllLoop_ofPass _ _ _ _ _ hmem)
  refine ⟨hreboot, ?_⟩
  simp only [onNodeStateChange] at hreboot ⊢
  rw [hreboot, Bool.or_true]

/-- **No reboot without cause.**  `OnNodeStateChange` asks for a reboot only when a script run of
the call printed a positive integer or the switchdev writer reported the file changed, whatever
the outside calls return. -/
def RebootOnlyWithCause : Prop :=
  ∀ p new env, (onNodeStateChange c p new env).ret.2.1 = true →
    (∃ k run, .enableKargs k run ∈ (onNodeStateChange c p new env).calls ∧ ReportsReboot run) ∨
      ∃ st err, .writeSwitchdevConfFile st (true, err) ∈ (onNodeStateChange c p new env).calls

theorem rebootOnlyWithCause : RebootOnlyWithCause c := by
  intro p new env h
  rw [onNodeStateChange_calls]
  cases hw : env.writeSwitchdevConfFile with
  | mk upd err =>
  cases upd with
  | true => exact .inr ⟨new, err, List.mem_cons_self _ _⟩
  | false =>
    simp only [onNodeStateChange, needRebootNode, hw, Bool.false_eq_true, if_false] at h
    rcases setAllLoop_reboot_cause _ _ _ _ h with hb | ⟨k, run, hk, hr⟩
    · cases hb
    · exact .inl ⟨k, run, by simpa only [Bool.false_eq_true, if_false] using List.mem_cons_of_mem _ hk, hr⟩

/-- **One full pass unless the switchdev file changed.**  When the switchdev writer reports the file
unchanged, `OnNodeStateChange` sets the desired state, queues the IOMMU parameters when `vfio_pci`
is needed and not loaded, runs the script once for each tracked parameter absent from the command
line with at most 4 attempts and for no other, raises exactly those counters by one, and asks for a
reboot exactly when one of those runs did, whatever the other outside calls return; it asks for a
drain when the interfaces need one or the node needs a reboot. -/
def OneFullPassIfUnchanged : Prop :=
  ∀ p new env, env.writeSwitchdevConfFile.1 = false →
    let m := if p.loadVfioDriver ≠ .loaded ∧ needVfioDriver c new then
        addToDesiredKernelParams c.kernelParamIommuPt
          (addToDesiredKernelParams c.kernelParamIntelIommu p.desiredKernelParams)
      else p.desiredKernelParams
    let o := onNodeStateChange c p new env
    o.state.desireState = some new ∧
    (∀ k, o.state.desiredKernelParams.lookup k =
      if k ∈ m ∧ env.isKernelCmdLineParamSet k = false ∧ (m.lookup k).getD 0 ≤ 4 then
        (m.lookup k).map (· + 1)
      else m.lookup k) ∧
    (∀ k, scriptRuns k o.calls =
      if k ∈ m ∧ env.isKernelCmdLineParamSet k = false ∧ (m.lookup k).getD 0 ≤ 4 then 1 else 0) ∧
    o.ret.2.2 = none ∧
    (o.ret.2.1 = true ↔ ∃ k ∈ m, env.isKernelCmdLineParamSet k = false ∧
      (m.lookup k).getD 0 ≤ 4 ∧ ReportsReboot (env.enableKargs k)) ∧
    o.ret.1 = (needDrainNode c new.spec.interfaces new.status.interfaces || o.ret.2.1)

theorem oneFullPassIfUnchanged : OneFullPassIfUnchanged c := by
  intro p new env hw m o
  have hm : (requestDrivers c new { p with desireState := some new }).desiredKernelParams = m :=
    requestDrivers_desiredKernelParams
  obtain ⟨h₁, h₂, h₃⟩ := setAllDesiredKernelParams_exact env m
  have hstate : o.state.desiredKernelParams = (setAllDesiredKernelParams env m).state := by
    simp [o, onNodeStateChange_state, hw, hm]
  have hret : o.ret.2.1 = (setAllDesiredKernelParams env m).ret := by
    simp [o, onNodeStateChange, needRebootNode, hw, hm]
  refine ⟨onNodeStateChange_desireState, fun k => by rw [hstate, h₁], fun k => ?_, rfl,
    by rw [hret, h₃], rfl⟩
  rw [onNodeStateChange_calls, hw, if_neg Bool.false_ne_true, hm, scriptRuns_cons, h₂]
  rfl

/-- A needed VFIO driver with a changed switchdev file: `OnNodeStateChange` asks for a reboot but
runs no kernel-parameter pass, so the two IOMMU parameters it queues keep 0 attempts and the script
never runs, although neither is on the kernel command line. -/
theorem onNodeStateChange_skips_pass_of_switchdev_changed (c : Consts) :
    let state : SriovNetworkNodeState :=
      ⟨⟨[⟨"0000:3b:00.0", 4, [⟨c.deviceTypeVfioPci, ""⟩]⟩]⟩, ⟨[⟨"0000:3b:00.0", 0⟩]⟩⟩
    let env : NodeStateEnv := ⟨fun _ => false, fun _ => .exited 0 "1", (true, none), .stored⟩
    let o := onNodeStateChange c (newGenericPlugin false) state env
    o.ret = (true, true, none) ∧ o.calls = [.writeSwitchdevConfFile state (true, none)] ∧
      o.state.desiredKernelParams.lookup c.kernelParamIntelIommu = some 0 ∧
      o.state.desiredKernelParams.lookup c.kernelParamIommuPt = some 0 := by
  intro state env o
  have hneed : needVfioDriver c state = true := by simp [needVfioDriver, anyVfGroup, state]
  have hm : o.state.desiredKernelParams = addToDesiredKernelParams c.kernelParamIommuPt
      (addToDesiredKernelParams c.kernelParamIntelIommu ∅) := by
    simp [o, onNodeStateChange, needRebootNode, env, requestDrivers_desiredKernelParams, hneed,
      newGenericPlugin]
  have hintel : (addToDesiredKernelParams c.kernelParamIntelIommu ∅).lookup
      c.kernelParamIntelIommu = some 0 :=
    lookup_addToDesiredKernelParams_of_not_mem (AList.not_mem_empty _)
  refine ⟨by simp [o, onNodeStateChange, needRebootNode, env], rfl,
    hm ▸ (lookup_addToDesiredKernelParams_of_mem (by simp)).trans hintel, hm ▸ ?_⟩
  by_cases hpt : c.kernelParamIommuPt ∈ addToDesiredKernelParams c.kernelParamIntelIommu ∅
  · have heq : c.kernelParamIommuPt = c.kernelParamIntelIommu := by
      simpa [AList.not_mem_empty] using hpt
    rw [lookup_addToDesiredKernelParams_of_mem hpt, heq, hintel]
  · exact lookup_addToDesiredKernelParams_of_not_mem hpt

/-! ## `Apply` -/

theorem LoadState.toNat_le_loading {st : LoadState} (h : st ≠ .loaded) :
    st.toNat ≤ LoadState.loading.toNat := by
  cases st <;> first | decide | exact absurd rfl h

/-- A status that the load blocks keep or move from `loading` to `loaded`. -/
theorem LoadState.toNat_le_of_load {st st' : LoadState}
    (h : st' = st ∨ st = .loading ∧ st' = .loaded) : st.toNat ≤ st'.toNat := by
  rcases h with rfl | ⟨rfl, rfl⟩
  exacts [le_rfl, by decide]

/-- A requested status that the load blocks leave not `loading` is `loaded`. -/
theorem LoadState.eq_loaded {st st' : LoadState} (h : st' = st ∨ st = .loading ∧ st' = .loaded)
    (hst' : st' ≠ .loading) (hreq : st ≠ .unloaded) : st' = .loaded := by
  rcases h with rfl | ⟨-, h⟩
  · cases st' <;> simp_all
  · exact h

/-- What `loadDrivers` does, driver by driver. -/
structure LoadDriversSpec (p : GenericPlugin) (o : Outcome GenericPlugin (Option Error)) :
    Prop where
  others : o.state = { p with
    loadVfioDriver := o.state.loadVfioDriver, loadVirtioVdpaDriver := o.state.loadVirtioVdpaDriver }
  vfio : o.state.loadVfioDriver = p.loadVfioDriver ∨
    p.loadVfioDriver = .loading ∧ o.state.loadVfioDriver = .loaded
  virtio : o.state.loadVirtioVdpaDriver = p.loadVirtioVdpaDriver ∨
    p.loadVirtioVdpaDriver = .loading ∧ o.state.loadVirtioVdpaDriver = .loaded
  vfio_loaded : o.state.loadVfioDriver = .loaded ↔
    p.loadVfioDriver = .loaded ∨ .loadKernelModule "vfio_pci" none ∈ o.calls
  virtio_loaded : o.state.loadVirtioVdpaDriver = .loaded ↔
    p.loadVirtioVdpaDriver = .loaded ∨ .loadKernelModule "virtio_vdpa" none ∈ o.calls
  loads : ∀ name err, .loadKernelModule name err ∈ o.calls →
    name = "vfio_pci" ∧ p.loadVfioDriver = .loading ∨
      name = "virtio_vdpa" ∧ p.loadVirtioVdpaDriver = .loading
  isLoad : ∀ call ∈ o.calls, call.IsLoad
  nodup : (loadNames o.calls).Nodup
  ok : o.ret = none → o.state.loadVfioDriver ≠ .loading ∧ o.state.loadVirtioVdpaDriver ≠ .loading

theorem loadIfLoading_of_ne {env : ApplyEnv} {name : String} {st : LoadState}
    (h : st ≠ .loading) : loadIfLoading env name st = (.ok st, []) :=
  if_neg h

/-- One load block: a status other than `loading` is kept with no call; a `loading` one makes one
load call, and is `loaded` after it or ends `Apply` with its error. -/
theorem loadIfLoading_cases (env : ApplyEnv) (name : String) (st : LoadState) :
    (st ≠ .loading ∧ loadIfLoading env name st = (.ok st, [])) ∨
    (st = .loading ∧ loadIfLoading env name st = (.ok .loaded, [.loadKernelModule name none])) ∨
    (st = .loading ∧ ∃ e, loadIfLoading env name st =
      (.error (.text e), [.loadKernelModule name (some e)])) := by
  unfold loadIfLoading
  by_cases h : st = .loading
  · cases hl : env.loadKernelModule name with
    | none => exact .inr (.inl ⟨h, by simp [h, hl]⟩)
    | some e => exact .inr (.inr ⟨h, e, by simp [h, hl]⟩)
  · exact .inl ⟨h, if_neg h⟩

/-- What one load block does to the status `st` of the driver with module `name`: it leaves the
status `st'` after the calls `l`. -/
structure LoadBlockSpec (name : String) (st st' : LoadState) (l : List Call) : Prop where
  status : st' = st ∨ st = .loading ∧ st' = .loaded
  loaded : st' = .loaded ↔ st = .loaded ∨ .loadKernelModule name none ∈ l
  loads : ∀ n err, .loadKernelModule n err ∈ l → n = name ∧ st = .loading
  isLoad : ∀ call ∈ l, call.IsLoad
  names : loadNames l = [] ∨ loadNames l = [name]

/-- A block that is not reached. -/
theorem LoadBlockSpec.skip (name : String) (st : LoadState) : LoadBlockSpec name st st [] :=
  ⟨.inl rfl, (or_iff_left (List.not_mem_nil _)).symm, nofun, nofun, .inl rfl⟩

/-- One load block ends with a status other than `loading`, or with its error and the status it
started from. -/
theorem loadIfLoading_spec (env : ApplyEnv) (name : String) (st : LoadState) :
    ∃ st' l, LoadBlockSpec name st st' l ∧
      (loadIfLoading env name st = (.ok st', l) ∧ st' ≠ .loading ∨
        st' = st ∧ ∃ e, loadIfLoading env name st = (.error e, l)) := by
  have hload : ∀ n err err', Call.loadKernelModule n err ∈ [.loadKernelModule name err'] →
      n = name ∧ err = err' :=
    fun _ _ _ h => Call.loadKernelModule.inj (List.mem_singleton.1 h)
  rcases loadIfLoading_cases env name st with ⟨h, h₁⟩ | ⟨rfl, h₁⟩ | ⟨rfl, e, h₁⟩
  · exact ⟨st, [], .skip name st, .inl ⟨h₁, h⟩⟩
  · refine ⟨.loaded, _, ⟨.inr ⟨rfl, rfl⟩, iff_of_true rfl (.inr (List.mem_singleton_self _)),
      fun n err h => ⟨(hload n err none h).1, rfl⟩, List.forall_mem_singleton.2 trivial, .inr rfl⟩,
      .inl ⟨h₁, nofun⟩⟩
  · refine ⟨.loading, _, ⟨.inl rfl, iff_of_false nofun ?_, fun n err h => ⟨(hload n err _ h).1, rfl⟩,
      List.forall_mem_singleton.2 trivial, .inr rfl⟩, .inr ⟨rfl, _, h₁⟩⟩
    rintro (h | h)
    exacts [(nomatch h), (nomatch (hload _ _ _ h).2)]

/-- `loadDrivers` is its two blocks, the second one skipped when the first fails. -/
theorem loadDrivers_blocks (env : ApplyEnv) (p : GenericPlugin) :
    ∃ vfio l₁ virtio l₂, LoadBlockSpec "vfio_pci" p.loadVfioDriver vfio l₁ ∧
      LoadBlockSpec "virtio_vdpa" p.loadVirtioVdpaDriver virtio l₂ ∧
      (loadDrivers env p).state = { p with loadVfioDriver := vfio, loadVirtioVdpaDriver := virtio } ∧
      (loadDrivers env p).calls = l₁ ++ l₂ ∧
      ((loadDrivers env p).ret = none → vfio ≠ .loading ∧ virtio ≠ .loading) := by
  obtain ⟨vfio, l₁, b₁, ⟨h₁, hv⟩ | ⟨rfl, e, h₁⟩⟩ :=
    loadIfLoading_spec env "vfio_pci" p.loadVfioDriver
  · obtain ⟨virtio, l₂, b₂, ⟨h₂, hw⟩ | ⟨rfl, e, h₂⟩⟩ :=
      loadIfLoading_spec env "virtio_vdpa" p.loadVirtioVdpaDriver
    · simp only [loadDrivers, h₁, h₂]
      exact ⟨vfio, l₁, virtio, l₂, b₁, b₂, rfl, rfl, fun _ => ⟨hv, hw⟩⟩
    · simp only [loadDrivers, h₁, h₂]
      exact ⟨vfio, l₁, _, l₂, b₁, b₂, rfl, rfl, nofun⟩
  · simp only [loadDrivers, h₁]
    exact ⟨_, l₁, _, [], b₁, .skip _ _, rfl, (List.append_nil _).symm, nofun⟩

theorem loadDrivers_spec (env : ApplyEnv) (p : GenericPlugin) :
    LoadDriversSpec p (loadDrivers env p) := by
  obtain ⟨vfio, l₁, virtio, l₂, b₁, b₂, hstate, hcalls, hok⟩ := loadDrivers_blocks env p
  generalize loadDrivers env p = o at hstate hcalls hok ⊢
  obtain ⟨ret, _, _⟩ := o
  cases hstate
  cases hcalls
  have hno₁ : .loadKernelModule "vfio_pci" none ∉ l₂ := fun h => nomatch (b₂.loads _ _ h).1
  have hno₂ : .loadKernelModule "virtio_vdpa" none ∉ l₁ := fun h => nomatch (b₁.loads _ _ h).1
  refine ⟨rfl, b₁.status, b₂.status, b₁.loaded.trans (or_congr_right ?_),
    b₂.loaded.trans (or_congr_right ?_), fun name err h => ?_,
    List.forall_mem_append.2 ⟨b₁.isLoad, b₂.isLoad⟩, ?_, hok⟩
  · exact (List.mem_append.trans (or_iff_left hno₁)).symm
  · exact (List.mem_append.trans (or_iff_right hno₂)).symm
  · rcases List.mem_append.1 h with h | h
    exacts [.inl (b₁.loads name err h), .inr (b₂.loads name err h)]
  · show (loadNames (l₁ ++ l₂)).Nodup
    rw [loadNames_append]
    rcases b₁.names with h₁ | h₁ <;> rcases b₂.names with h₂ | h₂ <;> rw [h₁, h₂] <;> decide

section
variable {env : ApplyEnv} {desired : SriovNetworkNodeState} {p : GenericPlugin}

/-- `applyInterfaces` records as applied the state of the `SyncNodeState` call that succeeded,
if one did, and changes nothing else. -/
theorem applyInterfaces_state :
    (applyInterfaces env desired p).state =
      { p with lastState := (lastSynced (applyInterfaces env desired p).calls).or p.lastState } := by
  unfold applyInterfaces
  split
  · simp [lastSynced]
  · have h := lastSynced_syncHost env p.runningOnHost desired
    cases hs : (syncHost env p.runningOnHost desired).1 <;> simp_all

theorem applyInterfaces_ofHost :
    ∀ call ∈ (applyInterfaces env desired p).calls, call.OfHost := by
  unfold applyInterfaces
  split
  · simp
  · dsimp only
    split <;> exact syncHost_ofHost _ _ _

theorem applyInterfaces_of_nothingToApply (h : nothingToApply p.lastState desired) :
    applyInterfaces env desired p = ⟨.returned none, p, []⟩ :=
  if_pos h

/-- When there is something to apply, `applyInterfaces` returns nil only after a successful
`SyncNodeState` of the desired state. -/
theorem applyInterfaces_returned_none (h : ¬ nothingToApply p.lastState desired)
    (hr : (applyInterfaces env desired p).ret = .returned none) :
    lastSynced (applyInterfaces env desired p).calls = some desired := by
  have hs := lastSynced_syncHost env p.runningOnHost desired
  unfold applyInterfaces at hr ⊢
  rw [if_neg h] at hr ⊢
  cases hsync : (syncHost env p.runningOnHost desired).1 <;> simp_all

end

theorem apply_of_desireState_none {env : ApplyEnv} {p : GenericPlugin}
    (h : p.desireState = none) : apply env p = ⟨.panicked, p, []⟩ := by
  simp [apply, h]

theorem apply_of_loadDrivers_error {env : ApplyEnv} {p : GenericPlugin}
    {desired : SriovNetworkNodeState} {e : Error} (h : p.desireState = some desired)
    (he : (loadDrivers env p).ret = some e) :
    apply env p = ⟨.returned (some e), (loadDrivers env p).state, (loadDrivers env p).calls⟩ := by
  simp [apply, h, he]

theorem apply_of_loadDrivers_ok {env : ApplyEnv} {p : GenericPlugin}
    {desired : SriovNetworkNodeState} (h : p.desireState = some desired)
    (he : (loadDrivers env p).ret = none) :
    apply env p = (applyInterfaces env desired (loadDrivers env p).state).after
      (loadDrivers env p).calls := by
  simp [apply, h, he]

/-- `Apply` from a state with a desired state: the calls of `loadDrivers`, then only calls of the
host part, which set `LastState` to the state of a successful `SyncNodeState` among them. -/
theorem apply_shape (env : ApplyEnv) {p : GenericPlugin} {desired : SriovNetworkNodeState}
    (h : p.desireState = some desired) :
    ∃ rest, (∀ call ∈ rest, call.OfHost) ∧
      (apply env p).calls = (loadDrivers env p).calls ++ rest ∧
      (apply env p).state =
        { (loadDrivers env p).state with lastState := (lastSynced rest).or p.lastState } := by
  have hls : (loadDrivers env p).state.lastState = p.lastState := by
    rw [(loadDrivers_spec env p).others]
  cases he : (loadDrivers env p).ret with
  | some e =>
    refine ⟨[], by simp, by simp [apply_of_loadDrivers_error h he], ?_⟩
    rw [apply_of_loadDrivers_error h he]
    simp [lastSynced, ← hls]
  | none =>
    refine ⟨(applyInterfaces env desired (loadDrivers env p).state).calls, applyInterfaces_ofHost,
      by simp [apply_of_loadDrivers_ok h he], ?_⟩
    rw [apply_of_loadDrivers_ok h he, Outcome.after_state, applyInterfaces_state, hls]

section
variable {env : ApplyEnv} {p : GenericPlugin}

@[simp] theorem apply_desireState : (apply env p).state.desireState = p.desireState := by
  cases hd : p.desireState with
  | none => simp [apply_of_desireState_none hd, hd]
  | some d =>
    obtain ⟨rest, -, -, hstate⟩ := apply_shape env hd
    have h := congrArg GenericPlugin.desireState (loadDrivers_spec env p).others
    simp only [hstate, h, hd]

@[simp] theorem apply_desiredKernelParams :
    (apply env p).state.desiredKernelParams = p.desiredKernelParams := by
  cases hd : p.desireState with
  | none => simp [apply_of_desireState_none hd]
  | some d =>
    obtain ⟨rest, -, -, hstate⟩ := apply_shape env hd
    have h := congrArg GenericPlugin.desiredKernelParams (loadDrivers_spec env p).others
    simp only [hstate, h]

theorem apply_loadVfioDriver (env : ApplyEnv) {d : SriovNetworkNodeState} (hd : p.desireState = some d) :
    (apply env p).state.loadVfioDriver = (loadDrivers env p).state.loadVfioDriver := by
  obtain ⟨rest, -, -, hstate⟩ := apply_shape env hd
  rw [hstate]

theorem apply_loadVirtioVdpaDriver (env : ApplyEnv) {d : SriovNetworkNodeState} (hd : p.desireState = some d) :
    (apply env p).state.loadVirtioVdpaDriver = (loadDrivers env p).state.loadVirtioVdpaDriver := by
  obtain ⟨rest, -, -, hstate⟩ := apply_shape env hd
  rw [hstate]

theorem loadDrivers_of_not_loading (hv : p.loadVfioDriver ≠ .loading)
    (hw : p.loadVirtioVdpaDriver ≠ .loading) : loadDrivers env p = ⟨none, p, []⟩ := by
  simp [loadDrivers, loadIfLoading_of_ne hv, loadIfLoading_of_ne hw]

/-- An `Apply` that returns nil or calls `SyncNodeState` got through its load blocks. -/
theorem loadDrivers_ret_of_apply {d : SriovNetworkNodeState} (hd : p.desireState = some d)
    (h : (apply env p).ret = .returned none ∨ ∃ call ∈ (apply env p).calls, call.IsSync) :
    (loadDrivers env p).ret = none := by
  cases he : (loadDrivers env p).ret with
  | none => rfl
  | some e =>
    rw [apply_of_loadDrivers_error hd he] at h
    rcases h with h | ⟨call, hc, hs⟩
    · cases h
    · exact absurd hs ((loadDrivers_spec env p).isLoad call hc).not_isSync

/-- After an `Apply` that got through its load blocks no driver is `loading`, and a driver that
was requested is `loaded`. -/
theorem apply_loadState_of_loadDrivers_ok {d : SriovNetworkNodeState}
    (hd : p.desireState = some d) (hok : (loadDrivers env p).ret = none) :
    ((apply env p).state.loadVfioDriver ≠ .loading ∧
      (p.loadVfioDriver ≠ .unloaded → (apply env p).state.loadVfioDriver = .loaded)) ∧
    ((apply env p).state.loadVirtioVdpaDriver ≠ .loading ∧
      (p.loadVirtioVdpaDriver ≠ .unloaded → (apply env p).state.loadVirtioVdpaDriver = .loaded)) := by
  have hl := loadDrivers_spec env p
  obtain ⟨hv, hw⟩ := hl.ok hok
  rw [apply_loadVfioDriver env hd, apply_loadVirtioVdpaDriver env hd]
  exact ⟨⟨hv, LoadState.eq_loaded hl.vfio hv⟩, ⟨hw, LoadState.eq_loaded hl.virtio hw⟩⟩

end

/-- With no failing load, `loadDrivers` returns no error. -/
theorem loadDrivers_ok {env : ApplyEnv} (p : GenericPlugin)
    (h : ∀ name, env.loadKernelModule name = none) : (loadDrivers env p).ret = none := by
  simp only [loadDrivers, loadIfLoading, h]
  split_ifs <;> rfl

section
variable {c} {s : GenericPlugin} {e : Event}

/-- Only `Apply` loads modules, and only those of drivers marked `loading`. -/
theorem step_load {name : String} {err : Option String}
    (h : .loadKernelModule name err ∈ (step c s e).2) :
    name = "vfio_pci" ∧ s.loadVfioDriver = .loading ∨
      name = "virtio_vdpa" ∧ s.loadVirtioVdpaDriver = .loading := by
  cases e with
  | onNodeStateChange new env => exact absurd trivial (onNodeStateChange_ofNodeState _ h).not_isLoad
  | apply env =>
    cases hd : s.desireState with
    | none => simp [step, apply_of_desireState_none hd] at h
    | some d =>
      obtain ⟨rest, hrest, hcalls, -⟩ := apply_shape env hd
      simp only [step, hcalls, List.mem_append] at h
      rcases h with h | h
      · exact (loadDrivers_spec env s).loads name err h
      · exact absurd trivial (hrest _ h).not_isLoad

/-- No event moves the status of a driver back. -/
theorem step_loadState_toNat_le :
    s.loadVfioDriver.toNat ≤ (step c s e).1.loadVfioDriver.toNat ∧
      s.loadVirtioVdpaDriver.toNat ≤ (step c s e).1.loadVirtioVdpaDriver.toNat := by
  cases e with
  | onNodeStateChange new env =>
    simp only [step, onNodeStateChange_loadVfioDriver, onNodeStateChange_loadVirtioVdpaDriver,
      requestDrivers_loadVfioDriver, requestDrivers_loadVirtioVdpaDriver]
    constructor <;> split_ifs with h
    exacts [LoadState.toNat_le_loading h.1, le_rfl, LoadState.toNat_le_loading h.1, le_rfl]
  | apply env =>
    cases hd : s.desireState with
    | none => simp [step, apply_of_desireState_none hd]
    | some d =>
      have hl := loadDrivers_spec env s
      simp only [step, apply_loadVfioDriver env hd, apply_loadVirtioVdpaDriver env hd]
      exact ⟨LoadState.toNat_le_of_load hl.vfio, LoadState.toNat_le_of_load hl.virtio⟩

end

end Generic.TriState
