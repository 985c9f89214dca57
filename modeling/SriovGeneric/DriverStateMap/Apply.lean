import SriovGeneric.DriverStateMap.NodeState

/-!
# What one `Apply` of the `DriverStateMap` plugin does

`syncDriverStateLoop_spec` says what `syncDriverState` does for any order of the map: it loads
each driver that the desired state needs and that is not loaded, once each, stops at the first
failed load, and otherwise leaves every needed driver loaded.  The host part records the desired
state as applied exactly when `SyncNodeState` succeeded (`applyHost_*`), and `Apply` is one of its
three paths: the panic on a nil `DesireState`, the short cut, or the drivers and then the host
(`apply_*`).  An `Apply` returns the error of its first failed call, makes no call after it but the
exit of a chroot it entered when `SyncNodeState` failed, and then keeps `LastState`
(`applyFailsFast`).  `Apply` queues `pci=realloc` exactly after a `SyncNodeState` that ran out of
memory (`mem_apply_desiredKernelParams`).

When no load fails, `Apply` loads each needed driver that is not loaded once, in the order of the
map, before the host part, so the order changes nothing but the order of the loads
(`applyOrderIndependent`); and `loadDriverForTests` leaves the flags `syncDriverState` would set,
so that a later `syncDriverState` loads nothing (`loadDriverForTestsAgrees`).
-/

namespace Generic.DriverStateMap

variable (c : Consts)

/-! ## Drivers -/

@[simp] theorem driverName_newDriverState (b : Bool) (id : DriverId) :
    (newDriverState c b id).driverName = id.driverName := by
  cases id <;> rfl

@[simp] theorem driverLoaded_newDriverState (b : Bool) (id : DriverId) :
    (newDriverState c b id).driverLoaded = b := by
  cases id <;> rfl

@[simp] theorem needDriver_newDriverState (b : Bool) (id : DriverId) (state : SriovNetworkNodeState) :
    (newDriverState c b id).needDriver state = driverNeeded c id state := by
  cases id <;> rfl

/-- Each driver has its own module. -/
theorem DriverId.driverName_inj {i j : DriverId} (h : i.driverName = j.driverName) : i = j := by
  cases i <;> cases j <;> first | rfl | exact absurd h (by decide)

/-- What the loop of `syncDriverState` does from the flags `loaded`, over the drivers `l`. -/
structure SyncDriverSpec (desired : SriovNetworkNodeState) (l : List DriverId)
    (loaded : DriverId → Bool) (o : Outcome (DriverId → Bool) (Option Error)) : Prop where
  loaded_iff : ∀ id, o.state id ↔ loaded id ∨ .loadKernelModule id.driverName none ∈ o.calls
  loads : ∀ name err, .loadKernelModule name err ∈ o.calls →
    ∃ id ∈ l, name = id.driverName ∧ loaded id = false ∧ driverNeeded c id desired
  isLoad : ∀ call ∈ o.calls, call.IsLoad
  nodup : (loadNames o.calls).Nodup
  ok : o.ret = none → ∀ id ∈ l, driverNeeded c id desired → o.state id

/-- With no failing load, the loop returns no error. -/
theorem syncDriverStateLoop_ok {env : ApplyEnv} {desired : SriovNetworkNodeState}
    (h : ∀ name, env.loadKernelModule name = none) :
    ∀ l loaded, (syncDriverStateLoop c env desired l loaded).ret = none
  | [], _ => rfl
  | id :: rest, loaded => by
    simp only [syncDriverStateLoop, h]
    split
    · exact syncDriverStateLoop_ok h rest _
    · exact syncDriverStateLoop_ok h rest _

/-- The loop loads each needed driver not loaded, once, in the order of `l`; it stops at the first
failed load, and when no load fails every needed driver of `l` is loaded. -/
theorem syncDriverStateLoop_spec (env : ApplyEnv) (desired : SriovNetworkNodeState)
    (l : List DriverId) (loaded : DriverId → Bool) :
    SyncDriverSpec c desired l loaded (syncDriverStateLoop c env desired l loaded) := by
  induction l generalizing loaded with
  | nil =>
    exact ⟨fun _ => (or_iff_left (List.not_mem_nil _)).symm, fun _ _ h => absurd h (List.not_mem_nil _),
      fun _ h => absurd h (List.not_mem_nil _), .nil, fun _ _ h => absurd h (List.not_mem_nil _)⟩
  | cons id rest ih =>
    by_cases hc : loaded id = false ∧ driverNeeded c id desired = true
    · cases herr : env.loadKernelModule id.driverName with
      | some e =>
        simp only [syncDriverStateLoop, driverLoaded_newDriverState, needDriver_newDriverState,
          driverName_newDriverState, hc, herr, Bool.not_false, Bool.and_self, if_true]
        refine ⟨fun id' => by simp only [List.mem_singleton, Call.loadKernelModule.injEq, reduceCtorEq,
          and_false, or_false], fun name err h => ?_, List.forall_mem_singleton.2 trivial,
          List.nodup_singleton _,
          nofun⟩
        obtain ⟨rfl, -⟩ := Call.loadKernelModule.inj (List.mem_singleton.1 h)
        exact ⟨id, List.mem_cons_self _ _, rfl, hc⟩
      | none =>
        have ih' := ih (Function.update loaded id true)
        simp only [syncDriverStateLoop, driverLoaded_newDriverState, needDriver_newDriverState,
          driverName_newDriverState, hc, herr, Bool.not_false, Bool.and_self, if_true]
        have hfresh : ∀ id' err, .loadKernelModule id'.driverName err ∈
            (syncDriverStateLoop c env desired rest (Function.update loaded id true)).calls → id' ≠ id := by
          rintro id' err h rfl
          obtain ⟨j, -, hj, hl, -⟩ := ih'.loads _ err h
          cases DriverId.driverName_inj hj
          simp only [Function.update_same, Bool.true_eq_false] at hl
        refine ⟨fun id' => ?_, fun name err h => ?_, ?_, ?_, fun hr id' hid' hn => ?_⟩
        · rw [Outcome.after_state, Outcome.after_calls, ih'.loaded_iff, List.singleton_append,
            List.mem_cons, Call.loadKernelModule.injEq]
          by_cases hid : id' = id
          · subst hid
            simp only [Function.update_same, true_or, and_self, or_true]
          · have : id'.driverName ≠ id.driverName := fun h => hid (DriverId.driverName_inj h)
            simp only [Function.update_noteq hid, this, and_true, false_or]
        · rw [Outcome.after_calls, List.singleton_append] at h
          rcases List.mem_cons.1 h with h | h
          · cases h; exact ⟨id, List.mem_cons_self _ _, rfl, hc⟩
          · obtain ⟨j, hj, rfl, hl, hn⟩ := ih'.loads name err h
            have hji : j ≠ id := hfresh j err h
            exact ⟨j, List.mem_cons_of_mem _ hj, rfl, by rwa [Function.update_noteq hji] at hl, hn⟩
        · exact List.forall_mem_cons.2 ⟨trivial, ih'.isLoad⟩
        · simp only [Outcome.after_calls, List.singleton_append, loadNames, List.filterMap_cons]
            at ih' ⊢
          refine List.nodup_cons.2 ⟨fun h => ?_, ih'.nodup⟩
          obtain ⟨err, h⟩ := mem_loadNames.1 h
          exact hfresh id err h rfl
        · rcases List.mem_cons.1 hid' with rfl | hid'
          · exact (ih'.loaded_iff id').2 (.inl (Function.update_same _ _ _))
          · exact ih'.ok hr id' hid' hn
    · have ih' := ih loaded
      have hc' : (!loaded id && driverNeeded c id desired) = false := by
        simpa only [Bool.and_eq_false_imp, Bool.not_eq_eq_eq_not, Bool.not_true, not_and,
          Bool.not_eq_true] using hc
      simp only [syncDriverStateLoop, driverLoaded_newDriverState, needDriver_newDriverState,
        driverName_newDriverState, hc', Bool.false_eq_true, if_false]
      refine ⟨ih'.loaded_iff, fun name err h => ?_, ih'.isLoad, ih'.nodup, fun hr id' hid' hn => ?_⟩
      · obtain ⟨j, hj, hrest⟩ := ih'.loads name err h
        exact ⟨j, List.mem_cons_of_mem _ hj, hrest⟩
      · rcases List.mem_cons.1 hid' with rfl | hid'
        · exact (ih'.loaded_iff id').2 (.inl (by simpa only [hn, and_true, Bool.not_eq_false] using hc))
        · exact ih'.ok hr id' hid' hn

theorem mem_arrange_all (order : RangeOrder DriverId) (id : DriverId) :
    id ∈ order.arrange DriverId.all :=
  (order.perm _).mem_iff.2 (by cases id <;> simp [DriverId.all])

/-- With every load succeeding, the loop over distinct drivers loads, in the order of `l`, each
driver of `l` that is needed and not loaded, and flags exactly those. -/
theorem syncDriverStateLoop_of_ok {env : ApplyEnv} (h : ∀ name, env.loadKernelModule name = none)
    (desired : SriovNetworkNodeState) : ∀ {l : List DriverId} (loaded : DriverId → Bool), l.Nodup →
      (syncDriverStateLoop c env desired l loaded).state =
          (fun id => loaded id || decide (id ∈ l) && driverNeeded c id desired) ∧
        (syncDriverStateLoop c env desired l loaded).calls =
          (l.filter fun id => !loaded id && driverNeeded c id desired).map
            fun id => .loadKernelModule id.driverName none
  | [], loaded, _ => ⟨by funext id; simp [syncDriverStateLoop], rfl⟩
  | id :: rest, loaded, hnd => by
    obtain ⟨hnot, hnd⟩ := List.nodup_cons.1 hnd
    by_cases hc : (!loaded id && driverNeeded c id desired) = true
    · obtain ⟨ih₁, ih₂⟩ := syncDriverStateLoop_of_ok h desired (Function.update loaded id true) hnd
      simp only [syncDriverStateLoop, driverLoaded_newDriverState, needDriver_newDriverState,
        driverName_newDriverState, hc, h, if_true, Outcome.after_state, Outcome.after_calls, ih₁, ih₂,
        List.filter_cons, ↓reduceIte, List.map_cons, List.singleton_append]
      refine ⟨funext fun j => ?_, congrArg _ (congrArg _ (List.filter_congr fun j hj => ?_))⟩
      · by_cases hj : j = id
        · subst hj
          simp only [Bool.and_eq_true, Bool.not_eq_true'] at hc
          simp [hc.2]
        · simp only [Function.update_noteq hj, List.mem_cons, hj, false_or]
      · rw [Function.update_noteq (ne_of_mem_of_not_mem hj hnot)]
    · obtain ⟨ih₁, ih₂⟩ := syncDriverStateLoop_of_ok h desired loaded hnd
      simp only [Bool.not_eq_true] at hc
      simp only [syncDriverStateLoop, driverLoaded_newDriverState, needDriver_newDriverState, hc,
        Bool.false_eq_true, if_false, ih₁, ih₂, List.filter_cons, ↓reduceIte, and_true]
      funext j
      by_cases hj : j = id
      · subst hj
        revert hc
        cases loaded j <;> cases driverNeeded c j desired <;> simp
      · simp only [List.mem_cons, hj, false_or]

/-- Over the whole map, in any order, with every load succeeding, the loop flags every needed
driver and loads, in that order, each needed driver not loaded. -/
theorem syncDriverStateLoop_all_of_ok {env : ApplyEnv} (h : ∀ name, env.loadKernelModule name = none)
    (desired : SriovNetworkNodeState) (order : RangeOrder DriverId) (loaded : DriverId → Bool) :
    (syncDriverStateLoop c env desired (order.arrange DriverId.all) loaded).state =
        (fun id => loaded id || driverNeeded c id desired) ∧
      (syncDriverStateLoop c env desired (order.arrange DriverId.all) loaded).calls =
        ((order.arrange DriverId.all).filter fun id => !loaded id && driverNeeded c id desired).map
          fun id => .loadKernelModule id.driverName none := by
  obtain ⟨h₁, h₂⟩ := syncDriverStateLoop_of_ok c h desired loaded
    ((order.perm DriverId.all).nodup_iff.2 (by decide))
  exact ⟨by simp only [h₁, mem_arrange_all, decide_True, Bool.true_and], h₂⟩

theorem driverNeeded_congr {a b : SriovNetworkNodeState} (h : a.spec.interfaces = b.spec.interfaces)
    (id : DriverId) : driverNeeded c id a = driverNeeded c id b := by
  cases id <;> simp only [driverNeeded, newDriverState, DriverState.needDriver,
    needDriverCheckDeviceType, needDriverCheckVdpaType, anyVfGroup, h]

/-! ## The host part -/

section
variable {c} {env : ApplyEnv} {desired : SriovNetworkNodeState} {p : GenericPlugin}

theorem applyHost_ofHost : ∀ call ∈ (applyHost c env desired p).calls, call.OfHost := by
  unfold applyHost
  dsimp only
  cases (syncHost env p.runningOnHost desired).1 <;> exact syncHost_ofHost _ _ _

/-- The host part changes no driver, records the desired state of a successful `SyncNodeState`
as applied, and keeps every queued kernel parameter. -/
theorem applyHost_state (env : ApplyEnv) (desired : SriovNetworkNodeState) (p : GenericPlugin) :
    (applyHost c env desired p).state.desireState = p.desireState ∧
    (applyHost c env desired p).state.driverLoaded = p.driverLoaded ∧
    (applyHost c env desired p).state.lastState =
      (lastSynced (applyHost c env desired p).calls).or p.lastState ∧
    ∀ k ∈ p.desiredKernelParams, k ∈ (applyHost c env desired p).state.desiredKernelParams := by
  have h := lastSynced_syncHost env p.runningOnHost desired
  unfold applyHost
  cases hs : (syncHost env p.runningOnHost desired).1 with
  | failed e => simp_all
  | syncFailed msg =>
    simp only [hs, if_neg (show HostSync.syncFailed msg ≠ .synced by simp)] at h ⊢
    split_ifs <;> simp_all
  | synced => simp_all

theorem applyHost_calls :
    (applyHost c env desired p).calls = (syncHost env p.runningOnHost desired).2 := by
  unfold applyHost
  dsimp only
  cases (syncHost env p.runningOnHost desired).1 <;> rfl

/-- The host part queues `pci=realloc` when `SyncNodeState` failed for lack of memory, and no other
parameter; it drops none. -/
theorem mem_applyHost_desiredKernelParams {k : String} :
    k ∈ (applyHost c env desired p).state.desiredKernelParams ↔
      k ∈ p.desiredKernelParams ∨ k = c.kernelParamPciRealloc ∧
        ∃ msg, (∃ d pfs, .syncNodeState d pfs (some msg) ∈ (applyHost c env desired p).calls) ∧
          contains msg "cannot allocate memory" = true := by
  rw [applyHost_calls, exists_congr fun msg => and_congr_left' (syncFailed_mem_syncHost _ _ _)]
  unfold applyHost
  dsimp only
  cases (syncHost env p.runningOnHost desired).1 with
  | failed e => simp
  | syncFailed msg => dsimp only; split_ifs with hc <;> simp [hc, or_comm]
  | synced => simp

/-- The host part leaves every counter as it was: `pci=realloc` is queued with no attempts. -/
theorem attempts_applyHost {k : String} :
    ((applyHost c env desired p).state.desiredKernelParams.lookup k).getD 0 =
      (p.desiredKernelParams.lookup k).getD 0 := by
  unfold applyHost
  dsimp only
  cases (syncHost env p.runningOnHost desired).1 with
  | syncFailed msg => dsimp only; split_ifs <;> simp only [attempts_addToDesiredKernelParams]
  | _ => rfl

/-- The host part returns nil only after a successful `SyncNodeState` of the desired state. -/
theorem applyHost_returned_none (hr : (applyHost c env desired p).ret = .returned none) :
    lastSynced (applyHost c env desired p).calls = some desired := by
  have h := lastSynced_syncHost env p.runningOnHost desired
  unfold applyHost at hr ⊢
  cases hs : (syncHost env p.runningOnHost desired).1 <;> simp_all

end

/-! ## `Apply` -/

section
variable {c} {env : ApplyEnv} {order : RangeOrder DriverId} {p : GenericPlugin}
  {desired : SriovNetworkNodeState}

/-- The loop of `syncDriverState` that `Apply` runs. -/
abbrev loads (c : Consts) (env : ApplyEnv) (order : RangeOrder DriverId)
    (desired : SriovNetworkNodeState) (p : GenericPlugin) :
    Outcome (DriverId → Bool) (Option Error) :=
  syncDriverStateLoop c env desired (order.arrange DriverId.all) p.driverLoaded

theorem apply_of_desireState_none (h : p.desireState = none) :
    apply c env order p = ⟨.panicked, p, []⟩ := by
  simp [apply, h]

theorem apply_of_nothingToApply (h : p.desireState = some desired)
    (hn : nothingToApply p.lastState desired) : apply c env order p = ⟨.returned none, p, []⟩ := by
  simp [apply, h, hn]

theorem apply_of_loads_error {e : Error} (h : p.desireState = some desired)
    (hn : ¬ nothingToApply p.lastState desired) (he : (loads c env order desired p).ret = some e) :
    apply c env order p = ⟨.returned (some e), { p with driverLoaded :=
      (loads c env order desired p).state }, (loads c env order desired p).calls⟩ := by
  simp [apply, h, hn, syncDriverState, he]

theorem apply_of_loads_ok (h : p.desireState = some desired)
    (hn : ¬ nothingToApply p.lastState desired) (he : (loads c env order desired p).ret = none) :
    apply c env order p = (applyHost c env desired { p with driverLoaded :=
      (loads c env order desired p).state }).after (loads c env order desired p).calls := by
  simp [apply, h, hn, syncDriverState, he]

@[simp] theorem apply_desireState : (apply c env order p).state.desireState = p.desireState := by
  cases hd : p.desireState with
  | none => simp [apply_of_desireState_none hd, hd]
  | some desired =>
    by_cases hn : nothingToApply p.lastState desired
    · simp [apply_of_nothingToApply hd hn, hd]
    · cases he : (loads c env order desired p).ret with
      | some e => simp [apply_of_loads_error hd hn he, hd]
      | none => simp [apply_of_loads_ok hd hn he, (applyHost_state env _ _).1, hd]

/-- `Apply` past its short cut: the calls of the driver loop, then only calls of the host part,
which only run when the loop did not fail; the flags of the loop; `LastState` set to the desired
state by a successful `SyncNodeState` among them; no queued kernel parameter dropped. -/
theorem apply_shape (env : ApplyEnv) (order : RangeOrder DriverId)
    (h : p.desireState = some desired) (hn : ¬ nothingToApply p.lastState desired) :
    ∃ rest, (∀ call ∈ rest, call.OfHost) ∧
      (apply c env order p).calls = (loads c env order desired p).calls ++ rest ∧
      (apply c env order p).state.driverLoaded = (loads c env order desired p).state ∧
      (apply c env order p).state.lastState = (lastSynced rest).or p.lastState ∧
      (∀ k ∈ p.desiredKernelParams, k ∈ (apply c env order p).state.desiredKernelParams) ∧
      ∀ l, lastSynced rest = some l → l = desired ∧ (loads c env order desired p).ret = none := by
  cases he : (loads c env order desired p).ret with
  | some e =>
    rw [apply_of_loads_error h hn he]
    exact ⟨[], by simp, by simp, rfl, by simp [lastSynced], fun _ h => h, by simp [lastSynced]⟩
  | none =>
    rw [apply_of_loads_ok h hn he]
    obtain ⟨-, hdl, hls, hkeys⟩ := applyHost_state (c := c) env desired
      { p with driverLoaded := (loads c env order desired p).state }
    have hsync := lastSynced_syncHost env p.runningOnHost desired
    refine ⟨_, applyHost_ofHost, rfl, hdl, hls, hkeys, fun l hl => ⟨?_, rfl⟩⟩
    unfold applyHost at hl
    cases hs : (syncHost env p.runningOnHost desired).1 <;> simp_all

/-- `Apply` queues `pci=realloc` when its `SyncNodeState` failed for lack of memory, and no other
parameter; it drops none. -/
theorem mem_apply_desiredKernelParams {k : String} :
    k ∈ (apply c env order p).state.desiredKernelParams ↔
      k ∈ p.desiredKernelParams ∨ k = c.kernelParamPciRealloc ∧
        ∃ msg, (∃ d pfs, .syncNodeState d pfs (some msg) ∈ (apply c env order p).calls) ∧
          contains msg "cannot allocate memory" = true := by
  have hkeep : ∀ log : List Call, (∀ d pfs msg, .syncNodeState d pfs (some msg) ∉ log) →
      (k ∈ p.desiredKernelParams ↔ k ∈ p.desiredKernelParams ∨ k = c.kernelParamPciRealloc ∧
        ∃ msg, (∃ d pfs, .syncNodeState d pfs (some msg) ∈ log) ∧
          contains msg "cannot allocate memory" = true) :=
    fun log h => (or_iff_left fun ⟨_, _, ⟨d, pfs, hm⟩, _⟩ => h d pfs _ hm).symm
  cases hd : p.desireState with
  | none =>
    rw [apply_of_desireState_none hd]
    exact hkeep [] nofun
  | some desired =>
    by_cases hn : nothingToApply p.lastState desired
    · rw [apply_of_nothingToApply hd hn]
      exact hkeep [] nofun
    have hload : ∀ d pfs msg, .syncNodeState d pfs (some msg) ∉ (loads c env order desired p).calls :=
      fun d pfs msg h => (syncDriverStateLoop_spec c env desired _ _).isLoad _ h
    cases he : (loads c env order desired p).ret with
    | some e =>
      rw [apply_of_loads_error hd hn he]
      exact hkeep _ hload
    | none =>
      rw [apply_of_loads_ok hd hn he, Outcome.after_state, Outcome.after_calls,
        mem_applyHost_desiredKernelParams]
      simp only [List.mem_append, hload, false_or]

/-- `Apply` leaves every counter as it was. -/
theorem attempts_apply {k : String} :
    ((apply c env order p).state.desiredKernelParams.lookup k).getD 0 =
      (p.desiredKernelParams.lookup k).getD 0 := by
  cases hd : p.desireState with
  | none => rw [apply_of_desireState_none hd]
  | some desired =>
    by_cases hn : nothingToApply p.lastState desired
    · rw [apply_of_nothingToApply hd hn]
    cases he : (loads c env order desired p).ret with
    | some e => rw [apply_of_loads_error hd hn he]
    | none => rw [apply_of_loads_ok hd hn he, Outcome.after_state, attempts_applyHost]

/-- `Apply` makes only module loads and calls of the host part. -/
theorem apply_isLoad_or_ofHost : ∀ call ∈ (apply c env order p).calls, call.IsLoad ∨ call.OfHost := by
  cases hd : p.desireState with
  | none => rw [apply_of_desireState_none hd]; exact fun _ h => absurd h (List.not_mem_nil _)
  | some desired =>
    by_cases hn : nothingToApply p.lastState desired
    · rw [apply_of_nothingToApply hd hn]; exact fun _ h => absurd h (List.not_mem_nil _)
    obtain ⟨rest, hrest, hcalls, -⟩ := apply_shape env order hd hn
    rw [hcalls]
    intro call h
    rcases List.mem_append.1 h with h | h
    exacts [.inl ((syncDriverStateLoop_spec c env desired _ _).isLoad call h), .inr (hrest call h)]

/-- `Apply` past its short cut, when every load succeeds: one load of each driver the desired state
needs and that is not loaded, in the map's order, then the host part with those drivers flagged. -/
theorem apply_of_all_loads_ok (hl : ∀ name, env.loadKernelModule name = none)
    (h : p.desireState = some desired) (hn : ¬ nothingToApply p.lastState desired) :
    apply c env order p = (applyHost c env desired
      { p with driverLoaded := fun id => p.driverLoaded id || driverNeeded c id desired }).after
        (((order.arrange DriverId.all).filter fun id => !p.driverLoaded id && driverNeeded c id desired).map
          fun id => .loadKernelModule id.driverName none) := by
  obtain ⟨h₁, h₂⟩ := syncDriverStateLoop_all_of_ok c hl desired order p.driverLoaded
  rw [apply_of_loads_ok h hn (syncDriverStateLoop_ok c hl _ _), h₁, h₂]

/-- **Loads before the host part, in any map order.**  When every module load succeeds, `Apply`
past its short cut loads each driver the desired state needs and that is not loaded, once, in the
order it ranges over `DriverStateMap`, flags exactly those, and then makes the calls of the host
part.  So two orders return the same and leave the same plugin, and their calls differ only in
the order of the loads. -/
def ApplyOrderIndependent (c : Consts) : Prop :=
  ∀ env p order₁ order₂, (∀ name, env.loadKernelModule name = none) →
    (∀ d, p.desireState = some d → ¬ nothingToApply p.lastState d →
      (apply c env order₁ p).state.driverLoaded = (fun id => p.driverLoaded id || driverNeeded c id d) ∧
      (apply c env order₁ p).calls =
        ((order₁.arrange DriverId.all).filter fun id => !p.driverLoaded id && driverNeeded c id d).map
          (fun id => .loadKernelModule id.driverName none) ++ (syncHost env p.runningOnHost d).2) ∧
    (apply c env order₁ p).ret = (apply c env order₂ p).ret ∧
      (apply c env order₁ p).state = (apply c env order₂ p).state ∧
      (apply c env order₁ p).calls.Perm (apply c env order₂ p).calls

theorem applyOrderIndependent (c : Consts) : ApplyOrderIndependent c := by
  intro env p order₁ order₂ hl
  refine ⟨fun d hd hn => ?_, ?_⟩
  · rw [apply_of_all_loads_ok hl hd hn, Outcome.after_state, Outcome.after_calls, applyHost_calls]
    exact ⟨(applyHost_state env d _).2.1, rfl⟩
  cases hd : p.desireState with
  | none => simp only [apply_of_desireState_none hd, List.Perm.refl, and_self]
  | some d =>
    by_cases hn : nothingToApply p.lastState d
    · simp only [apply_of_nothingToApply hd hn, List.Perm.refl, and_self]
    rw [apply_of_all_loads_ok hl hd hn, apply_of_all_loads_ok hl hd hn]
    exact ⟨rfl, rfl, List.Perm.append_right _
      ((((order₁.perm _).trans (order₂.perm _).symm).filter _).map _)⟩

/-- A state that needs `vfio_pci` and `virtio_vdpa`, in the stored and the reversed order of the map:
the loads in the order of the range, then the same host calls, the same result and plugin. -/
theorem applyOrderIndependent_two_drivers :
    let c := Consts.upstream
    let state : SriovNetworkNodeState :=
      ⟨⟨[⟨"0000:3b:00.0", 4, [⟨"vfio-pci", ""⟩, ⟨"netdevice", "virtio"⟩]⟩]⟩, ⟨[⟨"0000:3b:00.0", 0⟩]⟩⟩
    let env : ApplyEnv := ⟨fun _ => none, ([], none), none, none⟩
    let p : GenericPlugin := { newGenericPlugin false with desireState := some state }
    let reversed : RangeOrder DriverId := ⟨List.reverse, List.reverse_perm⟩
    (apply c env .stored p).calls = [.loadKernelModule "vfio_pci" none,
        .loadKernelModule "virtio_vdpa" none] ++ (syncHost env false state).2 ∧
      (apply c env reversed p).calls = [.loadKernelModule "virtio_vdpa" none,
        .loadKernelModule "vfio_pci" none] ++ (syncHost env false state).2 ∧
      (apply c env .stored p).ret = (apply c env reversed p).ret ∧
      (apply c env .stored p).state = (apply c env reversed p).state := by
  intro c state env p reversed
  have h := applyOrderIndependent c env p .stored reversed fun _ => rfl
  have h' := (applyOrderIndependent c env p reversed .stored fun _ => rfl).1 state rfl (by decide)
  exact ⟨(h.1 state rfl (by decide)).2, h'.2, h.2.1, h.2.2.1⟩

/-- The loop of `loadDriverForTests` sets the flags of the loop of `syncDriverState` on a host where
every load succeeds. -/
theorem loadDriverForTestsLoop_eq {env : ApplyEnv} (h : ∀ name, env.loadKernelModule name = none)
    (state : SriovNetworkNodeState) :
    ∀ l loaded, loadDriverForTestsLoop c state l loaded = (syncDriverStateLoop c env state l loaded).state
  | [], _ => rfl
  | id :: rest, loaded => by
    simp only [loadDriverForTestsLoop, syncDriverStateLoop, h]
    split <;> exact loadDriverForTestsLoop_eq h state rest _

/-- **The test helper stands for a successful `syncDriverState`.**  For any iteration orders,
`loadDriverForTests(state)` leaves the plugin that a `syncDriverState` of `state` whose loads all
succeed leaves, and after it `syncDriverState` of `state` makes no call, whatever the loads
would return. -/
def LoadDriverForTestsAgrees (c : Consts) : Prop :=
  ∀ env env' order order' state p, (∀ name, env.loadKernelModule name = none) →
    loadDriverForTests c order' state p = (syncDriverState c env order state p).state ∧
      (syncDriverState c env' order state (loadDriverForTests c order' state p)).calls = []

theorem loadDriverForTestsAgrees (c : Consts) : LoadDriverForTestsAgrees c := by
  intro env env' order order' state p hl
  have hflags (o : RangeOrder DriverId) := (syncDriverStateLoop_all_of_ok c hl state o p.driverLoaded).1
  have hset : loadDriverForTests c order' state p = (syncDriverState c env order state p).state := by
    simp only [loadDriverForTests, syncDriverState, loadDriverForTestsLoop_eq hl, hflags]
  refine ⟨hset, List.eq_nil_iff_forall_not_mem.2 fun call hc => ?_⟩
  have hs := syncDriverStateLoop_spec c env' state (order.arrange DriverId.all)
    (loadDriverForTests c order' state p).driverLoaded
  cases call with
  | loadKernelModule name err =>
    obtain ⟨id, -, -, hoff, hn⟩ := hs.loads name err hc
    rw [hset, syncDriverState, hflags] at hoff
    simp [hn] at hoff
  | _ => exact hs.isLoad _ hc

/-- A fresh plugin and a state that needs `vfio_pci`: the test helper sets the flag a successful
`syncDriverState` sets, and a later `syncDriverState` whose load would fail makes no call. -/
theorem loadDriverForTestsAgrees_vfio :
    let c := Consts.upstream
    let env' : ApplyEnv := ⟨fun _ => some "modprobe failed", ([], none), none, none⟩
    let p := newGenericPlugin false
    loadDriverForTests c .stored vfioRequest p =
        (syncDriverState c ⟨fun _ => none, ([], none), none, none⟩ .stored vfioRequest p).state ∧
      (syncDriverState c env' .stored vfioRequest (loadDriverForTests c .stored vfioRequest p)).calls = [] := by
  intro c env' p
  exact loadDriverForTestsAgrees c ⟨fun _ => none, ([], none), none, none⟩ env' .stored .stored vfioRequest p
    fun _ => rfl

/-- An `Apply` that returns nil or calls `SyncNodeState` past its short cut got through its
driver loop. -/
theorem loads_ret_of_apply (h : p.desireState = some desired)
    (hn : ¬ nothingToApply p.lastState desired)
    (hr : (apply c env order p).ret = .returned none ∨
      ∃ call ∈ (apply c env order p).calls, call.IsSync) :
    (loads c env order desired p).ret = none := by
  cases he : (loads c env order desired p).ret with
  | none => rfl
  | some e =>
    rw [apply_of_loads_error h hn he] at hr
    rcases hr with hr | ⟨call, hc, hs⟩
    · cases hr
    · exact absurd hs ((syncDriverStateLoop_spec c env desired _ _).isLoad call hc).not_isSync

end

/-! ## Steps -/

section
variable {c} {s : GenericPlugin} {e : Event}

/-- Only `Apply` loads modules, and only those of drivers its desired state needs and that are not
loaded. -/
theorem step_load {name : String} {err : Option String}
    (h : .loadKernelModule name err ∈ (step c s e).2) :
    ∃ id d, s.desireState = some d ∧ name = id.driverName ∧ s.driverLoaded id = false ∧
      driverNeeded c id d := by
  cases e with
  | onNodeStateChange new env => exact absurd trivial (onNodeStateChange_ofNodeState _ h).not_isLoad
  | apply env order =>
    cases hd : s.desireState with
    | none => simp [step, apply_of_desireState_none hd] at h
    | some d =>
      by_cases hn : nothingToApply s.lastState d
      · simp [step, apply_of_nothingToApply hd hn] at h
      obtain ⟨rest, hrest, hcalls, -⟩ := apply_shape env order hd hn
      change _ ∈ (apply c env order s).calls at h
      rw [hcalls, List.mem_append] at h
      rcases h with h | h
      · obtain ⟨id, -, rfl, hl, hn⟩ := (syncDriverStateLoop_spec c env d _ _).loads name err h
        exact ⟨id, d, rfl, rfl, hl, hn⟩
      · exact absurd trivial (hrest _ h).not_isLoad

/-- No event unloads a driver. -/
theorem step_driverLoaded {id : DriverId} (h : s.driverLoaded id) : (step c s e).1.driverLoaded id := by
  cases e with
  | onNodeStateChange new env => simpa [step, onNodeStateChange_state] using h
  | apply env order =>
    cases hd : s.desireState with
    | none => simpa [step, apply_of_desireState_none hd] using h
    | some d =>
      by_cases hn : nothingToApply s.lastState d
      · simpa [step, apply_of_nothingToApply hd hn] using h
      obtain ⟨rest, -, -, hdl, -⟩ := apply_shape env order hd hn
      change (apply c env order s).state.driverLoaded id = true
      rw [hdl]
      exact ((syncDriverStateLoop_spec c env d _ _).loaded_iff id).2 (.inl h)

end

end Generic.DriverStateMap
