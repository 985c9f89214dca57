import SriovGeneric.DriverStateMap.Plugin

/-!
# What one `OnNodeStateChange` of the `DriverStateMap` plugin does

`syncLoop_spec` says what the loop of `syncDesiredKernelParams` does over any ledger and any order:
it keeps the ledger's keys, fails exactly on an error of the command line check or a failing setter
run, reports no reboot when it fails, and otherwise asks for one exactly when a setter run did.
From it:

* `rebootKeptUnlessError`: a setter run or a switchdev file that asks for a reboot makes the call
  ask for a reboot and a drain exactly when the call returns no error; an error drops the signal;
* `errorIff`: the call fails exactly on an error of the command line check, a failing setter run
  (stdout that `strconv.Atoi` rejects included) or an error of the switchdev writer.

`syncLoop_exact` says what a pass that returns no error did, key by key: the setter ran once for
each parameter absent from the command line and for no other, exactly those counters rose by one,
and the pass asks for a reboot exactly when one of those runs did (`syncFullPass`).  A pass that
returns an error stopped at the first parameter whose visit failed, and the counters it raised
before that stay raised (`countersOnError`, `syncLoop_error`): the ledger is not restored
(`countersKeptOnError_false`).  From `syncLoop_exact`, `oneFullPass`: when no outside call fails,
`OnNodeStateChange` runs exactly one full pass over the ledger with the IOMMU parameters queued.
A second call with the same desired state queues nothing new (`requestsIdempotent`).

Over every pass, failed or not, each counter rises by the setter runs that `trySetKernelParam`
accepted, and the setter runs only for keys of the ledger (`syncLoop_attempts`); a call asks for a
reboot only after a setter run or a switchdev write that asked for one (`rebootOnlyWithCause`).
-/

namespace Generic.DriverStateMap

variable (c : Consts)

/-! ## The kernel-parameter pass -/

/-- What the loop of `syncDesiredKernelParams` does, started from the ledger `m` and the flag
`b`. -/
structure SyncLoopSpec (m : KernelParams) (b : Bool)
    (o : Outcome KernelParams (Bool × Option Error)) : Prop where
  keys : ∀ k, k ∈ o.state ↔ k ∈ m
  ofPass : ∀ call ∈ o.calls, call.OfPass
  err_iff : o.ret.2.isSome ↔
    (∃ k set e, .isKernelCmdLineParamSet k (set, some e) ∈ o.calls) ∨
      ∃ k run, .enableKargs k run ∈ o.calls ∧ SetterFails run
  reboot_of_err : o.ret.2.isSome → o.ret.1 = false
  reboot_iff : o.ret.2 = none →
    (o.ret.1 = true ↔ b = true ∨ ∃ k run, .enableKargs k run ∈ o.calls ∧ ReportsReboot run)

theorem syncLoop_spec (env : NodeStateEnv) {l : List KernelParam} {m : KernelParams} (b : Bool)
    (hp : Pending m l) : SyncLoopSpec m b (syncLoop env l m b) := by
  induction l generalizing m b with
  | nil =>
    refine ⟨fun _ => Iff.rfl, fun _ h => absurd h (List.not_mem_nil _),
      iff_of_false Bool.false_ne_true ?_, fun h => absurd h Bool.false_ne_true,
      fun _ => ⟨.inl, fun h => h.elim id ?_⟩⟩
    · rintro (⟨_, _, _, h⟩ | ⟨_, _, h, -⟩) <;> exact List.not_mem_nil _ h
    · rintro ⟨_, _, h, -⟩; exact absurd h (List.not_mem_nil _)
  | cons e rest ih =>
    obtain ⟨kparam, attempts⟩ := e
    have hk : kparam ∈ m := AList.lookup_isSome.1 (by simp [hp.lookup_head])
    cases hchk : env.isKernelCmdLineParamSet kparam with
    | mk set chk =>
    cases chk with
    | some e =>
      simp only [syncLoop, hchk]
      exact ⟨fun _ => Iff.rfl, List.forall_mem_singleton.2 trivial,
        iff_of_true rfl (.inl ⟨kparam, set, e, by simp⟩), fun _ => rfl, nofun⟩
    | none =>
      cases set with
      | true =>
        have ih' := ih b hp.tail
        simp only [syncLoop, hchk, if_true]
        refine ⟨ih'.keys, List.forall_mem_cons.2 ⟨trivial, ih'.ofPass⟩, ?_, ?_, ?_⟩
        · simpa only [Outcome.after_ret, Outcome.after_calls, List.singleton_append, List.mem_cons,
            Call.isKernelCmdLineParamSet.injEq, Prod.mk.injEq, reduceCtorEq, and_false, false_or,
            Bool.exists_bool] using ih'.err_iff
        · exact ih'.reboot_of_err
        · simpa only [Outcome.after_ret, Outcome.after_calls, List.singleton_append, List.mem_cons,
            reduceCtorEq, false_or] using ih'.reboot_iff
      | false =>
        cases hr : (trySetKernelParam (env.enableKargs kparam)).2 with
        | some e =>
          have hf := (trySetKernelParam_err_iff (env.enableKargs kparam)).1 (by rw [hr]; rfl)
          simp only [syncLoop, hchk, hr]
          refine ⟨fun _ => Iff.rfl, List.forall_mem_cons.2 ⟨trivial, List.forall_mem_singleton.2 trivial⟩,
            iff_of_true rfl (.inr ⟨kparam, _, List.mem_cons_of_mem _ (List.mem_singleton_self _), hf⟩),
            fun _ => rfl, nofun⟩
        | none =>
          have hf : ¬ SetterFails (env.enableKargs kparam) := fun h => by
            simpa only [hr, Option.isSome_none, Bool.false_eq_true] using (trySetKernelParam_err_iff _).2 h
          have ih' := ih (b || (trySetKernelParam (env.enableKargs kparam)).1) hp.increment
          simp only [syncLoop, hchk, hr, Bool.false_eq_true, ↓reduceIte]
          refine ⟨fun k => ?_,
            List.forall_mem_cons.2 ⟨trivial, List.forall_mem_cons.2 ⟨trivial, ih'.ofPass⟩⟩, ?_, ?_, ?_⟩
          · simpa only [Outcome.after_state, ih'.keys, mem_incrementAttempts, or_iff_right_iff_imp]
              using fun h => h ▸ hk
          · simpa only [Outcome.after_ret, Outcome.after_calls, List.cons_append, List.singleton_append,
              List.mem_cons, Call.isKernelCmdLineParamSet.injEq, Prod.mk.injEq, reduceCtorEq,
              and_false, false_or, Bool.exists_bool, exists_or, Call.enableKargs.injEq, or_and_right,
              and_assoc, exists_and_left, exists_eq_left, hf] using ih'.err_iff
          · exact ih'.reboot_of_err
          · simpa only [Outcome.after_ret, Outcome.after_calls, List.cons_append, List.singleton_append,
              List.mem_cons, reduceCtorEq, Call.enableKargs.injEq, false_or, or_and_right,
              and_assoc, exists_or, exists_and_left, exists_eq_left, Bool.or_eq_true,
              trySetKernelParam_reboot_iff, or_assoc] using ih'.reboot_iff

/-- The pass of `syncDesiredKernelParams` over any ledger. -/
theorem syncDesiredKernelParams_spec (env : NodeStateEnv) (m : KernelParams) :
    SyncLoopSpec m false (syncDesiredKernelParams env m) :=
  syncLoop_spec env false (pending_of_perm (env.paramOrder.perm m.entries))

/-- With no failing command line check and no failing setter run, the pass returns no error. -/
theorem syncLoop_ok (env : NodeStateEnv) (hchk : ∀ k, (env.isKernelCmdLineParamSet k).2 = none)
    (hrun : ∀ k, (trySetKernelParam (env.enableKargs k)).2 = none) :
    ∀ l m b, (syncLoop env l m b).ret.2 = none
  | [], _, _ => rfl
  | ⟨k, _⟩ :: rest, m, b => by
    simp only [syncLoop, hchk, hrun]
    split <;> exact syncLoop_ok env hchk hrun rest _ _

/-- A pass that returns no error ran the setter once for each visited parameter absent from the
kernel command line and for no other, raised exactly those counters by one, and asks for a reboot
exactly when one of those runs did. -/
theorem syncLoop_exact (env : NodeStateEnv) {l : List KernelParam} {m : KernelParams} {b : Bool}
    (hp : Pending m l) (hok : (syncLoop env l m b).ret.2 = none) :
    (∀ k, (syncLoop env l m b).state.lookup k =
      if k ∈ l.map Sigma.fst ∧ (env.isKernelCmdLineParamSet k).1 = false then
        (m.lookup k).map (· + 1)
      else m.lookup k) ∧
    (∀ k, scriptRuns k (syncLoop env l m b).calls =
      if k ∈ l.map Sigma.fst ∧ (env.isKernelCmdLineParamSet k).1 = false then 1 else 0) ∧
    (syncLoop env l m b).ret.1 = (b || l.any fun e =>
      !(env.isKernelCmdLineParamSet e.1).1 && (trySetKernelParam (env.enableKargs e.1)).1) := by
  induction l generalizing m b with
  | nil =>
    simp only [syncLoop, List.map_nil, List.not_mem_nil, false_and, ↓reduceIte, implies_true,
      scriptRuns, List.countP_nil, List.any_nil, Bool.or_false, and_self]
  | cons e rest ih =>
    obtain ⟨k, a⟩ := e
    have hnot : k ∉ rest.map Sigma.fst := (List.nodup_cons.1 hp.1).1
    -- the parameters the pass sets
    let due : String → Prop := fun k => (env.isKernelCmdLineParamSet k).1 = false
    cases hchk : env.isKernelCmdLineParamSet k with
    | mk set chk =>
    cases chk with
    | some e => simp only [syncLoop, hchk, reduceCtorEq] at hok
    | none =>
      cases set with
      | true =>
        simp only [syncLoop, hchk, if_true, Outcome.after_ret] at hok ⊢
        obtain ⟨h₂, h₃, h₄⟩ := ih hp.tail hok
        have hdue : ¬ due k := by simp only [due, hchk, Bool.true_eq_false, not_false_eq_true]
        refine ⟨fun k' => ?_, fun k' => ?_, by
          simp only [h₄, List.any_cons, hchk, Bool.not_true, Bool.false_and, Bool.false_or]⟩
        · rw [Outcome.after_state, h₂]
          exact lookup_visit_skip due hdue _ _
        · rw [Outcome.after_calls, List.singleton_append, scriptRuns_isKernelCmdLineParamSet, h₃]
          exact lookup_visit_skip due hdue _ _
      | false =>
        cases hr : (trySetKernelParam (env.enableKargs k)).2 with
        | some e => simp only [syncLoop, hchk, Bool.false_eq_true, ↓reduceIte, hr, reduceCtorEq] at hok
        | none =>
          simp only [syncLoop, hchk, hr, Bool.false_eq_true, if_false, Outcome.after_ret] at hok ⊢
          obtain ⟨h₂, h₃, h₄⟩ := ih hp.increment hok
          have hdue : due k := by simp only [due, hchk]
          refine ⟨fun k' => ?_, fun k' => ?_, by
            simp only [h₄, Bool.or_assoc, List.any_cons, hchk, Bool.not_false, Bool.true_and]⟩
          · rw [Outcome.after_state, h₂]
            exact lookup_visit_increment due hp.lookup_head hnot hdue
          · rw [Outcome.after_calls, List.cons_append, List.singleton_append,
              scriptRuns_isKernelCmdLineParamSet, scriptRuns_enableKargs, h₃]
            exact runs_visit_increment due hnot hdue

/-- The pass of `syncDesiredKernelParams`, when it returns no error: `syncLoop_exact` over the keys
of the ledger, in any order. -/
theorem syncDesiredKernelParams_exact (env : NodeStateEnv) (m : KernelParams)
    (hok : (syncDesiredKernelParams env m).ret.2 = none) :
    (∀ k, (syncDesiredKernelParams env m).state.lookup k =
      if k ∈ m ∧ (env.isKernelCmdLineParamSet k).1 = false then (m.lookup k).map (· + 1)
      else m.lookup k) ∧
    (∀ k, scriptRuns k (syncDesiredKernelParams env m).calls =
      if k ∈ m ∧ (env.isKernelCmdLineParamSet k).1 = false then 1 else 0) ∧
    ((syncDesiredKernelParams env m).ret.1 = true ↔
      ∃ k ∈ m, (env.isKernelCmdLineParamSet k).1 = false ∧ ReportsReboot (env.enableKargs k)) := by
  obtain ⟨h₁, h₂, h₃⟩ := syncLoop_exact env (pending_of_perm (env.paramOrder.perm m.entries)) hok
  refine ⟨fun k => by simpa only [mem_map_fst_arrange] using h₁ k,
    fun k => by simpa only [mem_map_fst_arrange] using h₂ k, ?_⟩
  rw [syncDesiredKernelParams, h₃]
  simp only [Bool.false_or, List.any_eq_true, Bool.and_eq_true, Bool.not_eq_eq_eq_not, Bool.not_true,
    trySetKernelParam_reboot_iff, Sigma.exists, exists_and_right, ← mem_map_fst_arrange env.paramOrder m,
    List.mem_map, exists_eq_right]

/-- **One full pass unless it fails.**  Over every ledger, in every order and for every outcome of
the command line check and the setter, a `syncDesiredKernelParams` that returns no error did a
`FullPass` over the ledger; the parameters due are those absent from the command line. -/
def SyncFullPass : Prop :=
  ∀ env m, (syncDesiredKernelParams env m).ret.2 = none →
    FullPass m (fun k => (env.isKernelCmdLineParamSet k).1 = false) env.enableKargs
      (syncDesiredKernelParams env m).state (syncDesiredKernelParams env m).calls
      (syncDesiredKernelParams env m).ret.1

theorem syncFullPass : SyncFullPass := fun env m hok =>
  have ⟨h₁, h₂, h₃⟩ := syncDesiredKernelParams_exact env m hok
  .of_lookup h₁ h₂ h₃

/-! ## A failed pass -/

/-- The pass's visit of `kparam` fails: its command line check returns an error, or it is absent
from the command line and its setter run fails. -/
def VisitFails (env : NodeStateEnv) (kparam : String) : Prop :=
  (env.isKernelCmdLineParamSet kparam).2.isSome ∨
    (env.isKernelCmdLineParamSet kparam).1 = false ∧ SetterFails (env.enableKargs kparam)

/-- A pass that returns an error stopped at the first parameter whose visit failed: its order splits
into the parameters before it, whose visits all passed, that parameter, and the rest; and exactly
the counters of the parameters before it absent from the command line rose, by one. -/
theorem syncLoop_error (env : NodeStateEnv) {l : List KernelParam} {m : KernelParams} {b : Bool}
    (hp : Pending m l) (herr : (syncLoop env l m b).ret.2.isSome) :
    ∃ pre e post, l = pre ++ e :: post ∧ (∀ k ∈ pre.map Sigma.fst, ¬ VisitFails env k) ∧
      VisitFails env e.1 ∧
      ∀ k, (syncLoop env l m b).state.lookup k =
        if k ∈ pre.map Sigma.fst ∧ (env.isKernelCmdLineParamSet k).1 = false then
          (m.lookup k).map (· + 1)
        else m.lookup k := by
  induction l generalizing m b with
  | nil => exact absurd herr Bool.false_ne_true
  | cons e rest ih =>
    obtain ⟨k, a⟩ := e
    have hnot : k ∉ rest.map Sigma.fst := (List.nodup_cons.1 hp.1).1
    let due : String → Prop := fun k => (env.isKernelCmdLineParamSet k).1 = false
    cases hchk : env.isKernelCmdLineParamSet k with
    | mk set chk =>
    cases chk with
    | some msg =>
      refine ⟨[], ⟨k, a⟩, rest, rfl, fun _ h => absurd h (List.not_mem_nil _),
        .inl (by rw [hchk]; rfl), fun k' => ?_⟩
      simp only [syncLoop, hchk, List.map_nil, List.not_mem_nil, false_and, if_false]
    | none =>
      cases set with
      | true =>
        simp only [syncLoop, hchk, if_true, Outcome.after_ret, Outcome.after_state] at herr ⊢
        obtain ⟨pre, e, post, rfl, hpre, he, hlk⟩ := ih hp.tail herr
        refine ⟨⟨k, a⟩ :: pre, e, post, rfl, List.forall_mem_cons.2 ⟨?_, hpre⟩, he, fun k' => by
          rw [hlk]
          exact lookup_visit_skip due (by simp only [due, hchk, Bool.true_eq_false, not_false_eq_true]) _ _⟩
        rintro (h | ⟨h, -⟩) <;> simp only [hchk, Option.isSome_none, Bool.false_eq_true,
          Bool.true_eq_false] at h
      | false =>
        cases hr : (trySetKernelParam (env.enableKargs k)).2 with
        | some err =>
          refine ⟨[], ⟨k, a⟩, rest, rfl, fun _ h => absurd h (List.not_mem_nil _),
            .inr ⟨by rw [hchk], (trySetKernelParam_err_iff _).1 (by rw [hr]; rfl)⟩, fun k' => ?_⟩
          simp only [syncLoop, hchk, hr, Bool.false_eq_true, if_false, List.map_nil,
            List.not_mem_nil, false_and]
        | none =>
          simp only [syncLoop, hchk, hr, Bool.false_eq_true, if_false, Outcome.after_ret,
            Outcome.after_state] at herr ⊢
          obtain ⟨pre, e, post, rfl, hpre, he, hlk⟩ := ih hp.increment herr
          have hpre' : k ∉ pre.map Sigma.fst := fun h =>
            hnot (by rw [List.map_append]; exact List.mem_append_left _ h)
          refine ⟨⟨k, a⟩ :: pre, e, post, rfl, List.forall_mem_cons.2 ⟨?_, hpre⟩, he, fun k' => by
            rw [hlk]; exact lookup_visit_increment due hp.lookup_head hpre' (by simp only [due, hchk])⟩
          rintro (h | ⟨-, h⟩)
          · simp only [hchk, Option.isSome_none, Bool.false_eq_true] at h
          · simpa only [hr, Option.isSome_none, Bool.false_eq_true] using
              (trySetKernelParam_err_iff _).2 h

/-- **What a failed pass leaves.**  Over every ledger, in every order and for every outcome of the
command line check and the setter, when `syncDesiredKernelParams` returns an error its order splits
at the parameter whose visit failed, every visit before it passed, the ledger keeps its keys, the
counters of the parameters before it absent from the command line rose by one, and every other
counter is as it was. -/
def CountersOnError : Prop :=
  ∀ env m, (syncDesiredKernelParams env m).ret.2.isSome →
    ∃ pre e post, env.paramOrder.arrange m.entries = pre ++ e :: post ∧
      (∀ k ∈ pre.map Sigma.fst, ¬ VisitFails env k) ∧ VisitFails env e.1 ∧
      (∀ k, k ∈ (syncDesiredKernelParams env m).state ↔ k ∈ m) ∧
      ∀ k, (syncDesiredKernelParams env m).state.lookup k =
        if k ∈ pre.map Sigma.fst ∧ (env.isKernelCmdLineParamSet k).1 = false then
          (m.lookup k).map (· + 1)
        else m.lookup k

theorem countersOnError : CountersOnError := fun env m herr =>
  have ⟨pre, e, post, hl, hpre, he, hlk⟩ :=
    syncLoop_error env (pending_of_perm (env.paramOrder.perm m.entries)) herr
  ⟨pre, e, post, hl, hpre, he, (syncDesiredKernelParams_spec env m).keys, hlk⟩

/-- The two parameters and setter of `countersKeptOnError_false` below: the pass fails at a visit
that failed, after visits that passed, with the counters the theorem gives. -/
theorem countersOnError_second_setter_fails :
    let m : KernelParams := ((∅ : KernelParams).insert "iommu=pt" 0).insert "intel_iommu=on" 0
    let env : NodeStateEnv := ⟨fun _ => (false, none),
      fun k => if k = "intel_iommu=on" then .exited 0 "1" else .exited 1 "", (false, none), .stored⟩
    ∃ pre e post, env.paramOrder.arrange m.entries = pre ++ e :: post ∧
      (∀ k ∈ pre.map Sigma.fst, ¬ VisitFails env k) ∧ VisitFails env e.1 ∧
      (∀ k, k ∈ (syncDesiredKernelParams env m).state ↔ k ∈ m) ∧
      ∀ k, (syncDesiredKernelParams env m).state.lookup k =
        if k ∈ pre.map Sigma.fst ∧ (env.isKernelCmdLineParamSet k).1 = false then
          (m.lookup k).map (· + 1)
        else m.lookup k := by
  intro m env
  exact countersOnError env m (by decide)

/-- A `syncDesiredKernelParams` that returns an error leaves every counter as it was;
`countersKeptOnError_false` refutes it. -/
def CountersKeptOnError : Prop :=
  ∀ env m, (syncDesiredKernelParams env m).ret.2.isSome →
    ∀ k, (syncDesiredKernelParams env m).state.lookup k = m.lookup k

/-- Two parameters absent from the command line, visited in stored order: the setter succeeds for
the first and exits 1 for the second.  The pass fails with the first counter raised. -/
theorem countersKeptOnError_false : ¬ CountersKeptOnError := by
  let m : KernelParams := ((∅ : KernelParams).insert "iommu=pt" 0).insert "intel_iommu=on" 0
  let env : NodeStateEnv := ⟨fun _ => (false, none),
    fun k => if k = "intel_iommu=on" then .exited 0 "1" else .exited 1 "", (false, none), .stored⟩
  have herr : (syncDesiredKernelParams env m).ret.2 = some (.exitError 1) := rfl
  have hlk : (syncDesiredKernelParams env m).state.lookup "intel_iommu=on" = some 1 := rfl
  have hm : m.lookup "intel_iommu=on" = some 0 := rfl
  intro h
  have := h env m (by rw [herr]; rfl) "intel_iommu=on"
  rw [hlk, hm] at this
  exact absurd this (by decide)

/-! ## Every pass -/

/-- Every pass, failed or not, raises each counter by the setter runs for it that
`trySetKernelParam` accepted, wrapping at `2 ^ 64`, and runs the setter only for keys it visits. -/
theorem syncLoop_attempts (env : NodeStateEnv) (k : String) :
    ∀ l m b, (((syncLoop env l m b).state.lookup k).getD 0).toNat =
        (((m.lookup k).getD 0).toNat + acceptedRuns k (syncLoop env l m b).calls) % 2 ^ 64 ∧
      (k ∉ l.map Sigma.fst → scriptRuns k (syncLoop env l m b).calls = 0)
  | [], m, _ => ⟨(Nat.mod_eq_of_lt ((m.lookup k).getD 0).toBitVec.isLt).symm, fun _ => rfl⟩
  | ⟨kparam, _⟩ :: rest, m, b => by
    have hvisit : k ∉ kparam :: rest.map Sigma.fst → kparam ≠ k ∧ k ∉ rest.map Sigma.fst :=
      fun h => ⟨fun he => h (he ▸ List.mem_cons_self _ _), fun h' => h (List.mem_cons_of_mem _ h')⟩
    have hkeep : ((m.lookup k).getD 0).toNat = (((m.lookup k).getD 0).toNat + 0) % 2 ^ 64 :=
      (Nat.mod_eq_of_lt ((m.lookup k).getD 0).toBitVec.isLt).symm
    cases hchk : env.isKernelCmdLineParamSet kparam with
    | mk set chk =>
    cases chk with
    | some e => exact ⟨by simpa [syncLoop, hchk] using hkeep, fun _ => by simp [syncLoop, hchk]⟩
    | none =>
      cases set with
      | true =>
        obtain ⟨ih₁, ih₂⟩ := syncLoop_attempts env k rest m b
        simp only [syncLoop, hchk, ↓reduceIte, Outcome.after_state, Outcome.after_calls,
          List.singleton_append, acceptedRuns_isKernelCmdLineParamSet, scriptRuns_isKernelCmdLineParamSet]
        exact ⟨ih₁, fun hk => ih₂ (hvisit hk).2⟩
      | false =>
        cases hr : (trySetKernelParam (env.enableKargs kparam)).2 with
        | some e =>
          exact ⟨by simpa [syncLoop, hchk, hr] using hkeep,
            fun hk => by simp [syncLoop, hchk, hr, (hvisit hk).1]⟩
        | none =>
          obtain ⟨ih₁, ih₂⟩ := syncLoop_attempts env k rest (incrementAttempts kparam m)
            (b || (trySetKernelParam (env.enableKargs kparam)).1)
          simp only [syncLoop, hchk, hr, Bool.false_eq_true, ↓reduceIte, Outcome.after_state,
            Outcome.after_calls, List.cons_append, List.singleton_append,
            acceptedRuns_isKernelCmdLineParamSet, acceptedRuns_enableKargs,
            scriptRuns_isKernelCmdLineParamSet, scriptRuns_enableKargs, List.nil_append, and_true]
          refine ⟨?_, fun hk => by simp [ih₂ (hvisit hk).2, (hvisit hk).1]⟩
          rw [ih₁, attempts_incrementAttempts, Nat.mod_add_mod, Nat.add_assoc, Nat.add_comm (ite _ _ _)]

/-! ## `OnNodeStateChange` -/

section
variable {c} {p : GenericPlugin} {new : SriovNetworkNodeState} {env : NodeStateEnv}

/-- The pass `OnNodeStateChange` runs: over the ledger with the IOMMU parameters queued. -/
abbrev pass (c : Consts) (p : GenericPlugin) (new : SriovNetworkNodeState) (env : NodeStateEnv) :
    Outcome KernelParams (Bool × Option Error) :=
  syncDesiredKernelParams env (addVfioDesiredKernelParam c new p)

theorem addVfioDesiredKernelParam_eq : addVfioDesiredKernelParam c new p =
    if p.driverLoaded .vfio = false ∧ driverNeeded c .vfio new then
      addToDesiredKernelParams c.kernelParamIommuPt
        (addToDesiredKernelParams c.kernelParamIntelIommu p.desiredKernelParams)
    else p.desiredKernelParams := by
  simp [addVfioDesiredKernelParam, GenericPlugin.driverStateMap, driverNeeded, newDriverState,
    DriverState.needDriver, needDriverCheckDeviceType]

/-- `addVfioDesiredKernelParam` reads no desired state of the plugin. -/
@[simp] theorem addVfioDesiredKernelParam_desireState {d : Option SriovNetworkNodeState} :
    addVfioDesiredKernelParam c new { p with desireState := d } = addVfioDesiredKernelParam c new p :=
  rfl

theorem mem_addVfioDesiredKernelParam {k : String} (h : k ∈ p.desiredKernelParams) :
    k ∈ addVfioDesiredKernelParam c new p := by
  rw [addVfioDesiredKernelParam_eq]
  split_ifs <;> simp [h]

theorem mem_addVfioDesiredKernelParam_iff {k : String} :
    k ∈ addVfioDesiredKernelParam c new p ↔ k ∈ p.desiredKernelParams ∨
      (p.driverLoaded .vfio = false ∧ driverNeeded c .vfio new) ∧
        (k = c.kernelParamIntelIommu ∨ k = c.kernelParamIommuPt) := by
  rw [addVfioDesiredKernelParam_eq]
  split_ifs with h
  · simp only [mem_addToDesiredKernelParams, h, true_and]
    tauto
  · simp [h]

/-- The plugin after `OnNodeStateChange`: the desired state set and the ledger after the pass. -/
theorem onNodeStateChange_state :
    (onNodeStateChange c p new env).state =
      { p with desireState := some new, desiredKernelParams := (pass c p new env).state } := by
  simp only [onNodeStateChange, needRebootNode, addVfioDesiredKernelParam_desireState]
  split
  · rfl
  · split <;> rfl

/-- The calls of `OnNodeStateChange`: the pass's, then the switchdev file unless the pass failed. -/
theorem onNodeStateChange_calls :
    (onNodeStateChange c p new env).calls = (pass c p new env).calls ++
      if (pass c p new env).ret.2.isSome then []
      else [.writeSwitchdevConfFile new env.writeSwitchdevConfFile] := by
  simp only [onNodeStateChange, needRebootNode, addVfioDesiredKernelParam_desireState]
  split
  · next h => simp [h]
  · next h => split <;> simp [h]

/-- `OnNodeStateChange` queues only the IOMMU parameters, and drops no parameter. -/
theorem mem_onNodeStateChange_desiredKernelParams {k : String} :
    k ∈ (onNodeStateChange c p new env).state.desiredKernelParams ↔
      k ∈ addVfioDesiredKernelParam c new p := by
  rw [onNodeStateChange_state]
  exact (syncDesiredKernelParams_spec env _).keys k

theorem onNodeStateChange_ofNodeState :
    ∀ call ∈ (onNodeStateChange c p new env).calls, call.OfNodeState := by
  rw [onNodeStateChange_calls]
  intro call h
  rcases List.mem_append.1 h with h | h
  · exact ((syncDesiredKernelParams_spec env _).ofPass call h).ofNodeState
  · split at h <;> simp_all [Call.OfNodeState]

/-- `addVfioDesiredKernelParam` queues the IOMMU parameters with no attempts. -/
theorem attempts_addVfioDesiredKernelParam {k : String} :
    ((addVfioDesiredKernelParam c new p).lookup k).getD 0 = (p.desiredKernelParams.lookup k).getD 0 := by
  rw [addVfioDesiredKernelParam_eq]
  split_ifs <;> simp only [attempts_addToDesiredKernelParams]

/-- `OnNodeStateChange` raises each counter by the setter runs for it that `trySetKernelParam`
accepted, wrapping at `2 ^ 64`, and runs the setter only for parameters it leaves queued. -/
theorem onNodeStateChange_attempts (k : String) :
    (((onNodeStateChange c p new env).state.desiredKernelParams.lookup k).getD 0).toNat =
        (((p.desiredKernelParams.lookup k).getD 0).toNat +
          acceptedRuns k (onNodeStateChange c p new env).calls) % 2 ^ 64 ∧
      (k ∉ (onNodeStateChange c p new env).state.desiredKernelParams →
        scriptRuns k (onNodeStateChange c p new env).calls = 0) := by
  obtain ⟨h₁, h₂⟩ := syncLoop_attempts env k (env.paramOrder.arrange (addVfioDesiredKernelParam c new p).entries)
    (addVfioDesiredKernelParam c new p) false
  have htail (b : Bool) :
      acceptedRuns k (if b then [] else [.writeSwitchdevConfFile new env.writeSwitchdevConfFile]) = 0 ∧
        scriptRuns k (if b then [] else [.writeSwitchdevConfFile new env.writeSwitchdevConfFile]) = 0 := by
    cases b <;> exact ⟨rfl, rfl⟩
  rw [mem_onNodeStateChange_desiredKernelParams, onNodeStateChange_state, onNodeStateChange_calls,
    acceptedRuns_append, scriptRuns_append, (htail _).1, (htail _).2, Nat.add_zero, Nat.add_zero]
  rw [attempts_addVfioDesiredKernelParam] at h₁
  exact ⟨h₁, fun hk => h₂ ((mem_map_fst_arrange _ _ k).not.2 hk)⟩

/-- `(needDrain, needReboot, err)` of `OnNodeStateChange`, from the pass and the switchdev file. -/
theorem onNodeStateChange_ret :
    (onNodeStateChange c p new env).ret =
      match (pass c p new env).ret.2, env.writeSwitchdevConfFile.2 with
      | some e, _ => (needDrainNode c new.spec.interfaces new.status.interfaces, false, some e)
      | none, some e =>
        (needDrainNode c new.spec.interfaces new.status.interfaces, false, some (.text e))
      | none, none =>
        let needReboot := (pass c p new env).ret.1 || env.writeSwitchdevConfFile.1
        (needDrainNode c new.spec.interfaces new.status.interfaces || needReboot, needReboot, none) := by
  simp only [onNodeStateChange, needRebootNode, addVfioDesiredKernelParam_desireState]
  split
  · simp_all
  · split <;> simp_all

end

/-- **The reboot signal is kept unless the call fails.**  A setter run that asks for a reboot, or
a switchdev file that changed, makes `OnNodeStateChange` ask for a reboot and a drain when it
returns no error; a call that returns an error asks for no reboot. -/
def RebootKeptUnlessError : Prop :=
  ∀ p new env,
    ((∃ k run, .enableKargs k run ∈ (onNodeStateChange c p new env).calls ∧ ReportsReboot run) ∨
      ∃ st err, .writeSwitchdevConfFile st (true, err) ∈ (onNodeStateChange c p new env).calls) →
    ((onNodeStateChange c p new env).ret.2.2 = none →
      (onNodeStateChange c p new env).ret.2.1 = true ∧ (onNodeStateChange c p new env).ret.1 = true) ∧
    ((onNodeStateChange c p new env).ret.2.2.isSome → (onNodeStateChange c p new env).ret.2.1 = false)

theorem rebootKeptUnlessError : RebootKeptUnlessError c := by
  intro p new env h
  have hs := syncDesiredKernelParams_spec env (addVfioDesiredKernelParam c new p)
  rw [onNodeStateChange_calls] at h
  rw [onNodeStateChange_ret]
  cases hp : (pass c p new env).ret.2 with
  | some e => simp
  | none =>
    cases hw : env.writeSwitchdevConfFile with
    | mk upd err =>
    cases err with
    | some e => simp
    | none =>
      simp only [hp, Option.isSome_none, Bool.false_eq_true, if_false, List.mem_append,
        List.mem_singleton, hw] at h
      have hreboot : (pass c p new env).ret.1 = true ∨ upd = true := by
        rcases h with ⟨k, run, hk | hk, hr⟩ | ⟨st, err, hk | hk⟩
        · exact .inl ((hs.reboot_iff hp).2 (.inr ⟨k, run, hk, hr⟩))
        · cases hk
        · exact False.elim (hs.ofPass _ hk)
        · cases hk; exact .inr rfl
      simp only [Bool.or_eq_true]
      exact ⟨fun _ => ⟨hreboot, .inr hreboot⟩, nofun⟩

/-- **No reboot without cause.**  `OnNodeStateChange` asks for a reboot only when it returns no
error and a setter run of the call printed a positive integer or the switchdev writer reported the
file changed, whatever the outside calls return. -/
def RebootOnlyWithCause : Prop :=
  ∀ p new env, (onNodeStateChange c p new env).ret.2.1 = true →
    (onNodeStateChange c p new env).ret.2.2 = none ∧
      ((∃ k run, .enableKargs k run ∈ (onNodeStateChange c p new env).calls ∧ ReportsReboot run) ∨
        ∃ st err, .writeSwitchdevConfFile st (true, err) ∈ (onNodeStateChange c p new env).calls)

theorem rebootOnlyWithCause : RebootOnlyWithCause c := by
  intro p new env h
  have hs := syncDesiredKernelParams_spec env (addVfioDesiredKernelParam c new p)
  rw [onNodeStateChange_ret] at h ⊢
  rw [onNodeStateChange_calls]
  cases hp : (pass c p new env).ret.2 with
  | some e => simp [hp] at h
  | none =>
    cases hw : env.writeSwitchdevConfFile with
    | mk upd err =>
    cases err with
    | some e => simp [hp, hw] at h
    | none =>
      simp only [hp, hw, Bool.or_eq_true] at h ⊢
      refine ⟨trivial, ?_⟩
      rcases h with h | rfl
      · rcases (hs.reboot_iff hp).1 h with hb | ⟨k, run, hk, hr⟩
        · cases hb
        · exact .inl ⟨k, run, List.mem_append_left _ hk, hr⟩
      · exact .inr ⟨new, none, by simp⟩

/-- **Errors of `OnNodeStateChange`.**  The call fails exactly when the command line check failed,
a setter run failed (stdout that `strconv.Atoi` rejects included) or the switchdev writer failed;
a failed call asks for no reboot. -/
def ErrorIff : Prop :=
  ∀ p new env,
    ((onNodeStateChange c p new env).ret.2.2.isSome ↔
      (∃ k set e, .isKernelCmdLineParamSet k (set, some e) ∈ (onNodeStateChange c p new env).calls) ∨
      (∃ k run, .enableKargs k run ∈ (onNodeStateChange c p new env).calls ∧ SetterFails run) ∨
      ∃ st upd e, .writeSwitchdevConfFile st (upd, some e) ∈ (onNodeStateChange c p new env).calls) ∧
    ((onNodeStateChange c p new env).ret.2.2.isSome → (onNodeStateChange c p new env).ret.2.1 = false)

theorem errorIff : ErrorIff c := by
  intro p new env
  have hs := syncDesiredKernelParams_spec env (addVfioDesiredKernelParam c new p)
  have hnw : ∀ st upd e, .writeSwitchdevConfFile st (upd, some e) ∉ (pass c p new env).calls :=
    fun st upd e h => hs.ofPass _ h
  rw [onNodeStateChange_calls, onNodeStateChange_ret]
  cases hp : (pass c p new env).ret.2 with
  | some e =>
    have herr := hs.err_iff.1 (by simp [hp])
    simp only [hp, Option.isSome_some, if_true, List.append_nil]
    exact ⟨iff_of_true trivial (herr.elim .inl (.inr ∘ .inl)), fun _ => trivial⟩
  | none =>
    have herr : ¬ ((∃ k set e, .isKernelCmdLineParamSet k (set, some e) ∈ (pass c p new env).calls) ∨
        ∃ k run, .enableKargs k run ∈ (pass c p new env).calls ∧ SetterFails run) :=
      fun h => by simpa [hp] using hs.err_iff.2 h
    cases hw : env.writeSwitchdevConfFile with
    | mk upd err =>
    cases err with
    | some e =>
      simp only [hw, Option.isSome_some, Option.isSome_none, Bool.false_eq_true, if_false]
      exact ⟨iff_of_true trivial (.inr (.inr ⟨new, upd, e, by simp⟩)), fun _ => trivial⟩
    | none =>
      simp only [hw, Option.isSome_none, Bool.false_eq_true, if_false, false_iff, false_implies,
        and_true]
      simp only [List.mem_append, List.mem_singleton, reduceCtorEq, or_false, not_or]
      refine ⟨fun h => herr (.inl h), fun h => herr (.inr h), ?_⟩
      rintro ⟨st, upd', e, h | h⟩
      · exact hnw st upd' e h
      · simp at h

/-- A setter that prints `ok`, which `strconv.Atoi` rejects: the call fails, and asks for no reboot. -/
theorem errorIff_atoi_rejects :
    let c := Consts.upstream
    let o := onNodeStateChange c (newGenericPlugin false) vfioRequest
      ⟨fun _ => (false, none), fun _ => .exited 0 "ok", (false, none), .stored⟩
    o.ret.2.2.isSome ∧ o.ret.2.1 = false := by
  intro c o
  have h := errorIff c (newGenericPlugin false) vfioRequest
    ⟨fun _ => (false, none), fun _ => .exited 0 "ok", (false, none), .stored⟩
  have herr : o.ret.2.2.isSome := h.1.2 (.inr (.inl ⟨"iommu=pt", .exited 0 "ok", by decide,
    .inr ⟨rfl, fun _ h => nomatch h⟩⟩))
  exact ⟨herr, h.2 herr⟩

/-- No error of `OnNodeStateChange` drops the reboot signal of a setter run or of the switchdev file
of the same call; `rebootKept_false` refutes it. -/
def RebootKept : Prop :=
  ∀ p new env,
    ((∃ k run, .enableKargs k run ∈ (onNodeStateChange c p new env).calls ∧ ReportsReboot run) ∨
      ∃ st err, .writeSwitchdevConfFile st (true, err) ∈ (onNodeStateChange c p new env).calls) →
    (onNodeStateChange c p new env).ret.2.1 = true ∧ (onNodeStateChange c p new env).ret.1 = true

/-- A setter run that asks for a reboot, then a failing switchdev writer: the call fails and asks
for no reboot. -/
theorem rebootKept_false : ¬ RebootKept c := by
  let new : SriovNetworkNodeState := ⟨⟨[]⟩, ⟨[]⟩⟩
  let p : GenericPlugin :=
    { newGenericPlugin false with desiredKernelParams := (∅ : KernelParams).insert "intel_iommu=on" 0 }
  let env : NodeStateEnv :=
    ⟨fun _ => (false, none), fun _ => .exited 0 "1", (false, some "write failed"), .stored⟩
  have hcalls : (onNodeStateChange c p new env).calls =
      [.isKernelCmdLineParamSet "intel_iommu=on" (false, none),
        .enableKargs "intel_iommu=on" (.exited 0 "1"),
        .writeSwitchdevConfFile new (false, some "write failed")] := rfl
  have hret : (onNodeStateChange c p new env).ret.2.1 = false := rfl
  have hreboot : ReportsReboot (.exited 0 "1") := ⟨"1", 1, rfl, rfl, by decide⟩
  intro h
  have := (h p new env (.inl ⟨"intel_iommu=on", _, by rw [hcalls]; simp, hreboot⟩)).1
  rw [hret] at this
  cases this

/-- `OnNodeStateChange` fails exactly on an error of the command line check or a setter run that
exits with a status other than 0 and 127; `errorIffCheckOrExit_false` refutes it. -/
def ErrorIffCheckOrExit : Prop :=
  ∀ p new env,
    (onNodeStateChange c p new env).ret.2.2.isSome ↔
      (∃ k set e, .isKernelCmdLineParamSet k (set, some e) ∈ (onNodeStateChange c p new env).calls) ∨
      ∃ k status out, .enableKargs k (.exited status out) ∈ (onNodeStateChange c p new env).calls ∧
        status ≠ 0 ∧ status ≠ 127

/-- A setter run that exits 0 printing `ok`, which `strconv.Atoi` rejects: the call fails. -/
theorem errorIffCheckOrExit_false : ¬ ErrorIffCheckOrExit c := by
  let new : SriovNetworkNodeState := ⟨⟨[]⟩, ⟨[]⟩⟩
  let p : GenericPlugin :=
    { newGenericPlugin false with desiredKernelParams := (∅ : KernelParams).insert "intel_iommu=on" 0 }
  let env : NodeStateEnv := ⟨fun _ => (false, none), fun _ => .exited 0 "ok", (false, none), .stored⟩
  have hcalls : (onNodeStateChange c p new env).calls =
      [.isKernelCmdLineParamSet "intel_iommu=on" (false, none),
        .enableKargs "intel_iommu=on" (.exited 0 "ok")] := rfl
  have herr : (onNodeStateChange c p new env).ret.2.2 = some (.numError "ok") := rfl
  intro h
  have := (h p new env).1 (by rw [herr]; rfl)
  rw [hcalls] at this
  obtain ⟨k, status, ⟨-, rfl⟩, h0, -⟩ := by simpa using this
  exact h0 rfl

/-- **One full pass when no outside call fails.**  When the command line check never fails, every
setter run exits 0 printing a decimal integer or exits 127, and the switchdev writer returns no
error, `OnNodeStateChange` sets the desired state, queues the IOMMU parameters when `vfio_pci` is
needed and not loaded, runs the setter once for each tracked parameter absent from the command line
and for no other, raises exactly those counters by one, and asks for a reboot exactly when the
switchdev file changed or one of those runs did; it asks for a drain when the interfaces need one or
the node needs a reboot. -/
def OneFullPass : Prop :=
  ∀ p new env, (∀ k, (env.isKernelCmdLineParamSet k).2 = none) →
    (∀ k, SetterWellBehaved (env.enableKargs k)) → env.writeSwitchdevConfFile.2 = none →
    let m := if p.driverLoaded .vfio = false ∧ driverNeeded c .vfio new then
        addToDesiredKernelParams c.kernelParamIommuPt
          (addToDesiredKernelParams c.kernelParamIntelIommu p.desiredKernelParams)
      else p.desiredKernelParams
    let o := onNodeStateChange c p new env
    o.state.desireState = some new ∧
    (∀ k, o.state.desiredKernelParams.lookup k =
      if k ∈ m ∧ (env.isKernelCmdLineParamSet k).1 = false then (m.lookup k).map (· + 1)
      else m.lookup k) ∧
    (∀ k, scriptRuns k o.calls =
      if k ∈ m ∧ (env.isKernelCmdLineParamSet k).1 = false then 1 else 0) ∧
    o.ret.2.2 = none ∧
    (o.ret.2.1 = true ↔ env.writeSwitchdevConfFile.1 = true ∨
      ∃ k ∈ m, (env.isKernelCmdLineParamSet k).1 = false ∧ ReportsReboot (env.enableKargs k)) ∧
    o.ret.1 = (needDrainNode c new.spec.interfaces new.status.interfaces || o.ret.2.1)

theorem oneFullPass : OneFullPass c := by
  intro p new env hchk hrun hws m o
  have hok : (pass c p new env).ret.2 = none :=
    syncLoop_ok env hchk (fun k => trySetKernelParam_err_of_wellBehaved (hrun k)) _ _ _
  obtain ⟨h₁, h₂, h₃⟩ := syncDesiredKernelParams_exact env _ hok
  rw [show m = addVfioDesiredKernelParam c new p from addVfioDesiredKernelParam_eq.symm]
  refine ⟨by simp [o, onNodeStateChange_state], fun k => by simp [o, onNodeStateChange_state, h₁],
    fun k => ?_, ?_, ?_, ?_⟩
  · simp only [o, onNodeStateChange_calls, hok, Option.isSome_none, Bool.false_eq_true, if_false,
      scriptRuns_append, h₂]
    rfl
  · simp [o, onNodeStateChange_ret, hok, hws]
  · simp [o, onNodeStateChange_ret, hok, hws, h₃, or_comm]
  · simp [o, onNodeStateChange_ret, hok, hws]

/-- **Requests are idempotent.**  A second `OnNodeStateChange` with the same desired state, whatever
its outside calls return, changes no driver flag and queues no new kernel parameter. -/
def RequestsIdempotent : Prop :=
  ∀ p new env env',
    let s := (onNodeStateChange c p new env).state
    let s' := (onNodeStateChange c s new env').state
    s'.driverLoaded = s.driverLoaded ∧ ∀ k, k ∈ s'.desiredKernelParams ↔ k ∈ s.desiredKernelParams

theorem requestsIdempotent : RequestsIdempotent c := by
  intro p new env env' s s'
  have hflags : s.driverLoaded = p.driverLoaded := by simp only [s, onNodeStateChange_state]
  refine ⟨by simp only [s', onNodeStateChange_state], fun k => ?_⟩
  rw [mem_onNodeStateChange_desiredKernelParams, mem_addVfioDesiredKernelParam_iff, hflags,
    or_iff_left_of_imp]
  -- the second call queues the IOMMU parameters only if the first one did
  rintro ⟨hc, hk⟩
  exact mem_onNodeStateChange_desiredKernelParams.2
    (mem_addVfioDesiredKernelParam_iff.2 (.inr ⟨hc, hk⟩))

end Generic.DriverStateMap
