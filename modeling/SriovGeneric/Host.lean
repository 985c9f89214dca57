import SriovGeneric.Strconv
import Mathlib.Data.List.Nodup

/-!
# The host part of `Apply`, and runs

After its drivers, `Apply` of either version computes the PFs to skip outside the chroot (the
lookup needs tools that only exist in the daemon's file system), enters `chroot /host` unless the
plugin runs on the host itself, and calls `SyncNodeState`; the chroot's deferred `exit()` runs on
the way out.  `syncHost` models that part once for both versions, from the outcomes of its outside
calls in an `ApplyEnv`.  It returns the error of its first failed call, after which it makes no
call but the exit of the chroot it entered when `SyncNodeState` failed
(`endsAtFirstFailure_syncHost`).

A run is a list of events, each an entry point called with the outcomes of its outside calls;
`runFrom` folds a version's `step` over it and collects the outside calls of the whole run.
`runFrom_induction` is the induction every invariant of a run goes through, and
`runFrom_induction_events` the one for facts that also read the run's events.  `scriptRuns` and
`acceptedRuns` count the setter's runs for one parameter in a log, all of them or those that
`trySetKernelParam` accepted.
-/

namespace Generic

/-- What the outside calls of one `Apply` return. -/
structure ApplyEnv where
  loadKernelModule : String → Option String
  getPfsToSkip : List String × Option String
  chroot : Option String
  syncNodeState : Option String

/-- How the host part of `Apply` ended. -/
inductive HostSync
  /-- `GetPfsToSkip` or the chroot failed with this error; `SyncNodeState` was not called. -/
  | failed (err : Error)
  /-- `SyncNodeState` failed with this error text. -/
  | syncFailed (msg : String)
  | synced
  deriving DecidableEq, Repr

/-- `p.LastState != nil && reflect.DeepEqual(p.LastState.Spec.Interfaces,
p.DesireState.Spec.Interfaces)`: the short cut of `Apply`.  `DeepEqual` also compares the fields of
an interface that `Interface` leaves out, and tells a nil list from an empty one; equality here is
implied by it, so this short cut is taken whenever Go's is, and also where the two differ only
there. -/
def nothingToApply (lastState : Option SriovNetworkNodeState) (desired : SriovNetworkNodeState) :
    Bool :=
  match lastState with
  | some last => last.spec.interfaces = desired.spec.interfaces
  | none => false

/-- The `HostSync` of a host part that got as far as `SyncNodeState`, from its error. -/
def HostSync.ofSync : Option String → HostSync
  | some msg => .syncFailed msg
  | none => .synced

/-- The host part of `Apply` for the desired state `desired`. -/
def syncHost (env : ApplyEnv) (runningOnHost : Bool) (desired : SriovNetworkNodeState) :
    HostSync × List Call :=
  let got := Call.getPfsToSkip desired env.getPfsToSkip
  match env.getPfsToSkip.2 with
  | some e => (.failed (.text e), [got])
  | none =>
    let sync := Call.syncNodeState desired env.getPfsToSkip.1 env.syncNodeState
    if runningOnHost then (.ofSync env.syncNodeState, [got, sync])
    else
      match env.chroot with
      | some e => (.failed (.text e), [got, .chroot "/host" (some e)])
      | none => (.ofSync env.syncNodeState, [got, .chroot "/host" none, sync, .exitChroot])

/-! ## What the calls of a run say -/

/-- A call of `HostManager.LoadKernelModule`. -/
def Call.IsLoad : Call → Prop
  | .loadKernelModule .. => True
  | _ => False

@[simp] theorem Call.isLoad_loadKernelModule (name : String) (err : Option String) :
    (Call.loadKernelModule name err).IsLoad :=
  trivial

/-- A call of `utils.SyncNodeState`. -/
def Call.IsSync : Call → Prop
  | .syncNodeState .. => True
  | _ => False

/-- The desired state of a successful `SyncNodeState` call. -/
def Call.synced : Call → Option SriovNetworkNodeState
  | .syncNodeState d _ none => some d
  | _ => none

/-- A `SyncNodeState` call: its desired state, PFs to skip and error. -/
def Call.sync : Call → Option (SriovNetworkNodeState × List String × Option String)
  | .syncNodeState d pfs err => some (d, pfs, err)
  | _ => none

/-- The desired state of the last successful `SyncNodeState` call of a log. -/
def lastSynced : List Call → Option SriovNetworkNodeState
  | [] => none
  | call :: log => (lastSynced log).or call.synced

/-- The last `SyncNodeState` call of a log. -/
def lastSyncCall : List Call → Option (SriovNetworkNodeState × List String × Option String)
  | [] => none
  | call :: log => (lastSyncCall log).or call.sync

/-- A call `OnNodeStateChange` makes: the kernel command line, the script or the switchdev file. -/
def Call.OfNodeState : Call → Prop
  | .isKernelCmdLineParamSet .. => True
  | .enableKargs .. => True
  | .writeSwitchdevConfFile .. => True
  | _ => False

/-- A call of a kernel-parameter pass: the kernel command line or the script. -/
def Call.OfPass : Call → Prop
  | .isKernelCmdLineParamSet .. => True
  | .enableKargs .. => True
  | _ => False

theorem Call.OfPass.ofNodeState {call : Call} (h : call.OfPass) : call.OfNodeState := by
  cases call <;> trivial

theorem Call.OfNodeState.not_isLoad {call : Call} (h : call.OfNodeState) : ¬ call.IsLoad := by
  cases call <;> first | exact id | cases h

/-- A call of the host part of `Apply`: `GetPfsToSkip`, the chroot and its exit, `SyncNodeState`. -/
def Call.OfHost : Call → Prop
  | .getPfsToSkip .. => True
  | .chroot .. => True
  | .exitChroot => True
  | .syncNodeState .. => True
  | _ => False

theorem Call.OfHost.not_isLoad {call : Call} (h : call.OfHost) : ¬ call.IsLoad := by
  cases call <;> first | exact id | cases h

theorem Call.IsLoad.not_isSync {call : Call} (h : call.IsLoad) : ¬ call.IsSync := by
  cases call <;> first | exact id | cases h

/-- A log with a successful `SyncNodeState` call has a `SyncNodeState` call. -/
theorem exists_isSync_of_lastSynced {log : List Call} {d : SriovNetworkNodeState}
    (h : lastSynced log = some d) : ∃ call ∈ log, call.IsSync := by
  induction log generalizing d with
  | nil => simp [lastSynced] at h
  | cons call log ih =>
    rw [lastSynced] at h
    cases hl : lastSynced log with
    | some _ => obtain ⟨c, hc, hs⟩ := ih hl; exact ⟨c, List.mem_cons_of_mem _ hc, hs⟩
    | none =>
      rw [hl, Option.none_or] at h
      refine ⟨call, List.mem_cons_self _ _, ?_⟩
      cases call <;> trivial

/-- A log of loads and calls of `OnNodeStateChange` made no successful `SyncNodeState` call. -/
theorem lastSynced_eq_none {log : List Call} (h : ∀ call ∈ log, call.IsLoad ∨ call.OfNodeState) :
    lastSynced log = none := by
  induction log with
  | nil => rfl
  | cons call log ih =>
    have hc := h call (List.mem_cons_self _ _)
    rw [lastSynced, ih fun c hc => h c (List.mem_cons_of_mem _ hc)]
    cases call <;> first | rfl | (rcases hc with hc | hc <;> cases hc)

/-- How many times a log ran the kernel-argument script for `kparam`. -/
def scriptRuns (kparam : String) (log : List Call) : Nat :=
  log.countP fun
    | .enableKargs k _ => k = kparam
    | _ => false

@[simp] theorem scriptRuns_nil (k : String) : scriptRuns k [] = 0 := rfl

theorem scriptRuns_append (k : String) (l₁ l₂ : List Call) :
    scriptRuns k (l₁ ++ l₂) = scriptRuns k l₁ + scriptRuns k l₂ :=
  List.countP_append _ _ _

theorem scriptRuns_cons (k : String) (call : Call) (log : List Call) :
    scriptRuns k (call :: log) =
      scriptRuns k log + match call with
        | .enableKargs k' _ => if k' = k then 1 else 0
        | _ => 0 := by
  unfold scriptRuns
  rw [List.countP_cons]
  cases call <;> simp only [decide_eq_true_eq, Bool.false_eq_true, ↓reduceIte]

@[simp] theorem scriptRuns_isKernelCmdLineParamSet (k kparam : String) (result : Bool × Option String)
    (log : List Call) : scriptRuns k (.isKernelCmdLineParamSet kparam result :: log) = scriptRuns k log :=
  scriptRuns_cons _ _ _

@[simp] theorem scriptRuns_enableKargs (k kparam : String) (run : CmdResult) (log : List Call) :
    scriptRuns k (.enableKargs kparam run :: log) = scriptRuns k log + if kparam = k then 1 else 0 :=
  scriptRuns_cons _ _ _

/-- Loads and calls of the host part run no script. -/
theorem scriptRuns_eq_zero {k : String} {log : List Call}
    (h : ∀ call ∈ log, call.IsLoad ∨ call.OfHost) : scriptRuns k log = 0 := by
  refine List.countP_eq_zero.2 fun call hc => ?_
  have := h call hc
  cases call <;> first | exact Bool.false_ne_true | (rcases this with h | h <;> cases h)

/-- How many runs of the kernel-argument script for `kparam` in a log `trySetKernelParam` accepted,
returning no error: the runs after which the `DriverStateMap` version counts an attempt. -/
def acceptedRuns (kparam : String) (log : List Call) : Nat :=
  log.countP fun
    | .enableKargs k run => k = kparam && (trySetKernelParam run).2.isNone
    | _ => false

@[simp] theorem acceptedRuns_nil (k : String) : acceptedRuns k [] = 0 := rfl

theorem acceptedRuns_append (k : String) (l₁ l₂ : List Call) :
    acceptedRuns k (l₁ ++ l₂) = acceptedRuns k l₁ + acceptedRuns k l₂ :=
  List.countP_append _ _ _

@[simp] theorem acceptedRuns_isKernelCmdLineParamSet (k kparam : String)
    (result : Bool × Option String) (log : List Call) :
    acceptedRuns k (.isKernelCmdLineParamSet kparam result :: log) = acceptedRuns k log :=
  List.countP_cons_of_neg _ _ Bool.false_ne_true

@[simp] theorem acceptedRuns_enableKargs (k kparam : String) (run : CmdResult) (log : List Call) :
    acceptedRuns k (.enableKargs kparam run :: log) =
      acceptedRuns k log + if kparam = k ∧ (trySetKernelParam run).2 = none then 1 else 0 := by
  unfold acceptedRuns
  rw [List.countP_cons]
  simp only [Bool.and_eq_true, decide_eq_true_eq, Option.isNone_iff_eq_none]

/-- A log with no script runs for `k` has no accepted one. -/
theorem acceptedRuns_eq_zero {k : String} {log : List Call} (h : scriptRuns k log = 0) :
    acceptedRuns k log = 0 := by
  refine List.countP_eq_zero.2 fun call hc => ?_
  have := List.countP_eq_zero.1 h call hc
  cases call <;> simp_all

/-- No `LoadKernelModule` call of a module follows a successful one. -/
def NoLoadAfterSuccess (log : List Call) : Prop :=
  ∀ name pre post, log = pre ++ .loadKernelModule name none :: post →
    ∀ err, .loadKernelModule name err ∉ post

/-- Two logs without a load after a success, the second loading no module the first loaded. -/
theorem NoLoadAfterSuccess.append {l₁ l₂ : List Call} (h₁ : NoLoadAfterSuccess l₁)
    (h₂ : NoLoadAfterSuccess l₂)
    (h : ∀ name, .loadKernelModule name none ∈ l₁ → ∀ err, .loadKernelModule name err ∉ l₂) :
    NoLoadAfterSuccess (l₁ ++ l₂) := by
  intro name pre post heq err hmem
  rcases List.append_eq_append_iff.1 heq with ⟨a, rfl, hl₂⟩ | ⟨c', hl₁, hpost⟩
  · exact h₂ name a post hl₂ err hmem
  · cases c' with
    | nil => exact h₂ name [] post (by simpa using hpost.symm) err hmem
    | cons x c'' =>
      obtain ⟨rfl, rfl⟩ := List.cons_eq_cons.1 hpost
      rcases List.mem_append.1 hmem with hc | hc
      · exact h₁ name pre c'' (by simpa using hl₁) err hc
      · exact h name (hl₁ ▸ List.mem_append_right _ (List.mem_cons_self _ _)) err hc

/-- The modules a log loads, in order. -/
def loadNames (log : List Call) : List String :=
  log.filterMap fun
    | .loadKernelModule name _ => some name
    | _ => none

theorem loadNames_append (l₁ l₂ : List Call) :
    loadNames (l₁ ++ l₂) = loadNames l₁ ++ loadNames l₂ :=
  List.filterMap_append _ _ _

theorem mem_loadNames {name : String} {log : List Call} :
    name ∈ loadNames log ↔ ∃ err, .loadKernelModule name err ∈ log := by
  simp only [loadNames, List.mem_filterMap]
  constructor
  · rintro ⟨call, hc, h⟩
    cases call <;> simp only [reduceCtorEq, Option.some.injEq] at h
    exact ⟨_, h ▸ hc⟩
  · rintro ⟨err, h⟩
    exact ⟨_, h, rfl⟩

theorem loadNames_eq_nil {log : List Call} (h : ∀ call ∈ log, ¬ call.IsLoad) :
    loadNames log = [] := by
  refine List.filterMap_eq_nil_iff.2 fun call hc => ?_
  have := h call hc
  cases call <;> first | rfl | exact absurd trivial this

/-- A log that loads every module at most once loads none after a success. -/
theorem NoLoadAfterSuccess.of_nodup {log : List Call} (h : (loadNames log).Nodup) :
    NoLoadAfterSuccess log := by
  rintro name pre post rfl err hmem
  simp only [loadNames, List.filterMap_append, List.filterMap_cons] at h
  have hname : name ∈ post.filterMap fun
      | .loadKernelModule name _ => some name
      | _ => none := List.mem_filterMap.2 ⟨_, hmem, rfl⟩
  exact (List.nodup_cons.1 h.of_append_right).1 hname

theorem lastSynced_append (l₁ l₂ : List Call) :
    lastSynced (l₁ ++ l₂) = (lastSynced l₂).or (lastSynced l₁) := by
  induction l₁ with
  | nil => simp [lastSynced]
  | cons call l₁ ih => simp [lastSynced, ih, Option.or_assoc]

/-! ## The host part -/

section
variable (env : ApplyEnv) (runningOnHost : Bool) (desired : SriovNetworkNodeState)

/-- The host part's last successful `SyncNodeState` call is for the desired state, and there is
one exactly when it ends `synced`. -/
theorem lastSynced_syncHost :
    lastSynced (syncHost env runningOnHost desired).2 =
      if (syncHost env runningOnHost desired).1 = .synced then some desired else none := by
  obtain ⟨load, ⟨pfs, _ | e⟩, chr, sync⟩ := env
  · cases runningOnHost
    · cases chr
      · cases sync <;> rfl
      · rfl
    · cases sync <;> rfl
  · rfl

theorem syncHost_ofHost : ∀ call ∈ (syncHost env runningOnHost desired).2, call.OfHost := by
  intro call h
  obtain ⟨load, ⟨pfs, _ | e⟩, chr, sync⟩ := env <;> cases runningOnHost <;> cases chr <;>
    simp only [syncHost, Bool.false_eq_true, ↓reduceIte, List.mem_cons, List.mem_singleton,
      List.not_mem_nil, or_false] at h <;>
    rcases h with rfl | rfl | rfl | rfl <;> trivial

/-- The host part makes a failing `SyncNodeState` call exactly when it ends with its message. -/
theorem syncFailed_mem_syncHost {msg : String} :
    (∃ d pfs, .syncNodeState d pfs (some msg) ∈ (syncHost env runningOnHost desired).2) ↔
      (syncHost env runningOnHost desired).1 = .syncFailed msg := by
  obtain ⟨load, ⟨pfs, _ | e⟩, chr, sync⟩ := env <;> cases runningOnHost <;> cases chr <;>
    cases sync <;>
    simp only [syncHost, Bool.false_eq_true, ↓reduceIte, List.mem_cons, List.not_mem_nil,
      or_false, HostSync.ofSync, reduceCtorEq, false_or, exists_false, Call.syncNodeState.injEq,
      HostSync.syncFailed.injEq, and_false, Option.some.injEq, exists_and_left, exists_eq', true_and,
      eq_comm, exists_eq_left']

end

/-! ## Failing fast

Every outside call of `Apply` can fail, and `Apply` returns the first error it gets without making
another call, save the deferred `exit()` of a chroot it entered.  `EndsAtFirstFailure ret log` says
so of a part of `Apply` that returned `ret` after the calls `log`; it carries over a prefix of
calls that all succeeded (`EndsAtFirstFailure.append`), so each version's `Apply` is assembled from
its driver loads and `endsAtFirstFailure_syncHost`.
-/

/-- The error text an outside call of `Apply` returned; `none` for nil, and for the calls `Apply`
does not make. -/
def Call.applyError : Call → Option String
  | .loadKernelModule _ err => err
  | .getPfsToSkip _ result => result.2
  | .chroot _ err => err
  | .syncNodeState _ _ err => err
  | _ => none

/-- The first call of `log` that failed: the calls before it, the call, its error text and the
calls after it. -/
def firstFailure : List Call → Option (List Call × Call × String × List Call)
  | [] => none
  | call :: log =>
    match call.applyError with
    | some msg => some ([], call, msg, log)
    | none => (firstFailure log).map (Prod.map (call :: ·) id)

/-- A part of `Apply` that returned `ret` after the calls `log` stopped at its first failed call:
it returned that call's error, nil when no call failed, and made no call after it, but for the
deferred exit of a chroot it entered when the failed call is `SyncNodeState`. -/
def EndsAtFirstFailure (ret : Option Error) (log : List Call) : Prop :=
  match firstFailure log with
  | none => ret = none
  | some (before, failed, msg, after) => ret = some (.text msg) ∧
    (after = [] ∨ failed.IsSync ∧ .chroot "/host" none ∈ before ∧ after = [.exitChroot])

/-- The error the host part ends `Apply` with. -/
def HostSync.err : HostSync → Option Error
  | .failed e => some e
  | .syncFailed msg => some (.text msg)
  | .synced => none

theorem endsAtFirstFailure_none {log : List Call} :
    EndsAtFirstFailure none log ↔ firstFailure log = none := by
  unfold EndsAtFirstFailure
  split <;> simp_all

theorem firstFailure_cons_of_ok {call : Call} (h : call.applyError = none) (log : List Call) :
    firstFailure (call :: log) = (firstFailure log).map (Prod.map (call :: ·) id) := by
  simp [firstFailure, h]

theorem firstFailure_append {l₁ : List Call} (h : firstFailure l₁ = none) (l₂ : List Call) :
    firstFailure (l₁ ++ l₂) = (firstFailure l₂).map (Prod.map (l₁ ++ ·) id) := by
  induction l₁ with
  | nil => rw [List.nil_append]; cases firstFailure l₂ <;> rfl
  | cons call l₁ ih =>
    cases hc : call.applyError with
    | none =>
      rw [firstFailure_cons_of_ok hc, Option.map_eq_none'] at h
      rw [List.cons_append, firstFailure_cons_of_ok hc, ih h, Option.map_map]
      rfl
    | some msg => simp [firstFailure, hc] at h

/-- Calls that all succeeded, then a part that stopped at its first failure. -/
theorem EndsAtFirstFailure.append {ret : Option Error} {l₁ l₂ : List Call}
    (h₁ : EndsAtFirstFailure none l₁) (h₂ : EndsAtFirstFailure ret l₂) :
    EndsAtFirstFailure ret (l₁ ++ l₂) := by
  unfold EndsAtFirstFailure at h₂ ⊢
  rw [firstFailure_append (endsAtFirstFailure_none.1 h₁)]
  match firstFailure l₂, h₂ with
  | none, h₂ => exact h₂
  | some (before, failed, msg, after), ⟨hret, hafter⟩ =>
    exact ⟨hret, hafter.imp_right fun ⟨hs, hc, ha⟩ => ⟨hs, List.mem_append_right _ hc, ha⟩⟩

section
variable {σ ε : Type} (step : σ → ε → σ × List Call)

/-- The state after the events of a run from `p`, and every outside call of the run in order. -/
def runFrom (p : σ) : List ε → σ × List Call
  | [] => (p, [])
  | e :: events =>
    let (p₁, l₁) := step p e
    let (p₂, l₂) := runFrom p₁ events
    (p₂, l₁ ++ l₂)

theorem runFrom_cons (p : σ) (e : ε) (events : List ε) :
    runFrom step p (e :: events) =
      ((runFrom step (step p e).1 events).1, (step p e).2 ++ (runFrom step (step p e).1 events).2) :=
  rfl

/-- An invariant of states and logs that every step keeps holds after every run. -/
theorem runFrom_induction (P : σ → List Call → Prop) {p : σ} {log : List Call} (h₀ : P p log)
    (hstep : ∀ s log e, P s log → P (step s e).1 (log ++ (step s e).2)) (events : List ε) :
    P (runFrom step p events).1 (log ++ (runFrom step p events).2) := by
  induction events generalizing p log with
  | nil => simpa [runFrom] using h₀
  | cons e events ih => simpa [runFrom] using ih (hstep p log e h₀)

/-- An invariant of states, the events so far and the calls so far that every step keeps holds
after every run. -/
theorem runFrom_induction_events (P : σ → List ε → List Call → Prop) {p : σ} (h₀ : P p [] [])
    (hstep : ∀ s evs log e, P s evs log → P (step s e).1 (evs ++ [e]) (log ++ (step s e).2))
    (events : List ε) : P (runFrom step p events).1 events (runFrom step p events).2 := by
  suffices ∀ p pre log, P p pre log →
      P (runFrom step p events).1 (pre ++ events) (log ++ (runFrom step p events).2) by
    simpa using this p [] [] h₀
  induction events with
  | nil => simp [runFrom]
  | cons e events ih =>
    intro p pre log h
    simpa [runFrom] using ih _ _ _ (hstep p pre log e h)

/-- The last value a run's events carry, one event later. -/
theorem getLast?_filterMap_append_singleton {α β : Type} (f : α → Option β) (l : List α) (a : α) :
    ((l ++ [a]).filterMap f).getLast? = (f a).or (l.filterMap f).getLast? := by
  rw [List.filterMap_append, List.getLast?_append]
  cases h : f a <;> simp [h]

/-- A property of states that every event of a kind keeps holds after every run of such events. -/
theorem runFrom_induction_of_forall (P : σ → Prop) (E : ε → Prop) {p : σ} (h₀ : P p)
    (hstep : ∀ s e, E e → P s → P (step s e).1) {events : List ε} (hE : ∀ e ∈ events, E e) :
    P (runFrom step p events).1 := by
  induction events generalizing p with
  | nil => exact h₀
  | cons e events ih =>
    rw [List.forall_mem_cons] at hE
    simpa [runFrom] using ih (hstep p e hE.1 h₀) hE.2

end

end Generic
