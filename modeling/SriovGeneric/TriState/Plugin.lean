import SriovGeneric.Host
import SriovGeneric.KernelParams
import SriovGeneric.DrainNode

/-!
# The tri-state generic plugin

The version of `generic_plugin.go` under `src/pkg/plugins/generic/`.  Two drivers are tracked by a
status each (`LoadVfioDriver`, `LoadVirtioVdpaDriver`): `OnNodeStateChange` marks a needed driver
that is not loaded `loading` (and queues the two IOMMU kernel parameters for VFIO), `Apply` loads
the drivers marked `loading` before anything else.  `SetAllDesiredKernelParams` gives up on a
parameter after four attempts and ignores the errors of the setter.

`needRebootNode` combines its signals as `needReboot || update || p.SetAllDesiredKernelParams()`:
Go's `||` evaluates its right side only when the left is false, so the kernel-parameter pass does
not run at all when the switchdev file changed.  `needRebootNode` keeps that order.

A run is a list of `Event`s from `newGenericPlugin`; `run` collects its outside calls.
-/

namespace Generic.TriState

/-- `unloaded`, `loading`, `loaded`: the `iota` constants `LoadVfioDriver` and
`LoadVirtioVdpaDriver` take. -/
inductive LoadState
  | unloaded
  | loading
  | loaded
  deriving DecidableEq, Repr

/-- The value of the constant. -/
def LoadState.toNat : LoadState → Nat
  | .unloaded => 0
  | .loading => 1
  | .loaded => 2

/-- `GenericPlugin`, with the fields the modelled functions read or write. -/
structure GenericPlugin where
  desireState : Option SriovNetworkNodeState
  lastState : Option SriovNetworkNodeState
  loadVfioDriver : LoadState
  loadVirtioVdpaDriver : LoadState
  desiredKernelParams : KernelParams
  runningOnHost : Bool

/-- `NewGenericPlugin(runningOnHost)`. -/
def newGenericPlugin (runningOnHost : Bool) : GenericPlugin where
  desireState := none
  lastState := none
  loadVfioDriver := .unloaded
  loadVirtioVdpaDriver := .unloaded
  desiredKernelParams := ∅
  runningOnHost := runningOnHost

/-- What the outside calls of one `OnNodeStateChange` return; this version's
`IsKernelCmdLineParamSet` has no error. -/
structure NodeStateEnv where
  isKernelCmdLineParamSet : String → Bool
  enableKargs : String → CmdResult
  writeSwitchdevConfFile : Bool × Option String
  paramOrder : RangeOrder KernelParam

variable (c : Consts)

/-- `needVfioDriver`. -/
def needVfioDriver (state : SriovNetworkNodeState) : Bool :=
  anyVfGroup state (·.deviceType = c.deviceTypeVfioPci)

/-- `needVirtioVdpaDriver`. -/
def needVirtioVdpaDriver (state : SriovNetworkNodeState) : Bool :=
  anyVfGroup state (·.vdpaType = c.vdpaTypeVirtio)

/-! ## `OnNodeStateChange` -/

/-- The loop of `SetAllDesiredKernelParams` over the entries left to visit, from the ledger and
the reboot flag so far. -/
def setAllLoop (env : NodeStateEnv) :
    List KernelParam → KernelParams → Bool → Outcome KernelParams Bool
  | [], m, needReboot => ⟨needReboot, m, []⟩
  | ⟨kparam, attempts⟩ :: rest, m, needReboot =>
    let set := env.isKernelCmdLineParamSet kparam
    let checked := Call.isKernelCmdLineParamSet kparam (set, none)
    if set then (setAllLoop env rest m needReboot).after [checked]
    else if attempts > 4 then (setAllLoop env rest m needReboot).after [checked]
    else
      let run := env.enableKargs kparam
      (setAllLoop env rest (incrementAttempts kparam m)
        (needReboot || (trySetKernelParam run).1)).after [checked, .enableKargs kparam run]

/-- `SetAllDesiredKernelParams`. -/
def setAllDesiredKernelParams (env : NodeStateEnv) (m : KernelParams) : Outcome KernelParams Bool :=
  setAllLoop env (env.paramOrder.arrange m.entries) m false

/-- The drivers of `needRebootNode`: each needed driver not loaded is marked `loading`, and VFIO
queues the two IOMMU kernel parameters. -/
def requestDrivers (state : SriovNetworkNodeState) (p : GenericPlugin) : GenericPlugin :=
  let p := if p.loadVfioDriver ≠ .loaded ∧ needVfioDriver c state then
      { p with
        loadVfioDriver := .loading
        desiredKernelParams := addToDesiredKernelParams c.kernelParamIommuPt
          (addToDesiredKernelParams c.kernelParamIntelIommu p.desiredKernelParams) }
    else p
  if p.loadVirtioVdpaDriver ≠ .loaded ∧ needVirtioVdpaDriver c state then
    { p with loadVirtioVdpaDriver := .loading }
  else p

/-- `needRebootNode(state)`. -/
def needRebootNode (env : NodeStateEnv) (state : SriovNetworkNodeState) (p : GenericPlugin) :
    Outcome GenericPlugin Bool :=
  let p := requestDrivers c state p
  let written := Call.writeSwitchdevConfFile state env.writeSwitchdevConfFile
  if env.writeSwitchdevConfFile.1 then ⟨true, p, [written]⟩
  else
    let pass := setAllDesiredKernelParams env p.desiredKernelParams
    ⟨pass.ret, { p with desiredKernelParams := pass.state }, written :: pass.calls⟩

/-- `OnNodeStateChange(new)`: `(needDrain, needReboot, err)`. -/
def onNodeStateChange (p : GenericPlugin) (new : SriovNetworkNodeState) (env : NodeStateEnv) :
    Outcome GenericPlugin (Bool × Bool × Option Error) :=
  let needDrain := needDrainNode c new.spec.interfaces new.status.interfaces
  let o := needRebootNode c env new { p with desireState := some new }
  ⟨(needDrain || o.ret, o.ret, none), o.state, o.calls⟩

/-! ## `Apply` -/

/-- One `if p.LoadXDriver == loading` block of `Apply`: load the module of a driver marked
`loading`; the status after it, or the error that ends `Apply`. -/
def loadIfLoading (env : ApplyEnv) (name : String) (st : LoadState) :
    Except Error LoadState × List Call :=
  if st = .loading then
    match env.loadKernelModule name with
    | some e => (.error (.text e), [.loadKernelModule name (some e)])
    | none => (.ok .loaded, [.loadKernelModule name none])
  else (.ok st, [])

/-- `Apply` once the drivers are loaded: nothing to do when the interfaces are the ones last
applied, else the host part, which records the desired state as applied when it syncs. -/
def applyInterfaces (env : ApplyEnv) (desired : SriovNetworkNodeState) (p : GenericPlugin) :
    Outcome GenericPlugin ApplyResult :=
  if nothingToApply p.lastState desired then ⟨.returned none, p, []⟩
  else
    let host := syncHost env p.runningOnHost desired
    match host.1 with
    | .failed e => ⟨.returned (some e), p, host.2⟩
    | .syncFailed msg => ⟨.returned (some (.text msg)), p, host.2⟩
    | .synced => ⟨.returned none, { p with lastState := some desired }, host.2⟩

/-- The two load blocks of `Apply`, VFIO first: the error that ends `Apply`, if any. -/
def loadDrivers (env : ApplyEnv) (p : GenericPlugin) : Outcome GenericPlugin (Option Error) :=
  match loadIfLoading env "vfio_pci" p.loadVfioDriver with
  | (.error e, l₁) => ⟨some e, p, l₁⟩
  | (.ok vfio, l₁) =>
    let p := { p with loadVfioDriver := vfio }
    match loadIfLoading env "virtio_vdpa" p.loadVirtioVdpaDriver with
    | (.error e, l₂) => ⟨some e, p, l₁ ++ l₂⟩
    | (.ok virtio, l₂) => ⟨none, { p with loadVirtioVdpaDriver := virtio }, l₁ ++ l₂⟩

/-- `Apply()`. -/
def apply (env : ApplyEnv) (p : GenericPlugin) : Outcome GenericPlugin ApplyResult :=
  match p.desireState with
  | none => ⟨.panicked, p, []⟩
  | some desired =>
    let loads := loadDrivers env p
    match loads.ret with
    | some e => ⟨.returned (some e), loads.state, loads.calls⟩
    | none => (applyInterfaces env desired loads.state).after loads.calls

/-! ## Runs -/

/-- A call of an entry point, with the outcomes of the outside calls it makes. -/
inductive Event
  | onNodeStateChange (new : SriovNetworkNodeState) (env : NodeStateEnv)
  | apply (env : ApplyEnv)

/-- The desired state an event hands the plugin: that of an `OnNodeStateChange`. -/
def Event.requested : Event → Option SriovNetworkNodeState
  | .onNodeStateChange new _ => some new
  | .apply .. => none

/-- The plugin after one event, and the outside calls the event made. -/
def step (p : GenericPlugin) : Event → GenericPlugin × List Call
  | .onNodeStateChange new env =>
    let o := onNodeStateChange c p new env
    (o.state, o.calls)
  | .apply env =>
    let o := apply env p
    (o.state, o.calls)

/-- The plugin after a run of events from `p`, and the outside calls of the run. -/
def run (p : GenericPlugin) (events : List Event) : GenericPlugin × List Call :=
  runFrom (step c) p events

end Generic.TriState
