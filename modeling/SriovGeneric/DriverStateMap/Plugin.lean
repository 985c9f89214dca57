import SriovGeneric.Host
import SriovGeneric.KernelParams
import SriovGeneric.DrainNode

/-!
# The `DriverStateMap` generic plugin

The version of `generic_plugin.go` in `src/unnamed/part_000`.  Three drivers (`Vfio`, `VirtioVdpa`,
`VhostVdpa`) sit in a `DriverStateMap`, each with its module name, the device or vDPA type it
serves, the check that says whether a state needs it, and a `DriverLoaded` flag.
`OnNodeStateChange` queues the IOMMU kernel parameters when VFIO is needed and not loaded, and runs
`syncDesiredKernelParams`, which stops at the first error of the kernel command line check or of the
setter and then reports no reboot.  `Apply` takes its "nothing to apply" short cut before
`syncDriverState` loads the needed drivers, and queues `pci=realloc` when `SyncNodeState` runs out
of memory.

The map's entries never change but for `DriverLoaded`, so the plugin keeps a flag per driver and
`driverStateMap` rebuilds the entry of `NewGenericPlugin` around it.  Go ranges over a map in an
order it leaves open: each loop takes the order of its call as a `RangeOrder`.
-/

namespace Generic.DriverStateMap

/-- The keys of `DriverStateMap`: `Vfio`, `VirtioVdpa`, `VhostVdpa`. -/
inductive DriverId
  | vfio
  | virtioVdpa
  | vhostVdpa
  deriving DecidableEq, Repr

/-- The keys `NewGenericPlugin` puts in the map. -/
def DriverId.all : List DriverId := [.vfio, .virtioVdpa, .vhostVdpa]

/-- `vfioPciDriver`, `virtioVdpaDriver`, `vhostVdpaDriver`: the module of each driver. -/
def DriverId.driverName : DriverId → String
  | .vfio => "vfio_pci"
  | .virtioVdpa => "virtio_vdpa"
  | .vhostVdpa => "vhost_vdpa"

/-- The `NeedDriverFunc` of a driver: `needDriverCheckDeviceType` or `needDriverCheckVdpaType`. -/
inductive NeedDriver
  | checkDeviceType
  | checkVdpaType
  deriving DecidableEq, Repr

/-- `DriverState`. -/
structure DriverState where
  driverName : String
  deviceType : String
  vdpaType : String
  needDriverFunc : NeedDriver
  driverLoaded : Bool
  deriving DecidableEq, Repr

variable (c : Consts)

/-- The entry `NewGenericPlugin` makes for a driver, with the flag given. -/
def newDriverState (driverLoaded : Bool) : DriverId → DriverState
  | .vfio => ⟨DriverId.vfio.driverName, c.deviceTypeVfioPci, "", .checkDeviceType, driverLoaded⟩
  | .virtioVdpa => ⟨DriverId.virtioVdpa.driverName, c.deviceTypeNetDevice, c.vdpaTypeVirtio,
      .checkVdpaType, driverLoaded⟩
  | .vhostVdpa => ⟨DriverId.vhostVdpa.driverName, c.deviceTypeNetDevice, c.vdpaTypeVhost,
      .checkVdpaType, driverLoaded⟩

/-- `needDriverCheckDeviceType(state, driverState)`. -/
def needDriverCheckDeviceType (state : SriovNetworkNodeState) (driverState : DriverState) : Bool :=
  anyVfGroup state (·.deviceType = driverState.deviceType)

/-- `needDriverCheckVdpaType(state, driverState)`. -/
def needDriverCheckVdpaType (state : SriovNetworkNodeState) (driverState : DriverState) : Bool :=
  anyVfGroup state (·.vdpaType = driverState.vdpaType)

/-- `driverState.NeedDriverFunc(state, driverState)`. -/
def DriverState.needDriver (driverState : DriverState) (state : SriovNetworkNodeState) : Bool :=
  match driverState.needDriverFunc with
  | .checkDeviceType => needDriverCheckDeviceType state driverState
  | .checkVdpaType => needDriverCheckVdpaType state driverState

/-- Whether `state` needs the driver `id`: its entry's `NeedDriverFunc`, which reads no flag. -/
def driverNeeded (id : DriverId) (state : SriovNetworkNodeState) : Bool :=
  (newDriverState c false id).needDriver state

/-- `GenericPlugin`, with the fields the modelled functions read or write. -/
structure GenericPlugin where
  desireState : Option SriovNetworkNodeState
  lastState : Option SriovNetworkNodeState
  driverLoaded : DriverId → Bool
  desiredKernelParams : KernelParams
  runningOnHost : Bool

/-- `p.DriverStateMap[id]`. -/
def GenericPlugin.driverStateMap (p : GenericPlugin) (id : DriverId) : DriverState :=
  newDriverState c (p.driverLoaded id) id

/-- `NewGenericPlugin(runningOnHost)`. -/
def newGenericPlugin (runningOnHost : Bool) : GenericPlugin where
  desireState := none
  lastState := none
  driverLoaded _ := false
  desiredKernelParams := ∅
  runningOnHost := runningOnHost

/-- What the outside calls of one `OnNodeStateChange` return. -/
structure NodeStateEnv where
  isKernelCmdLineParamSet : String → Bool × Option String
  enableKargs : String → CmdResult
  writeSwitchdevConfFile : Bool × Option String
  paramOrder : RangeOrder KernelParam

/-! ## `OnNodeStateChange` -/

/-- `addVfioDesiredKernelParam(state)`: the ledger after it. -/
def addVfioDesiredKernelParam (state : SriovNetworkNodeState) (p : GenericPlugin) : KernelParams :=
  let driverState := p.driverStateMap c .vfio
  if !driverState.driverLoaded && driverState.needDriver state then
    addToDesiredKernelParams c.kernelParamIommuPt
      (addToDesiredKernelParams c.kernelParamIntelIommu p.desiredKernelParams)
  else p.desiredKernelParams

/-- The loop of `syncDesiredKernelParams` over the entries left to visit, from the ledger and the
reboot flag so far: `(needReboot, err)`, the ledger, and the calls. -/
def syncLoop (env : NodeStateEnv) :
    List KernelParam → KernelParams → Bool → Outcome KernelParams (Bool × Option Error)
  | [], m, needReboot => ⟨(needReboot, none), m, []⟩
  | ⟨kparam, _⟩ :: rest, m, needReboot =>
    let checked := Call.isKernelCmdLineParamSet kparam (env.isKernelCmdLineParamSet kparam)
    match (env.isKernelCmdLineParamSet kparam).2 with
    | some e => ⟨(false, some (.text e)), m, [checked]⟩
    | none =>
      if (env.isKernelCmdLineParamSet kparam).1 then (syncLoop env rest m needReboot).after [checked]
      else
        let run := env.enableKargs kparam
        match (trySetKernelParam run).2 with
        | some e => ⟨(false, some e), m, [checked, .enableKargs kparam run]⟩
        | none =>
          (syncLoop env rest (incrementAttempts kparam m)
            (needReboot || (trySetKernelParam run).1)).after [checked, .enableKargs kparam run]

/-- `syncDesiredKernelParams()`. -/
def syncDesiredKernelParams (env : NodeStateEnv) (m : KernelParams) :
    Outcome KernelParams (Bool × Option Error) :=
  syncLoop env (env.paramOrder.arrange m.entries) m false

/-- `needRebootNode(state)`: `(needReboot, err)`. -/
def needRebootNode (env : NodeStateEnv) (state : SriovNetworkNodeState) (p : GenericPlugin) :
    Outcome GenericPlugin (Bool × Option Error) :=
  let sync := syncDesiredKernelParams env (addVfioDesiredKernelParam c state p)
  let p := { p with desiredKernelParams := sync.state }
  match sync.ret.2 with
  | some e => ⟨(false, some e), p, sync.calls⟩
  | none =>
    let written := Call.writeSwitchdevConfFile state env.writeSwitchdevConfFile
    match env.writeSwitchdevConfFile.2 with
    | some e => ⟨(false, some (.text e)), p, sync.calls ++ [written]⟩
    | none => ⟨(sync.ret.1 || env.writeSwitchdevConfFile.1, none), p, sync.calls ++ [written]⟩

/-- `OnNodeStateChange(new)`: `(needDrain, needReboot, err)`. -/
def onNodeStateChange (p : GenericPlugin) (new : SriovNetworkNodeState) (env : NodeStateEnv) :
    Outcome GenericPlugin (Bool × Bool × Option Error) :=
  let needDrain := needDrainNode c new.spec.interfaces new.status.interfaces
  let o := needRebootNode c env new { p with desireState := some new }
  ⟨(needDrain || o.ret.1, o.ret.1, o.ret.2), o.state, o.calls⟩

/-! ## `Apply` -/

/-- The loop of `syncDriverState` over the drivers left to visit, from the flags so far. -/
def syncDriverStateLoop (env : ApplyEnv) (desired : SriovNetworkNodeState) :
    List DriverId → (DriverId → Bool) → Outcome (DriverId → Bool) (Option Error)
  | [], loaded => ⟨none, loaded, []⟩
  | id :: rest, loaded =>
    let driverState := newDriverState c (loaded id) id
    if !driverState.driverLoaded && driverState.needDriver desired then
      let err := env.loadKernelModule driverState.driverName
      match err with
      | some e => ⟨some (.text e), loaded, [.loadKernelModule driverState.driverName err]⟩
      | none =>
        (syncDriverStateLoop env desired rest (Function.update loaded id true)).after
          [.loadKernelModule driverState.driverName err]
    else syncDriverStateLoop env desired rest loaded

/-- `syncDriverState()`, for the desired state `desired`. -/
def syncDriverState (env : ApplyEnv) (order : RangeOrder DriverId) (desired : SriovNetworkNodeState)
    (p : GenericPlugin) : Outcome GenericPlugin (Option Error) :=
  let o := syncDriverStateLoop c env desired (order.arrange DriverId.all) p.driverLoaded
  ⟨o.ret, { p with driverLoaded := o.state }, o.calls⟩

/-- The host part of `Apply`: on a failed `SyncNodeState` that ran out of memory, `pci=realloc`
is queued. -/
def applyHost (env : ApplyEnv) (desired : SriovNetworkNodeState) (p : GenericPlugin) :
    Outcome GenericPlugin ApplyResult :=
  let host := syncHost env p.runningOnHost desired
  match host.1 with
  | .failed e => ⟨.returned (some e), p, host.2⟩
  | .syncFailed msg =>
    let p := if contains msg "cannot allocate memory" then
        { p with desiredKernelParams :=
            addToDesiredKernelParams c.kernelParamPciRealloc p.desiredKernelParams }
      else p
    ⟨.returned (some (.text msg)), p, host.2⟩
  | .synced => ⟨.returned none, { p with lastState := some desired }, host.2⟩

/-- `Apply()`. -/
def apply (env : ApplyEnv) (order : RangeOrder DriverId) (p : GenericPlugin) :
    Outcome GenericPlugin ApplyResult :=
  match p.desireState with
  | none => ⟨.panicked, p, []⟩
  | some desired =>
    if nothingToApply p.lastState desired then ⟨.returned none, p, []⟩
    else
      let loads := syncDriverState c env order desired p
      match loads.ret with
      | some e => ⟨.returned (some e), loads.state, loads.calls⟩
      | none => (applyHost c env desired loads.state).after loads.calls

/-! ## Test helpers -/

/-- The loop of `loadDriverForTests` over the drivers left to visit, from the flags so far. -/
def loadDriverForTestsLoop (state : SriovNetworkNodeState) :
    List DriverId → (DriverId → Bool) → DriverId → Bool
  | [], loaded => loaded
  | id :: rest, loaded =>
    let driverState := newDriverState c (loaded id) id
    if !driverState.driverLoaded && driverState.needDriver state then
      loadDriverForTestsLoop state rest (Function.update loaded id true)
    else loadDriverForTestsLoop state rest loaded

/-- `loadDriverForTests(state)`, the helper the tests use in place of `syncDriverState`. -/
def loadDriverForTests (order : RangeOrder DriverId) (state : SriovNetworkNodeState)
    (p : GenericPlugin) : GenericPlugin :=
  { p with driverLoaded := loadDriverForTestsLoop c state (order.arrange DriverId.all) p.driverLoaded }

/-! ## Runs -/

/-- A call of an entry point, with the outcomes of the outside calls it makes. -/
inductive Event
  | onNodeStateChange (new : SriovNetworkNodeState) (env : NodeStateEnv)
  | apply (env : ApplyEnv) (order : RangeOrder DriverId)

/-- The desired state an event hands the plugin: that of an `OnNodeStateChange`. -/
def Event.requested : Event → Option SriovNetworkNodeState
  | .onNodeStateChange new _ => some new
  | .apply .. => none

/-- The plugin after one event, and the outside calls the event made. -/
def step (p : GenericPlugin) : Event → GenericPlugin × List Call
  | .onNodeStateChange new env =>
    let o := onNodeStateChange c p new env
    (o.state, o.calls)
  | .apply env order =>
    let o := apply c env order p
    (o.state, o.calls)

/-- The plugin after a run of events from `p`, and the outside calls of the run. -/
def run (p : GenericPlugin) (events : List Event) : GenericPlugin × List Call :=
  runFrom (step c) p events

end Generic.DriverStateMap
