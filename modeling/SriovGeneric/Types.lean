import Mathlib.Data.List.Perm.Basic

/-!
# The data of the generic plugin

`SriovNetworkNodeState` with the fields of the `sriovnetworkv1` API the plugin reads; `Consts`, the
constants and the `NeedUpdate` predicate it takes from `pkg/consts` and `pkg/utils`, whose
declarations are not part of this source (every result holds for all of them); the Go `error`
values it returns; and `Call`, one call to a collaborator outside this source together with what
that call returned.  Each entry point of the plugin is modelled as a function to an `Outcome`: its
return value, the plugin after it, and the outside calls it made, in order.

Both versions of `generic_plugin.go` (the one with `LoadVfioDriver` and the one with
`DriverStateMap`) are modelled over these types.
-/

namespace Generic

/-! ## The node state -/

/-- A group of virtual functions of a desired interface (`sriovnetworkv1.VfGroup`). -/
structure VfGroup where
  deviceType : String
  vdpaType : String
  deriving DecidableEq, Repr

/-- A desired interface (`sriovnetworkv1.Interface`), keyed by its PCI address. -/
structure Interface where
  pciAddress : String
  numVfs : Int
  vfGroups : List VfGroup
  deriving DecidableEq, Repr

/-- An observed interface (`sriovnetworkv1.InterfaceExt`). -/
structure InterfaceExt where
  pciAddress : String
  numVfs : Int
  deriving DecidableEq, Repr

structure SriovNetworkNodeStateSpec where
  interfaces : List Interface
  deriving DecidableEq, Repr

structure SriovNetworkNodeStateStatus where
  interfaces : List InterfaceExt
  deriving DecidableEq, Repr

/-- `sriovnetworkv1.SriovNetworkNodeState`: desired interfaces in `spec`, observed ones in `status`. -/
structure SriovNetworkNodeState where
  spec : SriovNetworkNodeStateSpec
  status : SriovNetworkNodeStateStatus
  deriving DecidableEq, Repr

/-- Some virtual-function group of some desired interface satisfies `p`: the nested loops of
`needVfioDriver`, `needDriverCheckDeviceType` and their siblings. -/
def anyVfGroup (state : SriovNetworkNodeState) (p : VfGroup → Bool) : Bool :=
  state.spec.interfaces.any fun iface => iface.vfGroups.any p

/-- What the plugin takes from `pkg/consts` and `pkg/utils`. -/
structure Consts where
  deviceTypeVfioPci : String
  deviceTypeNetDevice : String
  vdpaTypeVirtio : String
  vdpaTypeVhost : String
  kernelParamIntelIommu : String
  kernelParamIommuPt : String
  kernelParamPciRealloc : String
  /-- `utils.NeedUpdate`: the desired and the observed interface differ.  Any predicate of the
  fields the model keeps; the fields of the API the model leaves out are not seen. -/
  needUpdate : Interface → InterfaceExt → Bool

/-! ## Errors and outside calls -/

/-- A Go `error` the plugin returns. -/
inductive Error
  /-- `*exec.ExitError` of `cmd.Run()`, by the exit status (`-1` when killed by a signal). -/
  | exitError (status : Int)
  /-- `*strconv.NumError` of `strconv.Atoi`, by the input it rejected. -/
  | numError (num : String)
  /-- An error of a collaborator outside this source, by its `Error()` text. -/
  | text (msg : String)
  deriving DecidableEq, Repr

/-- What `cmd.Run()` of the kernel-argument script reports: the exit status and the stdout it
captured, or a failure to run the command at all. -/
inductive CmdResult
  | exited (status : Int) (stdout : String)
  | failed (msg : String)
  deriving DecidableEq, Repr

/-- One call to a collaborator outside this source, with what it returned; Go's `(value, error)`
pairs are kept as pairs, `none` standing for a nil error. -/
inductive Call
  /-- `utils.IsKernelCmdLineParamSet(kparam, false)`. -/
  | isKernelCmdLineParamSet (kparam : String) (result : Bool × Option String)
  /-- `cmd.Run()` of `/bin/sh bindata/scripts/enable-kargs.sh kparam` in `trySetKernelParam`. -/
  | enableKargs (kparam : String) (result : CmdResult)
  /-- `utils.WriteSwitchdevConfFile(state)`. -/
  | writeSwitchdevConfFile (state : SriovNetworkNodeState) (result : Bool × Option String)
  /-- `HostManager.LoadKernelModule(name)`. -/
  | loadKernelModule (name : String) (err : Option String)
  /-- `utils.GetPfsToSkip(state)`. -/
  | getPfsToSkip (state : SriovNetworkNodeState) (result : List String × Option String)
  /-- `utils.Chroot(path)`. -/
  | chroot (path : String) (err : Option String)
  /-- The deferred `exit()` of a successful `utils.Chroot`. -/
  | exitChroot
  /-- `utils.SyncNodeState(state, pfsToSkip)`. -/
  | syncNodeState (state : SriovNetworkNodeState) (pfsToSkip : List String) (err : Option String)
  deriving DecidableEq, Repr

/-- What a call of a plugin function leaves: its return value, the state after it and the outside
calls it made, in order. -/
structure Outcome (σ α : Type) where
  ret : α
  state : σ
  calls : List Call

/-- The outcome with `calls` made before it. -/
def Outcome.after {σ α : Type} (calls : List Call) (o : Outcome σ α) : Outcome σ α :=
  { o with calls := calls ++ o.calls }

@[simp] theorem Outcome.after_ret {σ α : Type} (l : List Call) (o : Outcome σ α) :
    (o.after l).ret = o.ret := rfl

@[simp] theorem Outcome.after_state {σ α : Type} (l : List Call) (o : Outcome σ α) :
    (o.after l).state = o.state := rfl

@[simp] theorem Outcome.after_calls {σ α : Type} (l : List Call) (o : Outcome σ α) :
    (o.after l).calls = l ++ o.calls := rfl

/-- How a call of `Apply` ends: it returns an error (`none` is nil), or it panics dereferencing a
`DesireState` that no `OnNodeStateChange` has set. -/
inductive ApplyResult
  | returned (err : Option Error)
  | panicked
  deriving DecidableEq, Repr

/-- The order of one `range` over a Go map: some permutation of its entries, chosen anew at every
`range`. -/
structure RangeOrder (α : Type) where
  arrange : List α → List α
  perm : ∀ l, (arrange l).Perm l

/-- The order in which the entries are stored. -/
def RangeOrder.stored {α : Type} : RangeOrder α := ⟨id, List.Perm.refl⟩

/-! ## Sample inputs

The inputs of the concrete runs that show the hypotheses of a theorem can all hold at once. -/

/-- The values of the constants upstream (`pkg/consts`, `pkg/utils`), with a `NeedUpdate` that finds
no difference. -/
def Consts.upstream : Consts :=
  ⟨"vfio-pci", "netdevice", "virtio", "vhost", "intel_iommu=on", "iommu=pt", "pci=realloc",
    fun _ _ => false⟩

/-- One PF, `0000:3b:00.0`, asked for four VFs bound to `vfio-pci`, none configured yet. -/
def vfioRequest : SriovNetworkNodeState :=
  ⟨⟨[⟨"0000:3b:00.0", 4, [⟨"vfio-pci", ""⟩]⟩]⟩, ⟨[⟨"0000:3b:00.0", 0⟩]⟩⟩

end Generic
