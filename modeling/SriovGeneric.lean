import SriovGeneric.Types
import SriovGeneric.Strconv
import SriovGeneric.Host
import SriovGeneric.KernelParams
import SriovGeneric.DrainNode
import SriovGeneric.TriState.Plugin
import SriovGeneric.TriState.Steps
import SriovGeneric.TriState.Runs
import SriovGeneric.TriState.History
import SriovGeneric.DriverStateMap.Plugin
import SriovGeneric.DriverStateMap.NodeState
import SriovGeneric.DriverStateMap.Apply
import SriovGeneric.DriverStateMap.Runs
import SriovGeneric.DriverStateMap.History
import SriovGeneric.Versions
