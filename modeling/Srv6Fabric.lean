import Srv6Fabric.Mrc.EvStateEvents
import Srv6Fabric.Mrc.EvStateHistory
import Srv6Fabric.Mrc.Probe
import Srv6Fabric.Mrc.ReceiveLoops
import Srv6Fabric.Mrc.FalseDemotion
import Srv6Fabric.Mrc.LossTrap
import Srv6Fabric.Mrc.ProbeProtocol
import Srv6Fabric.Library.Machine
import Srv6Fabric.Library.PackedFields
import Srv6Fabric.Netem.Teardown
import Srv6Fabric.Policy
import Srv6Fabric.Reorder
import Srv6Fabric.Mrc.ReportLedger
import Srv6Fabric.Mrc.ProbeConservation
import Srv6Fabric.Mrc.ProbeDemotion
import Srv6Fabric.Mrc.ProbeTimeouts
import Srv6Fabric.Mrc.ProbeWire
import Srv6Fabric.Mrc.ScenarioRunnable
import Srv6Fabric.Mrc.TransmitLedgers
import Srv6Fabric.Mrc.CliAgreement
import Srv6Fabric.ReportAccounting
import Srv6Fabric.RouteListing
import Srv6Fabric.RouteTables
import Srv6Fabric.Generators.Delivery
import Srv6Fabric.SpineChoice
import Srv6Fabric.Mrc.EnvConfig
import Srv6Fabric.Library.Checks
import Srv6Fabric.Mrc.ScenarioTotality
import Srv6Fabric.Health
import Srv6Fabric.ReorderLoss
import Srv6Fabric.Mrc.EvStateWeights
import Srv6Fabric.Mrc.EvStateIsolation
import Srv6Fabric.Netem.Ownership
import Srv6Fabric.Generators.Management
import Srv6Fabric.Generators.Addressing
import Srv6Fabric.Mrc.DuplicateRecords
import Srv6Fabric.Mrc.ReceiveLedgers
import Srv6Fabric.ReorderPercentile
import Srv6Fabric.Mrc.LossFusion
import Srv6Fabric.ReportMemory
import Srv6Fabric.Mrc.SenderAttribution
import Srv6Fabric.Mrc.ProbeEviction
import Srv6Fabric.RouteExpansion
import Srv6Fabric.WeightedSpray
import Srv6Fabric.SenderPacing
import Srv6Fabric.Mrc.ProbePacing
import Srv6Fabric.Generators.LocatorRouting
import Srv6Fabric.Failover
import Srv6Fabric.ReorderBound
import Srv6Fabric.Mrc.DarkPlane
import Srv6Fabric.RouteDelivery
import Srv6Fabric.RouteRemoval
import Srv6Fabric.Mrc.EvStateSnapshot
import Srv6Fabric.Mrc.ScenarioRun
