import IGCLWrapper.BlockMemory
import IGCLWrapper.CellCodec
import IGCLWrapper.ControlApi
import IGCLWrapper.AllocatingHelpers
import IGCLWrapper.TwoPhase
import IGCLWrapper.DriverProtocol
import IGCLWrapper.PanelDescriptor
import IGCLWrapper.Enumeration
import IGCLWrapper.StaleCount
import IGCLWrapper.Ownership
import IGCLWrapper.FaultMachine
import IGCLWrapper.Interleaving
import IGCLWrapper.PendingException
import IGCLWrapper.CLayout
import IGCLWrapper.Proxies
import IGCLWrapper.ProxyValues
import IGCLWrapper.ProxyRefinement
import IGCLWrapper.Loader
import IGCLWrapper.LoaderRuns
import IGCLWrapper.LoaderSession
import IGCLWrapper.FileTree
import IGCLWrapper.AbruptScript
import IGCLWrapper.Prepare
import IGCLWrapper.PrepareSteps
import IGCLWrapper.ExitCode
import IGCLWrapper.Snapshot
import IGCLWrapper.TidyRuns
import IGCLWrapper.ProxyLifetimes
import IGCLWrapper.ApiStructs
import IGCLWrapper.SizedHelpers
import IGCLWrapper.PreparedState
import IGCLWrapper.CheckedBuffer
import IGCLWrapper.Edid
import IGCLWrapper.RecordStrip
import IGCLWrapper.EdidStrip
import IGCLWrapper.EdidWhole
import IGCLWrapper.EdidChecksum
import IGCLWrapper.EdidAudio
import IGCLWrapper.ExitLabel
import IGCLWrapper.PanelSample
import IGCLWrapper.SampleRules
import IGCLWrapper.PanelMemory
import IGCLWrapper.PanelReport
import IGCLWrapper.PanelDelivery
import IGCLWrapper.EdidSample
import IGCLWrapper.UsageRules
import IGCLWrapper.EdidScenario
import IGCLWrapper.EdidDelivery
