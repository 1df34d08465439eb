import LightAI.Base.Trim
import LightAI.Base.Gregorian
import LightAI.Base.Lines
import LightAI.Base.Redaction
import LightAI.Base.Utf8
import LightAI.Base.Trace
import LightAI.Base.Interleaving
import LightAI.Base.Fallible
import LightAI.Server.Schema
import LightAI.Server.Rows
import LightAI.Server.Handler
import LightAI.Server.Support
import LightAI.Server.AgentTasks
import LightAI.Server.Instances
import LightAI.Server.Logs
import LightAI.Server.ModelFiles
import LightAI.Server.ModelTrash
import LightAI.Server.Effects
import LightAI.Server.Requests
import LightAI.Server.TaskLifecycle
import LightAI.Server.Vocabulary
import LightAI.Server.Dispatch
import LightAI.Server.TimeoutTargets
import LightAI.Server.Timeouts
import LightAI.Server.Board
import LightAI.Server.Reconcile
import LightAI.Server.Served
import LightAI.Server.Operations
import LightAI.Server.StaleResults
import LightAI.Server.Guards
import LightAI.Server.RuntimeChecks
import LightAI.Server.Access
import LightAI.Agent.ManagedProcess
import LightAI.Agent.DockerConfig
import LightAI.Agent.Process
import LightAI.Agent.Reports
import LightAI.Agent.HonestStop
import LightAI.Agent.FailedStart
import LightAI.Agent.Gateway
import LightAI.Agent.OneGateway
import LightAI.Agent.Starts
import LightAI.Agent.Reachable
import LightAI.Agent.Probes
import LightAI.Agent.Signals
import LightAI.Agent.ContainerNames
import LightAI.System.RunningImage
import LightAI.Server.Sessions
import LightAI.Server.LastAdmin
import LightAI.Base.Router
import LightAI.Server.ControlPlane
import LightAI.Server.AdminState
import LightAI.Server.Literals
import LightAI.Server.TrashStates
import LightAI.Agent.RuntimeConfig
import LightAI.Server.Policies
import LightAI.System.ConfigSync
import LightAI.Base.Threadwise
import LightAI.Server.PolicyRaces
import LightAI.Server.GpuPresence
import LightAI.Server.NodeOnline
import LightAI.Server.NodeIdentity
import LightAI.Agent.Collectors
import LightAI.Agent.Heartbeat
import LightAI.Agent.Registrations
import LightAI.Agent.Revocation
import LightAI.Agent.CollectorReports
import LightAI.Base.FirstRead
import LightAI.Base.RowRelations
import LightAI.Server.StaleCopies
import LightAI.Server.ReconciledRows
import LightAI.Server.Sweeps
import LightAI.Server.FileUpdates
import LightAI.Server.InstanceRows
import LightAI.Server.FileRows
import LightAI.Server.NewInstances
import LightAI.Server.DeletedModels
import LightAI.Server.FileMoves
import LightAI.Server.LaunchParams
import LightAI.Server.SweepingRequests
import LightAI.Server.DeclaredStatuses
import LightAI.Agent.LaunchParams
import LightAI.System.AcceptedParams
import LightAI.Base.CommandLine
import LightAI.Agent.DockerCommand
import LightAI.Agent.DockerLayers
import LightAI.Agent.PublishedPort
import LightAI.Agent.ModelMount
import LightAI.System.DroppedOverrides
import LightAI.Log.Clock
import LightAI.Log.PlatformLog
import LightAI.Log.CleanLogs
import LightAI.Base.Segments
import LightAI.Log.Rotation
import LightAI.Agent.CommandSummary
import LightAI.Agent.OllamaNumbers
import LightAI.Base.Noting
import LightAI.Agent.DaemonAddress
import LightAI.Base.Slices
import LightAI.Agent.ProcessLogs
import LightAI.Agent.LogTails
import LightAI.Base.TextLines
import LightAI.Base.CutLines
import LightAI.Agent.LogLeaks
import LightAI.Base.ChunkedLines
import LightAI.Agent.LogReaders
import LightAI.Base.FirstOfEach
import LightAI.Agent.ScriptRows
import LightAI.Agent.MergedGpus
import LightAI.Base.FileTree
import LightAI.Agent.CleanupFile
import LightAI.System.CollectorAgreement
import LightAI.Base.FirstMarker
import LightAI.Base.UniqueColumn
import LightAI.Server.ModelNames
import LightAI.Server.DeletedNames
import LightAI.Agent.EndpointReady
import LightAI.System.StartLease
import LightAI.Web.InstanceParams
import LightAI.Web.InstancesPanel
import LightAI.Web.ReopenedInstance
import LightAI.Web.RuntimePanel
import LightAI.Web.ReopenedRuntime
import LightAI.Server.TrashedFiles
import LightAI.Base.LastMarker
import LightAI.Base.Words
import LightAI.Agent.ProcStat
import LightAI.Base.MachineSum
import LightAI.System.DefaultPort
import LightAI.Server.VerifiedFiles
import LightAI.Base.Dialogue
import LightAI.Agent.StoreRaces
import LightAI.System.AgentLink
import LightAI.System.StaleHeartbeats
import LightAI.System.OrphanedProcesses
import LightAI.Server.TasksAtHome
import LightAI.Server.MovedFiles
import LightAI.Server.NodeRequests
import LightAI.Server.NodeIsolation
import LightAI.Server.SessionOrigin
import LightAI.Base.Potential
import LightAI.Server.QueueOrder
import LightAI.Server.CommittedResults
import LightAI.Server.AdminAuthority
import LightAI.System.ConfigBounds
import LightAI.Base.Origin
import LightAI.Base.PrunedLog
import LightAI.Server.MetricHistory
import LightAI.System.ScriptOrigin
import LightAI.Base.Peers
import LightAI.System.AgentCycles
import LightAI.System.AgentReliance
import LightAI.System.SettledAgents
