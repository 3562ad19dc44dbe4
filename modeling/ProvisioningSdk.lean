import ProvisioningSdk.Platform.PalQueueThreads
import ProvisioningSdk.Platform.PalWakeups
import ProvisioningSdk.Platform.PalQueueSlots
import ProvisioningSdk.Agent.PublishQueue
import ProvisioningSdk.Agent.PublishDelivery
import ProvisioningSdk.Agent.CommandResults
import ProvisioningSdk.Agent.ThreadLoop
import ProvisioningSdk.Agent.BrokerSession
import ProvisioningSdk.Agent.CommandPool
import ProvisioningSdk.Agent.CallLocals
import ProvisioningSdk.Agent.CompletionWait
import ProvisioningSdk.Provisioning.Serializer
import ProvisioningSdk.Lib.Effect
import ProvisioningSdk.Provisioning.Request
import ProvisioningSdk.Provisioning.World
import ProvisioningSdk.Provisioning.Responses
import ProvisioningSdk.Provisioning.MqttOperations
import ProvisioningSdk.Provisioning.Pkcs11Operations
import ProvisioningSdk.Provisioning.Workflow
import ProvisioningSdk.Provisioning.OutgoingPublishes
import ProvisioningSdk.Provisioning.Retry
import ProvisioningSdk.Provisioning.Connections
import ProvisioningSdk.Provisioning.RegisterRequest
import ProvisioningSdk.Provisioning.ResponseWaits
import ProvisioningSdk.Provisioning.Credentials
import ProvisioningSdk.Provisioning.PacketAcks
import ProvisioningSdk.Provisioning.Resends
import ProvisioningSdk.Provisioning.LoopTimeouts
import ProvisioningSdk.Provisioning.RequestEncoding
import ProvisioningSdk.Lib.TimedMonitor
import ProvisioningSdk.Platform.PalDeadlines
import ProvisioningSdk.Platform.PrivateKeySigning
import ProvisioningSdk.Provisioning.RsaKeys
import ProvisioningSdk.Provisioning.PemBuffers
import ProvisioningSdk.Provisioning.CborDump
import ProvisioningSdk.Agent.ContextTeardown
import ProvisioningSdk.Agent.CommandRelease
import ProvisioningSdk.Agent.AgentRestart
import ProvisioningSdk.Platform.PalSemaphore
import ProvisioningSdk.Provisioning.CallInvariants
import ProvisioningSdk.Provisioning.PublishRollback
import ProvisioningSdk.Provisioning.AckAssertions
import ProvisioningSdk.Provisioning.ObjectDestruction
import ProvisioningSdk.Provisioning.RepeatedLoads
import ProvisioningSdk.Lib.Verdict
import ProvisioningSdk.Platform.MbedtlsConnect
import ProvisioningSdk.Agent.AllocationFailures
import ProvisioningSdk.Agent.IncomingPublishes
import ProvisioningSdk.Lib.CborDocuments
import ProvisioningSdk.Lib.Progress
import ProvisioningSdk.Platform.PalProgress
import ProvisioningSdk.Provisioning.ResponseDocuments
import ProvisioningSdk.Provisioning.SuccessfulRuns
import ProvisioningSdk.Provisioning.WorkflowProtocol
import ProvisioningSdk.Lib.Retries
import ProvisioningSdk.Platform.ConnectRetries
import ProvisioningSdk.Agent.ThreadTransport
import ProvisioningSdk.Provisioning.DeviceLife
import ProvisioningSdk.Lib.Programs
import ProvisioningSdk.Platform.PalObjects
import ProvisioningSdk.Agent.CallThreads
import ProvisioningSdk.Agent.PublishThreads
