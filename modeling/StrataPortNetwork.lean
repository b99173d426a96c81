import StrataPortNetwork.Native.AcceptOnce
import StrataPortNetwork.Native.AntiRollback
import StrataPortNetwork.Native.Completeness
import StrataPortNetwork.Agent.Replay
import StrataPortNetwork.Synaptizer.RoundTrip
import StrataPortNetwork.Superstructure.Outcomes
import StrataPortNetwork.Superstructure.AtMostOnce
import StrataPortNetwork.Superstructure.Disclosure
import StrataPortNetwork.Superstructure.Counting
import StrataPortNetwork.Superstructure.PortZeroNetwork
import StrataPortNetwork.Superstructure.LifecycleAudit
import StrataPortNetwork.Superstructure.CommunicationLedger
import StrataPortNetwork.Superstructure.DoubleEntry
import StrataPortNetwork.TwoMachine.Freshness
import StrataPortNetwork.TwoMachine.DistinctHosts
import StrataPortNetwork.Community.Agreement
import StrataPortNetwork.CognitiveState.Saves
import StrataPortNetwork.DirectPipe.Settlement
import StrataPortNetwork.Superstructure.AgentContracts
import StrataPortNetwork.Agent.Cascade
import StrataPortNetwork.CanonicalForms
import StrataPortNetwork.ProcessIntelligence.Credit
import StrataPortNetwork.ProcessIntelligence.Refinement
import StrataPortNetwork.Synaptizer.OrderIndependence
import StrataPortNetwork.ExternalProof.Tokens
import StrataPortNetwork.CognitiveBody.Commitments
import StrataPortNetwork.CognitiveBody.ContentRoots
import StrataPortNetwork.CognitiveBody.Selection
import StrataPortNetwork.Synaptizer.Accounts
import StrataPortNetwork.ProcessIntelligence.LastGood
import StrataPortNetwork.ProcessIntelligence.Failover
import StrataPortNetwork.ProcessIntelligence.Graduation
import StrataPortNetwork.ProcessIntelligence.FitnessDelta
import StrataPortNetwork.Native.Schemas
import StrataPortNetwork.Native.Envelopes
import StrataPortNetwork.ExternalProof.Canonical
import StrataPortNetwork.Agent.Separation
import StrataPortNetwork.Native.Lossless
import StrataPortNetwork.Interconnect.Navigation
import StrataPortNetwork.Portal.Visibility
import StrataPortNetwork.ExternalProof.Pipeline
import StrataPortNetwork.Browser.RoundTrip
import StrataPortNetwork.Superstructure.Planning
import StrataPortNetwork.Superstructure.HostileRows
import StrataPortNetwork.Agent.Payloads
import StrataPortNetwork.Portal.Publication
import StrataPortNetwork.Agent.Pipeline
import StrataPortNetwork.ExternalProof.Recovery
import StrataPortNetwork.Superstructure.DeadLetters
import StrataPortNetwork.CognitiveBody.Activation
import StrataPortNetwork.CognitiveBody.Attachment
import StrataPortNetwork.ProcessIntelligence.Synthesis
import StrataPortNetwork.Superstructure.Tenancy
import StrataPortNetwork.Agent.DiscoveryService
