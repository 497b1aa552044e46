import Provisioning.Json.Pointer
import Provisioning.Logging
import Provisioning.Poll.Timed
import Provisioning.Proofs.Matching
import Provisioning.Proofs.Runs
import Provisioning.Rehearsal.Capabilities
import Provisioning.Rehearsal.Pods
import Provisioning.Rehearsal.Server
import Provisioning.Rehearsal.Step
import Provisioning.Schema.Definition
import Provisioning.Proofs.Interleaving
import Provisioning.Proofs.Origin
import Provisioning.Proofs.Courses
import Provisioning.Proofs.Validity
import Provisioning.Proofs.Concurrency
import Provisioning.Proofs.SharedCluster
import Provisioning.Proofs.Usability
import Provisioning.Proofs.Agreement
import Provisioning.Proofs.Script
import Provisioning.Proofs.TimedWait
import Provisioning.Proofs.CallOrder
import Provisioning.Proofs.QuietCluster
import Provisioning.Proofs.Repetition
import Provisioning.Proofs.Kinds
import Provisioning.Proofs.LabeledCallers
import Provisioning.Proofs.LabeledPair
import Provisioning.Proofs.Retrieval
import Provisioning.Proofs.Creation
import Provisioning.Proofs.DefaultScope
import Provisioning.Proofs.Noticing
import Provisioning.Proofs.Deadlines
import Provisioning.Proofs.Deletion
import Provisioning.Proofs.Retries
import Provisioning.Proofs.NamespaceIsolation
import Provisioning.Proofs.ReferenceChain
import Provisioning.Proofs.ListingOrder
import Provisioning.Proofs.FailureReports
import Provisioning.Proofs.OwnPod
import Provisioning.Proofs.AdmittedDocuments
import Provisioning.Proofs.Cleanup
import Provisioning.Proofs.RemovalTime
import Provisioning.Proofs.Polling
import Provisioning.Proofs.PromptRemoval
import Provisioning.Proofs.BuiltCapability
import Provisioning.Proofs.Masking
import Provisioning.Proofs.PodStates
import Provisioning.Proofs.QuietCleanup
import Provisioning.Proofs.CanonicalNames
import Provisioning.Proofs.AddressText
import Provisioning.Proofs.Selectors
import Provisioning.Proofs.WrittenSettings
