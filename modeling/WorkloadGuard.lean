import WorkloadGuard.Main
import WorkloadGuard.Request.Document
import WorkloadGuard.Service
import WorkloadGuard.Proofs.NameHierarchy
import WorkloadGuard.Proofs.Outcome
import WorkloadGuard.Proofs.Declaration
import WorkloadGuard.Proofs.Kubernetes.Validation
import WorkloadGuard.Proofs.Matching
import WorkloadGuard.Proofs.Azure.Validation
import WorkloadGuard.Proofs.Kubernetes.Decision
import WorkloadGuard.Proofs.Azure.Decision
import WorkloadGuard.Proofs.Enforcement
import WorkloadGuard.Proofs.OfflineCheck
import WorkloadGuard.Proofs.Cause
import WorkloadGuard.Proofs.EmptyValues
import WorkloadGuard.Proofs.Isolation
import WorkloadGuard.Proofs.Narrowing
import WorkloadGuard.Proofs.Kubernetes.Modes
import WorkloadGuard.Proofs.Migration
import WorkloadGuard.Proofs.MissingPaths
import WorkloadGuard.Proofs.ReportedFailures
import WorkloadGuard.Proofs.Kubernetes.HostNames
import WorkloadGuard.Proofs.Azure.PathGrammar
import WorkloadGuard.Proofs.Azure.TokenIdentity
import WorkloadGuard.Proofs.Files.PathOrder
import WorkloadGuard.Proofs.Files.Places
import WorkloadGuard.Proofs.RepeatedFiles
import WorkloadGuard.Proofs.ScopeOffenders
import WorkloadGuard.Proofs.CheckOrder
import WorkloadGuard.Proofs.Resolution
import WorkloadGuard.Proofs.AnnotationOrder
import WorkloadGuard.Proofs.FirstDifference
import WorkloadGuard.Proofs.Kubernetes.HostLogins
import WorkloadGuard.Proofs.Kubernetes.Underscores
import WorkloadGuard.Proofs.Kubernetes.ContainerName
import WorkloadGuard.Proofs.FirstRecords
import WorkloadGuard.Proofs.RecordFields
import WorkloadGuard.Proofs.Azure.TokenPayload
import WorkloadGuard.Proofs.ProviderSelection
import WorkloadGuard.Proofs.Files.Extensions
import WorkloadGuard.Proofs.PolicyFiles
import WorkloadGuard.Proofs.Documents.ReadBack
import WorkloadGuard.Proofs.OrderedSets
