import ControlPlane.Api.Collection
import ControlPlane.Api.Conversation
import ControlPlane.Api.Http
import ControlPlane.Api.Requests
import ControlPlane.Api.Target
import ControlPlane.Cluster.ControllerSet
import ControlPlane.Cluster.Registry
import ControlPlane.Definition
import ControlPlane.Digest.Fingerprint
import ControlPlane.Digest.Sha256
import ControlPlane.Error
import ControlPlane.Index
import ControlPlane.Json.Basic
import ControlPlane.Json.Form
import ControlPlane.Json.Magnitude
import ControlPlane.Json.MergePatch
import ControlPlane.Json.Parser
import ControlPlane.Json.Printer
import ControlPlane.Json.Shortest
import ControlPlane.Keyed
import ControlPlane.Lease.Decision
import ControlPlane.Lease.Elector
import ControlPlane.Lease.Lease
import ControlPlane.Meta.Condition
import ControlPlane.Meta.Kind
import ControlPlane.Meta.ObjectMeta
import ControlPlane.Meta.Observation
import ControlPlane.Meta.Resource
import ControlPlane.Placement.Availability
import ControlPlane.Placement.Desired
import ControlPlane.Placement.Selection
import ControlPlane.Proofs.Cluster.Engagements
import ControlPlane.Proofs.Deployment.Bindings
import ControlPlane.Proofs.Deployment.Conflict
import ControlPlane.Proofs.Deployment.Gates
import ControlPlane.Proofs.Deployment.Location
import ControlPlane.Proofs.Deployment.Renewals
import ControlPlane.Proofs.Digest.Identification
import ControlPlane.Proofs.Json.Merging
import ControlPlane.Proofs.Json.Readability
import ControlPlane.Proofs.Json.Rearrangement
import ControlPlane.Proofs.Lease.Bookkeeping
import ControlPlane.Proofs.Lease.Election
import ControlPlane.Proofs.Lease.Exclusion
import ControlPlane.Proofs.Lease.Expiry
import ControlPlane.Proofs.Meta.History
import ControlPlane.Proofs.Patches.Assignment
import ControlPlane.Proofs.Patches.Guarded
import ControlPlane.Proofs.Patches.Statuses
import ControlPlane.Proofs.Patches.Stored
import ControlPlane.Proofs.Placement.Aggregation
import ControlPlane.Proofs.Placement.Agreement
import ControlPlane.Proofs.Rest.Counts
import ControlPlane.Proofs.Rest.Fidelity
import ControlPlane.Proofs.Rest.Observation
import ControlPlane.Proofs.Rest.Quiet
import ControlPlane.Proofs.Rest.Readiness
import ControlPlane.Proofs.Rest.Reports
import ControlPlane.Proofs.Rollout.Convergence
import ControlPlane.Proofs.Rollout.Guard
import ControlPlane.Proofs.Rollout.Likeness
import ControlPlane.Proofs.Rollout.Listing
import ControlPlane.Proofs.Rollout.Order
import ControlPlane.Proofs.Rollout.Ordinals
import ControlPlane.Proofs.Rollout.Partition
import ControlPlane.Proofs.Rollout.Renewal
import ControlPlane.Proofs.Rollout.Seating
import ControlPlane.Proofs.Rollout.SlotName
import ControlPlane.Proofs.Rollout.Steps
import ControlPlane.Proofs.Schema.Dated
import ControlPlane.Proofs.Schema.Forms
import ControlPlane.Proofs.Schema.Merged
import ControlPlane.Proofs.Schema.Ranged
import ControlPlane.Proofs.Schema.Records
import ControlPlane.Proofs.Schema.RoundTrip
import ControlPlane.Proofs.Server.Calls
import ControlPlane.Proofs.Server.Content
import ControlPlane.Proofs.Server.Exchanges
import ControlPlane.Proofs.Server.Footprint
import ControlPlane.Proofs.Server.History
import ControlPlane.Proofs.Server.Identity
import ControlPlane.Proofs.Server.Interleaving
import ControlPlane.Proofs.Server.Interruption
import ControlPlane.Proofs.Server.Server
import ControlPlane.Proofs.Server.Snapshots
import ControlPlane.Proofs.Server.Table
import ControlPlane.Proofs.Server.Versions
import ControlPlane.Proofs.Staging.Chain
import ControlPlane.Proofs.Staging.Clash
import ControlPlane.Proofs.Staging.Links
import ControlPlane.Proofs.Staging.Lookups
import ControlPlane.Proofs.Staging.Once
import ControlPlane.Proofs.Teardown.Custody
import ControlPlane.Proofs.Teardown.Orphans
import ControlPlane.Proofs.Teardown.Parentage
import ControlPlane.Proofs.Teardown.Script
import ControlPlane.Proofs.Teardown.Supervision
import ControlPlane.Proofs.Time.Calendar
import ControlPlane.Proofs.Time.Rfc3339
import ControlPlane.Proofs.Watch.Cache
import ControlPlane.Proofs.Watch.Collections
import ControlPlane.Proofs.Watch.Dependencies
import ControlPlane.Proofs.Watch.Failures
import ControlPlane.Proofs.Watch.Networks
import ControlPlane.Proofs.Workload.Expansion
import ControlPlane.Proofs.Workload.FullPass
import ControlPlane.Proofs.Workload.Isolation
import ControlPlane.Proofs.Workload.Labels
import ControlPlane.Proofs.Workload.Names
import ControlPlane.Proofs.Workload.Resumption
import ControlPlane.Proofs.Workload.Revision
import ControlPlane.Proofs.Writes.Deployments
import ControlPlane.Proofs.Writes.Outcomes
import ControlPlane.Proofs.Writes.Passes
import ControlPlane.Proofs.Writes.Stores
import ControlPlane.Proofs.Writes.Workloads
import ControlPlane.Reconcile.Basic
import ControlPlane.Reconcile.Deployment
import ControlPlane.Reconcile.Instance
import ControlPlane.Reconcile.Schedule
import ControlPlane.Reconcile.Workload
import ControlPlane.Rollout.Plan
import ControlPlane.Rollout.Progress
import ControlPlane.Rollout.Readiness
import ControlPlane.Rollout.Slot
import ControlPlane.Rollout.Template
import ControlPlane.Schema.Any
import ControlPlane.Schema.Deployment
import ControlPlane.Schema.Instance
import ControlPlane.Schema.Location
import ControlPlane.Schema.Network
import ControlPlane.Schema.Platform
import ControlPlane.Schema.Reference
import ControlPlane.Schema.Runtime
import ControlPlane.Schema.Volume
import ControlPlane.Schema.Workload
import ControlPlane.Simulation
import ControlPlane.Staging.Networks
import ControlPlane.Store.Call
import ControlPlane.Store.Memory
import ControlPlane.Store.Pass
import ControlPlane.Text.CaseTable
import ControlPlane.Text.Digits
import ControlPlane.Text.LowerCase
import ControlPlane.Text.PrintTable
import ControlPlane.Text.Quoted
import ControlPlane.Text.Ranges
import ControlPlane.Text.Utf8
import ControlPlane.Time.Instant
import ControlPlane.Time.Rfc3339
import ControlPlane.Watch
