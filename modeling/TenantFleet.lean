import TenantFleet.Backoff
import TenantFleet.Call.Document
import TenantFleet.Fleet.Connections
import TenantFleet.Hash.Sha256
import TenantFleet.Metrics.Basic
import TenantFleet.Pass.Reconcile
import TenantFleet.Proofs.Backoff.Calls
import TenantFleet.Proofs.Backoff.PerObject
import TenantFleet.Proofs.Cloud.Listing
import TenantFleet.Proofs.Cloud.Waiting
import TenantFleet.Proofs.Etcd.Aborted
import TenantFleet.Proofs.Etcd.Bootstrap
import TenantFleet.Proofs.Etcd.Convergence
import TenantFleet.Proofs.Etcd.Exclusive
import TenantFleet.Proofs.Etcd.Healing
import TenantFleet.Proofs.Etcd.Prerequisites
import TenantFleet.Proofs.Etcd.Preservation
import TenantFleet.Proofs.Etcd.Refilling
import TenantFleet.Proofs.Etcd.Unit
import TenantFleet.Proofs.Etcd.Zones
import TenantFleet.Proofs.Json.Blanks
import TenantFleet.Proofs.Json.Quoted
import TenantFleet.Proofs.Json.Render
import TenantFleet.Proofs.Json.Same
import TenantFleet.Proofs.Machine.Atomic
import TenantFleet.Proofs.Machine.Looping
import TenantFleet.Proofs.Machine.Race
import TenantFleet.Proofs.Machine.Settled
import TenantFleet.Proofs.Masters.Freshness
import TenantFleet.Proofs.Masters.Order
import TenantFleet.Proofs.Masters.Reimage
import TenantFleet.Proofs.Masters.Restart
import TenantFleet.Proofs.Masters.Single
import TenantFleet.Proofs.Pass.Drift
import TenantFleet.Proofs.Peering.Dismantling
import TenantFleet.Proofs.Program.Halting
import TenantFleet.Proofs.Resource.Resent
import TenantFleet.Proofs.Resource.RoundTrip
import TenantFleet.Proofs.Stage.Store
import TenantFleet.Proofs.Workers.Classification
import TenantFleet.Proofs.Workers.Naming
import TenantFleet.Proofs.Workers.Replacement
import TenantFleet.Proofs.Workers.Resumption
import TenantFleet.Proofs.World.Refusal
import TenantFleet.Settings.Basic
import TenantFleet.Stage.State
import TenantFleet.World.Report
import TenantFleet.World.Stock
