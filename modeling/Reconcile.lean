import Reconcile.Assoc
import Reconcile.Baseline.Checksum
import Reconcile.Baseline.Digest
import Reconcile.Baseline.Record
import Reconcile.Baseline.Store
import Reconcile.Baseline.Timestamp
import Reconcile.Catalog.Basic
import Reconcile.Catalog.Outline
import Reconcile.Catalog.Packaged
import Reconcile.Catalog.Packaged.Authentication
import Reconcile.Catalog.Packaged.Cluster
import Reconcile.Catalog.Packaged.LoadBalancing
import Reconcile.Catalog.Packaged.Monitoring
import Reconcile.Catalog.Packaged.Network
import Reconcile.Catalog.Packaged.Security
import Reconcile.Catalog.Packaged.Services
import Reconcile.Catalog.Packaged.System
import Reconcile.Catalog.Reading
import Reconcile.Catalog.Rule
import Reconcile.Declaration.Basic
import Reconcile.Declaration.Flat
import Reconcile.Declaration.Native
import Reconcile.Declaration.Report
import Reconcile.Difference.Change
import Reconcile.Difference.Delta
import Reconcile.Difference.Restoration
import Reconcile.Difference.Summary
import Reconcile.Engine.Basic
import Reconcile.Engine.Inspect
import Reconcile.Engine.Plan
import Reconcile.Fault
import Reconcile.Inspection.Rebuild
import Reconcile.Inspection.Rework
import Reconcile.Log
import Reconcile.LogLevel
import Reconcile.Mapping.Conversion
import Reconcile.Mapping.Item
import Reconcile.Number.Binary64
import Reconcile.Number.Ratio
import Reconcile.Number.Shortest
import Reconcile.Observation.Bookkeeping
import Reconcile.Observation.Device
import Reconcile.Observation.Gathering
import Reconcile.Observation.Link
import Reconcile.Observation.Merge
import Reconcile.Observation.Read
import Reconcile.Observation.Reference
import Reconcile.Observation.Widening
import Reconcile.Path
import Reconcile.Pattern.Basic
import Reconcile.Pattern.Reader
import Reconcile.Proofs.Assoc
import Reconcile.Proofs.Baseline.Keeping
import Reconcile.Proofs.Declaration.Checking
import Reconcile.Proofs.Declaration.Dereferencing
import Reconcile.Proofs.Declaration.Flattening
import Reconcile.Proofs.Declaration.Following
import Reconcile.Proofs.Declaration.Leaves
import Reconcile.Proofs.Declaration.Pointers
import Reconcile.Proofs.Declaration.Renaming
import Reconcile.Proofs.Declaration.Standing
import Reconcile.Proofs.Declaration.Substitution
import Reconcile.Proofs.Declaration.Surface
import Reconcile.Proofs.Declaration.Verdict
import Reconcile.Proofs.Difference.Between
import Reconcile.Proofs.Difference.Comparison
import Reconcile.Proofs.Difference.Convergence
import Reconcile.Proofs.Difference.Dropping
import Reconcile.Proofs.Difference.Exactness
import Reconcile.Proofs.Difference.Independence
import Reconcile.Proofs.Difference.Isolation
import Reconcile.Proofs.Difference.Mending
import Reconcile.Proofs.Difference.Nameless
import Reconcile.Proofs.Difference.Omission
import Reconcile.Proofs.Difference.Replay
import Reconcile.Proofs.Difference.Restoration
import Reconcile.Proofs.Difference.Summary
import Reconcile.Proofs.Difference.Touching
import Reconcile.Proofs.Document
import Reconcile.Proofs.Engine.Committing
import Reconcile.Proofs.Engine.Drift
import Reconcile.Proofs.Engine.Inspecting
import Reconcile.Proofs.Engine.Parallel
import Reconcile.Proofs.Engine.Planning
import Reconcile.Proofs.Engine.Reporting
import Reconcile.Proofs.Engine.Session
import Reconcile.Proofs.Inspection.Acceptance
import Reconcile.Proofs.Inspection.Classes
import Reconcile.Proofs.Inspection.Filing
import Reconcile.Proofs.Inspection.Production
import Reconcile.Proofs.Mapping.Agreement
import Reconcile.Proofs.Mapping.Passes
import Reconcile.Proofs.Mapping.Reading
import Reconcile.Proofs.Mapping.Spelling
import Reconcile.Proofs.Mapping.Units
import Reconcile.Proofs.Masking
import Reconcile.Proofs.Naming
import Reconcile.Proofs.Numeral
import Reconcile.Proofs.Observation.Accepting
import Reconcile.Proofs.Observation.Asking
import Reconcile.Proofs.Observation.DiskSize
import Reconcile.Proofs.Observation.Evolution
import Reconcile.Proofs.Observation.Filing
import Reconcile.Proofs.Observation.Gathering
import Reconcile.Proofs.Observation.Joining
import Reconcile.Proofs.Observation.Linking
import Reconcile.Proofs.Observation.Merging
import Reconcile.Proofs.Observation.Outcome
import Reconcile.Proofs.Observation.Provisioning
import Reconcile.Proofs.Observation.Querying
import Reconcile.Proofs.Observation.Reading
import Reconcile.Proofs.Observation.Referring
import Reconcile.Proofs.Observation.Unlinking
import Reconcile.Proofs.Observation.Visits
import Reconcile.Proofs.Observation.Watching
import Reconcile.Proofs.Observation.Widening
import Reconcile.Proofs.Path
import Reconcile.Proofs.Place
import Reconcile.Proofs.Remote.Reconnecting
import Reconcile.Proofs.Result
import Reconcile.Proofs.Service.Exchange
import Reconcile.Proofs.Service.Separation
import Reconcile.Proofs.Shaping.Destination
import Reconcile.Proofs.Shaping.Finishing
import Reconcile.Proofs.Shaping.Settling
import Reconcile.Proofs.Shaping.VirtualServer
import Reconcile.Proofs.Text
import Reconcile.Proofs.Trace
import Reconcile.Proofs.Value.Canonical
import Reconcile.Proofs.Value.Ordering
import Reconcile.Proofs.Value.Reading
import Reconcile.Proofs.Value.Sorting
import Reconcile.Remote.Failure
import Reconcile.Remote.Inventory
import Reconcile.Remote.Rest
import Reconcile.Remote.Retry
import Reconcile.Remote.Roster
import Reconcile.Remote.Settings
import Reconcile.Service.Basic
import Reconcile.Service.Call
import Reconcile.Service.Resource
import Reconcile.Service.Tool
import Reconcile.Shaping.Context
import Reconcile.Shaping.Finish
import Reconcile.Shaping.Item
import Reconcile.Shaping.Spelling
import Reconcile.Text.Blank
import Reconcile.Text.Digit
import Reconcile.Text.Lower
import Reconcile.Text.Numeral
import Reconcile.Text.Printable
import Reconcile.Text.Quoted
import Reconcile.Text.Runs
import Reconcile.Text.Split
import Reconcile.Text.Utf8
import Reconcile.Text.Word
import Reconcile.Timing
import Reconcile.Trace
import Reconcile.Value.Basic
import Reconcile.Value.Compare
import Reconcile.Value.Literal
import Reconcile.Value.Order
import Reconcile.Value.Reader
import Reconcile.Value.Writer
