import SliceFleet.Handles
import SliceFleet.Simulation
import SliceFleet.Properties.Json
import SliceFleet.Json.Reader
import SliceFleet.Main
import SliceFleet.Proofs.Statuses
import SliceFleet.Proofs.Probing
import SliceFleet.Proofs.SequentialVerification
import SliceFleet.Proofs.DistinctNames
import SliceFleet.Proofs.Building
import SliceFleet.Proofs.FirstBuild
import SliceFleet.Proofs.ModesAgree
import SliceFleet.Proofs.Calls
import SliceFleet.Proofs.CompositeMembers
import SliceFleet.Proofs.StepByStep
import SliceFleet.Proofs.ActiveNames
import SliceFleet.Proofs.Partitioning
import SliceFleet.Proofs.Callers
import SliceFleet.Proofs.LeafByLeaf
import SliceFleet.Proofs.LinkLedger
import SliceFleet.Proofs.AllOrNothing
import SliceFleet.Proofs.OpenHandles
import SliceFleet.Proofs.KeyGrammar
import SliceFleet.Proofs.Contributions
import SliceFleet.Proofs.Accepted
import SliceFleet.Proofs.Isolation
import SliceFleet.Proofs.Numerals
import SliceFleet.Proofs.Requirements
import SliceFleet.Proofs.Acceptance
import SliceFleet.Proofs.OffendingEntries
import SliceFleet.Proofs.ZeroTimeouts
import SliceFleet.Proofs.LenientRuns
import SliceFleet.Proofs.Redaction
import SliceFleet.Proofs.Passwords
import SliceFleet.Proofs.Rerooting
import SliceFleet.Proofs.RerootedBuilds
import SliceFleet.Proofs.RegisteredSlices
import SliceFleet.Proofs.PinnedNames
import SliceFleet.Proofs.Mastership
import SliceFleet.Proofs.Inspections
import SliceFleet.Proofs.ClosedProbes
import SliceFleet.Proofs.NestedOverrides
import SliceFleet.Proofs.CheckerRuns
import SliceFleet.Proofs.Snapshots
import SliceFleet.Proofs.ExactDiscovery
import SliceFleet.Proofs.KeyMeanings
import SliceFleet.Proofs.BackendRoundTrip
import SliceFleet.Proofs.Overrides
import SliceFleet.Proofs.PropertyFiles
import SliceFleet.Proofs.RoundRobin
import SliceFleet.Proofs.ReportColumns
import SliceFleet.Proofs.OptionItems
