import DepAtlas.Main
import DepAtlas.Proofs.Construction
import DepAtlas.Rebuild
import DepAtlas.Service
import DepAtlas.Proofs.CycleSearch.Segments
import DepAtlas.Proofs.CycleSearch.Parts
import DepAtlas.Proofs.CycleSearch
import DepAtlas.Proofs.DependencyOrder
import DepAtlas.Proofs.LeastOrder
import DepAtlas.Proofs.Survey
import DepAtlas.Proofs.Pipelines
import DepAtlas.Proofs.Reanalysis
import DepAtlas.Proofs.Json.Integers
import DepAtlas.Proofs.Json.Lexing
import DepAtlas.Proofs.Json.Reading
import DepAtlas.Proofs.Documents
import DepAtlas.Proofs.Reloading
import DepAtlas.Proofs.RoundTrip
import DepAtlas.Proofs.Soundness
import DepAtlas.Proofs.Differences
import DepAtlas.Proofs.InputOrder
import DepAtlas.Proofs.Adjacency
import DepAtlas.Proofs.FirstRecords
import DepAtlas.Proofs.Service.Histories
import DepAtlas.Proofs.Atomicity
import DepAtlas.Proofs.CycleSearch.Reporting
import DepAtlas.Proofs.CycleSearch.Recursion
import DepAtlas.Proofs.Audit
import DepAtlas.Proofs.Staleness
import DepAtlas.Proofs.Rankings
import DepAtlas.Proofs.Layering
import DepAtlas.Proofs.TopDirectories
import DepAtlas.Proofs.MoreReferences
import DepAtlas.Proofs.ParallelReferences
import DepAtlas.Proofs.Comparison
import DepAtlas.Proofs.NoDifferences
import DepAtlas.Proofs.DrawnMaps
import DepAtlas.Proofs.CycleSearch.DepthFirst
import DepAtlas.Proofs.CycleLines
import DepAtlas.Proofs.FileListing
import DepAtlas.Proofs.Previews
import DepAtlas.Proofs.Commands
import DepAtlas.Proofs.DerivedIds
import DepAtlas.Proofs.Recording
import DepAtlas.Proofs.PendingCounts
