import SemanticLayer.Load
import SemanticLayer.Manifest.Reference
import SemanticLayer.Validation.Format
import SemanticLayer.Window
import SemanticLayer.Proofs.Filter.Written
import SemanticLayer.Proofs.Validation.Normalized
import SemanticLayer.Proofs.Manifest.RoundTrip
import SemanticLayer.Proofs.Filter.Append
import SemanticLayer.Proofs.Name.Segments
import SemanticLayer.Proofs.Validation.Addresses
import SemanticLayer.Proofs.Load.Counts
import SemanticLayer.Proofs.Validation.AggregationTimes
import SemanticLayer.Proofs.Validation.MetricReferences
import SemanticLayer.Proofs.Manifest.References
import SemanticLayer.Proofs.Validation.UniqueNames
import SemanticLayer.Proofs.Validation.MeasureAliases
import SemanticLayer.Proofs.Validation.FilterFaults
import SemanticLayer.Proofs.Validation.Repetitions
import SemanticLayer.Proofs.Validation.Order
import SemanticLayer.Proofs.Filter.Derivation
import SemanticLayer.Proofs.Filter.Spans
import SemanticLayer.Proofs.Filter.WellFormed
import SemanticLayer.Proofs.Validation.GranularitySuffixes
import SemanticLayer.Proofs.Validation.NonAdditive
import SemanticLayer.Proofs.Manifest.MeasureMetrics
import SemanticLayer.Proofs.Validation.GroupBy
import SemanticLayer.Proofs.Validation.NamedGranularities
import SemanticLayer.Proofs.Text.Word
import SemanticLayer.Proofs.Validation.DerivedInputs
import SemanticLayer.Proofs.Manifest.Effect
import SemanticLayer.Proofs.Filter.BareItems
import SemanticLayer.Proofs.Filter.Passing
import SemanticLayer.Proofs.Filter.GrainSpellings
import SemanticLayer.Proofs.Validation.OrderBy
import SemanticLayer.Proofs.Name.Parts
import SemanticLayer.Proofs.Window
import SemanticLayer.Proofs.Manifest.Faults
import SemanticLayer.Proofs.Manifest.Filters
