import ExternalSort.Main
import ExternalSort.Proofs.CommandLine.Accepted
import ExternalSort.Proofs.CommandLine.Layers
import ExternalSort.Proofs.CommandLine.Printing
import ExternalSort.Proofs.CommandLine.Reports
import ExternalSort.Proofs.CommandLine.VarintReport
import ExternalSort.Proofs.ExactValue
import ExternalSort.Proofs.Merge.Events
import ExternalSort.Proofs.Merge.FanIns
import ExternalSort.Proofs.Merge.Legal
import ExternalSort.Proofs.Merge.Limit
import ExternalSort.Proofs.Merge.Optimal
import ExternalSort.Proofs.Merge.Reads
import ExternalSort.Proofs.Merge.Remainder
import ExternalSort.Proofs.Merge.Run
import ExternalSort.Proofs.Model.Display
import ExternalSort.Proofs.Model.Faults
import ExternalSort.Proofs.Model.Monotone
import ExternalSort.Proofs.Model.Sweep
import ExternalSort.Proofs.RecordBytes
import ExternalSort.Proofs.Settings.Properties
import ExternalSort.Proofs.Settings.PropertyLists
import ExternalSort.Proofs.Settings.PropertyTexts
import ExternalSort.Proofs.Spill.Inverse
import ExternalSort.Proofs.Spill.LargestCount
import ExternalSort.Proofs.Spill.LongDivision
import ExternalSort.Proofs.Spill.Prediction
import ExternalSort.Proofs.Spill.StoredThreshold
import ExternalSort.Proofs.Spill.Words
import ExternalSort.Proofs.Text.Blank
import ExternalSort.Proofs.Text.Column
import ExternalSort.Proofs.Text.Line
import ExternalSort.Proofs.Varint.Canonical
import ExternalSort.Proofs.Varint.Layout
import ExternalSort.Proofs.Varint.Outcomes
import ExternalSort.Proofs.Varint.Queue
import ExternalSort.Proofs.Varint.Slices
import ExternalSort.Varint.Buffer
