import BulkIngest.Main
import BulkIngest.Progress.Display
import BulkIngest.Simulation.Solo
import BulkIngest.Proofs.Bulk.Addressing
import BulkIngest.Proofs.Bulk.RequestBody
import BulkIngest.Proofs.Run.Completion
import BulkIngest.Proofs.Run.Dispatch
import BulkIngest.Proofs.Run.Driver
import BulkIngest.Proofs.Run.Labels
import BulkIngest.Proofs.Run.Leftovers
import BulkIngest.Proofs.Run.Load
import BulkIngest.Proofs.Run.Refinement
import BulkIngest.Proofs.Simulation.Courses
import BulkIngest.Proofs.Simulation.Solo
import BulkIngest.Proofs.Sink.FileContent
import BulkIngest.Proofs.Sink.Verdicts
import BulkIngest.Proofs.Run.Calls
import BulkIngest.Proofs.Run.Sequential
import BulkIngest.Proofs.Run.Stopping
import BulkIngest.Proofs.Source.Formats
import BulkIngest.Proofs.Simulation.Transfer
import BulkIngest.Proofs.Program.FileToFile
import BulkIngest.Proofs.Retry.Delays
import BulkIngest.Proofs.Sink.GeneratedIds
import BulkIngest.Proofs.Sink.Replay
import BulkIngest.Proofs.Batching.Greedy
import BulkIngest.Proofs.Sink.Reference
import BulkIngest.Proofs.Progress.Window
import BulkIngest.Proofs.Text.Grouping
import BulkIngest.Proofs.Retry.Counter
import BulkIngest.Proofs.Program.Refusals
import BulkIngest.Proofs.Sink.Decoding
