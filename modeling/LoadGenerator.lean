import LoadGenerator.Host.Bench
import LoadGenerator.Main
import LoadGenerator.Proofs.Distribution
import LoadGenerator.Proofs.Shutdown
import LoadGenerator.Proofs.Stream
import LoadGenerator.Proofs.Attempts
import LoadGenerator.Proofs.ReadyQueue
import LoadGenerator.Proofs.Readiness
import LoadGenerator.Proofs.Stopping
import LoadGenerator.Proofs.Wakeups
import LoadGenerator.Proofs.Reaping
import LoadGenerator.Proofs.Reports
import LoadGenerator.Proofs.ServiceOrder
import LoadGenerator.Proofs.Driving
import LoadGenerator.Proofs.Confirmation
import LoadGenerator.Proofs.Saving
import LoadGenerator.Proofs.Spreading
import LoadGenerator.Proofs.Degrading
import LoadGenerator.Proofs.Seam
import LoadGenerator.Proofs.Draining
import LoadGenerator.Proofs.Decoding
import LoadGenerator.Proofs.Starting
import LoadGenerator.Proofs.Periods
import LoadGenerator.Proofs.Resolving
import LoadGenerator.Proofs.Bounds
import LoadGenerator.Proofs.Signals
import LoadGenerator.Proofs.Cursors
