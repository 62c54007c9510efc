import Overseer.Data.JsonReader
import Overseer.EventLog.Sink
import Overseer.Rehearsal.Basic
import Overseer.Main
import Overseer.Proofs.EventLog.Lines
import Overseer.Proofs.Lifecycle.Calls
import Overseer.Proofs.Precedence.Adjacency
import Overseer.Proofs.Schedule.Conservation
import Overseer.Proofs.Schedule.Delays
import Overseer.Proofs.Schedule.Delivery
import Overseer.Proofs.Schedule.Faults
import Overseer.Proofs.Schedule.Growth
import Overseer.Proofs.Schedule.Limit
import Overseer.Proofs.Schedule.Records
import Overseer.Proofs.Schedule.Running
import Overseer.Proofs.Schedule.Strays
import Overseer.Proofs.Schedule.Timing
import Overseer.Proofs.Supervisor.Replay
import Overseer.Proofs.Session.Account
import Overseer.Proofs.Rehearsal.Verdict
import Overseer.Proofs.Rehearsal.Drain
import Overseer.Proofs.Task.Refusal
import Overseer.Proofs.TaskFile.Document
